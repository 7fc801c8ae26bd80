import AdbHub.Lib.Mux.Answers
import AdbHub.Link.Delivery

/-!
# Requests to open a stream

Every `OpenPrivateStream` that the agent takes up, with its outcome, against the `OpenResult`s it
sends and the sessions that wait for them (`agent.rs`, `handle_daemon_message` and
`open_private_stream`; `daemon.rs`, `forward_private`).

* `OpenLog` — daemon and agent with the requests the agent has taken up, each with whether its
  upstream was connected, authenticated and given the service packet. No step reads the log.
* `AgentState.answers`, `AgentState.answering` — the answers sent, and the one in preparation.
* **`requests_answered_iff`** — when the main loop is back in its loop it has sent exactly one
  answer for each request, and nobody waits for an answer that is not on its way, iff the service
  packet was never refused by an upstream.
-/

namespace AdbHub

open Lib

/-! ## Answers -/

/-- A message as an answer: the stream it is for, and whether it is accepted. -/
def IpcMessage.answer : IpcMessage → Option (UInt32 × Bool)
  | .openResult m => some (m.streamId, m.ok)
  | _ => none

/-- A message as a request that has come to nothing yet. -/
def IpcMessage.asks : IpcMessage → Option (UInt32 × Bool)
  | .openPrivateStream m => some (m.streamId, false)
  | _ => none

namespace AgentState

/-- The answers that were sent. -/
def answers (a : AgentState) : List (UInt32 × Bool) :=
  a.wire.sent.filterMap fun p => p.1.2.answer

/-- The answer the main loop prepares or writes. -/
def answering (a : AgentState) : Option (UInt32 × Bool) :=
  match a.main with
  | .want msg _ => msg.answer
  | .writing _ => a.wire.message.bind fun p => p.2.answer
  | .opening req _ => some (req.streamId, false)
  | _ => none

/-- The main loop does not fail to write. -/
def WritesSucceed (json : SerdeJson) (a : AgentState) : AgentTaskEvent → Prop
  | .writeError => a.holder ≠ some .main
  | .begin .main => (a.wanted .main).all (fun msg => (frameOf json msg).isOk) = true
  | _ => True

instance (json : SerdeJson) (a : AgentState) (e : AgentTaskEvent) :
    Decidable (a.WritesSucceed json e) :=
  match e with
  | .writeError => inferInstanceAs (Decidable (_ ≠ _))
  | .begin .main => inferInstanceAs (Decidable (_ = true))
  | .begin .poller | .begin (.task _) | .put _ | .publish _ _ | .publishFails | .poll _ _
  | .pollFails | .receive _ | .connectFails _ | .authFails _ | .serviceFails | .upstreamReady
  | .spawn _ | .room | .stop | .upstreamData _ _ | .upstreamEnd _ | .recv _ | .upWritten _
  | .upFailed _ | .recvClosed _ | .remove _ => inferInstanceAs (Decidable True)

variable {json : SerdeJson} {a a' u : AgentState} {e : AgentTaskEvent} {w : Writer} {r : Request}
  {id : UInt32} {msg : IpcMessage} {k n : ℕ}

/-! ## One step of the agent -/

/-- A step that leaves the main loop and its message alone. -/
theorem answering_aside (hs : a.Steady r id) (hmain : a'.main = a.main)
    (hcurrent : ∀ msg, a.wire.message = some (.main, msg) → a'.wire.message = a.wire.message) :
    a'.answering = a.answering := by
  unfold answering
  rw [hmain]
  have hserves := hs.2
  cases hm : a.main with
  | writing after =>
      rw [hm] at hserves
      obtain ⟨msg, hmsg, -⟩ := hserves
      simp only
      rw [hcurrent msg hmsg]
  | _ => rfl

theorem answers_congr (h : a'.wire.sent = a.wire.sent) : a'.answers = a.answers := by
  unfold answers
  rw [h]

/-- After a write the main loop prepares no answer. -/
theorem answering_afterWrite_main {after : MainAfter} (hmain : a.main = .writing after)
    (ok : Bool) : (a.afterWrite .main ok).answering = none := by
  have hafter : (a.afterWrite .main ok).main = (a.afterMain after ok).main := by
    simp [afterWrite, hmain]
  unfold answering
  rw [hafter]
  cases after <;> cases ok <;> rfl

/-- What the poller and the stream tasks write is no answer. -/
theorem answer_of_stands (h : a.Stands msg w) (hw : w ≠ .main) : msg.answer = none := by
  cases w with
  | main => exact absurd rfl hw
  | poller =>
      have hnone : msg.streamId? = none := h
      cases msg <;> first | rfl | cases hnone
  | task j =>
      rcases h with ⟨toUp, data, -, rfl⟩ | ⟨-, rfl⟩
      · rfl
      · rfl

/-- The answers with the one in preparation are the same after a step. -/
def SameAnswers (a a' : AgentState) : Prop :=
  a'.answers ++ a'.answering.toList = a.answers ++ a.answering.toList

theorem sameAnswers_aside (hs : a.Steady r id) (hmain : a'.main = a.main)
    (hcurrent : ∀ msg, a.wire.message = some (.main, msg) → a'.wire.message = a.wire.message)
    (hsent : a'.wire.sent = a.wire.sent) : a.SameAnswers a' := by
  rw [SameAnswers, answering_aside hs hmain hcurrent, answers_congr hsent]

/-- A write of the poller or of a task begins, or fails at once. -/
theorem sameAnswers_begin (hs : a.Steady r id) (h : u.beginWrite json w msg = some a')
    (hw : w ≠ .main) (hmain : u.main = a.main) (hwire : u.wire = a.wire) : a.SameAnswers a' := by
  have hfree : a.wire.message = none := hwire ▸ free_of_beginWrite h
  rcases beginWrite_eq_some h with ⟨err, -, rfl⟩ | ⟨frame, wire, -, hstart, rfl⟩
  · refine sameAnswers_aside hs ((afterWrite_main hw false).trans hmain) ?_ ?_
    · intro m hm
      rw [hfree] at hm
      cases hm
    · rw [afterWrite_wire, hwire]
  · obtain ⟨-, -, rfl⟩ := FrameWriter.start_eq_some hstart
    refine sameAnswers_aside hs hmain ?_ (by rw [← hwire])
    intro m hm
    rw [hfree] at hm
    cases hm

/-- The main loop starts to write. -/
theorem sameAnswers_beginMain {after : MainAfter} (hmain : a.main = .want msg after)
    (h : { a with main := .writing after }.beginWrite json .main msg = some a')
    (hok : (frameOf json msg).isOk = true) : a.SameAnswers a' := by
  rcases beginWrite_eq_some h with ⟨err, herr, rfl⟩ | ⟨frame, wire, -, hstart, rfl⟩
  · rw [herr] at hok
    cases hok
  · obtain ⟨-, -, rfl⟩ := FrameWriter.start_eq_some hstart
    simp [SameAnswers, answers, answering, hmain, ControlSocket.message]

/-- A piece of a frame goes out. -/
theorem sameAnswers_put (hs : a.Steady r id) (h : a.step json (.put n) = some a') :
    a.SameAnswers a' := by
  obtain ⟨p, wire, hp, ⟨-, hsame, hsent, rfl⟩ | ⟨-, hfree, hsent, rfl⟩⟩ := put_cases h
  · exact sameAnswers_aside hs rfl (fun _ _ => hsame) hsent
  · have hmessage := message_of_current hp
    have hstands := hs.1.frame p.message.1 p.message.2 hmessage
    have hanswers : (AgentState.afterWrite { a with wire := wire } p.message.1 true).answers =
        a.answers ++ p.message.2.answer.toList := by
      have hlast : [(p.message, p.done ++ p.todo)].filterMap (fun p => p.1.2.answer) =
          p.message.2.answer.toList := by
        cases hanswer : p.message.2.answer <;> simp [hanswer]
      unfold answers
      rw [afterWrite_wire, hsent, List.filterMap_append, hlast]
    by_cases hw : p.message.1 = .main
    · rw [hw] at hstands
      obtain ⟨after, hafter⟩ := hstands
      have hanswering : a.answering = p.message.2.answer := by
        simp [answering, hafter, hmessage]
      have hdone : (AgentState.afterWrite { a with wire := wire } p.message.1 true).answering =
          none := by
        rw [hw]
        exact answering_afterWrite_main (a := { a with wire := wire }) hafter true
      rw [SameAnswers, hanswers, hdone, hanswering]
      simp
    · have hnone := answer_of_stands hstands hw
      have hanswering : (AgentState.afterWrite { a with wire := wire } p.message.1 true).answering =
          a.answering := by
        refine answering_aside hs ((afterWrite_main hw true).trans rfl) fun m hm => ?_
        rw [hmessage] at hm
        exact absurd (congrArg Prod.fst (Option.some.inj hm)) hw
      rw [SameAnswers, hanswers, hanswering, hnone]
      simp

/-- A write that is not the main loop's fails, or is dropped. -/
theorem sameAnswers_drop (hs : a.Steady r id) (hmain : a'.main = a.main) (hw : w ≠ .main)
    (hwire : a'.wire = (a.dropWrite w).wire) : a.SameAnswers a' := by
  refine sameAnswers_aside hs hmain (fun m hm => ?_) ?_
  · rw [hwire, message_dropWrite, if_neg]
    rw [holder_eq, hm]
    rintro heq
    exact hw (Option.some.inj heq).symm
  · rw [hwire]
    unfold dropWrite
    split_ifs <;> rfl

/-- The main loop moves between places where it prepares no answer, or the same one. -/
theorem sameAnswers_main {m : MainLoop} {x : Option (UInt32 × Bool)} (ha : a.answering = x)
    (hmain : a'.main = m) (ha' : ∀ u : AgentState, u.main = m → u.answering = x)
    (hsent : a'.wire.sent = a.wire.sent) : a.SameAnswers a' := by
  rw [SameAnswers, answers_congr hsent, ha, ha' a' hmain]

/-- A step of the agent by which no request is taken up or comes to something, and that meets no
failure to write the service packet, keeps the answers. -/
theorem answers_step (hs : a.Steady r id) (h : a.step json e = some a')
    (hok : a.WritesSucceed json e) (hreceive : ∀ msg, e ≠ .receive msg)
    (hservice : e ≠ .serviceFails)
    (hready : e ≠ .upstreamReady) : a.SameAnswers a' := by
  cases moves_of_step h with
  | @beginMain msg after _ hmain hbegin =>
      refine sameAnswers_beginMain hmain hbegin ?_
      simpa [WritesSucceed, wanted, hmain] using hok
  | beginPoller hpoller hbegin => exact sameAnswers_begin hs hbegin (by simp) rfl rfl
  | beginData htask hbegin => exact sameAnswers_begin hs hbegin (by simp) rfl rfl
  | beginClose htask hbegin => exact sameAnswers_begin hs hbegin (by simp) rfl rfl
  | put | putLast => exact sameAnswers_put hs h
  | @writeError w hw =>
      have hne : w ≠ .main := by
        rintro rfl
        exact hok hw
      refine sameAnswers_drop hs ?_ hne (by rw [afterWrite_wire])
      obtain ⟨wire, hwire⟩ := dropWrite_eq a w
      rw [afterWrite_main hne, hwire]
  | publish hmain =>
      have hnone : a.answering = none := by simp [answering, hmain]
      exact sameAnswers_main hnone rfl (fun u hu => by rw [answering, hu]; rfl) rfl
  | publishFails hmain =>
      have hnone : a.answering = none := by simp [answering, hmain]
      exact sameAnswers_main hnone rfl (fun u hu => by rw [answering, hu]; rfl) rfl
  | poll | pollFails => exact sameAnswers_aside hs rfl (fun _ _ => rfl) rfl
  | receive => exact absurd rfl (hreceive _)
  | @connectFails err req route hmain =>
      have hnow : a.answering = some (req.streamId, false) := by simp [answering, hmain]
      exact sameAnswers_main hnow rfl (fun u hu => by rw [answering, hu]; rfl) rfl
  | @authFails err req route hmain =>
      have hnow : a.answering = some (req.streamId, false) := by simp [answering, hmain]
      exact sameAnswers_main hnow rfl (fun u hu => by rw [answering, hu]; rfl) rfl
  | serviceFails => exact absurd rfl hservice
  | upstreamReady => exact absurd rfl hready
  | spawn hmain =>
      have hnone : a.answering = none := by simp [answering, hmain]
      exact sameAnswers_main hnone rfl (fun u hu => by rw [answering, hu]) rfl
  | roomClosed hmain | room hmain =>
      have hnone : a.answering = none := by simp [answering, hmain]
      exact sameAnswers_main hnone rfl (fun u hu => by rw [answering, hu]) rfl
  | stop hmain =>
      have hnone : a.answering = none := by simp [answering, hmain]
      refine sameAnswers_main hnone rfl (fun u hu => by rw [answering, hu]) ?_
      show (a.dropWrite .poller).wire.sent = a.wire.sent
      unfold dropWrite
      split_ifs <;> rfl
  | upstreamData | upstreamEnd | recv | upWritten | remove =>
      exact sameAnswers_aside hs rfl (fun _ _ => rfl) rfl
  | @upFailed k | @recvClosed k =>
      obtain ⟨wire, hwire⟩ := dropWrite_eq a (.task k)
      exact sameAnswers_drop hs (w := .task k) (by rw [hwire]; rfl) (by simp) rfl

/-- The upstream of the request that was taken up got the service packet. -/
theorem answers_ready (h : a.step json .upstreamReady = some a') : ∃ id,
    a.answering = some (id, false) ∧ a'.answering = some (id, true) ∧ a'.answers = a.answers := by
  cases moves_of_step h with
  | @upstreamReady req route hmain =>
      exact ⟨req.streamId, by simp [answering, hmain], rfl, rfl⟩

/-- Writing the service packet failed. -/
theorem answers_serviceFails (h : a.step json .serviceFails = some a') :
    (∃ id, a.answering = some (id, false)) ∧ a'.main = .idle ∧ a'.answers = a.answers := by
  cases moves_of_step h with
  | @serviceFails req route hmain => exact ⟨⟨req.streamId, by simp [answering, hmain]⟩, rfl, rfl⟩

/-- A message is taken up. -/
theorem answers_receive (h : a.step json (.receive msg) = some a') :
    a.answering = none ∧ a'.answering = msg.asks ∧ a'.answers = a.answers := by
  cases moves_of_step h with
  | receive hmain =>
      have hidle : a.answering = none := by simp [answering, hmain]
      refine ⟨hidle, ?_, answers_congr (by rw [receive_wire])⟩
      cases msg with
      | ping => rfl
      | openPrivateStream req =>
          unfold AgentState.receive
          dsimp only
          split <;> rfl
      | streamData id data =>
          unfold AgentState.receive
          dsimp only
          split
          · unfold offer
            split_ifs
            · exact hidle
            · rfl
            · exact hidle
          · exact hidle
      | streamClose c => exact hidle
      | _ => exact hidle

end AgentState

/-! ## The log -/

/-- Daemon and agent, with a log of the requests to open a stream. -/
structure OpenLog where
  link : Link
  /-- The stream of every request the agent took up, and whether its upstream was connected,
  authenticated and given the service packet. -/
  asked : List (UInt32 × Bool) := []

/-- The log after a step. -/
def Link.noteAsked (l : Link) (asked : List (UInt32 × Bool)) : LinkEvent → List (UInt32 × Bool)
  | .toAgent => asked ++ (l.toAgent.head?.bind fun p => p.2.asks).toList
  | .agent .upstreamReady => asked.dropLast ++ (asked.getLast?.map fun p => (p.1, true)).toList
  | _ => asked

/-- The agent is done with the request of a session. -/
def Link.Decided (l : Link) (k : ℕ) : Prop :=
  l.request k ≠ .unsent ∧ l.request k ≠ .sent ∧ l.request k ≠ .taken

namespace OpenLog

/-- One step. -/
def step (json : SerdeJson) (s : OpenLog) (e : LinkEvent) : Option OpenLog :=
  (s.link.step json e).map fun l => ⟨l, s.link.noteAsked s.asked e⟩

/-- Daemon and agent with the log as a machine. -/
def machine (json : SerdeJson) (token : String) : Machine OpenLog LinkEvent where
  init := { link := (Link.machine json token).init }
  step := step json

/-- The main loop of the agent does not fail to write to the control socket. -/
def WritesSucceed (json : SerdeJson) (s : OpenLog) : LinkEvent → Prop
  | .agent e => s.link.agent.WritesSucceed json e
  | _ => True

instance (json : SerdeJson) (s : OpenLog) (e : LinkEvent) : Decidable (s.WritesSucceed json e) :=
  match e with
  | .agent e => inferInstanceAs (Decidable (s.link.agent.WritesSucceed json e))
  | .daemon _ | .toDaemon | .toAgent | .clientPiece _ _ | .upstreamPiece _ _ =>
      inferInstanceAs (Decidable True)

/-- Every request has its answer. -/
structure Answered (s : OpenLog) : Prop where
  /-- One answer for each request, in order, and accepted iff the upstream is ready. -/
  once : s.link.agent.main = .idle → s.link.agent.answers = s.asked
  /-- Who still waits for the answer to a decided request has it on the way. -/
  waiters : ∀ k, s.link.Decided k →
    s.link.daemon.openWaiters (s.link.daemon.streamId k) = some k →
      ∃ p ∈ s.link.toDaemon, ∃ ok, p.2.answer = some (s.link.daemon.streamId k, ok)

variable {json : SerdeJson} {token : String} {s t : OpenLog} {e : LinkEvent}
  {events : List LinkEvent}

/-- The log is what was answered and what is being answered. -/
structure Logged (s : OpenLog) : Prop where
  sound : s.link.Sound
  traced : s.link.mux.Traced
  answered : s.link.mux.Answered
  log : s.asked = s.link.agent.answers ++ s.link.agent.answering.toList

theorem logged_init : (machine json token).init.Logged where
  sound := Link.sound_init json token
  traced := Mux.traced_start 0
  answered := Mux.answered_start 0
  log := rfl

/-- Only a failed write of the main loop drops a request. -/
theorem main_of_drop {ok : Bool} {p : Writer × IpcMessage}
    (h : Link.writeAction ok p = some .drop) : ok = false ∧ p.1 = .main := by
  unfold Link.writeAction at h
  cases ok with
  | false =>
      split at h
      · exact ⟨rfl, rfl⟩
      all_goals cases h
  | true =>
      split at h
      · rw [if_pos rfl] at h
        split_ifs at h <;> cases h
      all_goals cases h

/-- While every write of the main loop succeeds, a request is dropped only where the service packet
cannot be written. -/
theorem not_drop (hok : s.WritesSucceed json e) (he : e ≠ .agent .serviceFails) :
    Link.muxAction json s.link e ≠ some .drop := by
  intro h
  cases e with
  | daemon e =>
      replace h : Link.daemonAction s.link.daemon e = some .drop := h
      unfold Link.daemonAction at h
      split at h
      all_goals first | cases h | (split at h <;> cases h)
  | agent e =>
      replace h : Link.agentAction json s.link.agent e = some .drop := h
      unfold Link.agentAction at h
      split at h
      · rename_i w
        obtain ⟨msg, hmsg, hwrite⟩ := Option.bind_eq_some_iff.mp h
        split at hwrite
        · rename_i err herr
          obtain rfl : w = Writer.main := (main_of_drop hwrite).2
          have hok : (s.link.agent.wanted .main).all (fun msg => (frameOf json msg).isOk) = true :=
            hok
          rw [hmsg, Option.all_some, herr] at hok
          cases hok
        · cases hwrite
      · obtain ⟨p, -, h⟩ := Option.bind_eq_some_iff.mp h
        cases (main_of_drop h).1
      · obtain ⟨p, hp, h⟩ := Option.bind_eq_some_iff.mp h
        refine hok ?_
        rw [AgentState.holder_eq, hp, Option.map_some, (main_of_drop h).2]
      · exact he rfl
      all_goals cases h
  | toDaemon | toAgent =>
      obtain ⟨p, -, h⟩ := Option.bind_eq_some_iff.mp h
      obtain ⟨q, -, hq⟩ := Option.map_eq_some_iff.mp h
      cases hq
  | clientPiece | upstreamPiece => cases h

/-- The log stays what was answered and what is being answered. -/
theorem log_step (hs : s.Logged) (h : s.step json e = some t) (hok : s.WritesSucceed json e)
    (he : e ≠ .agent .serviceFails) :
    t.asked = t.link.agent.answers ++ t.link.agent.answering.toList := by
  obtain ⟨l, hl, rfl⟩ := Option.map_eq_some_iff.mp h
  have hlog := hs.log
  cases e with
  | daemon e =>
      simp only [Link.step] at hl
      split_ifs at hl
      obtain ⟨d, -, rfl⟩ := Option.map_eq_some_iff.mp hl
      exact hlog
  | toDaemon =>
      simp only [Link.step] at hl
      split at hl
      · cases hl
      · obtain ⟨d, -, rfl⟩ := Option.map_eq_some_iff.mp hl
        exact hlog
  | clientPiece | upstreamPiece =>
      simp only [Link.step] at hl
      split at hl
      · obtain rfl := Option.some.inj hl
        exact hlog
      · cases hl
  | toAgent =>
      simp only [Link.step] at hl
      split at hl
      · cases hl
      · rename_i k msg rest hup
        obtain ⟨a, ha, rfl⟩ := Option.map_eq_some_iff.mp hl
        obtain ⟨hnone, hasks, hanswers⟩ := AgentState.answers_receive ha
        have hagent : ({ s.link with toAgent := rest }.afterTaken k msg a).agent = a := by
          cases msg <;> rfl
        rw [hagent, hasks, hanswers]
        show s.asked ++ (s.link.toAgent.head?.bind fun p => p.2.asks).toList = _
        rw [hup, hlog, hnone]
        simp
  | agent e =>
      simp only [Link.step] at hl
      split_ifs at hl with hreceive
      obtain ⟨a, ha, rfl⟩ := Option.map_eq_some_iff.mp hl
      by_cases hready : e = .upstreamReady
      · subst hready
        obtain ⟨id, hnow, hthen, hanswers⟩ := AgentState.answers_ready ha
        show s.asked.dropLast ++ (s.asked.getLast?.map fun p => (p.1, true)).toList =
          a.answers ++ a.answering.toList
        rw [hlog, hnow, hthen, hanswers]
        simp
      · have hsame := AgentState.answers_step hs.sound.steady ha hok
          (fun msg hmsg => hreceive (by rw [hmsg]; rfl)) (fun hservice => he (by rw [hservice]))
          hready
        have hnote : s.link.noteAsked s.asked (.agent e) = s.asked := by
          cases e <;> first | rfl | exact absurd rfl hready
        show s.link.noteAsked s.asked (.agent e) = a.answers ++ a.answering.toList
        rw [hnote, hlog]
        exact hsame.symm

theorem logged_step (hs : s.Logged) (h : s.step json e = some t) (hok : s.WritesSucceed json e)
    (he : e ≠ .agent .serviceFails) : t.Logged := by
  have hlog := log_step hs h hok he
  obtain ⟨l, hl, rfl⟩ := Option.map_eq_some_iff.mp h
  rcases Link.mux_step hs.sound hl with ⟨-, hsame⟩ | ⟨b, hb, hstep⟩
  · refine ⟨Link.sound_step hs.sound hl, ?_, ?_, hlog⟩
    · rw [hsame]
      exact hs.traced
    · rw [hsame]
      exact hs.answered
  · have hdrop : b ≠ .drop := by
      rintro rfl
      exact not_drop hok he hb
    exact ⟨Link.sound_step hs.sound hl, hs.traced.step hstep,
      hs.answered.step hs.traced hstep hdrop, hlog⟩

/-- An answer of the library that is on its way is a message that is. -/
theorem exists_answer {l : Link} {x : UInt32} (h : l.mux.ResultOnWay x) :
    ∃ p ∈ l.toDaemon, ∃ ok, p.2.answer = some (x, ok) := by
  obtain ⟨w, ok, hmem⟩ := h
  obtain ⟨p, hp, hpacket⟩ := List.mem_filterMap.mp hmem
  obtain ⟨q, hq, heq⟩ := Option.map_eq_some_iff.mp hpacket
  obtain ⟨-, rfl⟩ := Prod.mk.inj heq
  obtain ⟨w', msg⟩ := p
  refine ⟨(w', msg), hp, ok, ?_⟩
  cases msg with
  | openResult m =>
      obtain ⟨rfl, rfl⟩ := Packet.result.inj (Option.some.inj hq)
      rfl
  | openPrivateStream | streamData | streamClose => cases Option.some.inj hq
  | _ => cases hq

theorem Logged.answers (hs : s.Logged) : s.Answered where
  once hidle := by
    have hnone : s.link.agent.answering = none := by
      rw [AgentState.answering, hidle]
    rw [hs.log, hnone, Option.toList_none, List.append_nil]
  waiters k hk hwaits := exists_answer (hs.answered k hk hwaits)

/-- Where the service packet cannot be written, the request stays without an answer. -/
theorem not_answered_of_serviceFails (hs : s.Logged)
    (h : s.step json (.agent .serviceFails) = some t) : ¬ t.Answered := by
  intro ht
  obtain ⟨l, hl, rfl⟩ := Option.map_eq_some_iff.mp h
  obtain ⟨a, ha, rfl⟩ := Option.map_eq_some_iff.mp hl
  obtain ⟨⟨id, hnow⟩, hidle, hanswers⟩ := AgentState.answers_serviceFails ha
  have honce : a.answers = s.asked := ht.once hidle
  rw [hanswers, hs.log, hnow] at honce
  simp at honce

/-- **Requests and answers, exactly.** In every run of daemon and agent, with any requests and any
outcomes of opening their streams, in which the main loop of the agent does not fail to write to the
control socket: whenever it is back in its loop it has sent one `OpenResult` for each request it has
taken up, in their order, accepted iff the upstream was connected, authenticated and given the
service packet; and every session that waits for the `OpenResult` of a decided request has it on the
way; iff the service packet could be written to every upstream that was connected and authenticated.
Source: `agent.rs`, `open_private_stream`; `daemon.rs`, `forward_private` -/
theorem requests_answered_iff (h : (machine json token).Run (WritesSucceed json) events s) :
    (machine json token).Always Answered events ↔ ∀ e ∈ events, e ≠ .agent .serviceFails := by
  suffices hboth : ((machine json token).Always Answered events ↔
      ∀ e ∈ events, e ≠ .agent .serviceFails) ∧
        ((∀ e ∈ events, e ≠ .agent .serviceFails) → s.Logged) from hboth.1
  induction h with
  | init =>
      refine ⟨iff_of_true (Machine.always_nil_iff.mpr logged_init.answers) ?_, fun _ => logged_init⟩
      intro e he
      cases he
  | @snoc events s t e hr hok hs ih =>
      obtain ⟨hiff, hlogged⟩ := ih
      have hsplit : (∀ e' ∈ events ++ [e], e' ≠ .agent .serviceFails) ↔
          (∀ e' ∈ events, e' ≠ .agent .serviceFails) ∧ e ≠ .agent .serviceFails := by
        simp [or_imp, forall_and]
      rw [Machine.always_snoc_iff (hr.snoc hok hs).reaches, hiff, hsplit]
      refine ⟨and_congr_right fun hbefore => ⟨?_, ?_⟩, ?_⟩
      · rintro ht rfl
        exact not_answered_of_serviceFails (hlogged hbefore) hs ht
      · intro he
        exact (logged_step (hlogged hbefore) hs hok he).answers
      · rintro ⟨hbefore, he⟩
        exact logged_step (hlogged hbefore) hs hok he

/-- A stream is opened, and the request for it answered. -/
theorem opened_stream_answered :
    (machine AgentState.officeJson "t0").Always Answered Link.openedStream := by
  obtain ⟨s, hs⟩ : ∃ s, (machine AgentState.officeJson "t0").Run
      (WritesSucceed AgentState.officeJson) Link.openedStream s :=
    Machine.exists_run_of_checks (by decide +kernel)
  exact (requests_answered_iff hs).mpr (by simp [Link.openedStream])

/-- The upstream of a session takes the connection and closes it before it has got the service
packet. -/
def closedUpstream : List LinkEvent :=
  [.agent (.begin .main), .agent (.put 77), .agent (.publish .empty AgentState.officeLists),
    .agent (.begin .main), .agent (.put 158), .toDaemon, .toDaemon,
    .daemon (.openSession 0 "office:ABC" "shell:ls"), .daemon (.insertTx 0),
    .daemon (.insertWaiter 0), .daemon (.openWritten 0 true), .toAgent, .agent .serviceFails]

/-- The session waits, and no answer comes. -/
theorem closed_upstream_unanswered :
    ¬ ∀ (json : SerdeJson) (token : String) (events : List LinkEvent) (s : OpenLog),
      (machine json token).Run (WritesSucceed json) events s →
        (machine json token).Always Answered events := by
  intro hall
  have hstate : ((machine AgentState.officeJson "t0").exec
      (machine AgentState.officeJson "t0").init closedUpstream).map (fun s =>
        (decide (s.link.agent.main = .idle), s.link.agent.answers.length, s.asked.length,
          s.link.daemon.openWaiters 1)) = some (true, 0, 1, some 0) := by decide +kernel
  obtain ⟨t, ht, hstate⟩ := Option.map_eq_some_iff.mp hstate
  simp only [Prod.mk.injEq, decide_eq_true_eq] at hstate
  obtain ⟨hidle, hanswers, hasked, -⟩ := hstate
  obtain ⟨s, hs⟩ : ∃ s, (machine AgentState.officeJson "t0").Run
      (WritesSucceed AgentState.officeJson) closedUpstream s :=
    Machine.exists_run_of_checks (by decide +kernel)
  obtain rfl := hs.reaches.unique (Machine.reaches_of_exec ht)
  have honce := ((hall _ _ _ _ hs).last hs.reaches).once hidle
  rw [← honce, hanswers] at hasked
  cases hasked

end OpenLog

end AdbHub
