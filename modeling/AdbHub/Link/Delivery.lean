import AdbHub.Link.Lines
import AdbHub.Link.Tasks

/-!
# What the streams of an agent connection deliver

* `muxSimulation` — every step of daemon and agent is a step of the library's machine, or none.
* `got_prefix_sent` — between daemon and agent nothing is reordered, repeated or sent to another
  stream.
* **`relayed_in_order`** — what a client gets is a prefix of what the agent read from the upstream
  of its stream, and what that upstream gets is a prefix of what was read from the client.
* **`reused_on_the_way`** — a stream id that neither side holds may still be on its way.
-/

namespace AdbHub

open Lib

namespace Link

variable {json : SerdeJson} {token : String} {s t : Link} {k : ℕ}

/-! ## The simulation -/

/-- What a step is to the library. -/
def muxAction (json : SerdeJson) (s : Link) : LinkEvent → Option (MuxAction UInt32 UInt8)
  | .daemon e => daemonAction s.daemon e
  | .agent e => agentAction json s.agent e
  | .toDaemon => s.toDaemon.head?.bind fun p => p.2.packet.map fun _ => .takeDown
  | .toAgent => s.toAgent.head?.bind fun p => p.2.packet.map fun _ => .takeUp
  | _ => none

/-- The library mirrors every step. -/
theorem mux_step {e : LinkEvent} (hs : s.Sound) (h : s.step json e = some t) :
    MuxStep (muxAction json s e) s t := by
  cases e with
  | daemon e =>
      simp only [step] at h
      split_ifs at h with he
      obtain ⟨d, hd, rfl⟩ := Option.map_eq_some_iff.mp h
      exact muxStep_daemon hs (by simpa using he) hd
  | agent e =>
      simp only [step] at h
      split_ifs at h with he
      obtain ⟨a, ha, rfl⟩ := Option.map_eq_some_iff.mp h
      exact muxStep_agent hs (by simpa using he) ha
  | toDaemon =>
      simp only [step] at h
      split at h
      · simp at h
      · rename_i w msg rest hdown
        obtain ⟨d, hd, rfl⟩ := Option.map_eq_some_iff.mp h
        simp only [ConnStreams.step] at hd
        split_ifs at hd
        obtain rfl := Option.some.inj hd
        have hact : muxAction json s .toDaemon = msg.packet.map fun _ => .takeDown := by
          simp [muxAction, hdown]
        rw [hact]
        exact muxStep_toDaemon hdown
  | toAgent =>
      simp only [step] at h
      split at h
      · simp at h
      · rename_i k msg rest hup
        obtain ⟨a, ha, rfl⟩ := Option.map_eq_some_iff.mp h
        simp only [AgentState.step] at ha
        split_ifs at ha with hmain
        obtain rfl := Option.some.inj ha
        have hact : muxAction json s .toAgent = msg.packet.map fun _ => .takeUp := by
          simp [muxAction, hup]
        rw [hact]
        exact muxStep_toAgent hs hup hmain
  | clientPiece k n | upstreamPiece k n =>
      simp only [step] at h
      split at h
      · obtain rfl := Option.some.inj h
        exact .inl ⟨rfl, rfl⟩
      · simp at h

/-- Daemon and agent refine the library's sessions and workers. -/
def muxSimulation (json : SerdeJson) (token : String) :
    Simulation (machine json token) (Mux.machine UInt8 (0 : UInt32)) where
  abs := mux
  act := muxAction json
  inv := Sound
  inv_init := sound_init json token
  inv_step := sound_step
  abs_init := mux_init
  mirrors := mux_step

/-! ## Ids that are unused -/

theorem streamId_of_packet {msg : IpcMessage} {p : Packet UInt32 UInt8} (h : msg.packet = some p) :
    msg.streamId? = some p.id := by
  cases msg <;> simp [IpcMessage.packet] at h <;> subst h <;> rfl

/-- The agent holds the id of the request it is busy with. -/
theorem held_of_busy (hs : s.Sound) (hbusy : ¬ s.mux.Idle) :
    s.HeldByAgent (s.daemon.streamId s.serving) := by
  have hfree : ¬ (s.request s.serving).Free := hbusy
  have hserves := hs.steady.2
  cases hmain : s.agent.main with
  | want msg after =>
      rw [hmain] at hserves
      cases msg with
      | openResult m =>
          refine .inr (.inr (.inl ?_))
          rw [hmain, ← hserves.2.1]
          rfl
      | _ => exact absurd hserves.2.2 hfree
  | writing after =>
      rw [hmain] at hserves
      obtain ⟨msg, hmsg, hans⟩ := hserves
      cases msg with
      | openResult m =>
          obtain ⟨p, hp, hpm⟩ := Option.map_eq_some_iff.mp hmsg
          refine .inr (.inr (.inr ⟨p, hp, ?_⟩))
          rw [hpm, ← hans.2.1]
          rfl
      | _ => exact absurd hans.2.2 hfree
  | opening req route =>
      rw [hmain] at hserves
      refine .inr (.inr (.inl ?_))
      rw [hmain, ← hserves.2]
      rfl
  | inserting id =>
      rw [hmain] at hserves
      refine .inr (.inr (.inl ?_))
      rw [hmain, ← hserves.2]
      rfl
  | publishing | idle | sending | stopped =>
      rw [hmain] at hserves
      exact absurd hserves hfree

theorem unused_of_unheld {x : UInt32} (hs : s.Sound) (hdaemon : ¬ s.HeldByDaemon x)
    (hagent : ¬ s.HeldByAgent x) (hway : ¬ s.OnTheWay x) : s.mux.Unused x where
  session k hlive hid := by
    refine hdaemon (.inr (.inr ⟨k, ?_, ?_, hid⟩))
    · intro htask
      exact hlive.1 (by simp [mux, htask, ForwardPrivate.phase])
    · intro htask
      exact hlive.2 (by simp [mux, htask, ForwardPrivate.phase])
  table := by
    by_contra h
    exact hdaemon (.inl h)
  waiters := by
    by_contra h
    exact hdaemon (.inr (.inl h))
  busy hbusy hid := by
    have hheld := held_of_busy hs hbusy
    rw [show s.daemon.streamId s.serving = x from hid] at hheld
    exact hagent hheld
  worker j hlive hid := by
    have hlive : (s.agent.task j).phase = .live := hlive
    refine hagent (.inr (.inl ⟨j, ?_, ?_, hid⟩))
    · intro htask
      rw [htask] at hlive
      cases hlive
    · intro htask
      rw [htask] at hlive
      cases hlive
  workerTable := by
    by_contra h
    exact hagent (.inl h)
  up p hp hid := by
    obtain ⟨q, hq, hqp⟩ := List.mem_filterMap.mp hp
    obtain ⟨p', hp', rfl⟩ := Option.map_eq_some_iff.mp hqp
    exact hway (.inl ⟨q, hq, by rw [streamId_of_packet hp', ← hid]⟩)
  down p hp hid := by
    obtain ⟨q, hq, hqp⟩ := List.mem_filterMap.mp hp
    obtain ⟨p', hp', rfl⟩ := Option.map_eq_some_iff.mp hqp
    exact hway (.inr ⟨q, hq, by rw [streamId_of_packet hp', ← hid]⟩)

/-- The end of a write takes no id and spawns nothing. -/
theorem entry_of_write {ok : Bool} {p : Writer × IpcMessage} {b : MuxAction UInt32 UInt8}
    (h : writeAction ok p = some b) : (∀ k x, b ≠ .take k x) ∧ ∀ j, b ≠ .spawn j := by
  unfold writeAction at h
  split at h
  · split_ifs at h <;> (obtain rfl := Option.some.inj h; simp)
  · split_ifs at h
    obtain rfl := Option.some.inj h
    simp
  · split_ifs at h <;> (obtain rfl := Option.some.inj h; simp)
  · cases h

/-- Only a session that opens takes an id, and only the agent spawns. -/
theorem entry_of_action {e : LinkEvent} {b : MuxAction UInt32 UInt8}
    (h : muxAction json s e = some b) :
    (∀ k x, b = .take k x → ∃ routeId service,
        e = .daemon (.openSession k routeId service) ∧ x = s.daemon.nextStreamId) ∧
      ∀ j, b = .spawn j → e = .agent (.spawn j) := by
  have hwrite : ∀ {ok p}, writeAction ok p = some b → (∀ k x, b = .take k x → ∃ routeId service,
        e = .daemon (.openSession k routeId service) ∧ x = s.daemon.nextStreamId) ∧
      ∀ j, b = .spawn j → e = .agent (.spawn j) := by
    intro ok p hp
    obtain ⟨htake, hspawn⟩ := entry_of_write hp
    exact ⟨fun k x hb => absurd hb (htake k x), fun j hb => absurd hb (hspawn j)⟩
  cases e with
  | daemon e =>
      simp only [muxAction] at h
      unfold daemonAction at h
      split at h
      case h_1 =>
        obtain rfl := Option.some.inj h
        simp
      case h_9 =>
        split at h
        · cases h
          simp
        · cases h
      all_goals cases h <;> simp
  | agent e =>
      simp only [muxAction] at h
      unfold agentAction at h
      split at h
      · obtain ⟨msg, -, hmsg⟩ := Option.bind_eq_some_iff.mp h
        split at hmsg
        · exact hwrite hmsg
        · cases hmsg
      · obtain ⟨p, -, hp⟩ := Option.bind_eq_some_iff.mp h
        exact hwrite hp
      · obtain ⟨p, -, hp⟩ := Option.bind_eq_some_iff.mp h
        exact hwrite hp
      all_goals cases h <;> simp
  | toDaemon | toAgent =>
      obtain ⟨p, -, hp⟩ := Option.bind_eq_some_iff.mp h
      obtain ⟨q, -, hq⟩ := Option.map_eq_some_iff.mp hp
      obtain rfl := hq
      simp
  | clientPiece | upstreamPiece => cases h

/-- Sessions that open only with unused ids take only unused ids. -/
theorem takesUnused {e : LinkEvent} {b : MuxAction UInt32 UInt8} (hs : s.Sound)
    (hc : s.OpensUnused e) (h : muxAction json s e = some b) : s.mux.TakesUnused b := by
  cases b with
  | take k x =>
      obtain ⟨routeId, service, rfl, rfl⟩ := (entry_of_action h).1 k x rfl
      exact unused_of_unheld hs hc.1.1 hc.1.2 hc.2
  | _ => trivial

/-- Nothing is reordered, repeated or sent to another stream. What a session got is a prefix of
what its stream task sent, and what a stream task got is a prefix of what its session sent; a
session without a stream task got nothing, and no stream task serves a session that was refused. -/
theorem got_prefix_sent {events : List LinkEvent}
    (h : (machine json token).Run OpensUnused events s) (k : ℕ) :
    (∀ j, s.request k = .served j → s.client.got k <+: s.upstream.sent j ∧
        s.upstream.got j <+: s.client.sent k ∧ s.daemon.failed k = none) ∧
      ((∀ j, s.request k ≠ .served j) → s.client.got k = []) := by
  obtain ⟨actions, hmux⟩ := (muxSimulation json token).run (D := Mux.TakesUnused)
    (fun s e b hs hc hb => takesUnused hs hc hb) h
  have hs : s.Sound := (muxSimulation json token).inv_of_run h
  obtain ⟨hserved, hnothing⟩ := Mux.got_prefix_sent hmux k
  refine ⟨fun j hj => ?_, hnothing⟩
  obtain ⟨hdown, hup, hgranted⟩ := hserved j hj
  refine ⟨hdown, hup, ?_⟩
  by_contra hfailed
  obtain ⟨o, ho, hno⟩ := hs.answered.refused k (.inr (.inr hfailed))
  refine hgranted ?_
  show (s.daemon.outcome k).map OpenOutcome.ok = some false
  rw [ho, ← hno]
  rfl

/-- **Every stream is relayed in order.** If every session opens with a stream id that neither side
holds and no message carries, then at every moment the bytes written to the client of a session are
a prefix of those the agent read from the upstream it opened for the request of the session, and the
bytes the agent wrote to that upstream after the service are a prefix of those read from the client;
the data of a stream is written to no client the request of which is served by no stream task.
Source: `daemon.rs`, `forward_private` and `agent_read_loop`, and `agent.rs`,
`handle_daemon_message` and `open_private_stream`. -/
theorem relayed_in_order {events : List LinkEvent}
    (h : (machine json token).Run OpensUnused events s) (k : ℕ) :
    (∀ j, s.request k = .served j →
        s.toClient k <+: s.upstream.read j ∧ s.upstream.written j <+: s.client.read k) ∧
      ((∀ j, s.request k ≠ .served j) → s.client.written k = []) := by
  obtain ⟨hs, hf⟩ := flows_of_reaches h.reaches
  obtain ⟨hserved, hnothing⟩ := got_prefix_sent h k
  refine ⟨fun j hj => ?_, fun hno => ?_⟩
  · obtain ⟨hdown, hup, hfailed⟩ := hserved j hj
    have hclient : s.toClient k = s.client.written k := by
      rw [toClient, hfailed]
      rfl
    rw [hclient]
    exact ⟨((hf.client.written k).trans hdown).trans (hf.upstream.sent j),
      ((hf.upstream.written j).trans hup).trans (hf.client.sent k)⟩
  · have hwritten := hf.client.written k
    rw [hnothing hno] at hwritten
    exact List.prefix_nil.mp hwritten

/-! ## Sessions and tasks that are not there -/

/-- The session a step opens. -/
def opens : LinkEvent → Option ℕ
  | .daemon (.openSession k _ _) => some k
  | _ => none

/-- The task a step spawns. -/
def spawns : LinkEvent → Option ℕ
  | .agent (.spawn j) => some j
  | _ => none

theorem phase_eq_absent {pc : ForwardPrivate} {asked : Bool} : pc.phase asked = .absent ↔ pc = .absent := by
  cases pc <;> cases asked <;> simp [ForwardPrivate.phase]

/-- A session that no step opens is not there. -/
theorem absent_session {events : List LinkEvent} (hs : s.Sound)
    (h : (machine json token).exec s events = some t) (hk : s.daemon.task k = .absent)
    (hopens : ∀ e ∈ events, opens e ≠ some k) : t.daemon.task k = .absent := by
  refine (Machine.exec_invariant (I := fun s => s.Sound ∧ s.daemon.task k = .absent) h ⟨hs, hk⟩ ?_).2
  rintro e he s t ⟨hs, hk⟩ hst
  refine ⟨sound_step hs hst, ?_⟩
  have hphase : s.mux.phase k = .absent := phase_eq_absent.mpr hk
  apply phase_eq_absent.mp
  rcases mux_step hs hst with ⟨-, hmux⟩ | ⟨b, hb, hmux⟩
  · rw [← hmux] at hphase
    exact hphase
  · refine Mux.phase_absent hmux hphase fun x hx => ?_
    obtain ⟨routeId, service, rfl, -⟩ := (entry_of_action hb).1 k x hx
    exact hopens _ he rfl

theorem worker_eq_absent {pc : StreamTask} : pc.phase = .absent ↔ pc = .absent := by
  cases pc <;> simp [StreamTask.phase]

/-- A task that no step spawns is not there. -/
theorem absent_task {events : List LinkEvent} {j : ℕ} (hs : s.Sound)
    (h : (machine json token).exec s events = some t) (hj : s.agent.task j = .absent)
    (hspawns : ∀ e ∈ events, spawns e ≠ some j) : t.agent.task j = .absent := by
  refine (Machine.exec_invariant (I := fun s => s.Sound ∧ s.agent.task j = .absent) h ⟨hs, hj⟩ ?_).2
  rintro e he s t ⟨hs, hj⟩ hst
  refine ⟨sound_step hs hst, ?_⟩
  have hworker : s.mux.worker j = .absent := worker_eq_absent.mpr hj
  apply worker_eq_absent.mp
  rcases mux_step hs hst with ⟨-, hmux⟩ | ⟨b, hb, hmux⟩
  · rw [← hmux] at hworker
    exact hworker
  · refine Mux.worker_absent hmux hworker ?_
    rintro rfl
    obtain rfl := (entry_of_action hb).2 j rfl
    exact hspawns _ he rfl

/-! ## A stream id used again while messages carry it -/

/-- The agent registers and reports its device; session 0 opens and its stream is accepted; the
upstream has sent a byte. -/
def openedStream : List LinkEvent :=
  [.daemon (.openSession 0 "office:ABC" "shell:ls"), .agent (.begin .main), .agent (.put 77),
    .agent (.publish .empty AgentState.officeLists), .agent (.begin .main), .agent (.put 158),
    .toDaemon, .toDaemon, .daemon (.insertTx 0), .daemon (.insertWaiter 0),
    .daemon (.openWritten 0 true), .toAgent, .agent .upstreamReady, .agent (.begin .main),
    .agent (.put 30), .agent (.spawn 0), .toDaemon, .daemon (.opened 0),
    .agent (.upstreamData 0 [7]), .agent (.begin (.task 0)), .agent (.put 10)]

/-- The byte reaches the client, and one of the client reaches the upstream. -/
def exchange : List LinkEvent :=
  [.toDaemon, .daemon (.recv 0), .clientPiece 0 1, .daemon (.downWritten 0),
    .daemon (.clientData 0 [9]), .daemon (.upWritten 0 true), .toAgent, .agent (.recv 0),
    .agent (.upWritten 0)]

/-- The client closes; the byte and the `StreamClose` of the agent stay on their way. -/
def closedEarly : List LinkEvent :=
  [.daemon (.clientEof 0), .daemon (.dropTx 0), .daemon (.closeWritten 0 true), .toAgent,
    .agent (.recvClosed 0), .agent (.remove 0), .agent (.begin (.task 0)), .agent (.put 38)]

/-- Session 1 opens. -/
def openedAgain : LinkEvent := .daemon (.openSession 1 "office:ABC" "shell:ls")

/-- The read loop takes up what was on its way, and session 1 gets a stream task of its own. -/
def relayedAgain : List LinkEvent :=
  [.daemon (.insertTx 1), .toDaemon, .toDaemon, .daemon (.insertWaiter 1),
    .daemon (.openWritten 1 true), .toAgent, .agent .upstreamReady, .agent (.begin .main),
    .agent (.put 30), .agent (.spawn 1), .toDaemon, .daemon (.opened 1), .daemon (.recv 1),
    .daemon (.downWritten 1)]

/-- A step that opens no session meets the condition. -/
theorem opensUnheld_of_opens {e : LinkEvent} (he : opens e = none) (s : Link) : s.OpensUnheld e := by
  cases e with
  | daemon e =>
      cases e with
      | openSession => cases he
      | _ => trivial
  | _ => trivial

@[inherit_doc opensUnheld_of_opens]
theorem opensUnused_of_opens {e : LinkEvent} (he : opens e = none) (s : Link) : s.OpensUnused e := by
  refine ⟨opensUnheld_of_opens he s, ?_⟩
  cases e with
  | daemon e =>
      cases e with
      | openSession => cases he
      | _ => trivial
  | _ => trivial

/-- Nobody holds the first stream id before anything has happened. -/
theorem opensUnused_init (routeId service : String) :
    (machine json token).init.OpensUnused (.daemon (.openSession 0 routeId service)) := by
  refine ⟨⟨?_, ?_⟩, ?_⟩
  · rintro (h | h | ⟨k, h, -⟩) <;> exact h rfl
  · rintro (h | ⟨j, h, -⟩ | h | ⟨p, hp, -⟩)
    · exact h rfl
    · exact h rfl
    · cases h
    · cases hp
  · rintro (⟨p, hp, -⟩ | ⟨p, hp, -⟩) <;> cases hp

/-- Sessions of other connections take the next stream ids. -/
theorem exec_openElsewhere (s : Link) (n : ℕ) :
    (machine json token).exec s (List.replicate n (.daemon .openElsewhere)) =
      some { s with
        daemon := { s.daemon with
          nextStreamId := s.daemon.nextStreamId + UInt32.ofNat n } } := by
  induction n generalizing s with
  | zero => simp [Machine.exec]
  | succ n ih =>
      have hstep : (machine json token).step s (.daemon .openElsewhere) =
          some { s with
            daemon := { s.daemon with nextStreamId := s.daemon.nextStreamId + 1 } } := by
        simp [machine, step, StreamEvent.IsReceive, ConnStreams.step, afterDaemon,
          ConnStreams.traffic, Traffic.note]
      rw [List.replicate_succ, Machine.exec, hstep, Option.bind_some, ih]
      simp [UInt32.ofNat_add, add_assoc, add_comm]

/-- A run that opens one session. -/
theorem run_of_exec {events : List LinkEvent} {routeId service : String}
    (h : (machine json token).exec (machine json token).init
      (.daemon (.openSession 0 routeId service) :: events) = some s)
    (hopens : ∀ e ∈ events, opens e = none) :
    (machine json token).Run OpensUnused (.daemon (.openSession 0 routeId service) :: events) s := by
  obtain ⟨u, hu, hus⟩ := Option.bind_eq_some_iff.mp h
  have hfirst : (machine json token).Run OpensUnused
      ([] ++ [.daemon (.openSession 0 routeId service)]) u :=
    Machine.Run.init.snoc (opensUnused_init routeId service) hu
  exact hfirst.append hus fun e he u => opensUnused_of_opens (hopens e he) u

/-- A stream relays in order. -/
theorem exchange_in_order :
    ∃ events s, (machine AgentState.officeJson "t0").Run OpensUnused events s ∧
      s.request 0 = .served 0 ∧ s.toClient 0 = [7] ∧ s.upstream.written 0 = [9] ∧
      s.toClient 0 <+: s.upstream.read 0 ∧ s.upstream.written 0 <+: s.client.read 0 := by
  have hrun : ((machine AgentState.officeJson "t0").exec (machine AgentState.officeJson "t0").init
      (openedStream ++ exchange)).map
        (fun s => (s.request 0, s.toClient 0, s.upstream.written 0)) =
      some (.served 0, [7], [9]) := by decide +kernel
  obtain ⟨s, hs, hstate⟩ := Option.map_eq_some_iff.mp hrun
  simp only [Prod.mk.injEq] at hstate
  obtain ⟨hserved, hclient, hupstream⟩ := hstate
  have h := run_of_exec hs (by decide)
  exact ⟨_, s, h, hserved, hclient, hupstream, (relayed_in_order h 0).1 0 hserved⟩

/-- The agent and the tables hold the first stream id no more. -/
def letGo (s : Link) : Bool :=
  s.daemon.task 0 = .done && s.daemon.streamTx 1 = none && s.daemon.openWaiters 1 = none &&
    s.agent.streams 1 = none && s.agent.task 0 = .done && s.agent.main.streamId? = none &&
    s.agent.wire.current.isNone

/-- Neither side holds the stream id of the first session when it has let go of it. -/
theorem unheld_of_letGo {events : List LinkEvent}
    (hexec : (machine json token).exec (machine json token).init events = some s)
    (hopens : ∀ e ∈ events, opens e = none ∨ opens e = some 0)
    (hspawns : ∀ e ∈ events, spawns e = none ∨ spawns e = some 0) (hgo : s.letGo = true) :
    ¬ s.HeldByDaemon 1 ∧ ¬ s.HeldByAgent 1 := by
  simp only [letGo, Bool.and_eq_true, decide_eq_true_eq, Option.isNone_iff_eq_none] at hgo
  obtain ⟨⟨⟨⟨⟨⟨hsession, htable⟩, hwaiters⟩, hstreams⟩, htask⟩, hmain⟩, hwire⟩ := hgo
  have hother : ∀ k, k ≠ 0 → s.daemon.task k = .absent ∧ s.agent.task k = .absent := by
    intro k hk
    have hne : ∀ o : Option ℕ, o = none ∨ o = some 0 → o ≠ some k := by
      rintro o (rfl | rfl) ho
      · cases ho
      · exact hk (Option.some.inj ho).symm
    exact ⟨absent_session (sound_init json token) hexec rfl fun e he => hne _ (hopens e he),
      absent_task (sound_init json token) hexec rfl fun e he => hne _ (hspawns e he)⟩
  constructor
  · rintro (hheld | hheld | ⟨k, hthere, hlive, -⟩)
    · exact hheld htable
    · exact hheld hwaiters
    · by_cases hk : k = 0
      · exact hlive (hk ▸ hsession)
      · exact hthere (hother k hk).1
  · rintro (hheld | ⟨j, hthere, hlive, -⟩ | hheld | ⟨p, hp, -⟩)
    · exact hheld hstreams
    · by_cases hj : j = 0
      · exact hlive (hj ▸ htask)
      · exact hthere (hother j hj).2
    · rw [hmain] at hheld
      cases hheld
    · rw [hwire] at hp
      cases hp

/-- **Data on its way reaches the next stream with the same id.** Every session opens with a stream
id that neither side holds, and the client of session 1 gets a byte that the agent never read from
the upstream of session 1. -/
theorem reused_on_the_way :
    ∃ events s, (machine AgentState.officeJson "t0").Run OpensUnheld events s ∧
      s.request 1 = .served 1 ∧ s.toClient 1 = [7] ∧ s.upstream.read 1 = [] ∧
      ¬ ∀ k j, s.request k = .served j →
        s.toClient k <+: s.upstream.read j ∧ s.upstream.written j <+: s.client.read k := by
  have hrun : ((machine AgentState.officeJson "t0").exec (machine AgentState.officeJson "t0").init
      (openedStream ++ closedEarly)).bind (fun s =>
        ((machine AgentState.officeJson "t0").exec
          { s with daemon := { s.daemon with nextStreamId := 1 } }
          (openedAgain :: relayedAgain)).map fun t =>
            (s.daemon.nextStreamId, s.letGo, t.request 1, t.toClient 1, t.upstream.read 1)) =
      some (2, true, .served 1, [7], []) := by decide +kernel
  obtain ⟨s, hs, hstate⟩ := Option.bind_eq_some_iff.mp hrun
  obtain ⟨t, ht, hstate⟩ := Option.map_eq_some_iff.mp hstate
  simp only [Prod.mk.injEq] at hstate
  obtain ⟨hnext, hgo, hserved, hclient, hread⟩ := hstate
  have hfirst := run_of_exec hs (by decide)
  have hunheld := unheld_of_letGo hs (by decide) (by decide) hgo
  -- sessions of other connections take all the other stream ids
  have hwrapped : (machine AgentState.officeJson "t0").exec s
      (List.replicate (2 ^ 32 - 1) (.daemon .openElsewhere)) =
        some { s with daemon := { s.daemon with nextStreamId := 1 } } := by
    rw [exec_openElsewhere, hnext]
    rfl
  have hsecond := (hfirst.mono fun _ _ => And.left).append hwrapped fun e he u =>
    opensUnheld_of_opens (by rw [List.eq_of_mem_replicate he]; rfl) u
  obtain ⟨u, hu, hut⟩ := Option.bind_eq_some_iff.mp ht
  have hagain := (hsecond.snoc (a := openedAgain) hunheld hu).append hut fun e he u =>
    opensUnheld_of_opens (by revert e; decide) u
  refine ⟨_, t, hagain, hserved, hclient, hread, fun hall => ?_⟩
  have hpart := (hall 1 1 hserved).1
  rw [hclient, hread] at hpart
  exact absurd (List.prefix_nil.mp hpart) (by simp)

end Link

end AdbHub
