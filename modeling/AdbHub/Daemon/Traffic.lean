import AdbHub.Daemon.Streams

/-!
# What an agent connection carries

Where the messages to an agent and the data for its clients come from (`daemon.rs`,
`forward_private` and `agent_read_loop`), in any interleaving of the read loop and the sessions.

* `Heard` — the agent has sent the data; `Tells` — a message to the agent is about a session, and
  says what the session was asked for or what its client sent.
* `Carried` — every message written and all data on its way are of this kind.
* **`carried_of_run`** — in every run.
-/

namespace AdbHub

open Lib

namespace ConnStreams

/-- The agent has sent the data. -/
def Heard (past : List StreamEvent) (data : Bytes) : Prop :=
  ∃ id, .receive (.streamData id data) ∈ past

/-- What a message to the agent says, and about which session. -/
def Tells (past : List StreamEvent) (s : ConnStreams) : IpcMessage → Prop
  | .openPrivateStream m =>
      ∃ k, s.task k ≠ .absent ∧ m = ⟨s.streamId k, (s.request k).1, (s.request k).2⟩
  | .streamData id data => ∃ k, s.task k ≠ .absent ∧ s.streamId k = id ∧ .clientData k data ∈ past
  | .streamClose m => ∃ k, s.task k ≠ .absent ∧ m = ⟨s.streamId k, "client closed"⟩
  | .pong => True
  | _ => False

/-- What a session is about to pass on was sent by its client, or by the agent. -/
def Holds (past : List StreamEvent) (k : ℕ) : ForwardPrivate → Prop
  | .sendingUp data => .clientData k data ∈ past
  | .sendingDown data => Heard past data
  | _ => True

/-- Messages are about sessions, and the data for the clients comes from the agent. -/
structure Carried (past : List StreamEvent) (s : ConnStreams) : Prop where
  told : ∀ msg ∈ s.toAgent, s.Tells past msg
  waiting : ∀ k data, s.loop = .sending k data → Heard past data
  queued : ∀ k, ∀ data ∈ s.queue k, Heard past data
  held : ∀ k, Holds past k (s.task k)
  given : ∀ k, ∀ data ∈ s.toClient k, Heard past data

variable {past : List StreamEvent} {s t : ConnStreams} {e : StreamEvent} {k : ℕ}
  {pc : ForwardPrivate} {msg : IpcMessage} {data : Bytes}

/-! ## Sessions that have begun -/

theorem request_receive (s : ConnStreams) (msg : IpcMessage) :
    (s.receive msg).request = s.request := by
  have hresolve : ∀ (d : ConnStreams) id o, (d.resolve id o).request = d.request := by
    intro d id o
    unfold ConnStreams.resolve
    split
    · rfl
    · rfl
  unfold ConnStreams.receive
  split
  · exact hresolve s _ _
  · split
    · unfold ConnStreams.offer
      split_ifs
      · rfl
      · rfl
      · rfl
    · rfl
  · exact hresolve _ _ _
  · rfl
  · rfl

/-- A session that has begun keeps its stream id and its request. -/
structure Keeps (s t : ConnStreams) (k : ℕ) : Prop where
  begun : t.task k ≠ .absent
  streamId : t.streamId k = s.streamId k
  request : t.request k = s.request k

theorem keeps_goto {j : ℕ} (hk : s.task k ≠ .absent) (hpc : pc ≠ .absent) :
    s.Keeps (s.goto j pc) k := by
  refine ⟨?_, rfl, rfl⟩
  by_cases hj : k = j
  · subst hj
    simpa [goto] using hpc
  · simpa [goto, hj] using hk

theorem keeps_step (h : s.step e = some t) (hk : s.task k ≠ .absent) : s.Keeps t k := by
  have hstays : s.Keeps s k := ⟨hk, rfl, rfl⟩
  cases moves_of_step h with
  | openElsewhere | roomClosed | room | pongWritten | pongFailed | hangUp => exact { hstays with }
  | @openSession j r v htask =>
      have hj : k ≠ j := by
        rintro rfl
        exact hk htask
      exact ⟨by simpa [goto, hj] using hk, by simp [hj], by simp [hj]⟩
  | @receive msg =>
      obtain ⟨-, hid, htask⟩ := s.receive_frame msg
      exact ⟨by rwa [htask], by rw [hid], by rw [request_receive]⟩
  | @opened j o =>
      refine keeps_goto hk ?_
      split_ifs
      · decide
      · decide
  | _ => exact { keeps_goto (s := s) hk (by simp) with }

/-! ## One step -/

theorem Heard.later (h : Heard past data) (e : StreamEvent) : Heard (past ++ [e]) data := by
  obtain ⟨id, hid⟩ := h
  exact ⟨id, List.mem_append_left _ hid⟩

theorem Tells.later (h : s.Tells past msg) (e : StreamEvent) : s.Tells (past ++ [e]) msg := by
  cases msg with
  | streamData id data =>
      obtain ⟨k, hk, hid, hdata⟩ := h
      exact ⟨k, hk, hid, List.mem_append_left _ hdata⟩
  | _ => exact h

/-- What is said of sessions that have begun goes on to be said of them. -/
theorem Tells.keep (h : s.Tells past msg) (hkeeps : ∀ k, s.task k ≠ .absent → s.Keeps t k) :
    t.Tells past msg := by
  cases msg with
  | openPrivateStream m =>
      obtain ⟨k, hk, rfl⟩ := h
      have hkept := hkeeps k hk
      exact ⟨k, hkept.begun, by rw [hkept.streamId, hkept.request]⟩
  | streamData id data =>
      obtain ⟨k, hk, hid, hdata⟩ := h
      have hkept := hkeeps k hk
      exact ⟨k, hkept.begun, hkept.streamId.trans hid, hdata⟩
  | streamClose m =>
      obtain ⟨k, hk, rfl⟩ := h
      have hkept := hkeeps k hk
      exact ⟨k, hkept.begun, by rw [hkept.streamId]⟩
  | _ => exact h

theorem Holds.later (h : Holds past k pc) (e : StreamEvent) : Holds (past ++ [e]) k pc := by
  cases pc with
  | sendingUp data => exact List.mem_append_left _ h
  | sendingDown data => exact Heard.later h e
  | _ => trivial

theorem Carried.later (h : s.Carried past) (e : StreamEvent) : s.Carried (past ++ [e]) where
  told msg hmsg := (h.told msg hmsg).later e
  waiting k data hk := (h.waiting k data hk).later e
  queued k data hk := (h.queued k data hk).later e
  held k := (h.held k).later e
  given k data hk := (h.given k data hk).later e

/-- A session moves on, and the rest stays. -/
theorem Carried.move (h : s.Carried past) (hkeeps : ∀ k, s.task k ≠ .absent → s.Keeps t k)
    (hpc : Holds past k pc) (htask : t.task = Function.update s.task k pc)
    (hagent : t.toAgent = s.toAgent) (hloop : t.loop = s.loop) (hqueue : t.queue = s.queue)
    (hclient : t.toClient = s.toClient) : t.Carried past where
  told msg hmsg := (h.told msg (hagent ▸ hmsg)).keep hkeeps
  waiting := by
    rw [hloop]
    exact h.waiting
  queued := by
    rw [hqueue]
    exact h.queued
  held := by
    rw [htask]
    exact (Function.forall_update_iff _ fun j pc => Holds past j pc).mpr ⟨hpc, fun j _ => h.held j⟩
  given := by
    rw [hclient]
    exact h.given

/-- A message is written to the agent. -/
theorem Carried.write (h : s.Carried past) (hmsg : s.Tells past msg) :
    (s.writeAgent msg).Carried past where
  told m hm := by
    rcases List.mem_append.mp hm with hm | hm
    · exact h.told m hm
    · rw [List.mem_singleton.mp hm]
      exact hmsg
  waiting := h.waiting
  queued := h.queued
  held := h.held
  given := h.given

theorem Carried.resolve (h : s.Carried past) (id : UInt32) (o : OpenOutcome) :
    (s.resolve id o).Carried past := by
  unfold ConnStreams.resolve
  split
  · exact h
  · exact ⟨h.told, h.waiting, h.queued, h.held, h.given⟩

/-- Data of the agent is put into the queue of a session, or waits for room there. -/
theorem Carried.offer (h : s.Carried past) (hdata : Heard past data) (k : ℕ) :
    (s.offer k data).Carried past := by
  unfold ConnStreams.offer
  split_ifs
  · exact h
  · refine ⟨h.told, ?_, h.queued, h.held, h.given⟩
    rintro j d hloop
    obtain ⟨rfl, rfl⟩ := ReadLoop.sending.inj hloop
    exact hdata
  · refine ⟨h.told, h.waiting, ?_, h.held, h.given⟩
    refine (Function.forall_update_iff _ fun _ q => ∀ d ∈ q, Heard past d).mpr
      ⟨fun d hd => ?_, fun j _ => h.queued j⟩
    rcases List.mem_append.mp hd with hd | hd
    · exact h.queued k d hd
    · rw [List.mem_singleton.mp hd]
      exact hdata

theorem Carried.receive (h : s.Carried past) (hmsg : .receive msg ∈ past) :
    (s.receive msg).Carried past := by
  cases msg with
  | openResult r => exact h.resolve _ _
  | streamData id data =>
      simp only [ConnStreams.receive]
      split
      · exact h.offer ⟨id, hmsg⟩ _
      · exact h
  | streamClose c =>
      have hremoved : { s with streamTx := Function.update s.streamTx c.streamId none }.Carried
          past := ⟨h.told, h.waiting, h.queued, h.held, h.given⟩
      exact hremoved.resolve _ _
  | ping => exact ⟨h.told, by rintro j d ⟨⟩, h.queued, h.held, h.given⟩
  | _ => exact h

/-- **One step.** -/
theorem carried_step (h : s.Carried past) (hs : s.step e = some t) : t.Carried (past ++ [e]) := by
  have hkeeps : ∀ k, s.task k ≠ .absent → s.Keeps t k := fun k => keeps_step hs
  have h := h.later e
  have he : e ∈ past ++ [e] := List.mem_append_right _ (List.mem_singleton_self e)
  generalize past ++ [e] = now at h he
  have hgoto : ∀ k pc, Holds now k pc → pc ≠ .absent → (s.goto k pc).Carried now :=
    fun k pc hpc hne => h.move (fun j hj => keeps_goto hj hne) hpc rfl rfl rfl rfl rfl
  cases moves_of_step hs with
  | openElsewhere => exact ⟨h.told, h.waiting, h.queued, h.held, h.given⟩
  | @openSession k r v htask =>
      have hmoved := hgoto k .insertTx trivial (by decide)
      refine ⟨fun msg hmsg => (h.told msg hmsg).keep hkeeps, h.waiting, ?_, hmoved.held, h.given⟩
      exact (Function.forall_update_iff _ fun _ q => ∀ d ∈ q, Heard now d).mpr
        ⟨by simp, fun j _ => h.queued j⟩
  | @openWritten k htask =>
      have hmoved := hgoto k .waiting trivial (by decide)
      exact hmoved.write ⟨k, by simp [goto], rfl⟩
  | @upWritten k data htask =>
      have hmoved := hgoto k .relay trivial (by decide)
      have hheld := h.held k
      rw [htask] at hheld
      exact hmoved.write ⟨k, by simp [goto], rfl, hheld⟩
  | @closeWritten k htask =>
      have hmoved := hgoto k .done trivial (by decide)
      exact hmoved.write ⟨k, by simp [goto], rfl⟩
  | @clientData k data htask =>
      exact hgoto k (.sendingUp data) he (by simp)
  | @opened k o htask =>
      refine h.move hkeeps ?_ rfl rfl rfl rfl rfl
      split_ifs
      · trivial
      · trivial
  | @recv k data rest htask hqueue =>
      have hdata : ∀ d ∈ data :: rest, Heard now d := hqueue ▸ h.queued k
      have hmoved := hgoto k (.sendingDown data) (hdata data (.head _)) (by simp)
      refine ⟨hmoved.told, h.waiting, ?_, hmoved.held, h.given⟩
      exact (Function.forall_update_iff _ fun _ q => ∀ d ∈ q, Heard now d).mpr
        ⟨fun d hd => hdata d (.tail _ hd), fun j _ => h.queued j⟩
  | @downWritten k data htask =>
      have hheld := h.held k
      rw [htask] at hheld
      have hmoved := hgoto k .relay trivial (by decide)
      refine ⟨hmoved.told, h.waiting, h.queued, hmoved.held, ?_⟩
      refine (Function.forall_update_iff _ fun _ q => ∀ d ∈ q, Heard now d).mpr
        ⟨fun d hd => ?_, fun j _ => h.given j⟩
      rcases List.mem_append.mp hd with hd | hd
      · exact h.given k d hd
      · rw [List.mem_singleton.mp hd]
        exact hheld
  | receive => exact h.receive he
  | roomClosed | hangUp | pongFailed =>
      exact ⟨h.told, by rintro j d ⟨⟩, h.queued, h.held, h.given⟩
  | @room k data hloop =>
      refine ⟨h.told, by rintro j d ⟨⟩, ?_, h.held, h.given⟩
      refine (Function.forall_update_iff _ fun _ q => ∀ d ∈ q, Heard now d).mpr
        ⟨fun d hd => ?_, fun j _ => h.queued j⟩
      rcases List.mem_append.mp hd with hd | hd
      · exact h.queued k d hd
      · rw [List.mem_singleton.mp hd]
        exact h.waiting k data hloop
  | pongWritten =>
      have hread : { s with loop := .reading }.Carried now :=
        ⟨h.told, by rintro j d ⟨⟩, h.queued, h.held, h.given⟩
      have hpong : s.Tells now .pong := trivial
      exact hread.write hpong
  | _ =>
      refine h.move hkeeps ?_ rfl rfl rfl rfl rfl
      trivial

/-- **What a connection carries**, in every run of its read loop and its sessions. -/
theorem carried_of_run (h : machine.Reaches past s) : s.Carried past := by
  unfold Machine.Reaches at h
  induction h with
  | init =>
      refine ⟨by rintro msg ⟨⟩, by rintro k data ⟨⟩, by rintro k data ⟨⟩, fun k => trivial, ?_⟩
      rintro k data ⟨⟩
  | snoc _ _ hs ih => exact carried_step ih hs

/-- Only by being opened does a session begin. -/
theorem begun_step (h : s.step e = some t) (hk : t.task k ≠ .absent) :
    s.task k ≠ .absent ∨ ∃ r v, e = .openSession k r v ∧ t.request k = (r, v) := by
  have hmoved : ∀ {j : ℕ} {pc : ForwardPrivate}, s.task j ≠ .absent →
      (s.goto j pc).task k ≠ .absent → s.task k ≠ .absent := by
    intro j pc hj hgoto
    by_cases hkj : k = j
    · exact hkj ▸ hj
    · simpa [goto, hkj] using hgoto
  cases moves_of_step h with
  | openElsewhere | roomClosed | room | pongWritten | pongFailed | hangUp => exact .inl hk
  | @openSession j r v htask =>
      by_cases hkj : k = j
      · subst hkj
        exact .inr ⟨r, v, rfl, by simp⟩
      · exact .inl (by simpa [goto, hkj] using hk)
  | receive =>
      rw [(s.receive_frame _).2.2] at hk
      exact .inl hk
  | opened htask | dropAborted _ htask | dropRefused _ htask | dropClosing _ htask
  | openWritten htask | openFailed htask | timeout htask | failWritten htask | failFailed htask
  | clientData htask | clientEof htask | clientGone htask | clientError htask | upWritten htask
  | upFailed htask | recv htask | recvClosed htask | downWritten htask | downGone htask
  | downFailed htask | closeWritten htask | closeFailed htask | insertTx htask
  | insertWaiter htask | dropWaiter htask =>
      exact .inl (hmoved (by simp [htask]) hk)

end ConnStreams

end AdbHub
