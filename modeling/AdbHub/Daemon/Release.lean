import AdbHub.Daemon.Traffic

/-!
# The end of an agent connection

What is left of the sessions of a connection (`daemon.rs`) when `handle_agent` has finished.

* **`ConnStreams.mapsEmpty_iff`** — the maps are empty exactly if every session has left them.
* `AgentHandler` — the streams of a connection, and whether `handle_agent` has returned for it.
* `Released` — both maps are empty, and every session that waits for the agent sees the end of its
  channel.
* **`released_iff`** — that holds throughout a run, exactly when every session has left the maps
  already as `handle_agent` returns, and none adds to them later: nothing clears them.
* `crash_leaves_session` — an agent that crashes leaves a session that waits for itself.
-/

namespace AdbHub

open Lib

namespace ConnStreams

variable {s t : ConnStreams} {e : StreamEvent} {k : ℕ} {id : UInt32} {past : List StreamEvent}

/-- Source: `daemon.rs`, `AgentConn`, `stream_tx` and `open_waiters`. -/
structure MapsEmpty (s : ConnStreams) : Prop where
  streamTx : ∀ id, s.streamTx id = none
  openWaiters : ∀ id, s.openWaiters id = none

/-! ## Entries that are put and taken -/

/-- A session of the stream puts its queue into `stream_tx`. -/
def PutsTx (s : ConnStreams) (id : UInt32) : StreamEvent → Prop
  | .insertTx k => s.streamId k = id
  | _ => False

/-- A session of the stream removes its queue, or the agent closes the stream. -/
def TakesTx (s : ConnStreams) (id : UInt32) : StreamEvent → Prop
  | .dropTx k => s.streamId k = id
  | .receive (.streamClose c) => c.streamId = id
  | _ => False

/-- A session of the stream puts its waiter into `open_waiters`. -/
def PutsWaiter (s : ConnStreams) (id : UInt32) : StreamEvent → Prop
  | .insertWaiter k => s.streamId k = id
  | _ => False

/-- A session of the stream removes its waiter, or the agent answers or closes the stream. -/
def TakesWaiter (s : ConnStreams) (id : UInt32) : StreamEvent → Prop
  | .dropWaiter k => s.streamId k = id
  | .receive (.openResult r) => r.streamId = id
  | .receive (.streamClose c) => c.streamId = id
  | _ => False

/-- Session `k` has left the maps: since it put its queue into `stream_tx`, the queue was removed or
the agent has closed the stream; and since it put its waiter into `open_waiters`, the waiter was
removed or the agent has answered or closed the stream. -/
structure LeftMaps (past : List StreamEvent) (s : ConnStreams) (k : ℕ) : Prop where
  queue : Followed (· = .insertTx k) (s.TakesTx (s.streamId k)) past
  waiter : Followed (· = .insertWaiter k) (s.TakesWaiter (s.streamId k)) past

/-- The session that puts or removes an entry. -/
def entryOf : StreamEvent → Option ℕ
  | .insertTx k | .insertWaiter k | .dropTx k | .dropWaiter k => some k
  | _ => none

/-- A session that puts or removes an entry has begun. -/
theorem begun_of_entryOf (h : s.step e = some t) (he : entryOf e = some k) :
    s.task k ≠ .absent := by
  cases moves_of_step h with
  | insertTx htask | insertWaiter htask | dropWaiter htask | dropAborted _ htask
  | dropRefused _ htask | dropClosing _ htask =>
      obtain rfl := Option.some.inj he
      simp [htask]
  | _ => cases he

/-- So has a session that has put or removed one. -/
theorem begun_of_mem (h : machine.Reaches past s) (hmem : e ∈ past) (he : entryOf e = some k) :
    s.task k ≠ .absent := by
  unfold Machine.Reaches at h
  induction h with
  | init => cases hmem
  | snoc _ _ hs ih =>
      rcases List.mem_append.mp hmem with hmem | hmem
      · exact (keeps_step hs (ih hmem)).begun
      · obtain rfl := List.mem_singleton.mp hmem
        exact (keeps_step hs (begun_of_entryOf hs he)).begun

/-- Whose entry an event is about does not change. -/
theorem streamId_of_mem (hr : machine.Reaches past s) (hs : s.step e = some t) {e' : StreamEvent}
    (hmem : e' ∈ past) (he' : entryOf e' = some k) : t.streamId k = s.streamId k :=
  (keeps_step hs (begun_of_mem hr hmem he')).streamId

theorem resolve_eq_none_iff (outcome : OpenOutcome) {id' : UInt32} :
    (s.resolve id outcome).openWaiters id' = none ↔ id = id' ∨ s.openWaiters id' = none := by
  unfold resolve
  by_cases hid : id = id'
  · subst hid
    rcases hwaiter : s.openWaiters id with _ | k
    · simp [hwaiter]
    · simp
  · rcases s.openWaiters id with _ | k
    · simp [hid]
    · simp [hid, Ne.symm hid]

theorem streamTx_resolve (outcome : OpenOutcome) :
    (s.resolve id outcome).streamTx = s.streamTx := by
  unfold resolve
  rcases s.openWaiters id with _ | k
  · rfl
  · rfl

theorem openWaiters_offer (data : Bytes) : (s.offer k data).openWaiters = s.openWaiters ∧
    (s.offer k data).streamTx = s.streamTx := by
  unfold offer
  split_ifs
  · exact ⟨rfl, rfl⟩
  · exact ⟨rfl, rfl⟩
  · exact ⟨rfl, rfl⟩

/-- What a message of the agent takes out of the maps. -/
theorem receive_eq_none_iff (msg : IpcMessage) :
    ((s.receive msg).streamTx id = none ↔
        (s.receive msg).TakesTx id (.receive msg) ∨ s.streamTx id = none) ∧
      ((s.receive msg).openWaiters id = none ↔
        (s.receive msg).TakesWaiter id (.receive msg) ∨ s.openWaiters id = none) := by
  cases msg with
  | openResult r =>
      rw [receive, streamTx_resolve, resolve_eq_none_iff]
      simp [TakesTx, TakesWaiter]
  | streamData id' data =>
      rcases htx : s.streamTx id' with _ | k
      · simp [receive, htx, TakesTx, TakesWaiter]
      · simp only [receive, htx, openWaiters_offer]
        simp [TakesTx, TakesWaiter]
  | streamClose c =>
      rw [receive, streamTx_resolve, resolve_eq_none_iff]
      refine ⟨?_, Iff.rfl⟩
      by_cases hid : id = c.streamId
      · simp [hid, TakesTx]
      · simp [hid, Ne.symm hid, TakesTx]
  | registerAgent | deviceSnapshot | deviceSnapshotChanged | openPrivateStream | ping | pong =>
      simp [receive, TakesTx, TakesWaiter]

/-- A step puts the queue of a stream into `stream_tx`, takes it out, or leaves it. -/
theorem streamTx_step_iff (h : s.step e = some t) : t.streamTx id = none ↔
    ¬ t.PutsTx id e ∧ (t.TakesTx id e ∨ s.streamTx id = none) := by
  cases moves_of_step h with
  | @insertTx k =>
      by_cases hid : id = s.streamId k
      · simp [hid, goto, PutsTx]
      · simp [hid, Ne.symm hid, goto, PutsTx, TakesTx]
  | @dropAborted k | @dropRefused k | @dropClosing k =>
      by_cases hid : id = s.streamId k
      · simp [hid, removeTx, goto, PutsTx, TakesTx]
      · simp [hid, Ne.symm hid, removeTx, goto, PutsTx, TakesTx]
  | @receive msg =>
      have hputs : ¬ (s.receive msg).PutsTx id (.receive msg) := not_false
      rw [and_iff_right hputs]
      exact (s.receive_eq_none_iff msg).1
  | _ => simp [PutsTx, TakesTx, goto, writeAgent]

/-- A step puts the waiter of a stream into `open_waiters`, takes it out, or leaves it. -/
theorem openWaiters_step_iff (h : s.step e = some t) : t.openWaiters id = none ↔
    ¬ t.PutsWaiter id e ∧ (t.TakesWaiter id e ∨ s.openWaiters id = none) := by
  cases moves_of_step h with
  | @insertWaiter k | @dropWaiter k =>
      by_cases hid : id = s.streamId k
      · simp [hid, goto, PutsWaiter, TakesWaiter]
      · simp [hid, Ne.symm hid, goto, PutsWaiter, TakesWaiter]
  | @receive msg =>
      have hputs : ¬ (s.receive msg).PutsWaiter id (.receive msg) := not_false
      rw [and_iff_right hputs]
      exact (s.receive_eq_none_iff msg).2
  | _ => simp [PutsWaiter, TakesWaiter, goto, writeAgent, removeTx]

/-- What was put and taken stays what it is. -/
theorem puts_takes_of_mem (hr : machine.Reaches past s) (hs : s.step e = some t) {e' : StreamEvent}
    (hmem : e' ∈ past) :
    ((t.PutsTx id e' ↔ s.PutsTx id e') ∧ (t.TakesTx id e' ↔ s.TakesTx id e')) ∧
      (t.PutsWaiter id e' ↔ s.PutsWaiter id e') ∧ (t.TakesWaiter id e' ↔ s.TakesWaiter id e') := by
  cases e' with
  | insertTx k | insertWaiter k | dropTx k | dropWaiter k =>
      have hid : t.streamId k = s.streamId k := streamId_of_mem hr hs hmem rfl
      simp [PutsTx, TakesTx, PutsWaiter, TakesWaiter, hid]
  | receive msg => cases msg <;> exact ⟨⟨Iff.rfl, Iff.rfl⟩, Iff.rfl, Iff.rfl⟩
  | _ => exact ⟨⟨Iff.rfl, Iff.rfl⟩, Iff.rfl, Iff.rfl⟩

/-- The queue of a stream is gone exactly if it was taken out each time it was put. -/
theorem streamTx_eq_none_iff (h : machine.Reaches past s) :
    s.streamTx id = none ↔ Followed (s.PutsTx id) (s.TakesTx id) past := by
  refine Machine.gone_iff_followed ?_ ?_ (fun _ _ _ => streamTx_step_iff) h
  · rfl
  · intro past s e t hr hs e' hmem
    exact (puts_takes_of_mem hr hs hmem).1

/-- The waiter of a stream is gone exactly if it was taken out each time it was put. -/
theorem openWaiters_eq_none_iff (h : machine.Reaches past s) :
    s.openWaiters id = none ↔ Followed (s.PutsWaiter id) (s.TakesWaiter id) past := by
  refine Machine.gone_iff_followed ?_ ?_ (fun _ _ _ => openWaiters_step_iff) h
  · rfl
  · intro past s e t hr hs e' hmem
    exact (puts_takes_of_mem hr hs hmem).2

/-- **The maps are empty exactly if every session has left them.** Stream ids may repeat.
Source: `daemon.rs`, `forward_private` and `agent_read_loop` -/
theorem mapsEmpty_iff (h : machine.Reaches past s) : s.MapsEmpty ↔ ∀ k, s.LeftMaps past k := by
  constructor
  · intro hempty k
    refine ⟨fun before after e heq he => ?_, fun before after e heq he => ?_⟩
    · subst he
      exact (streamTx_eq_none_iff h).mp (hempty.streamTx _) before after _ heq rfl
    · subst he
      exact (openWaiters_eq_none_iff h).mp (hempty.openWaiters _) before after _ heq rfl
  · intro hleft
    refine ⟨fun id => (streamTx_eq_none_iff h).mpr ?_, fun id => (openWaiters_eq_none_iff h).mpr ?_⟩
    · intro before after e heq he
      unfold PutsTx at he
      split at he
      · subst he
        exact (hleft _).queue before after _ heq rfl
      · exact he.elim
    · intro before after e heq he
      unfold PutsWaiter at he
      split at he
      · subst he
        exact (hleft _).waiter before after _ heq rfl
      · exact he.elim

/-- From empty maps a step leads to empty maps exactly if no session adds to them. -/
theorem MapsEmpty.step_iff (hs : s.MapsEmpty) (h : s.step e = some t) :
    t.MapsEmpty ↔ ∀ k, e ≠ .insertTx k ∧ e ≠ .insertWaiter k := by
  constructor
  · intro ht k
    constructor
    · rintro rfl
      exact ((streamTx_step_iff h).mp (ht.streamTx (t.streamId k))).1 rfl
    · rintro rfl
      exact ((openWaiters_step_iff h).mp (ht.openWaiters (t.streamId k))).1 rfl
  · intro hadds
    refine ⟨fun id => (streamTx_step_iff h).mpr ⟨?_, .inr (hs.streamTx id)⟩,
      fun id => (openWaiters_step_iff h).mpr ⟨?_, .inr (hs.openWaiters id)⟩⟩
    · unfold PutsTx
      split
      · exact absurd rfl (hadds _).1
      · exact not_false
    · unfold PutsWaiter
      split
      · exact absurd rfl (hadds _).2
      · exact not_false

end ConnStreams

/-! ## `handle_agent` -/

/-- The streams of a connection, and whether `handle_agent` has returned for it. Source:
`daemon.rs`, `handle_agent`. -/
structure AgentHandler where
  streams : ConnStreams := {}
  finished : Bool := false

/-- What happens next. -/
inductive HandlerEvent
  /-- The read loop or a session takes a step. -/
  | stream (e : StreamEvent)
  /-- `handle_agent` has taken the agent out of the tables of the daemon, and returns. -/
  | finish

namespace AgentHandler

variable {s t : AgentHandler} {e : HandlerEvent} {past : List HandlerEvent}

/-- One step. What `handle_agent` does after its read loop concerns the tables of the daemon; the
sessions that have taken the connection from them keep it. Source: `daemon.rs`, `handle_agent`. -/
def step (s : AgentHandler) : HandlerEvent → Option AgentHandler
  | .stream e => (s.streams.step e).map fun streams => { s with streams }
  | .finish =>
      if s.streams.loop = .stopped ∧ s.finished = false then some { s with finished := true }
      else none

/-- The connection with its handler as a machine. -/
def machine : Machine AgentHandler HandlerEvent := ⟨{}, step⟩

/-- The steps of the read loop and of the sessions. -/
def streamEvents (events : List HandlerEvent) : List StreamEvent :=
  events.filterMap fun
    | .stream e => some e
    | .finish => none

theorem streamEvents_stream (e : StreamEvent) :
    streamEvents (past ++ [.stream e]) = streamEvents past ++ [e] := by
  simp [streamEvents]

theorem streamEvents_finish : streamEvents (past ++ [.finish]) = streamEvents past := by
  simp [streamEvents]

/-- Every step is one of the streams, or the return of `handle_agent`. -/
theorem step_cases (h : s.step e = some t) :
    (∃ e' streams, e = .stream e' ∧ s.streams.step e' = some streams ∧ t = { s with streams }) ∨
      (e = .finish ∧ s.streams.loop = .stopped ∧ s.finished = false ∧
        t = { s with finished := true }) := by
  cases e with
  | stream e' =>
      obtain ⟨streams, hs, rfl⟩ := Option.map_eq_some_iff.mp h
      exact .inl ⟨e', streams, rfl, hs, rfl⟩
  | finish =>
      unfold step at h
      split_ifs at h with hguard
      exact .inr ⟨rfl, hguard.1, hguard.2, (Option.some.inj h).symm⟩

/-- The streams take the steps of the read loop and of the sessions. -/
theorem streams_of_reaches (h : machine.Reaches past s) :
    ConnStreams.machine.Reaches (streamEvents past) s.streams := by
  unfold Machine.Reaches at h
  induction h with
  | init => exact .init
  | snoc _ _ hs ih =>
      rcases step_cases hs with ⟨e, streams, rfl, he, rfl⟩ | ⟨rfl, -, -, rfl⟩
      · rw [streamEvents_stream]
        exact .snoc ih trivial he
      · rw [streamEvents_finish]
        exact ih

/-- When `handle_agent` has finished, both maps are empty; and a session that waits in its relay
loop for data of the agent leaves it. -/
def Released (s : AgentHandler) : Prop :=
  s.finished = true → s.streams.MapsEmpty ∧
    ∀ k, s.streams.task k = .relay → s.streams.queue k = [] →
      s.step (.stream (.recvClosed k)) = some { s with streams := s.streams.goto k .closing }

/-- Every session has left the maps when `handle_agent` returns, and no session that has the
connection adds to them afterwards. -/
def EndsReleased (past : List HandlerEvent) (s : AgentHandler) (e : HandlerEvent)
    (_ : AgentHandler) : Prop :=
  match e with
  | .finish => ∀ k, s.streams.LeftMaps (streamEvents past) k
  | .stream (.insertTx _) | .stream (.insertWaiter _) => s.finished = false
  | _ => True

/-- With empty maps every session sees the end of its channel. -/
theorem released_iff_mapsEmpty : s.Released ↔ (s.finished = true → s.streams.MapsEmpty) := by
  constructor
  · intro h hfinished
    exact (h hfinished).1
  · intro h hfinished
    have hempty := h hfinished
    refine ⟨hempty, fun k htask hqueue => ?_⟩
    have hclosed : s.streams.streamTx (s.streams.streamId k) ≠ some k := by simp [hempty.streamTx]
    have hleaves : s.streams.step (.recvClosed k) = some (s.streams.goto k .closing) :=
      if_pos ⟨htask, hqueue, hclosed⟩
    rw [step, hleaves]
    rfl

/-- From a released state, a step leads to a released one exactly if it is as `EndsReleased`
says. -/
theorem released_step_iff (hr : machine.Reaches past s) (hs : s.Released)
    (h : s.step e = some t) : t.Released ↔ EndsReleased past s e t := by
  rw [released_iff_mapsEmpty] at hs ⊢
  rcases step_cases h with ⟨e, streams, rfl, he, rfl⟩ | ⟨rfl, -, -, rfl⟩
  · by_cases hfinished : s.finished = true
    · have hadds : (∀ k, e ≠ .insertTx k ∧ e ≠ .insertWaiter k) ↔
          EndsReleased past s (.stream e) { s with streams } := by
        unfold EndsReleased
        split
        · rename_i heq
          cases heq
        · rename_i k heq
          obtain rfl := HandlerEvent.stream.inj heq
          exact iff_of_false (fun hne => (hne k).1 rfl) (by simp [hfinished])
        · rename_i k heq
          obtain rfl := HandlerEvent.stream.inj heq
          exact iff_of_false (fun hne => (hne k).2 rfl) (by simp [hfinished])
        · rename_i htx hwaiter
          refine iff_of_true (fun k => ⟨?_, ?_⟩) trivial
          · rintro rfl
            exact htx k rfl
          · rintro rfl
            exact hwaiter k rfl
      rw [← hadds, ← (hs hfinished).step_iff he]
      exact forall_prop_of_true hfinished
    · refine iff_of_true (fun hstill => absurd hstill hfinished) ?_
      unfold EndsReleased
      split
      · rename_i heq
        cases heq
      · exact Bool.eq_false_iff.mpr hfinished
      · exact Bool.eq_false_iff.mpr hfinished
      · trivial
  · show (true = true → s.streams.MapsEmpty) ↔ ∀ k, s.streams.LeftMaps (streamEvents past) k
    rw [← ConnStreams.mapsEmpty_iff (streams_of_reaches hr)]
    exact forall_prop_of_true rfl

/-- **The sessions of an ended connection are released, exactly.** In every state of a run in which
`handle_agent` has finished both maps are empty, and every session that waits for the agent sees
the end of its channel, iff every session has left the maps when `handle_agent` returns and none
adds to them afterwards.
Source: `daemon.rs`, `handle_agent` -/
theorem released_iff {events : List HandlerEvent} (h : machine.Reaches events s) :
    machine.Always Released events ↔ machine.EachStep EndsReleased events := by
  refine Machine.always_iff_eachStep ?_ (fun _ _ _ _ hr => released_step_iff hr) h
  intro hfinished
  cases hfinished

/-- A session is opened and accepted, its client closes, and then the connection of the agent
ends. -/
def closedThenEnded : List HandlerEvent :=
  ConnStreams.openAccepted.map .stream ++
    [.stream (.clientEof 0), .stream (.dropTx 0), .stream (.closeWritten 0 true), .stream .hangUp,
      .finish]

theorem closed_before_end : machine.Always Released closedThenEnded := by
  have hreaches : ∃ s, machine.Reaches closedThenEnded s := ⟨_, Machine.reaches_of_exec rfl⟩
  have hadds : ∀ {past : List HandlerEvent} {s s' : AgentHandler}, machine.Reaches past s →
      machine.exec {} past = some s' → s'.finished = false → s.finished = false := by
    intro past s s' hr hexec hopen
    obtain rfl := hr.unique (Machine.reaches_of_exec hexec)
    exact hopen
  have hsteps : machine.EachStep EndsReleased closedThenEnded := by
    change machine.EachStep EndsReleased ([] ++ [_] ++ [_] ++ [_] ++ [_] ++ [_] ++ [_] ++ [_] ++
      [_] ++ [_] ++ [_] ++ [_])
    refine Machine.EachStep.snoc ((((((((((Machine.eachStep_nil.snoc fun _ _ _ _ => trivial).snoc
      fun _ _ hr _ => hadds hr rfl rfl).snoc fun _ _ hr _ => hadds hr rfl rfl).snoc
      fun _ _ _ _ => trivial).snoc fun _ _ _ _ => trivial).snoc fun _ _ _ _ => trivial).snoc
      fun _ _ _ _ => trivial).snoc fun _ _ _ _ => trivial).snoc fun _ _ _ _ => trivial).snoc
      fun _ _ _ _ => trivial) ?_
    intro s t hr _
    apply (ConnStreams.mapsEmpty_iff (streams_of_reaches hr)).mp
    obtain rfl := hr.unique (Machine.reaches_of_exec rfl)
    refine ⟨fun id => ?_, fun id => ?_⟩
    · change Function.update (Function.update (fun _ => none) 1 (some 0)) 1 none id = none
      simp
    · change Function.update (Function.update (fun _ => none) 1 (some 0)) 1 none id = none
      simp
  obtain ⟨s, hs⟩ := hreaches
  exact (released_iff hs).mpr hsteps

/-- The agent crashes while a stream is open: when `handle_agent` has finished, the session keeps
its own channel open through the map, and waits. -/
theorem crash_leaves_session :
    ∃ s, machine.Reaches
        (ConnStreams.openAccepted.map .stream ++ [.stream .hangUp, .finish]) s ∧
      s.finished = true ∧ s.streams.streamTx 1 = some 0 ∧ s.streams.task 0 = .relay ∧
      s.streams.queue 0 = [] ∧ s.step (.stream (.recvClosed 0)) = none ∧ ¬ s.Released := by
  have hstate : ∃ s, machine.Reaches
        (ConnStreams.openAccepted.map .stream ++ [.stream .hangUp, .finish]) s ∧
      s.finished = true ∧ s.streams.streamTx 1 = some 0 ∧ s.streams.task 0 = .relay ∧
      s.streams.queue 0 = [] ∧ s.step (.stream (.recvClosed 0)) = none :=
    ⟨_, Machine.reaches_of_exec rfl, rfl, rfl, rfl, rfl, rfl⟩
  obtain ⟨s, hr, hfinished, htx, htask, hqueue, hstuck⟩ := hstate
  refine ⟨s, hr, hfinished, htx, htask, hqueue, hstuck, fun hreleased => ?_⟩
  have hnone := (hreleased hfinished).1.streamTx 1
  rw [htx] at hnone
  cases hnone

end AgentHandler

end AdbHub
