import AdbHub.Agent.Streams
import AdbHub.Lib.CanReach

/-!
# Whether an agent can stop

A shutdown is looked at in the main loop of an agent only (`agent.rs`, `run_agent_with_shutdown`),
between two messages of the daemon.

* `Composed` — a main loop that writes holds the writer lock, and there are stream tasks that are not
  spawned yet.
* `AgentTaskEvent.Succeeds` — no write, no connection and no snapshot fails in the step.
* `canReach_lockFree` — the writer lock is released; `canStop_relaying` — room is made in a queue.
* **`canStop_of_not_wedged`** — from wherever it stands, a main loop that is not wedged gets back to
  the loop and stops, by steps that succeed; `not_canReach_stopped`: a wedged one never does.
-/

namespace AdbHub

open Lib

/-- No write, no connection and no snapshot fails in the step. -/
def AgentTaskEvent.Succeeds : AgentTaskEvent → Prop
  | .writeError | .publishFails | .pollFails | .connectFails _ | .authFails _ | .serviceFails
  | .upFailed _ => False
  | _ => True

namespace AgentState

/-! ## Who holds the writer lock -/

/-- Tasks can still be spawned. -/
def Spare (s : AgentState) : Prop := ∃ n, ∀ k, n ≤ k → s.task k = .absent

/-- A main loop that writes holds the writer lock, and tasks can still be spawned. -/
structure Composed (s : AgentState) : Prop where
  writing : ∀ after, s.main = .writing after → s.holder = some .main
  spare : s.Spare

variable {json : SerdeJson} {token : String} {s t : AgentState} {e : AgentTaskEvent} {w : Writer}
  {msg : IpcMessage} {ok : Bool} {k : ℕ} {pc : StreamTask}

/-- After a write the main loop is somewhere else. -/
theorem afterMain_main_ne (s : AgentState) (after : MainAfter) (ok : Bool) (after' : MainAfter) :
    (s.afterMain after ok).main ≠ .writing after' := by
  unfold afterMain enterLoop
  split <;> simp

/-- The return from a write of somebody else does not move the main loop. -/
theorem main_afterWrite (hw : w ≠ .main ∨ ∀ after, s.main ≠ .writing after) :
    (s.afterWrite w ok).main = s.main := by
  unfold afterWrite
  split
  · split
    · rename_i after hmain
      exact absurd hmain ((hw.resolve_left (by simp)) after)
    · rfl
  · split <;> rfl
  · split <;> rfl

theorem main_afterWrite_writing {after : MainAfter} (hmain : s.main = .writing after) :
    s.afterWrite .main ok = s.afterMain after ok := by
  unfold afterWrite
  rw [hmain]

/-- A return from a write leaves nobody but its writer in front of it. -/
theorem writing_afterWrite {after : MainAfter} (h : (s.afterWrite w ok).main = .writing after) :
    s.main = .writing after ∧ w ≠ .main := by
  by_cases hw : w = .main
  · subst hw
    rcases hmain : s.main
    case writing after' =>
      rw [main_afterWrite_writing hmain] at h
      exact absurd h (afterMain_main_ne s after' ok after)
    all_goals
      rw [main_afterWrite (.inr (by simp [hmain])), hmain] at h
      simp at h
  · rw [main_afterWrite (.inl hw)] at h
    exact ⟨h, hw⟩

/-- A write begins while nobody holds the lock. -/
theorem lockFree_of_beginWrite (h : s.beginWrite json w msg = some t) : s.wire.current = none := by
  unfold beginWrite at h
  split_ifs at h with hlock
  exact Option.not_isSome_iff_eq_none.mp hlock

/-- A write of somebody else that begins does not move a main loop that does not write. -/
theorem main_beginWrite (h : s.beginWrite json w msg = some t)
    (hmain : ∀ after, s.main ≠ .writing after) : t.main = s.main := by
  rcases beginWrite_eq_some h with ⟨e, -, rfl⟩ | ⟨frame, wire, -, -, rfl⟩
  · exact main_afterWrite (.inr hmain)
  · rfl

/-- Where the lock is free nobody holds it. -/
theorem holder_eq_none (h : s.wire.current = none) : s.holder = none := by
  unfold holder
  rw [h]
  rfl

/-- A piece of a frame leaves the lock where it is, or the write returns. -/
theorem put_returns {n : ℕ} (h : s.step json (.put n) = some t) :
    ∃ w wire, s.holder = some w ∧ s.wire.put n = some wire ∧
      ((t = { s with wire := wire } ∧ t.holder = some w) ∨
        (wire.current = none ∧ t = { s with wire := wire }.afterWrite w true)) := by
  rcases hw : s.holder with _ | w
  · simp [step, hw] at h
  · rcases hput : s.wire.put n with _ | wire
    · simp [step, hw, hput] at h
    · simp only [step, hw, hput] at h
      refine ⟨w, wire, rfl, rfl, ?_⟩
      split_ifs at h with hmore
      · obtain rfl := Option.some.inj h
        refine .inl ⟨rfl, ?_⟩
        obtain ⟨p, hp, -, ⟨hne, rfl⟩ | ⟨-, rfl⟩⟩ := FrameWriter.put_eq_some hput
        · rw [← hw]
          unfold holder
          rw [hp]
          rfl
        · simp at hmore
      · exact .inr ⟨Option.not_isSome_iff_eq_none.mp hmore, (Option.some.inj h).symm⟩

/-- Somebody else begins to write: the main loop is not writing. -/
theorem not_writing_of_beginWrite {u : AgentState} {after : MainAfter}
    (hs : s.main = .writing after → s.holder = some .main) (h : u.beginWrite json w msg = some t)
    (hmain : u.main = s.main) (hwire : u.wire = s.wire) : t.main ≠ .writing after := by
  intro ht
  have hfree : s.holder = none := holder_eq_none (hwire ▸ lockFree_of_beginWrite h)
  have hwriting : s.main = .writing after := by
    rcases beginWrite_eq_some h with ⟨e, -, rfl⟩ | ⟨frame, wire, -, -, rfl⟩
    · rw [← hmain]
      exact (writing_afterWrite ht).1
    · rw [← hmain]
      exact ht
  rw [hs hwriting] at hfree
  cases hfree

theorem receive_main_ne (s : AgentState) (hmain : s.main = .idle) (msg : IpcMessage)
    (after : MainAfter) : (s.receive msg).main ≠ .writing after := by
  unfold receive offer
  split
  · simp
  · split <;> simp
  · split
    · split_ifs <;> simp [hmain]
    · simp [hmain]
  · simp [hmain]
  · simp [hmain]

/-- A dropped write of a task does not concern the main loop. -/
theorem holder_dropWrite (h : s.holder = some .main) (hw : w ≠ .main) :
    (s.dropWrite w).holder = some .main := by
  unfold dropWrite
  rw [if_neg]
  · exact h
  · rw [h]
    exact fun heq => hw (Option.some.inj heq).symm

/-- The next piece of a frame. -/
theorem writing_put {n : ℕ} (hs : ∀ after, s.main = .writing after → s.holder = some .main)
    (h : s.step json (.put n) = some t) (after : MainAfter) (ht : t.main = .writing after) :
    t.holder = some .main := by
  obtain ⟨w, wire, hw, -, ⟨rfl, hholder⟩ | ⟨-, rfl⟩⟩ := put_returns h
  · rw [hholder, ← hw]
    exact hs after ht
  · obtain ⟨hmain, hne⟩ := writing_afterWrite ht
    rw [hs after hmain] at hw
    exact absurd (Option.some.inj hw).symm hne

/-- A main loop that writes holds the lock, after every step. -/
theorem writing_step (hs : ∀ after, s.main = .writing after → s.holder = some .main)
    (h : s.step json e = some t) (after : MainAfter) (ht : t.main = .writing after) :
    t.holder = some .main := by
  cases moves_of_step h with
  | @beginMain msg after' _ hmain hbegin =>
      rcases beginWrite_eq_some hbegin with ⟨e, -, rfl⟩ | ⟨frame, wire, -, hstart, rfl⟩
      · exact absurd rfl (writing_afterWrite ht).2
      · obtain ⟨-, hne, rfl⟩ := FrameWriter.start_eq_some hstart
        rfl
  | beginPoller _ hbegin =>
      exact absurd ht (not_writing_of_beginWrite (hs after) hbegin rfl rfl)
  | beginData _ hbegin =>
      exact absurd ht (not_writing_of_beginWrite (hs after) hbegin rfl rfl)
  | beginClose _ hbegin =>
      exact absurd ht (not_writing_of_beginWrite (hs after) hbegin rfl rfl)
  | put hput => exact writing_put hs h after ht
  | putLast hw hput => exact writing_put hs h after ht
  | writeError hw =>
      obtain ⟨hmain, hne⟩ := writing_afterWrite ht
      obtain ⟨wire, hdrop⟩ := dropWrite_eq s _
      rw [hdrop] at hmain
      rw [hs after hmain] at hw
      exact absurd (Option.some.inj hw).symm hne
  | receive hmain => exact absurd ht (receive_main_ne s hmain _ after)
  | @upFailed k | @recvClosed k =>
      obtain ⟨wire, hdrop⟩ := dropWrite_eq s (.task k)
      have hmain : s.main = .writing after := by
        rw [hdrop] at ht
        exact ht
      exact holder_dropWrite (hs after hmain) (by simp)
  | publish | connectFails | authFails | upstreamReady => simp at ht
  | publishFails | serviceFails | spawn | roomClosed | room | stop => simp [enterLoop] at ht
  | _ => exact hs after ht

/-! ## Tasks that are not spawned yet -/

/-- The step moves one stream task, or none. -/
def MovesOne (s t : AgentState) : Prop :=
  t.task = s.task ∨ ∃ k pc, t.task = Function.update s.task k pc

theorem movesOne_goto (s : AgentState) (k : ℕ) (pc : StreamTask) : s.MovesOne (s.goto k pc) :=
  .inr ⟨k, pc, rfl⟩

theorem movesOne_afterWrite (s : AgentState) (w : Writer) (ok : Bool) :
    s.MovesOne (s.afterWrite w ok) := by
  unfold afterWrite
  split
  · split
    · unfold afterMain enterLoop
      split <;> exact .inl rfl
    · exact .inl rfl
  · split <;> exact .inl rfl
  · split
    · exact movesOne_goto ..
    · exact movesOne_goto ..
    · exact .inl rfl

/-- A task that goes on to write, and whose write may fail at once, is moved twice. -/
theorem task_afterWrite_goto (s : AgentState) (k : ℕ) (pc : StreamTask) (ok : Bool) :
    s.MovesOne ((s.goto k pc).afterWrite (.task k) ok) := by
  unfold afterWrite
  simp only
  split
  · rename_i toUp _
    exact .inr ⟨k, if ok then .relaying toUp .reading else .left, Function.update_idem ..⟩
  · exact .inr ⟨k, .done, Function.update_idem ..⟩
  · exact movesOne_goto ..

/-- A write that begins moves its writer. -/
theorem movesOne_beginWrite {u : AgentState} (h : u.beginWrite json w msg = some t)
    (hother : u.task = s.task ∨ ∃ k pc, w = .task k ∧ u = s.goto k pc) : s.MovesOne t := by
  rcases beginWrite_eq_some h with ⟨e, -, rfl⟩ | ⟨frame, wire, -, -, rfl⟩
  · rcases hother with hsame | ⟨k, pc, rfl, rfl⟩
    · have hmoved := movesOne_afterWrite u w false
      unfold MovesOne at hmoved ⊢
      rwa [hsame] at hmoved
    · exact task_afterWrite_goto s k pc false
  · rcases hother with hsame | ⟨k, pc, rfl, rfl⟩
    · exact .inl hsame
    · exact movesOne_goto s k pc

theorem receive_task (s : AgentState) (msg : IpcMessage) : (s.receive msg).task = s.task := by
  unfold receive offer
  split
  · rfl
  · split <;> rfl
  · split
    · split_ifs <;> rfl
    · rfl
  · rfl
  · rfl

/-- Every step moves one stream task at most. -/
theorem movesOne_step (h : s.step json e = some t) : s.MovesOne t := by
  cases moves_of_step h with
  | beginMain _ hbegin => exact movesOne_beginWrite hbegin (.inl rfl)
  | beginPoller _ hbegin => exact movesOne_beginWrite hbegin (.inl rfl)
  | beginData _ hbegin => exact movesOne_beginWrite hbegin (.inr ⟨_, _, rfl, rfl⟩)
  | beginClose _ hbegin => exact movesOne_beginWrite hbegin (.inr ⟨_, _, rfl, rfl⟩)
  | @putLast n w wire hw hput => exact movesOne_afterWrite { s with wire := wire } w true
  | @writeError w hw =>
      have hmoved := movesOne_afterWrite (s.dropWrite w) w false
      unfold MovesOne at hmoved ⊢
      rwa [dropWrite_task] at hmoved
  | receive => exact .inl (receive_task s _)
  | @upFailed k | @recvClosed k =>
      refine .inr ⟨k, .left, ?_⟩
      show Function.update (s.dropWrite (.task k)).task k .left = _
      rw [dropWrite_task]
  | stop => exact .inl dropWrite_task
  | spawn | upstreamData | upstreamEnd | recv | upWritten | remove => exact .inr ⟨_, _, rfl⟩
  | _ => exact .inl rfl

theorem composed_step (hs : s.Composed) (h : s.step json e = some t) : t.Composed := by
  obtain ⟨n, hn⟩ := hs.spare
  refine ⟨writing_step hs.writing h, ?_⟩
  unfold Spare
  rcases movesOne_step h with htask | ⟨j, pc, htask⟩
  · rw [htask]
    exact ⟨n, hn⟩
  · rw [htask]
    refine ⟨max n (j + 1), fun k hk => ?_⟩
    rw [Function.update_of_ne (by omega)]
    exact hn k (by omega)

theorem Spare.afterMain (hs : s.Spare) (after : MainAfter) (ok : Bool) :
    (s.afterMain after ok).Spare := by
  obtain ⟨n, hn⟩ := hs
  refine ⟨n, fun k hk => ?_⟩
  rw [← hn k hk]
  unfold AgentState.afterMain enterLoop
  split <;> rfl

/-- A main loop that does not write is composed. -/
theorem Spare.composed (hs : s.Spare) (hmain : ∀ after, s.main ≠ .writing after) : s.Composed :=
  ⟨fun after h => absurd h (hmain after), hs⟩

theorem composed_init (json : SerdeJson) (token : String) : (machine json token).init.Composed :=
  ⟨by simp [machine], 0, fun _ _ => rfl⟩

/-! ## On the way to the loop -/

/-- The agent can stop, by steps that succeed. -/
def CanStop (json : SerdeJson) (token : String) (s : AgentState) : Prop :=
  (machine json token).CanReach AgentTaskEvent.Succeeds s fun t => t.main = .stopped

theorem canStop_idle (hmain : s.main = .idle) : s.CanStop json token := by
  have hstep : (machine json token).step s .stop =
      some { s.dropWrite .poller with main := .stopped, poller := .stopped } := if_pos hmain
  exact .one (a := .stop) trivial hstep rfl

/-- The rest of a frame goes out and the write returns. -/
theorem step_put_rest (json : SerdeJson) {p : Pending (Writer × IpcMessage) UInt8}
    (hp : s.wire.current = some p) :
    ∃ wire, FrameWriter.current wire = none ∧ s.step json (.put p.todo.length) =
      some ({ s with wire := wire }.afterWrite p.message.1 true) := by
  have hput : s.wire.put p.todo.length = some
      { out := s.wire.out ++ p.todo
        sent := s.wire.sent ++ [(p.message, p.done ++ p.todo)]
        current := none } := by
    have hne : p.todo.length ≠ 0 := fun h => p.todo_ne_nil (List.length_eq_zero_iff.mp h)
    unfold FrameWriter.put
    rw [hp]
    simp [hne]
  have hholder : s.holder = some p.message.1 := by
    unfold holder
    rw [hp]
    rfl
  refine ⟨{ out := s.wire.out ++ p.todo, sent := s.wire.sent ++ [(p.message, p.done ++ p.todo)],
            current := none }, rfl, ?_⟩
  simp only [step, hholder, hput]
  rfl

/-- The writer lock is released while the main loop waits for it. -/
theorem canReach_lockFree (hs : s.Composed) (hmain : ∀ after, s.main ≠ .writing after) :
    (machine json token).CanReach AgentTaskEvent.Succeeds s fun t =>
      t.wire.current = none ∧ t.main = s.main ∧ t.Composed := by
  rcases hp : s.wire.current with _ | p
  · exact .here ⟨hp, rfl, hs⟩
  · obtain ⟨wire, hfree, hstep⟩ := step_put_rest json hp
    refine .one (a := .put p.todo.length) trivial hstep ⟨?_, ?_, composed_step hs hstep⟩
    · rw [afterWrite_wire]
      exact hfree
    · exact main_afterWrite (.inr hmain)

/-- The agent can stop whatever comes of the write. -/
def StopsAfter (json : SerdeJson) (token : String) (after : MainAfter) : Prop :=
  ∀ (s : AgentState) (ok : Bool), s.Spare → (s.afterMain after ok).CanStop json token

theorem StopsAfter.writing {after : MainAfter} (h : StopsAfter json token after) (hs : s.Composed)
    (hmain : s.main = .writing after) : s.CanStop json token := by
  obtain ⟨p, hp, hwriter⟩ := Option.map_eq_some_iff.mp (hs.writing after hmain)
  obtain ⟨wire, -, hstep⟩ := step_put_rest json hp
  have hwriting : ({ s with wire := wire } : AgentState).main = .writing after := hmain
  rw [hwriter, main_afterWrite_writing hwriting] at hstep
  exact .step (a := .put p.todo.length) trivial hstep (h _ true hs.spare)

/-- No frame is empty. -/
theorem frameOf_ne_nil {frame : Bytes} (h : frameOf json msg = .ok frame) : frame ≠ [] := by
  unfold frameOf at h
  rcases hencode : encodeMessage json msg with err | ⟨ty, payload⟩
  all_goals rw [hencode] at h
  · cases h
  · obtain rfl : frameBytes ty payload = frame := Except.ok.inj h
    simp [frameBytes]

/-- A main loop that wants to write gets the lock. -/
theorem StopsAfter.want {after : MainAfter} (h : StopsAfter json token after) (hs : s.Composed)
    (hmain : s.main = .want msg after) : s.CanStop json token := by
  apply (canReach_lockFree hs (by simp [hmain])).trans
  rintro u ⟨hfree, hmain', hu⟩
  rw [hmain] at hmain'
  rcases hframe : frameOf json msg with err | frame
  · have hstep : (machine json token).step u (.begin .main) =
        some ({ u with main := .writing after }.afterMain after false) := by
      show u.step json (.begin .main) = _
      simp [step, hmain', beginWrite, hfree, hframe, afterWrite]
    exact .step (a := .begin .main) trivial hstep (h _ false hu.spare)
  · have hne : frame ≠ [] := frameOf_ne_nil hframe
    have hstep : (machine json token).step u (.begin .main) =
        some { u with
          main := .writing after
          wire := { u.wire with current := some ⟨(.main, msg), [], frame, hne⟩ } } := by
      show u.step json (.begin .main) = _
      simp [step, hmain', beginWrite, hfree, hframe, FrameWriter.start, hne]
    have hcomposed := composed_step hu (show u.step json (.begin .main) = _ from hstep)
    exact .step (a := .begin .main) trivial hstep (h.writing hcomposed rfl)

theorem stopsAfter_loop : StopsAfter json token .loop :=
  fun s ok _ => by
    cases ok
    all_goals exact canStop_idle rfl

theorem stopsAfter_spawnPoller : StopsAfter json token .spawnPoller :=
  fun s ok _ => by
    cases ok
    all_goals exact canStop_idle rfl

/-- The task of a stream that is accepted is spawned. -/
theorem canStop_inserting {id : UInt32} (hs : s.Spare) (hmain : s.main = .inserting id) :
    s.CanStop json token := by
  obtain ⟨n, hn⟩ := hs
  have hstep : (machine json token).step s (.spawn n) =
      some { s.goto n (.relaying .recv .reading) with
        main := .idle
        streams := Function.update s.streams id (some n)
        streamId := Function.update s.streamId n id
        queue := Function.update s.queue n [] } := by
    show s.step json (.spawn n) = _
    simp [step, hmain, hn n le_rfl]
  exact .step (a := .spawn n) trivial hstep (canStop_idle rfl)

theorem stopsAfter_insert (id : UInt32) : StopsAfter json token (.insert id) := by
  intro s ok hs
  cases ok
  · exact canStop_idle rfl
  · exact canStop_inserting hs rfl

/-- The initial snapshot is computed and published. -/
theorem canStop_publishing (hs : s.Spare) (hmain : s.main = .publishing) : s.CanStop json token := by
  have hstep : (machine json token).step s (.publish .empty []) =
      some { (s.refresh .empty []).1 with
        main := .want (.deviceSnapshot (s.refresh .empty []).2) .spawnPoller } := if_pos hmain
  apply Machine.CanReach.step (a := .publish .empty []) trivial hstep
  exact stopsAfter_spawnPoller.want (Spare.composed hs (by simp)) rfl

theorem stopsAfter_publish : StopsAfter json token .publish := by
  intro s ok hs
  cases ok
  · exact .here rfl
  · exact canStop_publishing hs rfl

theorem stopsAfter (after : MainAfter) : StopsAfter json token after := by
  cases after with
  | publish => exact stopsAfter_publish
  | spawnPoller => exact stopsAfter_spawnPoller
  | loop => exact stopsAfter_loop
  | insert id => exact stopsAfter_insert id

/-- The upstream is connected, and the stream accepted. -/
theorem canStop_opening {req : OpenPrivateStream} {route : RouteEntry} (hs : s.Spare)
    (hmain : s.main = .opening req route) : s.CanStop json token := by
  have hstep : (machine json token).step s .upstreamReady =
      some { s with main := .want (.openResult ⟨req.streamId, true, none⟩) (.insert req.streamId) } := by
    show s.step json .upstreamReady = _
    simp [step, hmain]
  apply Machine.CanReach.step (a := .upstreamReady) trivial hstep
  exact (stopsAfter (.insert req.streamId)).want (Spare.composed hs (by simp)) rfl

/-! ## Out of a wait for room -/

/-- There is room, or the queue is closed. -/
theorem canStop_room {data : Bytes} (hmain : s.main = .sending k data)
    (h : s.task k = .done ∨ ¬ s.Full k) : s.CanStop json token := by
  by_cases hdone : s.task k = .done
  · have hstep : (machine json token).step s .room = some { s with main := .idle } := by
      show s.step json .room = _
      simp [step, hmain, hdone]
    exact .step (a := .room) trivial hstep (canStop_idle rfl)
  · have hstep : (machine json token).step s .room =
        some { s with
          main := .idle
          queue := Function.update s.queue k (s.queue k ++ [data]) } := by
      show s.step json .room = _
      simp [step, hmain, hdone, h.resolve_left hdone]
    exact .step (a := .room) trivial hstep (canStop_idle rfl)

/-- A task in its `select!` goes on to take data out of its queue. -/
theorem canStop_relaying {data : Bytes} {toUp : ToUp} {fromUp : FromUp}
    (hmain : s.main = .sending k data) (htask : s.task k = .relaying toUp fromUp) :
    s.CanStop json token := by
  -- with every piece that is taken out, the queue gets shorter, until there is room
  induction hn : (s.queue k).length using Nat.strong_induction_on generalizing s toUp with
  | _ n ih =>
      have hrecv : ∀ u : AgentState, u.main = .sending k data → u.task k = .relaying .recv fromUp →
          (u.queue k).length = n → u.CanStop json token := by
        intro u hu htask' hlen
        rcases hqueue : u.queue k with _ | ⟨piece, rest⟩
        · apply canStop_room hu
          right
          unfold Full
          rw [hqueue]
          decide
        · have hstep : (machine json token).step u (.recv k) =
              some { u.goto k (.relaying (.writing piece) fromUp) with
                queue := Function.update u.queue k rest } := by
            show u.step json (.recv k) = _
            simp [step, htask', hqueue]
          apply Machine.CanReach.step (a := .recv k) trivial hstep
          have hshorter : rest.length < n := by
            rw [← hlen, hqueue]
            exact Nat.lt_succ_self _
          have hwriting : Function.update u.task k (.relaying (.writing piece) fromUp) k =
              .relaying (.writing piece) fromUp := Function.update_self ..
          have hrest : Function.update u.queue k rest k = rest := Function.update_self ..
          exact ih rest.length hshorter hu hwriting (congrArg List.length hrest)
      rcases toUp with _ | piece
      · exact hrecv s hmain htask hn
      · have hstep : (machine json token).step s (.upWritten k) =
            some { s.goto k (.relaying .recv fromUp) with
              toUpstream := Function.update s.toUpstream k (s.toUpstream k ++ [piece]) } := by
          show s.step json (.upWritten k) = _
          simp [step, htask]
        apply Machine.CanReach.step (a := .upWritten k) trivial hstep
        apply hrecv
        · exact hmain
        · exact Function.update_self ..
        · exact hn

/-- **A main loop that is not wedged gets back to the loop and stops.** -/
theorem canStop_of_not_wedged (hs : s.Composed) (hl : s.Linked) (h : ¬ s.MainLoopWedged) :
    s.CanStop json token := by
  rcases hmain : s.main with ⟨msg, after⟩ | after | _ | _ | ⟨req, route⟩ | id | ⟨k, data⟩ | _
  · exact (stopsAfter after).want hs hmain
  · exact (stopsAfter after).writing hs hmain
  · exact canStop_publishing hs.spare hmain
  · exact canStop_idle hmain
  · exact canStop_opening hs.spare hmain
  · exact canStop_inserting hs.spare hmain
  · by_cases hroom : s.task k = .done ∨ ¬ s.Full k
    · exact canStop_room hmain hroom
    · obtain ⟨hdone, hfull⟩ := not_or.mp hroom
      have hlinked := hl.sending k data hmain
      rcases htask : s.task k with _ | ⟨toUp, fromUp⟩ | _ | _ | _ | _
      · exact absurd (.inl htask) hlinked
      · exact canStop_relaying hmain htask
      · exact absurd ⟨k, data, hmain, not_not.mp hfull, htask⟩ h
      · exact absurd (.inr (.inl htask)) hlinked
      · exact absurd (.inr (.inr htask)) hlinked
      · exact absurd htask hdone
  · exact .here hmain

/-- A wedged agent never stops, whatever its tasks do and whatever fails. -/
theorem not_canReach_stopped (hl : s.Linked) (hw : s.MainLoopWedged) :
    ¬ (machine json token).CanReach (fun _ => True) s fun t => t.main = .stopped := by
  refine Machine.not_canReach (I := fun s => s.Linked ∧ s.MainLoopWedged) ⟨hl, hw⟩ ?_ ?_
  · rintro s e t ⟨hl, hw⟩ hs
    exact ⟨linked_step hl hs, wedged_step hl hw hs⟩
  · rintro t ⟨-, k, data, hmain, -⟩ hstopped
    rw [hmain] at hstopped
    cases hstopped

/-- A main loop that has returned does nothing more. -/
theorem stopped_step (hs : s.main = .stopped) (h : s.step json e = some t) : t.main = .stopped := by
  cases moves_of_step h with
  | beginMain hmain | publish hmain | publishFails hmain | receive hmain | connectFails hmain
  | authFails hmain | serviceFails hmain | upstreamReady hmain | spawn hmain | roomClosed hmain
  | room hmain | stop hmain =>
      simp [hs] at hmain
  | beginPoller _ hbegin => exact (main_beginWrite hbegin (by simp [hs])).trans hs
  | beginData _ hbegin => exact (main_beginWrite hbegin (by simp [hs, goto])).trans hs
  | beginClose _ hbegin => exact (main_beginWrite hbegin (by simp [hs, goto])).trans hs
  | putLast => exact (main_afterWrite (.inr (by simp [hs]))).trans hs
  | @writeError w hw =>
      obtain ⟨wire, hdrop⟩ := dropWrite_eq s w
      rw [hdrop]
      exact (main_afterWrite (.inr (by simp [hs]))).trans hs
  | @upFailed k | @recvClosed k =>
      obtain ⟨wire, hdrop⟩ := dropWrite_eq s (.task k)
      rw [hdrop]
      exact hs
  | _ => exact hs

end AgentState

end AdbHub
