import AdbHub.Agent.Control

/-!
# Stream queues of an agent

The agent side of private streams (`agent.rs`, `handle_daemon_message` and `open_private_stream`):
the main loop hands the data of the daemon to the stream tasks through bounded queues.

* `routerSimulation` — main loop and stream tasks are the library's `Router`.
* **`main_loop_unblocked_iff`** — the main loop never waits, holding the streams lock, for a task
  that wants the same lock, exactly when no data is taken up for a task that has left its `select!`
  with a full queue, and no task leaves its `select!` while the main loop waits for room in its
  full queue.
* **`wedged_forever`** — the main loop never gets out of such a wait.
-/

namespace AdbHub

open Lib

/-! ## Main loop and stream tasks are a router -/

/-- A stream task as a receiver of the library. -/
def StreamTask.receiver : StreamTask → Receiver
  | .relaying _ _ => .consuming
  | .left => .leaving
  | _ => .gone

/-- The task has no queue in the map any more, or not yet, and has not returned. -/
def StreamTask.Unlinked (pc : StreamTask) : Prop :=
  pc = .absent ∨ pc = .wantClose ∨ pc = .writingClose

theorem StreamTask.receiver_eq_gone {pc : StreamTask} (h : ¬ pc.Unlinked) :
    pc.receiver = .gone ↔ pc = .done := by
  cases pc <;> simp [receiver, Unlinked] at h ⊢

theorem StreamTask.receiver_eq_leaving {pc : StreamTask} :
    pc.receiver = .leaving ↔ pc = .left := by
  cases pc <;> simp [receiver]

namespace AgentState

/-- What the router sees of the agent. -/
def router (s : AgentState) : Router ℕ Bytes where
  waiting := s.main.waiting
  queue := s.queue
  receiver := StreamTask.receiver ∘ s.task

/-- The task in its `select!` that holds the writer lock. -/
def relayWriter (s : AgentState) : Option ℕ :=
  match s.holder with
  | some (.task k) =>
      match s.task k with
      | .relaying _ .writing => some k
      | _ => none
  | _ => none

/-- What a step is to the router. -/
def action (s : AgentState) : AgentTaskEvent → Option (RouterAction ℕ Bytes)
  | .receive (.streamData id data) => (s.streams id).map fun k => .offer k data
  | .spawn k => some (.join k)
  | .room => some .resume
  | .recv k => some (.take k)
  | .upstreamEnd k | .upFailed k | .recvClosed k => some (.leave k)
  | .writeError => s.relayWriter.map fun k => .leave k
  | .remove k => some (.unlink k)
  | _ => none

/-- The tasks to which data is sent have their queue in the map. -/
structure Linked (s : AgentState) : Prop where
  table : ∀ id k, s.streams id = some k → s.streamId k = id ∧ ¬ (s.task k).Unlinked
  sending : ∀ k data, s.main = .sending k data → ¬ (s.task k).Unlinked

variable {json : SerdeJson} {token : String} {s t : AgentState} {e : AgentTaskEvent} {w : Writer}
  {msg : IpcMessage} {ok : Bool} {k : ℕ} {pc : StreamTask}

/-- Steps that concern neither a queue nor a task. -/
theorem router_congr (hmain : t.main.waiting = s.main.waiting) (hqueue : t.queue = s.queue)
    (htask : t.task = s.task) : t.router = s.router := by
  unfold router
  rw [hmain, hqueue, htask]

/-- Moving a task that wants nothing of the router. -/
theorem router_move (hmain : t.main.waiting = s.main.waiting) (hqueue : t.queue = s.queue)
    (htask : t.task = Function.update s.task k pc)
    (h : (s.task k).receiver = pc.receiver) : t.router = s.router := by
  unfold router
  rw [hmain, hqueue, htask, Function.comp_update, ← h]
  congr
  exact Function.update_eq_self k _

/-- A task that ends its `select!` leaves the router. -/
theorem router_left {toUp : ToUp} {fromUp : FromUp} (hpc : s.task k = .relaying toUp fromUp) :
    s.router.step agentStreamCapacity (.leave k) = some (s.goto k .left).router := by
  simp [Router.step, router, goto, hpc, StreamTask.receiver, Function.comp_update]

theorem router_dropWrite : (s.dropWrite w).router = s.router := by
  obtain ⟨wire, h⟩ := dropWrite_eq s w
  rw [h]
  rfl

@[simp] theorem dropWrite_task : (s.dropWrite w).task = s.task := by
  obtain ⟨wire, h⟩ := dropWrite_eq s w
  rw [h]

/-- A return from `write_message` does not concern the router, unless a task leaves its `select!`
with it. -/
theorem router_afterWrite
    (h : ∀ k toUp, w = .task k → s.task k = .relaying toUp .writing → ok = true) :
    (s.afterWrite w ok).router = s.router := by
  unfold afterWrite
  split
  · split
    · rename_i after hmain
      apply router_congr _ _ _
      · rw [hmain]
        unfold afterMain enterLoop
        split <;> rfl
      all_goals
        unfold afterMain enterLoop
        split <;> rfl
    · rfl
  · split <;> rfl
  · rename_i k
    split
    · rename_i toUp hpc
      rw [h k toUp rfl hpc]
      exact router_move rfl rfl rfl (by rw [hpc]; rfl)
    · rename_i hpc
      exact router_move rfl rfl rfl (by rw [hpc]; rfl)
    · rfl

/-- The beginning of a write does not concern the router. -/
theorem router_beginWrite (h : s.beginWrite json w msg = some t)
    (hdata : ∀ k toUp, w = .task k → s.task k = .relaying toUp .writing →
      ∃ id data, msg = .streamData id data) : t.router = s.router := by
  rcases beginWrite_eq_some h with ⟨e, he, rfl⟩ | ⟨frame, wire, -, -, rfl⟩
  · apply router_afterWrite
    intro k toUp hw hpc
    obtain ⟨id, data, rfl⟩ := hdata k toUp hw hpc
    cases he
  · rfl

theorem receiver_router_eq_gone (h : ¬ (s.task k).Unlinked) :
    s.router.receiver k = .gone ↔ s.task k = .done :=
  StreamTask.receiver_eq_gone h

/-- Data for a task is offered to the router. -/
theorem router_offer (hwait : s.main.waiting = none) (h : ¬ (s.task k).Unlinked) (data : Bytes) :
    s.router.step agentStreamCapacity (.offer k data) = some (s.offer k data).router := by
  have hgone := receiver_router_eq_gone h
  have hfull : s.router.Full agentStreamCapacity k ↔ s.Full k := Iff.rfl
  rw [Router.step_offer hwait, offer]
  simp only [hgone, hfull]
  split_ifs <;> rfl

theorem waiting_router {data : Bytes} (h : s.main = .sending k data) :
    s.router.waiting = some (k, data) := by
  show s.main.waiting = _
  rw [h]
  rfl

/-- The router mirrors a step. -/
def RouterStep (s : AgentState) (e : AgentTaskEvent) (t : AgentState) : Prop :=
  (Router.machine agentStreamCapacity).Mirrors (s.action e) s.router t.router

/-- A failed write of a relaying task ends its `select!`; any other failed write does not concern
the router. -/
theorem routerStep_writeError (hw : s.holder = some w) :
    s.RouterStep .writeError ((s.dropWrite w).afterWrite w false) := by
  by_cases hrelay : ∃ k toUp, w = .task k ∧ s.task k = .relaying toUp .writing
  · obtain ⟨k, toUp, rfl, hpc⟩ := hrelay
    refine .inr ⟨.leave k, by simp [action, relayWriter, hw, hpc], ?_⟩
    have hleft : (s.dropWrite (.task k)).afterWrite (.task k) false =
        (s.dropWrite (.task k)).goto k .left := by
      simp [afterWrite, hpc]
    rw [hleft, ← router_dropWrite (w := .task k)]
    apply router_left
    rw [dropWrite_task, hpc]
  · push Not at hrelay
    refine .inl ⟨?_, ?_⟩
    · have hnone : s.relayWriter = none := by
        unfold relayWriter
        rw [hw]
        split
        · rename_i k hk
          split
          · rename_i toUp hpc
            exact absurd hpc (hrelay k toUp (Option.some.inj hk))
          · rfl
        · rfl
      rw [action, hnone]
      rfl
    · rw [router_afterWrite, router_dropWrite]
      intro k toUp hwk hpc
      rw [dropWrite_task] at hpc
      exact absurd hpc (hrelay k toUp hwk)

/-- Taking up a message concerns the router if it is data for an open stream. -/
theorem routerStep_receive (hl : s.Linked) (hmain : s.main = .idle) (msg : IpcMessage) :
    s.RouterStep (.receive msg) (s.receive msg) := by
  have hwait : s.main.waiting = none := by
    rw [hmain]
    rfl
  cases msg with
  | ping => exact .inl ⟨rfl, router_congr (by rw [hwait]; rfl) rfl rfl⟩
  | openPrivateStream req =>
      refine .inl ⟨rfl, ?_⟩
      unfold receive
      simp only
      split <;> exact router_congr (by rw [hwait]; rfl) rfl rfl
  | streamData id data =>
      rcases hid : s.streams id with _ | k
      · exact .inl ⟨by simp [action, hid], by simp [receive, hid]⟩
      · refine .inr ⟨.offer k data, by simp [action, hid], ?_⟩
        simp only [receive, hid]
        exact router_offer hwait (hl.table id k hid).2 data
  | registerAgent | deviceSnapshot | deviceSnapshotChanged | openResult | streamClose | pong =>
      exact .inl ⟨rfl, rfl⟩

/-- The router mirrors every step. -/
theorem router_step (hl : s.Linked) (h : s.step json e = some t) : s.RouterStep e t := by
  cases moves_of_step h with
  | beginMain hmain hbegin =>
      refine .inl ⟨rfl, ?_⟩
      rw [router_beginWrite hbegin (by rintro k toUp ⟨⟩)]
      exact router_congr (by rw [hmain]; rfl) rfl rfl
  | beginPoller hpoller hbegin =>
      refine .inl ⟨rfl, ?_⟩
      rw [router_beginWrite hbegin (by rintro k toUp ⟨⟩)]
      rfl
  | beginData htask hbegin =>
      refine .inl ⟨rfl, ?_⟩
      rw [router_beginWrite hbegin fun _ _ _ _ => ⟨_, _, rfl⟩]
      exact router_move rfl rfl rfl (by rw [htask]; rfl)
  | @beginClose k _ htask hbegin =>
      refine .inl ⟨rfl, ?_⟩
      rw [router_beginWrite hbegin]
      · exact router_move rfl rfl rfl (by rw [htask]; rfl)
      · intro j toUp hj hpc
        obtain rfl : k = j := by simpa using hj
        simp [goto] at hpc
  | put => exact .inl ⟨rfl, rfl⟩
  | putLast => exact .inl ⟨rfl, router_afterWrite fun _ _ _ _ => rfl⟩
  | writeError hw => exact routerStep_writeError hw
  | publish hmain | publishFails hmain | connectFails hmain | authFails hmain | serviceFails hmain
  | upstreamReady hmain => exact .inl ⟨rfl, router_congr (by rw [hmain]; rfl) rfl rfl⟩
  | poll | pollFails => exact .inl ⟨rfl, rfl⟩
  | receive hmain => exact routerStep_receive hl hmain _
  | @spawn k id hmain htask =>
      refine .inr ⟨.join k, rfl, ?_⟩
      simp [Router.step, router, goto, hmain, htask, MainLoop.waiting, StreamTask.receiver,
        Function.comp_update]
  | @roomClosed k data hmain htask =>
      refine .inr ⟨.resume, rfl, ?_⟩
      have hgone := (receiver_router_eq_gone (hl.sending k data hmain)).mpr htask
      rw [Router.machine_step, Router.step_resume (waiting_router hmain), if_pos hgone]
      rfl
  | @room k data hmain htask hroom =>
      refine .inr ⟨.resume, rfl, ?_⟩
      have hgone := (receiver_router_eq_gone (hl.sending k data hmain)).not.mpr htask
      have hfull : ¬ s.router.Full agentStreamCapacity k := hroom
      rw [Router.machine_step, Router.step_resume (waiting_router hmain), if_neg hgone, if_neg hfull]
      rfl
  | stop hmain =>
      refine .inl ⟨rfl, ?_⟩
      rw [← router_dropWrite (s := s) (w := .poller)]
      obtain ⟨wire, hdrop⟩ := dropWrite_eq s .poller
      exact router_congr (by rw [hdrop, hmain]; rfl) rfl rfl
  | upstreamData htask | upWritten htask =>
      exact .inl ⟨rfl, router_move rfl rfl rfl (by rw [htask]; rfl)⟩
  | @upstreamEnd k toUp htask => exact .inr ⟨.leave k, rfl, router_left htask⟩
  | @recv k fromUp data rest htask hqueue =>
      refine .inr ⟨.take k, rfl, ?_⟩
      have hsame : Function.update (StreamTask.receiver ∘ s.task) k .consuming =
          StreamTask.receiver ∘ s.task := by
        rw [Function.update_eq_self_iff, Function.comp_apply, htask]
        rfl
      simp [Router.step, router, goto, htask, hqueue, StreamTask.receiver, Function.comp_update,
        hsame]
  | @upFailed k _ _ htask | @recvClosed k _ htask =>
      refine .inr ⟨.leave k, rfl, ?_⟩
      rw [← router_dropWrite (w := .task k)]
      apply router_left
      rw [dropWrite_task, htask]
  | @remove k htask hfree =>
      refine .inr ⟨.unlink k, rfl, ?_⟩
      have hnone : s.main.waiting = none := hfree
      simp [Router.step, router, goto, htask, hnone, StreamTask.receiver, Function.comp_update]

/-! ## Queues in the map belong to tasks that can still take data -/

/-- A step that leaves the map alone and takes no queue out of it. -/
theorem Linked.keep (hl : s.Linked) (hstreams : t.streams = s.streams)
    (hid : t.streamId = s.streamId) (hmain : ∀ k data, t.main = .sending k data → s.main = t.main)
    (htask : ∀ j, ¬ (s.task j).Unlinked → ¬ (t.task j).Unlinked) : t.Linked := by
  constructor
  · intro id j hj
    rw [hstreams] at hj
    rw [hid]
    exact ⟨(hl.table id j hj).1, htask j (hl.table id j hj).2⟩
  · intro j data hj
    exact htask j (hl.sending j data ((hmain j data hj).trans hj))

/-- Moving a task whose queue does not leave the map. -/
theorem Linked.goto (hl : s.Linked) (h : pc.Unlinked → (s.task k).Unlinked) :
    (s.goto k pc).Linked := by
  refine hl.keep rfl rfl (fun _ _ _ => rfl) fun j hj => ?_
  show ¬ (Function.update s.task k pc j).Unlinked
  by_cases hjk : j = k
  · subst hjk
    rw [Function.update_self]
    exact fun hpc => hj (h hpc)
  · rwa [Function.update_of_ne hjk]

theorem Linked.dropWrite (hl : s.Linked) : (s.dropWrite w).Linked := by
  obtain ⟨wire, h⟩ := dropWrite_eq s w
  rw [h]
  exact ⟨hl.table, hl.sending⟩

theorem Linked.afterWrite (hl : s.Linked) : (s.afterWrite w ok).Linked := by
  unfold AgentState.afterWrite
  split
  · split
    · unfold afterMain enterLoop
      split <;> exact ⟨hl.table, by rintro k data ⟨⟩⟩
    · exact hl
  · split
    · exact ⟨hl.table, hl.sending⟩
    · exact hl
  · split
    · apply hl.goto
      cases ok <;> simp [StreamTask.Unlinked]
    · apply hl.goto
      simp [StreamTask.Unlinked]
    · exact hl

theorem Linked.beginWrite (hl : s.Linked) (h : s.beginWrite json w msg = some t) : t.Linked := by
  rcases beginWrite_eq_some h with ⟨e, -, rfl⟩ | ⟨frame, wire, -, -, rfl⟩
  · exact hl.afterWrite
  · exact ⟨hl.table, hl.sending⟩

theorem Linked.receive (hl : s.Linked) (msg : IpcMessage) : (s.receive msg).Linked := by
  cases msg with
  | ping => exact ⟨hl.table, by rintro k data ⟨⟩⟩
  | openPrivateStream req =>
      unfold AgentState.receive
      simp only
      split <;> exact ⟨hl.table, by rintro k data ⟨⟩⟩
  | streamData id data =>
      rcases hid : s.streams id with _ | k
      · simpa [AgentState.receive, hid] using hl
      · simp only [AgentState.receive, hid, offer]
        split_ifs with hdone hfull
        · exact hl
        · refine ⟨hl.table, fun j d hj => ?_⟩
          obtain ⟨rfl, -⟩ : k = j ∧ data = d := by simpa using hj
          exact (hl.table id k hid).2
        · exact ⟨hl.table, hl.sending⟩
  | streamClose c =>
      refine ⟨fun id j hj => ?_, hl.sending⟩
      by_cases hid : id = c.streamId
      · simp [AgentState.receive, hid] at hj
      · exact hl.table id j (by simpa [AgentState.receive, hid] using hj)
  | registerAgent | deviceSnapshot | deviceSnapshotChanged | openResult | pong => exact hl

theorem linked_step (hl : s.Linked) (h : s.step json e = some t) : t.Linked := by
  cases moves_of_step h with
  | beginMain hmain hbegin =>
      refine Linked.beginWrite ?_ hbegin
      exact ⟨hl.table, by rintro k data ⟨⟩⟩
  | beginPoller hpoller hbegin =>
      refine Linked.beginWrite ?_ hbegin
      exact ⟨hl.table, hl.sending⟩
  | beginData htask hbegin =>
      exact (hl.goto (by simp [StreamTask.Unlinked])).beginWrite hbegin
  | beginClose htask hbegin =>
      exact (hl.goto (by simp [StreamTask.Unlinked, htask])).beginWrite hbegin
  | put | poll | pollFails => exact ⟨hl.table, hl.sending⟩
  | putLast =>
      apply Linked.afterWrite
      exact ⟨hl.table, hl.sending⟩
  | writeError => exact hl.dropWrite.afterWrite
  | publish | publishFails | connectFails | authFails | serviceFails | upstreamReady | roomClosed
  | room => exact ⟨hl.table, by rintro k data ⟨⟩⟩
  | receive => exact hl.receive _
  | @spawn k id hmain htask =>
      refine ⟨fun i j hj => ?_, by rintro j data ⟨⟩⟩
      by_cases hi : i = id
      · obtain rfl : k = j := by simpa [hi] using hj
        simp [hi, AgentState.goto, StreamTask.Unlinked]
      · obtain ⟨hsid, hun⟩ := hl.table i j (by simpa [hi] using hj)
        have hjk : j ≠ k := by
          rintro rfl
          exact hun (.inl htask)
        simpa [AgentState.goto, hjk] using ⟨hsid, hun⟩
  | stop => exact ⟨hl.dropWrite.table, by rintro k data ⟨⟩⟩
  | upstreamData | upstreamEnd => exact hl.goto (by simp [StreamTask.Unlinked])
  | recv | upWritten =>
      exact (hl.goto (by simp [StreamTask.Unlinked])).keep rfl rfl (fun _ _ _ => rfl) fun _ hj => hj
  | upFailed | recvClosed => exact hl.dropWrite.goto (by simp [StreamTask.Unlinked])
  | @remove k htask hfree =>
      refine ⟨fun id j hj => ?_, fun j data hj => ?_⟩
      · have hid : id ≠ s.streamId k := by
          rintro rfl
          simp at hj
        obtain ⟨hsid, hun⟩ := hl.table id j (by simpa [hid] using hj)
        have hjk : j ≠ k := fun hjk => hid (by rw [← hsid, hjk])
        exact ⟨hsid, by simpa [AgentState.goto, hjk] using hun⟩
      · have hsj : s.main = .sending j data := hj
        unfold StreamsFree at hfree
        rw [hsj] at hfree
        cases hfree

/-- Main loop and stream tasks refine the library's router. -/
def routerSimulation (json : SerdeJson) (token : String) :
    Simulation (machine json token)
      (Router.machine agentStreamCapacity : Machine (Router ℕ Bytes) _) where
  abs := router
  act := action
  inv := Linked
  inv_init := by constructor <;> rintro _ _ ⟨⟩
  inv_step := linked_step
  abs_init := rfl
  mirrors := router_step

/-! ## The main loop and a task that wants its lock -/

/-- The main loop holds the streams lock and waits for room in the full queue of a task that has
left its `select!` and wants the lock to remove its queue. -/
def MainLoopWedged (s : AgentState) : Prop :=
  ∃ k data, s.main = .sending k data ∧ s.Full k ∧ s.task k = .left

/-- The main loop waits for room in the queue of a task. -/
def Awaits (s : AgentState) (k : ℕ) : Prop := ∃ data, s.main = .sending k data

/-- The task for which data is taken up. -/
def offered (s : AgentState) : AgentTaskEvent → Option ℕ
  | .receive (.streamData id _) => s.streams id
  | _ => none

/-- The task that leaves its `select!`. -/
def leaver (s : AgentState) : AgentTaskEvent → Option ℕ
  | .upstreamEnd k | .upFailed k | .recvClosed k => some k
  | .writeError => s.relayWriter
  | _ => none

/-- No data is taken up for a task that has left its `select!` and whose queue is full, and no task
leaves its `select!` while the main loop waits for room in its queue. -/
def LeavesWithRoom (s : AgentState) (e : AgentTaskEvent) : Prop :=
  (∀ k ∈ s.offered e, ¬ (s.task k = .left ∧ s.Full k)) ∧
    ∀ k ∈ s.leaver e, ¬ (s.Awaits k ∧ s.Full k)

theorem waiting_eq_some {data : Bytes} : s.main.waiting = some (k, data) ↔
    s.main = .sending k data := by
  unfold MainLoop.waiting
  split
  · rename_i hmain
    rw [hmain, Option.some.injEq, Prod.mk.injEq, MainLoop.sending.injEq]
  · rename_i hmain
    exact iff_of_false (by simp) (hmain k data)

theorem map_waiting_eq_some : s.main.waiting.map Prod.fst = some k ↔ s.Awaits k := by
  simp [Awaits, ← waiting_eq_some]

instance (s : AgentState) (k : ℕ) : Decidable (s.Awaits k) :=
  decidable_of_iff _ map_waiting_eq_some

instance (s : AgentState) (e : AgentTaskEvent) : Decidable (s.LeavesWithRoom e) :=
  inferInstanceAs (Decidable (_ ∧ _))

theorem wedged_router : s.router.Wedged agentStreamCapacity ↔ s.MainLoopWedged := by
  simp only [Router.Wedged, MainLoopWedged, router, Function.comp_apply, waiting_eq_some,
    StreamTask.receiver_eq_leaving]
  rfl

theorem unhurried_leave : s.router.Unhurried agentStreamCapacity (.leave k) ↔
    ¬ (s.Awaits k ∧ s.Full k) := by
  simp only [Router.Unhurried, router, waiting_eq_some]
  rfl

theorem unhurried_offer {data : Bytes} : s.router.Unhurried agentStreamCapacity (.offer k data) ↔
    ¬ (s.task k = .left ∧ s.Full k) := by
  simp only [Router.Unhurried, router, Function.comp_apply, StreamTask.receiver_eq_leaving]
  rfl

/-- The condition is the router's. -/
theorem unhurried_iff (e : AgentTaskEvent) :
    (∀ b, s.action e = some b → s.router.Unhurried agentStreamCapacity b) ↔
      s.LeavesWithRoom e := by
  unfold LeavesWithRoom
  cases e with
  | receive msg =>
      cases msg with
      | streamData id data => simp [action, offered, leaver, unhurried_offer]
      | _ => simp [action, offered, leaver]
  | writeError | upstreamEnd | upFailed | recvClosed =>
      simp [action, offered, leaver, unhurried_leave]
  | _ => simp [action, offered, leaver, Router.Unhurried]

/-- **The main loop is not blocked by a leaving task, exactly.** In no state of a run does the main
loop hold the streams lock while it waits for a task that wants the same lock, iff no data is taken
up for a task that has left its `select!` with a full queue, and no task leaves its `select!` while
the main loop waits for room in its queue. Source: `agent.rs`, `handle_daemon_message` and
`open_private_stream`. -/
theorem main_loop_unblocked_iff {events : List AgentTaskEvent}
    (h : (machine json token).Reaches events s) :
    (machine json token).Always (fun s => ¬ s.MainLoopWedged) events ↔
      (machine json token).Run LeavesWithRoom events s := by
  have hsim := (routerSimulation json token).always_iff_run (I := fun _ => True)
    (Q := fun r => ¬ r.Wedged agentStreamCapacity) (fun _ _ _ => trivial) Router.not_wedged_start
    (fun _ _ _ _ hw hs => Router.not_wedged_step_iff hw hs) h
  have hwedged : (fun s => ¬ ((routerSimulation json token).abs s).Wedged agentStreamCapacity) =
      fun s : AgentState => ¬ s.MainLoopWedged :=
    funext fun s => propext (not_congr wedged_router)
  rw [hwedged] at hsim
  exact hsim.trans (Machine.run_congr fun s e => unhurried_iff e)

/-- No step of anybody gets the main loop out. -/
theorem wedged_step (hl : s.Linked) (hw : s.MainLoopWedged) (h : s.step json e = some t) :
    t.MainLoopWedged := by
  rw [← wedged_router] at hw ⊢
  rcases router_step hl h with ⟨-, ht⟩ | ⟨b, -, hstep⟩
  · rwa [ht]
  · exact (hw.step hstep).1

/-- Once the main loop is blocked by a leaving task, it is so forever. -/
theorem wedged_forever {events more : List AgentTaskEvent}
    (h : (machine json token).Reaches events s) (hw : s.MainLoopWedged)
    (hmore : (machine json token).exec s more = some t) : t.MainLoopWedged := by
  have hl : s.Linked := (routerSimulation json token).inv_of_run h
  refine (Machine.exec_invariant (I := fun s => s.Linked ∧ s.MainLoopWedged) hmore ⟨hl, hw⟩ ?_).2
  rintro e - s t ⟨hl, hw⟩ hs
  exact ⟨linked_step hl hs, wedged_step hl hw hs⟩

/-- Data of the daemon for the open stream. -/
def dataForUpstream : AgentTaskEvent := .receive (.streamData 1 [0x61])

/-- One piece of data reaches the upstream, then the upstream closes. -/
theorem upstream_closes_with_room :
    (machine officeJson "t0").Always (fun s => ¬ s.MainLoopWedged)
      (openStream ++ [dataForUpstream, .recv 0, .upWritten 0, .upstreamEnd 0, .remove 0]) := by
  have hchecks : (machine officeJson "t0").checks LeavesWithRoom (machine officeJson "t0").init
      (openStream ++ [dataForUpstream, .recv 0, .upWritten 0, .upstreamEnd 0, .remove 0]) = true := by
    decide +kernel
  obtain ⟨s, hs⟩ := Machine.exists_run_of_checks hchecks
  exact (main_loop_unblocked_iff hs.reaches).mpr hs

/-- The upstream stops reading while data keeps coming, and fails. -/
def upstreamStalls : List AgentTaskEvent :=
  openStream ++ [dataForUpstream, .recv 0] ++ List.replicate 33 dataForUpstream ++ [.upFailed 0]

/-- The main loop holds the streams lock and waits for the task, which wants the lock. -/
theorem stalled_upstream_wedges :
    ∃ s, (machine officeJson "t0").Reaches upstreamStalls s ∧ s.main = .sending 0 [0x61] ∧
      (s.queue 0).length = agentStreamCapacity ∧ s.task 0 = .left ∧ s.MainLoopWedged := by
  have hrun : ((machine officeJson "t0").exec (machine officeJson "t0").init upstreamStalls).map
      (fun s => (s.main, (s.queue 0).length, s.task 0)) =
        some (.sending 0 [0x61], agentStreamCapacity, .left) := by decide +kernel
  obtain ⟨s, hs, hstate⟩ := Option.map_eq_some_iff.mp hrun
  simp only [Prod.mk.injEq] at hstate
  obtain ⟨hmain, hqueue, htask⟩ := hstate
  exact ⟨s, Machine.reaches_of_exec hs, hmain, hqueue, htask, 0, _, hmain, hqueue.ge, htask⟩

end AgentState

end AdbHub
