import AdbHub.Agent.Snapshot
import AdbHub.Lib.Router

/-!
# The tasks of an agent

The main loop, the snapshot poller and the stream tasks of one agent (`agent.rs`). They share the
control socket under the writer lock and the map of open streams under the streams lock.

* `AgentState` — where each task stands, the open streams with their queues, the routes, and the
  control socket. Whoever is writing a frame holds the writer lock; the streams lock is held across
  a step only by a main loop that waits for room in a queue.
* `AgentState.step` — every task may be overtaken at every await point. A frame is put out in
  pieces; it ends early when the write fails, when the `select!` of a stream task ends on its other
  branch, and when the poller is aborted.
* `AgentState.Moves` — what each step requires and where it leads; **`moves_of_step`**.
-/

namespace AdbHub

open Lib

/-! ## Tasks -/

/-- Who writes to the control socket. -/
inductive Writer
  | main
  | poller
  | task (k : ℕ)
  deriving DecidableEq

/-- What the main loop does after a write. -/
inductive MainAfter
  /-- The initial snapshot follows. -/
  | publish
  /-- The poller is spawned and the loop entered. -/
  | spawnPoller
  /-- Back to the loop. -/
  | loop
  /-- The stream is accepted and its task spawned. -/
  | insert (streamId : UInt32)
  deriving DecidableEq

/-- Where the main loop stands. Source: `agent.rs`, `run_agent_with_shutdown`,
`handle_daemon_message` and `open_private_stream`. -/
inductive MainLoop
  /-- It wants the writer lock. -/
  | want (msg : IpcMessage) (after : MainAfter)
  | writing (after : MainAfter)
  /-- It computes the initial snapshot. -/
  | publishing
  /-- It waits for a message of the daemon or for shutdown. -/
  | idle
  /-- It connects to the upstream of a stream. -/
  | opening (req : OpenPrivateStream) (route : RouteEntry)
  /-- It is about to insert the queue of an accepted stream. -/
  | inserting (streamId : UInt32)
  /-- It sends data to task `k` and holds the streams lock; the queue was full. -/
  | sending (k : ℕ) (data : Bytes)
  | stopped
  deriving DecidableEq

/-- Where the poller stands. Source: `agent.rs`, `run_agent_with_shutdown`, `poller`. -/
inductive SnapshotPoller
  | absent
  | sleeping
  | want (msg : IpcMessage)
  | writing
  | stopped
  deriving DecidableEq

/-- The branch of a stream task that writes to the upstream. Source: `agent.rs`, `to_up`. -/
inductive ToUp
  | recv
  | writing (data : Bytes)
  deriving DecidableEq

/-- The branch of a stream task that reads from the upstream. Source: `agent.rs`, `from_up`. -/
inductive FromUp
  | reading
  | want (data : Bytes)
  | writing
  deriving DecidableEq

/-- Where a stream task stands. Source: `agent.rs`, `open_private_stream`, `tokio::spawn`. -/
inductive StreamTask
  | absent
  /-- It is in its `select!`. -/
  | relaying (toUp : ToUp) (fromUp : FromUp)
  /-- The `select!` has ended; it wants the streams lock to remove its queue. -/
  | left
  | wantClose
  | writingClose
  /-- It has returned; its queue is closed. -/
  | done
  deriving DecidableEq

/-- The control socket: messages with their writers, and bytes. -/
abbrev ControlSocket := FrameWriter (Writer × IpcMessage) UInt8

/-- An agent. Stream tasks are numbered as they are spawned. -/
structure AgentState where
  main : MainLoop
  poller : SnapshotPoller := .absent
  task : ℕ → StreamTask := fun _ => .absent
  /-- stream id → task. Source: `agent.rs`, `streams`. -/
  streams : UInt32 → Option ℕ := fun _ => none
  streamId : ℕ → UInt32 := fun _ => 0
  /-- The channel of a task. -/
  queue : ℕ → List Bytes := fun _ => []
  /-- The data written to the upstream of a task. -/
  toUpstream : ℕ → List Bytes := fun _ => []
  routes : AList (fun _ : String => RouteEntry) := ∅
  generation : UInt64 := 0
  /-- The control socket. -/
  wire : ControlSocket := {}

/-- The capacity of a channel. Source: `agent.rs`, `open_private_stream`, `mpsc::channel`. -/
def agentStreamCapacity : ℕ := 32

/-- The buffer for data of the upstream. Source: `agent.rs`, `from_up`, `buf`. -/
def upstreamBuf : ℕ := 64 * 1024

/-- What happens next. -/
inductive AgentTaskEvent
  /-- A writer gets the writer lock and starts its frame. -/
  | begin (w : Writer)
  /-- The next `n` bytes of the frame go out. -/
  | put (n : ℕ)
  /-- The write fails. -/
  | writeError
  /-- The initial snapshot is computed. -/
  | publish (policy : HubPolicySnapshot) (lists : List (BackendConfig × String))
  /-- The initial snapshot fails before its write. -/
  | publishFails
  /-- The poller wakes up and computes a snapshot. -/
  | poll (policy : HubPolicySnapshot) (lists : List (BackendConfig × String))
  /-- The poller fails before its write. -/
  | pollFails
  /-- The main loop takes up a message. -/
  | receive (msg : IpcMessage)
  | connectFails (err : String)
  | authFails (err : String)
  /-- Writing the service to the upstream fails. -/
  | serviceFails
  /-- The upstream is connected and has got the service. -/
  | upstreamReady
  /-- The queue of task `k` is inserted and the task spawned. -/
  | spawn (k : ℕ)
  /-- The main loop finds room in the queue it waits for, or the queue closed. -/
  | room
  /-- Shutdown, or the daemon is gone. -/
  | stop
  | upstreamData (k : ℕ) (data : Bytes)
  /-- The upstream closes or fails while it is read. -/
  | upstreamEnd (k : ℕ)
  /-- The task takes data out of its queue. -/
  | recv (k : ℕ)
  | upWritten (k : ℕ)
  | upFailed (k : ℕ)
  /-- The task finds its queue empty and without sender. -/
  | recvClosed (k : ℕ)
  /-- The task takes the streams lock and removes its queue. -/
  | remove (k : ℕ)

/-! ## Steps -/

/-- For whom the main loop waits, and with what. -/
def MainLoop.waiting : MainLoop → Option (ℕ × Bytes)
  | .sending k data => some (k, data)
  | _ => none

namespace AgentState

/-- The holder of the writer lock. -/
def holder (s : AgentState) : Option Writer := s.wire.current.map fun p => p.message.1

/-- The streams lock is free. -/
def StreamsFree (s : AgentState) : Prop := s.main.waiting = none

instance (s : AgentState) : Decidable s.StreamsFree :=
  inferInstanceAs (Decidable (s.main.waiting = none))

/-- The queue of a task has no room. -/
def Full (s : AgentState) (k : ℕ) : Prop := agentStreamCapacity ≤ (s.queue k).length

instance (s : AgentState) (k : ℕ) : Decidable (s.Full k) :=
  inferInstanceAs (Decidable (agentStreamCapacity ≤ (s.queue k).length))

/-- Move a stream task. -/
def goto (s : AgentState) (k : ℕ) (pc : StreamTask) : AgentState :=
  { s with task := Function.update s.task k pc }

/-- Enter the main loop with the poller running. -/
def enterLoop (s : AgentState) : AgentState := { s with main := .idle, poller := .sleeping }

/-- What the main loop does after a write. A failed registration ends the agent; every other failed
write is logged. -/
def afterMain (s : AgentState) : MainAfter → Bool → AgentState
  | .publish, true => { s with main := .publishing }
  | .publish, false => { s with main := .stopped }
  | .spawnPoller, _ => s.enterLoop
  | .loop, _ => { s with main := .idle }
  | .insert id, true => { s with main := .inserting id }
  | .insert _, false => { s with main := .idle }

/-- What a writer does after `write_message` returned. -/
def afterWrite (s : AgentState) (w : Writer) (ok : Bool) : AgentState :=
  match w with
  | .main =>
      match s.main with
      | .writing after => s.afterMain after ok
      | _ => s
  | .poller =>
      match s.poller with
      | .writing => { s with poller := if ok then .sleeping else .stopped }
      | _ => s
  | .task k =>
      match s.task k with
      | .relaying toUp .writing => s.goto k (if ok then .relaying toUp .reading else .left)
      | .writingClose => s.goto k .done
      | _ => s

/-- Take the writer lock and start a frame; nothing is written if the message does not encode.
Source: `ipc.rs`, `write_message`. -/
def beginWrite (json : SerdeJson) (s : AgentState) (w : Writer) (msg : IpcMessage) :
    Option AgentState :=
  if s.wire.current.isSome then none
  else match frameOf json msg with
    | .error _ => some (s.afterWrite w false)
    | .ok frame => (s.wire.start (w, msg) frame).map fun wire => { s with wire := wire }

/-- The write of `w` is dropped, and with it the writer lock. -/
def dropWrite (s : AgentState) (w : Writer) : AgentState :=
  if s.holder = some w then { s with wire := { s.wire with current := none } } else s

/-- Routes and message of a snapshot. Source: `agent.rs`, `refresh_and_publish`. -/
def refresh (s : AgentState) (policy : HubPolicySnapshot) (lists : List (BackendConfig × String)) :
    AgentState × DeviceSnapshotMsg :=
  ({ s with
      routes := refreshRoutes (agentView policy lists)
      generation := s.generation + 1 },
    ⟨s.generation + 1, publishedDevices policy lists⟩)

/-- Send data to a task: nothing if its queue is closed, wait if it is full. Source: `agent.rs`,
`handle_daemon_message`, `tx.send`. -/
def offer (s : AgentState) (k : ℕ) (data : Bytes) : AgentState :=
  if s.task k = .done then s
  else if s.Full k then { s with main := .sending k data }
  else { s with queue := Function.update s.queue k (s.queue k ++ [data]) }

/-- Take up a message of the daemon. Source: `agent.rs`, `handle_daemon_message` and
`open_private_stream`. -/
def receive (s : AgentState) : IpcMessage → AgentState
  | .ping => { s with main := .want .pong .loop }
  | .openPrivateStream req =>
      match s.routes.lookup req.routeId with
      | some route => { s with main := .opening req route }
      | none =>
          { s with
            main := .want (.openResult ⟨req.streamId, false, some "unknown route_id"⟩) .loop }
  | .streamData id data =>
      match s.streams id with
      | some k => s.offer k data
      | none => s
  | .streamClose c => { s with streams := Function.update s.streams c.streamId none }
  | _ => s

/-- One step. Source: `agent.rs`, `run_agent_with_shutdown`, `handle_daemon_message` and
`open_private_stream`. -/
def step (json : SerdeJson) (s : AgentState) : AgentTaskEvent → Option AgentState
  | .begin .main =>
      match s.main with
      | .want msg after => { s with main := .writing after }.beginWrite json .main msg
      | _ => none
  | .begin .poller =>
      match s.poller with
      | .want msg => { s with poller := .writing }.beginWrite json .poller msg
      | _ => none
  | .begin (.task k) =>
      match s.task k with
      | .relaying toUp (.want data) =>
          (s.goto k (.relaying toUp .writing)).beginWrite json (.task k)
            (.streamData (s.streamId k) data)
      | .wantClose =>
          (s.goto k .writingClose).beginWrite json (.task k)
            (.streamClose ⟨s.streamId k, "closed"⟩)
      | _ => none
  | .put n =>
      match s.holder, s.wire.put n with
      | some w, some wire =>
          if wire.current.isSome then some { s with wire := wire }
          else some ({ s with wire := wire }.afterWrite w true)
      | _, _ => none
  | .writeError =>
      match s.holder with
      | some w => some ((s.dropWrite w).afterWrite w false)
      | none => none
  | .publish policy lists =>
      if s.main = .publishing then
        let (s, msg) := s.refresh policy lists
        some { s with main := .want (.deviceSnapshot msg) .spawnPoller }
      else none
  | .publishFails => if s.main = .publishing then some s.enterLoop else none
  | .poll policy lists =>
      if s.poller = .sleeping then
        let (s, msg) := s.refresh policy lists
        some { s with poller := .want (.deviceSnapshotChanged msg) }
      else none
  | .pollFails => if s.poller = .sleeping then some { s with poller := .stopped } else none
  | .receive msg => if s.main = .idle then some (s.receive msg) else none
  | .connectFails err =>
      match s.main with
      | .opening req _ =>
          some { s with
            main := .want (.openResult ⟨req.streamId, false, some ("connect: " ++ err)⟩) .loop }
      | _ => none
  | .authFails err =>
      match s.main with
      | .opening req route =>
          if route.pairCode.isSome then
            some { s with
              main :=
                .want (.openResult ⟨req.streamId, false, some ("auth failed: " ++ err)⟩) .loop }
          else none
      | _ => none
  | .serviceFails =>
      match s.main with
      | .opening _ _ => some { s with main := .idle }
      | _ => none
  | .upstreamReady =>
      match s.main with
      | .opening req _ =>
          some { s with
            main := .want (.openResult ⟨req.streamId, true, none⟩) (.insert req.streamId) }
      | _ => none
  | .spawn k =>
      match s.main, s.task k with
      | .inserting id, .absent =>
          some { s.goto k (.relaying .recv .reading) with
            main := .idle
            streams := Function.update s.streams id (some k)
            streamId := Function.update s.streamId k id
            queue := Function.update s.queue k [] }
      | _, _ => none
  | .room =>
      match s.main with
      | .sending k data =>
          if s.task k = .done then some { s with main := .idle }
          else if s.Full k then none
          else some { s with
            main := .idle
            queue := Function.update s.queue k (s.queue k ++ [data]) }
      | _ => none
  | .stop =>
      if s.main = .idle then some { s.dropWrite .poller with main := .stopped, poller := .stopped }
      else none
  | .upstreamData k data =>
      match s.task k with
      | .relaying toUp .reading =>
          if data ≠ [] ∧ data.length ≤ upstreamBuf then
            some (s.goto k (.relaying toUp (.want data)))
          else none
      | _ => none
  | .upstreamEnd k =>
      match s.task k with
      | .relaying _ .reading => some (s.goto k .left)
      | _ => none
  | .recv k =>
      match s.task k, s.queue k with
      | .relaying .recv fromUp, data :: rest =>
          some { s.goto k (.relaying (.writing data) fromUp) with
            queue := Function.update s.queue k rest }
      | _, _ => none
  | .upWritten k =>
      match s.task k with
      | .relaying (.writing data) fromUp =>
          some { s.goto k (.relaying .recv fromUp) with
            toUpstream := Function.update s.toUpstream k (s.toUpstream k ++ [data]) }
      | _ => none
  | .upFailed k =>
      match s.task k with
      | .relaying (.writing _) _ => some ((s.dropWrite (.task k)).goto k .left)
      | _ => none
  | .recvClosed k =>
      match s.task k with
      | .relaying .recv _ =>
          if s.queue k = [] ∧ s.streams (s.streamId k) ≠ some k then
            some ((s.dropWrite (.task k)).goto k .left)
          else none
      | _ => none
  | .remove k =>
      if s.task k = .left ∧ s.StreamsFree then
        some { s.goto k .wantClose with
          streams := Function.update s.streams (s.streamId k) none }
      else none

/-- The first message of an agent. Source: `agent.rs`, `run_agent_with_shutdown`. -/
def registration (token : String) : IpcMessage :=
  .registerAgent ⟨protocolVersion, ["devices", "streams"], token⟩

/-- The agent as a machine, with the token it has drawn. -/
def machine (json : SerdeJson) (token : String) : Machine AgentState AgentTaskEvent where
  init := { main := .want (registration token) .publish }
  step := step json

/-! ## What a step does -/

/-- The steps of an agent, each with what it requires and where it leads. -/
inductive Moves (json : SerdeJson) (s : AgentState) : AgentTaskEvent → AgentState → Prop
  | beginMain {msg after t} (hmain : s.main = .want msg after)
      (h : { s with main := .writing after }.beginWrite json .main msg = some t) :
      Moves json s (.begin .main) t
  | beginPoller {msg t} (hpoller : s.poller = .want msg)
      (h : { s with poller := .writing }.beginWrite json .poller msg = some t) :
      Moves json s (.begin .poller) t
  | beginData {k toUp data t} (htask : s.task k = .relaying toUp (.want data))
      (h : (s.goto k (.relaying toUp .writing)).beginWrite json (.task k)
        (.streamData (s.streamId k) data) = some t) :
      Moves json s (.begin (.task k)) t
  | beginClose {k t} (htask : s.task k = .wantClose)
      (h : (s.goto k .writingClose).beginWrite json (.task k)
        (.streamClose ⟨s.streamId k, "closed"⟩) = some t) :
      Moves json s (.begin (.task k)) t
  | put {n wire} (hput : s.wire.put n = some wire) :
      Moves json s (.put n) { s with wire := wire }
  /-- With the last piece of its frame the write returns. -/
  | putLast {n w wire} (hw : s.holder = some w) (hput : s.wire.put n = some wire) :
      Moves json s (.put n) ({ s with wire := wire }.afterWrite w true)
  | writeError {w} (hw : s.holder = some w) :
      Moves json s .writeError ((s.dropWrite w).afterWrite w false)
  | publish {policy lists} (hmain : s.main = .publishing) :
      Moves json s (.publish policy lists)
        { (s.refresh policy lists).1 with
          main := .want (.deviceSnapshot (s.refresh policy lists).2) .spawnPoller }
  | publishFails (hmain : s.main = .publishing) : Moves json s .publishFails s.enterLoop
  | poll {policy lists} (hpoller : s.poller = .sleeping) :
      Moves json s (.poll policy lists)
        { (s.refresh policy lists).1 with
          poller := .want (.deviceSnapshotChanged (s.refresh policy lists).2) }
  | pollFails (hpoller : s.poller = .sleeping) :
      Moves json s .pollFails { s with poller := .stopped }
  | receive {msg} (hmain : s.main = .idle) : Moves json s (.receive msg) (s.receive msg)
  | connectFails {err req route} (hmain : s.main = .opening req route) :
      Moves json s (.connectFails err)
        { s with
          main := .want (.openResult ⟨req.streamId, false, some ("connect: " ++ err)⟩) .loop }
  | authFails {err req route} (hmain : s.main = .opening req route) (hcode : route.pairCode.isSome) :
      Moves json s (.authFails err)
        { s with
          main := .want (.openResult ⟨req.streamId, false, some ("auth failed: " ++ err)⟩) .loop }
  | serviceFails {req route} (hmain : s.main = .opening req route) :
      Moves json s .serviceFails { s with main := .idle }
  | upstreamReady {req route} (hmain : s.main = .opening req route) :
      Moves json s .upstreamReady
        { s with main := .want (.openResult ⟨req.streamId, true, none⟩) (.insert req.streamId) }
  | spawn {k id} (hmain : s.main = .inserting id) (htask : s.task k = .absent) :
      Moves json s (.spawn k)
        { s.goto k (.relaying .recv .reading) with
          main := .idle
          streams := Function.update s.streams id (some k)
          streamId := Function.update s.streamId k id
          queue := Function.update s.queue k [] }
  | roomClosed {k data} (hmain : s.main = .sending k data) (htask : s.task k = .done) :
      Moves json s .room { s with main := .idle }
  | room {k data} (hmain : s.main = .sending k data) (htask : s.task k ≠ .done)
      (hroom : ¬ s.Full k) :
      Moves json s .room
        { s with main := .idle, queue := Function.update s.queue k (s.queue k ++ [data]) }
  | stop (hmain : s.main = .idle) :
      Moves json s .stop { s.dropWrite .poller with main := .stopped, poller := .stopped }
  | upstreamData {k toUp data} (htask : s.task k = .relaying toUp .reading)
      (hdata : data ≠ [] ∧ data.length ≤ upstreamBuf) :
      Moves json s (.upstreamData k data) (s.goto k (.relaying toUp (.want data)))
  | upstreamEnd {k toUp} (htask : s.task k = .relaying toUp .reading) :
      Moves json s (.upstreamEnd k) (s.goto k .left)
  | recv {k fromUp data rest} (htask : s.task k = .relaying .recv fromUp)
      (hqueue : s.queue k = data :: rest) :
      Moves json s (.recv k)
        { s.goto k (.relaying (.writing data) fromUp) with
          queue := Function.update s.queue k rest }
  | upWritten {k data fromUp} (htask : s.task k = .relaying (.writing data) fromUp) :
      Moves json s (.upWritten k)
        { s.goto k (.relaying .recv fromUp) with
          toUpstream := Function.update s.toUpstream k (s.toUpstream k ++ [data]) }
  | upFailed {k data fromUp} (htask : s.task k = .relaying (.writing data) fromUp) :
      Moves json s (.upFailed k) ((s.dropWrite (.task k)).goto k .left)
  | recvClosed {k fromUp} (htask : s.task k = .relaying .recv fromUp) (hqueue : s.queue k = [])
      (hclosed : s.streams (s.streamId k) ≠ some k) :
      Moves json s (.recvClosed k) ((s.dropWrite (.task k)).goto k .left)
  | remove {k} (htask : s.task k = .left) (hfree : s.StreamsFree) :
      Moves json s (.remove k)
        { s.goto k .wantClose with
          streams := Function.update s.streams (s.streamId k) none }

section Steps

variable {json : SerdeJson} {s t : AgentState} {e : AgentTaskEvent} {w : Writer} {msg : IpcMessage}
  {ok : Bool}

/-- Every step is one of them. -/
theorem moves_of_step (h : s.step json e = some t) : s.Moves json e t := by
  unfold step at h
  split at h
  · split at h
    · rename_i hmain
      exact .beginMain hmain h
    · simp at h
  · split at h
    · rename_i hpoller
      exact .beginPoller hpoller h
    · simp at h
  · split at h
    · rename_i htask
      exact .beginData htask h
    · rename_i htask
      exact .beginClose htask h
    · simp at h
  · split at h
    · rename_i hw hput
      split_ifs at h
      · obtain rfl := Option.some.inj h
        exact .put hput
      · obtain rfl := Option.some.inj h
        exact .putLast hw hput
    · simp at h
  · split at h
    · rename_i hw
      obtain rfl := Option.some.inj h
      exact .writeError hw
    · simp at h
  · split_ifs at h with hmain
    obtain rfl := Option.some.inj h
    exact .publish hmain
  · split_ifs at h with hmain
    obtain rfl := Option.some.inj h
    exact .publishFails hmain
  · split_ifs at h with hpoller
    obtain rfl := Option.some.inj h
    exact .poll hpoller
  · split_ifs at h with hpoller
    obtain rfl := Option.some.inj h
    exact .pollFails hpoller
  · split_ifs at h with hmain
    obtain rfl := Option.some.inj h
    exact .receive hmain
  · split at h
    · rename_i hmain
      obtain rfl := Option.some.inj h
      exact .connectFails hmain
    · simp at h
  · split at h
    · rename_i hmain
      split_ifs at h with hcode
      obtain rfl := Option.some.inj h
      exact .authFails hmain hcode
    · simp at h
  · split at h
    · rename_i hmain
      obtain rfl := Option.some.inj h
      exact .serviceFails hmain
    · simp at h
  · split at h
    · rename_i hmain
      obtain rfl := Option.some.inj h
      exact .upstreamReady hmain
    · simp at h
  · split at h
    · rename_i hmain htask
      obtain rfl := Option.some.inj h
      exact .spawn hmain htask
    · simp at h
  · split at h
    · rename_i hmain
      split_ifs at h with hdone hfull
      · obtain rfl := Option.some.inj h
        exact .roomClosed hmain hdone
      · obtain rfl := Option.some.inj h
        exact .room hmain hdone hfull
    · simp at h
  · split_ifs at h with hmain
    obtain rfl := Option.some.inj h
    exact .stop hmain
  · split at h
    · rename_i htask
      split_ifs at h with hdata
      obtain rfl := Option.some.inj h
      exact .upstreamData htask hdata
    · simp at h
  · split at h
    · rename_i htask
      obtain rfl := Option.some.inj h
      exact .upstreamEnd htask
    · simp at h
  · split at h
    · rename_i htask hqueue
      obtain rfl := Option.some.inj h
      exact .recv htask hqueue
    · simp at h
  · split at h
    · rename_i htask
      obtain rfl := Option.some.inj h
      exact .upWritten htask
    · simp at h
  · split at h
    · rename_i htask
      obtain rfl := Option.some.inj h
      exact .upFailed htask
    · simp at h
  · split at h
    · rename_i htask
      split_ifs at h with hclosed
      obtain rfl := Option.some.inj h
      exact .recvClosed htask hclosed.1 hclosed.2
    · simp at h
  · split_ifs at h with hleft
    obtain rfl := Option.some.inj h
    exact .remove hleft.1 hleft.2

/-- A write begins while the lock is free; it starts its frame, or fails at once. -/
theorem beginWrite_eq_some (h : s.beginWrite json w msg = some t) :
    (∃ e, frameOf json msg = .error e ∧ t = s.afterWrite w false) ∨
      ∃ frame wire, frameOf json msg = .ok frame ∧ s.wire.start (w, msg) frame = some wire ∧
        t = { s with wire := wire } := by
  unfold beginWrite at h
  split_ifs at h with hlock
  split at h
  · rename_i e he
    exact .inl ⟨e, he, (Option.some.inj h).symm⟩
  · rename_i frame hframe
    obtain ⟨wire, hwire, rfl⟩ := Option.map_eq_some_iff.mp h
    exact .inr ⟨frame, wire, hframe, hwire, rfl⟩

/-- A return from `write_message` moves the writer and nothing else. -/
theorem afterWrite_eq (s : AgentState) (w : Writer) (ok : Bool) :
    ∃ main poller task,
      s.afterWrite w ok = { s with main := main, poller := poller, task := task } := by
  unfold afterWrite
  split
  · split
    · unfold afterMain enterLoop
      split <;> exact ⟨_, _, _, rfl⟩
    · exact ⟨_, _, _, rfl⟩
  · split <;> exact ⟨_, _, _, rfl⟩
  · split <;> exact ⟨_, _, _, rfl⟩

@[simp] theorem afterWrite_wire : (s.afterWrite w ok).wire = s.wire := by
  obtain ⟨_, _, _, h⟩ := afterWrite_eq s w ok
  rw [h]

@[simp] theorem afterWrite_queue : (s.afterWrite w ok).queue = s.queue := by
  obtain ⟨_, _, _, h⟩ := afterWrite_eq s w ok
  rw [h]

@[simp] theorem afterWrite_streams : (s.afterWrite w ok).streams = s.streams := by
  obtain ⟨_, _, _, h⟩ := afterWrite_eq s w ok
  rw [h]

@[simp] theorem afterWrite_streamId : (s.afterWrite w ok).streamId = s.streamId := by
  obtain ⟨_, _, _, h⟩ := afterWrite_eq s w ok
  rw [h]

/-- A dropped write touches the control socket only. -/
theorem dropWrite_eq (s : AgentState) (w : Writer) :
    ∃ wire, s.dropWrite w = { s with wire := wire } := by
  unfold dropWrite
  split_ifs
  · exact ⟨_, rfl⟩
  · exact ⟨s.wire, rfl⟩

end Steps

/-! ## An agent with one stream -/

/-- The lists of an agent with one backend, which has one device. -/
def officeLists : List (BackendConfig × String) :=
  [(⟨"office", .loopback 5037, none, true⟩, "ABC\tdevice\n")]

/-- The texts of the records such an agent sends. -/
def officeJson : SerdeJson where
  registerAgent := .ofTable [(⟨protocolVersion, ["devices", "streams"], "t0"⟩,
    asciiBytes ["\x7b\"version\":1,", "\"capabilities\":[\"devices\",\"streams\"],",
      "\"instance_token\":\"t0\"\x7d"])]
  deviceSnapshotMsg := .ofTable [(⟨1, publishedDevices .empty officeLists⟩,
    asciiBytes ["\x7b\"generation\":1,\"devices\":[", "\x7b\"public_serial\":\"ABC\",",
      "\"upstream_serial\":\"ABC\",", "\"state\":\"device\",\"extras\":\"\",",
      "\"backend_name\":\"office\",", "\"route_id\":\"office:ABC\"\x7d]\x7d"])]
  openPrivateStream := .ofTable [(⟨1, "office:ABC", "shell:ls"⟩,
    asciiBytes ["\x7b\"stream_id\":1,", "\"route_id\":\"office:ABC\",",
      "\"service\":\"shell:ls\"\x7d"])]
  openResult := .ofTable [(⟨1, true, none⟩, asciiBytes ["\x7b\"stream_id\":1,\"ok\":true\x7d"])]
  streamClose := .ofTable [(⟨1, "closed"⟩,
    asciiBytes ["\x7b\"stream_id\":1,", "\"reason\":\"closed\"\x7d"])]

theorem decodes_officeJson : officeJson.Decodes where
  registerAgent := JsonCodec.decodes_ofTable (List.nodup_singleton _)
  deviceSnapshotMsg := JsonCodec.decodes_ofTable (List.nodup_singleton _)
  openPrivateStream := JsonCodec.decodes_ofTable (List.nodup_singleton _)
  openResult := JsonCodec.decodes_ofTable (List.nodup_singleton _)
  streamClose := JsonCodec.decodes_ofTable (List.nodup_singleton _)

/-- The agent registers, reports its device and opens stream 1. -/
def openStream : List AgentTaskEvent :=
  [.begin .main, .put 77, .publish .empty officeLists, .begin .main, .put 158,
    .receive (.openPrivateStream ⟨1, "office:ABC", "shell:ls"⟩), .upstreamReady, .begin .main,
    .put 30, .spawn 0]

end AgentState

end AdbHub
