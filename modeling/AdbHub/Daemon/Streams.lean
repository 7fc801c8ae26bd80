import AdbHub.Ipc
import AdbHub.Lib.Router

/-!
# Private streams of one agent connection

The daemon side of private streams (`daemon.rs`, `agent_read_loop` and `forward_private`): one read
loop and any number of client sessions on one agent connection.

* `ConnStreams` — the two maps of the connection, the queue of each session, and where the read
  loop and the sessions stand. The lock of `stream_tx` is held across a step only by a read loop
  that waits for room in a queue.
* `ConnStreams.Moves` — what each step requires and where it leads.
* `routerSimulation` — read loop and sessions are the library's `Router`.
* **`read_loop_unblocked_iff`** — the read loop never waits, holding the lock, for a session that
  wants the same lock, exactly when no data is taken up for a session that has left its relay loop
  with a full queue, and no session leaves its relay loop while the read loop waits for it.
* **`wedged_forever`** — the read loop never gets out of such a wait.
-/

namespace AdbHub

open Lib

/-! ## State -/

/-- Where a session stands. Source: `daemon.rs`, `forward_private`. -/
inductive ForwardPrivate
  | absent
  /-- It wants the lock of `stream_tx` to insert its queue. -/
  | insertTx
  /-- It is about to insert its `OpenResult` waiter. -/
  | insertWaiter
  /-- It writes `OpenPrivateStream`. -/
  | openWrite
  /-- It waits for the `OpenResult`, at most 10 s. -/
  | waiting
  /-- The write failed or timed out; it is about to remove its waiter. -/
  | abortWaiter
  /-- It wants the lock of `stream_tx` to remove its queue and fail. -/
  | abortTx
  /-- The agent refused; it wants the lock of `stream_tx` to remove its queue. -/
  | refused
  /-- It writes the refusal to the client. -/
  | failWrite
  /-- It is in the `select!` of the relay loop. -/
  | relay
  /-- It writes data of the client to the agent. -/
  | sendingUp (data : Bytes)
  /-- It writes data of the agent to the client. -/
  | sendingDown (data : Bytes)
  /-- It has left the relay loop and wants the lock of `stream_tx` to remove its queue. -/
  | closing
  /-- It writes `StreamClose`. -/
  | closeWrite
  /-- It has returned; its queue is closed. -/
  | done
  deriving DecidableEq

/-- Where the read loop stands. Source: `daemon.rs`, `agent_read_loop`. -/
inductive ReadLoop
  /-- It reads the next message. -/
  | reading
  /-- It sends data to session `k` and holds the lock of `stream_tx`; the queue was full. -/
  | sending (k : ℕ) (data : Bytes)
  /-- It writes `Pong`. -/
  | ponging
  | stopped
  deriving DecidableEq

/-- For whom the read loop waits, and with what. -/
def ReadLoop.waiting : ReadLoop → Option (ℕ × Bytes)
  | .sending k data => some (k, data)
  | _ => none

/-- Source: `daemon.rs`, `OpenOutcome`. -/
structure OpenOutcome where
  ok : Bool
  failReason : Option String
  deriving DecidableEq

/-- The streams of one agent connection; sessions are numbered as they come. Source: `daemon.rs`,
`AgentConn` and the locals of `forward_private`. -/
structure ConnStreams where
  loop : ReadLoop := .reading
  /-- stream id → session, the source's `stream_tx`. -/
  streamTx : UInt32 → Option ℕ := fun _ => none
  /-- stream id → session, the source's `open_waiters`. -/
  openWaiters : UInt32 → Option ℕ := fun _ => none
  /-- Source: `DaemonState`, `next_stream_id`; shared by all connections. -/
  nextStreamId : UInt32 := 1
  task : ℕ → ForwardPrivate := fun _ => .absent
  streamId : ℕ → UInt32 := fun _ => 0
  /-- Route and service of a session. -/
  request : ℕ → String × String := fun _ => ("", "")
  outcome : ℕ → Option OpenOutcome := fun _ => none
  /-- The channel of a session. -/
  queue : ℕ → List Bytes := fun _ => []
  /-- The messages written to the agent. -/
  toAgent : List IpcMessage := []
  /-- The data written to the client of a session. -/
  toClient : ℕ → List Bytes := fun _ => []
  /-- The refusal written to the client of a session. -/
  failed : ℕ → Option String := fun _ => none

/-- The capacity of a channel. Source: `daemon.rs`, `forward_private`, `mpsc::channel`. -/
def streamCapacity : ℕ := 32

/-- The buffer for data of the client. Source: `daemon.rs`, `forward_private`, `client_buf`. -/
def clientBuf : ℕ := 64 * 1024

/-- What happens next. -/
inductive StreamEvent
  /-- A session of another connection takes a stream id. -/
  | openElsewhere
  | openSession (k : ℕ) (routeId service : String)
  | insertTx (k : ℕ)
  | insertWaiter (k : ℕ)
  | openWritten (k : ℕ) (ok : Bool)
  /-- The session gets its `OpenResult`. -/
  | opened (k : ℕ)
  | timeout (k : ℕ)
  | dropWaiter (k : ℕ)
  /-- The session takes the lock of `stream_tx` and removes its queue. -/
  | dropTx (k : ℕ)
  | failWritten (k : ℕ) (ok : Bool)
  | clientData (k : ℕ) (data : Bytes)
  | clientEof (k : ℕ)
  | clientError (k : ℕ) (benign : Bool)
  | upWritten (k : ℕ) (ok : Bool)
  /-- The session takes data out of its queue. -/
  | recv (k : ℕ)
  /-- The session finds its queue empty and without sender. -/
  | recvClosed (k : ℕ)
  | downWritten (k : ℕ)
  | downFailed (k : ℕ) (benign : Bool)
  | closeWritten (k : ℕ) (ok : Bool)
  /-- The read loop takes up a message. -/
  | receive (msg : IpcMessage)
  /-- The read loop finds room in the queue it waits for, or the queue closed. -/
  | room
  | pongWritten (ok : Bool)
  /-- The agent hangs up, or reading fails. -/
  | hangUp

namespace ConnStreams

/-- Move a session. -/
def goto (s : ConnStreams) (k : ℕ) (pc : ForwardPrivate) : ConnStreams :=
  { s with task := Function.update s.task k pc }

/-- Write a message to the agent. -/
def writeAgent (s : ConnStreams) (msg : IpcMessage) : ConnStreams :=
  { s with toAgent := s.toAgent ++ [msg] }

/-- Take the queue of a session out of `stream_tx`. -/
def removeTx (s : ConnStreams) (k : ℕ) : ConnStreams :=
  { s with streamTx := Function.update s.streamTx (s.streamId k) none }

/-- The lock of `stream_tx` is free. -/
def TxFree (s : ConnStreams) : Prop := s.loop.waiting = none

instance (s : ConnStreams) : Decidable s.TxFree :=
  inferInstanceAs (Decidable (s.loop.waiting = none))

/-- The queue of a session has no room. -/
def Full (s : ConnStreams) (k : ℕ) : Prop := streamCapacity ≤ (s.queue k).length

instance (s : ConnStreams) (k : ℕ) : Decidable (s.Full k) :=
  inferInstanceAs (Decidable (streamCapacity ≤ (s.queue k).length))

/-- Hand an outcome to the session that waits for it. Source: `daemon.rs`, `agent_read_loop`,
`open_waiters`. -/
def resolve (s : ConnStreams) (id : UInt32) (outcome : OpenOutcome) : ConnStreams :=
  match s.openWaiters id with
  | none => s
  | some k =>
      { s with
        openWaiters := Function.update s.openWaiters id none
        outcome := Function.update s.outcome k (some outcome) }

/-- Send data to a session: nothing if its queue is closed, wait if it is full. Source:
`daemon.rs`, `agent_read_loop`, `tx.send`. -/
def offer (s : ConnStreams) (k : ℕ) (data : Bytes) : ConnStreams :=
  if s.task k = .done then s
  else if s.Full k then { s with loop := .sending k data }
  else { s with queue := Function.update s.queue k (s.queue k ++ [data]) }

/-- Take up a message. Device lists change nothing here. Source: `daemon.rs`,
`agent_read_loop`. -/
def receive (s : ConnStreams) : IpcMessage → ConnStreams
  | .openResult r => s.resolve r.streamId ⟨r.ok, r.failReason⟩
  | .streamData id data =>
      match s.streamTx id with
      | some k => s.offer k data
      | none => s
  | .streamClose c =>
      { s with streamTx := Function.update s.streamTx c.streamId none }.resolve c.streamId
        ⟨false, some c.reason⟩
  | .ping => { s with loop := .ponging }
  | _ => s

/-- One step. Source: `daemon.rs`, `forward_private` and `agent_read_loop`. -/
def step (s : ConnStreams) : StreamEvent → Option ConnStreams
  | .openElsewhere => some { s with nextStreamId := s.nextStreamId + 1 }
  | .openSession k routeId service =>
      if s.task k = .absent then
        some { s.goto k .insertTx with
          streamId := Function.update s.streamId k s.nextStreamId
          nextStreamId := s.nextStreamId + 1
          request := Function.update s.request k (routeId, service)
          queue := Function.update s.queue k [] }
      else none
  | .insertTx k =>
      if s.task k = .insertTx ∧ s.TxFree then
        some { s.goto k .insertWaiter with
          streamTx := Function.update s.streamTx (s.streamId k) (some k) }
      else none
  | .insertWaiter k =>
      if s.task k = .insertWaiter then
        some { s.goto k .openWrite with
          openWaiters := Function.update s.openWaiters (s.streamId k) (some k) }
      else none
  | .openWritten k ok =>
      if s.task k = .openWrite then
        if ok then
          some ((s.goto k .waiting).writeAgent
            (.openPrivateStream ⟨s.streamId k, (s.request k).1, (s.request k).2⟩))
        else some (s.goto k .abortWaiter)
      else none
  | .opened k =>
      match s.task k, s.outcome k with
      | .waiting, some o => some (s.goto k (if o.ok then .relay else .refused))
      | _, _ => none
  | .timeout k => if s.task k = .waiting then some (s.goto k .abortWaiter) else none
  | .dropWaiter k =>
      if s.task k = .abortWaiter then
        some { s.goto k .abortTx with
          openWaiters := Function.update s.openWaiters (s.streamId k) none }
      else none
  | .dropTx k =>
      if s.TxFree then
        match s.task k with
        | .abortTx => some ((s.removeTx k).goto k .done)
        | .refused => some ((s.removeTx k).goto k .failWrite)
        | .closing => some ((s.removeTx k).goto k .closeWrite)
        | _ => none
      else none
  | .failWritten k ok =>
      if s.task k = .failWrite then
        if ok then
          some { s.goto k .done with
            failed := Function.update s.failed k
              ((s.outcome k).map fun o => o.failReason.getD "open failed") }
        else some (s.goto k .done)
      else none
  | .clientData k data =>
      if s.task k = .relay ∧ data ≠ [] ∧ data.length ≤ clientBuf then
        some (s.goto k (.sendingUp data))
      else none
  | .clientEof k => if s.task k = .relay then some (s.goto k .closing) else none
  | .clientError k benign =>
      if s.task k = .relay then some (s.goto k (if benign then .closing else .done)) else none
  | .upWritten k ok =>
      match s.task k with
      | .sendingUp data =>
          if ok then some ((s.goto k .relay).writeAgent (.streamData (s.streamId k) data))
          else some (s.goto k .done)
      | _ => none
  | .recv k =>
      match s.task k, s.queue k with
      | .relay, data :: rest =>
          some { s.goto k (.sendingDown data) with queue := Function.update s.queue k rest }
      | _, _ => none
  | .recvClosed k =>
      if s.task k = .relay ∧ s.queue k = [] ∧ s.streamTx (s.streamId k) ≠ some k then
        some (s.goto k .closing)
      else none
  | .downWritten k =>
      match s.task k with
      | .sendingDown data =>
          some { s.goto k .relay with
            toClient := Function.update s.toClient k (s.toClient k ++ [data]) }
      | _ => none
  | .downFailed k benign =>
      match s.task k with
      | .sendingDown _ => some (s.goto k (if benign then .closing else .done))
      | _ => none
  | .closeWritten k ok =>
      if s.task k = .closeWrite then
        if ok then
          some ((s.goto k .done).writeAgent (.streamClose ⟨s.streamId k, "client closed"⟩))
        else some (s.goto k .done)
      else none
  | .receive msg => if s.loop = .reading then some (s.receive msg) else none
  | .room =>
      match s.loop with
      | .sending k data =>
          if s.task k = .done then some { s with loop := .reading }
          else if s.Full k then none
          else some { s with
            loop := .reading
            queue := Function.update s.queue k (s.queue k ++ [data]) }
      | _ => none
  | .pongWritten ok =>
      if s.loop = .ponging then
        if ok then some ({ s with loop := .reading }.writeAgent .pong)
        else some { s with loop := .stopped }
      else none
  | .hangUp => if s.loop = .reading then some { s with loop := .stopped } else none

/-- The connection as a machine. -/
def machine : Machine ConnStreams StreamEvent := ⟨{}, step⟩

/-! ## What a step does -/

/-- The steps of a connection, each with what it requires and where it leads. -/
inductive Moves (s : ConnStreams) : StreamEvent → ConnStreams → Prop
  | openElsewhere : Moves s .openElsewhere { s with nextStreamId := s.nextStreamId + 1 }
  | openSession {k routeId service} (htask : s.task k = .absent) :
      Moves s (.openSession k routeId service)
        { s.goto k .insertTx with
          streamId := Function.update s.streamId k s.nextStreamId
          nextStreamId := s.nextStreamId + 1
          request := Function.update s.request k (routeId, service)
          queue := Function.update s.queue k [] }
  | insertTx {k} (htask : s.task k = .insertTx) (hfree : s.TxFree) :
      Moves s (.insertTx k)
        { s.goto k .insertWaiter with
          streamTx := Function.update s.streamTx (s.streamId k) (some k) }
  | insertWaiter {k} (htask : s.task k = .insertWaiter) :
      Moves s (.insertWaiter k)
        { s.goto k .openWrite with
          openWaiters := Function.update s.openWaiters (s.streamId k) (some k) }
  | openWritten {k} (htask : s.task k = .openWrite) :
      Moves s (.openWritten k true)
        ((s.goto k .waiting).writeAgent
          (.openPrivateStream ⟨s.streamId k, (s.request k).1, (s.request k).2⟩))
  | openFailed {k} (htask : s.task k = .openWrite) :
      Moves s (.openWritten k false) (s.goto k .abortWaiter)
  | opened {k o} (htask : s.task k = .waiting) (houtcome : s.outcome k = some o) :
      Moves s (.opened k) (s.goto k (if o.ok then .relay else .refused))
  | timeout {k} (htask : s.task k = .waiting) : Moves s (.timeout k) (s.goto k .abortWaiter)
  | dropWaiter {k} (htask : s.task k = .abortWaiter) :
      Moves s (.dropWaiter k)
        { s.goto k .abortTx with
          openWaiters := Function.update s.openWaiters (s.streamId k) none }
  | dropAborted {k} (hfree : s.TxFree) (htask : s.task k = .abortTx) :
      Moves s (.dropTx k) ((s.removeTx k).goto k .done)
  | dropRefused {k} (hfree : s.TxFree) (htask : s.task k = .refused) :
      Moves s (.dropTx k) ((s.removeTx k).goto k .failWrite)
  | dropClosing {k} (hfree : s.TxFree) (htask : s.task k = .closing) :
      Moves s (.dropTx k) ((s.removeTx k).goto k .closeWrite)
  | failWritten {k} (htask : s.task k = .failWrite) :
      Moves s (.failWritten k true)
        { s.goto k .done with
          failed := Function.update s.failed k
            ((s.outcome k).map fun o => o.failReason.getD "open failed") }
  | failFailed {k} (htask : s.task k = .failWrite) : Moves s (.failWritten k false) (s.goto k .done)
  | clientData {k data} (htask : s.task k = .relay)
      (hdata : data ≠ [] ∧ data.length ≤ clientBuf) :
      Moves s (.clientData k data) (s.goto k (.sendingUp data))
  | clientEof {k} (htask : s.task k = .relay) : Moves s (.clientEof k) (s.goto k .closing)
  | clientGone {k} (htask : s.task k = .relay) : Moves s (.clientError k true) (s.goto k .closing)
  | clientError {k} (htask : s.task k = .relay) : Moves s (.clientError k false) (s.goto k .done)
  | upWritten {k data} (htask : s.task k = .sendingUp data) :
      Moves s (.upWritten k true)
        ((s.goto k .relay).writeAgent (.streamData (s.streamId k) data))
  | upFailed {k data} (htask : s.task k = .sendingUp data) :
      Moves s (.upWritten k false) (s.goto k .done)
  | recv {k data rest} (htask : s.task k = .relay) (hqueue : s.queue k = data :: rest) :
      Moves s (.recv k)
        { s.goto k (.sendingDown data) with queue := Function.update s.queue k rest }
  | recvClosed {k} (htask : s.task k = .relay) (hqueue : s.queue k = [])
      (hclosed : s.streamTx (s.streamId k) ≠ some k) :
      Moves s (.recvClosed k) (s.goto k .closing)
  | downWritten {k data} (htask : s.task k = .sendingDown data) :
      Moves s (.downWritten k)
        { s.goto k .relay with
          toClient := Function.update s.toClient k (s.toClient k ++ [data]) }
  | downGone {k data} (htask : s.task k = .sendingDown data) :
      Moves s (.downFailed k true) (s.goto k .closing)
  | downFailed {k data} (htask : s.task k = .sendingDown data) :
      Moves s (.downFailed k false) (s.goto k .done)
  | closeWritten {k} (htask : s.task k = .closeWrite) :
      Moves s (.closeWritten k true)
        ((s.goto k .done).writeAgent (.streamClose ⟨s.streamId k, "client closed"⟩))
  | closeFailed {k} (htask : s.task k = .closeWrite) :
      Moves s (.closeWritten k false) (s.goto k .done)
  | receive {msg} (hloop : s.loop = .reading) : Moves s (.receive msg) (s.receive msg)
  | roomClosed {k data} (hloop : s.loop = .sending k data) (htask : s.task k = .done) :
      Moves s .room { s with loop := .reading }
  | room {k data} (hloop : s.loop = .sending k data) (htask : s.task k ≠ .done)
      (hroom : ¬ s.Full k) :
      Moves s .room
        { s with loop := .reading, queue := Function.update s.queue k (s.queue k ++ [data]) }
  | pongWritten (hloop : s.loop = .ponging) :
      Moves s (.pongWritten true) ({ s with loop := .reading }.writeAgent .pong)
  | pongFailed (hloop : s.loop = .ponging) :
      Moves s (.pongWritten false) { s with loop := .stopped }
  | hangUp (hloop : s.loop = .reading) : Moves s .hangUp { s with loop := .stopped }

/-- Every step is one of them. -/
theorem moves_of_step {s t : ConnStreams} {e : StreamEvent} (h : s.step e = some t) :
    s.Moves e t := by
  unfold step at h
  split at h
  · obtain rfl := Option.some.inj h
    exact .openElsewhere
  · split_ifs at h with htask
    obtain rfl := Option.some.inj h
    exact .openSession htask
  · split_ifs at h with htask
    obtain rfl := Option.some.inj h
    exact .insertTx htask.1 htask.2
  · split_ifs at h with htask
    obtain rfl := Option.some.inj h
    exact .insertWaiter htask
  · split_ifs at h with htask hok
    · obtain rfl := Option.some.inj h
      subst hok
      exact .openWritten htask
    · obtain rfl := Option.some.inj h
      obtain rfl := Bool.eq_false_iff.mpr hok
      exact .openFailed htask
  · split at h
    · rename_i o htask houtcome
      obtain rfl := Option.some.inj h
      exact .opened htask houtcome
    · simp at h
  · split_ifs at h with htask
    obtain rfl := Option.some.inj h
    exact .timeout htask
  · split_ifs at h with htask
    obtain rfl := Option.some.inj h
    exact .dropWaiter htask
  · split_ifs at h with hfree
    split at h
    · rename_i htask
      obtain rfl := Option.some.inj h
      exact .dropAborted hfree htask
    · rename_i htask
      obtain rfl := Option.some.inj h
      exact .dropRefused hfree htask
    · rename_i htask
      obtain rfl := Option.some.inj h
      exact .dropClosing hfree htask
    · simp at h
  · split_ifs at h with htask hok
    · obtain rfl := Option.some.inj h
      subst hok
      exact .failWritten htask
    · obtain rfl := Option.some.inj h
      obtain rfl := Bool.eq_false_iff.mpr hok
      exact .failFailed htask
  · split_ifs at h with hdata
    obtain rfl := Option.some.inj h
    exact .clientData hdata.1 hdata.2
  · split_ifs at h with htask
    obtain rfl := Option.some.inj h
    exact .clientEof htask
  · split_ifs at h with htask hbenign
    · obtain rfl := Option.some.inj h
      subst hbenign
      exact .clientGone htask
    · obtain rfl := Option.some.inj h
      obtain rfl := Bool.eq_false_iff.mpr hbenign
      exact .clientError htask
  · split at h
    · rename_i data htask
      split_ifs at h with hok
      · obtain rfl := Option.some.inj h
        subst hok
        exact .upWritten htask
      · obtain rfl := Option.some.inj h
        obtain rfl := Bool.eq_false_iff.mpr hok
        exact .upFailed htask
    · simp at h
  · split at h
    · rename_i data rest htask hqueue
      obtain rfl := Option.some.inj h
      exact .recv htask hqueue
    · simp at h
  · split_ifs at h with htask
    obtain rfl := Option.some.inj h
    exact .recvClosed htask.1 htask.2.1 htask.2.2
  · split at h
    · rename_i data htask
      obtain rfl := Option.some.inj h
      exact .downWritten htask
    · simp at h
  · rename_i benign
    split at h
    · rename_i data htask
      obtain rfl := Option.some.inj h
      cases benign
      · exact .downFailed htask
      · exact .downGone htask
    · simp at h
  · split_ifs at h with htask hok
    · obtain rfl := Option.some.inj h
      subst hok
      exact .closeWritten htask
    · obtain rfl := Option.some.inj h
      obtain rfl := Bool.eq_false_iff.mpr hok
      exact .closeFailed htask
  · split_ifs at h with hloop
    obtain rfl := Option.some.inj h
    exact .receive hloop
  · split at h
    · rename_i k data hloop
      split_ifs at h with hdone hfull
      · obtain rfl := Option.some.inj h
        exact .roomClosed hloop hdone
      · obtain rfl := Option.some.inj h
        exact .room hloop hdone hfull
    · simp at h
  · split_ifs at h with hloop hok
    · obtain rfl := Option.some.inj h
      subst hok
      exact .pongWritten hloop
    · obtain rfl := Option.some.inj h
      obtain rfl := Bool.eq_false_iff.mpr hok
      exact .pongFailed hloop
  · split_ifs at h with hloop
    obtain rfl := Option.some.inj h
    exact .hangUp hloop

/-- Taking up a message moves no session and writes nothing. -/
theorem receive_frame (s : ConnStreams) (msg : IpcMessage) :
    (s.receive msg).toAgent = s.toAgent ∧ (s.receive msg).streamId = s.streamId ∧
      (s.receive msg).task = s.task := by
  have hresolve : ∀ (d : ConnStreams) id o, (d.resolve id o).toAgent = d.toAgent ∧
      (d.resolve id o).streamId = d.streamId ∧ (d.resolve id o).task = d.task := by
    intro d id o
    unfold ConnStreams.resolve
    split <;> exact ⟨rfl, rfl, rfl⟩
  unfold ConnStreams.receive
  split
  · exact hresolve s _ _
  · split
    · unfold ConnStreams.offer
      split_ifs <;> exact ⟨rfl, rfl, rfl⟩
    · exact ⟨rfl, rfl, rfl⟩
  · exact hresolve _ _ _
  · exact ⟨rfl, rfl, rfl⟩
  · exact ⟨rfl, rfl, rfl⟩

/-! ## Read loop and sessions are a router -/

end ConnStreams

/-- A session as a receiver of the library. -/
def ForwardPrivate.receiver : ForwardPrivate → Receiver
  | .absent | .failWrite | .closeWrite | .done => .gone
  | .closing => .leaving
  | _ => .consuming

/-- The session has no queue in the map any more, or not yet, and has not returned. -/
def ForwardPrivate.Unlinked (pc : ForwardPrivate) : Prop :=
  pc = .absent ∨ pc = .failWrite ∨ pc = .closeWrite

theorem ForwardPrivate.receiver_eq_gone {pc : ForwardPrivate} (h : ¬ pc.Unlinked) :
    pc.receiver = .gone ↔ pc = .done := by
  cases pc <;> simp [receiver, Unlinked] at h ⊢

theorem ForwardPrivate.receiver_eq_leaving {pc : ForwardPrivate} :
    pc.receiver = .leaving ↔ pc = .closing := by
  cases pc <;> simp [receiver]

namespace ConnStreams

/-- What the router sees of the connection. -/
def router (s : ConnStreams) : Router ℕ Bytes where
  waiting := s.loop.waiting
  queue := s.queue
  receiver := ForwardPrivate.receiver ∘ s.task

/-- What a step is to the router. -/
def action (s : ConnStreams) : StreamEvent → Option (RouterAction ℕ Bytes)
  | .openSession k _ _ => some (.join k)
  | .dropTx k => if s.task k = .closing then some (.unlink k) else some (.close k)
  | .clientEof k | .recvClosed k => some (.leave k)
  | .clientError k benign | .downFailed k benign =>
      if benign then some (.leave k) else some (.close k)
  | .upWritten k ok => if ok then none else some (.close k)
  | .recv k => some (.take k)
  | .receive (.streamData id data) => (s.streamTx id).map fun k => .offer k data
  | .room => some .resume
  | _ => none

/-- The sessions to which data is sent have their queue in the map. -/
structure Linked (s : ConnStreams) : Prop where
  table : ∀ id k, s.streamTx id = some k → s.streamId k = id ∧ ¬ (s.task k).Unlinked
  sending : ∀ k data, s.loop = .sending k data → ¬ (s.task k).Unlinked

variable {s t : ConnStreams} {e : StreamEvent} {k : ℕ} {pc : ForwardPrivate}

/-- Moving a session that wants nothing of the router. -/
theorem router_move (hloop : t.loop.waiting = s.loop.waiting) (hqueue : t.queue = s.queue)
    (htask : t.task = Function.update s.task k pc)
    (h : (s.task k).receiver = pc.receiver) : t.router = s.router := by
  unfold router
  rw [hloop, hqueue, htask, Function.comp_update, ← h]
  congr
  exact Function.update_eq_self k _

theorem router_resolve (id : UInt32) (outcome : OpenOutcome) :
    (s.resolve id outcome).router = s.router := by
  unfold resolve
  rcases s.openWaiters id with _ | k <;> rfl

theorem receiver_router_eq_gone (h : ¬ (s.task k).Unlinked) :
    s.router.receiver k = .gone ↔ s.task k = .done :=
  ForwardPrivate.receiver_eq_gone h

/-- Data for a session is offered to the router. -/
theorem router_offer (hwait : s.loop.waiting = none) (h : ¬ (s.task k).Unlinked) (data : Bytes) :
    s.router.step streamCapacity (.offer k data) = some (s.offer k data).router := by
  have hgone := receiver_router_eq_gone h
  have hfull : s.router.Full streamCapacity k ↔ s.Full k := Iff.rfl
  rw [Router.step_offer hwait, offer]
  simp only [hgone, hfull]
  split_ifs <;> rfl

theorem waiting_router {data : Bytes} (h : s.loop = .sending k data) :
    s.router.waiting = some (k, data) := by
  show s.loop.waiting = _
  rw [h]
  rfl

/-- The router mirrors a step. -/
def RouterStep (s : ConnStreams) (e : StreamEvent) (t : ConnStreams) : Prop :=
  (Router.machine streamCapacity).Mirrors (s.action e) s.router t.router

/-- A session that stays a receiver of its kind. -/
theorem routerStep_move (hact : s.action e = none) (hloop : t.loop.waiting = s.loop.waiting)
    (hqueue : t.queue = s.queue) (htask : t.task = Function.update s.task k pc)
    (h : (s.task k).receiver = pc.receiver) : s.RouterStep e t :=
  .inl ⟨hact, router_move hloop hqueue htask h⟩

/-- A session that leaves its relay loop. -/
theorem routerStep_leave (hact : s.action e = some (.leave k))
    (h : (s.task k).receiver = .consuming) : s.RouterStep e (s.goto k .closing) := by
  refine .inr ⟨.leave k, hact, ?_⟩
  have hclosing : ForwardPrivate.closing.receiver = .leaving := rfl
  simp [Router.step, router, goto, h, hclosing, Function.comp_update]

/-- A session that returns without the lock. -/
theorem routerStep_close (hact : s.action e = some (.close k))
    (h : (s.task k).receiver = .consuming) : s.RouterStep e (s.goto k .done) := by
  refine .inr ⟨.close k, hact, ?_⟩
  have hdone : ForwardPrivate.done.receiver = .gone := rfl
  simp [Router.step, router, goto, h, hdone, Function.comp_update]

/-- A session that takes its queue out of the map. -/
theorem routerStep_removeTx (hfree : s.TxFree) (hpc : pc.receiver = .gone)
    (h : (s.task k).receiver = .leaving ∧ s.action e = some (.unlink k) ∨
      (s.task k).receiver = .consuming ∧ s.action e = some (.close k)) :
    s.RouterStep e ((s.removeTx k).goto k pc) := by
  have hnone : s.loop.waiting = none := hfree
  rcases h with ⟨htask, hact⟩ | ⟨htask, hact⟩
  · refine .inr ⟨.unlink k, hact, ?_⟩
    simp [Router.step, router, removeTx, goto, htask, hnone, hpc, Function.comp_update]
  · refine .inr ⟨.close k, hact, ?_⟩
    simp [Router.step, router, removeTx, goto, htask, hpc, Function.comp_update]

/-- Taking up a message concerns the router if it is data for an open stream. -/
theorem routerStep_receive (hl : s.Linked) (hloop : s.loop = .reading) (msg : IpcMessage) :
    s.RouterStep (.receive msg) (s.receive msg) := by
  have hwait : s.loop.waiting = none := by
    rw [hloop]
    rfl
  cases msg with
  | openResult r => exact .inl ⟨rfl, router_resolve _ _⟩
  | streamClose c => exact .inl ⟨rfl, router_resolve _ _⟩
  | ping => exact .inl ⟨rfl, by simp [receive, router, hloop, ReadLoop.waiting]⟩
  | streamData id data =>
      rcases htx : s.streamTx id with _ | k
      · exact .inl ⟨by simp [action, htx], by simp [receive, htx]⟩
      · refine .inr ⟨.offer k data, by simp [action, htx], ?_⟩
        simp only [receive, htx]
        exact router_offer hwait (hl.table id k htx).2 data
  | registerAgent | deviceSnapshot | deviceSnapshotChanged | openPrivateStream | pong =>
      exact .inl ⟨rfl, rfl⟩

/-- The router mirrors every step. -/
theorem router_step (hl : s.Linked) (h : s.step e = some t) : s.RouterStep e t := by
  cases moves_of_step h with
  | openElsewhere => exact .inl ⟨rfl, rfl⟩
  | @openSession k routeId service htask =>
      refine .inr ⟨.join k, rfl, ?_⟩
      simp [Router.step, router, goto, htask, ForwardPrivate.receiver, Function.comp_update]
  | insertTx htask | insertWaiter htask | openWritten htask | openFailed htask | timeout htask
  | dropWaiter htask | failWritten htask | failFailed htask | clientData htask | upWritten htask
  | downWritten htask | closeWritten htask | closeFailed htask =>
      exact routerStep_move rfl rfl rfl rfl (by rw [htask]; rfl)
  | opened htask =>
      refine routerStep_move rfl rfl rfl rfl ?_
      rw [htask]
      split <;> rfl
  | dropAborted hfree htask | dropRefused hfree htask =>
      exact routerStep_removeTx hfree rfl (.inr ⟨by rw [htask]; rfl, by simp [action, htask]⟩)
  | dropClosing hfree htask =>
      exact routerStep_removeTx hfree rfl (.inl ⟨by rw [htask]; rfl, by simp [action, htask]⟩)
  | clientEof htask | clientGone htask | recvClosed htask | downGone htask =>
      exact routerStep_leave rfl (by rw [htask]; rfl)
  | clientError htask | upFailed htask | downFailed htask =>
      exact routerStep_close rfl (by rw [htask]; rfl)
  | @recv k data rest htask hqueue =>
      refine .inr ⟨.take k, rfl, ?_⟩
      have hsame : Function.update (ForwardPrivate.receiver ∘ s.task) k .consuming =
          ForwardPrivate.receiver ∘ s.task := by
        rw [Function.update_eq_self_iff, Function.comp_apply, htask]
        rfl
      simp [Router.step, router, goto, htask, hqueue, ForwardPrivate.receiver,
        Function.comp_update, hsame]
  | receive hloop => exact routerStep_receive hl hloop _
  | @roomClosed k data hloop htask =>
      refine .inr ⟨.resume, rfl, ?_⟩
      have hgone := (receiver_router_eq_gone (hl.sending k data hloop)).mpr htask
      rw [Router.machine_step, Router.step_resume (waiting_router hloop), if_pos hgone]
      rfl
  | @room k data hloop htask hroom =>
      refine .inr ⟨.resume, rfl, ?_⟩
      have hgone := (receiver_router_eq_gone (hl.sending k data hloop)).not.mpr htask
      have hfull : ¬ s.router.Full streamCapacity k := hroom
      rw [Router.machine_step, Router.step_resume (waiting_router hloop), if_neg hgone,
        if_neg hfull]
      rfl
  | pongWritten hloop | pongFailed hloop | hangUp hloop =>
      exact .inl ⟨rfl, by simp [writeAgent, router, hloop, ReadLoop.waiting]⟩

/-! ## Queues in the map belong to sessions that can still take data -/

/-- Moving a session whose queue does not leave the map. -/
theorem Linked.move (hl : s.Linked) (hloop : t.loop = s.loop) (htx : t.streamTx = s.streamTx)
    (hid : t.streamId = s.streamId) (htask : t.task = Function.update s.task k pc)
    (hpc : ¬ pc.Unlinked) : t.Linked := by
  have hstay : ∀ j, ¬ (s.task j).Unlinked → ¬ (t.task j).Unlinked := by
    intro j hj
    rw [htask]
    by_cases hjk : j = k
    · rwa [hjk, Function.update_self]
    · rwa [Function.update_of_ne hjk]
  refine ⟨fun id j hj => ?_, fun j data hj => ?_⟩
  · rw [htx] at hj
    rw [hid]
    exact ⟨(hl.table id j hj).1, hstay j (hl.table id j hj).2⟩
  · rw [hloop] at hj
    exact hstay j (hl.sending j data hj)

/-- Removing the queue of a session while the read loop waits for nobody. -/
theorem Linked.removeTx (hl : s.Linked) (hfree : s.TxFree) :
    ((s.removeTx k).goto k pc).Linked := by
  refine ⟨fun id j hj => ?_, fun j data hj => ?_⟩
  · have hid : id ≠ s.streamId k := by
      rintro rfl
      simp [ConnStreams.removeTx, goto] at hj
    have hsj : s.streamTx id = some j := by simpa [ConnStreams.removeTx, goto, hid] using hj
    obtain ⟨hsid, hun⟩ := hl.table id j hsj
    have hjk : j ≠ k := fun hjk => hid (by rw [← hsid, hjk])
    exact ⟨hsid, by simpa [ConnStreams.removeTx, goto, hjk] using hun⟩
  · have hsj : s.loop = .sending j data := hj
    simp [TxFree, hsj, ReadLoop.waiting] at hfree

theorem Linked.resolve (hl : s.Linked) (id : UInt32) (outcome : OpenOutcome) :
    (s.resolve id outcome).Linked := by
  unfold ConnStreams.resolve
  rcases s.openWaiters id with _ | k
  · exact hl
  · exact ⟨hl.table, hl.sending⟩

theorem Linked.receive (hl : s.Linked) (msg : IpcMessage) :
    (s.receive msg).Linked := by
  cases msg with
  | openResult r => exact hl.resolve _ _
  | streamData id data =>
      rcases htx : s.streamTx id with _ | k
      · simpa [ConnStreams.receive, htx] using hl
      · simp only [ConnStreams.receive, htx, offer]
        split_ifs with hdone hfull
        · exact hl
        · refine ⟨hl.table, fun j d hj => ?_⟩
          obtain ⟨rfl, -⟩ : k = j ∧ data = d := by simpa using hj
          exact (hl.table id k htx).2
        · exact ⟨hl.table, hl.sending⟩
  | streamClose c =>
      have hremoved : ({ s with streamTx := Function.update s.streamTx c.streamId none } :
          ConnStreams).Linked := by
        refine ⟨fun id j hj => ?_, hl.sending⟩
        by_cases hid : id = c.streamId
        · simp [hid] at hj
        · exact hl.table id j (by simpa [hid] using hj)
      exact hremoved.resolve _ _
  | ping => exact ⟨hl.table, fun j d hj => by cases hj⟩
  | registerAgent | deviceSnapshot | deviceSnapshotChanged | openPrivateStream | pong => exact hl

theorem linked_step (hl : s.Linked) (h : s.step e = some t) : t.Linked := by
  cases moves_of_step h with
  | openElsewhere => exact ⟨hl.table, hl.sending⟩
  | @openSession k routeId service htask =>
      have hne : ∀ j, ¬ (s.task j).Unlinked → j ≠ k := by
        rintro j hj rfl
        exact hj (.inl htask)
      refine ⟨fun id j hj => ?_, fun j data hj => ?_⟩
      · obtain ⟨hid, hun⟩ := hl.table id j hj
        have hjk := hne j hun
        simpa [goto, hjk] using ⟨hid, hun⟩
      · have hun := hl.sending j data hj
        simpa [goto, hne j hun] using hun
  | @insertTx k htask hfree =>
      have hun : ∀ j, ¬ (s.task j).Unlinked →
          ¬ (Function.update s.task k .insertWaiter j).Unlinked := by
        intro j hj
        by_cases hjk : j = k
        · simp [hjk, ForwardPrivate.Unlinked]
        · simpa [hjk] using hj
      refine ⟨fun id j hj => ?_, fun j data hj => hun j (hl.sending j data hj)⟩
      by_cases hid : id = s.streamId k
      · obtain rfl : k = j := by simpa [hid] using hj
        exact ⟨hid.symm, by simp [goto, ForwardPrivate.Unlinked]⟩
      · obtain ⟨hsid, hj'⟩ := hl.table id j (by simpa [hid] using hj)
        exact ⟨hsid, hun j hj'⟩
  | dropAborted hfree | dropRefused hfree | dropClosing hfree => exact hl.removeTx hfree
  | receive => exact hl.receive _
  | roomClosed | room | pongWritten | pongFailed | hangUp =>
      exact ⟨hl.table, by rintro j d ⟨⟩⟩
  | opened =>
      refine hl.move rfl rfl rfl rfl ?_
      split <;> simp [ForwardPrivate.Unlinked]
  | _ => exact hl.move rfl rfl rfl rfl (by simp [ForwardPrivate.Unlinked])

/-- Read loop and sessions refine the library's router. -/
def routerSimulation :
    Simulation machine (Router.machine streamCapacity : Machine (Router ℕ Bytes) _) where
  abs := router
  act := action
  inv := Linked
  inv_init := by constructor <;> rintro _ _ ⟨⟩
  inv_step := linked_step
  abs_init := rfl
  mirrors := router_step

/-! ## The read loop and a session that wants its lock -/

/-- The read loop holds the lock of `stream_tx` and waits for room in the full queue of a session
that has left its relay loop and wants the lock to remove its queue. -/
def ReadLoopWedged (s : ConnStreams) : Prop :=
  ∃ k data, s.loop = .sending k data ∧ s.Full k ∧ s.task k = .closing

/-- No data is taken up for a session that has left its relay loop and whose queue is full, and no
session leaves its relay loop while the read loop waits for room in its queue. -/
def LeavesWithRoom (s : ConnStreams) : StreamEvent → Prop
  | .receive (.streamData id _) =>
      ∀ k, s.streamTx id = some k → ¬ (s.task k = .closing ∧ s.Full k)
  | .clientEof k | .clientError k true | .recvClosed k | .downFailed k true =>
      ¬ ((∃ data, s.loop = .sending k data) ∧ s.Full k)
  | _ => True

theorem waiting_eq_some {data : Bytes} : s.loop.waiting = some (k, data) ↔
    s.loop = .sending k data := by
  rcases hloop : s.loop with _ | ⟨j, d⟩ | _ | _ <;> simp [ReadLoop.waiting]

theorem wedged_router : s.router.Wedged streamCapacity ↔ s.ReadLoopWedged := by
  simp only [Router.Wedged, ReadLoopWedged, router, Function.comp_apply, waiting_eq_some,
    ForwardPrivate.receiver_eq_leaving]
  rfl

theorem unhurried_leave : s.router.Unhurried streamCapacity (.leave k) ↔
    ¬ ((∃ data, s.loop = .sending k data) ∧ s.Full k) := by
  simp only [Router.Unhurried, router, waiting_eq_some]
  rfl

theorem unhurried_iff (e : StreamEvent) :
    (∀ b, s.action e = some b → s.router.Unhurried streamCapacity b) ↔ s.LeavesWithRoom e := by
  cases e with
  | receive msg =>
      cases msg with
      | streamData id data =>
          simp only [action, LeavesWithRoom]
          constructor
          · rintro h k htx ⟨hpc, hfull⟩
            refine h (.offer k data) (by rw [htx]; rfl) ⟨?_, hfull⟩
            exact ForwardPrivate.receiver_eq_leaving.mpr hpc
          · intro h b hb
            obtain ⟨k, htx, rfl⟩ := Option.map_eq_some_iff.mp hb
            rintro ⟨hpc, hfull⟩
            exact h k htx ⟨ForwardPrivate.receiver_eq_leaving.mp hpc, hfull⟩
      | _ => simp [action, LeavesWithRoom]
  | clientEof k | recvClosed k =>
      simp only [action, LeavesWithRoom, Option.some.injEq, forall_eq']
      exact unhurried_leave
  | clientError k benign | downFailed k benign =>
      cases benign
      · simp [action, LeavesWithRoom, Router.Unhurried]
      · simp only [action, LeavesWithRoom, if_true, Option.some.injEq, forall_eq']
        exact unhurried_leave
  | dropTx k =>
      simp only [action, LeavesWithRoom, iff_true]
      intro b hb
      split_ifs at hb <;> (obtain rfl := Option.some.inj hb; trivial)
  | upWritten k ok => cases ok <;> simp [action, LeavesWithRoom, Router.Unhurried]
  | _ => simp [action, LeavesWithRoom, Router.Unhurried]

/-- **The read loop is not blocked by a leaving session, exactly.** In no state of a run does the
read loop hold the lock of `stream_tx` while it waits for a session that wants the same lock, iff
no data is taken up for a session that has left its relay loop with a full queue, and no session
leaves its relay loop while the read loop waits for room in its queue.
Source: `daemon.rs`, `agent_read_loop` and `forward_private` -/
theorem read_loop_unblocked_iff {events : List StreamEvent} (h : machine.Reaches events s) :
    machine.Always (fun s => ¬ s.ReadLoopWedged) events ↔ machine.Run LeavesWithRoom events s := by
  have hsim := routerSimulation.always_iff_run (I := fun _ => True)
    (Q := fun r => ¬ r.Wedged streamCapacity) (fun _ _ _ => trivial) Router.not_wedged_start
    (fun _ _ _ _ hw hs => Router.not_wedged_step_iff hw hs) h
  have hwedged : (fun s => ¬ (routerSimulation.abs s).Wedged streamCapacity) =
      fun s : ConnStreams => ¬ s.ReadLoopWedged :=
    funext fun s => propext (not_congr wedged_router)
  rw [hwedged] at hsim
  exact hsim.trans (Machine.run_congr fun s e => unhurried_iff e)

/-- No step of anybody gets the read loop out. -/
theorem wedged_step (hl : s.Linked) (hw : s.ReadLoopWedged) (h : s.step e = some t) :
    t.ReadLoopWedged := by
  rw [← wedged_router] at hw ⊢
  rcases router_step hl h with ⟨-, ht⟩ | ⟨b, -, hstep⟩
  · rwa [ht]
  · exact (hw.step hstep).1

/-- Once the read loop is blocked by a leaving session, it is so forever. -/
theorem wedged_forever {events more : List StreamEvent} (h : machine.Reaches events s)
    (hw : s.ReadLoopWedged) (hmore : machine.exec s more = some t) : t.ReadLoopWedged := by
  have hl : s.Linked := routerSimulation.inv_of_run h
  refine (Machine.exec_invariant (I := fun s => s.Linked ∧ s.ReadLoopWedged) hmore ⟨hl, hw⟩ ?_).2
  rintro e - s t ⟨hl, hw⟩ hs
  exact ⟨linked_step hl hs, wedged_step hl hw hs⟩

/-- A session is opened and the agent accepts it. -/
def openAccepted : List StreamEvent :=
  [.openSession 0 "office:ABC" "shell:ls", .insertTx 0, .insertWaiter 0, .openWritten 0 true,
    .receive (.openResult ⟨1, true, none⟩), .opened 0]

/-- Data of the agent for the accepted session. -/
def dataForClient : StreamEvent := .receive (.streamData 1 [0x61])

/-- One piece of data reaches the client, then the client closes. -/
theorem closed_with_room :
    machine.Always (fun s => ¬ s.ReadLoopWedged)
      (openAccepted ++ [dataForClient, .recv 0, .downWritten 0, .clientEof 0, .dropTx 0]) := by
  have hrun : ∃ s, machine.Run LeavesWithRoom
      (openAccepted ++ [dataForClient, .recv 0, .downWritten 0, .clientEof 0, .dropTx 0]) s := by
    refine ⟨_, .snoc (.snoc (.snoc (.snoc (.snoc (.snoc (.snoc (.snoc (.snoc (.snoc (.snoc .init
      trivial rfl) trivial rfl) trivial rfl) trivial rfl) trivial rfl) trivial rfl) ?_ rfl) trivial
      rfl) trivial rfl) ?_ rfl) trivial rfl⟩
    · rintro k htx ⟨hclosing, -⟩
      obtain rfl : 0 = k := Option.some.inj htx
      cases hclosing
    · rintro ⟨⟨data, hsending⟩, -⟩
      cases hsending
  obtain ⟨s, hs⟩ := hrun
  exact (read_loop_unblocked_iff hs.reaches).mpr hs

/-- The client stops reading while data keeps coming, and disconnects. -/
def clientStalls : List StreamEvent :=
  openAccepted ++ [dataForClient, .recv 0] ++ List.replicate 33 dataForClient ++
    [.downFailed 0 true]

/-- The read loop holds the lock and waits for the session, which wants the lock. -/
theorem stalled_client_wedges :
    ∃ s, machine.Reaches clientStalls s ∧ s.loop = .sending 0 [0x61] ∧
      (s.queue 0).length = streamCapacity ∧ s.task 0 = .closing ∧ s.ReadLoopWedged := by
  have hstate : ∃ s, machine.Reaches clientStalls s ∧ s.loop = .sending 0 [0x61] ∧
      (s.queue 0).length = streamCapacity ∧ s.task 0 = .closing :=
    ⟨_, Machine.reaches_of_exec rfl, rfl, rfl, rfl⟩
  obtain ⟨s, hr, hloop, hqueue, htask⟩ := hstate
  exact ⟨s, hr, hloop, hqueue, htask, 0, _, hloop, hqueue.ge, htask⟩

end ConnStreams

end AdbHub
