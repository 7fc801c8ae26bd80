import AdbHub.Agent.Streams
import AdbHub.Daemon.Streams
import AdbHub.Lib.Mux.Runs
import AdbHub.Protocol

/-!
# Daemon and agent joined

The streams of one agent connection, end to end (`daemon.rs`, `forward_private` and
`agent_read_loop`; `agent.rs`, `handle_daemon_message` and `open_private_stream`). The control
socket is a reliable queue of whole messages in each direction.

* `Traffic` — what one side has read from its sockets, sent, got and written.
* `Link` — both sides, the messages on their way between them, and the history of every stream. The
  histories are written and never read by the sides.
* `Link.Sides`, `Link.OnTheWay` — who holds a stream id, and which messages carry it.
-/

namespace AdbHub

open Lib

/-! ## Histories -/

/-- What one side has done for each of its streams. The sockets are those of the ADB clients, or of
the upstreams. -/
structure Traffic where
  /-- Everything read from the socket. -/
  read : ℕ → Bytes := fun _ => []
  /-- Everything sent to the other side. -/
  sent : ℕ → Bytes := fun _ => []
  /-- Everything the other side has sent, as far as it was handed to the stream. -/
  got : ℕ → Bytes := fun _ => []
  /-- Everything written to the socket. -/
  written : ℕ → Bytes := fun _ => []
  /-- How much of the data in hand is written. -/
  out : ℕ → ℕ := fun _ => 0

/-- What can happen to a stream. -/
inductive TrafficEvent
  | read (k : ℕ) (data : Bytes)
  | sent (k : ℕ) (data : Bytes)
  | got (k : ℕ) (data : Bytes)
  /-- Writing to the socket begins. -/
  | begins (k : ℕ)
  /-- The rest of the data in hand is written. -/
  | wrote (k : ℕ) (data : Bytes)

/-- Add to the history. -/
def Traffic.note (t : Traffic) : Option TrafficEvent → Traffic
  | some (.read k data) => { t with read := Function.update t.read k (t.read k ++ data) }
  | some (.sent k data) => { t with sent := Function.update t.sent k (t.sent k ++ data) }
  | some (.got k data) => { t with got := Function.update t.got k (t.got k ++ data) }
  | some (.begins k) => { t with out := Function.update t.out k 0 }
  | some (.wrote k data) =>
      { t with written := Function.update t.written k (t.written k ++ data.drop (t.out k)) }
  | none => t

/-- The next `n` bytes of the data in hand are written. -/
def Traffic.piece (t : Traffic) (k : ℕ) (data : Bytes) (n : ℕ) : Traffic :=
  { t with
    written := Function.update t.written k (t.written k ++ (data.drop (t.out k)).take n)
    out := Function.update t.out k (t.out k + n) }

/-- What a step of the daemon is to the history. -/
def ConnStreams.traffic (d : ConnStreams) : StreamEvent → Option TrafficEvent
  | .clientData k data => some (.read k data)
  | .upWritten k true =>
      match d.task k with
      | .sendingUp data => some (.sent k data)
      | _ => none
  | .recv k => some (.begins k)
  | .downWritten k =>
      match d.task k with
      | .sendingDown data => some (.wrote k data)
      | _ => none
  | .receive (.streamData id data) => (d.streamTx id).map fun k => .got k data
  | _ => none

/-- What a frame on the control socket is to the history. -/
def frameTraffic : Writer × IpcMessage → Option TrafficEvent
  | (.task j, .streamData _ data) => some (.sent j data)
  | _ => none

/-- What a step of the agent is to the history. -/
def AgentState.traffic (a : AgentState) : AgentTaskEvent → Option TrafficEvent
  | .upstreamData j data => some (.read j data)
  | .put n => (a.wire.current.filter fun p => n = p.todo.length).bind fun p => frameTraffic p.message
  | .recv j => some (.begins j)
  | .upWritten j =>
      match a.task j with
      | .relaying (.writing data) _ => some (.wrote j data)
      | _ => none
  | .receive (.streamData id data) => (a.streams id).map fun j => .got j data
  | _ => none

/-! ## Both sides -/

/-- The session that writes a message in a step. -/
def StreamEvent.session : StreamEvent → ℕ
  | .openWritten k _ | .upWritten k _ | .closeWritten k _ => k
  | _ => 0

/-- The step takes up a message. -/
def StreamEvent.IsReceive : StreamEvent → Bool
  | .receive _ => true
  | _ => false

@[inherit_doc StreamEvent.IsReceive]
def AgentTaskEvent.IsReceive : AgentTaskEvent → Bool
  | .receive _ => true
  | _ => false

/-- How far a request that was taken up has come, when the main loop stands at `main`. -/
def MainLoop.decided : MainLoop → Request
  | .inserting _ => .accepted
  | .idle => .refused
  | _ => .taken

/-- How far an accepted request has come after a step. -/
def AgentTaskEvent.started : AgentTaskEvent → Request
  | .spawn j => .served j
  | _ => .accepted

/-- How far a request has come after a step of the agent that leaves the main loop at `main`. -/
def Lib.Request.after (r : Request) (e : AgentTaskEvent) (main : MainLoop) : Request :=
  match r with
  | .taken => main.decided
  | .accepted => e.started
  | r => r

/-- The daemon and one agent, with the messages on their way between them. -/
structure Link where
  daemon : ConnStreams := {}
  agent : AgentState
  /-- Messages on their way to the agent, with the sessions that wrote them. -/
  toAgent : List (ℕ × IpcMessage) := []
  /-- Messages on their way to the daemon, with their writers. -/
  toDaemon : List (Writer × IpcMessage) := []
  /-- How far the request of each session has come. -/
  request : ℕ → Request := fun _ => .unsent
  /-- The session whose request the agent took up last. -/
  serving : ℕ := 0
  /-- The sessions and their clients. -/
  client : Traffic := {}
  /-- The stream tasks and their upstreams. -/
  upstream : Traffic := {}

/-- What happens next. -/
inductive LinkEvent
  | daemon (e : StreamEvent)
  | agent (e : AgentTaskEvent)
  /-- The read loop of the daemon takes up the next message. -/
  | toDaemon
  /-- The main loop of the agent takes up the next message. -/
  | toAgent
  /-- Session `k` writes `n` more bytes to its client, and goes on writing. -/
  | clientPiece (k n : ℕ)
  /-- Stream task `j` writes `n` more bytes to its upstream, and goes on writing. -/
  | upstreamPiece (j n : ℕ)

/-- The stream a message belongs to. -/
def IpcMessage.streamId? : IpcMessage → Option UInt32
  | .openPrivateStream m => some m.streamId
  | .openResult m => some m.streamId
  | .streamData id _ => some id
  | .streamClose m => some m.streamId
  | _ => none

/-- The stream the main loop of the agent is busy with. -/
def MainLoop.streamId? : MainLoop → Option UInt32
  | .want msg _ => msg.streamId?
  | .writing (.insert id) => some id
  | .opening req _ => some req.streamId
  | .inserting id => some id
  | _ => none

namespace Link

/-- The daemon has taken a step. -/
def afterDaemon (s : Link) (e : StreamEvent) (d : ConnStreams) : Link :=
  { s with
    daemon := d
    toAgent := s.toAgent ++
      (d.toAgent.drop s.daemon.toAgent.length).map fun msg => (e.session, msg)
    request := match e with
      | .openWritten k true => Function.update s.request k .sent
      | _ => s.request
    client := s.client.note (s.daemon.traffic e) }

/-- The agent has taken a step. -/
def afterAgent (s : Link) (e : AgentTaskEvent) (a : AgentState) : Link :=
  { s with
    agent := a
    toDaemon := s.toDaemon ++ (a.wire.sent.drop s.agent.wire.sent.length).map Prod.fst
    request :=
      Function.update s.request s.serving ((s.request s.serving).after e a.main)
    upstream := s.upstream.note (s.agent.traffic e) }

/-- The agent has taken up a message of session `k`. -/
def afterTaken (s : Link) (k : ℕ) (msg : IpcMessage) (a : AgentState) : Link :=
  let s := { s with agent := a, upstream := s.upstream.note (s.agent.traffic (.receive msg)) }
  match msg with
  | .openPrivateStream _ =>
      { s with request := Function.update s.request k .taken, serving := k }
  | _ => s

/-- One step. -/
def step (json : SerdeJson) (s : Link) : LinkEvent → Option Link
  | .daemon e => if e.IsReceive then none else (s.daemon.step e).map fun d => s.afterDaemon e d
  | .agent e => if e.IsReceive then none else (s.agent.step json e).map fun a => s.afterAgent e a
  | .toDaemon =>
      match s.toDaemon with
      | [] => none
      | (_, msg) :: rest =>
          (s.daemon.step (.receive msg)).map fun d =>
            { s with toDaemon := rest }.afterDaemon (.receive msg) d
  | .toAgent =>
      match s.toAgent with
      | [] => none
      | (k, msg) :: rest =>
          (s.agent.step json (.receive msg)).map fun a =>
            { s with toAgent := rest }.afterTaken k msg a
  | .clientPiece k n =>
      match s.daemon.task k with
      | .sendingDown data => some { s with client := s.client.piece k data n }
      | _ => none
  | .upstreamPiece j n =>
      match s.agent.task j with
      | .relaying (.writing data) _ => some { s with upstream := s.upstream.piece j data n }
      | _ => none

/-- Daemon and agent as a machine, with the token the agent has drawn. -/
def machine (json : SerdeJson) (token : String) : Machine Link LinkEvent where
  init := { agent := (AgentState.machine json token).init }
  step := step json

/-- Everything written to the client of a session. -/
def toClient (s : Link) (k : ℕ) : Bytes :=
  (match s.daemon.failed k with
    | some reason => Protocol.failStatus ++ Protocol.packetBytes (utf8 reason)
    | none => []) ++ s.client.written k

/-! ## Stream ids in use -/

/-- The daemon holds a stream id: in one of its tables, or a session has it. -/
def HeldByDaemon (s : Link) (id : UInt32) : Prop :=
  s.daemon.streamTx id ≠ none ∨ s.daemon.openWaiters id ≠ none ∨
    ∃ k, s.daemon.task k ≠ .absent ∧ s.daemon.task k ≠ .done ∧ s.daemon.streamId k = id

/-- The agent holds a stream id: in its table, a stream task has it, the main loop is busy with it,
or a message that carries it is being written. -/
def HeldByAgent (s : Link) (id : UInt32) : Prop :=
  s.agent.streams id ≠ none ∨
    (∃ j, s.agent.task j ≠ .absent ∧ s.agent.task j ≠ .done ∧ s.agent.streamId j = id) ∨
    s.agent.main.streamId? = some id ∨
    ∃ p ∈ s.agent.wire.current, p.message.2.streamId? = some id

/-- A message that carries a stream id is on its way. -/
def OnTheWay (s : Link) (id : UInt32) : Prop :=
  (∃ p ∈ s.toAgent, p.2.streamId? = some id) ∨ ∃ p ∈ s.toDaemon, p.2.streamId? = some id

/-- A session opens only with a stream id that neither side holds. -/
def OpensUnheld (s : Link) : LinkEvent → Prop
  | .daemon (.openSession _ _ _) =>
      ¬ s.HeldByDaemon s.daemon.nextStreamId ∧ ¬ s.HeldByAgent s.daemon.nextStreamId
  | _ => True

/-- A session opens only with a stream id that neither side holds and no message carries. -/
def OpensUnused (s : Link) (e : LinkEvent) : Prop :=
  s.OpensUnheld e ∧
    match e with
    | .daemon (.openSession _ _ _) => ¬ s.OnTheWay s.daemon.nextStreamId
    | _ => True

end Link

end AdbHub
