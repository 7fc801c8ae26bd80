import AdbHub.Daemon.Streams
import AdbHub.Agent.Control
import AdbHub.Lib.Lane.Intact

/-!
# The relay of a private stream

One private stream from its `OpenResult` on, between an ADB client and its upstream: the relay loop
of `forward_private` (`daemon.rs`), `agent_read_loop`, the main loop of the agent and the stream
task of `open_private_stream` (`agent.rs`). `ConnStreams` and `AgentState` have any number of streams
and nothing between them; here it is one stream, with every buffer on its way. Each direction is a
lane of the library; no read or write fails.

* `RelaySetting` — what both ends send, whether they shut down their sending side then, and how much
  every socket holds.
* `PrivateRelay`, `PrivateRelay.step` — both lanes and where session and stream task stand.
  `PrivateRelay.Moves` — what each step requires and where it leads.
* **`exists_atRest`** — from every state the relay comes to rest; **`length_le`**: in every run.
-/

namespace AdbHub

open Lib

/-! ## The setting -/

/-- What a frame of `StreamData` is longer than its data: length, type and stream id. -/
def streamDataHeader : ℕ := 9

/-- As `write_message` puts it out. -/
theorem length_frameOf_streamData {json : SerdeJson} {id : UInt32} {data frame : Bytes}
    (h : frameOf json (.streamData id data) = .ok frame) :
    frame.length = streamDataHeader + data.length := by
  obtain rfl : frameBytes .streamData (u32ToBe id ++ data) = frame := Except.ok.inj h
  rw [length_frameBytes, List.length_append, length_u32ToBe, streamDataHeader]
  omega

/-- What a relay is given. -/
structure RelaySetting where
  /-- What the client sends after its request. -/
  fromClient : Bytes
  fromUpstream : Bytes
  /-- The client shuts down its sending side when it has sent everything. -/
  clientShuts : Bool
  upstreamShuts : Bool
  /-- The capacity of the socket from the client to the daemon, and so on. -/
  clientToDaemon : ℕ+
  daemonToAgent : ℕ+
  agentToUpstream : ℕ+
  upstreamToAgent : ℕ+
  agentToDaemon : ℕ+
  daemonToClient : ℕ+
  /-- The length of the frame of the `StreamClose` that the daemon writes. -/
  daemonClose : ℕ+
  agentClose : ℕ+

namespace RelaySetting

/-- From the client to the upstream. Source: `forward_private`, `client_buf`;
`open_private_stream`, `mpsc::channel`. -/
def up (r : RelaySetting) : LaneSizes where
  source := r.clientToDaemon
  chunk := clientBuf
  pipe := r.daemonToAgent
  header := streamDataHeader
  close := r.daemonClose
  queue := agentStreamCapacity
  sink := r.agentToUpstream
  source_pos := r.clientToDaemon.pos
  chunk_pos := by decide
  pipe_pos := r.daemonToAgent.pos
  header_pos := by decide
  close_pos := r.daemonClose.pos
  queue_pos := by decide
  sink_pos := r.agentToUpstream.pos

/-- From the upstream to the client. Source: `open_private_stream`, `from_up`; `forward_private`,
`mpsc::channel`. -/
def down (r : RelaySetting) : LaneSizes where
  source := r.upstreamToAgent
  chunk := upstreamBuf
  pipe := r.agentToDaemon
  header := streamDataHeader
  close := r.agentClose
  queue := streamCapacity
  sink := r.daemonToClient
  source_pos := r.upstreamToAgent.pos
  chunk_pos := by decide
  pipe_pos := r.agentToDaemon.pos
  header_pos := by decide
  close_pos := r.agentClose.pos
  queue_pos := by decide
  sink_pos := r.daemonToClient.pos

/-- With sockets of 212992 bytes, and stream id 1. -/
def usual (fromClient fromUpstream : Bytes) (clientShuts upstreamShuts : Bool) : RelaySetting where
  fromClient := fromClient
  fromUpstream := fromUpstream
  clientShuts := clientShuts
  upstreamShuts := upstreamShuts
  clientToDaemon := 212992
  daemonToAgent := 212992
  agentToUpstream := 212992
  upstreamToAgent := 212992
  agentToDaemon := 212992
  daemonToClient := 212992
  daemonClose := 45
  agentClose := 38

end RelaySetting

/-! ## The state -/

/-- Where an end of the relay stands: `forward_private`, or the stream task. -/
inductive RelayPhase
  /-- It is in its relay loop. -/
  | relaying
  /-- It has left the loop and wants the lock to remove its queue. -/
  | leaving
  /-- It is about to write `StreamClose`. -/
  | removed
  /-- It writes `StreamClose`. -/
  | closing
  /-- It has returned; its queue and its socket are dropped. -/
  | done
  deriving DecidableEq

/-- It is in its relay loop. -/
def RelayPhase.isRelaying : RelayPhase → Bool
  | .relaying => true
  | _ => false

/-- It has begun to write `StreamClose`. -/
def RelayPhase.hasClosed : RelayPhase → Bool
  | .closing | .done => true
  | _ => false

/-- A relay. -/
structure PrivateRelay where
  /-- From the client to the upstream; the writer is `forward_private`, the dispatcher the main loop
  of the agent, the reader `to_up`. -/
  up : Lane UInt8
  /-- From the upstream to the client; the writer is `from_up`, the dispatcher `agent_read_loop`,
  the reader `forward_private`. -/
  down : Lane UInt8
  /-- Source: `forward_private`. -/
  session : RelayPhase := .relaying
  /-- Source: `open_private_stream`, `tokio::spawn`. -/
  task : RelayPhase := .relaying
  /-- The client has shut down its sending side. -/
  clientShut : Bool := false
  upstreamShut : Bool := false

/-- What happens next. -/
inductive RelayEvent
  | up (a : LaneAction)
  | down (a : LaneAction)
  | clientShuts
  | upstreamShuts
  /-- `forward_private` reads the end of the client. -/
  | clientEof
  /-- `forward_private` finds its queue empty and without sender. -/
  | queueEnded
  /-- `forward_private` takes the lock of `stream_tx` and removes its queue. -/
  | sessionRemoves
  | sessionCloses
  | sessionReturns
  /-- `from_up` reads the end of the upstream, and `to_up` is dropped. -/
  | upstreamEof
  /-- `to_up` finds its queue empty and without sender, and `from_up` is dropped, perhaps in the
  middle of a frame: the control socket is of no use then. -/
  | streamEnded
  /-- The stream task takes the lock of `streams` and removes its queue. -/
  | taskRemoves
  | taskCloses
  | taskReturns

namespace PrivateRelay

/-- `forward_private` is in its `select!`: it writes neither to the agent nor to the client. -/
def Selecting (s : PrivateRelay) : Prop :=
  s.session = .relaying ∧ s.up.putting = none ∧ s.down.hand = []

/-- Who moves the client's data does so at this time. -/
def MayUp (s : PrivateRelay) : LaneAction → Prop
  | .read _ => s.Selecting
  | .recv | .write _ => s.task = .relaying
  | .close | .cut | .unregister | .drop => False
  | _ => True

/-- Who moves the upstream's data does so at this time. -/
def MayDown (s : PrivateRelay) : LaneAction → Prop
  | .read _ => s.task = .relaying
  | .recv => s.Selecting
  | .write _ => s.session = .relaying
  | .close | .cut | .unregister | .drop => False
  | _ => True

instance (s : PrivateRelay) : Decidable s.Selecting :=
  inferInstanceAs (Decidable (_ ∧ _ ∧ _))

instance (s : PrivateRelay) : DecidablePred s.MayUp := fun a => by
  cases a <;> unfold MayUp <;> infer_instance

instance (s : PrivateRelay) : DecidablePred s.MayDown := fun a => by
  cases a <;> unfold MayDown <;> infer_instance

variable (r : RelaySetting)

/-- One step. The lock of a map of queues is held across a step only by a dispatcher that waits for
room. -/
def step (s : PrivateRelay) : RelayEvent → Option PrivateRelay
  | .up a => if s.MayUp a then (s.up.step r.up a).map fun l => { s with up := l } else none
  | .down a => if s.MayDown a then (s.down.step r.down a).map fun l => { s with down := l } else none
  | .clientShuts =>
      if r.clientShuts ∧ s.clientShut = false ∧ s.up.todo = [] then
        some { s with clientShut := true }
      else none
  | .upstreamShuts =>
      if r.upstreamShuts ∧ s.upstreamShut = false ∧ s.down.todo = [] then
        some { s with upstreamShut := true }
      else none
  | .clientEof =>
      if s.Selecting ∧ s.clientShut ∧ s.up.source = [] then some { s with session := .leaving }
      else none
  | .queueEnded =>
      if s.Selecting ∧ s.down.isOpen = false ∧ s.down.queue = [] then
        some { s with session := .leaving }
      else none
  | .sessionRemoves =>
      if s.session = .leaving ∧ s.down.waiting = none then
        some { s with session := .removed, down := { s.down with isOpen := false } }
      else none
  | .sessionCloses =>
      if s.session = .removed then
        (s.up.step r.up .close).map fun l => { s with session := .closing, up := l }
      else none
  | .sessionReturns =>
      if s.session = .closing ∧ s.up.putting = none then
        some { s with session := .done, down := { s.down with alive := false } }
      else none
  | .upstreamEof =>
      if s.task = .relaying ∧ s.down.putting = none ∧ s.upstreamShut ∧ s.down.source = [] then
        some { s with task := .leaving }
      else none
  | .streamEnded =>
      if s.task = .relaying ∧ s.up.isOpen = false ∧ s.up.queue = [] ∧ s.up.hand = [] then
        (s.down.step r.down .cut).map fun l => { s with task := .leaving, down := l }
      else none
  | .taskRemoves =>
      if s.task = .leaving ∧ s.up.waiting = none then
        some { s with task := .removed, up := { s.up with isOpen := false } }
      else none
  | .taskCloses =>
      if s.task = .removed then
        (s.down.step r.down .close).map fun l => { s with task := .closing, down := l }
      else none
  | .taskReturns =>
      if s.task = .closing ∧ s.down.putting = none then
        some { s with task := .done, up := { s.up with alive := false } }
      else none

/-- The relay when it begins. -/
def start : PrivateRelay where
  up := { todo := r.fromClient }
  down := { todo := r.fromUpstream }

/-- The relays of a setting. -/
def machine : Machine PrivateRelay RelayEvent where
  init := start r
  step := step r

variable {r}

/-- The steps of a relay, each with what it requires and where it leads. -/
inductive Moves (r : RelaySetting) (s : PrivateRelay) : RelayEvent → PrivateRelay → Prop
  | up {a l} (hmay : s.MayUp a) (hstep : s.up.step r.up a = some l) :
      Moves r s (.up a) { s with up := l }
  | down {a l} (hmay : s.MayDown a) (hstep : s.down.step r.down a = some l) :
      Moves r s (.down a) { s with down := l }
  | clientShuts (hshuts : r.clientShuts = true) (hshut : s.clientShut = false)
      (htodo : s.up.todo = []) : Moves r s .clientShuts { s with clientShut := true }
  | upstreamShuts (hshuts : r.upstreamShuts = true) (hshut : s.upstreamShut = false)
      (htodo : s.down.todo = []) : Moves r s .upstreamShuts { s with upstreamShut := true }
  | clientEof (hselect : s.Selecting) (hshut : s.clientShut = true) (hsource : s.up.source = []) :
      Moves r s .clientEof { s with session := .leaving }
  | queueEnded (hselect : s.Selecting) (hopen : s.down.isOpen = false) (hqueue : s.down.queue = []) :
      Moves r s .queueEnded { s with session := .leaving }
  | sessionRemoves (hsession : s.session = .leaving) (hwait : s.down.waiting = none) :
      Moves r s .sessionRemoves
        { s with session := .removed, down := { s.down with isOpen := false } }
  | sessionCloses {l} (hsession : s.session = .removed) (hstep : s.up.step r.up .close = some l) :
      Moves r s .sessionCloses { s with session := .closing, up := l }
  | sessionReturns (hsession : s.session = .closing) (hput : s.up.putting = none) :
      Moves r s .sessionReturns
        { s with session := .done, down := { s.down with alive := false } }
  | upstreamEof (htask : s.task = .relaying) (hput : s.down.putting = none)
      (hshut : s.upstreamShut = true) (hsource : s.down.source = []) :
      Moves r s .upstreamEof { s with task := .leaving }
  | streamEnded {l} (htask : s.task = .relaying) (hopen : s.up.isOpen = false)
      (hqueue : s.up.queue = []) (hhand : s.up.hand = [])
      (hstep : s.down.step r.down .cut = some l) :
      Moves r s .streamEnded { s with task := .leaving, down := l }
  | taskRemoves (htask : s.task = .leaving) (hwait : s.up.waiting = none) :
      Moves r s .taskRemoves { s with task := .removed, up := { s.up with isOpen := false } }
  | taskCloses {l} (htask : s.task = .removed) (hstep : s.down.step r.down .close = some l) :
      Moves r s .taskCloses { s with task := .closing, down := l }
  | taskReturns (htask : s.task = .closing) (hput : s.down.putting = none) :
      Moves r s .taskReturns { s with task := .done, up := { s.up with alive := false } }

variable {s t : PrivateRelay} {e : RelayEvent} {as : List RelayEvent}

/-- Every step is one of them. -/
theorem moves_of_step (h : s.step r e = some t) : s.Moves r e t := by
  cases e with
  | up a =>
      simp only [step] at h
      split_ifs at h with hmay
      obtain ⟨l, hl, rfl⟩ := Option.map_eq_some_iff.mp h
      exact .up hmay hl
  | down a =>
      simp only [step] at h
      split_ifs at h with hmay
      obtain ⟨l, hl, rfl⟩ := Option.map_eq_some_iff.mp h
      exact .down hmay hl
  | clientShuts =>
      simp only [step] at h
      split_ifs at h with hif
      obtain rfl := Option.some.inj h
      exact .clientShuts hif.1 hif.2.1 hif.2.2
  | upstreamShuts =>
      simp only [step] at h
      split_ifs at h with hif
      obtain rfl := Option.some.inj h
      exact .upstreamShuts hif.1 hif.2.1 hif.2.2
  | clientEof =>
      simp only [step] at h
      split_ifs at h with hif
      obtain rfl := Option.some.inj h
      exact .clientEof hif.1 hif.2.1 hif.2.2
  | queueEnded =>
      simp only [step] at h
      split_ifs at h with hif
      obtain rfl := Option.some.inj h
      exact .queueEnded hif.1 hif.2.1 hif.2.2
  | sessionRemoves =>
      simp only [step] at h
      split_ifs at h with hif
      obtain rfl := Option.some.inj h
      exact .sessionRemoves hif.1 hif.2
  | sessionCloses =>
      simp only [step] at h
      split_ifs at h with hif
      obtain ⟨l, hl, rfl⟩ := Option.map_eq_some_iff.mp h
      exact .sessionCloses hif hl
  | sessionReturns =>
      simp only [step] at h
      split_ifs at h with hif
      obtain rfl := Option.some.inj h
      exact .sessionReturns hif.1 hif.2
  | upstreamEof =>
      simp only [step] at h
      split_ifs at h with hif
      obtain rfl := Option.some.inj h
      exact .upstreamEof hif.1 hif.2.1 hif.2.2.1 hif.2.2.2
  | streamEnded =>
      simp only [step] at h
      split_ifs at h with hif
      obtain ⟨l, hl, rfl⟩ := Option.map_eq_some_iff.mp h
      exact .streamEnded hif.1 hif.2.1 hif.2.2.1 hif.2.2.2 hl
  | taskRemoves =>
      simp only [step] at h
      split_ifs at h with hif
      obtain rfl := Option.some.inj h
      exact .taskRemoves hif.1 hif.2
  | taskCloses =>
      simp only [step] at h
      split_ifs at h with hif
      obtain ⟨l, hl, rfl⟩ := Option.map_eq_some_iff.mp h
      exact .taskCloses hif hl
  | taskReturns =>
      simp only [step] at h
      split_ifs at h with hif
      obtain rfl := Option.some.inj h
      exact .taskReturns hif.1 hif.2

theorem brings_of_mayUp {a : LaneAction} (h : s.MayUp a) : a.Brings := by
  cases a with
  | close | cut | unregister | drop => exact h
  | _ => exact trivial

theorem brings_of_mayDown {a : LaneAction} (h : s.MayDown a) : a.Brings := by
  cases a with
  | close | cut | unregister | drop => exact h
  | _ => exact trivial

/-! ## Coming to rest -/

/-- Nothing happens any more. -/
def AtRest (r : RelaySetting) (s : PrivateRelay) : Prop := ∀ e, s.step r e = none

end PrivateRelay

/-- What an end has still to do, if its `StreamClose` is so long. -/
def RelayPhase.work (close : ℕ) : RelayPhase → ℕ
  | .relaying => 2 * close + 5
  | .leaving => 2 * close + 4
  | .removed => 2 * close + 3
  | .closing => 1
  | .done => 0

namespace PrivateRelay

variable {r : RelaySetting} {s t : PrivateRelay} {e : RelayEvent} {as : List RelayEvent}

/-- How much there is left to do. -/
def work (r : RelaySetting) (s : PrivateRelay) : ℕ :=
  s.up.work r.up + s.down.work r.down + s.session.work r.up.close + s.task.work r.down.close +
    (!s.clientShut).toNat + (!s.upstreamShut).toNat

/-- **Every step** takes some of the work. -/
theorem work_step (h : s.step r e = some t) : t.work r < s.work r := by
  unfold work
  cases moves_of_step h with
  | up hmay hstep =>
      have hless := Lane.work_step (brings_of_mayUp hmay) hstep
      dsimp only
      omega
  | down hmay hstep =>
      have hless := Lane.work_step (brings_of_mayDown hmay) hstep
      dsimp only
      omega
  | clientShuts hshuts hshut | upstreamShuts hshuts hshut =>
      rw [hshut]
      simp
  | clientEof hselect =>
      rw [hselect.1]
      simp [RelayPhase.work]
  | queueEnded hselect =>
      rw [hselect.1]
      simp [RelayPhase.work]
  | sessionRemoves hphase | sessionReturns hphase | upstreamEof hphase | taskRemoves hphase
  | taskReturns hphase =>
      rw [hphase]
      simp [RelayPhase.work, Lane.work, Lane.used]
  | sessionCloses hphase hstep | taskCloses hphase hstep =>
      rw [hphase, Lane.work_close hstep]
      simp only [RelayPhase.work]
      omega
  | streamEnded htask hopen hqueue hhand hstep =>
      have hle := Lane.work_cut hstep
      rw [htask]
      simp only [RelayPhase.work]
      omega

/-- **No run goes on forever.** -/
theorem length_le (h : (machine r).Reaches as t) : as.length ≤ (start r).work r :=
  (Nat.le_add_right _ _).trans (Machine.Run.length_le (fun _ _ _ => work_step) h)

/-- **From every state** the relay comes to rest. -/
theorem exists_atRest (r : RelaySetting) (s : PrivateRelay) :
    ∃ as t, (machine r).exec s as = some t ∧ t.AtRest r := by
  obtain ⟨as, t, -, hexec, hstands⟩ := (machine r).exists_standing (A := fun _ => True)
    (fun _ _ _ _ hstep => work_step hstep) s
  exact ⟨as, t, hexec, fun e => hstands e trivial⟩

end PrivateRelay

end AdbHub
