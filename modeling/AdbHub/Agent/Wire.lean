import AdbHub.Agent.Control

/-!
# The control socket of an agent

Main loop, poller and stream tasks write their frames to one socket under the writer lock
(`agent.rs`, `ipc.rs`, `write_message`). A write that is dropped releases the lock and leaves on the
socket what it has put out.

* `wireSimulation` — the agent's writes are the library's `FrameWriter`.
* `WireIntact` — the bytes on the socket are whole encoded frames and a part of the frame in
  progress, and `read_message` takes exactly the messages sent off it.
* **`control_socket_intact_iff`** — the socket stays intact exactly when no frame is dropped that is
  partly out, and none is completed that is longer than the reader takes.
-/

namespace AdbHub

open Lib

/-! ## Whole frames on the socket -/

namespace ControlSocket

/-- The completed messages with their frames. -/
def frames (w : ControlSocket) : List (IpcMessage × Bytes) := w.sent.map fun f => (f.1.2, f.2)

/-- The messages sent. -/
def messages (w : ControlSocket) : List IpcMessage := w.frames.map Prod.fst

/-- The frame in progress, if any, is one that the reader takes. -/
def PendingFits (w : ControlSocket) : Prop :=
  ∀ p ∈ w.current, (p.done ++ p.todo).length ≤ 4 + maxFrame

/-- The bytes on the socket are whole encoded frames and a part of the frame in progress, and they
read back as the messages sent. -/
structure WireIntact (json : SerdeJson) (w : ControlSocket) : Prop where
  bytes : w.out = (w.frames.map Prod.snd).flatten ++ w.partialFrame
  encoded : ∀ f ∈ w.frames, frameOf json f.1 = .ok f.2
  pending : ∀ p ∈ w.current, frameOf json p.message.2 = .ok (p.done ++ p.todo)
  /-- The whole frames read back as the messages sent. -/
  decoded : readMessages json (w.frames.map Prod.snd).flatten = (w.messages, [])
  /-- Of the frame in progress nothing is read. -/
  waiting : w.PendingFits → readMessages json w.out = (w.messages, w.partialFrame)

/-- The step starts an encoded frame, does not complete a frame that the reader does not take, and
does not drop a frame that is partly out. -/
def KeepsWire (json : SerdeJson) (w : ControlSocket) : WriterAction (Writer × IpcMessage) UInt8 → Prop
  | .start message frame => frameOf json message.2 = .ok frame
  | .put n => ∀ p ∈ w.current, n = p.todo.length → (p.done ++ p.todo).length ≤ 4 + maxFrame
  | .cut => w.partialFrame = []

/-- The frames on the socket are encoded messages, and those completed are taken by the reader. -/
structure Encoded (json : SerdeJson) (w : ControlSocket) : Prop where
  sent : ∀ f ∈ w.frames, Framed json f.1 f.2
  pending : ∀ p ∈ w.current, frameOf json p.message.2 = .ok (p.done ++ p.todo)

variable {json : SerdeJson} {w w' : ControlSocket} {a : WriterAction (Writer × IpcMessage) UInt8}

theorem intact_iff : w.Intact ↔ w.out = (w.frames.map Prod.snd).flatten ++ w.partialFrame := by
  simp [FrameWriter.Intact, frames, Function.comp_def]

theorem frames_append (out : Bytes) (f : (Writer × IpcMessage) × Bytes) :
    frames ⟨out, w.sent ++ [f], none⟩ = w.frames ++ [(f.1.2, f.2)] := by
  simp [frames]

/-- With encoded frames, it is the bytes that matter. -/
theorem Encoded.wireIntact_iff (he : w.Encoded json) (hjson : json.Decodes) :
    w.WireIntact json ↔ w.Intact := by
  rw [intact_iff]
  refine ⟨WireIntact.bytes, fun hbytes => ⟨hbytes, fun f hf => (he.sent f hf).1, he.pending, ?_, ?_⟩⟩
  · have := readMessages_frames hjson he.sent (.inl rfl)
    rwa [List.append_nil] at this
  · intro hfits
    rw [hbytes]
    apply readMessages_frames hjson he.sent
    unfold FrameWriter.partialFrame
    rcases hc : w.current with _ | p
    · exact .inl rfl
    · exact .inr ⟨p.message.2, p.todo, ⟨he.pending p hc, hfits p hc⟩, p.todo_ne_nil⟩

theorem Encoded.step (he : w.Encoded json) (ha : w.KeepsWire json a)
    (h : (FrameWriter.machine _ _).step w a = some w') : w'.Encoded json := by
  cases a with
  | start message frame =>
      obtain ⟨-, hne, rfl⟩ := FrameWriter.start_eq_some h
      refine ⟨he.sent, ?_⟩
      rintro p ⟨⟩
      exact ha
  | put n =>
      obtain ⟨p, hc, -, ⟨hne, rfl⟩ | ⟨hn, rfl⟩⟩ := FrameWriter.put_eq_some h
      · refine ⟨he.sent, ?_⟩
        rintro q ⟨⟩
        have := he.pending p hc
        simpa using this
      · refine ⟨fun f hf => ?_, by rintro q ⟨⟩⟩
        rw [frames_append] at hf
        rcases List.mem_append.mp hf with hf | hf
        · exact he.sent f hf
        · obtain rfl := List.mem_singleton.mp hf
          exact ⟨he.pending p hc, ha p hc hn⟩
  | cut =>
      obtain ⟨-, rfl⟩ := FrameWriter.cut_eq_some h
      exact ⟨he.sent, by rintro p ⟨⟩⟩

/-- **Exactly the harmless steps.** -/
theorem wireIntact_step_iff (hjson : json.Decodes) (he : w.Encoded json) (hw : w.WireIntact json)
    (h : (FrameWriter.machine _ _).step w a = some w') :
    w'.WireIntact json ↔ w.KeepsWire json a := by
  have hi : w.Intact := (he.wireIntact_iff hjson).mp hw
  constructor
  · intro hw'
    cases a with
    | start message frame =>
        obtain ⟨-, hne, rfl⟩ := FrameWriter.start_eq_some h
        exact hw'.pending _ rfl
    | put n =>
        intro p hp hn
        obtain ⟨q, hq, -, ⟨hne, -⟩ | ⟨-, rfl⟩⟩ := FrameWriter.put_eq_some h
        · obtain rfl : q = p := Option.some.inj (hq.symm.trans hp)
          rw [hn, List.drop_length] at hne
          exact absurd rfl hne
        · obtain rfl : q = p := Option.some.inj (hq.symm.trans hp)
          have hread := hw'.decoded
          rw [messages, frames_append, List.map_append, List.map_append, List.flatten_append,
            List.map_singleton, List.map_singleton, List.flatten_singleton] at hread
          have hne : q.done ++ q.todo ≠ [] := List.append_ne_nil_of_right_ne_nil _ q.todo_ne_nil
          exact length_le_of_readMessages hjson he.sent hne hread
    | cut =>
        exact (FrameWriter.intact_step_iff hi h).mp (intact_iff.mpr hw'.bytes)
  · intro ha
    rw [(he.step ha h).wireIntact_iff hjson, FrameWriter.intact_step_iff hi h]
    cases a with
    | start | put => trivial
    | cut => exact ha

end ControlSocket

/-! ## The writes of an agent -/

namespace AgentState

variable {json : SerdeJson} {token : String} {s t : AgentState} {e : AgentTaskEvent} {w : Writer}
  {msg : IpcMessage}

/-- The message a task wants to write. -/
def wanted (s : AgentState) : Writer → Option IpcMessage
  | .main =>
      match s.main with
      | .want msg _ => some msg
      | _ => none
  | .poller =>
      match s.poller with
      | .want msg => some msg
      | _ => none
  | .task k =>
      match s.task k with
      | .relaying _ (.want data) => some (.streamData (s.streamId k) data)
      | .wantClose => some (.streamClose ⟨s.streamId k, "closed"⟩)
      | _ => none

/-- The step drops the write in progress: it fails, the `select!` of its task ends on the other
branch, or its task is aborted. -/
def drops (s : AgentState) : AgentTaskEvent → Bool
  | .writeError => true
  | .upFailed k | .recvClosed k => s.holder = some (.task k)
  | .stop => s.holder = some .poller
  | _ => false

/-- What a step is to the control socket. -/
def wireAction (json : SerdeJson) (s : AgentState) (e : AgentTaskEvent) :
    Option (WriterAction (Writer × IpcMessage) UInt8) :=
  match e with
  | .begin w =>
      (s.wanted w).bind fun msg => (frameOf json msg).toOption.map fun frame => .start (w, msg) frame
  | .put n => some (.put n)
  | e => if s.drops e then some .cut else none

/-- The frame a step completes. -/
def completes (s : AgentState) : AgentTaskEvent → Option (Pending (Writer × IpcMessage) UInt8)
  | .put n => s.wire.current.filter fun p => n = p.todo.length
  | _ => none

/-- The step does not drop a frame that is partly out, and completes none that is longer than the
reader takes. -/
def WritesWhole (s : AgentState) (e : AgentTaskEvent) : Prop :=
  (s.drops e → s.wire.partialFrame = []) ∧
    ∀ p ∈ s.completes e, (p.done ++ p.todo).length ≤ 4 + maxFrame

instance (s : AgentState) (e : AgentTaskEvent) : Decidable (s.WritesWhole e) :=
  inferInstanceAs (Decidable (_ ∧ _))

/-- The socket mirrors a step. -/
def WireStep (json : SerdeJson) (s : AgentState) (e : AgentTaskEvent) (t : AgentState) : Prop :=
  (FrameWriter.machine _ _).Mirrors (s.wireAction json e) s.wire t.wire

/-- Dropping the write of a task cuts the socket if the task is writing. -/
theorem wireStep_dropWrite
    (hact : s.wireAction json e = if s.holder = some w then some .cut else none)
    (ht : t.wire = (s.dropWrite w).wire) : WireStep json s e t := by
  unfold WireStep Machine.Mirrors
  rw [hact, ht, dropWrite]
  split_ifs with hw
  · refine .inr ⟨.cut, rfl, ?_⟩
    obtain ⟨p, hp, -⟩ := Option.map_eq_some_iff.mp hw
    simp [FrameWriter.machine, FrameWriter.cut, hp]
  · exact .inl ⟨rfl, rfl⟩

/-- A beginning write starts its frame on the socket as it is, or fails at once. -/
theorem wireStep_begin {u : AgentState} (h : u.beginWrite json w msg = some t)
    (hu : u.wire = s.wire) (hmsg : s.wanted w = some msg) : WireStep json s (.begin w) t := by
  rcases beginWrite_eq_some h with ⟨e, he, rfl⟩ | ⟨frame, wire, hframe, hstart, rfl⟩
  · refine .inl ⟨?_, ?_⟩
    · simp [wireAction, hmsg, he, Except.toOption]
    · rw [afterWrite_wire, hu]
  · refine .inr ⟨.start (w, msg) frame, ?_, ?_⟩
    · simp [wireAction, hmsg, hframe, Except.toOption]
    · rwa [hu] at hstart

theorem receive_wire (s : AgentState) (msg : IpcMessage) : (s.receive msg).wire = s.wire := by
  unfold receive offer
  split
  · rfl
  · split <;> rfl
  · split
    · split_ifs <;> rfl
    · rfl
  · rfl
  · rfl

/-- The socket mirrors every step. -/
theorem wire_step (h : s.step json e = some t) : WireStep json s e t := by
  cases moves_of_step h with
  | beginMain hmain hbegin => exact wireStep_begin hbegin rfl (by simp [wanted, hmain])
  | beginPoller hpoller hbegin => exact wireStep_begin hbegin rfl (by simp [wanted, hpoller])
  | beginData htask hbegin | beginClose htask hbegin =>
      exact wireStep_begin hbegin rfl (by simp [wanted, htask])
  | put hput => exact .inr ⟨.put _, rfl, hput⟩
  | putLast hw hput =>
      refine .inr ⟨.put _, rfl, ?_⟩
      rwa [afterWrite_wire]
  | @writeError w hw =>
      exact wireStep_dropWrite (w := w) (by simp [wireAction, drops, hw]) afterWrite_wire
  | stop => exact wireStep_dropWrite (w := .poller) (by simp [wireAction, drops]) rfl
  | @upFailed k | @recvClosed k =>
      exact wireStep_dropWrite (w := .task k) (by simp [wireAction, drops]) rfl
  | receive => exact .inl ⟨rfl, receive_wire s _⟩
  | _ => exact .inl ⟨rfl, rfl⟩

/-- The writes of an agent refine the library's frame writer. -/
def wireSimulation (json : SerdeJson) (token : String) :
    Simulation (machine json token) (FrameWriter.machine (Writer × IpcMessage) UInt8) where
  abs := wire
  act := wireAction json
  inv _ := True
  inv_init := trivial
  inv_step _ _ := trivial
  abs_init := rfl
  mirrors _ h := wire_step h

/-- The condition is the frame writer's. -/
theorem keepsWire_iff (e : AgentTaskEvent) :
    (∀ b, s.wireAction json e = some b → s.wire.KeepsWire json b) ↔
      s.WritesWhole e := by
  cases e with
  | begin w =>
      refine iff_of_true (fun b hb => ?_) (by simp [WritesWhole, drops, completes])
      obtain ⟨msg, -, hmsg⟩ := Option.bind_eq_some_iff.mp hb
      obtain ⟨frame, hframe, rfl⟩ := Option.map_eq_some_iff.mp hmsg
      show frameOf json msg = .ok frame
      rcases hf : frameOf json msg with err | bytes
      · rw [hf] at hframe
        cases hframe
      · rw [hf] at hframe
        rw [Option.some.inj hframe]
  | put n => simp [wireAction, WritesWhole, drops, completes, ControlSocket.KeepsWire]
  | _ => simp [wireAction, WritesWhole, completes, ControlSocket.KeepsWire]

/-- **The control socket stays intact, exactly.** In all states of a run the bytes on the control
socket are whole encoded frames and a part of the frame that the holder of the writer lock is
writing, and `read_message` takes exactly the messages sent off them, iff no write is dropped while
its frame is partly out, and no frame is completed that is longer than `read_message` takes.
Source: `agent.rs`, `open_private_stream`, and `ipc.rs`, `write_message`. -/
theorem control_socket_intact_iff (hjson : json.Decodes) {events : List AgentTaskEvent}
    (h : (machine json token).Reaches events s) :
    (machine json token).Always (fun s => s.wire.WireIntact json) events ↔
      (machine json token).Run WritesWhole events s := by
  have hsim := (wireSimulation json token).always_iff_run (I := ControlSocket.Encoded json)
    (Q := ControlSocket.WireIntact json) (D := ControlSocket.KeepsWire json) ?_ ?_ ?_ h
  · exact hsim.trans (Machine.run_congr fun s e => keepsWire_iff e)
  · intro as w hrun
    refine hrun.invariant ⟨?_, ?_⟩ fun w a w' he ha hs => he.step ha hs
    · rintro f ⟨⟩
    · rintro p ⟨⟩
  · exact ⟨rfl, by rintro f ⟨⟩, by rintro p ⟨⟩, rfl, fun _ => rfl⟩
  · intro w a w' he hw hs
    exact ControlSocket.wireIntact_step_iff hjson he hw hs

/-- Data of the upstream goes to the daemon, then the upstream closes. -/
def closedBetweenFrames : List AgentTaskEvent :=
  openStream ++ [.upstreamData 0 [0x61], .begin (.task 0), .put 5, .put 5, .upstreamEnd 0,
    .remove 0, .begin (.task 0), .put 38]

/-- The task ends between two frames, and the socket stays intact. -/
theorem closed_between_frames :
    (machine officeJson "t0").Always (fun s => s.wire.WireIntact officeJson)
      closedBetweenFrames := by
  have hchecks : (machine officeJson "t0").checks WritesWhole (machine officeJson "t0").init
      closedBetweenFrames = true := by decide +kernel
  obtain ⟨s, hs⟩ := Machine.exists_run_of_checks hchecks
  exact (control_socket_intact_iff decodes_officeJson hs.reaches).mpr hs

/-- The daemon closes the stream while data of the upstream is on its way to it: the length and
the type of the frame are out when `to_up` ends and the `select!` drops `from_up`. -/
def closedMidFrame : List AgentTaskEvent :=
  openStream ++ [.upstreamData 0 [0x61], .begin (.task 0), .put 5,
    .receive (.streamClose ⟨1, "client closed"⟩), .recvClosed 0, .remove 0, .begin (.task 0),
    .put 38]

/-- Nobody is writing, and the bytes on the socket are no whole frames: in place of the
`StreamClose` the daemon reads data for a stream that was never opened. -/
theorem closed_mid_frame :
    ∃ s sent, (machine officeJson "t0").Reaches closedMidFrame s ∧ s.holder = none ∧
      s.wire.messages = sent ++ [.streamClose ⟨1, "closed"⟩] ∧
      (readMessages officeJson s.wire.out).1 = sent ++ [.streamData 34 [7]] ∧
      (¬ ∃ frames : List (IpcMessage × Bytes), (∀ f ∈ frames, frameOf officeJson f.1 = .ok f.2) ∧
        s.wire.out = (frames.map Prod.snd).flatten) ∧
      ¬ s.wire.WireIntact officeJson := by
  have hrun : ((machine officeJson "t0").exec (machine officeJson "t0").init closedMidFrame).map
      (fun s => (s.holder, s.wire.messages.drop 3,
        (readMessages officeJson s.wire.out).1 == s.wire.messages.take 3 ++ [.streamData 34 [7]],
        decide ((readMessages officeJson s.wire.out).2 = []),
        decide (s.wire.out.length ≤ 4 + maxFrame))) =
      some (none, [.streamClose ⟨1, "closed"⟩], true, false, true) := by decide +kernel
  obtain ⟨s, hs, hstate⟩ := Option.map_eq_some_iff.mp hrun
  simp only [Prod.mk.injEq, beq_iff_eq, decide_eq_false_iff_not, decide_eq_true_eq] at hstate
  obtain ⟨hholder, hlast, hread, hrest, hlen⟩ := hstate
  have hnot : ¬ ∃ frames : List (IpcMessage × Bytes),
      (∀ f ∈ frames, frameOf officeJson f.1 = .ok f.2) ∧
        s.wire.out = (frames.map Prod.snd).flatten := by
    rintro ⟨frames, hframes, hout⟩
    exact hrest (by rw [hout] at hlen ⊢; exact readMessages_whole decodes_officeJson hframes hlen)
  refine ⟨s, s.wire.messages.take 3, Machine.reaches_of_exec hs, hholder, ?_, hread, hnot, ?_⟩
  · rw [← hlast, List.take_append_drop]
  · intro hw
    apply hnot
    refine ⟨s.wire.frames, hw.encoded, ?_⟩
    have hnone : s.wire.current = none := Option.map_eq_none_iff.mp hholder
    rw [hw.bytes, FrameWriter.partialFrame, hnone, List.append_nil]

end AgentState

end AdbHub
