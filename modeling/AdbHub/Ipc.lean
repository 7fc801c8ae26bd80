import AdbHub.Registry
import AdbHub.Lib.Framing

/-!
# The agent protocol

The messages between an agent and the daemon, and their framing on the control socket (`ipc.rs`):
a `u32` length in big-endian order, a type byte and the payload. Records travel as JSON, which is
a parameter here (`SerdeJson`); stream data travels as raw bytes.

* `frameOf` — the bytes `write_message` puts on the socket, and `readMessage`, which takes one
  message off it.
* **`readMessage_frame`** — a frame of at most `maxFrame` bytes reads back as its message, whatever
  follows it.
* **`readMessage_incomplete`** — of a frame that is only partly there, nothing is read.
* `sanitizedToSnapshot` — the registry entries for the devices an agent reports.
-/

namespace AdbHub

open Lib

/-- Bytes on a socket. -/
abbrev Bytes := List UInt8

/-! ## Messages -/

/-- The type byte of a frame. Source: `ipc.rs`, `MsgType`. -/
inductive MsgType
  | registerAgent | deviceSnapshot | deviceSnapshotChanged | openPrivateStream | openResult
  | streamData | streamClose | ping | pong
  deriving DecidableEq

namespace MsgType

/-- The discriminants. Source: `MsgType`. -/
def toU8 : MsgType → UInt8
  | registerAgent => 1
  | deviceSnapshot => 2
  | deviceSnapshotChanged => 3
  | openPrivateStream => 4
  | openResult => 5
  | streamData => 6
  | streamClose => 7
  | ping => 8
  | pong => 9

/-- Source: `MsgType::from_u8`. -/
def fromU8 (v : UInt8) : Option MsgType :=
  match v.toNat with
  | 1 => some registerAgent
  | 2 => some deviceSnapshot
  | 3 => some deviceSnapshotChanged
  | 4 => some openPrivateStream
  | 5 => some openResult
  | 6 => some streamData
  | 7 => some streamClose
  | 8 => some ping
  | 9 => some pong
  | _ => none

@[simp] theorem fromU8_toU8 (ty : MsgType) : fromU8 ty.toU8 = some ty := by
  cases ty <;> rfl

end MsgType

/-- Device metadata reported by an agent; there is no pair code in it. Source: `ipc.rs`,
`SanitizedDevice`. -/
structure SanitizedDevice where
  publicSerial : String
  upstreamSerial : String
  state : String
  extras : String
  backendName : String
  /-- Opaque to the daemon; the agent maps it to address, pair code and upstream serial. -/
  routeId : String
  deriving DecidableEq

/-- Source: `ipc.rs`, `RegisterAgent`. -/
structure RegisterAgent where
  version : UInt32
  capabilities : List String
  instanceToken : String
  deriving DecidableEq

/-- Source: `ipc.rs`, `DeviceSnapshotMsg`. -/
structure DeviceSnapshotMsg where
  generation : UInt64
  devices : List SanitizedDevice
  deriving DecidableEq

/-- Source: `ipc.rs`, `OpenPrivateStream`. -/
structure OpenPrivateStream where
  streamId : UInt32
  routeId : String
  service : String
  deriving DecidableEq

/-- Source: `ipc.rs`, `OpenResult`. -/
structure OpenResult where
  streamId : UInt32
  ok : Bool
  failReason : Option String
  deriving DecidableEq

/-- Source: `ipc.rs`, `StreamClose`. -/
structure StreamClose where
  streamId : UInt32
  reason : String
  deriving DecidableEq

/-- What agent and daemon send each other. Source: `ipc.rs`, `IpcMessage`. -/
inductive IpcMessage
  | registerAgent (m : RegisterAgent)
  | deviceSnapshot (m : DeviceSnapshotMsg)
  | deviceSnapshotChanged (m : DeviceSnapshotMsg)
  | openPrivateStream (m : OpenPrivateStream)
  | openResult (m : OpenResult)
  | streamData (streamId : UInt32) (data : Bytes)
  | streamClose (m : StreamClose)
  | ping
  | pong
  deriving DecidableEq

/-- Source: `ipc.rs`, `PROTOCOL_VERSION`. -/
def protocolVersion : UInt32 := 1

/-! ## JSON

`serde_json` is not part of the repository. What the protocol relies on is that it decodes what
it encodes. -/

/-- `serde_json` at one record type; an error carries its text. -/
structure JsonCodec (α : Type) where
  toVec : α → Except String Bytes
  fromSlice : Bytes → Except String α

/-- The codec decodes what it encodes. -/
def JsonCodec.Decodes {α : Type} (codec : JsonCodec α) : Prop :=
  ∀ v bytes, codec.toVec v = .ok bytes → codec.fromSlice bytes = .ok v

/-- `serde_json` at the record types of the protocol. -/
structure SerdeJson where
  registerAgent : JsonCodec RegisterAgent
  deviceSnapshotMsg : JsonCodec DeviceSnapshotMsg
  openPrivateStream : JsonCodec OpenPrivateStream
  openResult : JsonCodec OpenResult
  streamClose : JsonCodec StreamClose

/-- `serde_json` decodes the records it encodes. -/
structure SerdeJson.Decodes (json : SerdeJson) : Prop where
  registerAgent : json.registerAgent.Decodes
  deviceSnapshotMsg : json.deviceSnapshotMsg.Decodes
  openPrivateStream : json.openPrivateStream.Decodes
  openResult : json.openResult.Decodes
  streamClose : json.streamClose.Decodes

/-- An ASCII text, given in pieces. -/
def asciiBytes (pieces : List String) : Bytes := pieces.flatMap fun p => p.toList.map Char.toUInt8

/-- A codec that knows finitely many records with their texts. -/
def JsonCodec.ofTable {α : Type} [DecidableEq α] (table : List (α × Bytes)) : JsonCodec α where
  toVec v :=
    match table.find? fun p => p.1 = v with
    | some p => .ok p.2
    | none => .error "unknown record"
  fromSlice bytes :=
    match table.find? fun p => p.2 = bytes with
    | some p => .ok p.1
    | none => .error "unknown text"

/-- A codec with a text of its own for each record decodes what it encodes. -/
theorem JsonCodec.decodes_ofTable {α : Type} [DecidableEq α] {table : List (α × Bytes)}
    (h : (table.map Prod.snd).Nodup) : (ofTable table).Decodes := by
  intro v bytes hv
  simp only [ofTable] at hv ⊢
  rcases hp : table.find? fun p => p.1 = v with _ | p
  · rw [hp] at hv
    simp at hv
  · rw [hp] at hv
    obtain rfl : p.2 = bytes := Except.ok.inj hv
    have hpv : p.1 = v := by simpa using List.find?_some hp
    have hmem := List.mem_of_find?_eq_some hp
    rcases hq : table.find? fun q => q.2 = p.2 with _ | q
    · have hne := List.find?_eq_none.mp hq p hmem
      simp at hne
    · have hqp : q.2 = p.2 := by simpa using List.find?_some hq
      obtain rfl := List.inj_on_of_nodup_map h (List.mem_of_find?_eq_some hq) hmem hqp
      rw [← hpv, hq]

/-- Errors of the framing layer. Source: `io::ErrorKind` and text. -/
inductive IpcError
  | unexpectedEof
  | invalidData (text : String)
  deriving DecidableEq

/-- Source: `ipc.rs`, `to_json`. -/
def toJson {α : Type} (codec : JsonCodec α) (v : α) : Except IpcError Bytes :=
  (codec.toVec v).mapError .invalidData

/-- Source: `ipc.rs`, `from_json`. -/
def fromJson {α : Type} (codec : JsonCodec α) (payload : Bytes) : Except IpcError α :=
  (codec.fromSlice payload).mapError .invalidData

theorem fromJson_toJson {α : Type} {codec : JsonCodec α} (h : codec.Decodes) {v : α}
    {payload : Bytes} (hv : toJson codec v = .ok payload) : fromJson codec payload = .ok v := by
  unfold toJson at hv
  rcases hc : codec.toVec v with e | bytes
  · rw [hc] at hv
    cases hv
  · rw [hc] at hv
    obtain rfl : bytes = payload := Except.ok.inj hv
    rw [fromJson, h v bytes hc]
    rfl

/-! ## Frames -/

/-- Source: `u32::to_be_bytes`. -/
def u32ToBe (n : UInt32) : Bytes :=
  [UInt8.ofNat (n.toNat / 2 ^ 24), UInt8.ofNat (n.toNat / 2 ^ 16), UInt8.ofNat (n.toNat / 2 ^ 8),
    UInt8.ofNat n.toNat]

/-- Source: `u32::from_be_bytes`. -/
def u32FromBe (bytes : Bytes) : UInt32 :=
  UInt32.ofNat (bytes.foldl (fun n b => n * 2 ^ 8 + b.toNat) 0)

@[simp] theorem length_u32ToBe (n : UInt32) : (u32ToBe n).length = 4 := rfl

@[simp] theorem u32FromBe_u32ToBe (n : UInt32) : u32FromBe (u32ToBe n) = n := by
  have hn : n.toNat < 2 ^ 32 := n.toNat_lt
  apply UInt32.toNat_inj.mp
  simp only [u32FromBe, u32ToBe, List.foldl_cons, List.foldl_nil, UInt8.toNat_ofNat',
    UInt32.toNat_ofNat']
  omega

/-- Message type and payload. Source: `ipc.rs`, `encode_message`. -/
def encodeMessage (json : SerdeJson) : IpcMessage → Except IpcError (MsgType × Bytes)
  | .registerAgent m => (toJson json.registerAgent m).map (.registerAgent, ·)
  | .deviceSnapshot m => (toJson json.deviceSnapshotMsg m).map (.deviceSnapshot, ·)
  | .deviceSnapshotChanged m => (toJson json.deviceSnapshotMsg m).map (.deviceSnapshotChanged, ·)
  | .openPrivateStream m => (toJson json.openPrivateStream m).map (.openPrivateStream, ·)
  | .openResult m => (toJson json.openResult m).map (.openResult, ·)
  | .streamData streamId data => .ok (.streamData, u32ToBe streamId ++ data)
  | .streamClose m => (toJson json.streamClose m).map (.streamClose, ·)
  | .ping => .ok (.ping, [])
  | .pong => .ok (.pong, [])

/-- Source: `ipc.rs`, `decode_message`. -/
def decodeMessage (json : SerdeJson) (ty : MsgType) (payload : Bytes) :
    Except IpcError IpcMessage :=
  match ty with
  | .registerAgent => (fromJson json.registerAgent payload).map .registerAgent
  | .deviceSnapshot => (fromJson json.deviceSnapshotMsg payload).map .deviceSnapshot
  | .deviceSnapshotChanged => (fromJson json.deviceSnapshotMsg payload).map .deviceSnapshotChanged
  | .openPrivateStream => (fromJson json.openPrivateStream payload).map .openPrivateStream
  | .openResult => (fromJson json.openResult payload).map .openResult
  | .streamData =>
      if payload.length < 4 then .error (.invalidData "StreamData too short")
      else .ok (.streamData (u32FromBe (payload.take 4)) (payload.drop 4))
  | .streamClose => (fromJson json.streamClose payload).map .streamClose
  | .ping => .ok .ping
  | .pong => .ok .pong

/-- The frame of a payload; the length is cast from `usize` to `u32`. Source: `ipc.rs`,
`write_message`. -/
def frameBytes (ty : MsgType) (payload : Bytes) : Bytes :=
  u32ToBe (UInt32.ofNat (1 + payload.length)) ++ [ty.toU8] ++ payload

/-- The bytes `write_message` puts out for a message. Source: `ipc.rs`, `write_message`. -/
def frameOf (json : SerdeJson) (msg : IpcMessage) : Except IpcError Bytes :=
  (encodeMessage json msg).map fun (ty, payload) => frameBytes ty payload

/-- The longest frame body the reader takes. Source: `ipc.rs`, `read_message`. -/
def maxFrame : ℕ := 16 * 1024 * 1024

/-- Exactly `n` bytes, and the rest. Source: `AsyncReadExt::read_exact`. -/
def readExact (n : ℕ) (bytes : Bytes) : Except IpcError (Bytes × Bytes) :=
  if bytes.length < n then .error .unexpectedEof else .ok (bytes.take n, bytes.drop n)

/-- Take one message off the stream. On an open socket `unexpectedEof` means that the reader
waits for more bytes. Source: `ipc.rs`, `read_message`. -/
def readMessage (json : SerdeJson) (bytes : Bytes) : Except IpcError (IpcMessage × Bytes) := do
  let (lenBuf, rest) ← readExact 4 bytes
  let len := (u32FromBe lenBuf).toNat
  if len = 0 then throw (.invalidData "empty IPC frame")
  if len > maxFrame then throw (.invalidData ("IPC frame too large: " ++ len.repr))
  let (body, rest) ← readExact len rest
  let some ty := MsgType.fromU8 (body.headD 0)
    | throw (.invalidData ("unknown IPC type " ++ (body.headD 0).toNat.repr))
  let msg ← decodeMessage json ty body.tail
  return (msg, rest)

/-- All messages that can be read from the bytes, and the bytes left over. -/
def readMessages (json : SerdeJson) (bytes : Bytes) : List IpcMessage × Bytes :=
  parseMany (fun b => (readMessage json b).toOption) bytes.length bytes

variable {json : SerdeJson} {msg : IpcMessage} {ty : MsgType} {payload frame : Bytes}

/-! ## Reading back what was written -/

theorem decodeMessage_encodeMessage (hjson : json.Decodes)
    (h : encodeMessage json msg = .ok (ty, payload)) : decodeMessage json ty payload = .ok msg := by
  have hrecord : ∀ {α : Type} {codec : JsonCodec α} {v : α} {t : MsgType}, codec.Decodes →
      (toJson codec v).map (t, ·) = .ok (ty, payload) → t = ty ∧ fromJson codec payload = .ok v := by
    intro α codec v t hcodec hv
    rcases hc : toJson codec v with e | bytes
    · rw [hc] at hv
      cases hv
    · rw [hc] at hv
      obtain ⟨rfl, rfl⟩ := Prod.mk.inj (Except.ok.inj hv)
      exact ⟨rfl, fromJson_toJson hcodec hc⟩
  cases msg with
  | registerAgent m =>
      obtain ⟨rfl, hm⟩ := hrecord hjson.registerAgent h
      simp [decodeMessage, hm, Except.map]
  | deviceSnapshot m | deviceSnapshotChanged m =>
      obtain ⟨rfl, hm⟩ := hrecord hjson.deviceSnapshotMsg h
      simp [decodeMessage, hm, Except.map]
  | openPrivateStream m =>
      obtain ⟨rfl, hm⟩ := hrecord hjson.openPrivateStream h
      simp [decodeMessage, hm, Except.map]
  | openResult m =>
      obtain ⟨rfl, hm⟩ := hrecord hjson.openResult h
      simp [decodeMessage, hm, Except.map]
  | streamClose m =>
      obtain ⟨rfl, hm⟩ := hrecord hjson.streamClose h
      simp [decodeMessage, hm, Except.map]
  | streamData streamId data =>
      obtain ⟨rfl, rfl⟩ := Prod.mk.inj (Except.ok.inj h)
      have htake : (u32ToBe streamId ++ data).take 4 = u32ToBe streamId :=
        List.take_left' (length_u32ToBe streamId)
      have hdrop : (u32ToBe streamId ++ data).drop 4 = data :=
        List.drop_left' (length_u32ToBe streamId)
      simp [decodeMessage, htake, hdrop]
  | ping | pong =>
      obtain ⟨rfl, rfl⟩ := Prod.mk.inj (Except.ok.inj h)
      rfl

theorem readExact_append (a b : Bytes) : readExact a.length (a ++ b) = .ok (a, b) := by
  simp [readExact]

theorem readExact_of_lt {n : ℕ} {bytes : Bytes} (h : bytes.length < n) :
    readExact n bytes = .error .unexpectedEof := by
  simp [readExact, h]

/-- The length field of a frame that the reader takes. -/
theorem toNat_length_field (h : 1 + payload.length ≤ maxFrame) :
    (UInt32.ofNat (1 + payload.length)).toNat = 1 + payload.length := by
  rw [UInt32.toNat_ofNat', Nat.mod_eq_of_lt]
  unfold maxFrame at h
  omega

/-- A frame of at most `maxFrame` bytes reads back as its message, whatever follows. -/
theorem readMessage_frameBytes (hjson : json.Decodes)
    (h : encodeMessage json msg = .ok (ty, payload)) (hlen : 1 + payload.length ≤ maxFrame)
    (rest : Bytes) : readMessage json (frameBytes ty payload ++ rest) = .ok (msg, rest) := by
  have hbody : readExact (1 + payload.length) (ty.toU8 :: (payload ++ rest)) =
      .ok (ty.toU8 :: payload, rest) := by
    rw [show 1 + payload.length = (ty.toU8 :: payload).length by simp [add_comm],
      ← List.cons_append, readExact_append]
  have hhead : readExact 4 (frameBytes ty payload ++ rest) =
      .ok (u32ToBe (UInt32.ofNat (1 + payload.length)), ty.toU8 :: (payload ++ rest)) := by
    rw [frameBytes, List.append_assoc, List.append_assoc,
      ← length_u32ToBe (UInt32.ofNat (1 + payload.length)), readExact_append]
    rfl
  simp only [readMessage, hhead, bind, Except.bind, u32FromBe_u32ToBe, toNat_length_field hlen,
    hbody, List.headD_cons, MsgType.fromU8_toU8, List.tail_cons,
    decodeMessage_encodeMessage hjson h]
  rw [if_neg (by omega), if_neg (by omega)]
  rfl

theorem length_frameBytes (ty : MsgType) (payload : Bytes) :
    (frameBytes ty payload).length = 4 + (1 + payload.length) := by
  simp [frameBytes]
  omega

/-- Of a frame that is only partly there, the reader takes nothing: it waits for the rest. -/
theorem readMessage_incomplete (hlen : 1 + payload.length ≤ maxFrame) {done todo : Bytes}
    (hframe : done ++ todo = frameBytes ty payload) (htodo : todo ≠ []) :
    readMessage json done = .error .unexpectedEof := by
  have htot : done.length + todo.length = 4 + (1 + payload.length) := by
    rw [← List.length_append, hframe, length_frameBytes]
  have hpos : 0 < todo.length := List.length_pos_iff.mpr htodo
  by_cases h4 : done.length < 4
  · simp [readMessage, readExact_of_lt h4, bind, Except.bind]
  · have hprefix : (done ++ todo).take 4 = done.take 4 :=
      List.take_append_of_le_length (by omega)
    have htake : done.take 4 = u32ToBe (UInt32.ofNat (1 + payload.length)) := by
      rw [← hprefix, hframe, frameBytes, List.append_assoc]
      exact List.take_left' (length_u32ToBe _)
    have hhead : readExact 4 done =
        .ok (u32ToBe (UInt32.ofNat (1 + payload.length)), done.drop 4) := by
      rw [readExact, if_neg h4, htake]
    have hbody : readExact (1 + payload.length) (done.drop 4) = .error .unexpectedEof :=
      readExact_of_lt (by rw [List.length_drop]; omega)
    simp only [readMessage, hhead, bind, Except.bind, u32FromBe_u32ToBe, toNat_length_field hlen,
      hbody]
    rw [if_neg (by omega), if_neg (by omega)]

/-- A message of which the daemon takes the frame. -/
def Framed (json : SerdeJson) (msg : IpcMessage) (frame : Bytes) : Prop :=
  frameOf json msg = .ok frame ∧ frame.length ≤ 4 + maxFrame

theorem Framed.exists_payload (h : Framed json msg frame) :
    ∃ ty payload, encodeMessage json msg = .ok (ty, payload) ∧ frame = frameBytes ty payload ∧
      1 + payload.length ≤ maxFrame := by
  obtain ⟨hframe, hlen⟩ := h
  unfold frameOf at hframe
  rcases he : encodeMessage json msg with e | ⟨ty, payload⟩
  · rw [he] at hframe
    cases hframe
  · rw [he] at hframe
    obtain rfl : frameBytes ty payload = frame := Except.ok.inj hframe
    rw [length_frameBytes] at hlen
    exact ⟨ty, payload, rfl, rfl, by omega⟩

/-- A frame reads back as its message, whatever follows it. -/
theorem readMessage_frame (hjson : json.Decodes) (h : Framed json msg frame) (rest : Bytes) :
    readMessage json (frame ++ rest) = .ok (msg, rest) := by
  obtain ⟨ty, payload, he, rfl, hlen⟩ := h.exists_payload
  exact readMessage_frameBytes hjson he hlen rest

theorem Framed.ne_nil (h : Framed json msg frame) : frame ≠ [] := by
  obtain ⟨ty, payload, -, rfl, -⟩ := h.exists_payload
  simp [frameBytes]

theorem length_le_length_flatten {α β : Type*} (frames : List (α × List β))
    (h : ∀ f ∈ frames, f.2 ≠ []) : frames.length ≤ (frames.map Prod.snd).flatten.length := by
  induction frames with
  | nil => simp
  | cons f frames ih =>
      have hf : 0 < f.2.length := List.length_pos_iff.mpr (h f List.mem_cons_self)
      have := ih fun g hg => h g (List.mem_cons_of_mem _ hg)
      simp only [List.length_cons, List.map_cons, List.flatten_cons, List.length_append]
      omega

/-- **Whole frames, then a part of one.** A stream of whole frames followed by a proper part of
another frame, or by nothing, reads back as exactly the messages of the whole frames. -/
theorem readMessages_frames (hjson : json.Decodes) {frames : List (IpcMessage × Bytes)}
    (hframes : ∀ f ∈ frames, Framed json f.1 f.2) {done : Bytes}
    (hdone : done = [] ∨ ∃ m todo, Framed json m (done ++ todo) ∧ todo ≠ []) :
    readMessages json ((frames.map Prod.snd).flatten ++ done) = (frames.map Prod.fst, done) := by
  have hrest : (readMessage json done).toOption = none := by
    rcases hdone with rfl | ⟨m, todo, hm, htodo⟩
    · rfl
    · obtain ⟨ty, payload, -, hframe, hlen⟩ := hm.exists_payload
      rw [readMessage_incomplete hlen hframe htodo]
      rfl
  refine parseMany_flatten hrest frames (fun f hf r => ?_) ?_
  · rw [readMessage_frame hjson (hframes f hf) r]
    rfl
  · have := length_le_length_flatten frames fun f hf => (hframes f hf).ne_nil
    rw [List.length_append]
    omega

/-- Of whole frames that are not too long nothing is left over. -/
theorem readMessages_whole (hjson : json.Decodes) {frames : List (IpcMessage × Bytes)}
    (hframes : ∀ f ∈ frames, frameOf json f.1 = .ok f.2)
    (hlen : (frames.map Prod.snd).flatten.length ≤ 4 + maxFrame) :
    (readMessages json (frames.map Prod.snd).flatten).2 = [] := by
  have hfit : ∀ f ∈ frames, Framed json f.1 f.2 := by
    intro f hf
    have hsub := List.Sublist.length_le
      (List.sublist_flatten_of_mem (List.mem_map_of_mem (f := Prod.snd) hf))
    exact ⟨hframes f hf, hsub.trans hlen⟩
  have hread := readMessages_frames hjson hfit (.inl rfl)
  rw [List.append_nil] at hread
  rw [hread]

/-- Whatever the reader takes off the stream is at most `4 + maxFrame` bytes long. -/
theorem length_le_of_readMessage {bytes rest : Bytes} (h : readMessage json bytes = .ok (msg, rest)) :
    bytes.length ≤ 4 + maxFrame + rest.length := by
  have hread : ∀ {n : ℕ} {b c d : Bytes}, readExact n b = .ok (c, d) →
      b.length ≤ n + d.length := by
    intro n b c d hb
    unfold readExact at hb
    split_ifs at hb with hlen
    obtain ⟨-, rfl⟩ := Prod.mk.inj (Except.ok.inj hb)
    rw [List.length_drop]
    omega
  unfold readMessage at h
  rcases h4 : readExact 4 bytes with e | ⟨lenBuf, rest₁⟩
  · rw [h4] at h
    cases h
  · rw [h4] at h
    simp only [bind, Except.bind] at h
    split_ifs at h with hzero hmax
    rcases hbody : readExact (u32FromBe lenBuf).toNat rest₁ with e | ⟨body, rest₂⟩
    · rw [hbody] at h
      simp at h
    · rw [hbody] at h
      have hb4 := hread h4
      have hbn := hread hbody
      simp only at h
      split at h
      · rename_i ty hty
        rcases hm : decodeMessage json ty body.tail with e | m
        · rw [hm] at h
          simp at h
        · rw [hm] at h
          obtain ⟨-, rfl⟩ := Prod.mk.inj (Except.ok.inj h)
          omega
      · simp at h

/-- If whole frames followed by one more frame read back as their messages and one more, with
nothing left over, that frame was not too long. -/
theorem length_le_of_readMessages (hjson : json.Decodes) {frames : List (IpcMessage × Bytes)}
    (hframes : ∀ f ∈ frames, Framed json f.1 f.2) (hne : frame ≠ [])
    (h : readMessages json ((frames.map Prod.snd).flatten ++ frame) =
      (frames.map Prod.fst ++ [msg], [])) : frame.length ≤ 4 + maxFrame := by
  have hfuel : frames.length + 1 ≤ ((frames.map Prod.snd).flatten ++ frame).length := by
    have := length_le_length_flatten frames fun f hf => (hframes f hf).ne_nil
    have := List.length_pos_iff.mpr hne
    rw [List.length_append]
    omega
  obtain ⟨n, hn⟩ := Nat.exists_eq_add_of_le' hfuel
  have hparse : ∀ f ∈ frames, ∀ r, (readMessage json (f.2 ++ r)).toOption = some (f.1, r) := by
    intro f hf r
    rw [readMessage_frame hjson (hframes f hf) r]
    rfl
  unfold readMessages at h
  rw [hn, Nat.add_comm frames.length, ← Nat.add_assoc, parseMany_append frames hparse] at h
  obtain ⟨hmsgs, hrest⟩ := Prod.mk.inj h
  have hone := List.append_cancel_left hmsgs
  -- The last frame is read by one message that leaves nothing over.
  rw [parseMany] at hone hrest
  rcases hr : readMessage json frame with e | ⟨m, rest⟩
  · rw [hr] at hone
    cases hone
  · rw [hr] at hone hrest
    have hnil := (List.cons.inj hone).2
    have hleft : rest = [] := (snd_parseMany hnil).symm.trans hrest
    have hlen := length_le_of_readMessage hr
    rw [hleft] at hlen
    simpa using hlen

/-! ## Reported devices -/

/-- The registry entries for reported devices; their private streams go through the agent, so the
address is a placeholder. Source: `ipc.rs`, `sanitized_to_snapshot`. -/
def sanitizedToSnapshot (devices : List SanitizedDevice) : DeviceSnapshot :=
  ⟨devices.map fun d =>
    { publicSerial := d.publicSerial
      upstreamSerial := d.upstreamSerial
      state := d.state
      extras := d.extras
      backendName := d.backendName
      backendAddr := .loopback 0
      pairCode := none
      routeId := some d.routeId }⟩

/-- What `update_agent_devices` asserts of its argument. -/
theorem sanitizedToSnapshot_routed (devices : List SanitizedDevice) :
    ∀ d ∈ (sanitizedToSnapshot devices).devices, d.routeId.isSome ∧ d.pairCode = none := by
  intro d hd
  obtain ⟨s, -, rfl⟩ := List.mem_map.mp hd
  exact ⟨rfl, rfl⟩

end AdbHub
