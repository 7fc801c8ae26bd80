import AdbHub.Ipc
import AdbHub.Lib.Codec
import AdbHub.Lib.Effect

/-!
# Messages on the control socket

Sequences of messages written with `write_message` and read back with `read_message` (`ipc.rs`).
The writer puts any payload out and casts its length to `u32`; the reader takes frames of at most
16 MiB.

* `writeMessage` — the writer, over a stream whose writes may fail at any point.
* `FitsFrame` — if the message can be encoded, the reader takes its frame.
* **`messages_read_back_iff`** — every sequence that is written reads back as it was, and nothing
  is written that the reader rejects or the length field cannot express, exactly when every
  message fits.
-/

namespace AdbHub

open Lib

/-- Errors of `write_message`: of the encoding, or of the stream with its text. -/
inductive WriteError
  | encode (e : IpcError)
  | io (text : String)
  deriving DecidableEq

/-- Source: `ipc.rs`, `write_message`. -/
def writeMessage (json : SerdeJson) (msg : IpcMessage) (w : Sink UInt8) :
    Except WriteError (Sink UInt8) := do
  let (ty, payload) ← (encodeMessage json msg).mapError .encode
  let len := UInt32.ofNat (1 + payload.length)
  let w ← (w.writeAll (u32ToBe len)).mapError .io
  let w ← (w.writeAll [ty.toU8]).mapError .io
  (w.writeAll payload).mapError .io

/-- One call of `read_message`; a connection is given up after an error. -/
def receiveMessage (json : SerdeJson) (bytes : Bytes) : Except IpcError IpcMessage × Bytes :=
  match readMessage json bytes with
  | .ok (msg, rest) => (.ok msg, rest)
  | .error e => (.error e, [])

/-- If the message can be encoded, its frame is one that the reader takes. -/
def FitsFrame (json : SerdeJson) (msg : IpcMessage) : Prop :=
  ∀ ty payload, encodeMessage json msg = .ok (ty, payload) → 1 + payload.length ≤ maxFrame

/-- Whatever is written for a message has a length that fits the length field, and is not rejected
by the reader. -/
def WritesReadable (json : SerdeJson) (msg : IpcMessage) : Prop :=
  ∀ w w', writeMessage json msg w = .ok w' → ∃ frame, w'.out = w.out ++ frame ∧
    frame.length < 4 + 2 ^ 32 ∧ ∀ rest, ∃ m r, readMessage json (frame ++ rest) = .ok (m, r)

variable {json : SerdeJson} {msg : IpcMessage} {ty : MsgType} {payload : Bytes}
  {w w' : Sink UInt8}

/-! ## What is written -/

/-- A write that succeeds puts the frame of the message out. -/
theorem writeMessage_ok (h : writeMessage json msg w = .ok w') :
    ∃ ty payload, encodeMessage json msg = .ok (ty, payload) ∧
      w' = { w with out := w.out ++ frameBytes ty payload } := by
  unfold writeMessage at h
  obtain ⟨⟨ty, payload⟩, he, h⟩ := bind_eq_ok h
  have hput : ∀ {bytes : Bytes} {u u' : Sink UInt8},
      (u.writeAll bytes).mapError WriteError.io = .ok u' →
        u' = { u with out := u.out ++ bytes } :=
    fun hu => Sink.writeAll_ok (mapError_eq_ok_iff.mp hu)
  refine ⟨ty, payload, mapError_eq_ok_iff.mp he, ?_⟩
  rw [frameBytes, List.append_assoc]
  exact Sink.bind_ok (fun _ => hput)
    (fun _ hrest => Sink.bind_ok (fun _ => hput) (fun _ => hput) hrest) h

theorem writeMessage_faultless (h : encodeMessage json msg = .ok (ty, payload)) (out : Bytes) :
    writeMessage json msg (.faultless out) = .ok (.faultless (out ++ frameBytes ty payload)) := by
  simp [writeMessage, h, bind, Except.bind, Except.mapError, frameBytes]

/-- A frame whose length the field expresses, but of more than `maxFrame` bytes, is rejected. -/
theorem readMessage_too_large (json : SerdeJson) (ty : MsgType)
    (hlong : maxFrame < 1 + payload.length)
    (hfield : 1 + payload.length < 2 ^ 32) (rest : Bytes) :
    ∃ text, readMessage json (frameBytes ty payload ++ rest) = .error (.invalidData text) := by
  have hhead : readExact 4 (frameBytes ty payload ++ rest) =
      .ok (u32ToBe (UInt32.ofNat (1 + payload.length)), ty.toU8 :: (payload ++ rest)) := by
    rw [frameBytes, List.append_assoc, List.append_assoc,
      ← length_u32ToBe (UInt32.ofNat (1 + payload.length)), readExact_append]
    rfl
  have hlen : (UInt32.ofNat (1 + payload.length)).toNat = 1 + payload.length := by
    rw [UInt32.toNat_ofNat', Nat.mod_eq_of_lt hfield]
  refine ⟨"IPC frame too large: " ++ (1 + payload.length).repr, ?_⟩
  simp only [readMessage, hhead, bind, Except.bind, u32FromBe_u32ToBe, hlen]
  rw [if_neg (by omega), if_pos hlong]
  rfl

/-! ## Reading back -/

/-- Messages, as `write_message` and `read_message` have them. -/
def messageFormat (hjson : json.Decodes) :
    Format (writeMessage json) (receiveMessage json) (Except.ok ·) (FitsFrame json) where
  encode msg := (frameOf json msg).toOption
  write_ok h := by
    obtain ⟨ty, payload, he, rfl⟩ := writeMessage_ok h
    exact ⟨frameBytes ty payload, by simp [frameOf, he, Except.map, Except.toOption], rfl⟩
  write_faultless := by
    intro msg bytes h out
    unfold frameOf at h
    rcases he : encodeMessage json msg with e | ⟨ty, payload⟩
    · rw [he] at h
      simp [Except.map, Except.toOption] at h
    · rw [he] at h
      obtain rfl : frameBytes ty payload = bytes := Option.some.inj h
      exact writeMessage_faultless he out
  read_fits := by
    intro msg bytes h hfits rest
    unfold frameOf at h
    rcases he : encodeMessage json msg with e | ⟨ty, payload⟩
    · rw [he] at h
      simp [Except.map, Except.toOption] at h
    · rw [he] at h
      obtain rfl : frameBytes ty payload = bytes := Option.some.inj h
      rw [receiveMessage, readMessage_frameBytes hjson he (hfits ty payload he)]

/-- What is written for a message is readable exactly if the message fits. -/
theorem writesReadable_iff (hjson : json.Decodes) : WritesReadable json msg ↔ FitsFrame json msg := by
  constructor
  · intro h ty payload he
    by_contra hlong
    obtain ⟨frame, hout, hfield, hread⟩ := h _ _ (writeMessage_faultless he [])
    obtain rfl : frameBytes ty payload = frame := by simpa [Sink.faultless] using hout
    rw [length_frameBytes] at hfield
    have hbig : maxFrame < 1 + payload.length := by omega
    have hsize : 1 + payload.length < 2 ^ 32 := by omega
    obtain ⟨text, herr⟩ := readMessage_too_large json ty hbig hsize []
    obtain ⟨m, r, hok⟩ := hread []
    rw [herr] at hok
    simp at hok
  · intro hfits w w' h
    obtain ⟨ty, payload, he, rfl⟩ := writeMessage_ok h
    have hlen := hfits ty payload he
    refine ⟨frameBytes ty payload, rfl, ?_, fun rest => ?_⟩
    · rw [length_frameBytes]
      unfold maxFrame at hlen
      omega
    · exact ⟨msg, rest, readMessage_frameBytes hjson he hlen rest⟩

/-- **Messages written and read back, exactly.** Every sequence of messages that is written reads
back as it was, and no write succeeds whose frame the reader rejects or whose length the field
cannot express, exactly when every message of the sequence fits a frame.
Source: `ipc.rs`, `write_message` -/
theorem messages_read_back_iff (hjson : json.Decodes) (msgs : List IpcMessage) :
    (ReadsBack (writeMessage json) (receiveMessage json) (Except.ok ·) msgs ∧
        ∀ msg ∈ msgs, WritesReadable json msg) ↔
      ∀ msg ∈ msgs, FitsFrame json msg := by
  constructor
  · rintro ⟨-, h⟩ msg hmsg
    exact (writesReadable_iff hjson).mp (h msg hmsg)
  · intro h
    exact ⟨(messageFormat hjson).readsBack_of_fits h,
      fun msg hmsg => (writesReadable_iff hjson).mpr (h msg hmsg)⟩

/-- Stream data fits up to 16 MiB less the type byte and the stream id. -/
theorem fitsFrame_streamData_iff (streamId : UInt32) (data : Bytes) :
    FitsFrame json (.streamData streamId data) ↔ 5 + data.length ≤ maxFrame := by
  constructor
  · intro h
    have hlen := h _ _ rfl
    rw [List.length_append, length_u32ToBe] at hlen
    omega
  · intro h ty payload he
    obtain ⟨-, rfl⟩ := Prod.mk.inj (Except.ok.inj he)
    rw [List.length_append, length_u32ToBe]
    omega

/-! ## A registration, and a frame that is too long -/

/-- What an agent registers with. -/
def registration : RegisterAgent := ⟨protocolVersion, ["devices"], "tok"⟩

/-- JSON for the registration. -/
def registrationJson : SerdeJson where
  registerAgent := .ofTable [(registration, asciiBytes ["\x7b\"version\":1,",
    "\"capabilities\":[\"devices\"],", "\"instance_token\":\"tok\"\x7d"])]
  deviceSnapshotMsg := .ofTable []
  openPrivateStream := .ofTable []
  openResult := .ofTable []
  streamClose := .ofTable []

theorem decodes_ofTable_nil {α : Type} [DecidableEq α] :
    (JsonCodec.ofTable ([] : List (α × Bytes))).Decodes :=
  JsonCodec.decodes_ofTable List.nodup_nil

theorem decodes_registrationJson : registrationJson.Decodes where
  registerAgent := JsonCodec.decodes_ofTable (List.nodup_singleton _)
  deviceSnapshotMsg := decodes_ofTable_nil
  openPrivateStream := decodes_ofTable_nil
  openResult := decodes_ofTable_nil
  streamClose := decodes_ofTable_nil

theorem fitsFrame_registration : FitsFrame registrationJson (.registerAgent registration) := by
  intro ty payload he
  have hlen : (encodeMessage registrationJson (.registerAgent registration)).map
      (fun p => decide (1 + p.2.length ≤ 1024)) = .ok true := by decide +kernel
  rw [he] at hlen
  have hsmall : 1 + payload.length ≤ 1024 := of_decide_eq_true (Except.ok.inj hlen)
  unfold maxFrame
  omega

/-- The registration and a data frame read back. -/
theorem registration_read_back :
    ReadsBack (writeMessage registrationJson) (receiveMessage registrationJson) (Except.ok ·)
      [.registerAgent registration, .streamData 7 [104, 101, 108, 108, 111]] := by
  refine ((messages_read_back_iff decodes_registrationJson _).mpr ?_).1
  intro msg hmsg
  rcases List.mem_cons.mp hmsg with rfl | hmsg
  · exact fitsFrame_registration
  · obtain rfl := List.mem_singleton.mp hmsg
    exact (fitsFrame_streamData_iff _ _).mpr (by decide)

/-- Stream data that does not fit is written without an error, and does not read back. -/
theorem streamData_not_read_back (streamId : UInt32) {data : Bytes}
    (hlong : maxFrame < 5 + data.length) (hfield : 5 + data.length < 2 ^ 32) :
    ∃ frame text,
      writeMessage json (.streamData streamId data) (.faultless []) = .ok (.faultless frame) ∧
      readMessage json frame = .error (.invalidData text) ∧
      ¬ ReadsBack (writeMessage json) (receiveMessage json) (Except.ok ·)
        [.streamData streamId data] := by
  have hlen : 1 + (u32ToBe streamId ++ data).length = 5 + data.length := by
    rw [List.length_append, length_u32ToBe]
    omega
  have hwrite : ∀ out, writeMessage json (.streamData streamId data) (.faultless out) =
      .ok (.faultless (out ++ frameBytes .streamData (u32ToBe streamId ++ data))) :=
    writeMessage_faultless rfl
  obtain ⟨text, hread⟩ :=
    readMessage_too_large json .streamData (hlen ▸ hlong) (hlen ▸ hfield) []
  rw [List.append_nil] at hread
  refine ⟨_, text, hwrite [], hread, fun hback => ?_⟩
  have hmany : writeMany (writeMessage json) [.streamData streamId data] (.faultless []) =
      .ok (.faultless ([] ++ frameBytes .streamData (u32ToBe streamId ++ data))) := by
    simp only [writeMany, hwrite, bind, Except.bind]
  obtain ⟨bytes, hbytes, hall⟩ := hback _ _ hmany
  have hframe : frameBytes .streamData (u32ToBe streamId ++ data) = bytes := by
    simpa only [Sink.faultless, List.nil_append] using hbytes
  have hone := congrArg Prod.fst (hall [])
  rw [← hframe, List.append_nil] at hone
  simp [readTimes, receiveMessage, hread] at hone

/-- 16 MiB of stream data are written without an error, and the reader rejects the frame. -/
theorem long_stream_data_rejected :
    ∃ frame text,
      writeMessage registrationJson (.streamData 7 (List.replicate maxFrame 0)) (.faultless []) =
        .ok (.faultless frame) ∧
      readMessage registrationJson frame = .error (.invalidData text) ∧
      ¬ ReadsBack (writeMessage registrationJson) (receiveMessage registrationJson) (Except.ok ·)
        [.streamData 7 (List.replicate maxFrame 0)] := by
  have hlen : 5 + (List.replicate maxFrame (0 : UInt8)).length = 5 + maxFrame := by
    rw [List.length_replicate]
  have hlong : maxFrame < 5 + maxFrame := Nat.lt_add_of_pos_left (by norm_num)
  have hfield : 5 + maxFrame < 2 ^ 32 := by norm_num [maxFrame]
  exact streamData_not_read_back 7 (by rwa [hlen]) (by rwa [hlen])

end AdbHub
