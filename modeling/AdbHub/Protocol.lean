import AdbHub.Lib.Codec
import AdbHub.Lib.Utf8
import AdbHub.Lib.Radix
import AdbHub.Lib.Text

/-!
# The smart-socket protocol

Packets with a length of four hex digits, and the `OKAY`/`FAIL` answers made of them
(`protocol.rs`).

* `readPacket`, `readOkayPayload` — the readers, as programs over what is left of the stream.
* `writePacket`, `writeOkayPayload`, `writeFail` — the writers; any write may fail.
* **`readPacket_exact_iff`** — the reader takes exactly the packets with a header of four hex
  digits, on every stream that does not begin with a signed header: `from_str_radix` takes a `+`
  for the first of the four.
* **`written_read_back_iff`** — what was written reads back, and what cannot be expressed is
  refused, exactly for texts of at most 65535 bytes: the header is padded to four digits but not
  limited to them.
-/

namespace AdbHub.Protocol

open Lib

/-- The bytes of a stream. -/
abbrev Stream := List UInt8

/-- Errors of the protocol functions. Source: `io::ErrorKind` and text. -/
inductive ProtocolError
  | unexpectedEof
  | invalidData (text : String)
  | other (text : String)
  deriving DecidableEq

/-! ## Reading -/

/-- A function that reads a stream. Behind an error the rest of the stream is still there. -/
abbrev Reader := ExceptT ProtocolError (StateM Stream)

/-- Run a reader: the result, and what is left of the stream. -/
def Reader.on {α : Type} (r : Reader α) (s : Stream) : Except ProtocolError α × Stream :=
  (StateT.run (ExceptT.run r) s).run

/-- Exactly `n` bytes; a stream that ends before is used up. Source: `AsyncReadExt::read_exact`. -/
def readExact (n : ℕ) : Reader Stream :=
  ExceptT.mk fun bytes =>
    if bytes.length < n then (.error .unexpectedEof, []) else (.ok (bytes.take n), bytes.drop n)

/-- Source: `protocol.rs`, `parse_hex4`. -/
def parseHex4 (buf : Stream) : Except String ℕ :=
  match fromUtf8 buf with
  | none => .error "hex4 is not utf8"
  | some s =>
      match fromStrRadix 16 (utf8 s) with
      | none => .error ("invalid hex4 length: " ++ s)
      | some len => .ok len

/-- Source: `protocol.rs`, `read_packet`. -/
def readPacket : Reader Stream := do
  let lenBuf ← readExact 4
  match parseHex4 lenBuf with
  | .error msg => throw (.invalidData msg)
  | .ok len => if len > 0 then readExact len else return []

/-- Source: `protocol.rs`, `read_status`. -/
def readStatus : Reader Stream := readExact 4

/-- The status of an answer with a body, and of a refusal. -/
def okayStatus : Stream := utf8 "OKAY"

@[inherit_doc okayStatus]
def failStatus : Stream := utf8 "FAIL"

/-- Source: `protocol.rs`, `read_okay_payload`. -/
def readOkayPayload : Reader Stream := do
  let status ← readStatus
  if status = okayStatus then readPacket
  else if status = failStatus then do
    let reason ← readPacket
    throw (.other (fromUtf8Lossy reason))
  else throw (.invalidData
    ("unexpected status: " ++ debugStr ((fromUtf8 status).getD "?")))

/-! ## Writing -/

/-- Source: `protocol.rs`, `write_packet`. -/
def writePacket (payload : Stream) (w : Sink UInt8) : Except String (Sink UInt8) := do
  let w ← w.writeAll (lowerHex4 payload.length)
  w.writeAll payload

/-- Source: `protocol.rs`, `write_service`. -/
def writeService (service : String) (w : Sink UInt8) : Except String (Sink UInt8) :=
  writePacket (utf8 service) w

/-- Source: `protocol.rs`, `write_okay`. -/
def writeOkay (w : Sink UInt8) : Except String (Sink UInt8) := w.writeAll okayStatus

/-- Source: `protocol.rs`, `write_fail`. -/
def writeFail (reason : String) (w : Sink UInt8) : Except String (Sink UInt8) := do
  let w ← w.writeAll failStatus
  writePacket (utf8 reason) w

/-- Source: `protocol.rs`, `write_okay_payload`. -/
def writeOkayPayload (payload : Stream) (w : Sink UInt8) : Except String (Sink UInt8) := do
  let w ← writeOkay w
  writePacket payload w

/-- The bytes a packet is written as. -/
def packetBytes (payload : Stream) : Stream := lowerHex4 payload.length ++ payload

section reading

variable {α β : Type} {s h p r : Stream} {v n : ℕ}

/-! ## What the reader takes -/

theorem Reader.on_bind (x : Reader α) (f : α → Reader β) (s : Stream) :
    (x >>= f).on s =
      match x.on s with
      | (.ok a, rest) => (f a).on rest
      | (.error e, rest) => (.error e, rest) := by
  unfold Reader.on
  rcases hx : (StateT.run (ExceptT.run x) s).run with ⟨e | a, rest⟩ <;>
    simp_all [ExceptT.run_bind, StateT.run_bind]

@[simp] theorem Reader.on_pure (a : α) (s : Stream) : (pure a : Reader α).on s = (.ok a, s) := rfl

@[simp] theorem Reader.on_throw (e : ProtocolError) (s : Stream) :
    (throw e : Reader α).on s = (.error e, s) := rfl

theorem on_readExact (n : ℕ) (s : Stream) :
    (readExact n).on s =
      if s.length < n then (.error .unexpectedEof, []) else (.ok (s.take n), s.drop n) := rfl

theorem on_readExact_append (h : p.length = n) (r : Stream) :
    (readExact n).on (p ++ r) = (.ok p, r) := by
  rw [on_readExact, if_neg (by simp [← h]), List.take_left' h, List.drop_left' h]

/-- What was read exactly, and what is left, make up the stream. -/
theorem on_readExact_eq_ok (h : (readExact n).on s = (.ok p, r)) : s = p ++ r ∧ p.length = n := by
  rw [on_readExact] at h
  split_ifs at h with hn
  · simp at h
  · obtain ⟨hp, rfl⟩ := Prod.mk.inj h
    obtain rfl := Except.ok.inj hp
    rw [List.take_append_drop, List.length_take]
    exact ⟨rfl, by omega⟩

/-- The rest of `read_packet` once the length is known. -/
theorem on_readPacket_append (hlen : h.length = 4) (s : Stream) :
    readPacket.on (h ++ s) =
      match parseHex4 h with
      | .error msg => (.error (.invalidData msg), s)
      | .ok len => (readExact len).on s := by
  unfold readPacket
  rw [Reader.on_bind, on_readExact_append hlen]
  rcases hv : parseHex4 h with msg | len
  · simp only [hv, Reader.on_throw]
  · simp only [hv]
    by_cases hpos : len > 0
    · rw [if_pos hpos]
    · obtain rfl : len = 0 := by omega
      rfl

/-- **What the reader takes**: a header of four bytes that `parse_hex4` accepts, and as many bytes
as it says. -/
theorem on_readPacket_eq_ok_iff :
    readPacket.on s = (.ok p, r) ↔
      ∃ h, s = h ++ p ++ r ∧ h.length = 4 ∧ parseHex4 h = .ok p.length := by
  constructor
  · intro hread
    rcases hhead : (readExact 4).on s with ⟨e | h, rest⟩
    · unfold readPacket at hread
      rw [Reader.on_bind, hhead] at hread
      simp at hread
    · obtain ⟨rfl, hlen⟩ := on_readExact_eq_ok hhead
      rw [on_readPacket_append hlen] at hread
      rcases hv : parseHex4 h with msg | len
      · rw [hv] at hread
        simp at hread
      · rw [hv] at hread
        obtain ⟨rfl, rfl⟩ := on_readExact_eq_ok hread
        exact ⟨h, by rw [List.append_assoc], hlen, hv⟩
  · rintro ⟨h, rfl, hlen, hv⟩
    rw [List.append_assoc, on_readPacket_append hlen, hv]
    exact on_readExact_append rfl r

/-! ## The header -/

/-- `cs` are hex digits of the value `v`. -/
def HexValue (cs : Stream) (v : ℕ) : Prop :=
  (∀ c ∈ cs, IsHexDigit c) ∧ (digitValues 16 cs).map (positional 16) = some v

/-- Four hex digits, upper or lower case. -/
def HexHeader (h : Stream) (v : ℕ) : Prop := h.length = 4 ∧ HexValue h v

/-- A plus sign and three hex digits. -/
def SignedHeader (h : Stream) (v : ℕ) : Prop :=
  ∃ cs, h = 43 :: cs ∧ cs.length = 3 ∧ HexValue cs v

theorem not_isHexDigit_plus : ¬ IsHexDigit 43 := by decide

theorem hexValue_iff {cs : Stream} :
    HexValue cs v ↔ ∃ ds, digitValues 16 cs = some ds ∧ v = positional 16 ds := by
  unfold HexValue
  rw [← digitValues_isSome_iff]
  rcases digitValues 16 cs with _ | ds <;> simp [eq_comm]

theorem hexValue_lt {cs : Stream} (h : HexValue cs v) : v < 16 ^ cs.length := by
  obtain ⟨ds, hds, rfl⟩ := hexValue_iff.mp h
  rw [← length_digitValues hds]
  exact positional_lt (by norm_num) (lt_of_mem_digitValues hds)

/-- Without a sign, `from_str_radix` reads digits only. -/
theorem readDigits_iff_hexValue {cs : Stream} (hlen : cs.length ≤ 4) :
    readDigits 16 0 cs = some v ↔ HexValue cs v := by
  have hfit : HexValue cs v → v < usizeSize := by
    intro h
    calc v < 16 ^ cs.length := hexValue_lt h
      _ ≤ 16 ^ 4 := Nat.pow_le_pow_right (by norm_num) hlen
      _ ≤ usizeSize := by norm_num [usizeSize]
  rw [readDigits_eq_some_iff (by norm_num [usizeSize]), hexValue_iff] at *
  simp only [Nat.zero_mul, Nat.zero_add]
  constructor
  · rintro ⟨ds, hds, hv, -⟩
    exact ⟨ds, hds, hv⟩
  · rintro ⟨ds, hds, hv⟩
    exact ⟨ds, hds, hv, hfit ⟨ds, hds, hv⟩⟩

/-- **The accepted headers**: four hex digits, or a plus sign and three. -/
theorem parseHex4_eq_ok_iff (hlen : h.length = 4) :
    parseHex4 h = .ok v ↔ HexHeader h v ∨ SignedHeader h v := by
  obtain ⟨a, b, c, d, rfl⟩ := List.length_eq_four.mp hlen
  have hradix : fromStrRadix 16 [a, b, c, d] = some v ↔
      HexHeader [a, b, c, d] v ∨ SignedHeader [a, b, c, d] v := by
    rw [fromStrRadix_eq_some_iff]
    refine or_congr ?_ (exists_congr fun cs => ?_)
    · rw [readDigits_iff_hexValue (by simp)]
      exact and_congr_left fun _ => iff_of_true (by simp) rfl
    · refine and_congr_right fun hcs => ?_
      obtain ⟨-, rfl⟩ := List.cons.inj hcs
      rw [readDigits_iff_hexValue (by simp)]
      exact and_congr_left fun _ => iff_of_true (by simp) rfl
  rw [← hradix]
  unfold parseHex4
  rcases hs : fromUtf8 [a, b, c, d] with _ | s
  · -- a header that is accepted is ASCII, and decodes
    refine iff_of_false (by simp) fun hv => ?_
    have hascii : ∀ x ∈ [a, b, c, d], x.toNat < 128 := by
      rcases hradix.mp hv with ⟨-, hdigits, -⟩ | ⟨cs, hcs, -, hdigits, -⟩
      · intro x hx
        exact (hdigits x hx).toNat_lt
      · intro x hx
        rw [hcs] at hx
        rcases List.mem_cons.mp hx with rfl | hx
        · decide
        · exact (hdigits x hx).toNat_lt
    have hsome := fromUtf8_isSome_of_ascii hascii
    rw [hs] at hsome
    simp at hsome
  · simp only [fromUtf8_eq_some_iff.mp hs]
    rcases fromStrRadix 16 [a, b, c, d] with _ | len <;> simp

/-- No header announces more than `0xffff` bytes. -/
theorem parseHex4_lt (hlen : h.length = 4) (hv : parseHex4 h = .ok v) : v < 16 ^ 4 := by
  rcases (parseHex4_eq_ok_iff hlen).mp hv with ⟨-, hvalue⟩ | ⟨cs, -, hcs, hvalue⟩
  · rw [← hlen]
    exact hexValue_lt hvalue
  · have hlt := hexValue_lt hvalue
    rw [hcs] at hlt
    exact hlt.trans (by norm_num)

/-! ## Exactly the packets -/

/-- The reader takes exactly the packets: a header of four hex digits, as many bytes as they say,
and any rest; it rejects every other stream. -/
structure ReadsExactly (s : Stream) : Prop where
  accepts : ∀ p r, readPacket.on s = (.ok p, r) ↔
    ∃ h, s = h ++ p ++ r ∧ HexHeader h p.length
  rejects : (¬ ∃ h p r, s = h ++ p ++ r ∧ HexHeader h p.length) →
    ∃ e r, readPacket.on s = (.error e, r)

/-- The stream begins with a plus sign and three hex digits, and as many bytes as they say are
there. -/
def SignedPacket (s : Stream) : Prop :=
  ∃ h v rest, s = h ++ rest ∧ SignedHeader h v ∧ v ≤ rest.length

/-- **Exactly the packets, exactly.** The reader takes the packets and nothing else iff the stream
does not begin with a signed header and the bytes it announces.
Source: `protocol.rs`, `read_packet` ("4 ASCII hex digits length + payload") -/
theorem readPacket_exact_iff (s : Stream) : ReadsExactly s ↔ ¬ SignedPacket s := by
  constructor
  · rintro ⟨haccepts, -⟩ ⟨h, v, rest, rfl, hsigned, hv⟩
    have hlen : h.length = 4 := by
      obtain ⟨cs, rfl, hcs, -⟩ := hsigned
      simp [hcs]
    have hread : readPacket.on (h ++ rest) = (.ok (rest.take v), rest.drop v) := by
      refine on_readPacket_eq_ok_iff.mpr ⟨h, ?_, hlen, (parseHex4_eq_ok_iff hlen).mpr (.inr ?_)⟩
      · rw [List.append_assoc, List.take_append_drop]
      · rwa [List.length_take, Nat.min_eq_left hv]
    obtain ⟨h', heq, hlen', hdigits, -⟩ := (haccepts _ _).mp hread
    obtain ⟨cs, rfl, -, -⟩ := hsigned
    have hhead : h' = 43 :: cs :=
      (List.append_inj (by rw [heq, List.append_assoc]) (by rw [hlen', hlen])).1.symm
    exact not_isHexDigit_plus (hdigits 43 (by simp [hhead]))
  · intro hns
    have haccepts : ∀ p r, readPacket.on s = (.ok p, r) ↔
        ∃ h, s = h ++ p ++ r ∧ HexHeader h p.length := by
      intro p r
      rw [on_readPacket_eq_ok_iff]
      apply exists_congr
      intro h
      constructor
      · rintro ⟨rfl, hlen, hv⟩
        refine ⟨rfl, ((parseHex4_eq_ok_iff hlen).mp hv).resolve_right fun hsigned => hns ?_⟩
        exact ⟨h, p.length, p ++ r, by rw [List.append_assoc], hsigned, by simp⟩
      · rintro ⟨rfl, hh⟩
        exact ⟨rfl, hh.1, (parseHex4_eq_ok_iff hh.1).mpr (.inl hh)⟩
    refine ⟨haccepts, fun hnone => ?_⟩
    rcases hread : readPacket.on s with ⟨e | p, r⟩
    · exact ⟨e, r, rfl⟩
    · obtain ⟨h, hs, hh⟩ := (haccepts p r).mp hread
      exact absurd ⟨h, p, r, hs, hh⟩ hnone

/-- The stream `+001a` is read as a packet with the one byte `a`. -/
theorem signed_header_read : readPacket.on (utf8 "+001a") = (.ok (utf8 "a"), []) ∧
    ¬ ReadsExactly (utf8 "+001a") := by
  have hread : readPacket.on (utf8 "+001a") = (.ok (utf8 "a"), []) := by decide +kernel
  refine ⟨hread, fun hexact => ?_⟩
  obtain ⟨h, heq, hlen, hdigits, -⟩ := (hexact.accepts _ _).mp hread
  obtain ⟨a, b, c, d, rfl⟩ := List.length_eq_four.mp hlen
  have ha : 43 = a := (List.cons.inj heq).1
  have h43 := hdigits a List.mem_cons_self
  rw [← ha] at h43
  exact not_isHexDigit_plus h43

/-! ## What is written -/

/-- The longest text of which the length has four hex digits. -/
def maxPayload : ℕ := 0xffff

/-- A packet of at most `maxPayload` bytes reads back, whatever follows. -/
theorem on_readPacket_packetBytes (hp : p.length ≤ maxPayload) (r : Stream) :
    readPacket.on (packetBytes p ++ r) = (.ok p, r) := by
  have hlen : (lowerHex4 p.length).length = 4 :=
    length_lowerHex4_iff.mpr (by unfold maxPayload at hp; omega)
  obtain ⟨ds, hds, hval⟩ := digitValues_lowerHex4 p.length
  refine on_readPacket_eq_ok_iff.mpr ⟨lowerHex4 p.length, rfl, hlen, ?_⟩
  exact (parseHex4_eq_ok_iff hlen).mpr (.inl ⟨hlen, hexValue_iff.mpr ⟨ds, hds, hval.symm⟩⟩)

/-- **A longer packet is cut.** Its header has more than four digits; the reader takes the first
four of them for the length, a sixteenth of the true one or less, and the others for data. -/
theorem on_readPacket_long (hp : maxPayload < p.length) (r : Stream) :
    ∃ q rest, readPacket.on (packetBytes p ++ r) = (.ok q, rest) ∧ 16 * q.length ≤ p.length := by
  have hfour := four_le_length_lowerHex4 p.length
  have hne : (lowerHex4 p.length).length ≠ 4 := by
    rw [Ne, length_lowerHex4_iff]
    unfold maxPayload at hp
    omega
  obtain ⟨ds, hds, hval⟩ := digitValues_lowerHex4 p.length
  set h := (lowerHex4 p.length).take 4 with hh
  set t := (lowerHex4 p.length).drop 4 with ht
  have hsplit : h ++ t = lowerHex4 p.length := List.take_append_drop 4 _
  have hlen : h.length = 4 := by
    rw [hh, List.length_take]
    omega
  have htlen : 1 ≤ t.length := by
    rw [ht, List.length_drop]
    omega
  rw [← hsplit, digitValues_append] at hds
  obtain ⟨as, has, hds⟩ := Option.bind_eq_some_iff.mp hds
  obtain ⟨bs, hbs, hds⟩ := Option.bind_eq_some_iff.mp hds
  obtain rfl := Option.some.inj hds
  -- the digits after the fourth are worth at least a factor of 16
  have hsixteen : 16 * positional 16 as ≤ p.length := by
    have hpow : 16 ^ 1 ≤ 16 ^ bs.length :=
      Nat.pow_le_pow_right (by norm_num) (by rw [length_digitValues hbs]; exact htlen)
    calc 16 * positional 16 as = positional 16 as * 16 ^ 1 := by ring
      _ ≤ positional 16 as * 16 ^ bs.length := Nat.mul_le_mul_left _ hpow
      _ ≤ p.length := by rw [← hval, positional_append]; exact Nat.le_add_right _ _
  have hheader : parseHex4 h = .ok (positional 16 as) :=
    (parseHex4_eq_ok_iff hlen).mpr (.inl ⟨hlen, hexValue_iff.mpr ⟨as, has, rfl⟩⟩)
  have henough : ¬ (t ++ (p ++ r)).length < positional 16 as := by
    rw [List.length_append, List.length_append]
    omega
  refine ⟨(t ++ (p ++ r)).take (positional 16 as), (t ++ (p ++ r)).drop (positional 16 as), ?_, ?_⟩
  · rw [packetBytes, ← hsplit, List.append_assoc, List.append_assoc, on_readPacket_append hlen,
      hheader]
    simp only [on_readExact, if_neg henough]
  · rw [List.length_take]
    omega

theorem on_readOkayPayload_okay (s : Stream) :
    readOkayPayload.on (okayStatus ++ s) = readPacket.on s := by
  unfold readOkayPayload readStatus
  rw [Reader.on_bind, on_readExact_append (by decide)]
  simp

theorem on_readOkayPayload_fail (s : Stream) :
    readOkayPayload.on (failStatus ++ s) =
      match readPacket.on s with
      | (.ok reason, rest) => (.error (.other (fromUtf8Lossy reason)), rest)
      | (.error e, rest) => (.error e, rest) := by
  unfold readOkayPayload readStatus
  have hne : failStatus ≠ okayStatus := by decide
  rw [Reader.on_bind, on_readExact_append (by decide)]
  simp only [if_neg hne, if_pos, Reader.on_bind, Reader.on_throw]
  rcases readPacket.on s with ⟨e | reason, rest⟩ <;> rfl

end reading

/-! ## The three formats of the protocol -/

theorem writePacket_ok {payload : Stream} {w w' : Sink UInt8}
    (h : writePacket payload w = .ok w') :
    w' = { w with out := w.out ++ packetBytes payload } := by
  unfold writePacket at h
  exact Sink.bind_ok (fun _ => Sink.writeAll_ok) (fun _ => Sink.writeAll_ok) h

@[simp] theorem writePacket_faultless (payload out : Stream) :
    writePacket payload (.faultless out) = .ok (.faultless (out ++ packetBytes payload)) := by
  simp [writePacket, packetBytes, bind, Except.bind]

/-- Packets, as `write_packet` and `read_packet` have them. -/
def packetFormat : Format writePacket readPacket.on (Except.ok ·) (·.length ≤ maxPayload) where
  encode payload := some (packetBytes payload)
  write_ok h := ⟨_, rfl, writePacket_ok h⟩
  write_faultless h out := by
    obtain rfl := Option.some.inj h
    exact writePacket_faultless _ out
  read_fits h hp rest := by
    obtain rfl := Option.some.inj h
    exact on_readPacket_packetBytes hp rest

/-- Answers with a body, as `write_okay_payload` and `read_okay_payload` have them. -/
def okayPayloadFormat :
    Format writeOkayPayload readOkayPayload.on (Except.ok ·) (·.length ≤ maxPayload) where
  encode payload := some (okayStatus ++ packetBytes payload)
  write_ok h := by
    unfold writeOkayPayload writeOkay at h
    exact ⟨_, rfl, Sink.bind_ok (fun _ => Sink.writeAll_ok) (fun _ => writePacket_ok) h⟩
  write_faultless h out := by
    obtain rfl := Option.some.inj h
    simp [writeOkayPayload, writeOkay, bind, Except.bind]
  read_fits h hp rest := by
    obtain rfl := Option.some.inj h
    rw [List.append_assoc, on_readOkayPayload_okay, on_readPacket_packetBytes hp]

/-- Refusals, as `write_fail` and `read_okay_payload` have them. -/
def failFormat : Format writeFail readOkayPayload.on (fun reason => .error (.other reason))
    (fun reason => (utf8 reason).length ≤ maxPayload) where
  encode reason := some (failStatus ++ packetBytes (utf8 reason))
  write_ok h := by
    unfold writeFail at h
    exact ⟨_, rfl, Sink.bind_ok (fun _ => Sink.writeAll_ok) (fun _ => writePacket_ok) h⟩
  write_faultless h out := by
    obtain rfl := Option.some.inj h
    simp [writeFail, bind, Except.bind]
  read_fits h hp rest := by
    obtain rfl := Option.some.inj h
    rw [List.append_assoc, on_readOkayPayload_fail, on_readPacket_packetBytes hp]
    simp

theorem packet_unfit {payload bytes : Stream} (h : packetFormat.encode payload = some bytes)
    (hp : ¬ payload.length ≤ maxPayload) (rest : Stream) :
    (readPacket.on (bytes ++ rest)).1 ≠ .ok payload := by
  obtain rfl := Option.some.inj h
  obtain ⟨q, r, hread, hlen⟩ := on_readPacket_long (by omega : maxPayload < payload.length) rest
  rw [hread]
  intro heq
  obtain rfl := Except.ok.inj heq
  unfold maxPayload at hp
  omega

theorem okayPayload_unfit {payload bytes : Stream}
    (h : okayPayloadFormat.encode payload = some bytes) (hp : ¬ payload.length ≤ maxPayload)
    (rest : Stream) : (readOkayPayload.on (bytes ++ rest)).1 ≠ .ok payload := by
  obtain rfl := Option.some.inj h
  rw [List.append_assoc, on_readOkayPayload_okay]
  exact packet_unfit rfl hp rest

theorem fail_unfit {reason : String} {bytes : Stream} (h : failFormat.encode reason = some bytes)
    (hp : ¬ (utf8 reason).length ≤ maxPayload) (rest : Stream) :
    (readOkayPayload.on (bytes ++ rest)).1 ≠ .error (.other reason) := by
  obtain rfl := Option.some.inj h
  obtain ⟨q, r, hread, hlen⟩ :=
    on_readPacket_long (by omega : maxPayload < (utf8 reason).length) rest
  rw [List.append_assoc, on_readOkayPayload_fail, hread]
  intro heq
  -- the replacement of ill-formed bytes makes the cut text at most three times as long
  have hq := length_fromUtf8Lossy_le q
  rw [ProtocolError.other.inj (Except.error.inj heq)] at hq
  unfold maxPayload at hp
  omega

/-- A format in which everything is encoded reads back and refuses exactly if everything fits. -/
theorem readsBack_and_refuses_iff {β : Type}
    {write : β → Sink UInt8 → Except String (Sink UInt8)}
    {read : Stream → Except ProtocolError Stream × Stream} {result : β → Except ProtocolError Stream}
    {fits : β → Prop} (F : Format write read result fits) {text : β → Stream}
    (htext : ∀ x, F.encode x = some (text x))
    (hunfit : ∀ x bytes, F.encode x = some bytes → ¬ fits x →
      ∀ rest, (read (bytes ++ rest)).1 ≠ result x) (xs : List β) :
    (ReadsBack write read result xs ∧ Refuses write fits xs) ↔ ∀ x ∈ xs, fits x := by
  have hall : xs.map F.encode = (xs.map text).map some := by
    rw [List.map_map]
    exact List.map_congr_left fun x _ => htext x
  rw [F.readsBack_iff hunfit hall, F.refuses_iff]
  simp only [htext, Option.isSome_some, forall_const, and_self]

/-- **Written and read back, exactly.** Sequences of packets, of answers with a body and of
refusals read back as they were written, and what the header cannot express is refused, exactly
when every payload and every reason has at most 65535 bytes.
Source: `protocol.rs`, `write_packet` -/
theorem written_read_back_iff (payloads : List Stream) (reasons : List String) :
    ((ReadsBack writePacket readPacket.on (Except.ok ·) payloads ∧
        Refuses writePacket (·.length ≤ maxPayload) payloads) ↔
      ∀ p ∈ payloads, p.length ≤ maxPayload) ∧
    ((ReadsBack writeOkayPayload readOkayPayload.on (Except.ok ·) payloads ∧
        Refuses writeOkayPayload (·.length ≤ maxPayload) payloads) ↔
      ∀ p ∈ payloads, p.length ≤ maxPayload) ∧
    ((ReadsBack writeFail readOkayPayload.on (fun reason => .error (.other reason)) reasons ∧
        Refuses writeFail (fun reason => (utf8 reason).length ≤ maxPayload) reasons) ↔
      ∀ reason ∈ reasons, (utf8 reason).length ≤ maxPayload) := by
  refine ⟨?_, ?_, ?_⟩
  · apply readsBack_and_refuses_iff packetFormat (fun _ => rfl)
    intro p bytes h hp rest
    exact packet_unfit h hp rest
  · apply readsBack_and_refuses_iff okayPayloadFormat (fun _ => rfl)
    intro p bytes h hp rest
    exact okayPayload_unfit h hp rest
  · apply readsBack_and_refuses_iff failFormat (fun _ => rfl)
    intro reason bytes h hp rest
    exact fail_unfit h hp rest

/-- A body that needs a header of five digits is neither refused nor read back. -/
theorem long_packet {body : Stream} (hlong : ¬ body.length ≤ maxPayload) :
    ¬ Refuses writePacket (·.length ≤ maxPayload) [body] ∧
      ¬ ReadsBack writePacket readPacket.on (Except.ok ·) [body] := by
  have hmem : body ∈ [body] := List.mem_singleton.mpr rfl
  constructor
  · intro h
    exact hlong (packetFormat.refuses_iff.mp h body hmem rfl)
  · intro h
    have htexts : [body].map packetFormat.encode = [packetBytes body].map some := rfl
    have hall := (packetFormat.readsBack_iff (fun _ _ => packet_unfit) htexts).mp h
    exact hlong (hall body hmem)

/-- A body of 65536 bytes is written with a header of five digits, and neither refused nor read
back. -/
theorem long_packet_not_read_back :
    ¬ Refuses writePacket (·.length ≤ maxPayload) [List.replicate 65536 97] ∧
      ¬ ReadsBack writePacket readPacket.on (Except.ok ·) [List.replicate 65536 97] := by
  apply long_packet
  rw [List.length_replicate]
  decide

end AdbHub.Protocol
