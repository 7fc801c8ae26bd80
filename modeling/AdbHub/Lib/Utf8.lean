import Mathlib

/-!
# UTF-8 as in Rust's `str` and `String`

Conversions between strings and bytes, under the names of the Rust functions they follow.

* `utf8` — `str::as_bytes`, and `fromUtf8` — `str::from_utf8`, with `fromUtf8_eq_some_iff`: a byte
  string decodes exactly to the string it is the encoding of.
* `fromUtf8_isSome_of_ascii` — every ASCII byte string decodes; `utf8EncodeChar_cases` — only ASCII
  characters give ASCII bytes.
* `fromUtf8Lossy` — `String::from_utf8_lossy`, every maximal ill-formed part becomes one U+FFFD;
  **`fromUtf8Lossy_utf8`** — on encoded strings it is the decoder, and on any bytes the result is
  at most three times as long (`length_fromUtf8Lossy_le`).
-/

namespace AdbHub.Lib

/-- `str::as_bytes`. -/
def utf8 (s : String) : List UInt8 := s.toList.flatMap String.utf8EncodeChar

/-- `str::from_utf8`. -/
def fromUtf8 (bytes : List UInt8) : Option String := String.fromUTF8? ⟨bytes.toArray⟩

@[simp] theorem utf8_append (s t : String) : utf8 (s ++ t) = utf8 s ++ utf8 t := by
  simp [utf8]

theorem byteArray_utf8 (s : String) : (⟨(utf8 s).toArray⟩ : ByteArray) = s.toByteArray := by
  rw [← String.utf8Encode_toList, ByteArray.ext_iff]
  simp [utf8, List.utf8Encode]

theorem length_utf8 (s : String) : (utf8 s).length = s.utf8ByteSize := by
  rw [← String.size_toByteArray, ← byteArray_utf8]
  rfl

/-- A byte string decodes exactly to the string it encodes. -/
theorem fromUtf8_eq_some_iff {bytes : List UInt8} {s : String} :
    fromUtf8 bytes = some s ↔ utf8 s = bytes := by
  unfold fromUtf8 String.fromUTF8?
  constructor
  · intro h
    split_ifs at h with hv
    obtain rfl := Option.some.inj h
    have hb := byteArray_utf8 (String.fromUTF8 ⟨bytes.toArray⟩ hv)
    have hdata := congrArg (fun b : ByteArray => b.data.toList) hb
    simpa [String.fromUTF8] using hdata
  · rintro rfl
    have hv : (⟨(utf8 s).toArray⟩ : ByteArray).IsValidUTF8 := by
      rw [byteArray_utf8]
      exact s.isValidUTF8
    rw [dif_pos hv]
    apply congrArg some
    rw [← String.toByteArray_inj]
    exact byteArray_utf8 s

@[simp] theorem fromUtf8_utf8 (s : String) : fromUtf8 (utf8 s) = some s :=
  fromUtf8_eq_some_iff.mpr rfl

/-- An ASCII character is encoded as its own code. -/
theorem utf8EncodeChar_ofNat {n : ℕ} (h : n < 128) :
    String.utf8EncodeChar (Char.ofNat n) = [UInt8.ofNat n] := by
  revert n
  decide

/-- ASCII bytes are a string. -/
theorem fromUtf8_isSome_of_ascii {bytes : List UInt8} (h : ∀ b ∈ bytes, b.toNat < 128) :
    (fromUtf8 bytes).isSome := by
  rw [Option.isSome_iff_exists]
  refine ⟨String.ofList (bytes.map fun b => Char.ofNat b.toNat), fromUtf8_eq_some_iff.mpr ?_⟩
  unfold utf8
  rw [String.toList_ofList]
  induction bytes with
  | nil => rfl
  | cons b bytes ih =>
      have hb := utf8EncodeChar_ofNat (h b List.mem_cons_self)
      have hrest := ih fun c hc => h c (List.mem_cons_of_mem _ hc)
      rw [List.map_cons, List.flatMap_cons, hb, hrest]
      simp

theorem utf8_eq_nil_iff {s : String} : utf8 s = [] ↔ s = "" := by
  constructor
  · intro h
    have hs := fromUtf8_utf8 s
    rw [h] at hs
    exact (Option.some.inj hs).symm
  · rintro rfl
    rfl

/-- ASCII characters are encoded as one byte, others as bytes that are not ASCII. -/
theorem utf8EncodeChar_cases (c : Char) :
    (∃ b, String.utf8EncodeChar c = [b] ∧ b.toNat = c.toNat) ∨
      (128 ≤ c.toNat ∧ ∀ b ∈ String.utf8EncodeChar c, 128 ≤ b.toNat) := by
  have hval : c.val.toNat = c.toNat := rfl
  unfold String.utf8EncodeChar
  dsimp only
  split_ifs with h
  · refine .inl ⟨_, rfl, ?_⟩
    rw [UInt8.toNat_ofNat', Char.toNat_val]
    omega
  · refine .inr ⟨by omega, fun b hb => ?_⟩
    simp only [List.mem_cons, List.not_mem_nil, or_false] at hb
    rcases hb with rfl | rfl <;> simp [UInt8.toNat_add] <;> omega
  · refine .inr ⟨by omega, fun b hb => ?_⟩
    simp only [List.mem_cons, List.not_mem_nil, or_false] at hb
    rcases hb with rfl | rfl | rfl <;> simp [UInt8.toNat_add] <;> omega
  · refine .inr ⟨by omega, fun b hb => ?_⟩
    simp only [List.mem_cons, List.not_mem_nil, or_false] at hb
    rcases hb with rfl | rfl | rfl | rfl <;> simp [UInt8.toNat_add] <;> omega

/-- The ASCII bytes of a text are its ASCII characters. -/
theorem exists_char_of_mem_utf8 {s : String} {b : UInt8} (hb : b ∈ utf8 s) (h : b.toNat < 128) :
    ∃ c ∈ s.toList, c.toNat = b.toNat := by
  obtain ⟨c, hc, hmem⟩ := List.mem_flatMap.mp hb
  rcases utf8EncodeChar_cases c with ⟨b', hcode, hval⟩ | ⟨-, hlarge⟩
  · rw [hcode, List.mem_singleton] at hmem
    exact ⟨c, hc, by rw [hmem, hval]⟩
  · have := hlarge b hmem
    omega

/-! ## Decoding what may be ill-formed -/

/-- `byte` continues a multi-byte character. -/
def isContinuation (byte : UInt8) : Bool := 0x80 ≤ byte && byte ≤ 0xbf

/-- The bounds of the second byte after a given first byte; `none` if no character of more than
one byte starts so. -/
def secondByteRange (first : UInt8) : Option (UInt8 × UInt8) :=
  if 0xc2 ≤ first && first ≤ 0xdf then some (0x80, 0xbf)
  else if first = 0xe0 then some (0xa0, 0xbf)
  else if first = 0xed then some (0x80, 0x9f)
  else if 0xe1 ≤ first && first ≤ 0xef then some (0x80, 0xbf)
  else if first = 0xf0 then some (0x90, 0xbf)
  else if first = 0xf4 then some (0x80, 0x8f)
  else if 0xf1 ≤ first && first ≤ 0xf3 then some (0x80, 0xbf)
  else none

/-- How many bytes the first ill-formed part has: the longest beginning of a character that is
there, and at least one byte. -/
def illFormedLength : List UInt8 → ℕ
  | first :: second :: rest =>
      match secondByteRange first with
      | none => 1
      | some (lo, hi) =>
          if !(lo ≤ second && second ≤ hi) then 1
          else match rest with
            | third :: _ => if isContinuation third && 0xf0 ≤ first then 3 else 2
            | [] => 2
  | _ => 1

/-- Decode at most `fuel` characters and ill-formed parts. -/
def decodeLossy : ℕ → List UInt8 → List Char
  | 0, _ => []
  | _ + 1, [] => []
  | fuel + 1, bytes =>
      match ByteArray.utf8DecodeChar? ⟨bytes.toArray⟩ 0 with
      | some c => c :: decodeLossy fuel (bytes.drop c.utf8Size)
      | none => '\uFFFD' :: decodeLossy fuel (bytes.drop (illFormedLength bytes))

/-- `String::from_utf8_lossy`. -/
def fromUtf8Lossy (bytes : List UInt8) : String :=
  String.ofList (decodeLossy bytes.length bytes)

/-- Encoded characters are decoded one after the other. -/
theorem decodeLossy_encode (cs : List Char) {fuel : ℕ} (h : cs.length ≤ fuel) :
    decodeLossy fuel (cs.flatMap String.utf8EncodeChar) = cs := by
  induction cs generalizing fuel with
  | nil => cases fuel <;> rfl
  | cons c cs ih =>
      obtain ⟨fuel, rfl⟩ : ∃ n, fuel = n + 1 := ⟨fuel - 1, by simp at h; omega⟩
      rw [List.flatMap_cons]
      have hdecode : ByteArray.utf8DecodeChar?
          ⟨(String.utf8EncodeChar c ++ cs.flatMap String.utf8EncodeChar).toArray⟩ 0 = some c := by
        rw [← ByteArray.utf8DecodeChar?_utf8EncodeChar_append
          (b := (cs.flatMap String.utf8EncodeChar).toByteArray)]
        congr 1
        simp [ByteArray.ext_iff]
      have hsize : (String.utf8EncodeChar c).length = c.utf8Size := by simp
      rcases hb : String.utf8EncodeChar c ++ cs.flatMap String.utf8EncodeChar with _ | ⟨b, bs⟩
      · have hpos := c.utf8Size_pos
        rw [← hsize, (List.append_eq_nil_iff.mp hb).1] at hpos
        simp at hpos
      · rw [hb] at hdecode
        simp only [decodeLossy, hdecode]
        rw [← hb, List.drop_left' hsize, ih (by simpa using h)]

/-- **Nothing is lost of an encoded string.** -/
@[simp] theorem fromUtf8Lossy_utf8 (s : String) : fromUtf8Lossy (utf8 s) = s := by
  have hlen : s.toList.length ≤ (utf8 s).length := by
    unfold utf8
    induction s.toList with
    | nil => simp
    | cons c cs ih =>
        have hpos := c.utf8Size_pos
        rw [List.flatMap_cons, List.length_append, List.length_cons, String.length_utf8EncodeChar]
        omega
  unfold fromUtf8Lossy
  have hdecode : decodeLossy (utf8 s).length (utf8 s) = s.toList := decodeLossy_encode _ hlen
  rw [hdecode, String.ofList_toList]

/-- Every ill-formed part has at least one byte. -/
theorem one_le_illFormedLength (bytes : List UInt8) : 1 ≤ illFormedLength bytes := by
  unfold illFormedLength
  repeat' split
  all_goals norm_num

/-- A byte becomes at most the three bytes of U+FFFD. -/
theorem length_decodeLossy_le (fuel : ℕ) (bytes : List UInt8) :
    ((decodeLossy fuel bytes).flatMap String.utf8EncodeChar).length ≤ 3 * bytes.length := by
  induction fuel generalizing bytes with
  | zero => simp [decodeLossy]
  | succ fuel ih =>
      rcases bytes with _ | ⟨b, bs⟩
      · simp [decodeLossy]
      · unfold decodeLossy
        rcases hc : ByteArray.utf8DecodeChar? ⟨(b :: bs).toArray⟩ 0 with _ | c
        · have hdrop := ih ((b :: bs).drop (illFormedLength (b :: bs)))
          have hone := one_le_illFormedLength (b :: bs)
          have hsize : ('\uFFFD').utf8Size = 3 := by decide
          rw [List.length_drop] at hdrop
          simp only [List.flatMap_cons, List.length_append, String.length_utf8EncodeChar, hsize]
          simp only [List.length_cons] at hdrop ⊢
          omega
        · have hdrop := ih ((b :: bs).drop c.utf8Size)
          have hle := ByteArray.le_size_of_utf8DecodeChar?_eq_some hc
          have hpos := c.utf8Size_pos
          rw [List.length_drop] at hdrop
          simp only [List.flatMap_cons, List.length_append, String.length_utf8EncodeChar]
          simp only [List.length_cons, ByteArray.size, List.size_toArray] at hdrop hle ⊢
          omega

theorem length_fromUtf8Lossy_le (bytes : List UInt8) :
    (utf8 (fromUtf8Lossy bytes)).length ≤ 3 * bytes.length := by
  rw [utf8, fromUtf8Lossy, String.toList_ofList]
  exact length_decodeLossy_le bytes.length bytes

/-- The first and the last byte are no characters, and the part between them is one cut short. -/
example : fromUtf8Lossy [0xff, 0x61, 0xe2, 0x82, 0x62, 0x80] = "\uFFFDa\uFFFDb\uFFFD" := by
  decide +kernel

end AdbHub.Lib
