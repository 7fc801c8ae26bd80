import Mathlib

/-!
# Numbers in memory

Fixed-width numbers as bytes in either order, and regions of a buffer.

* `ByteOrder.bytes` and `ByteOrder.value` — a number as bytes and back: `value_bytes`, and
  `bytes_value` for as many bytes.
* `region` — the bytes at an offset, if the buffer has them; `region_append` finds what was put
  there.
-/

namespace AdbHub.Lib

/-! ## Numbers -/

/-- The order of the bytes of a number. -/
inductive ByteOrder
  | little
  | big
  deriving DecidableEq

/-- The lowest bytes of a number, the lowest one first. -/
def lowBytes : ℕ → ℕ → List UInt8
  | 0, _ => []
  | width + 1, n => UInt8.ofNat n :: lowBytes width (n / 256)

namespace ByteOrder

/-- A list of bytes, the lowest one first. -/
def arrange : ByteOrder → List UInt8 → List UInt8
  | .little, bytes => bytes
  | .big, bytes => bytes.reverse

/-- A number of this width in memory. -/
def bytes (o : ByteOrder) (width n : ℕ) : List UInt8 := o.arrange (lowBytes width n)

/-- The number that the bytes are. -/
def value (o : ByteOrder) (bytes : List UInt8) : ℕ :=
  Nat.ofDigits 256 ((o.arrange bytes).map UInt8.toNat)

end ByteOrder

variable {o : ByteOrder} {width n : ℕ} {as bs : List UInt8}

@[simp] theorem length_lowBytes (width n : ℕ) : (lowBytes width n).length = width := by
  induction width generalizing n with
  | zero => rfl
  | succ width ih => rw [lowBytes, List.length_cons, ih]

theorem ofDigits_lowBytes (width n : ℕ) :
    Nat.ofDigits 256 ((lowBytes width n).map UInt8.toNat) = n % 256 ^ width := by
  induction width generalizing n with
  | zero => simp [lowBytes, Nat.mod_one]
  | succ width ih =>
      have hpow : 256 ^ (width + 1) = 256 * 256 ^ width := pow_succ' 256 width
      have hlow : (UInt8.ofNat n).toNat = n % 256 := UInt8.toNat_ofNat'
      rw [lowBytes, List.map_cons, Nat.ofDigits_cons, ih, hlow, hpow, Nat.mod_mul]

namespace ByteOrder

@[simp] theorem arrange_arrange (o : ByteOrder) (as : List UInt8) :
    o.arrange (o.arrange as) = as := by
  cases o
  · rfl
  · exact List.reverse_reverse as

@[simp] theorem length_arrange (o : ByteOrder) (as : List UInt8) :
    (o.arrange as).length = as.length := by
  cases o
  · rfl
  · exact List.length_reverse

@[simp] theorem length_bytes (o : ByteOrder) (width n : ℕ) : (o.bytes width n).length = width := by
  rw [bytes, length_arrange, length_lowBytes]

/-- **What was put into memory** is the number, as far as its width goes. -/
theorem value_bytes (o : ByteOrder) (width n : ℕ) :
    o.value (o.bytes width n) = n % 256 ^ width := by
  rw [value, bytes, arrange_arrange, ofDigits_lowBytes]

theorem value_lt (o : ByteOrder) (as : List UInt8) : o.value as < 256 ^ as.length := by
  have hlen : ((o.arrange as).map UInt8.toNat).length = as.length := by simp
  rw [← hlen]
  refine Nat.ofDigits_lt_base_pow_length (by decide) fun d hd => ?_
  obtain ⟨b, -, rfl⟩ := List.mem_map.mp hd
  exact b.toNat_lt

/-- As many bytes with the same value are the same bytes. -/
theorem value_inj (hlen : as.length = bs.length) : o.value as = o.value bs ↔ as = bs := by
  constructor
  · intro h
    have hdigits : (o.arrange as).map UInt8.toNat = (o.arrange bs).map UInt8.toNat := by
      refine Nat.ofDigits_inj_of_len_eq (by decide : 1 < 256) (by simpa using hlen) ?_ ?_ h
      · intro d hd
        obtain ⟨b, -, rfl⟩ := List.mem_map.mp hd
        exact b.toNat_lt
      · intro d hd
        obtain ⟨b, -, rfl⟩ := List.mem_map.mp hd
        exact b.toNat_lt
    have harrange : o.arrange as = o.arrange bs :=
      List.map_injective_iff.mpr (fun _ _ => UInt8.toNat_inj.mp) hdigits
    rw [← arrange_arrange o as, harrange, arrange_arrange]
  · rintro rfl
    rfl

/-- **The number that bytes are**, in as much memory, is the bytes. -/
theorem bytes_value (o : ByteOrder) (as : List UInt8) : o.bytes as.length (o.value as) = as := by
  have hlen : (o.bytes as.length (o.value as)).length = as.length := length_bytes o _ _
  refine (value_inj (o := o) hlen).mp ?_
  rw [value_bytes]
  exact Nat.mod_eq_of_lt (o.value_lt as)

end ByteOrder

/-! ## Regions -/

/-- The bytes of a region of a buffer, if it lies within. -/
def region (buf : List UInt8) (offset size : ℕ) : Option (List UInt8) :=
  if offset + size ≤ buf.length then some ((buf.drop offset).take size) else none

theorem region_of_le {buf : List UInt8} {offset size : ℕ} (h : offset + size ≤ buf.length) :
    region buf offset size = some ((buf.drop offset).take size) := if_pos h

/-- **A region that was written** is read back. -/
theorem region_append (pre as post : List UInt8) :
    region (pre ++ (as ++ post)) pre.length as.length = some as := by
  rw [region_of_le (by simp), List.drop_left, List.take_left]

end AdbHub.Lib
