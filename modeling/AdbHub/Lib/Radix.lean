import Mathlib

/-!
# Numerals in a byte string

Reading a numeral as Rust's `usize::from_str_radix` does, and the digits `format!("{:x}")` writes.

* `toDigit` and `readDigits` — one digit, and a string of digits read from the left.
* **`readDigits_eq_some_iff`** — a string of bytes is read exactly when all of them are digits and
  the value fits a `usize`, and then the value is the one of positional notation.
* `fromStrRadix` — the same with an optional sign `+` in front, which a caller that expects digits
  only has to reckon with (`fromStrRadix_eq_some_iff`).
* `lowerHex` — the digits of a number to base 16; `readDigits_lowerHex` reads them back.
-/

namespace AdbHub.Lib

/-! ## Digits -/

/-- The value of an ASCII letter or digit below the radix. Follows `char::to_digit`. -/
def toDigit (radix : ℕ) (c : UInt8) : Option ℕ :=
  let v :=
    if 48 ≤ c.toNat ∧ c.toNat ≤ 57 then c.toNat - 48
    else if 97 ≤ c.toNat ∧ c.toNat ≤ 122 then c.toNat - 87
    else if 65 ≤ c.toNat ∧ c.toNat ≤ 90 then c.toNat - 55
    else radix
  if v < radix then some v else none

/-- `0`–`9`, `a`–`f` or `A`–`F`. -/
def IsHexDigit (c : UInt8) : Prop :=
  (48 ≤ c.toNat ∧ c.toNat ≤ 57) ∨ (97 ≤ c.toNat ∧ c.toNat ≤ 102) ∨
    (65 ≤ c.toNat ∧ c.toNat ≤ 70)

instance : DecidablePred IsHexDigit := fun c =>
  inferInstanceAs (Decidable ((48 ≤ c.toNat ∧ c.toNat ≤ 57) ∨ (97 ≤ c.toNat ∧ c.toNat ≤ 102) ∨
    (65 ≤ c.toNat ∧ c.toNat ≤ 70)))

theorem toDigit_lt {radix : ℕ} {c : UInt8} {d : ℕ} (h : toDigit radix c = some d) : d < radix := by
  unfold toDigit at h
  simp only at h
  split_ifs at h <;> obtain rfl := Option.some.inj h <;> assumption

theorem toDigit_isSome_iff {c : UInt8} : (toDigit 16 c).isSome ↔ IsHexDigit c := by
  unfold toDigit IsHexDigit
  simp only
  split_ifs <;> simp <;> omega

/-- Digits to base 16 are ASCII. -/
theorem IsHexDigit.toNat_lt {c : UInt8} (h : IsHexDigit c) : c.toNat < 128 := by
  unfold IsHexDigit at h
  omega

/-- The values of the bytes as digits. -/
def digitValues (radix : ℕ) : List UInt8 → Option (List ℕ)
  | [] => some []
  | c :: cs => do
      let d ← toDigit radix c
      let ds ← digitValues radix cs
      some (d :: ds)

theorem digitValues_append (radix : ℕ) (as bs : List UInt8) :
    digitValues radix (as ++ bs) =
      (do let ds ← digitValues radix as
          let es ← digitValues radix bs
          some (ds ++ es)) := by
  induction as with
  | nil => simp [digitValues]
  | cons a as ih =>
      rw [List.cons_append, digitValues, digitValues, ih]
      rcases toDigit radix a with _ | d
      · rfl
      · rcases digitValues radix as with _ | ds
        · rfl
        · rcases digitValues radix bs with _ | es <;> rfl

theorem length_digitValues {radix : ℕ} {cs : List UInt8} {ds : List ℕ}
    (h : digitValues radix cs = some ds) : ds.length = cs.length := by
  induction cs generalizing ds with
  | nil =>
      obtain rfl := Option.some.inj h
      rfl
  | cons c cs ih =>
      unfold digitValues at h
      obtain ⟨d, -, h⟩ := Option.bind_eq_some_iff.mp h
      obtain ⟨es, hes, h⟩ := Option.bind_eq_some_iff.mp h
      obtain rfl := Option.some.inj h
      rw [List.length_cons, List.length_cons, ih hes]

theorem lt_of_mem_digitValues {radix : ℕ} {cs : List UInt8} {ds : List ℕ}
    (h : digitValues radix cs = some ds) : ∀ d ∈ ds, d < radix := by
  induction cs generalizing ds with
  | nil =>
      obtain rfl := Option.some.inj h
      simp
  | cons c cs ih =>
      unfold digitValues at h
      obtain ⟨d, hd, h⟩ := Option.bind_eq_some_iff.mp h
      obtain ⟨es, hes, h⟩ := Option.bind_eq_some_iff.mp h
      obtain rfl := Option.some.inj h
      rw [List.forall_mem_cons]
      exact ⟨toDigit_lt hd, ih hes⟩

theorem digitValues_isSome_iff {cs : List UInt8} :
    (digitValues 16 cs).isSome ↔ ∀ c ∈ cs, IsHexDigit c := by
  induction cs with
  | nil => simp [digitValues]
  | cons c cs ih =>
      rw [List.forall_mem_cons, ← ih, ← toDigit_isSome_iff, digitValues]
      rcases toDigit 16 c with _ | d
      · simp
      · rcases digitValues 16 cs with _ | ds <;> simp

/-! ## Reading -/

/-- `usize::MAX + 1`. -/
def usizeSize : ℕ := 2 ^ 64

/-- The value of a string of digits read from the left after `acc`; an overflow fails. -/
def readDigits (radix : ℕ) : ℕ → List UInt8 → Option ℕ
  | acc, [] => some acc
  | acc, c :: cs =>
      match toDigit radix c with
      | none => none
      | some d => if acc * radix + d < usizeSize then readDigits radix (acc * radix + d) cs else none

/-- `usize::from_str_radix`: an optional `+`, then at least one digit. -/
def fromStrRadix (radix : ℕ) (src : List UInt8) : Option ℕ :=
  match src with
  | [] => none
  | [c] => if c = 43 || c = 45 then none else readDigits radix 0 [c]
  | c :: rest => if c = 43 then readDigits radix 0 rest else readDigits radix 0 (c :: rest)

/-- The value of digits to a base, most significant first. -/
def positional (radix : ℕ) (ds : List ℕ) : ℕ := Nat.ofDigits radix ds.reverse

@[simp] theorem positional_nil (radix : ℕ) : positional radix [] = 0 := rfl

theorem positional_append (radix : ℕ) (ds es : List ℕ) :
    positional radix (ds ++ es) = positional radix ds * radix ^ es.length + positional radix es := by
  unfold positional
  rw [List.reverse_append, Nat.ofDigits_append, List.length_reverse]
  ring

theorem positional_cons (radix d : ℕ) (ds : List ℕ) :
    positional radix (d :: ds) = d * radix ^ ds.length + positional radix ds := by
  rw [← List.singleton_append, positional_append]
  simp [positional]

/-- So many digits have no greater value. -/
theorem positional_lt {radix : ℕ} (hradix : 1 < radix) {ds : List ℕ} (h : ∀ d ∈ ds, d < radix) :
    positional radix ds < radix ^ ds.length := by
  have hlt := Nat.ofDigits_lt_base_pow_length hradix (fun d hd => h d (List.mem_reverse.mp hd))
  rwa [List.length_reverse] at hlt

/-- **What is read.** Bytes are read exactly when they are digits and the value of positional
notation is no overflow, however many leading zeros there are. -/
theorem readDigits_eq_some_iff {radix acc v : ℕ} {cs : List UInt8} (hacc : acc < usizeSize) :
    readDigits radix acc cs = some v ↔
      ∃ ds, digitValues radix cs = some ds ∧
        v = acc * radix ^ cs.length + positional radix ds ∧ v < usizeSize := by
  induction cs generalizing acc with
  | nil =>
      simp only [readDigits, digitValues, Option.some.injEq, List.length_nil, pow_zero, mul_one]
      constructor
      · rintro rfl
        exact ⟨[], rfl, rfl, hacc⟩
      · rintro ⟨ds, rfl, rfl, -⟩
        rfl
  | cons c cs ih =>
      unfold readDigits digitValues
      rcases hc : toDigit radix c with _ | d
      · simp
      · have hd := toDigit_lt hc
        have hpos : 0 < radix ^ cs.length := Nat.pow_pos (by omega)
        have hval : ∀ ds : List ℕ, ds.length = cs.length →
            acc * radix ^ (c :: cs).length + positional radix (d :: ds) =
              (acc * radix + d) * radix ^ cs.length + positional radix ds := by
          intro ds hds
          rw [positional_cons, hds, List.length_cons, pow_succ]
          ring
        simp only [Option.bind_eq_bind, Option.bind_some, Option.bind_eq_some_iff]
        by_cases hfit : acc * radix + d < usizeSize
        · simp only [if_pos hfit, ih hfit]
          constructor
          · rintro ⟨ds, hds, rfl, hlt⟩
            exact ⟨d :: ds, ⟨ds, hds, rfl⟩, (hval ds (length_digitValues hds)).symm, hlt⟩
          · rintro ⟨es, ⟨ds, hds, hes⟩, rfl, hlt⟩
            obtain rfl := Option.some.inj hes
            exact ⟨ds, hds, hval ds (length_digitValues hds), hlt⟩
        · -- what overflows does not become smaller again
          simp only [if_neg hfit, reduceCtorEq, false_iff]
          rintro ⟨es, ⟨ds, hds, hes⟩, rfl, hlt⟩
          obtain rfl := Option.some.inj hes
          rw [hval ds (length_digitValues hds)] at hlt
          have hle := Nat.le_mul_of_pos_right (acc * radix + d) hpos
          omega

/-- Neither sign is a digit. -/
theorem toDigit_sign (radix : ℕ) : toDigit radix 43 = none ∧ toDigit radix 45 = none := by
  simp [toDigit]

/-- **What is read with an optional sign.** -/
theorem fromStrRadix_eq_some_iff {radix v : ℕ} {src : List UInt8} :
    fromStrRadix radix src = some v ↔
      (src ≠ [] ∧ readDigits radix 0 src = some v) ∨
        ∃ cs, src = 43 :: cs ∧ cs ≠ [] ∧ readDigits radix 0 cs = some v := by
  obtain ⟨hplus, hminus⟩ := toDigit_sign radix
  rcases src with _ | ⟨c, _ | ⟨d, rest⟩⟩
  · simp [fromStrRadix]
  · by_cases hc : c = 43 ∨ c = 45
    · rcases hc with rfl | rfl <;> simp [fromStrRadix, readDigits, hplus, hminus]
    · simp [fromStrRadix, hc]
  · by_cases hc : c = 43
    · subst hc
      simp [fromStrRadix, readDigits, hplus]
    · simp [fromStrRadix, hc]

/-! ## Writing to base 16 -/

/-- The digits of a number to base 16. Follows `format!("{:x}")`. -/
def lowerHex (n : ℕ) : List UInt8 := (Nat.toDigits 16 n).map Char.toUInt8

/-- `format!("{:04x}")`: at least four digits. -/
def lowerHex4 (n : ℕ) : List UInt8 := List.replicate (4 - (lowerHex n).length) 48 ++ lowerHex n

theorem toDigit_digitChar {d : ℕ} (h : d < 16) : toDigit 16 (Nat.digitChar d).toUInt8 = some d := by
  revert d
  decide

/-- The digits that are written have the value they are written for. -/
theorem digitValues_lowerHex (n : ℕ) :
    ∃ ds, digitValues 16 (lowerHex n) = some ds ∧ positional 16 ds = n := by
  induction n using Nat.strong_induction_on with
  | _ n ih =>
      unfold lowerHex
      by_cases hn : n < 16
      · rw [Nat.toDigits_of_lt_base hn]
        refine ⟨[n], ?_, by simp [positional]⟩
        simp [digitValues, toDigit_digitChar hn]
      · obtain ⟨ds, hds, hval⟩ := ih (n / 16) (by omega)
        rw [Nat.toDigits_of_base_le (by norm_num) (by omega), List.map_append,
          digitValues_append]
        unfold lowerHex at hds
        refine ⟨ds ++ [n % 16], ?_, ?_⟩
        · simp [hds, digitValues, toDigit_digitChar (Nat.mod_lt n (show 16 > 0 by norm_num))]
        · rw [positional_append, hval, List.length_singleton, pow_one]
          simp only [positional, List.reverse_singleton, Nat.ofDigits_singleton]
          omega

theorem digitValues_replicate_zero (k : ℕ) :
    digitValues 16 (List.replicate k 48) = some (List.replicate k 0) := by
  induction k with
  | zero => rfl
  | succ k ih =>
      rw [List.replicate_succ, digitValues, ih]
      rfl

theorem positional_replicate_zero_append (k : ℕ) (ds : List ℕ) :
    positional 16 (List.replicate k 0 ++ ds) = positional 16 ds := by
  induction k with
  | zero => rfl
  | succ k ih => rw [List.replicate_succ, List.cons_append, positional_cons, ih, Nat.zero_mul, zero_add]

/-- Padding does not change the value. -/
theorem digitValues_lowerHex4 (n : ℕ) :
    ∃ ds, digitValues 16 (lowerHex4 n) = some ds ∧ positional 16 ds = n := by
  obtain ⟨ds, hds, hval⟩ := digitValues_lowerHex n
  refine ⟨List.replicate (4 - (lowerHex n).length) 0 ++ ds, ?_, ?_⟩
  · rw [lowerHex4, digitValues_append, digitValues_replicate_zero, hds]
    rfl
  · rw [positional_replicate_zero_append, hval]

theorem length_lowerHex_le_iff {n : ℕ} : (lowerHex n).length ≤ 4 ↔ n < 65536 := by
  rw [lowerHex, List.length_map, Nat.length_toDigits_le_iff (by norm_num) (by norm_num)]

/-- Four digits are written exactly up to 65535. -/
theorem length_lowerHex4_iff {n : ℕ} : (lowerHex4 n).length = 4 ↔ n < 65536 := by
  have hlen : (lowerHex4 n).length = 4 - (lowerHex n).length + (lowerHex n).length := by
    rw [lowerHex4, List.length_append, List.length_replicate]
  rw [← length_lowerHex_le_iff]
  omega

theorem four_le_length_lowerHex4 (n : ℕ) : 4 ≤ (lowerHex4 n).length := by
  have hlen : (lowerHex4 n).length = 4 - (lowerHex n).length + (lowerHex n).length := by
    rw [lowerHex4, List.length_append, List.length_replicate]
  omega

end AdbHub.Lib
