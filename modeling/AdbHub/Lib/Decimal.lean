import AdbHub.Lib.Radix
import AdbHub.Lib.Utf8

/-!
# Decimal numerals

Which texts `str::parse` reads as unsigned numbers, character by character.

* `IsNumeral` — at least one digit and nothing else, with the value of the digits; `isNumeral_repr`:
  what is written of a number.
* **`fromStrRadix_utf8_iff`** — without a sign, exactly the numerals whose value fits are read.
-/

namespace AdbHub.Lib

/-- A decimal numeral, with any number of leading zeros. -/
structure IsNumeral (text : String) (n : ℕ) : Prop where
  nonempty : text ≠ ""
  digits : ∀ c ∈ text.toList, c.isDigit = true
  value : Nat.ofDigitChars 10 text.toList 0 = n

variable {s : String} {n : ℕ}

/-- A numeral is digits only. -/
theorem IsNumeral.not_mem (h : IsNumeral s n) {c : Char} (hc : c.isDigit = false) :
    c ∉ s.toList := by
  intro hmem
  rw [h.digits c hmem] at hc
  cases hc

/-- What is written of a number is its numeral. -/
theorem isNumeral_repr (n : ℕ) : IsNumeral n.repr n := by
  have hlist : n.repr.toList = Nat.toDigits 10 n := by simp [Nat.repr]
  refine ⟨?_, ?_, ?_⟩
  · intro h
    rw [h] at hlist
    exact Nat.toDigits_ne_nil hlist.symm
  · intro c hc
    rw [hlist] at hc
    exact Nat.isDigit_of_mem_toDigits (by norm_num) (by norm_num) hc
  · rw [hlist]
    exact Nat.ofDigitChars_ten_toDigits

/-! ## Reading -/

/-- The digits to base 10 are `0`–`9`. -/
theorem toDigit_ten (b : UInt8) :
    toDigit 10 b = if 48 ≤ b.toNat ∧ b.toNat ≤ 57 then some (b.toNat - 48) else none := by
  unfold toDigit
  dsimp only
  split_ifs <;> first | rfl | omega

/-- The character at the front is a digit, or there is nothing to read. -/
theorem digitValues_utf8EncodeChar (c : Char) (bs : List UInt8) :
    digitValues 10 (String.utf8EncodeChar c ++ bs) =
      if c.isDigit = true then (digitValues 10 bs).map ((c.toNat - 48) :: ·) else none := by
  have hrange : c.isDigit = true ↔ 48 ≤ c.toNat ∧ c.toNat ≤ 57 := Char.isDigit_iff_toNat
  rcases utf8EncodeChar_cases c with ⟨b, hcode, hb⟩ | ⟨hc, hlarge⟩
  · rw [hcode, List.singleton_append, digitValues, toDigit_ten, hb]
    simp only [hrange]
    split_ifs
    · rcases digitValues 10 bs with _ | ds <;> rfl
    · rfl
  · obtain ⟨b, rest, hbs⟩ := List.exists_cons_of_ne_nil (@String.utf8EncodeChar_ne_nil c)
    have hb := hlarge b (by rw [hbs]; exact List.mem_cons_self)
    rw [hbs, List.cons_append, digitValues, toDigit_ten, if_neg (by omega), if_neg]
    · rfl
    · rw [hrange]
      omega

theorem digitValues_encode {cs : List Char} {ds : List ℕ} :
    digitValues 10 (cs.flatMap String.utf8EncodeChar) = some ds ↔
      (∀ c ∈ cs, c.isDigit = true) ∧ cs.map (fun c => c.toNat - 48) = ds := by
  induction cs generalizing ds with
  | nil => simp [digitValues]
  | cons c cs ih =>
      rw [List.flatMap_cons, digitValues_utf8EncodeChar, List.forall_mem_cons, List.map_cons]
      split_ifs with hc
      · simp only [hc, true_and, Option.map_eq_some_iff, ih]
        constructor
        · rintro ⟨es, ⟨hcs, rfl⟩, rfl⟩
          exact ⟨hcs, rfl⟩
        · rintro ⟨hcs, rfl⟩
          exact ⟨_, ⟨hcs, rfl⟩, rfl⟩
      · simp [hc]

/-- The value of the digits, read from the left. -/
theorem positional_map (cs : List Char) :
    positional 10 (cs.map fun c => c.toNat - 48) = Nat.ofDigitChars 10 cs 0 := by
  induction cs with
  | nil => rfl
  | cons c cs ih =>
      have hfirst : 10 * 0 + (c.toNat - '0'.toNat) = c.toNat - 48 := Nat.zero_add _
      rw [List.map_cons, positional_cons, ih, List.length_map, Nat.ofDigitChars_cons, hfirst,
        @Nat.ofDigitChars_eq_ofDigitChars_zero cs (c.toNat - 48), Nat.mul_comm]

theorem readDigits_utf8_iff :
    readDigits 10 0 (utf8 s) = some n ↔
      n < usizeSize ∧ (∀ c ∈ s.toList, c.isDigit = true) ∧ Nat.ofDigitChars 10 s.toList 0 = n := by
  rw [readDigits_eq_some_iff (by norm_num [usizeSize])]
  unfold utf8
  simp only [digitValues_encode, Nat.zero_mul, Nat.zero_add]
  constructor
  · rintro ⟨ds, ⟨hdigits, rfl⟩, rfl, hlt⟩
    exact ⟨hlt, hdigits, (positional_map _).symm⟩
  · rintro ⟨hlt, hdigits, rfl⟩
    exact ⟨_, ⟨hdigits, rfl⟩, (positional_map _).symm, hlt⟩

/-- **What is read of a text without a sign**: the numerals whose value fits. -/
theorem fromStrRadix_utf8_iff (h : '+' ∉ s.toList) :
    fromStrRadix 10 (utf8 s) = some n ↔ n < usizeSize ∧ IsNumeral s n := by
  have hplus : ∀ cs, utf8 s ≠ 43 :: cs := by
    intro cs hcs
    have hmem : 43 ∈ utf8 s := by
      rw [hcs]
      exact List.mem_cons_self
    obtain ⟨c, hc, hval⟩ := exists_char_of_mem_utf8 hmem (by decide)
    have hsign : c = '+' := by
      rw [← Char.ofNat_toNat c, hval]
      rfl
    exact h (hsign ▸ hc)
  rw [fromStrRadix_eq_some_iff, readDigits_utf8_iff, ne_eq, utf8_eq_nil_iff]
  constructor
  · rintro (⟨hne, hlt, hdigits, hvalue⟩ | ⟨cs, hcs, -⟩)
    · exact ⟨hlt, hne, hdigits, hvalue⟩
    · exact absurd hcs (hplus cs)
  · rintro ⟨hlt, hne, hdigits, hvalue⟩
    exact .inl ⟨hne, hlt, hdigits, hvalue⟩

end AdbHub.Lib
