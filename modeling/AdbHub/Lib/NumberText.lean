import AdbHub.Lib.Radix

/-!
# Numbers at the front of a text

Reading a number off the front of a text, as the parser of network addresses in the standard
library does it, and the numerals that are written.

* `spanDigits` — the digits at the front, and what follows; `readNumber` — a number of a bounded
  size, with a bounded number of digits and with or without leading zeros.
* **`readNumber_toDigits`** — a number that was written reads back, and what follows it is left.
-/

namespace AdbHub.Lib

/-- `char::to_digit`. -/
def charDigit (radix : ℕ) (c : Char) : Option ℕ :=
  let v :=
    if 48 ≤ c.toNat ∧ c.toNat ≤ 57 then c.toNat - 48
    else if 97 ≤ c.toNat ∧ c.toNat ≤ 122 then c.toNat - 87
    else if 65 ≤ c.toNat ∧ c.toNat ≤ 90 then c.toNat - 55
    else radix
  if v < radix then some v else none

/-- The values of the digits at the front, and what follows. -/
def spanDigits (radix : ℕ) : List Char → List ℕ × List Char
  | [] => ([], [])
  | c :: cs =>
      match charDigit radix c with
      | some d => (d :: (spanDigits radix cs).1, (spanDigits radix cs).2)
      | none => ([], c :: cs)

/-- A number below `size` at the front of a text. Follows `read_number` of `core::net`. -/
def readNumber (radix : ℕ) (maxDigits : Option ℕ) (allowZeroPrefix : Bool) (size : ℕ)
    (s : List Char) : Option (ℕ × List Char) :=
  let digits := (spanDigits radix s).1
  if digits = [] then none
  else if maxDigits.any (· < digits.length) then none
  else if !allowZeroPrefix && digits.head? = some 0 && 1 < digits.length then none
  else if positional radix digits < size then some (positional radix digits, (spanDigits radix s).2)
  else none

variable {radix n d : ℕ} {cs rest : List Char}

theorem charDigit_digitChar (hradix : radix ≤ 16) (hd : d < radix) :
    charDigit radix d.digitChar = some d := by
  have hvalue : ∀ d < 16, charDigit 16 d.digitChar = some d := by decide
  have h := hvalue d (by omega)
  unfold charDigit at h ⊢
  dsimp only at h ⊢
  split_ifs at h ⊢ <;> simp_all <;> omega

/-- Digits up to a character that is none are read in one go. -/
theorem spanDigits_append (hcs : ∀ c ∈ cs, (charDigit radix c).isSome)
    (hrest : ∀ c ∈ rest.head?, charDigit radix c = none) :
    spanDigits radix (cs ++ rest) = (cs.filterMap (charDigit radix), rest) := by
  induction cs with
  | nil =>
      rcases rest with _ | ⟨c, rest⟩
      · rfl
      · rw [List.nil_append, spanDigits, hrest c rfl]
        rfl
  | cons c cs ih =>
      obtain ⟨d, hd⟩ := Option.isSome_iff_exists.mp (hcs c (List.mem_cons_self ..))
      rw [List.cons_append, spanDigits, hd, ih fun c' hc' => hcs c' (List.mem_cons_of_mem _ hc'),
        List.filterMap_cons_some hd]

/-- What is written of a number are digits, and has its value. -/
theorem digits_toDigits (hradix : 1 < radix) (hle : radix ≤ 16) (n : ℕ) :
    (∀ c ∈ Nat.toDigits radix n, (charDigit radix c).isSome) ∧
      positional radix ((Nat.toDigits radix n).filterMap (charDigit radix)) = n := by
  induction n using Nat.strong_induction_on with
  | _ n ih =>
      by_cases hn : n < radix
      · have hdigit := charDigit_digitChar hle hn
        rw [Nat.toDigits_of_lt_base hn]
        refine ⟨fun c hc => ?_, ?_⟩
        · obtain rfl := List.mem_singleton.mp hc
          rw [hdigit]
          rfl
        · rw [List.filterMap_cons_some hdigit]
          simp [positional]
      · have hmod : n % radix < radix := Nat.mod_lt n (by omega)
        have hdigit := charDigit_digitChar hle hmod
        obtain ⟨hdigits, hvalue⟩ := ih (n / radix) (Nat.div_lt_self (by omega) hradix)
        rw [Nat.toDigits_of_base_le hradix (by omega)]
        refine ⟨fun c hc => ?_, ?_⟩
        · rcases List.mem_append.mp hc with hc | hc
          · exact hdigits c hc
          · obtain rfl := List.mem_singleton.mp hc
            rw [hdigit]
            rfl
        · rw [List.filterMap_append, List.filterMap_cons_some hdigit, positional_append, hvalue]
          simp only [List.filterMap_nil, List.length_singleton, pow_one, positional,
            List.reverse_singleton, Nat.ofDigits_singleton]
          exact Nat.div_add_mod' n radix

/-- Only zero is written with a leading zero. -/
theorem eq_zero_of_head_toDigits (hradix : 1 < radix) (hle : radix ≤ 16)
    (h : ((Nat.toDigits radix n).filterMap (charDigit radix)).head? = some 0) : n = 0 := by
  induction n using Nat.strong_induction_on with
  | _ n ih =>
      by_cases hn : n < radix
      · rw [Nat.toDigits_of_lt_base hn, List.filterMap_cons_some (charDigit_digitChar hle hn)] at h
        exact Option.some.inj h
      · exfalso
        have hdiv : 0 < n / radix := Nat.div_pos (by omega) (by omega)
        have hne : (Nat.toDigits radix (n / radix)).filterMap (charDigit radix) ≠ [] := by
          obtain ⟨c, hc⟩ := List.exists_mem_of_ne_nil _
            (@Nat.toDigits_ne_nil (n / radix) radix)
          obtain ⟨d, hd⟩ := Option.isSome_iff_exists.mp ((digits_toDigits hradix hle _).1 c hc)
          exact List.ne_nil_of_mem (List.mem_filterMap.mpr ⟨c, hc, hd⟩)
        rw [Nat.toDigits_of_base_le hradix (by omega), List.filterMap_append,
          List.head?_append_of_ne_nil _ hne] at h
        have := ih (n / radix) (Nat.div_lt_self (by omega) hradix) h
        omega

/-- **A written number reads back.** -/
theorem readNumber_toDigits (hradix : 1 < radix) (hle : radix ≤ 16) {maxDigits : Option ℕ}
    {allowZeroPrefix : Bool} {size : ℕ} (hsize : n < size)
    (hmax : ∀ m ∈ maxDigits, (Nat.toDigits radix n).length ≤ m)
    (hrest : ∀ c ∈ rest.head?, charDigit radix c = none) :
    readNumber radix maxDigits allowZeroPrefix size (Nat.toDigits radix n ++ rest) =
      some (n, rest) := by
  obtain ⟨hdigits, hvalue⟩ := digits_toDigits hradix hle n
  have hlen : ((Nat.toDigits radix n).filterMap (charDigit radix)).length =
      (Nat.toDigits radix n).length := List.filterMap_length_eq_length.mpr hdigits
  have hne : (Nat.toDigits radix n).filterMap (charDigit radix) ≠ [] := by
    apply List.ne_nil_of_length_pos
    rw [hlen]
    exact Nat.length_toDigits_pos
  have hfew : maxDigits.any (· < (Nat.toDigits radix n).length) = false := by
    rcases maxDigits with _ | m
    · rfl
    · simpa using hmax m rfl
  have hzero : (!allowZeroPrefix &&
      ((Nat.toDigits radix n).filterMap (charDigit radix)).head? = some 0 &&
      1 < (Nat.toDigits radix n).length) = false := by
    by_cases hhead : ((Nat.toDigits radix n).filterMap (charDigit radix)).head? = some 0
    · obtain rfl := eq_zero_of_head_toDigits hradix hle hhead
      simp [Nat.toDigits_zero]
    · rw [decide_eq_false hhead, Bool.and_false, Bool.false_and]
  unfold readNumber
  rw [spanDigits_append hdigits hrest]
  dsimp only
  rw [if_neg hne, hlen, hfew, hzero, hvalue, if_pos hsize]
  rfl

end AdbHub.Lib
