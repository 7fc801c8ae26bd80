import Mathlib

/-!
# Naming a list of items one after the other, with a numbered fallback

Items are named in order. Every item has a first-choice name; when that name is taken the item
gets its fallback name, which carries the item's position — *without* looking whether the
fallback is taken too.

* `assignNames first fallback xs` — the names given to `xs`, in order.
* `FallsBack first fallback xs i` — the first choice of item `i` is taken, said in terms of the
  items alone (`fallsBack_iff_mem_take`).
* **`nodup_assignNames_iff`** — when fallback names tell their position, the names are pairwise
  distinct exactly if no item falls back to a name that is the first choice of an earlier item.
* `zip_assignNames_filter` — leaving items out changes the name of no other item, if those that
  fall back have none before them that is left out.
-/

namespace AdbHub.Lib

variable {α ν : Type*} [DecidableEq ν]

/-- The name the next item gets when the names `used` have been given so far. -/
def pickName (first : α → ν) (fallback : α → ℕ → ν) (used : List ν) (x : α) : ν :=
  if first x ∈ used then fallback x used.length else first x

/-- The names given to the items of a list, in order. -/
def assignNames (first : α → ν) (fallback : α → ℕ → ν) (xs : List α) : List ν :=
  xs.foldl (fun used x => used ++ [pickName first fallback used x]) []

/-- The first-choice name of item `i` is taken when its turn comes: an earlier item has the same
first choice, or had to fall back to that name itself. -/
inductive FallsBack (first : α → ν) (fallback : α → ℕ → ν) (xs : List α) : ℕ → Prop
  | repeated {i j : ℕ} {x y : α} : j < i → xs[j]? = some x → xs[i]? = some y →
      first x = first y → FallsBack first fallback xs i
  | chained {i j : ℕ} {x y : α} : j < i → xs[j]? = some x → xs[i]? = some y →
      FallsBack first fallback xs j → fallback x j = first y → FallsBack first fallback xs i

variable {first : α → ν} {fallback : α → ℕ → ν} {xs : List α} {x y : α} {i j : ℕ}

theorem assignNames_snoc (xs : List α) (x : α) :
    assignNames first fallback (xs ++ [x]) =
      assignNames first fallback xs ++
        [pickName first fallback (assignNames first fallback xs) x] := by
  simp [assignNames, List.foldl_append]

@[simp] theorem assignNames_length (xs : List α) :
    (assignNames first fallback xs).length = xs.length := by
  induction xs using List.reverseRecOn with
  | nil => rfl
  | append_singleton xs x ih => simp [assignNames_snoc, ih]

/-- The names given to the first items do not depend on the later ones. -/
theorem take_assignNames (xs : List α) (i : ℕ) :
    (assignNames first fallback xs).take i = assignNames first fallback (xs.take i) := by
  induction xs using List.reverseRecOn with
  | nil => simp [assignNames]
  | append_singleton xs x ih =>
      rw [assignNames_snoc]
      rcases Nat.lt_or_ge xs.length i with hi | hi
      · rw [List.take_of_length_le (by simp; omega), List.take_of_length_le (by simp; omega),
          assignNames_snoc]
      · rw [List.take_append_of_le_length (by simpa using hi),
          List.take_append_of_le_length hi, ih]

/-- Item `i` is named in view of the names of the items before it. -/
theorem getElem?_assignNames (h : xs[i]? = some x) :
    (assignNames first fallback xs)[i]? =
      some (pickName first fallback ((assignNames first fallback xs).take i) x) := by
  obtain ⟨hi, rfl⟩ := List.getElem?_eq_some_iff.mp h
  have hlen : (assignNames first fallback (xs.take i)).length = i := by simp; omega
  have htake : assignNames first fallback (xs.take (i + 1)) =
      assignNames first fallback (xs.take i) ++
        [pickName first fallback (assignNames first fallback (xs.take i)) xs[i]] := by
    rw [List.take_add_one, List.getElem?_eq_getElem hi]
    exact assignNames_snoc _ _
  rw [take_assignNames, ← List.getElem?_take_of_lt (Nat.lt_add_one i), take_assignNames, htake,
    List.getElem?_append_right hlen.le, hlen]
  simp

omit [DecidableEq ν] in
theorem mem_take_iff_getElem? {l : List ν} {n : ν} :
    n ∈ l.take i ↔ ∃ j, j < i ∧ l[j]? = some n := by
  rw [List.mem_iff_getElem?]
  constructor
  · rintro ⟨j, hj⟩
    have hji : j < i := by
      by_contra hge
      rw [List.getElem?_eq_none (by simp; omega)] at hj
      simp at hj
    exact ⟨j, hji, by rwa [List.getElem?_take_of_lt hji] at hj⟩
  · rintro ⟨j, hji, hj⟩
    exact ⟨j, by rwa [List.getElem?_take_of_lt hji]⟩

/-- Every position that has a name has an item. -/
theorem exists_item_of_name {n : ν} (h : (assignNames first fallback xs)[i]? = some n) :
    ∃ x, xs[i]? = some x := by
  have hi := (List.getElem?_eq_some_iff.mp h).1
  rw [assignNames_length] at hi
  exact ⟨_, List.getElem?_eq_getElem hi⟩

/-- Falling back is what `pickName` does when the first choice has been given away. -/
theorem fallsBack_iff_mem_take (h : xs[i]? = some y) :
    FallsBack first fallback xs i ↔ first y ∈ (assignNames first fallback xs).take i := by
  induction i using Nat.strong_induction_on generalizing y with
  | _ i ih =>
      rw [mem_take_iff_getElem?]
      constructor
      · intro hf
        cases hf with
        | @repeated _ j x y' hji hx hy' hxy =>
            obtain rfl : y' = y := Option.some.inj (hy'.symm.trans h)
            by_cases hm : first x ∈ (assignNames first fallback xs).take j
            · -- the earlier item fell back, so the common first choice was given even earlier
              obtain ⟨k, hkj, hk⟩ := mem_take_iff_getElem?.mp hm
              exact ⟨k, by omega, by rw [hk, hxy]⟩
            · refine ⟨j, hji, ?_⟩
              rw [getElem?_assignNames hx, pickName, if_neg hm, hxy]
        | @chained _ j x y' hji hx hy' hfj hxy =>
            obtain rfl : y' = y := Option.some.inj (hy'.symm.trans h)
            have hlen : ((assignNames first fallback xs).take j).length = j := by
              have := (List.getElem?_eq_some_iff.mp hx).1
              simp
              omega
            refine ⟨j, hji, ?_⟩
            rw [getElem?_assignNames hx, pickName, if_pos ((ih j hji hx).mp hfj), hlen, hxy]
      · rintro ⟨j, hji, hj⟩
        obtain ⟨x, hx⟩ := exists_item_of_name hj
        have hlen : ((assignNames first fallback xs).take j).length = j := by
          have := (List.getElem?_eq_some_iff.mp hx).1
          simp
          omega
        rw [getElem?_assignNames hx, pickName] at hj
        split_ifs at hj with hm
        · rw [hlen] at hj
          exact .chained hji hx h ((ih j hji hx).mpr hm) (Option.some.inj hj)
        · exact .repeated hji hx h (Option.some.inj hj)

/-- The name of an item that falls back. -/
theorem getElem?_assignNames_of_fallsBack (h : xs[i]? = some x)
    (hf : FallsBack first fallback xs i) :
    (assignNames first fallback xs)[i]? = some (fallback x i) := by
  have hlen : ((assignNames first fallback xs).take i).length = i := by
    have := (List.getElem?_eq_some_iff.mp h).1
    simp
    omega
  rw [getElem?_assignNames h, pickName, if_pos ((fallsBack_iff_mem_take h).mp hf), hlen]

/-- The name of an item that does not fall back. -/
theorem getElem?_assignNames_of_not_fallsBack (h : xs[i]? = some x)
    (hf : ¬ FallsBack first fallback xs i) :
    (assignNames first fallback xs)[i]? = some (first x) := by
  rw [getElem?_assignNames h, pickName, if_neg fun hm => hf ((fallsBack_iff_mem_take h).mpr hm)]

/-- An item falls back to a name that is the first choice of an earlier item. -/
def FallbackTaken (first : α → ν) (fallback : α → ℕ → ν) (xs : List α) : Prop :=
  ∃ i j x y, j < i ∧ xs[i]? = some x ∧ xs[j]? = some y ∧
    FallsBack first fallback xs i ∧ first y = fallback x i

/-- **Distinct names, exactly.** If a fallback name determines the position it was made for, the
names are pairwise distinct iff no item falls back to the first choice of an earlier item. -/
theorem nodup_assignNames_iff
    (hpos : ∀ x y i j, fallback x i = fallback y j → i = j) :
    (assignNames first fallback xs).Nodup ↔ ¬ FallbackTaken first fallback xs := by
  rw [List.nodup_iff_getElem?_ne_getElem?]
  constructor
  · rintro hn ⟨i, j, x, y, hji, hx, hy, hf, hxy⟩
    have hi : i < (assignNames first fallback xs).length := by
      simpa using (List.getElem?_eq_some_iff.mp hx).1
    -- the first choice of item `j` has been given to `j` or to an item before it
    obtain ⟨k, hk, hname⟩ : ∃ k, k < i ∧
        (assignNames first fallback xs)[k]? = some (first y) := by
      by_cases hfj : FallsBack first fallback xs j
      · obtain ⟨k, hkj, hname⟩ :=
          mem_take_iff_getElem?.mp ((fallsBack_iff_mem_take hy).mp hfj)
        exact ⟨k, by omega, hname⟩
      · exact ⟨j, hji, getElem?_assignNames_of_not_fallsBack hy hfj⟩
    apply hn k i hk hi
    rw [hname, getElem?_assignNames_of_fallsBack hx hf, hxy]
  · intro hfree j i hji hi heq
    rw [assignNames_length] at hi
    have hj : j < xs.length := hji.trans hi
    have hxi : xs[i]? = some xs[i] := List.getElem?_eq_getElem hi
    have hxj : xs[j]? = some xs[j] := List.getElem?_eq_getElem hj
    by_cases hf : FallsBack first fallback xs i
    · rw [getElem?_assignNames_of_fallsBack hxi hf] at heq
      by_cases hfj : FallsBack first fallback xs j
      · rw [getElem?_assignNames_of_fallsBack hxj hfj] at heq
        have := hpos _ _ _ _ (Option.some.inj heq)
        omega
      · rw [getElem?_assignNames_of_not_fallsBack hxj hfj] at heq
        exact hfree ⟨i, j, _, _, hji, hxi, hxj, hf, Option.some.inj heq⟩
    · rw [getElem?_assignNames_of_not_fallsBack hxi hf] at heq
      exact hf ((fallsBack_iff_mem_take hxi).mpr (mem_take_iff_getElem?.mpr ⟨j, hji, heq⟩))

/-! ## Leaving items out -/

/-- The names go by the first choices of the items there are. -/
theorem assignNames_congr {first' : α → ν} (h : ∀ x ∈ xs, first x = first' x) :
    assignNames first fallback xs = assignNames first' fallback xs := by
  induction xs using List.reverseRecOn with
  | nil => rfl
  | append_singleton xs x ih =>
      rw [assignNames_snoc, assignNames_snoc, ih fun y hy => h y (List.mem_append_left _ hy)]
      unfold pickName
      rw [h x (by simp)]

/-- An item that falls back has none before it that is left out by `keep`, if it is not left out
itself. -/
def FallsBackAmong (first : α → ν) (fallback : α → ℕ → ν) (keep : α → Bool) (xs : List α) : Prop :=
  ∀ i x, xs[i]? = some x → keep x = true → FallsBack first fallback xs i →
    ∀ y ∈ xs.take i, keep y = true

theorem FallsBackAmong.of_append {keep : α → Bool} {ys : List α}
    (h : FallsBackAmong first fallback keep (xs ++ ys)) :
    FallsBackAmong first fallback keep xs := by
  intro i x hx hkeep hfalls y hy
  have hi := (List.getElem?_eq_some_iff.mp hx).1
  have htake : (xs ++ ys).take i = xs.take i := List.take_append_of_le_length hi.le
  have hx' : (xs ++ ys)[i]? = some x := by rwa [List.getElem?_append_left hi]
  refine h i x hx' hkeep ?_ y (by rwa [htake])
  rw [fallsBack_iff_mem_take hx', take_assignNames, htake, ← take_assignNames]
  exact (fallsBack_iff_mem_take hx).mp hfalls

/-- **Leaving items out.** The names of the other items stay as they are, if those that fall back
have no item before them that is left out. -/
theorem zip_assignNames_filter {keep : α → Bool} (h : FallsBackAmong first fallback keep xs) :
    (xs.zip (assignNames first fallback xs)).filter (fun item => keep item.1) =
      (xs.filter keep).zip (assignNames first fallback (xs.filter keep)) := by
  induction xs using List.reverseRecOn with
  | nil => rfl
  | append_singleton xs x ih =>
      have ih := ih h.of_append
      rw [assignNames_snoc, List.zip_append (by simp), List.filter_append, ih, List.filter_append]
      rcases hx : keep x with _ | _
      · simp [hx]
      · -- the names in use among the items that are kept are in use among all of them
        have hused : ∀ n ∈ assignNames first fallback (xs.filter keep),
            n ∈ assignNames first fallback xs := by
          intro n hn
          obtain ⟨k, hk, rfl⟩ := List.getElem_of_mem hn
          have hlen : k < ((xs.filter keep).zip
              (assignNames first fallback (xs.filter keep))).length := by simpa using hk
          have hmem := List.getElem_mem hlen
          rw [List.getElem_zip, ← ih] at hmem
          exact (List.of_mem_zip (List.mem_filter.mp hmem).1).2
        have hpick : pickName first fallback (assignNames first fallback (xs.filter keep)) x =
            pickName first fallback (assignNames first fallback xs) x := by
          by_cases hfirst : first x ∈ assignNames first fallback xs
          · have hget : (xs ++ [x])[xs.length]? = some x := by simp
            have hfalls : FallsBack first fallback (xs ++ [x]) xs.length := by
              rw [fallsBack_iff_mem_take hget, take_assignNames, List.take_left]
              exact hfirst
            have hall : xs.filter keep = xs := by
              rw [List.filter_eq_self]
              have hbefore := h xs.length x hget hx hfalls
              rwa [List.take_left] at hbefore
            rw [hall]
          · unfold pickName
            rw [if_neg hfirst, if_neg fun hmem => hfirst (hused _ hmem)]
        have hlast : List.filter keep [x] = [x] := by simp [hx]
        rw [hlast, assignNames_snoc, List.zip_append (by simp), hpick]
        simp [hx]

end AdbHub.Lib
