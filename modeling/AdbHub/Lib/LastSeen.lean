import Mathlib

/-!
# Lists without repeated keys, the last element of a key kept

A loop over a list from its end that takes an element unless its key was seen.

* `keepLast` — the loop, as it pushes what it takes and turns the result around.
* `keepLast_eq_pwFilter` — what it computes.
* `mem_map_keepLast` — no key is lost.
* `filter_keepLast_eq_iff` — when nothing is lost of the elements with a property.
-/

namespace AdbHub.Lib

variable {α κ : Type*} [DecidableEq κ] {key : α → κ} {xs : List α} {k : κ}

/-- One round: the keys that were seen, and what was taken. -/
def takeUnseen (key : α → κ) (acc : List κ × List α) (x : α) : List κ × List α :=
  if key x ∈ acc.1 then acc else (key x :: acc.1, acc.2 ++ [x])

/-- Of every key the last element. -/
def keepLast (key : α → κ) (xs : List α) : List α :=
  (xs.reverse.foldl (takeUnseen key) ([], [])).2.reverse

/-- What the loop has seen are the keys of what it has taken. -/
theorem fst_foldl_takeUnseen (key : α → κ) (xs : List α) :
    (xs.reverse.foldl (takeUnseen key) ([], [])).1 = (keepLast key xs).map key := by
  unfold keepLast
  induction xs with
  | nil => rfl
  | cons x xs ih =>
      rw [List.reverse_cons, List.foldl_append, List.foldl_cons, List.foldl_nil, takeUnseen]
      split_ifs
      · exact ih
      · rw [List.reverse_append, List.reverse_singleton, List.singleton_append, List.map_cons, ih]

theorem keepLast_cons (key : α → κ) (x : α) (xs : List α) :
    keepLast key (x :: xs) =
      if key x ∈ (keepLast key xs).map key then keepLast key xs else x :: keepLast key xs := by
  rw [← fst_foldl_takeUnseen, keepLast, List.reverse_cons, List.foldl_append, List.foldl_cons,
    List.foldl_nil, takeUnseen]
  split_ifs
  · rfl
  · rw [List.reverse_append, List.reverse_singleton, List.singleton_append]
    rfl

/-- **The loop** builds, from the end, the list in which no two keys are the same. -/
theorem keepLast_eq_pwFilter (key : α → κ) (xs : List α) :
    keepLast key xs = xs.pwFilter fun x y => key x ≠ key y := by
  induction xs with
  | nil => rfl
  | cons x xs ih =>
      rw [keepLast_cons, ih]
      by_cases hx : ∀ y ∈ xs.pwFilter (fun x y => key x ≠ key y), key x ≠ key y
      · rw [List.pwFilter_cons_of_pos hx, if_neg]
        rintro hmem
        obtain ⟨y, hy, hkey⟩ := List.mem_map.mp hmem
        exact hx y hy hkey.symm
      · rw [List.pwFilter_cons_of_neg hx, if_pos]
        push Not at hx
        obtain ⟨y, hy, hkey⟩ := hx
        exact List.mem_map.mpr ⟨y, hy, hkey.symm⟩

theorem nodup_keepLast (key : α → κ) (xs : List α) : ((keepLast key xs).map key).Nodup := by
  rw [List.Nodup, List.pairwise_map, keepLast_eq_pwFilter]
  exact List.pairwise_pwFilter xs

theorem keepLast_sublist (key : α → κ) (xs : List α) : (keepLast key xs).Sublist xs := by
  rw [keepLast_eq_pwFilter]
  exact List.pwFilter_sublist xs

/-- No key is lost. -/
theorem mem_map_keepLast : k ∈ (keepLast key xs).map key ↔ k ∈ xs.map key := by
  induction xs with
  | nil => rfl
  | cons x xs ih =>
      rw [keepLast_cons, List.map_cons, List.mem_cons]
      split_ifs with hx
      · rw [ih]
        refine (or_iff_right_of_imp ?_).symm
        rintro rfl
        exact ih.mp hx
      · rw [List.map_cons, List.mem_cons, ih]

/-- **Nothing with a property is lost** iff no element with the property has a later one of its
key. -/
theorem filter_keepLast_eq_iff {p : α → Bool} :
    (keepLast key xs).filter p = xs.filter p ↔
      ∀ pre x post, xs = pre ++ x :: post → p x = true → key x ∉ post.map key := by
  induction xs with
  | nil => simp [keepLast]
  | cons y xs ih =>
      have hsplit : (∀ pre x post, y :: xs = pre ++ x :: post → p x = true →
          key x ∉ post.map key) ↔ (p y = true → key y ∉ xs.map key) ∧
            ∀ pre x post, xs = pre ++ x :: post → p x = true → key x ∉ post.map key := by
        constructor
        · intro h
          refine ⟨h [] y xs rfl, ?_⟩
          rintro pre x post rfl
          exact h (y :: pre) x post rfl
        · rintro ⟨hy, hxs⟩ (_ | ⟨z, pre⟩) x post h
          · obtain ⟨rfl, rfl⟩ := List.cons.inj h
            exact hy
          · exact hxs pre x post (List.cons.inj h).2
      have hlen := ((keepLast_sublist key xs).filter p).length_le
      rw [hsplit, ← ih, ← mem_map_keepLast, keepLast_cons]
      by_cases hp : p y = true
      · rw [List.filter_cons_of_pos hp]
        split_ifs with hy
        · refine iff_of_false (fun h => ?_) fun h => h.1 hp hy
          rw [h, List.length_cons] at hlen
          omega
        · rw [List.filter_cons_of_pos hp, List.cons_inj_right]
          exact (and_iff_right fun _ => hy).symm
      · rw [List.filter_cons_of_neg hp, and_iff_right fun h => absurd h hp]
        split_ifs
        · rfl
        · rw [List.filter_cons_of_neg hp]

end AdbHub.Lib
