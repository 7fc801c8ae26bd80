import Mathlib

/-!
# Lists without repeats, in the order of first occurrence

A loop that pushes a value unless the list has it already.

* `pushNew` — one round.
* `foldl_pushNew` — the loop adds the values that were not there, each once, where it first occurs.
-/

namespace AdbHub.Lib

variable {α : Type*} [DecidableEq α]

/-- Push a value that is new. -/
def pushNew (seen : List α) (x : α) : List α := if x ∈ seen then seen else seen ++ [x]

theorem mem_pushNew {seen : List α} {x y : α} : y ∈ pushNew seen x ↔ y ∈ seen ∨ y = x := by
  unfold pushNew
  split_ifs with hx
  · refine (or_iff_left_of_imp ?_).symm
    rintro rfl
    exact hx
  · rw [List.mem_append, List.mem_singleton]

/-- **The loop**, from any list. -/
theorem foldl_pushNew (seen xs : List α) :
    xs.foldl pushNew seen = seen ++ (xs.filter fun x => x ∉ seen).eraseDups := by
  induction xs generalizing seen with
  | nil => simp
  | cons x xs ih =>
      rw [List.foldl_cons, ih]
      by_cases hx : x ∈ seen
      · simp [pushNew, hx]
      · have hfilter : (xs.filter fun y => y ∉ seen ++ [x]) =
            (xs.filter fun y => y ∉ seen).filter fun y => !y == x := by
          rw [List.filter_filter]
          refine List.filter_congr fun y _ => ?_
          by_cases hy : y = x
          · simp [hy]
          · simp [hy]
        rw [pushNew, if_neg hx, hfilter, List.filter_cons_of_pos (by simpa using hx),
          List.eraseDups_cons, List.append_assoc, List.singleton_append]

/-- From a list without repeats it is the whole sequence, each value once. -/
theorem foldl_pushNew_of_nodup {seen : List α} (h : seen.eraseDups = seen) (xs : List α) :
    xs.foldl pushNew seen = (seen ++ xs).eraseDups := by
  rw [foldl_pushNew, List.eraseDups_append, h]
  congr 2
  refine List.filter_congr fun x _ => ?_
  simp

end AdbHub.Lib
