import AdbHub.Lib.Machine

/-!
# Views that only some actions touch

Part of the state of a machine may be visible to somebody whom not all actions concern.

* `View` — what is visible of a state, which actions are visible, and how a visible action acts on
  the visible part; the others leave it alone.
* **`View.eq_foldl`** — what is visible after a run is computed from the visible actions alone.
* **`View.noninterference`** — two runs with the same visible actions, whatever the others are and
  however they are interleaved, end in states that look the same.
-/

namespace AdbHub.Lib

variable {σ α ν : Type*}

/-- A view of the states of a machine that evolves by the visible actions alone. -/
structure View (M : Machine σ α) (ν : Type*) where
  /-- What is seen of a state. -/
  view : σ → ν
  /-- The actions that concern the viewer. -/
  visible : α → Bool
  /-- What a visible action does to the visible part. -/
  act : ν → α → ν
  view_visible : ∀ {s a t}, M.step s a = some t → visible a = true → view t = act (view s) a
  view_hidden : ∀ {s a t}, M.step s a = some t → visible a = false → view t = view s

namespace View

variable {M : Machine σ α} (V : View M ν) {as bs : List α} {s t : σ}

/-- **The visible part evolves by itself.** -/
theorem eq_foldl (h : M.Reaches as s) :
    V.view s = (as.filter V.visible).foldl V.act (V.view M.init) := by
  unfold Machine.Reaches at h
  induction h with
  | init => rfl
  | @snoc as s t a _ _ hs ih =>
      rw [List.filter_append, List.foldl_append, ← ih]
      rcases ha : V.visible a with _ | _
      · rw [V.view_hidden hs ha]
        simp [ha]
      · rw [V.view_visible hs ha]
        simp [ha]

/-- **Noninterference.** Runs with the same visible actions look the same. -/
theorem noninterference (hs : M.Reaches as s) (ht : M.Reaches bs t)
    (h : as.filter V.visible = bs.filter V.visible) : V.view s = V.view t := by
  rw [V.eq_foldl hs, V.eq_foldl ht, h]

end View

end AdbHub.Lib
