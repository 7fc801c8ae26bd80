import AdbHub.Lib.Machine

/-!
# Parts of a machine

Part of the state of a machine may be a machine of its own, which takes part in some of the actions.

* `Component` — the part of a state, and the action of the part that an action of the whole is, if it
  is one.
* **`Component.reaches`** — after a run of the whole, the part is where its own actions of that run
  lead; what is proved of the runs of the part holds of it within the whole.
-/

namespace AdbHub.Lib

variable {σ τ α β : Type*}

/-- A machine as a part of another. -/
structure Component (M : Machine σ α) (N : Machine τ β) where
  /-- The part of a state. -/
  part : σ → τ
  /-- What an action is for the part. -/
  act : α → Option β
  part_init : part M.init = N.init
  part_step : ∀ {s a t}, M.step s a = some t → N.Mirrors (act a) (part s) (part t)

namespace Component

variable {M : Machine σ α} {N : Machine τ β} (K : Component M N) {C : σ → α → Prop} {as : List α}
  {s : σ}

/-- **A part within the whole** takes the actions of the run that are its own. -/
theorem reaches (h : M.Run C as s) : N.Reaches (as.filterMap K.act) (K.part s) := by
  induction h with
  | init =>
      rw [K.part_init]
      exact .init
  | @snoc as s t a _ _ hs ih =>
      rw [List.filterMap_append]
      rcases K.part_step hs with ⟨hact, hpart⟩ | ⟨b, hact, hstep⟩
      · rw [List.filterMap_cons_none hact, List.filterMap_nil, List.append_nil, hpart]
        exact ih
      · rw [List.filterMap_cons_some hact, List.filterMap_nil]
        exact ih.snoc trivial hstep

end Component

end AdbHub.Lib
