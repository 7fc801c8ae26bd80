import Mathlib.Tactic

/-!
# Programs that act on a state and may fail

* `bind_eq_ok` and `mapError_eq_ok_iff` — what a success says about the parts of a computation.
* `Effect` — a program over a state with errors; behind an error the state is still there.
* `on` — run a program: the result and the state it leaves, with `on_bind` and the rules for the
  two ways a first part can end.
* `attempt` — hand the error of a program on as a value.
* `Keeps` — a program leaves a part of the state alone, however it ends; the rules follow the way
  the program is built.
-/

namespace AdbHub.Lib

/-! ## Results -/

/-- A computation with a rest succeeds only if both do. -/
theorem bind_eq_ok {ε α β : Type} {x : Except ε α} {f : α → Except ε β} {b : β}
    (h : (x >>= f) = .ok b) : ∃ a, x = .ok a ∧ f a = .ok b := by
  rcases x with e | a
  · simp [bind, Except.bind] at h
  · exact ⟨a, rfl, h⟩

/-- Another error in place of the own one does not change what succeeds. -/
theorem mapError_eq_ok_iff {ε ε' α : Type} {x : Except ε α} {f : ε → ε'} {a : α} :
    x.mapError f = .ok a ↔ x = .ok a := by
  cases x <;> simp [Except.mapError]

/-! ## Programs -/

/-- A program that acts on a state and may fail. -/
abbrev Effect (ε σ : Type) := ExceptT ε (StateM σ)

namespace Effect

variable {ε σ α β : Type}

/-- Run a program: the result, and the state it leaves. -/
def on (x : Effect ε σ α) (s : σ) : Except ε α × σ := (StateT.run (ExceptT.run x) s).run

/-- An action, by what it returns and the state it leaves. -/
def act (f : σ → Except ε α × σ) : Effect ε σ α := ExceptT.mk f

/-- The result of a program, an error included. -/
def attempt (x : Effect ε σ α) : Effect ε σ (Except ε α) :=
  act fun s => (.ok (x.on s).1, (x.on s).2)

theorem on_bind (x : Effect ε σ α) (f : α → Effect ε σ β) (s : σ) :
    (x >>= f).on s =
      match x.on s with
      | (.ok a, t) => (f a).on t
      | (.error e, t) => (.error e, t) := by
  unfold on
  rcases hx : (StateT.run (ExceptT.run x) s).run with ⟨e | a, t⟩ <;>
    simp_all [ExceptT.run_bind, StateT.run_bind]

@[simp] theorem on_pure (a : α) (s : σ) : (pure a : Effect ε σ α).on s = (.ok a, s) := rfl

@[simp] theorem on_throw (e : ε) (s : σ) :
    (throw e : Effect ε σ α).on s = (.error e, s) := rfl

@[simp] theorem on_act (f : σ → Except ε α × σ) (s : σ) : (act f).on s = f s := rfl

@[simp] theorem on_attempt (x : Effect ε σ α) (s : σ) :
    x.attempt.on s = (.ok (x.on s).1, (x.on s).2) := rfl

/-- The second part starts from what the first one leaves. -/
theorem on_bind_ok {x : Effect ε σ α} {f : α → Effect ε σ β} {s t : σ} {a : α}
    (h : x.on s = (.ok a, t)) : (x >>= f).on s = (f a).on t := by
  rw [on_bind, h]

/-- An error ends the program. -/
theorem on_bind_error {x : Effect ε σ α} {f : α → Effect ε σ β} {s t : σ} {e : ε}
    (h : x.on s = (.error e, t)) : (x >>= f).on s = (.error e, t) := by
  rw [on_bind, h]

/-- A value made of the result leaves the state as it is. -/
theorem snd_on_bind_pure (x : Effect ε σ α) (f : α → β) (s : σ) :
    ((x >>= fun a => pure (f a)).on s).2 = (x.on s).2 := by
  rcases hr : x.on s with ⟨e | a, t⟩
  · rw [on_bind_error hr]
  · rw [on_bind_ok hr]
    rfl

/-! ## What a program leaves alone -/

/-- The program does not change what `f` reads of the state. -/
def Keeps {τ : Type} (f : σ → τ) (x : Effect ε σ α) : Prop := ∀ s, f (x.on s).2 = f s

section keeps

variable {τ : Type} {f : σ → τ}

theorem keeps_pure (a : α) : Keeps f (pure a : Effect ε σ α) := fun _ => rfl

theorem keeps_throw (e : ε) : Keeps f (throw e : Effect ε σ α) := fun _ => rfl

theorem Keeps.bind {x : Effect ε σ α} {k : α → Effect ε σ β} (hx : Keeps f x)
    (hk : ∀ a, Keeps f (k a)) : Keeps f (x >>= k) := by
  intro s
  have hs := hx s
  rcases hr : x.on s with ⟨e | a, t⟩
  · rw [on_bind_error hr, ← hs, hr]
  · rw [on_bind_ok hr, hk a t, ← hs, hr]

theorem Keeps.attempt {x : Effect ε σ α} (hx : Keeps f x) : Keeps f x.attempt := fun s => hx s

end keeps

end Effect

end AdbHub.Lib
