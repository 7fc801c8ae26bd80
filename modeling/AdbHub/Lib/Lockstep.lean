import AdbHub.Lib.Machine
import AdbHub.Lib.Codec

/-!
# Two runs side by side

The same program run on two inputs that differ in what must not matter.

* `SameOutcome` — two fallible computations fail with the same error or return related values; the
  rules follow the way the computations are built.
* `Sink.CountsAlike` — two streams written to, on which a write fails by how much is written and
  not by what.
* `Lockstep` — two machines that take the same actions in related states.
* **`Lockstep.reaches`** — what the one machine can perform, the other can, and it ends in a
  related state.
-/

namespace AdbHub.Lib

/-! ## Outcomes -/

section outcomes

universe u

variable {ε : Type*} {α α' β β' : Type u}

/-- The same error, or related values. -/
inductive SameOutcome (R : α → α' → Prop) : Except ε α → Except ε α' → Prop
  | error (e : ε) : SameOutcome R (.error e) (.error e)
  | ok {a : α} {a' : α'} (h : R a a') : SameOutcome R (.ok a) (.ok a')

namespace SameOutcome

variable {R : α → α' → Prop} {S : β → β' → Prop} {x : Except ε α} {x' : Except ε α'}

theorem eq {x x' : Except ε α} (h : SameOutcome Eq x x') : x = x' := by
  cases h with
  | error e => rfl
  | ok h => rw [h]

/-- Related parts follow related parts. -/
theorem bind {f : α → Except ε β} {f' : α' → Except ε β'} (h : SameOutcome R x x')
    (hf : ∀ a a', R a a' → SameOutcome S (f a) (f' a')) :
    SameOutcome S (x >>= f) (x' >>= f') := by
  cases h with
  | error e => exact .error e
  | ok h => exact hf _ _ h

theorem map {f : α → β} {f' : α' → β'} (h : SameOutcome R x x')
    (hf : ∀ a a', R a a' → S (f a) (f' a')) : SameOutcome S (x.map f) (x'.map f') := by
  cases h with
  | error e => exact .error e
  | ok h => exact .ok (hf _ _ h)

/-- The values, if there are any, are related. -/
theorem toOption (h : SameOutcome R x x') : Option.Rel R x.toOption x'.toOption := by
  cases h with
  | error e => exact .none
  | ok h => exact .some h

end SameOutcome

end outcomes

/-! ## Writing -/

section writing

variable {γ : Type*} {w w' : Sink γ}

/-- As much is written to the two streams, and their writes fail by counts alone. -/
structure Sink.CountsAlike (w w' : Sink γ) : Prop where
  length : w.out.length = w'.out.length
  fault : ∃ f : ℕ → ℕ → Option String, (w.fault = fun out bytes => f out.length bytes.length) ∧
    w'.fault = fun out bytes => f out.length bytes.length

/-- Writing as many items has the same outcome. -/
theorem Sink.CountsAlike.writeAll (h : w.CountsAlike w') {bytes bytes' : List γ}
    (hlen : bytes.length = bytes'.length) :
    SameOutcome Sink.CountsAlike (w.writeAll bytes) (w'.writeAll bytes') := by
  obtain ⟨hout, f, hf, hf'⟩ := h
  have hfault : w.fault w.out bytes = w'.fault w'.out bytes' := by
    simp only [hf, hf', hout, hlen]
  unfold Sink.writeAll
  rw [hfault]
  rcases w'.fault w'.out bytes' with _ | text
  · refine .ok ⟨?_, f, hf, hf'⟩
    rw [List.length_append, List.length_append, hout, hlen]
  · exact .error text

end writing

/-! ## Machines -/

variable {σ τ α : Type*}

/-- Two machines that can do the same in related states, and stay related. -/
structure Lockstep (M : Machine σ α) (N : Machine τ α) (R : σ → τ → Prop) : Prop where
  init : R M.init N.init
  step : ∀ {s t} (a : α), R s t → Option.Rel R (M.step s a) (N.step t a)

/-- **Same runs.** What one machine performs, the other performs too, with a related end. -/
theorem Lockstep.reaches {M : Machine σ α} {N : Machine τ α} {R : σ → τ → Prop}
    (L : Lockstep M N R) {as : List α} {s : σ} (h : M.Reaches as s) :
    ∃ t, N.Reaches as t ∧ R s t := by
  unfold Machine.Reaches at h
  induction h with
  | init => exact ⟨N.init, .init, L.init⟩
  | @snoc as s s' a _ _ hs ih =>
      obtain ⟨t, hr, hR⟩ := ih
      have hrel := L.step a hR
      rw [hs] at hrel
      obtain ⟨t', ht'⟩ : ∃ t', N.step t a = some t' := by
        rcases ht : N.step t a with _ | t'
        · rw [ht] at hrel
          cases hrel
        · exact ⟨t', rfl⟩
      rw [ht'] at hrel
      cases hrel with
      | some hR' => exact ⟨t', .snoc hr trivial ht', hR'⟩

end AdbHub.Lib
