import AdbHub.Lib.Effect
import AdbHub.Lib.Incoming

/-!
# Programs that face each other

Two programs that are connected by two streams, one in each direction.

* `Exchange` — what two programs have told each other: what arrives at the one is what the other
  puts out, cut into pieces anyhow. What a program puts out may depend on all that arrives.
* `Effect.Tracks` — a program that does on the states of one kind what another one does on the
  related states of another kind; the rules follow the way the programs are built.
* `Effect.Extends` — a program that adds to an output and takes nothing back.
-/

namespace AdbHub.Lib

/-! ## Exchanges -/

/-- What `left` and `right` have told each other, both as functions of what arrives. -/
structure Exchange {β ε : Type*} (left right : Incoming β ε → List β) where
  toLeft : Incoming β ε
  toRight : Incoming β ε
  toLeft_items : toLeft.items = right toRight
  toRight_items : toRight.items = left toLeft

/-! ## Programs side by side -/

namespace Effect

variable {ε σ τ α β : Type} {R : σ → τ → Prop}

/-- On related states both programs have the same result, and leave related states. -/
def Tracks (R : σ → τ → Prop) (x : Effect ε σ α) (y : Effect ε τ α) : Prop :=
  ∀ s t, R s t → (x.on s).1 = (y.on t).1 ∧ R (x.on s).2 (y.on t).2

theorem tracks_pure (a : α) : Tracks R (pure a : Effect ε σ α) (pure a) :=
  fun _ _ h => ⟨rfl, h⟩

theorem tracks_throw (e : ε) : Tracks R (throw e : Effect ε σ α) (throw e) :=
  fun _ _ h => ⟨rfl, h⟩

/-- Related parts follow related parts. -/
theorem Tracks.bind {x : Effect ε σ α} {y : Effect ε τ α} {f : α → Effect ε σ β}
    {g : α → Effect ε τ β} (hx : Tracks R x y) (hf : ∀ a, Tracks R (f a) (g a)) :
    Tracks R (x >>= f) (y >>= g) := by
  intro s t h
  obtain ⟨hresult, hleft⟩ := hx s t h
  rcases hr : x.on s with ⟨e | a, s'⟩
  all_goals
    rcases hr' : y.on t with ⟨e' | a', t'⟩
    all_goals rw [hr, hr'] at hresult hleft
  · obtain rfl := Except.error.inj hresult
    rw [on_bind_error hr, on_bind_error hr']
    exact ⟨rfl, hleft⟩
  · cases hresult
  · cases hresult
  · obtain rfl := Except.ok.inj hresult
    rw [on_bind_ok hr, on_bind_ok hr']
    exact hf a s' t' hleft

theorem Tracks.attempt {x : Effect ε σ α} {y : Effect ε τ α} (h : Tracks R x y) :
    Tracks R x.attempt y.attempt := by
  intro s t hR
  obtain ⟨hresult, hleft⟩ := h s t hR
  exact ⟨congrArg Except.ok hresult, hleft⟩

/-! ## Programs that only add -/

variable {γ : Type} {out : σ → List γ}

/-- The program adds to what `out` has, or leaves it alone. -/
def Extends (out : σ → List γ) (x : Effect ε σ α) : Prop := ∀ s, out s <+: out (x.on s).2

theorem Keeps.extends {x : Effect ε σ α} (h : Keeps out x) : Extends out x :=
  fun s => (h s).symm ▸ List.prefix_rfl

theorem Extends.bind {x : Effect ε σ α} {f : α → Effect ε σ β} (hx : Extends out x)
    (hf : ∀ a, Extends out (f a)) : Extends out (x >>= f) := by
  intro s
  rcases hr : x.on s with ⟨e | a, s'⟩
  all_goals
    have hstep := hx s
    rw [hr] at hstep
  · rw [on_bind_error hr]
    exact hstep
  · rw [on_bind_ok hr]
    exact hstep.trans (hf a s')

theorem Extends.attempt {x : Effect ε σ α} (h : Extends out x) : Extends out x.attempt :=
  fun s => h s

end Effect

end AdbHub.Lib
