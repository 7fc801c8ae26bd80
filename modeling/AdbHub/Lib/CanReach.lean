import AdbHub.Lib.Machine

/-!
# What a machine can still do

From a state, by actions of a kind, some states can be reached and others never.

* `Machine.CanReach A s P` — by actions that satisfy `A`, a state that satisfies `P` is reached from
  `s`.
* `CanReach.step` and `CanReach.trans` — one action first, and two goals in a row.
* **`CanReach.lift`** — what a part can reach, the whole can, where the whole takes the part's steps.
* **`not_canReach`** — what an invariant rules out is never reached.
-/

namespace AdbHub.Lib.Machine

variable {σ τ α β : Type*} {M : Machine σ α} {A B : α → Prop} {P Q I : σ → Prop} {s t : σ} {a : α}

/-- Some actions that satisfy `A` lead from `s` to a state that satisfies `P`. -/
def CanReach (M : Machine σ α) (A : α → Prop) (s : σ) (P : σ → Prop) : Prop :=
  ∃ as t, (∀ a ∈ as, A a) ∧ M.exec s as = some t ∧ P t

theorem CanReach.here (h : P s) : M.CanReach A s P := ⟨[], s, by simp, rfl, h⟩

/-- One action first. -/
theorem CanReach.step (ha : A a) (hs : M.step s a = some t) (h : M.CanReach A t P) :
    M.CanReach A s P := by
  obtain ⟨as, u, has, hexec, hP⟩ := h
  refine ⟨a :: as, u, List.forall_mem_cons.mpr ⟨ha, has⟩, ?_, hP⟩
  rw [exec, hs]
  exact hexec

/-- One action is enough. -/
theorem CanReach.one (ha : A a) (hs : M.step s a = some t) (h : P t) : M.CanReach A s P :=
  .step ha hs (.here h)

/-- Two goals in a row. -/
theorem CanReach.trans (h : M.CanReach A s Q) (hQ : ∀ t, Q t → M.CanReach A t P) :
    M.CanReach A s P := by
  obtain ⟨as, t, has, hexec, ht⟩ := h
  obtain ⟨bs, u, hbs, hexec', hP⟩ := hQ t ht
  refine ⟨as ++ bs, u, ?_, ?_, hP⟩
  · intro a ha
    exact (List.mem_append.mp ha).elim (has a) (hbs a)
  · rw [exec_append, hexec]
    exact hexec'

theorem CanReach.mono (h : M.CanReach A s P) (hA : ∀ a, A a → B a) (hP : ∀ t, P t → Q t) :
    M.CanReach B s Q := by
  obtain ⟨as, t, has, hexec, ht⟩ := h
  exact ⟨as, t, fun a ha => hA a (has a ha), hexec, hP t ht⟩

/-- What every step keeps still holds where a state is reached. -/
theorem CanReach.keeping (h : M.CanReach A s P) (hs : I s)
    (hstep : ∀ s a t, I s → M.step s a = some t → I t) : M.CanReach A s fun t => I t ∧ P t := by
  obtain ⟨as, t, has, hexec, ht⟩ := h
  exact ⟨as, t, has, hexec, exec_invariant hexec hs fun a _ s t hi h => hstep s a t hi h, ht⟩

/-- Where the whole takes the steps of a part, whatever the part reaches the whole reaches. -/
theorem CanReach.lift {N : Machine τ β} {C : β → Prop} {R : τ → Prop} (whole : σ → τ) (act : α → β)
    (hstep : ∀ s a t, A a → M.step s a = some t → N.step (whole s) (act a) = some (whole t))
    (h : M.CanReach A s P) (hA : ∀ a, A a → C (act a)) (hP : ∀ t, P t → R (whole t)) :
    N.CanReach C (whole s) R := by
  obtain ⟨as, t, has, hexec, ht⟩ := h
  refine ⟨as.map act, whole t, ?_, ?_, hP t ht⟩
  · intro b hb
    obtain ⟨a, ha, rfl⟩ := List.mem_map.mp hb
    exact hA a (has a ha)
  · induction as generalizing s with
    | nil =>
        obtain rfl := Option.some.inj hexec
        rfl
    | cons a as ih =>
        obtain ⟨ha, has⟩ := List.forall_mem_cons.mp has
        obtain ⟨u, hu, hut⟩ := Option.bind_eq_some_iff.mp hexec
        rw [List.map_cons, exec, hstep s a u ha hu]
        exact ih has hut

/-- What an invariant rules out is never reached. -/
theorem not_canReach (hs : I s) (hstep : ∀ s a t, I s → M.step s a = some t → I t)
    (hP : ∀ t, I t → ¬ P t) : ¬ M.CanReach A s P := by
  rintro ⟨as, t, -, hexec, ht⟩
  exact hP t (exec_invariant hexec hs fun a _ s t hi h => hstep s a t hi h) ht

end AdbHub.Lib.Machine
