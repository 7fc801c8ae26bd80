import Mathlib.Tactic

/-!
# Guarded machines, their runs, and simulation

A concurrent component is modelled as a *guarded step function*: `step s a` is the state after
action `a`, or `none` when `a` is not enabled in `s`. Interleavings are lists of actions.

* `Machine.exec` replays a list of actions; `Machine.Run C as s` says that `as` leads from the
  initial state to `s` with every single step meeting the step condition `C`.
* `Machine.Always P as` — every state passed while performing `as` satisfies `P`;
  `Machine.EachStep P as` — every step does, given what was done before it.
* `Followed` — after every action of one kind there was one of another; **`gone_iff_followed`** —
  what some actions put and others take is gone exactly if every one that puts was followed by one
  that takes.
* **`Run.invariant`** — what holds initially and is kept by every admissible step holds at the
  end of every admissible run.
* **`exists_standing`** — where the actions of a kind use up a measure, some list of them ends in a
  state in which none of them is enabled.
* **`always_iff_run`** — if one step from a good state ends in a good state *exactly* when it
  meets `C`, then a whole run stays good exactly when all its steps meet `C`; `always_iff_eachStep`
  is the same for a condition on a step and its past.
* `Simulation` — a concrete machine read through an abstraction map; from a state that satisfies an
  invariant, the abstract machine mirrors every concrete step (`Machine.Mirrors`). Runs are
  carried over (`Simulation.run`), and so is the exact characterisation of the safe runs
  (`Simulation.always_iff_run`).
-/

namespace AdbHub.Lib

/-- A machine: an initial state and a guarded step function. -/
structure Machine (σ α : Type*) where
  /-- The state in which every run starts. -/
  init : σ
  /-- One step; `none` when the action is not enabled. -/
  step : σ → α → Option σ

namespace Machine

variable {σ α : Type*} (M : Machine σ α)

/-- Replay a list of actions from a state; `none` if one of them is not enabled. -/
def exec : σ → List α → Option σ
  | s, [] => some s
  | s, a :: as => (M.step s a).bind fun t => exec t as

/-- `M.Run C as s`: performing `as` from the initial state ends in `s`, and every step taken,
from a state `t` by an action `a`, satisfies `C t a`. -/
inductive Run (C : σ → α → Prop) : List α → σ → Prop
  | init : Run C [] M.init
  | snoc {as : List α} {s t : σ} {a : α} :
      Run C as s → C s a → M.step s a = some t → Run C (as ++ [a]) t

/-- Performing `as` from the initial state ends in `s`; no condition on the steps. -/
def Reaches (as : List α) (s : σ) : Prop := M.Run (fun _ _ => True) as s

/-- Every state passed while performing `as`, both ends included, satisfies `P`. -/
def Always (P : σ → Prop) (as : List α) : Prop :=
  ∀ bs t, bs <+: as → M.Reaches bs t → P t

variable {M} {C D : σ → α → Prop} {P H I : σ → Prop} {as : List α} {s t : σ} {a : α}

/-! ## Runs -/

theorem Run.mono (hCD : ∀ s a, C s a → D s a) (h : M.Run C as s) : M.Run D as s := by
  induction h with
  | init => exact .init
  | snoc _ hc hs ih => exact .snoc ih (hCD _ _ hc) hs

theorem run_congr (hCD : ∀ s a, C s a ↔ D s a) : M.Run C as s ↔ M.Run D as s :=
  ⟨Run.mono fun s a => (hCD s a).mp, Run.mono fun s a => (hCD s a).mpr⟩

theorem Run.reaches (h : M.Run C as s) : M.Reaches as s := h.mono fun _ _ _ => trivial

/-- Conditions that agree on the steps after every run under the second. -/
theorem run_iff_run
    (hCD : ∀ as s a t, M.Run D as s → M.step s a = some t → (C s a ↔ D s a)) :
    M.Run C as s ↔ M.Run D as s := by
  constructor
  · intro h
    induction h with
    | init => exact .init
    | snoc _ hc hs ih => exact .snoc ih ((hCD _ _ _ _ ih hs).mp hc) hs
  · intro h
    induction h with
    | init => exact .init
    | snoc hr hd hs ih => exact .snoc ih ((hCD _ _ _ _ hr hs).mpr hd) hs

/-- Conditions that agree in all states reached. -/
theorem run_congr_of_reaches
    (hCD : ∀ as s a, M.Reaches as s → (C s a ↔ D s a)) : M.Run C as s ↔ M.Run D as s :=
  run_iff_run fun as s a _ h _ => hCD as s a h.reaches

theorem run_nil_iff : M.Run C [] s ↔ s = M.init := by
  constructor
  · intro h
    generalize hn : ([] : List α) = as at h
    cases h with
    | init => rfl
    | snoc _ _ _ => simp at hn
  · rintro rfl
    exact .init

theorem run_snoc_iff :
    M.Run C (as ++ [a]) t ↔ ∃ s, M.Run C as s ∧ C s a ∧ M.step s a = some t := by
  constructor
  · intro h
    generalize hn : as ++ [a] = bs at h
    cases h with
    | init => simp at hn
    | snoc hr hc hs =>
        obtain ⟨rfl, hab⟩ := List.append_inj' hn rfl
        obtain rfl : a = _ := by simpa using hab
        exact ⟨_, hr, hc, hs⟩
  · rintro ⟨s, hr, hc, hs⟩
    exact .snoc hr hc hs

/-- Steps are functional, so a list of actions leads to at most one state. -/
theorem Reaches.unique (h : M.Reaches as s) (h' : M.Reaches as t) : s = t := by
  unfold Reaches at h h'
  induction h generalizing t with
  | init => exact (run_nil_iff.mp h').symm
  | snoc _ _ hs ih =>
      obtain ⟨u, hu, -, hut⟩ := run_snoc_iff.mp h'
      obtain rfl := ih hu
      rw [hs] at hut
      exact Option.some.inj hut

/-- **Invariants.** What holds initially and is kept by every step that meets `C` holds at the
end of every run whose steps all meet `C`. -/
theorem Run.invariant (h : M.Run C as s) (hinit : I M.init)
    (hstep : ∀ s a t, I s → C s a → M.step s a = some t → I t) : I s := by
  induction h with
  | init => exact hinit
  | snoc _ hc hs ih => exact hstep _ _ _ ih hc hs

/-- Where every step takes something of a measure, no run is longer than the measure. -/
theorem Run.length_le {work : σ → ℕ} (hwork : ∀ s a t, M.step s a = some t → work t < work s)
    (h : M.Run C as s) : as.length + work s ≤ work M.init := by
  induction h with
  | init => simp
  | snoc hr hc hs ih =>
      have hless := hwork _ _ _ hs
      rw [List.length_append, List.length_singleton]
      omega

/-! ## Replay -/

theorem exec_append (bs : List α) :
    M.exec s (as ++ bs) = (M.exec s as).bind fun t => M.exec t bs := by
  induction as generalizing s with
  | nil => rfl
  | cons a as ih =>
      simp only [List.cons_append, exec]
      cases M.step s a with
      | none => rfl
      | some t => exact ih

/-- What the actions of a list keep is kept by their replay from any state. -/
theorem exec_invariant (h : M.exec s as = some t) (hs : I s)
    (hstep : ∀ a ∈ as, ∀ s t, I s → M.step s a = some t → I t) : I t := by
  induction as generalizing s with
  | nil =>
      obtain rfl := Option.some.inj h
      exact hs
  | cons a as ih =>
      obtain ⟨u, hu, hut⟩ := Option.bind_eq_some_iff.mp h
      exact ih hut (hstep a List.mem_cons_self s u hs hu) fun b hb =>
        hstep b (List.mem_cons_of_mem a hb)

/-- A run goes on with a list of actions that meet the condition in any state. -/
theorem Run.append {bs : List α} (h : M.Run C bs s) (hexec : M.exec s as = some t)
    (hc : ∀ a ∈ as, ∀ u, C u a) : M.Run C (bs ++ as) t := by
  induction as generalizing bs s with
  | nil =>
      obtain rfl := Option.some.inj hexec
      rwa [List.append_nil]
  | cons a as ih =>
      obtain ⟨u, hu, hut⟩ := Option.bind_eq_some_iff.mp hexec
      have hsnoc := h.snoc (hc a List.mem_cons_self s) hu
      have hrest := ih hsnoc hut fun b hb => hc b (List.mem_cons_of_mem a hb)
      rwa [List.append_assoc] at hrest

/-- A replay is a run. -/
theorem reaches_of_exec (h : M.exec M.init as = some s) : M.Reaches as s := by
  induction as using List.reverseRecOn generalizing s with
  | nil =>
      obtain rfl : M.init = s := Option.some.inj h
      exact .init
  | append_singleton as a ih =>
      rw [exec_append, Option.bind_eq_some_iff] at h
      obtain ⟨t, ht, hts⟩ := h
      refine .snoc (ih ht) trivial ?_
      simpa [exec] using hts

/-- Where every action of a kind takes something of a measure, performing them ends. -/
theorem exists_standing {A : α → Prop} {work : σ → ℕ}
    (hwork : ∀ s a t, A a → M.step s a = some t → work t < work s) (s : σ) :
    ∃ as t, (∀ a ∈ as, A a) ∧ M.exec s as = some t ∧ ∀ a, A a → M.step t a = none := by
  induction hn : work s using Nat.strong_induction_on generalizing s with
  | _ n ih =>
      by_cases hstands : ∀ a, A a → M.step s a = none
      · exact ⟨[], s, by simp, rfl, hstands⟩
      · obtain ⟨a, hmoves⟩ := not_forall.mp hstands
        obtain ⟨ha, hmoves⟩ := Classical.not_imp.mp hmoves
        obtain ⟨t, ht⟩ := Option.ne_none_iff_exists'.mp hmoves
        obtain ⟨as, u, has, hexec, hu⟩ := ih (work t) (hn ▸ hwork s a t ha ht) t rfl
        refine ⟨a :: as, u, ?_, ?_, hu⟩
        · rw [List.forall_mem_cons]
          exact ⟨ha, has⟩
        · rw [exec, ht]
          exact hexec

/-- All actions of a list are enabled from a state, one after the other, by steps that meet a
decidable condition. -/
def checks (C : σ → α → Prop) [∀ s a, Decidable (C s a)] : σ → List α → Bool
  | _, [] => true
  | s, a :: as => decide (C s a) && match M.step s a with
      | none => false
      | some t => checks C t as

/-- A run goes on with a list of actions that passes the check. -/
theorem Run.extend [∀ s a, Decidable (C s a)] {bs : List α} (h : M.Run C bs s)
    (hc : M.checks C s as = true) : ∃ t, M.Run C (bs ++ as) t := by
  induction as generalizing bs s with
  | nil => exact ⟨s, by rwa [List.append_nil]⟩
  | cons a as ih =>
      rw [checks, Bool.and_eq_true, decide_eq_true_eq] at hc
      obtain ⟨hca, hrest⟩ := hc
      rcases hs : M.step s a with _ | t
      · rw [hs] at hrest
        simp at hrest
      · rw [hs] at hrest
        obtain ⟨u, hu⟩ := ih (h.snoc hca hs) hrest
        exact ⟨u, by rwa [List.append_assoc] at hu⟩

/-- A list of actions that passes the check from the initial state is a run. -/
theorem exists_run_of_checks [∀ s a, Decidable (C s a)] (h : M.checks C M.init as = true) :
    ∃ s, M.Run C as s :=
  Run.extend .init h

/-! ## Steps with their past -/

/-- Every step taken while performing `as` satisfies `P`, a condition on the actions before it, the
state it is taken in, the action and the state it leads to. -/
def EachStep (M : Machine σ α) (P : List α → σ → α → σ → Prop) (as : List α) : Prop :=
  ∀ past s a t, past ++ [a] <+: as → M.Reaches past s → M.step s a = some t → P past s a t

theorem Run.exists_of_prefix {bs : List α} (h : M.Run C as s) (hb : bs <+: as) :
    ∃ t, M.Run C bs t := by
  induction h with
  | init =>
      obtain rfl := List.prefix_nil.mp hb
      exact ⟨_, .init⟩
  | snoc hr hc hs ih =>
      rcases List.prefix_concat_iff.mp hb with rfl | hb'
      · exact ⟨_, .snoc hr hc hs⟩
      · exact ih hb'

theorem eachStep_nil {P : List α → σ → α → σ → Prop} : M.EachStep P [] := by
  intro past s a t hb
  simp at hb

/-- One step more. -/
theorem EachStep.snoc {P : List α → σ → α → σ → Prop} (h : M.EachStep P as)
    (hP : ∀ s t, M.Reaches as s → M.step s a = some t → P as s a t) : M.EachStep P (as ++ [a]) := by
  intro past s a' t hb hr hs
  rcases List.prefix_concat_iff.mp hb with heq | hb'
  · obtain ⟨rfl, ha⟩ := List.append_inj' heq rfl
    obtain rfl := List.singleton_inj.mp ha
    exact hP s t hr hs
  · exact h past s a' t hb' hr hs

/-- Conditions that agree on the steps of the runs under `C` hold of the same runs. -/
theorem Run.eachStep_iff {P Q : List α → σ → α → σ → Prop} (h : M.Run C as s)
    (hPQ : ∀ past s a t, M.Run C past s → C s a → M.step s a = some t →
      (P past s a t ↔ Q past s a t)) : M.EachStep P as ↔ M.EachStep Q as := by
  refine forall_congr' fun past => forall_congr' fun s => forall_congr' fun a =>
    forall_congr' fun t => ?_
  refine forall_congr' fun hb => forall_congr' fun hr => forall_congr' fun hs => ?_
  obtain ⟨u, hu⟩ := h.exists_of_prefix hb
  obtain ⟨s', hr', hc, hs'⟩ := run_snoc_iff.mp hu
  obtain rfl := hr.unique hr'.reaches
  exact hPQ past s a t hr' hc hs

end Machine

/-! ## What is put and taken -/

section followed

variable {α : Type*} {P Q : α → Prop} {as : List α} {a : α}

/-- After every action with property `P` there was one with property `Q`. -/
def Followed (P Q : α → Prop) (as : List α) : Prop :=
  ∀ before after x, as = before ++ x :: after → P x → ∃ y ∈ after, Q y

theorem followed_nil : Followed P Q [] := by
  intro before after x h
  simp at h

/-- One action more. -/
theorem followed_snoc : Followed P Q (as ++ [a]) ↔ ¬ P a ∧ (Q a ∨ Followed P Q as) := by
  constructor
  · intro h
    refine ⟨fun hP => ?_, ?_⟩
    · obtain ⟨y, hy, -⟩ := h as [] a rfl hP
      cases hy
    · by_cases hQ : Q a
      · exact .inl hQ
      · refine .inr ?_
        rintro before after x rfl hP
        obtain ⟨y, hy, hQy⟩ := h before (after ++ [a]) x (by simp) hP
        rcases List.mem_append.mp hy with hy | hy
        · exact ⟨y, hy, hQy⟩
        · obtain rfl := List.mem_singleton.mp hy
          exact absurd hQy hQ
  · rintro ⟨hnot, h⟩ before after x heq hP
    rcases List.eq_nil_or_concat after with rfl | ⟨after, y, rfl⟩
    · obtain ⟨-, hax⟩ := List.append_inj' heq rfl
      obtain rfl := List.singleton_inj.mp hax
      exact absurd hP hnot
    · rw [List.concat_eq_append] at heq ⊢
      rw [← List.cons_append, ← List.append_assoc] at heq
      obtain ⟨rfl, hay⟩ := List.append_inj' heq rfl
      obtain rfl := List.singleton_inj.mp hay
      rcases h with hQ | h
      · exact ⟨a, by simp, hQ⟩
      · obtain ⟨z, hz, hQz⟩ := h before after x rfl hP
        exact ⟨z, List.mem_append_left _ hz, hQz⟩

/-- Only what is said of the actions performed matters. -/
theorem followed_congr {P' Q' : α → Prop}
    (hPQ : ∀ x ∈ as, (P x ↔ P' x) ∧ (Q x ↔ Q' x)) : Followed P Q as ↔ Followed P' Q' as := by
  refine forall_congr' fun before => forall_congr' fun after => forall_congr' fun x =>
    forall_congr' fun heq => ?_
  subst heq
  refine imp_congr (hPQ x (by simp)).1 (exists_congr fun y => and_congr_right fun hy => ?_)
  exact (hPQ y (by simp [hy])).2

end followed

namespace Machine

variable {σ α : Type*} {M : Machine σ α} {C D : σ → α → Prop} {P H I : σ → Prop} {as : List α}
  {s t : σ} {a : α}

/-- **Put and taken.** Where a thing is gone after a step exactly if the step does not put it, and
takes it or finds it gone, it is gone after a run exactly if each time it was put it was taken
later. -/
theorem gone_iff_followed {puts takes : σ → α → Prop} {gone : σ → Prop} (h0 : gone M.init)
    (hkeep : ∀ past s a t, M.Reaches past s → M.step s a = some t → ∀ b ∈ past,
      (puts t b ↔ puts s b) ∧ (takes t b ↔ takes s b))
    (hstep : ∀ s a t, M.step s a = some t → (gone t ↔ ¬ puts t a ∧ (takes t a ∨ gone s)))
    (h : M.Reaches as s) : gone s ↔ Followed (puts s) (takes s) as := by
  unfold Reaches at h
  induction h with
  | init => exact iff_of_true h0 followed_nil
  | snoc hr _ hs ih =>
      rw [hstep _ _ _ hs, followed_snoc, ih, followed_congr (hkeep _ _ _ _ hr hs)]

/-! ## Exactly the safe runs -/

theorem always_nil_iff : M.Always P [] ↔ P M.init := by
  constructor
  · intro h
    exact h [] M.init List.prefix_rfl .init
  · intro h bs t hb ht
    obtain rfl := List.prefix_nil.mp hb
    rw [run_nil_iff.mp ht]
    exact h

theorem always_snoc_iff (h : M.Reaches (as ++ [a]) t) :
    M.Always P (as ++ [a]) ↔ M.Always P as ∧ P t := by
  constructor
  · intro hP
    exact ⟨fun bs u hb hu => hP bs u (hb.trans (List.prefix_append _ _)) hu,
      hP _ t List.prefix_rfl h⟩
  · rintro ⟨hP, ht⟩ bs u hb hu
    rcases List.prefix_concat_iff.mp hb with rfl | hb'
    · rwa [hu.unique h]
    · exact hP bs u hb' hu

theorem Always.last (h : M.Always P as) (hr : M.Reaches as s) : P s :=
  h as s List.prefix_rfl hr

/-- What holds at the end of every run under `C` holds throughout every run under `C`. -/
theorem Run.always (h : M.Run C as s) (hP : ∀ bs t, M.Run C bs t → P t) : M.Always P as := by
  induction h with
  | init => exact always_nil_iff.mpr (hP _ _ .init)
  | snoc hr hc hs ih =>
      have hrun := Run.snoc hr hc hs
      exact (always_snoc_iff hrun.reaches).mpr ⟨ih, hP _ _ hrun⟩

/-- **A run is safe exactly when its steps are.** Suppose that, from a state that is good and
satisfies the invariant `I` of the runs under `C`, a step leads to a good state iff it meets
`C`. Then all states passed by a run are good iff all its steps meet `C`. `H` is a side
condition assumed of all states of the run. -/
theorem always_iff_run (hI : ∀ as s, M.Run C as s → I s) (h0 : P M.init)
    (hstep : ∀ s a t, H s → H t → I s → P s → M.step s a = some t → (P t ↔ C s a))
    (h : M.Reaches as s) (hH : M.Always H as) : M.Always P as ↔ M.Run C as s := by
  unfold Reaches at h
  induction h with
  | init => exact iff_of_true (always_nil_iff.mpr h0) .init
  | @snoc as s t a hr hc hs ih =>
      have hreach : M.Reaches (as ++ [a]) t := .snoc hr trivial hs
      obtain ⟨hHas, hHt⟩ := (always_snoc_iff hreach).mp hH
      rw [always_snoc_iff hreach, ih hHas, run_snoc_iff]
      constructor
      · rintro ⟨hrun, hPt⟩
        have hPs : P s := ((ih hHas).mpr hrun).last hr
        exact ⟨s, hrun, (hstep s a t (hHas.last hr) hHt (hI _ _ hrun) hPs hs).mp hPt, hs⟩
      · rintro ⟨s', hrun, hca, hs'⟩
        obtain rfl : s' = s := hrun.reaches.unique hr
        have hPs : P s' := ((ih hHas).mpr hrun).last hr
        exact ⟨hrun, (hstep s' a t (hHas.last hr) hHt (hI _ _ hrun) hPs hs).mpr hca⟩

/-- **A run is safe exactly when its steps are**, for a condition on a step and its past. -/
theorem always_iff_eachStep {C : List α → σ → α → σ → Prop} (h0 : P M.init)
    (hstep : ∀ past s a t, M.Reaches past s → P s → M.step s a = some t → (P t ↔ C past s a t))
    (h : M.Reaches as s) : M.Always P as ↔ M.EachStep C as := by
  unfold Reaches at h
  induction h with
  | init => exact iff_of_true (always_nil_iff.mpr h0) eachStep_nil
  | @snoc as s t a hr _ hs ih =>
      have hreach : M.Reaches (as ++ [a]) t := .snoc hr trivial hs
      rw [always_snoc_iff hreach, ih]
      constructor
      · rintro ⟨hsafe, ht⟩
        refine hsafe.snoc fun s' t' hr' hs' => ?_
        obtain rfl := Reaches.unique hr hr'
        obtain rfl := Option.some.inj (hs.symm.trans hs')
        exact (hstep as s a t hr ((ih.mpr hsafe).last hr) hs).mp ht
      · intro hsafe
        have hbefore : M.EachStep C as := fun past s a t hb =>
          hsafe past s a t (hb.trans (List.prefix_append _ _))
        refine ⟨hbefore, (hstep as s a t hr ((ih.mpr hbefore).last hr) hs).mpr ?_⟩
        exact hsafe as s a t List.prefix_rfl hr hs

end Machine

/-! ## Simulation -/

/-- A machine mirrors a step of another one: it stays where it is, or takes the given step. -/
def Machine.Mirrors {τ β : Type*} (N : Machine τ β) (b : Option β) (u v : τ) : Prop :=
  (b = none ∧ v = u) ∨ ∃ c, b = some c ∧ N.step u c = some v

/-- A machine read through an abstraction map: each concrete step is invisible, or is one step
of the abstract machine. `inv` is what is known of the concrete states. -/
structure Simulation {σ α τ β : Type*} (M : Machine σ α) (N : Machine τ β) where
  /-- The abstract state a concrete state stands for. -/
  abs : σ → τ
  /-- The abstract action a concrete step performs, if it is visible. -/
  act : σ → α → Option β
  /-- An invariant of the concrete machine. -/
  inv : σ → Prop
  inv_init : inv M.init
  inv_step : ∀ {s a t}, inv s → M.step s a = some t → inv t
  /-- The initial states correspond. -/
  abs_init : abs M.init = N.init
  /-- The abstract machine mirrors every step. -/
  mirrors : ∀ {s a t}, inv s → M.step s a = some t → N.Mirrors (act s a) (abs s) (abs t)

namespace Simulation

variable {σ α τ β : Type*} {M : Machine σ α} {N : Machine τ β} (R : Simulation M N)
  {C : σ → α → Prop} {D : τ → β → Prop} {I Q : τ → Prop} {as : List α} {s : σ}

theorem inv_of_run (h : M.Run C as s) : R.inv s :=
  h.invariant R.inv_init fun _ _ _ hi _ hs => R.inv_step hi hs

/-- A concrete run performs an abstract run, whose steps inherit the step condition. -/
theorem run (hCD : ∀ s a b, R.inv s → C s a → R.act s a = some b → D (R.abs s) b)
    (h : M.Run C as s) :
    ∃ bs, N.Run D bs (R.abs s) := by
  induction h with
  | init => exact ⟨[], by rw [R.abs_init]; exact .init⟩
  | snoc hr hc hs ih =>
      obtain ⟨bs, hbs⟩ := ih
      rcases R.mirrors (R.inv_of_run hr) hs with ⟨-, ht⟩ | ⟨b, hact, hstep⟩
      · exact ⟨bs, by rwa [ht]⟩
      · exact ⟨bs ++ [b], .snoc hbs (hCD _ _ _ (R.inv_of_run hr) hc hact) hstep⟩

/-- **Safe runs through a simulation.** If the abstract machine stays good exactly by the steps
that meet `D`, the concrete machine stays good exactly by the steps whose visible part does. `I`
is an invariant of the abstract runs under `D`. -/
theorem always_iff_run (hI : ∀ bs t, N.Run D bs t → I t) (h0 : Q N.init)
    (hstep : ∀ s b t, I s → Q s → N.step s b = some t → (Q t ↔ D s b)) (h : M.Reaches as s) :
    M.Always (fun s => Q (R.abs s)) as ↔
      M.Run (fun s a => ∀ b, R.act s a = some b → D (R.abs s) b) as s := by
  refine Machine.always_iff_run (I := fun s => I (R.abs s) ∧ R.inv s) (H := fun _ => True) ?_
    (by rwa [R.abs_init]) ?_ h (fun _ _ _ _ => trivial)
  · intro as s hrun
    obtain ⟨bs, hbs⟩ := R.run (D := D) (fun s a b _ hc hb => hc b hb) hrun
    exact ⟨hI bs _ hbs, R.inv_of_run hrun⟩
  · rintro s a t - - ⟨hIs, hi⟩ hQ hs
    rcases R.mirrors hi hs with ⟨hact, ht⟩ | ⟨b, hact, hb⟩
    · simp [hact, ht, hQ]
    · simpa [hact] using hstep _ _ _ hIs hQ hb

end Simulation

end AdbHub.Lib
