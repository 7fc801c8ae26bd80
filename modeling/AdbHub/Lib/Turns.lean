import AdbHub.Lib.Machine
import Mathlib.Data.List.Basic
import Mathlib.Logic.Function.Basic

/-!
# Taking turns

Jobs that come in lanes, each linked to the job that came before it in its lane: it begins when
that one is over, however it ended.

* `Turns` — the jobs with their lanes and predecessors, and the order in which they began.
* `Turns.InTurn`, `Turns.StartsInOrder` — in a lane a job begins after all earlier ones are over,
  and so in the order in which they came.
* **`inv_of_run`** — this holds in every run.
* **`exists_running_or_ready`** — a job that waits has a job at or before it in its lane that runs,
  or waits and may begin.
-/

namespace AdbHub.Lib

/-- Where a job stands. -/
inductive Turn
  | waiting
  | running
  | over
  deriving DecidableEq

/-- Jobs are numbered as they come. -/
structure Turns (ι : Type*) where
  /-- The lanes of the jobs that have come. -/
  lanes : List ι := []
  /-- The job that came before in the same lane. -/
  before : ℕ → Option ℕ := fun _ => none
  /-- The last job of a lane. -/
  last : ι → Option ℕ := fun _ => none
  turn : ℕ → Turn := fun _ => .waiting
  /-- The jobs that have begun, in order. -/
  started : List ℕ := []

/-- What happens next. -/
inductive TurnAction (ι : Type*)
  | enter (l : ι)
  | start (k : ℕ)
  | finish (k : ℕ)

namespace Turns

section laws

variable {ι : Type*}

/-- The predecessor of a job is over, or it has none. -/
def Ready (s : Turns ι) (k : ℕ) : Prop := ∀ j ∈ s.before k, s.turn j = .over

instance (s : Turns ι) (k : ℕ) : Decidable (s.Ready k) :=
  inferInstanceAs (Decidable (∀ j ∈ s.before k, s.turn j = .over))

/-- Two jobs of the same lane. -/
def SameLane (s : Turns ι) (j k : ℕ) : Prop := ∃ l, s.lanes[j]? = some l ∧ s.lanes[k]? = some l

/-- In a lane a job begins after all earlier ones are over. -/
def InTurn (s : Turns ι) : Prop :=
  ∀ j k, j < k → s.SameLane j k → s.turn k ≠ .waiting → s.turn j = .over

/-- The jobs of a lane have begun in the order in which they came. -/
def StartsInOrder (s : Turns ι) : Prop := s.started.Pairwise fun j k => s.SameLane j k → j < k

/-- Every job is linked to the one before it in its lane. -/
structure Chained (s : Turns ι) : Prop where
  last_lane : ∀ l k, s.last l = some k → s.lanes[k]? = some l
  last_le : ∀ l j, s.lanes[j]? = some l → ∃ k, s.last l = some k ∧ j ≤ k
  before_lane : ∀ k j, s.before k = some j → j < k ∧ s.SameLane j k
  before_le : ∀ j k, j < k → s.SameLane j k → ∃ i, s.before k = some i ∧ j ≤ i

/-- The jobs that have begun are those that do not wait, and all have come. -/
structure Begun (s : Turns ι) : Prop where
  came : ∀ k, s.turn k ≠ .waiting → k < s.lanes.length
  started_iff : ∀ k, k ∈ s.started ↔ s.turn k ≠ .waiting

variable {s : Turns ι} {i j k : ℕ}

theorem SameLane.trans (hij : s.SameLane i j) (hjk : s.SameLane j k) : s.SameLane i k := by
  obtain ⟨l, hi, hj⟩ := hij
  obtain ⟨l', hj', hk⟩ := hjk
  obtain rfl : l = l' := Option.some.inj (hj.symm.trans hj')
  exact ⟨l, hi, hk⟩

theorem SameLane.symm (h : s.SameLane j k) : s.SameLane k j := by
  obtain ⟨l, hj, hk⟩ := h
  exact ⟨l, hk, hj⟩

/-- A job whose predecessor is over comes after all jobs before it. -/
theorem over_of_ready (hc : s.Chained) (ht : s.InTurn) (hk : s.Ready k) (hjk : j < k)
    (hlane : s.SameLane j k) : s.turn j = .over := by
  obtain ⟨i, hi, hji⟩ := hc.before_le j k hjk hlane
  have hover := hk i hi
  rcases hji.lt_or_eq with hlt | rfl
  · have hij : s.SameLane j i := hlane.trans (hc.before_lane k i hi).2.symm
    exact ht j i hlt hij (by rw [hover]; decide)
  · exact hover

/-- **A job that waits** has a job at or before it in its lane that runs, or waits and may begin. -/
theorem exists_running_or_ready (hc : s.Chained) (hk : s.turn k = .waiting) :
    ∃ j, (j = k ∨ j < k ∧ s.SameLane j k) ∧
      (s.turn j = .running ∨ s.turn j = .waiting ∧ s.Ready j) := by
  induction k using Nat.strong_induction_on with
  | _ k ih =>
      rcases hbefore : s.before k with _ | i
      · refine ⟨k, .inl rfl, .inr ⟨hk, ?_⟩⟩
        intro j hj
        rw [hbefore] at hj
        cases hj
      · obtain ⟨hik, hlane⟩ := hc.before_lane k i hbefore
        rcases hi : s.turn i with _ | _ | _
        · -- the predecessor waits itself
          obtain ⟨j, hj, hturn⟩ := ih i hik hi
          refine ⟨j, .inr ?_, hturn⟩
          rcases hj with rfl | ⟨hji, hjlane⟩
          · exact ⟨hik, hlane⟩
          · exact ⟨hji.trans hik, hjlane.trans hlane⟩
        · exact ⟨i, .inr ⟨hik, hlane⟩, .inl hi⟩
        · refine ⟨k, .inl rfl, .inr ⟨hk, ?_⟩⟩
          intro j hj
          rw [hbefore] at hj
          obtain rfl := Option.some.inj hj
          exact hi

/-- What is known of the jobs. -/
structure Inv (s : Turns ι) : Prop where
  chained : s.Chained
  begun : s.Begun
  inTurn : s.InTurn
  inOrder : s.StartsInOrder

/-- A job that may begin does so after all jobs of its lane that have begun. -/
theorem Inv.start (h : s.Inv) (hk : k < s.lanes.length) (hwaits : s.turn k = .waiting)
    (hready : s.Ready k) :
    Inv { s with turn := Function.update s.turn k .running, started := s.started ++ [k] } := by
  refine ⟨⟨h.chained.last_lane, h.chained.last_le, h.chained.before_lane, h.chained.before_le⟩,
    ⟨fun j hj => ?_, fun j => ?_⟩, ?_, ?_⟩
  · by_cases hjk : j = k
    · rwa [hjk]
    · exact h.begun.came j (by simpa [hjk] using hj)
  · by_cases hjk : j = k
    · simp [hjk]
    · simp [hjk, h.begun.started_iff]
  · intro i j hij hsame hj
    have hi : s.turn i = .over := by
      by_cases hjk : j = k
      · subst hjk
        exact over_of_ready h.chained h.inTurn hready hij hsame
      · exact h.inTurn i j hij hsame (by simpa [hjk] using hj)
    have hne : i ≠ k := by
      rintro rfl
      rw [hwaits] at hi
      cases hi
    simpa [hne] using hi
  · refine List.pairwise_append.mpr ⟨h.inOrder, List.pairwise_singleton .., ?_⟩
    intro j hj i hi hsame
    obtain rfl := List.mem_singleton.mp hi
    have hj' := (h.begun.started_iff j).mp hj
    by_contra hle
    rcases (Nat.le_of_not_lt hle).lt_or_eq with hlt | rfl
    · have hover := h.inTurn i j hlt (SameLane.symm hsame) hj'
      rw [hwaits] at hover
      cases hover
    · exact hj' hwaits

theorem Inv.finish (h : s.Inv) (hk : s.turn k = .running) :
    Inv { s with turn := Function.update s.turn k .over } := by
  have hwaits : ∀ j, Function.update s.turn k .over j ≠ .waiting ↔ s.turn j ≠ .waiting := by
    intro j
    by_cases hjk : j = k
    · simp [hjk, hk]
    · simp [hjk]
  refine ⟨⟨h.chained.last_lane, h.chained.last_le, h.chained.before_lane, h.chained.before_le⟩,
    ⟨fun j hj => h.begun.came j ((hwaits j).mp hj), fun j => ?_⟩, ?_, h.inOrder⟩
  · rw [hwaits, h.begun.started_iff]
  · intro i j hij hsame hj
    have hi := h.inTurn i j hij hsame ((hwaits j).mp hj)
    by_cases hik : i = k
    · simp [hik]
    · simpa [hik] using hi

end laws

/-! ## Runs -/

variable {ι : Type*} [DecidableEq ι]

/-- A new job. -/
def enter (s : Turns ι) (l : ι) : Turns ι :=
  { s with
    lanes := s.lanes ++ [l]
    before := Function.update s.before s.lanes.length (s.last l)
    last := Function.update s.last l (some s.lanes.length) }

/-- One step. -/
def step (s : Turns ι) : TurnAction ι → Option (Turns ι)
  | .enter l => some (s.enter l)
  | .start k =>
      if k < s.lanes.length ∧ s.turn k = .waiting ∧ s.Ready k then
        some { s with
          turn := Function.update s.turn k .running
          started := s.started ++ [k] }
      else none
  | .finish k =>
      if s.turn k = .running then some { s with turn := Function.update s.turn k .over } else none

/-- Jobs taking turns, as a machine. -/
def machine (ι : Type*) [DecidableEq ι] : Machine (Turns ι) (TurnAction ι) := ⟨{}, step⟩

theorem machine_step (s : Turns ι) (a : TurnAction ι) : (machine ι).step s a = s.step a := rfl

variable {s t : Turns ι} {a : TurnAction ι} {j k : ℕ} {l : ι}

theorem lanes_enter (s : Turns ι) (l l' : ι) (k : ℕ) :
    (s.enter l).lanes[k]? = some l' ↔
      s.lanes[k]? = some l' ∨ k = s.lanes.length ∧ l' = l := by
  rcases Nat.lt_trichotomy k s.lanes.length with hlt | rfl | hgt
  · simp [enter, List.getElem?_append_left hlt, hlt.ne]
  · simp [enter, eq_comm]
  · simp [enter, List.getElem?_eq_none hgt.le, hgt.ne', List.getElem?_append_right hgt.le,
      Nat.sub_ne_zero_of_lt hgt]

theorem Chained.enter (h : s.Chained) (l : ι) : (s.enter l).Chained := by
  have hkeep : ∀ {j k}, s.SameLane j k → (s.enter l).SameLane j k := by
    rintro j k ⟨l', hj, hk⟩
    exact ⟨l', (lanes_enter ..).mpr (.inl hj), (lanes_enter ..).mpr (.inl hk)⟩
  have hnew : ∀ {j k}, j < k → (s.enter l).SameLane j k →
      s.SameLane j k ∨ k = s.lanes.length ∧ s.lanes[j]? = some l := by
    rintro j k hjk ⟨l', hj, hk⟩
    rw [lanes_enter] at hj hk
    rcases hk with hk | ⟨rfl, rfl⟩
    · have hlt := (List.getElem?_eq_some_iff.mp hk).1
      rcases hj with hj | ⟨rfl, -⟩
      · exact .inl ⟨l', hj, hk⟩
      · omega
    · rcases hj with hj | ⟨rfl, -⟩
      · exact .inr ⟨rfl, hj⟩
      · omega
  constructor
  · intro l' k hk
    by_cases hl : l' = l
    · subst hl
      have : s.lanes.length = k := by simpa [Turns.enter] using hk
      exact (lanes_enter ..).mpr (.inr ⟨this.symm, rfl⟩)
    · have hk' : s.last l' = some k := by simpa [Turns.enter, hl] using hk
      exact (lanes_enter ..).mpr (.inl (h.last_lane l' k hk'))
  · intro l' j hj
    by_cases hl : l' = l
    · subst hl
      refine ⟨s.lanes.length, Function.update_self .., ?_⟩
      rcases (lanes_enter ..).mp hj with hj | ⟨rfl, -⟩
      · exact (List.getElem?_eq_some_iff.mp hj).1.le
      · exact le_rfl
    · have hj' : s.lanes[j]? = some l' := by simpa [hl] using (lanes_enter ..).mp hj
      obtain ⟨k, hk, hjk⟩ := h.last_le l' j hj'
      exact ⟨k, by simpa [Turns.enter, hl] using hk, hjk⟩
  · intro k j hj
    by_cases hk : k = s.lanes.length
    · subst hk
      have hlast : s.last l = some j := by simpa [Turns.enter] using hj
      have hlane := h.last_lane l j hlast
      refine ⟨(List.getElem?_eq_some_iff.mp hlane).1, l, ?_, ?_⟩
      · exact (lanes_enter ..).mpr (.inl hlane)
      · exact (lanes_enter ..).mpr (.inr ⟨rfl, rfl⟩)
    · have hbefore : s.before k = some j := by simpa [Turns.enter, hk] using hj
      obtain ⟨hjk, hlane⟩ := h.before_lane k j hbefore
      exact ⟨hjk, hkeep hlane⟩
  · intro j k hjk hlane
    rcases hnew hjk hlane with hold | ⟨rfl, hj⟩
    · obtain ⟨i, hi, hji⟩ := h.before_le j k hjk hold
      have hlt : k < s.lanes.length := by
        obtain ⟨l', -, hk⟩ := hold
        exact (List.getElem?_eq_some_iff.mp hk).1
      exact ⟨i, by simpa [Turns.enter, hlt.ne] using hi, hji⟩
    · obtain ⟨i, hi, hji⟩ := h.last_le l j hj
      exact ⟨i, by simpa [Turns.enter] using hi, hji⟩

theorem Inv.enter (h : s.Inv) (l : ι) : (s.enter l).Inv := by
  have hlane : ∀ {j k}, k < s.lanes.length → (s.enter l).SameLane j k → j < s.lanes.length →
      s.SameLane j k := by
    rintro j k hk ⟨l', hj', hk'⟩ hj
    rw [lanes_enter] at hj' hk'
    have hjl : s.lanes[j]? = some l' := by simpa [hj.ne] using hj'
    have hkl : s.lanes[k]? = some l' := by simpa [hk.ne] using hk'
    exact ⟨l', hjl, hkl⟩
  refine ⟨h.chained.enter l, ⟨fun k hk => ?_, h.begun.started_iff⟩, ?_, ?_⟩
  · have := h.begun.came k hk
    simp only [Turns.enter, List.length_append, List.length_singleton]
    omega
  · intro j k hjk hsame hk
    have hlt := h.begun.came k hk
    exact h.inTurn j k hjk (hlane hlt hsame (hjk.trans hlt)) hk
  · have hmem : ∀ k ∈ s.started, k < s.lanes.length :=
      fun k hk => h.begun.came k ((h.begun.started_iff k).mp hk)
    refine h.inOrder.imp_of_mem fun hj hk hlt hsame => hlt ?_
    exact hlane (hmem _ hk) hsame (hmem _ hj)

theorem inv_step (h : s.Inv) (hs : s.step a = some t) : t.Inv := by
  cases a with
  | enter l =>
      obtain rfl := Option.some.inj hs
      exact h.enter l
  | start k =>
      simp only [step] at hs
      split_ifs at hs with hk
      obtain rfl := Option.some.inj hs
      exact h.start hk.1 hk.2.1 hk.2.2
  | finish k =>
      simp only [step] at hs
      split_ifs at hs with hk
      obtain rfl := Option.some.inj hs
      exact h.finish hk

theorem inv_init : (machine ι).init.Inv := by
  refine ⟨⟨?_, ?_, ?_, ?_⟩, ⟨?_, ?_⟩, ?_, List.Pairwise.nil⟩
  all_goals simp [machine, SameLane, InTurn]

/-- **Whatever happens, jobs take turns.** -/
theorem inv_of_run {C : Turns ι → TurnAction ι → Prop} {as : List (TurnAction ι)}
    (h : (machine ι).Run C as s) : s.Inv :=
  h.invariant inv_init fun _ _ _ hi _ hs => inv_step hi hs

end Turns

end AdbHub.Lib
