import AdbHub.Lib.Machine

/-!
# Caches of a cell that is replaced

A reader keeps a value of a shared cell, together with the stamp of the cell, and reads the cell
again when the stamp has changed. It reads the cell in several accesses, and a writer replaces the
cell in between; every replacement has a stamp of its own.

* `Reads` — programs that access the cell; `Reads.eval` runs one on a cell that does not change.
* `Reloader` — how the cache is built, and how its value is read again; `Reloader.refresh`.
* `Reloader.machine` — the accesses of the reader, interleaved with replacements.
* **`always_upToDate_iff`** — every refresh gives the value of the cell iff the cache was built
  current.
* **`upToDate_of_stampFirst`** — it is, if building the cache reads the stamp before the value.
-/

namespace AdbHub.Lib

/-! ## Programs -/

/-- A program that accesses a cell with contents in `F`. -/
inductive Reads (F α : Type*)
  | done (a : α)
  | read (k : F → Reads F α)

namespace Reads

variable {F α β : Type*}

/-- Run a program on a cell that does not change. -/
def eval (f : F) : Reads F α → α
  | .done a => a
  | .read k => (k f).eval f

/-- Go on with the result. -/
def bind : Reads F α → (α → Reads F β) → Reads F β
  | .done a, g => g a
  | .read k, g => .read fun f => (k f).bind g

/-- Apply a function to the result. -/
def map (g : α → β) : Reads F α → Reads F β
  | .done a => .done (g a)
  | .read k => .read fun f => (k f).map g

@[simp] theorem eval_done (f : F) (a : α) : (Reads.done a).eval f = a := rfl

@[simp] theorem eval_read (f : F) (k : F → Reads F α) : (Reads.read k).eval f = (k f).eval f := rfl

@[simp] theorem eval_bind (f : F) (p : Reads F α) (g : α → Reads F β) :
    (p.bind g).eval f = (g (p.eval f)).eval f := by
  induction p with
  | done a => rfl
  | read k ih => exact ih f

@[simp] theorem eval_map (f : F) (g : α → β) (p : Reads F α) :
    (p.map g).eval f = g (p.eval f) := by
  induction p with
  | done a => rfl
  | read k ih => exact ih f

end Reads

/-- A value, and the stamp under which it is kept. -/
structure Cached (S P : Type*) where
  stamp : S
  value : P

namespace Reads

variable {F S P : Type*} (stamp : F → S)

/-- Every outcome has the stamp `m`. -/
def Stamped (m : S) : Reads F (Cached S P) → Prop
  | .done c => c.stamp = m
  | .read k => ∀ f, (k f).Stamped m

/-- Every outcome has a stamp from `seen`, or one of a cell that was accessed. -/
def OwnStamp (seen : Set S) : Reads F (Cached S P) → Prop
  | .done c => c.stamp ∈ seen
  | .read k => ∀ f, OwnStamp (insert (stamp f) seen) (k f)

theorem stamped_map (m : S) (p : Reads F P) : (p.map (Cached.mk m)).Stamped m := by
  induction p with
  | done _ => rfl
  | read _ ih => exact fun f => ih f

theorem OwnStamp.mono {p : Reads F (Cached S P)} {seen seen' : Set S} (h : p.OwnStamp stamp seen)
    (hseen : seen ⊆ seen') : p.OwnStamp stamp seen' := by
  induction p generalizing seen seen' with
  | done c => exact hseen h
  | read k ih =>
      intro f
      exact ih f (h f) (Set.insert_subset_insert hseen)

theorem Stamped.ownStamp {p : Reads F (Cached S P)} {m : S} {seen : Set S} (h : p.Stamped m)
    (hm : m ∈ seen) : p.OwnStamp stamp seen := by
  induction p generalizing seen with
  | done c =>
      obtain rfl : c.stamp = m := h
      exact hm
  | read k ih =>
      intro f
      exact ih f (h f) (Set.mem_insert_of_mem _ hm)

end Reads

/-! ## Reloading -/

/-- A cache of a cell: how it is built, and how its value is read again. -/
structure Reloader (F S P : Type*) where
  /-- The stamp of a cell. -/
  stamp : F → S
  /-- The value of a cell, if it has one. -/
  load : F → Option P
  build : Reads F (Cached S P)
  /-- Read the value again, given the one before. -/
  reload : P → Reads F P
  eval_reload : ∀ {v f p}, load f = some p → (reload v).eval f = p

namespace Reloader

variable {F S P : Type*} [DecidableEq S] (R : Reloader F S P)

/-- Read the stamp, and the value if the stamp has changed. -/
def refresh (c : Cached S P) : Reads F (Cached S P) :=
  .read fun f =>
    if R.stamp f = c.stamp then .done c else (R.reload c.value).map (Cached.mk (R.stamp f))

/-- What the reader does. -/
inductive Phase (F S P : Type*)
  | building (p : Reads F (Cached S P))
  | idle (c : Cached S P)
  /-- `quiet`: the cell was not replaced since the refresh began. -/
  | refreshing (p : Reads F (Cached S P)) (quiet : Bool)

/-- The cell and its reader. -/
structure State (F S P : Type*) where
  cell : F
  /-- The stamps the cell has had. -/
  stamps : List S
  phase : Phase F S P
  /-- What a refresh that began after the last replacement has returned. -/
  returned : Option P

/-- What happens next. -/
inductive Event (F : Type*)
  /-- The cell is replaced. -/
  | replace (f : F)
  /-- The reader accesses the cell. -/
  | access
  /-- A refresh begins. -/
  | refresh

/-- A program that may have ended. -/
def built : Reads F (Cached S P) → Phase F S P
  | .done c => .idle c
  | .read k => .building (.read k)

/-- A refresh that may have returned. -/
def State.refreshed (s : State F S P) (quiet : Bool) : Reads F (Cached S P) → State F S P
  | .done c =>
      { s with phase := .idle c, returned := if quiet then some c.value else s.returned }
  | .read k => { s with phase := .refreshing (.read k) quiet }

/-- One step. -/
def step (s : State F S P) : Event F → Option (State F S P)
  | .replace f =>
      -- a stamp is not used again
      if R.stamp f ∈ s.stamps then none
      else
        some { s with
          cell := f
          stamps := R.stamp f :: s.stamps
          phase := match s.phase with
            | .refreshing p _ => .refreshing p false
            | phase => phase
          returned := none }
  | .access =>
      match s.phase with
      | .building (.read k) => some { s with phase := built (k s.cell) }
      | .refreshing (.read k) quiet => some (s.refreshed quiet (k s.cell))
      | _ => none
  | .refresh =>
      match s.phase with
      | .idle c => some { s with phase := .refreshing (R.refresh c) true }
      | _ => none

/-- The reader and the writer, from a first cell on. -/
def machine (f : F) : Machine (State F S P) (Event F) :=
  ⟨⟨f, [R.stamp f], built R.build, none⟩, R.step⟩

/-- The cache does not pass for the cell with a value other than its own. -/
def Current (f : F) (c : Cached S P) : Prop :=
  c.stamp = R.stamp f → ∀ p, R.load f = some p → c.value = p

/-- Refreshes give the value of the cell, where it has one. -/
structure UpToDate (s : State F S P) : Prop where
  /-- A refresh that began after the last replacement. -/
  returned : ∀ v ∈ s.returned, ∀ p, R.load s.cell = some p → v = p
  /-- A refresh that begins now, if the cell is not replaced any more. -/
  next : ∀ c, s.phase = .idle c → ∀ p, R.load s.cell = some p →
    ((R.refresh c).eval s.cell).value = p

/-- When the cache is built, it is current. -/
def BuiltCurrent (s : State F S P) (e : Event F) : Prop :=
  ∀ k c, e = .access → s.phase = .building (.read k) → k s.cell = .done c → R.Current s.cell c

/-- The cache is not built yet. -/
def Phase.isBuilding : Phase F S P → Bool
  | .building _ => true
  | _ => false

/-! ## Exactly the caches that are up to date -/

variable {R} {s t : State F S P} {e : Event F} {f : F}

theorem eval_refresh {c : Cached S P} (hc : R.Current f c) {p : P} (hp : R.load f = some p) :
    ((R.refresh c).eval f).value = p := by
  unfold refresh
  rw [Reads.eval_read]
  split_ifs with hstamp
  · exact hc hstamp.symm p hp
  · rw [Reads.eval_map]
    exact R.eval_reload hp

variable (R) in
/-- A refresh that goes on: it has accessed nothing, or it has read a stamp, and if that is still
the stamp of the cell then it will give the value of the cell. -/
def Refreshing (s : State F S P) (p : Reads F (Cached S P)) : Prop :=
  (∃ c, p = R.refresh c ∧ c.stamp ∈ s.stamps ∧ R.Current s.cell c) ∨
    ∃ m ∈ s.stamps, p.Stamped m ∧
      (m = R.stamp s.cell → ∀ q, R.load s.cell = some q → (p.eval s.cell).value = q)

variable (R) in
/-- What is known of a phase. -/
def Reading (s : State F S P) : Phase F S P → Prop
  | .building p => p.OwnStamp R.stamp {m | m ∈ s.stamps}
  | .idle c => c.stamp ∈ s.stamps ∧ R.Current s.cell c
  | .refreshing p quiet => R.Refreshing s p ∧
      (quiet = true → ∀ q, R.load s.cell = some q → (p.eval s.cell).value = q)

variable (R) in
/-- The invariant of the runs that build the cache current. -/
structure Inv (s : State F S P) : Prop where
  stamp_mem : R.stamp s.cell ∈ s.stamps
  reading : R.Reading s s.phase
  returned : ∀ v ∈ s.returned, ∀ p, R.load s.cell = some p → v = p

theorem Inv.upToDate (h : R.Inv s) : R.UpToDate s := by
  refine ⟨h.returned, fun c hc p hp => ?_⟩
  have hreading := h.reading
  rw [hc] at hreading
  exact eval_refresh hreading.2 hp

/-- A replacement leaves no stamp that passes for the new cell. -/
theorem Inv.replace (h : R.Inv s) (hs : R.step s (.replace f) = some t) : R.Inv t := by
  unfold step at hs
  dsimp only at hs
  split_ifs at hs with hfresh
  obtain rfl := Option.some.inj hs
  have hne : ∀ {m}, m ∈ s.stamps → m ≠ R.stamp f := by
    rintro m hm rfl
    exact hfresh hm
  have hreading := h.reading
  refine ⟨List.mem_cons_self, ?_, fun v hv => by cases hv⟩
  rcases hphase : s.phase with p | c | ⟨p, quiet⟩
  · rw [hphase] at hreading
    exact hreading.mono R.stamp fun m hm => List.mem_cons_of_mem _ hm
  · rw [hphase] at hreading
    exact ⟨List.mem_cons_of_mem _ hreading.1, fun heq => absurd heq (hne hreading.1)⟩
  · rw [hphase] at hreading
    refine ⟨?_, fun hquiet => by cases hquiet⟩
    rcases hreading.1 with ⟨c, hp, hc, -⟩ | ⟨m, hm, hstamped, -⟩
    · exact .inl ⟨c, hp, List.mem_cons_of_mem _ hc, fun heq => absurd heq (hne hc)⟩
    · exact .inr ⟨m, List.mem_cons_of_mem _ hm, hstamped, fun heq => absurd heq (hne hm)⟩

/-- The first access of a refresh. -/
theorem refreshing_access {k : F → Reads F (Cached S P)} (hmem : R.stamp s.cell ∈ s.stamps)
    (h : R.Refreshing s (.read k)) :
    ∃ m ∈ s.stamps, (k s.cell).Stamped m ∧
      (m = R.stamp s.cell → ∀ q, R.load s.cell = some q → ((k s.cell).eval s.cell).value = q) := by
  rcases h with ⟨c, hk, hc, hcurrent⟩ | ⟨m, hm, hstamped, hvalue⟩
  · obtain rfl := Reads.read.inj hk
    refine ⟨R.stamp s.cell, hmem, ?_, fun _ q hq => ?_⟩
    · dsimp only
      split_ifs with hstamp
      · exact hstamp.symm
      · exact Reads.stamped_map _ _
    · exact eval_refresh hcurrent hq
  · exact ⟨m, hm, hstamped s.cell, hvalue⟩

/-- The cache is built, or building it goes on. -/
theorem Inv.build (h : R.Inv s) {k : F → Reads F (Cached S P)}
    (hphase : s.phase = .building (.read k))
    (hcurrent : ∀ c, k s.cell = .done c → R.Current s.cell c) :
    R.Inv { s with phase := built (k s.cell) } := by
  refine ⟨h.stamp_mem, ?_, h.returned⟩
  have hreading := h.reading
  rw [hphase] at hreading
  have hown : (k s.cell).OwnStamp R.stamp {m | m ∈ s.stamps} :=
    (hreading s.cell).mono R.stamp (Set.insert_subset h.stamp_mem subset_rfl)
  rcases hk : k s.cell with c | k'
  · rw [hk] at hown
    exact ⟨hown, hcurrent c hk⟩
  · rw [hk] at hown
    exact hown

/-- A refresh returns, or goes on. -/
theorem Inv.refreshed (h : R.Inv s) {k : F → Reads F (Cached S P)} {quiet : Bool}
    (hphase : s.phase = .refreshing (.read k) quiet) : R.Inv (s.refreshed quiet (k s.cell)) := by
  have hreading := h.reading
  rw [hphase] at hreading
  obtain ⟨hrefreshing, hquiet⟩ := hreading
  obtain ⟨m, hm, hstamped, hvalue⟩ := refreshing_access h.stamp_mem hrefreshing
  rw [Reads.eval_read] at hquiet
  rcases hk : k s.cell with c | k'
  · rw [hk] at hstamped hvalue hquiet
    obtain rfl : c.stamp = m := hstamped
    refine ⟨h.stamp_mem, ⟨hm, hvalue⟩, fun v hv => ?_⟩
    cases quiet with
    | true =>
        obtain rfl : c.value = v := Option.some.inj hv
        exact hquiet rfl
    | false => exact h.returned v hv
  · rw [hk] at hstamped hvalue hquiet
    exact ⟨h.stamp_mem, ⟨.inr ⟨m, hm, hstamped, hvalue⟩, hquiet⟩, h.returned⟩

/-- What a step does that is no replacement. -/
theorem step_cases (hs : R.step s e = some t) (hreplace : ∀ f, e ≠ .replace f) :
    (∃ k, e = .access ∧ s.phase = .building (.read k) ∧
      t = { s with phase := built (k s.cell) }) ∨
    (∃ k quiet, e = .access ∧ s.phase = .refreshing (.read k) quiet ∧
      t = s.refreshed quiet (k s.cell)) ∨
    ∃ c, e = .refresh ∧ s.phase = .idle c ∧
      t = { s with phase := .refreshing (R.refresh c) true } := by
  cases e with
  | replace f => exact absurd rfl (hreplace f)
  | access =>
      simp only [step] at hs
      split at hs
      · rename_i k hphase
        exact .inl ⟨k, rfl, hphase, (Option.some.inj hs).symm⟩
      · rename_i k quiet hphase
        exact .inr (.inl ⟨k, quiet, rfl, hphase, (Option.some.inj hs).symm⟩)
      · cases hs
  | refresh =>
      simp only [step] at hs
      split at hs
      · rename_i c hphase
        exact .inr (.inr ⟨c, rfl, hphase, (Option.some.inj hs).symm⟩)
      · cases hs

omit [DecidableEq S] in
/-- A refresh that returns or goes on builds nothing. -/
theorem refreshed_ne_building (s : State F S P) (quiet : Bool) (p q : Reads F (Cached S P)) :
    (s.refreshed quiet p).phase ≠ .building q := by
  rcases p with c | k
  · intro h
    cases h
  · intro h
    cases h

/-- A replacement does not disturb the building. -/
theorem building_of_replace (hs : R.step s (.replace f) = some t) (p : Reads F (Cached S P)) :
    t.phase = .building p ↔ s.phase = .building p := by
  unfold step at hs
  dsimp only at hs
  split_ifs at hs
  obtain rfl := Option.some.inj hs
  rcases hphase : s.phase with q | c | ⟨q, quiet⟩
  · simp
  · simp
  · simp

theorem inv_step (h : R.Inv s) (hbuilt : R.BuiltCurrent s e) (hs : R.step s e = some t) :
    R.Inv t := by
  by_cases hreplace : ∃ f, e = .replace f
  · obtain ⟨f, rfl⟩ := hreplace
    exact h.replace hs
  · rcases step_cases hs fun f hf => hreplace ⟨f, hf⟩ with
      ⟨k, he, hphase, rfl⟩ | ⟨k, quiet, -, hphase, rfl⟩ | ⟨c, -, hphase, rfl⟩
    · exact h.build hphase fun c hc => hbuilt k c he hphase hc
    · exact h.refreshed hphase
    · have hreading := h.reading
      rw [hphase] at hreading
      refine ⟨h.stamp_mem, ⟨.inl ⟨c, rfl, hreading⟩, fun _ q hq => ?_⟩, h.returned⟩
      exact eval_refresh hreading.2 hq

/-- A cache that is built stale gives a stale refresh. -/
theorem builtCurrent_of_upToDate (hs : R.step s e = some t) (ht : R.UpToDate t) :
    R.BuiltCurrent s e := by
  rintro k c rfl hphase hk hstamp p hp
  simp only [step, hphase] at hs
  obtain rfl := Option.some.inj hs
  have hvalue := ht.next c (by rw [hk]; rfl) p hp
  unfold refresh at hvalue
  rwa [Reads.eval_read, if_pos hstamp.symm] at hvalue

theorem inv_of_run (hown : R.build.OwnStamp R.stamp ∅) {es : List (Event F)}
    (h : (R.machine f).Run R.BuiltCurrent es s) : R.Inv s := by
  refine h.invariant ⟨List.mem_singleton_self _, ?_, fun v hv => by cases hv⟩
    fun s e t hi hc hs => inv_step hi hc hs
  show R.Reading _ (built R.build)
  rcases hbuild : R.build with c | k
  · rw [hbuild] at hown
    exact absurd hown (Set.notMem_empty _)
  · rw [hbuild] at hown
    exact hown.mono R.stamp (Set.empty_subset _)

omit [DecidableEq S] in
/-- Once the cache is built, nothing more is asked for. -/
theorem builtCurrent_of_built (h : s.phase.isBuilding = false) : R.BuiltCurrent s e := by
  intro k c _ hphase
  rw [hphase] at h
  cases h

/-- **Refreshes give the value of the cell iff the cache was built current**, whenever the cell is
replaced. -/
theorem always_upToDate_iff (hown : R.build.OwnStamp R.stamp ∅) {es : List (Event F)}
    (h : (R.machine f).Reaches es s) :
    (R.machine f).Always R.UpToDate es ↔ (R.machine f).Run R.BuiltCurrent es s := by
  refine Machine.always_iff_run (H := fun _ => True) (I := R.Inv)
    (fun _ _ hrun => inv_of_run hown hrun) (inv_of_run hown .init).upToDate ?_ h
    fun _ _ _ _ => trivial
  intro s e t _ _ hi _ hs
  constructor
  · intro ht
    exact builtCurrent_of_upToDate hs ht
  · intro hbuilt
    exact (inv_step hi hbuilt hs).upToDate

/-! ## The stamp first -/

variable (R) in
/-- The stamp is read first, and then a value; accesses before do not end the program with a value
that passes for that of the cell. -/
def StampFirst : Reads F (Cached S P) → Prop
  | .done _ => False
  | .read k => ∀ f, ((k f).Stamped (R.stamp f) ∧
      ∀ p, R.load f = some p → ((k f).eval f).value = p) ∨ StampFirst (k f)

omit [DecidableEq S] in
theorem StampFirst.ownStamp {p : Reads F (Cached S P)} (h : R.StampFirst p) (seen : Set S) :
    p.OwnStamp R.stamp seen := by
  induction p generalizing seen with
  | done c => exact h.elim
  | read k ih =>
      intro f
      rcases h f with ⟨hstamped, -⟩ | hrest
      · exact hstamped.ownStamp R.stamp (Set.mem_insert _ _)
      · exact ih f hrest _

variable (R) in
/-- Building that goes on: the stamp is not read yet, or if it is still the stamp of the cell then
the cache will be current. -/
def BuildingCurrent (s : State F S P) : Prop :=
  ∀ p, s.phase = .building p → R.StampFirst p ∨ ∃ m ∈ s.stamps, p.Stamped m ∧
    (m = R.stamp s.cell → ∀ q, R.load s.cell = some q → (p.eval s.cell).value = q)

omit [DecidableEq S] in
/-- One access. -/
theorem BuildingCurrent.read (h : R.BuildingCurrent s) (hmem : R.stamp s.cell ∈ s.stamps)
    {k : F → Reads F (Cached S P)} (hphase : s.phase = .building (.read k)) :
    R.StampFirst (k s.cell) ∨ ∃ m ∈ s.stamps, (k s.cell).Stamped m ∧
      (m = R.stamp s.cell → ∀ q, R.load s.cell = some q → ((k s.cell).eval s.cell).value = q) := by
  rcases h _ hphase with hfirst | ⟨m, hm, hstamped, hvalue⟩
  · rcases hfirst s.cell with ⟨hstamped, hvalue⟩ | hrest
    · exact .inr ⟨_, hmem, hstamped, fun _ => hvalue⟩
    · exact .inl hrest
  · exact .inr ⟨m, hm, hstamped s.cell, hvalue⟩

omit [DecidableEq S] in
theorem BuildingCurrent.builtCurrent (h : R.BuildingCurrent s)
    (hmem : R.stamp s.cell ∈ s.stamps) : R.BuiltCurrent s e := by
  rintro k c - hphase hk
  rcases h.read hmem hphase with hfirst | ⟨m, -, hstamped, hvalue⟩
  · rw [hk] at hfirst
    exact hfirst.elim
  · rw [hk] at hstamped hvalue
    obtain rfl : c.stamp = m := hstamped
    exact hvalue

theorem buildingCurrent_step (h : R.BuildingCurrent s) (hmem : R.stamp s.cell ∈ s.stamps)
    (hs : R.step s e = some t) : R.BuildingCurrent t := by
  intro p hp
  by_cases hreplace : ∃ f, e = .replace f
  · obtain ⟨f, rfl⟩ := hreplace
    have hphase := (building_of_replace hs p).mp hp
    unfold step at hs
    dsimp only at hs
    split_ifs at hs with hfresh
    obtain rfl := Option.some.inj hs
    rcases h p hphase with hfirst | ⟨m, hm, hstamped, -⟩
    · exact .inl hfirst
    · refine .inr ⟨m, List.mem_cons_of_mem _ hm, hstamped, ?_⟩
      rintro rfl
      exact absurd hm hfresh
  · rcases step_cases hs fun f hf => hreplace ⟨f, hf⟩ with
      ⟨k, -, hphase, rfl⟩ | ⟨k, quiet, -, -, rfl⟩ | ⟨c, -, -, rfl⟩
    · have hread := h.read hmem hphase
      rcases hk : k s.cell with c | k'
      · simp [hk, built] at hp
      · rw [hk] at hread
        obtain rfl : .read k' = p := by simpa [hk, built] using hp
        exact hread
    · exact absurd hp (refreshed_ne_building _ _ _ _)
    · cases hp

/-- **A cache that is built stamp first is up to date**, whenever the cell is replaced. -/
theorem upToDate_of_stampFirst (hfirst : R.StampFirst R.build) {es : List (Event F)}
    (h : (R.machine f).Reaches es s) : R.UpToDate s := by
  refine (Machine.Run.invariant (I := fun s => R.Inv s ∧ R.BuildingCurrent s) h
    ⟨inv_of_run (hfirst.ownStamp ∅) .init, fun p hp => .inl ?_⟩ ?_).1.upToDate
  · rcases hbuild : R.build with c | k
    · simp [machine, hbuild, built] at hp
    · obtain rfl : .read k = p := by simpa [machine, hbuild, built] using hp
      rwa [← hbuild]
  · intro s e t hi _ hs
    exact ⟨inv_step hi.1 (hi.2.builtCurrent hi.1.stamp_mem) hs,
      buildingCurrent_step hi.2 hi.1.stamp_mem hs⟩

end Reloader

end AdbHub.Lib
