import AdbHub.Lib.Machine

/-!
# Publishing a file by renaming a temporary one

Writers that each create or truncate *the same* temporary file, write their text into it piece by
piece, look at it, and rename it over the target. Their steps come in any order, and a writer may
give up at any time.

* `Files` — the inodes and the two names; `overwrite` is a write at an offset.
* `Saving.machine` — any number of writers; `Saving.Intact` — the target is what it was at first, or
  the complete text of a writer.
* **`Saving.always_intact_iff`** — the target is intact at every moment iff every rename finds a
  complete text, and every write to a file that is the target already leaves one.
* **`Saving.run_of_alone`** — writers that do not overlap meet this.
-/

namespace AdbHub.Lib

/-! ## Files -/

/-- Two names in a directory, and the contents of the inodes. -/
structure Files (β : Type*) where
  contents : ℕ → List β
  temp : Option ℕ
  target : Option ℕ
  /-- The next inode. -/
  next : ℕ

/-- Write at an offset; a gap is filled. -/
def overwrite {β : Type*} (zero : β) (old : List β) (offset : ℕ) (piece : List β) : List β :=
  old.take offset ++ List.replicate (offset - old.length) zero ++ piece ++
    old.drop (offset + piece.length)

theorem overwrite_end {β : Type*} (zero : β) (old piece : List β) :
    overwrite zero old old.length piece = old ++ piece := by
  simp [overwrite]

namespace Files

variable {β : Type*} (f : Files β)

/-- Create the temporary file, or truncate it. -/
def create : Files β × ℕ :=
  match f.temp with
  | some ino => ({ f with contents := Function.update f.contents ino [] }, ino)
  | none =>
      ({ f with
          contents := Function.update f.contents f.next []
          temp := some f.next
          next := f.next + 1 }, f.next)

/-- Write into an inode. -/
def put (zero : β) (ino offset : ℕ) (piece : List β) : Files β :=
  { f with contents :=
      Function.update f.contents ino (overwrite zero (f.contents ino) offset piece) }

/-- Rename the temporary file over the target. -/
def rename : Option (Files β) := f.temp.map fun ino => { f with target := some ino, temp := none }

/-- What a reader of the target finds. -/
def shown : Option (List β) := f.target.map f.contents

/-- The two names are different files, and no inode is given out twice. -/
structure Apart : Prop where
  temp_ne : ∀ ino, f.temp = some ino → f.target ≠ some ino
  temp_lt : ∀ ino, f.temp = some ino → ino < f.next
  target_lt : ∀ ino, f.target = some ino → ino < f.next

end Files

/-! ## Writers -/

/-- How far a writer is. -/
inductive SavePhase (β : Type*)
  | idle
  /-- Its inode, its offset and what is left to write. -/
  | writing (ino offset : ℕ) (rest : List β)
  /-- How often the temporary file is still to be looked at. -/
  | looking (n : ℕ)
  | over

/-- Neither started nor, by now, at work. -/
def SavePhase.Idle {β : Type*} : SavePhase β → Prop
  | .idle | .over => True
  | .writing .. | .looking _ => False

instance {β : Type*} : DecidablePred (SavePhase.Idle (β := β))
  | .idle | .over => inferInstanceAs (Decidable True)
  | .writing .. | .looking _ => inferInstanceAs (Decidable False)

/-- A step of a writer. -/
inductive SaveAction (ω : Type*)
  | create (w : ω)
  /-- Write some of what is left. -/
  | write (w : ω) (n : ℕ)
  /-- The text is written, and the file is closed. -/
  | close (w : ω)
  | look (w : ω)
  | rename (w : ω)
  /-- An error, or the end of the process. -/
  | fail (w : ω)

/-- The files and the writers. -/
structure SaveState (ω β : Type*) where
  files : Files β
  writers : ω → SavePhase β

/-- What the writers have to write, and how often each looks at the temporary file before it renames
it. A writer without a text does nothing. -/
structure Saving (ω β : Type*) where
  zero : β
  text : ω → Option (List β)
  looks : ω → ℕ
  /-- The target and the temporary file at first. -/
  original : Option (List β)
  stale : Option (List β)

namespace Saving

variable {ω β : Type*} [DecidableEq ω] (S : Saving ω β)

/-- The writer goes on with this. -/
def advance (s : SaveState ω β) (files : Files β) (w : ω) (phase : SavePhase β) : SaveState ω β :=
  ⟨files, Function.update s.writers w phase⟩

/-- One step. Looking at a temporary file, or renaming one, that is not there is an error. -/
def step (s : SaveState ω β) : SaveAction ω → Option (SaveState ω β)
  | .create w =>
      match s.writers w, S.text w with
      | .idle, some text =>
          some (advance s s.files.create.1 w (.writing s.files.create.2 0 text))
      | _, _ => none
  | .write w n =>
      match s.writers w with
      | .writing ino offset rest =>
          if (rest.take n).isEmpty then none
          else some (advance s (s.files.put S.zero ino offset (rest.take n)) w
            (.writing ino (offset + (rest.take n).length) (rest.drop n)))
      | _ => none
  | .close w =>
      match s.writers w with
      | .writing _ _ [] => some (advance s s.files w (.looking (S.looks w)))
      | _ => none
  | .look w =>
      match s.writers w with
      | .looking (n + 1) =>
          some (advance s s.files w (if s.files.temp.isSome then .looking n else .over))
      | _ => none
  | .rename w =>
      match s.writers w with
      | .looking 0 => some (advance s (s.files.rename.getD s.files) w .over)
      | _ => none
  | .fail w => some (advance s s.files w .over)

/-- The files at first. -/
def files : Files β where
  contents := fun ino => if ino = 0 then S.original.getD [] else S.stale.getD []
  temp := S.stale.map fun _ => 1
  target := S.original.map fun _ => 0
  next := 2

/-- Any number of writers. -/
def machine : Machine (SaveState ω β) (SaveAction ω) where
  init := ⟨S.files, fun _ => .idle⟩
  step := S.step

/-- A complete text. -/
def Whole (bytes : List β) : Prop := S.original = some bytes ∨ ∃ w, S.text w = some bytes

/-- The target is as it was at first, or a complete text. -/
def Intact (s : SaveState ω β) : Prop :=
  s.files.shown = S.original ∨ ∃ w, ∃ text, S.text w = some text ∧ s.files.shown = some text

/-- Every rename finds a complete text, and every write to a file that is the target already leaves
one. -/
def KeepsWhole (s : SaveState ω β) : SaveAction ω → Prop
  | .rename _ => ∀ ino, s.files.temp = some ino → S.Whole (s.files.contents ino)
  | .write w n => ∀ ino offset rest, s.writers w = .writing ino offset rest →
      s.files.target = some ino →
        S.Whole (overwrite S.zero (s.files.contents ino) offset (rest.take n))
  | _ => True

variable {S} {s t : SaveState ω β} {a : SaveAction ω} {as : List (SaveAction ω)} {w : ω}

/-! ## One step -/

theorem create_cases (f : Files β) :
    (∃ ino, f.temp = some ino ∧
      f.create = ({ f with contents := Function.update f.contents ino [] }, ino)) ∨
    (f.temp = none ∧ f.create = ({ f with
      contents := Function.update f.contents f.next [], temp := some f.next
      next := f.next + 1 }, f.next)) := by
  unfold Files.create
  rcases f.temp with _ | ino
  · exact .inr ⟨rfl, rfl⟩
  · exact .inl ⟨ino, rfl, rfl⟩

/-- **What one step does** to the files and to its writer. -/
theorem step_cases (h : S.step s a = some t) :
    (∃ w text, a = .create w ∧ s.writers w = .idle ∧ S.text w = some text ∧
      t = advance s s.files.create.1 w (.writing s.files.create.2 0 text)) ∨
    (∃ w n ino offset rest, a = .write w n ∧ s.writers w = .writing ino offset rest ∧
      t = advance s (s.files.put S.zero ino offset (rest.take n)) w
        (.writing ino (offset + (rest.take n).length) (rest.drop n))) ∨
    (∃ w ino offset, a = .close w ∧ s.writers w = .writing ino offset [] ∧
      t = advance s s.files w (.looking (S.looks w))) ∨
    (∃ w n, a = .look w ∧ s.writers w = .looking (n + 1) ∧
      t = advance s s.files w (if s.files.temp.isSome then .looking n else .over)) ∨
    (∃ w, a = .rename w ∧ s.writers w = .looking 0 ∧
      t = advance s (s.files.rename.getD s.files) w .over) ∨
    (∃ w, a = .fail w ∧ t = advance s s.files w .over) := by
  cases a with
  | create w =>
      simp only [step] at h
      split at h
      · rename_i text hidle htext
        exact .inl ⟨w, text, rfl, hidle, htext, (Option.some.inj h).symm⟩
      · cases h
  | write w n =>
      simp only [step] at h
      split at h
      · rename_i ino offset rest hwriting
        split_ifs at h
        exact .inr (.inl ⟨w, n, ino, offset, rest, rfl, hwriting, (Option.some.inj h).symm⟩)
      · cases h
  | close w =>
      simp only [step] at h
      split at h
      · rename_i ino offset hwriting
        exact .inr (.inr (.inl ⟨w, ino, offset, rfl, hwriting, (Option.some.inj h).symm⟩))
      · cases h
  | look w =>
      simp only [step] at h
      split at h
      · rename_i n hlooking
        exact .inr (.inr (.inr (.inl ⟨w, n, rfl, hlooking, (Option.some.inj h).symm⟩)))
      · cases h
  | rename w =>
      simp only [step] at h
      split at h
      · rename_i hlooking
        exact .inr (.inr (.inr (.inr (.inl ⟨w, rfl, hlooking, (Option.some.inj h).symm⟩))))
      · cases h
  | fail w =>
      exact .inr (.inr (.inr (.inr (.inr ⟨w, rfl, (Option.some.inj h).symm⟩))))

/-! ## The names -/

omit [DecidableEq ω] in
theorem apart_files (S : Saving ω β) : S.files.Apart where
  temp_ne := by
    intro ino htemp htarget
    obtain ⟨_, -, rfl⟩ := Option.map_eq_some_iff.mp htemp
    obtain ⟨_, -, hzero⟩ := Option.map_eq_some_iff.mp htarget
    cases hzero
  temp_lt := by
    intro ino htemp
    obtain ⟨_, -, rfl⟩ := Option.map_eq_some_iff.mp htemp
    exact Nat.lt_add_one 1
  target_lt := by
    intro ino htarget
    obtain ⟨_, -, rfl⟩ := Option.map_eq_some_iff.mp htarget
    exact Nat.zero_lt_two

theorem apart_create {f : Files β} (h : f.Apart) : f.create.1.Apart := by
  rcases create_cases f with ⟨ino, htemp, hcreate⟩ | ⟨htemp, hcreate⟩
  · rw [hcreate]
    exact ⟨h.temp_ne, h.temp_lt, h.target_lt⟩
  · rw [hcreate]
    refine ⟨?_, ?_, ?_⟩
    · rintro ino hino htarget
      obtain rfl := Option.some.inj hino
      exact lt_irrefl _ (h.target_lt _ htarget)
    · rintro ino hino
      obtain rfl := Option.some.inj hino
      exact Nat.lt_add_one _
    · exact fun ino htarget => Nat.lt_succ_of_lt (h.target_lt ino htarget)

theorem apart_step (h : s.files.Apart) (hstep : S.step s a = some t) : t.files.Apart := by
  rcases step_cases hstep with ⟨w, text, -, -, -, rfl⟩ | ⟨w, n, ino, offset, rest, -, -, rfl⟩ |
    ⟨w, ino, offset, -, -, rfl⟩ | ⟨w, n, -, -, rfl⟩ | ⟨w, -, -, rfl⟩ | ⟨w, -, rfl⟩
  · exact apart_create h
  · exact ⟨h.temp_ne, h.temp_lt, h.target_lt⟩
  · exact h
  · exact h
  · unfold advance Files.rename
    rcases htemp : s.files.temp with _ | ino
    · exact h
    · refine ⟨fun _ hnone => (nomatch hnone), fun _ hnone => (nomatch hnone), ?_⟩
      rintro ino' htarget
      obtain rfl := Option.some.inj htarget
      exact h.temp_lt ino htemp
  · exact h

theorem apart_of_reaches {C : SaveState ω β → SaveAction ω → Prop} (h : S.machine.Run C as s) :
    s.files.Apart :=
  h.invariant (apart_files S) fun _ _ _ hs _ hstep => apart_step hs hstep

/-! ## What a reader finds -/

omit [DecidableEq ω] in
theorem intact_of_shown {bytes : List β} (h : s.files.shown = some bytes) :
    S.Intact s ↔ S.Whole bytes := by
  unfold Intact Whole
  rw [h]
  constructor
  · rintro (horiginal | ⟨w, text, htext, hbytes⟩)
    · exact .inl horiginal.symm
    · exact .inr ⟨w, by rw [htext, hbytes]⟩
  · rintro (horiginal | ⟨w, htext⟩)
    · exact .inl horiginal.symm
    · exact .inr ⟨w, bytes, htext, rfl⟩

omit [DecidableEq ω] in
theorem intact_congr (h : t.files.shown = s.files.shown) (hs : S.Intact s) : S.Intact t := by
  unfold Intact at hs ⊢
  rwa [h]

theorem shown_create {f : Files β} (h : f.Apart) : f.create.1.shown = f.shown := by
  have hother : ∀ ino ino', f.target = some ino → ino' ≠ ino →
      (Function.update f.contents ino' []) ino = f.contents ino := fun ino ino' _ hne =>
    Function.update_of_ne hne.symm _ _
  unfold Files.shown
  rcases create_cases f with ⟨temp, htemp, hcreate⟩ | ⟨htemp, hcreate⟩
  · rw [hcreate]
    refine Option.map_congr fun ino hino => hother ino temp hino ?_
    rintro rfl
    exact h.temp_ne temp htemp hino
  · rw [hcreate]
    refine Option.map_congr fun ino hino => hother ino f.next hino ?_
    rintro rfl
    exact lt_irrefl _ (h.target_lt _ hino)

/-- **One step** from an intact target leaves an intact one exactly if it keeps it whole. -/
theorem intact_step_iff (hapart : s.files.Apart) (hs : S.Intact s) (hstep : S.step s a = some t) :
    S.Intact t ↔ S.KeepsWhole s a := by
  rcases step_cases hstep with ⟨w, text, rfl, -, -, rfl⟩ |
    ⟨w, n, ino, offset, rest, rfl, hwriting, rfl⟩ | ⟨w, ino, offset, rfl, -, rfl⟩ |
    ⟨w, n, rfl, -, rfl⟩ | ⟨w, rfl, -, rfl⟩ | ⟨w, rfl, rfl⟩
  · exact iff_of_true (intact_congr (shown_create hapart) hs) trivial
  · have hkeeps : S.KeepsWhole s (.write w n) ↔ (s.files.target = some ino →
        S.Whole (overwrite S.zero (s.files.contents ino) offset (rest.take n))) := by
      constructor
      · exact fun h => h ino offset rest hwriting
      · rintro h ino' offset' rest' hwriting'
        rw [hwriting] at hwriting'
        obtain ⟨rfl, rfl, rfl⟩ := SavePhase.writing.inj hwriting'
        exact h
    rw [hkeeps]
    by_cases htarget : s.files.target = some ino
    · have hshown : (advance s (s.files.put S.zero ino offset (rest.take n)) w
          (.writing ino (offset + (rest.take n).length) (rest.drop n))).files.shown =
          some (overwrite S.zero (s.files.contents ino) offset (rest.take n)) := by
        simp [advance, Files.shown, Files.put, htarget]
      rw [intact_of_shown hshown]
      exact ⟨fun h _ => h, fun h => h htarget⟩
    · refine iff_of_true (intact_congr ?_ hs) fun h => absurd h htarget
      unfold advance Files.shown Files.put
      refine Option.map_congr fun ino' hino' => Function.update_of_ne ?_ _ _
      rintro rfl
      exact htarget hino'
  · exact iff_of_true hs trivial
  · exact iff_of_true hs trivial
  · rcases htemp : s.files.temp with _ | ino
    · refine iff_of_true (intact_congr ?_ hs) fun ino hino => ?_
      · simp [advance, Files.rename, htemp]
      · rw [htemp] at hino
        cases hino
    · have hshown : (advance s (s.files.rename.getD s.files) w .over).files.shown =
          some (s.files.contents ino) := by
        simp [advance, Files.rename, Files.shown, htemp]
      rw [intact_of_shown hshown]
      constructor
      · intro h ino' hino'
        rw [htemp] at hino'
        obtain rfl := Option.some.inj hino'
        exact h
      · exact fun h => h ino htemp
  · exact iff_of_true hs trivial

/-- **An intact target, exactly.** At every moment of a run the target is what it was at first or a
complete text iff every rename finds a complete text, and every write to a file that is the target
already leaves one. -/
theorem always_intact_iff (h : S.machine.Reaches as s) :
    S.machine.Always S.Intact as ↔ S.machine.Run S.KeepsWhole as s := by
  have hinit : S.Intact S.machine.init := by
    left
    show S.files.shown = S.original
    unfold Files.shown files
    rcases S.original with _ | bytes
    · rfl
    · rfl
  exact Machine.always_iff_run (I := fun s => s.files.Apart) (H := fun _ => True)
    (fun _ _ hrun => apart_of_reaches hrun) hinit
    (fun _ _ _ _ _ hapart hs hstep => intact_step_iff hapart hs hstep) h fun _ _ _ _ => trivial

/-! ## Writers that do not overlap -/

/-- A writer starts only when no other one is at work. -/
def Alone (s : SaveState ω β) : SaveAction ω → Prop
  | .create _ => ∀ w, (s.writers w).Idle
  | _ => True

instance [Fintype ω] (s : SaveState ω β) : ∀ a, Decidable (Alone s a)
  | .create _ => inferInstanceAs (Decidable (∀ w, (s.writers w).Idle))
  | .write .. | .close _ | .look _ | .rename _ | .fail _ => inferInstanceAs (Decidable True)

/-- The temporary file holds what the writer has written so far. -/
def AtWork (S : Saving ω β) (s : SaveState ω β) (w : ω) : Prop :=
  ∃ ino text, s.files.temp = some ino ∧ S.text w = some text ∧
    match s.writers w with
    | .writing ino' offset rest =>
        ino' = ino ∧ offset = (s.files.contents ino).length ∧ s.files.contents ino ++ rest = text
    | _ => s.files.contents ino = text

/-- At most one writer is at work, and the temporary file is its own. -/
def Sole (S : Saving ω β) (s : SaveState ω β) : Prop :=
  ∀ w, ¬ (s.writers w).Idle → AtWork S s w ∧ ∀ w', w' ≠ w → (s.writers w').Idle

/-- A step of the only writer that is at work. -/
theorem sole_advance {files : Files β} {phase : SavePhase β}
    (hothers : ∀ w', w' ≠ w → (s.writers w').Idle)
    (hown : ¬ phase.Idle → AtWork S (advance s files w phase) w) :
    Sole S (advance s files w phase) := by
  intro w' hw'
  by_cases hsame : w' = w
  · subst hsame
    refine ⟨hown (by simpa [advance] using hw'), fun w'' hne => ?_⟩
    simpa [advance, hne] using hothers w'' hne
  · simp [advance, hsame] at hw'
    exact absurd (hothers w' hsame) hw'

omit [DecidableEq ω] in
/-- What a writer that is at work has done. -/
theorem Sole.atWork (hs : Sole S s) {phase : SavePhase β} (hphase : s.writers w = phase)
    (hwork : ¬ phase.Idle) : AtWork S s w ∧ ∀ w', w' ≠ w → (s.writers w').Idle :=
  hs w (by rwa [hphase])

/-- A writer that gives up leaves the others as they are. -/
theorem sole_fail (hs : Sole S s) : Sole S (advance s s.files w .over) := by
  by_cases hidle : (s.writers w).Idle
  · intro w' hw'
    have hne : w' ≠ w := by
      rintro rfl
      exact hw' (by simp [advance, SavePhase.Idle])
    have hsame : (advance s s.files w .over).writers w' = s.writers w' := by simp [advance, hne]
    rw [hsame] at hw'
    obtain ⟨hwork, hothers⟩ := hs w' hw'
    refine ⟨?_, fun w'' hne' => ?_⟩
    · unfold AtWork
      rw [hsame]
      exact hwork
    · by_cases hw : w'' = w
      · subst hw
        simp [advance, SavePhase.Idle]
      · simpa [advance, hw] using hothers w'' hne'
  · exact sole_advance (hs w hidle).2 fun h => absurd trivial h

theorem sole_step (hs : Sole S s) (halone : Alone s a) (hstep : S.step s a = some t) :
    Sole S t := by
  rcases step_cases hstep with ⟨w, text, rfl, -, htext, rfl⟩ |
    ⟨w, n, ino, offset, rest, rfl, hwriting, rfl⟩ | ⟨w, ino, offset, rfl, hwriting, rfl⟩ |
    ⟨w, n, rfl, hlooking, rfl⟩ | ⟨w, rfl, hlooking, rfl⟩ | ⟨w, rfl, rfl⟩
  · refine sole_advance (fun w' _ => halone w') fun _ => ?_
    unfold AtWork advance
    dsimp only
    rw [Function.update_self]
    rcases create_cases s.files with ⟨ino, htemp, hcreate⟩ | ⟨-, hcreate⟩
    · rw [hcreate]
      exact ⟨ino, text, htemp, htext, rfl, by simp, by simp⟩
    · rw [hcreate]
      exact ⟨s.files.next, text, rfl, htext, rfl, by simp, by simp⟩
  · obtain ⟨⟨ino', text, htemp, htext, hwork⟩, hothers⟩ := hs.atWork hwriting id
    rw [hwriting] at hwork
    obtain ⟨rfl, rfl, hcontents⟩ := hwork
    refine sole_advance hothers fun _ => ?_
    unfold AtWork advance Files.put
    dsimp only
    rw [Function.update_self, overwrite_end]
    refine ⟨ino, text, htemp, htext, rfl, by simp, ?_⟩
    rw [Function.update_self, List.append_assoc, List.take_append_drop, hcontents]
  · obtain ⟨⟨ino', text, htemp, htext, hwork⟩, hothers⟩ := hs.atWork hwriting id
    rw [hwriting] at hwork
    obtain ⟨rfl, -, hcontents⟩ := hwork
    refine sole_advance hothers fun _ => ?_
    unfold AtWork advance
    dsimp only
    rw [Function.update_self]
    exact ⟨ino, text, htemp, htext, by rw [← hcontents, List.append_nil]⟩
  · obtain ⟨⟨ino, text, htemp, htext, hwork⟩, hothers⟩ := hs.atWork hlooking id
    rw [hlooking] at hwork
    refine sole_advance hothers fun _ => ?_
    unfold AtWork advance
    dsimp only
    rw [Function.update_self, htemp]
    exact ⟨ino, text, rfl, htext, hwork⟩
  · obtain ⟨-, hothers⟩ := hs.atWork hlooking id
    exact sole_advance hothers fun h => absurd trivial h
  · exact sole_fail hs

/-- **Writers that do not overlap** keep the target whole. -/
theorem run_of_alone (h : S.machine.Run Alone as s) : S.machine.Run S.KeepsWhole as s := by
  have hsole : ∀ bs u, S.machine.Run Alone bs u → Sole S u := fun bs u hrun =>
    hrun.invariant (fun w hw => absurd trivial hw) fun _ _ _ hs ha hstep => sole_step hs ha hstep
  induction h with
  | init => exact .init
  | @snoc as s t a hrun ha hstep ih =>
      refine .snoc ih ?_ hstep
      have hapart := apart_of_reaches hrun
      rcases step_cases hstep with ⟨w, text, rfl, -⟩ | ⟨w, n, ino, offset, rest, rfl, hwriting, -⟩ |
        ⟨w, ino, offset, rfl, -⟩ | ⟨w, n, rfl, -⟩ | ⟨w, rfl, hlooking, -⟩ | ⟨w, rfl, -⟩
      · trivial
      · obtain ⟨⟨temp, text, htemp, -, hwork⟩, -⟩ := (hsole _ _ hrun).atWork hwriting id
        rw [hwriting] at hwork
        obtain ⟨rfl, -⟩ := hwork
        intro ino' offset' rest' hwriting' htarget
        rw [hwriting] at hwriting'
        obtain ⟨rfl, rfl, rfl⟩ := SavePhase.writing.inj hwriting'
        exact absurd htarget (hapart.temp_ne ino htemp)
      · trivial
      · trivial
      · obtain ⟨⟨temp, text, htemp, htext, hwork⟩, -⟩ := (hsole _ _ hrun).atWork hlooking id
        rw [hlooking] at hwork
        intro ino hino
        rw [htemp] at hino
        obtain rfl := Option.some.inj hino
        exact .inr ⟨w, by rw [htext, ← hwork]⟩
      · trivial

end Saving

end AdbHub.Lib
