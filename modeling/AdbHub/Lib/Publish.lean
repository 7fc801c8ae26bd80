import AdbHub.Lib.Machine

/-!
# Publishing copies of a shared value

Workers write a shared value, copy it under a lock, release the lock, and publish what they
computed from the copy. Copies are numbered in the order they are taken.

* `Publisher` — the shared value, what is published, and where each worker stands.
* `Publisher.Current` — when no worker is busy the published value is computed from the shared
  one, and no copy still held is older than the one published last.
* **`current_step_iff`** — a step keeps the publisher current exactly when it is `InOrder`: a
  worker publishes its copy only if nobody holds an older one.
-/

namespace AdbHub.Lib

/-- Where a worker stands. -/
inductive Worker (σ : Type*)
  | idle
  /-- It has written the shared value and is about to copy it. -/
  | written
  /-- It holds the copy with this number. -/
  | holding (number : ℕ) (copy : σ)
  deriving DecidableEq

/-- A shared value and what is published of it. -/
structure Publisher (ι σ τ : Type*) where
  shared : σ
  published : τ
  worker : ι → Worker σ
  /-- How many copies have been taken. -/
  copies : ℕ
  /-- The number of the copy published last. -/
  last : ℕ

/-- What a worker does. -/
inductive PublishAction (ι σ : Type*)
  | write (i : ι) (value : σ)
  | copy (i : ι)
  | publish (i : ι)

namespace Publisher

variable {ι σ τ : Type*} [DecidableEq ι] (compute : σ → τ)

/-- One step. -/
def step (p : Publisher ι σ τ) : PublishAction ι σ → Option (Publisher ι σ τ)
  | .write i value =>
      match p.worker i with
      | .idle => some { p with shared := value, worker := Function.update p.worker i .written }
      | _ => none
  | .copy i =>
      match p.worker i with
      | .written =>
          some { p with
            worker := Function.update p.worker i (.holding (p.copies + 1) p.shared)
            copies := p.copies + 1 }
      | _ => none
  | .publish i =>
      match p.worker i with
      | .holding number copy =>
          some { p with
            published := compute copy
            worker := Function.update p.worker i .idle
            last := number }
      | _ => none

/-- The publisher as a machine, started with the published value up to date. -/
def machine (initial : σ) : Machine (Publisher ι σ τ) (PublishAction ι σ) where
  init := ⟨initial, compute initial, fun _ => .idle, 0, 0⟩
  step := step compute

/-- When nobody is busy the published value is up to date, and no copy still held is older than
the one published last. -/
def Current (p : Publisher ι σ τ) : Prop :=
  ((∀ i, p.worker i = .idle) → p.published = compute p.shared) ∧
    ∀ i n v, p.worker i = .holding n v → p.last < n

/-- A worker publishes its copy only if nobody holds an older one. -/
def InOrder (p : Publisher ι σ τ) : PublishAction ι σ → Prop
  | .publish i => ∀ n v j m w, p.worker i = .holding n v → p.worker j = .holding m w → n ≤ m
  | _ => True

/-- What is known of the copies in a run in order. -/
structure Numbered (p : Publisher ι σ τ) : Prop where
  current : p.Current compute
  last_le : p.last ≤ p.copies
  held_le : ∀ i n v, p.worker i = .holding n v → n ≤ p.copies
  held_unique : ∀ i j n v w, p.worker i = .holding n v → p.worker j = .holding n w → i = j
  /-- The newest copy is held or published. -/
  newest : p.last = p.copies ∨ ∃ i v, p.worker i = .holding p.copies v
  /-- Once every write is followed by a copy, the newest copy is the shared value. -/
  newest_held : (∀ i, p.worker i ≠ .written) →
    ∀ i v, p.worker i = .holding p.copies v → v = p.shared
  newest_published : (∀ i, p.worker i ≠ .written) → p.last = p.copies →
    p.published = compute p.shared

variable {compute} {p q : Publisher ι σ τ} {a : PublishAction ι σ} {i : ι}

/-! ## What a step does -/

theorem write_eq_some {value : σ} (h : p.step compute (.write i value) = some q) :
    p.worker i = .idle ∧
      q = { p with shared := value, worker := Function.update p.worker i .written } := by
  simp only [step] at h
  rcases hi : p.worker i with _ | _ | ⟨n, v⟩ <;> rw [hi] at h
  · exact ⟨rfl, (Option.some.inj h).symm⟩
  · simp at h
  · simp at h

theorem copy_eq_some (h : p.step compute (.copy i) = some q) :
    p.worker i = .written ∧
      q = { p with
        worker := Function.update p.worker i (.holding (p.copies + 1) p.shared)
        copies := p.copies + 1 } := by
  simp only [step] at h
  rcases hi : p.worker i with _ | _ | ⟨n, v⟩ <;> rw [hi] at h
  · simp at h
  · exact ⟨rfl, (Option.some.inj h).symm⟩
  · simp at h

theorem publish_eq_some (h : p.step compute (.publish i) = some q) :
    ∃ n v, p.worker i = .holding n v ∧
      q = { p with
        published := compute v, worker := Function.update p.worker i .idle, last := n } := by
  simp only [step] at h
  rcases hi : p.worker i with _ | _ | ⟨n, v⟩ <;> rw [hi] at h
  · simp at h
  · simp at h
  · exact ⟨n, v, rfl, (Option.some.inj h).symm⟩

/-- A worker other than `i` that holds a copy after `i` moved held it before. -/
theorem holding_update {w : Worker σ} {j : ι} {n : ℕ} {v : σ}
    (hw : ∀ n v, w ≠ .holding n v) (h : Function.update p.worker i w j = .holding n v) :
    j ≠ i ∧ p.worker j = .holding n v := by
  by_cases hj : j = i
  · subst hj
    rw [Function.update_self] at h
    exact absurd h (hw n v)
  · rw [Function.update_of_ne hj] at h
    exact ⟨hj, h⟩

/-! ## The numbers of the copies -/

theorem Numbered.write {value : σ} (hp : p.Numbered compute)
    (h : p.step compute (.write i value) = some q) : q.Numbered compute := by
  obtain ⟨hi, rfl⟩ := write_eq_some h
  have hold : ∀ {j n v}, Function.update p.worker i .written j = .holding n v →
      p.worker j = .holding n v := fun hj => (holding_update (by simp) hj).2
  have hbusy : ¬ ∀ j, Function.update p.worker i .written j ≠ .written := fun hall =>
    hall i (Function.update_self ..)
  refine ⟨⟨fun hidle => ?_, fun j n v hj => hp.current.2 j n v (hold hj)⟩, hp.last_le,
    fun j n v hj => hp.held_le j n v (hold hj),
    fun j k n v w hj hk => hp.held_unique j k n v w (hold hj) (hold hk), ?_,
    fun hall => absurd hall hbusy, fun hall => absurd hall hbusy⟩
  · have := hidle i
    simp at this
  · rcases hp.newest with hlast | ⟨j, v, hj⟩
    · exact .inl hlast
    · have hji : j ≠ i := fun hji => by rw [hji, hi] at hj; cases hj
      exact .inr ⟨j, v, (Function.update_of_ne hji _ _).trans hj⟩

theorem Numbered.copy (hp : p.Numbered compute) (h : p.step compute (.copy i) = some q) :
    q.Numbered compute := by
  obtain ⟨-, rfl⟩ := copy_eq_some h
  -- a copy held afterwards is the new one, or was held before and is older
  have hold : ∀ j n v,
      Function.update p.worker i (.holding (p.copies + 1) p.shared) j = .holding n v →
      (j = i ∧ n = p.copies + 1 ∧ v = p.shared) ∨
        (j ≠ i ∧ n ≤ p.copies ∧ p.worker j = .holding n v) := by
    intro j n v hj
    by_cases hji : j = i
    · subst hji
      rw [Function.update_self] at hj
      cases hj
      exact .inl ⟨rfl, rfl, rfl⟩
    · rw [Function.update_of_ne hji] at hj
      exact .inr ⟨hji, hp.held_le j n v hj, hj⟩
  have hlast := hp.last_le
  refine ⟨⟨fun hidle => ?_, fun j n v hj => ?_⟩, hlast.trans (Nat.le_succ _), fun j n v hj => ?_,
    fun j k n v w hj hk => ?_, .inr ⟨i, p.shared, Function.update_self ..⟩, fun _ j v hj => ?_,
    fun _ hl => ?_⟩
  · have := hidle i
    simp at this
  · rcases hold j n v hj with ⟨-, rfl, -⟩ | ⟨-, -, hj'⟩
    · exact Nat.lt_succ_of_le hlast
    · exact hp.current.2 j n v hj'
  · rcases hold j n v hj with ⟨-, rfl, -⟩ | ⟨-, hle, -⟩
    · exact le_rfl
    · exact hle.trans (Nat.le_succ _)
  · rcases hold j n v hj with ⟨rfl, rfl, -⟩ | ⟨-, hle, hj'⟩ <;>
      rcases hold k _ w hk with ⟨rfl, hn, -⟩ | ⟨-, hle', hk'⟩
    · rfl
    · omega
    · omega
    · exact hp.held_unique j k n v w hj' hk'
  · rcases hold j _ v hj with ⟨-, -, rfl⟩ | ⟨-, hle, -⟩
    · rfl
    · exact absurd hle (Nat.not_succ_le_self _)
  · exact absurd (hl ▸ hlast) (Nat.not_succ_le_self _)

theorem Numbered.publish (hp : p.Numbered compute) (h : p.step compute (.publish i) = some q)
    (ho : p.InOrder (.publish i)) : q.Numbered compute := by
  obtain ⟨n, v, hi, rfl⟩ := publish_eq_some h
  have hold : ∀ {j m w}, Function.update p.worker i .idle j = .holding m w →
      j ≠ i ∧ p.worker j = .holding m w := fun hj => holding_update (by simp) hj
  have hwritten : (∀ j, Function.update p.worker i .idle j ≠ .written) →
      ∀ j, p.worker j ≠ .written := by
    intro hall j hj
    have hji : j ≠ i := fun hji => by rw [hji, hi] at hj; cases hj
    exact hall j ((Function.update_of_ne hji _ _).trans hj)
  have hnewest : n = p.copies ∨ ∃ j w, j ≠ i ∧ p.worker j = .holding p.copies w := by
    rcases hp.newest with hlast | ⟨j, w, hj⟩
    · have := hp.current.2 i n v hi
      have := hp.held_le i n v hi
      omega
    · by_cases hji : j = i
      · subst hji
        rw [hi] at hj
        cases hj
        exact .inl rfl
      · exact .inr ⟨j, w, hji, hj⟩
  have hpub : (∀ j, p.worker j ≠ .written) → n = p.copies → compute v = compute p.shared := by
    rintro hall rfl
    rw [hp.newest_held hall i v hi]
  refine ⟨⟨fun hidle => ?_, fun j m w hj => ?_⟩, hp.held_le i n v hi,
    fun j m w hj => hp.held_le j m w (hold hj).2,
    fun j k m w x hj hk => hp.held_unique j k m w x (hold hj).2 (hold hk).2, ?_,
    fun hall j w hj => hp.newest_held (hwritten hall) j w (hold hj).2,
    fun hall hn => hpub (hwritten hall) hn⟩
  · refine hpub (hwritten fun j hj => by cases (hidle j).symm.trans hj) ?_
    rcases hnewest with hn | ⟨j, w, hji, hj⟩
    · exact hn
    · cases (hidle j).symm.trans ((Function.update_of_ne hji _ _).trans hj)
  · obtain ⟨hji, hj'⟩ := hold hj
    have hle := ho n v j m w hi hj'
    have hne : n ≠ m := fun hnm => hji (hp.held_unique j i m w v hj' (hnm ▸ hi))
    exact lt_of_le_of_ne hle hne
  · rcases hnewest with hn | ⟨j, w, hji, hj⟩
    · exact .inl hn
    · exact .inr ⟨j, w, (Function.update_of_ne hji _ _).trans hj⟩

theorem numbered_step (hp : p.Numbered compute) (h : p.step compute a = some q)
    (ho : p.InOrder a) : q.Numbered compute := by
  cases a with
  | write i value => exact hp.write h
  | copy i => exact hp.copy h
  | publish i => exact hp.publish h ho

theorem numbered_init (initial : σ) :
    (machine compute initial : Machine (Publisher ι σ τ) _).init.Numbered compute := by
  constructor <;> simp [machine, Current]

theorem numbered_of_run {initial : σ} {as : List (PublishAction ι σ)}
    (h : (machine compute initial).Run InOrder as p) : p.Numbered compute :=
  h.invariant (numbered_init initial) fun _ _ _ hp hc hs => numbered_step hp hs hc

/-- **Exactly the steps in order.** -/
theorem current_step_iff (hp : p.Numbered compute) (h : p.step compute a = some q) :
    q.Current compute ↔ p.InOrder a := by
  cases a with
  | write i value => exact iff_of_true (hp.write h).current trivial
  | copy i => exact iff_of_true (hp.copy h).current trivial
  | publish i =>
      refine ⟨fun hq n v j m w hi hj => ?_, fun ho => (hp.publish h ho).current⟩
      obtain ⟨n', v', hi', rfl⟩ := publish_eq_some h
      rw [hi] at hi'
      cases hi'
      by_cases hji : j = i
      · subst hji
        rw [hi] at hj
        cases hj
        exact le_rfl
      · exact le_of_lt (hq.2 j m w ((Function.update_of_ne hji _ _).trans hj))

end Publisher

end AdbHub.Lib
