import AdbHub.Lib.Machine

/-!
# Watching data that changes

Workers change shared data: a worker stores its change and, if it may be visible, notifies a
broadcast channel afterwards. A watcher subscribes to the channel, reads what it shows part by
part, sends it, and waits for the next notification.

* `Watch` — the changes, how the view is read, and the law that a change without a notification
  is invisible.
* `Watched` — the data, the workers, and where the watcher stands in its program; the channel
  keeps a bounded number of notifications, and a receiver that lags behind it skips the others.
* **`packet_of_quiet`** — when nothing is under way, the watcher has sent the current view last.
-/

namespace AdbHub.Lib

/-- What is watched. -/
structure Watch (δ ω γ π : Type*) where
  /-- What a change does to the data. -/
  apply : ω → δ → δ
  /-- Whether a change is notified. -/
  changes : ω → δ → Bool
  /-- The view before anything is read. -/
  start : γ
  /-- The reads that make the view; others may change the data between two of them. -/
  reads : List (γ → δ → γ)
  /-- What is sent of a view. -/
  render : γ → π
  /-- How many notifications the channel keeps. -/
  capacity : ℕ
  /-- What is not notified cannot be seen. -/
  unchanged : ∀ {op d}, changes op d = false →
    ∀ read ∈ reads, ∀ acc, read acc (apply op d) = read acc d

/-- Where the watcher stands. -/
inductive WatchPhase (γ : Type*)
  | greeting
  | subscribing
  /-- It is reading; so many reads are done. -/
  | reading (done : ℕ) (acc : γ)
  | waiting
  | closed
  deriving DecidableEq

/-- The data, the workers and the watcher. -/
structure Watched (ι δ γ π : Type*) where
  data : δ
  /-- How many notifications were sent. -/
  sent : ℕ := 0
  /-- The worker has stored a change and is about to notify it. -/
  owes : ι → Bool := fun _ => false
  phase : WatchPhase γ := .greeting
  /-- The number of the notification that the watcher receives next. -/
  next : ℕ := 0
  packets : List π := []

/-- What the workers and the watcher do. -/
inductive WatchEvent (ι ω : Type*)
  | store (i : ι) (op : ω)
  | notify (i : ι)
  | greet
  | subscribe
  | read
  | write
  | recv
  | lagged
  /-- The watcher ends, because a write failed. -/
  | close

variable {ι δ ω γ π : Type*} [DecidableEq ι]

namespace Watch

/-- The view of some data. -/
def view (W : Watch δ ω γ π) (d : δ) : γ := W.reads.foldl (fun acc read => read acc d) W.start

/-- The view after so many reads. -/
def viewAfter (W : Watch δ ω γ π) (n : ℕ) (d : δ) : γ :=
  (W.reads.take n).foldl (fun acc read => read acc d) W.start

/-- One step. -/
def step (W : Watch δ ω γ π) (s : Watched ι δ γ π) : WatchEvent ι ω → Option (Watched ι δ γ π)
  | .store i op =>
      if s.owes i then none
      else some { s with
        data := W.apply op s.data
        owes := Function.update s.owes i (W.changes op s.data) }
  | .notify i =>
      if s.owes i then
        some { s with sent := s.sent + 1, owes := Function.update s.owes i false }
      else none
  | .greet =>
      match s.phase with
      | .greeting => some { s with phase := .subscribing }
      | _ => none
  | .subscribe =>
      match s.phase with
      | .subscribing => some { s with phase := .reading 0 W.start, next := s.sent }
      | _ => none
  | .read =>
      match s.phase with
      | .reading done acc =>
          (W.reads[done]?).map fun read =>
            { s with phase := .reading (done + 1) (read acc s.data) }
      | _ => none
  | .write =>
      match s.phase with
      | .reading done acc =>
          if done = W.reads.length then
            some { s with phase := .waiting, packets := s.packets ++ [W.render acc] }
          else none
      | _ => none
  | .recv =>
      match s.phase with
      | .waiting =>
          if s.next < s.sent ∧ s.sent ≤ s.next + W.capacity then
            some { s with phase := .reading 0 W.start, next := s.next + 1 }
          else none
      | _ => none
  | .lagged =>
      match s.phase with
      | .waiting =>
          if s.next + W.capacity < s.sent then
            some { s with phase := .reading 0 W.start, next := s.sent - W.capacity }
          else none
      | _ => none
  | .close =>
      match s.phase with
      | .closed => none
      | _ => some { s with phase := .closed }

/-- The system as a machine. -/
def machine (W : Watch δ ω γ π) (initial : δ) : Machine (Watched ι δ γ π) (WatchEvent ι ω) where
  init := { data := initial }
  step := W.step

variable (W : Watch δ ω γ π)

theorem viewAfter_length (d : δ) : W.viewAfter W.reads.length d = W.view d := by
  unfold viewAfter view
  rw [List.take_length]

/-- One read more. -/
theorem viewAfter_succ {n : ℕ} {read : γ → δ → γ} (h : W.reads[n]? = some read) (d : δ) :
    W.viewAfter (n + 1) d = read (W.viewAfter n d) d := by
  unfold viewAfter
  rw [List.take_add_one, h, List.foldl_append]
  rfl

/-- What is not notified leaves every part of the view alone. -/
theorem viewAfter_apply {op : ω} {d : δ} (h : W.changes op d = false) (n : ℕ) :
    W.viewAfter n (W.apply op d) = W.viewAfter n d := by
  unfold viewAfter
  apply List.foldl_ext
  intro acc read hread
  exact W.unchanged h read (List.mem_of_mem_take hread) acc

end Watch

namespace Watched

/-- The watcher waits, there is nothing for it to receive, and no worker is about to notify. -/
structure Quiet (s : Watched ι δ γ π) : Prop where
  waiting : s.phase = .waiting
  received : s.next = s.sent
  notified : ∀ i, s.owes i = false

/-- The watcher will hear of something: a notification waits for it, or a worker is about to
notify. -/
def Alerted (s : Watched ι δ γ π) : Prop := s.next < s.sent ∨ ∃ i, s.owes i = true

/-- What the watcher has read, or sent last, is current, or it will hear of a change. -/
structure Informed (W : Watch δ ω γ π) (s : Watched ι δ γ π) : Prop where
  next_le : s.next ≤ s.sent
  reading : ∀ done acc, s.phase = .reading done acc →
    s.Alerted ∨ acc = W.viewAfter done s.data
  waiting : s.phase = .waiting →
    s.Alerted ∨ s.packets.getLast? = some (W.render (W.view s.data))

variable {W : Watch δ ω γ π} {s t : Watched ι δ γ π} {i : ι} {op : ω}

/-! ## The workers -/

omit [DecidableEq ι] in
/-- A worker leaves the watcher where it stands. It keeps the watcher informed if it alerts it or
changes nothing it can see, and does not take back an alert. -/
theorem Informed.of_worker (hs : s.Informed W) (hphase : t.phase = s.phase)
    (hpackets : t.packets = s.packets) (hnext : t.next ≤ t.sent)
    (halerted : s.Alerted → t.Alerted)
    (hview : t.Alerted ∨ ∀ n, W.viewAfter n t.data = W.viewAfter n s.data) : t.Informed W := by
  refine ⟨hnext, fun done acc hr => ?_, fun hw => ?_⟩
  · rw [hphase] at hr
    rcases hview with ht | hview
    · exact .inl ht
    · rw [hview]
      exact (hs.reading done acc hr).imp_left halerted
  · rw [hphase] at hw
    rcases hview with ht | hview
    · exact .inl ht
    · rw [hpackets, ← W.viewAfter_length, hview, W.viewAfter_length]
      exact (hs.waiting hw).imp_left halerted

theorem Informed.store (hs : s.Informed W) (h : W.step s (.store i op) = some t) :
    t.Informed W := by
  simp only [Watch.step] at h
  split_ifs at h with hi
  obtain rfl := Option.some.inj h
  refine hs.of_worker rfl rfl hs.next_le ?_ ?_
  · rintro (hlt | ⟨j, hj⟩)
    · exact .inl hlt
    · have hne : j ≠ i := by
        rintro rfl
        exact hi hj
      exact .inr ⟨j, (Function.update_of_ne hne _ _).trans hj⟩
  · rcases hc : W.changes op s.data with _ | _
    · right
      intro n
      exact W.viewAfter_apply hc n
    · left
      exact .inr ⟨i, Function.update_self ..⟩

theorem Informed.notify (hs : s.Informed W) (h : W.step s (.notify i : WatchEvent ι ω) = some t) :
    t.Informed W := by
  simp only [Watch.step] at h
  split_ifs at h
  obtain rfl := Option.some.inj h
  have hlt : s.next < s.sent + 1 := Nat.lt_succ_of_le hs.next_le
  exact hs.of_worker rfl rfl hlt.le (fun _ => .inl hlt) (.inl (.inl hlt))

/-! ## The watcher -/

omit [DecidableEq ι] in
/-- Nothing is read yet. -/
theorem informed_start {n : ℕ} (hn : n ≤ s.sent) :
    Informed W { s with phase := .reading 0 W.start, next := n } := by
  refine ⟨hn, fun done acc hr => .inr ?_, fun hw => by cases hw⟩
  obtain ⟨rfl, rfl⟩ := WatchPhase.reading.inj hr
  rfl

omit [DecidableEq ι] in
/-- The watcher is in none of the two phases that matter. -/
theorem informed_of_phase (hn : s.next ≤ s.sent) (hr : ∀ done acc, s.phase ≠ .reading done acc)
    (hw : s.phase ≠ .waiting) : s.Informed W :=
  ⟨hn, fun done acc h => absurd h (hr done acc), fun h => absurd h hw⟩

theorem Informed.read (hs : s.Informed W) (h : W.step s (.read : WatchEvent ι ω) = some t) :
    t.Informed W := by
  simp only [Watch.step] at h
  split at h
  · rename_i done acc hphase
    obtain ⟨read, hread, rfl⟩ := Option.map_eq_some_iff.mp h
    refine ⟨hs.next_le, fun done' acc' hr => ?_, fun hw => by cases hw⟩
    obtain ⟨rfl, rfl⟩ := WatchPhase.reading.inj hr
    refine (hs.reading done acc hphase).imp id fun hacc => ?_
    rw [W.viewAfter_succ hread, hacc]
  · cases h

theorem Informed.write (hs : s.Informed W) (h : W.step s (.write : WatchEvent ι ω) = some t) :
    t.Informed W := by
  simp only [Watch.step] at h
  split at h
  · rename_i done acc hphase
    split_ifs at h with hdone
    obtain rfl := Option.some.inj h
    refine ⟨hs.next_le, fun done' acc' hr => (by cases hr), fun _ => ?_⟩
    refine (hs.reading done acc hphase).imp id fun hacc => ?_
    rw [List.getLast?_concat, hacc, hdone, W.viewAfter_length]
  · cases h

theorem informed_step {e : WatchEvent ι ω} (hs : s.Informed W) (h : W.step s e = some t) :
    t.Informed W := by
  cases e with
  | store i op => exact hs.store h
  | notify i => exact hs.notify h
  | read => exact hs.read h
  | write => exact hs.write h
  | greet =>
      simp only [Watch.step] at h
      split at h
      · obtain rfl := Option.some.inj h
        exact informed_of_phase hs.next_le (by simp) (by simp)
      · cases h
  | subscribe =>
      simp only [Watch.step] at h
      split at h
      · obtain rfl := Option.some.inj h
        exact informed_start le_rfl
      · cases h
  | recv =>
      simp only [Watch.step] at h
      split at h
      · split_ifs at h with hpending
        obtain rfl := Option.some.inj h
        exact informed_start hpending.1
      · cases h
  | lagged =>
      simp only [Watch.step] at h
      split at h
      · split_ifs at h
        obtain rfl := Option.some.inj h
        exact informed_start (Nat.sub_le _ _)
      · cases h
  | close =>
      simp only [Watch.step] at h
      split at h
      · cases h
      · obtain rfl := Option.some.inj h
        exact informed_of_phase hs.next_le (by simp) (by simp)

theorem informed_of_run {initial : δ} {events : List (WatchEvent ι ω)}
    (h : (W.machine initial).Reaches events s) : s.Informed W := by
  refine Machine.Run.invariant h ?_ fun _ _ _ hs _ hstep => informed_step hs hstep
  exact informed_of_phase le_rfl (by simp [Watch.machine]) (by simp [Watch.machine])

/-- **Nothing is missed.** When the watcher waits with nothing to receive and no worker is about
to notify, what it sent last is the current view. -/
theorem packet_of_quiet {initial : δ} {events : List (WatchEvent ι ω)}
    (h : (W.machine initial).Reaches events s) (hq : s.Quiet) :
    s.packets.getLast? = some (W.render (W.view s.data)) := by
  rcases (informed_of_run h).waiting hq.waiting with (hlt | ⟨i, hi⟩) | hlast
  · rw [hq.received] at hlt
    exact absurd hlt (lt_irrefl _)
  · rw [hq.notified i] at hi
    cases hi
  · exact hlast

end Watched

end AdbHub.Lib
