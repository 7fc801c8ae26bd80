import AdbHub.Lib.Machine

/-!
# A router that waits for room under its lock

A router hands messages to receivers through bounded queues. Its routing table is guarded by one
lock, and the router keeps the lock while it waits for room in a full queue. A receiver that has
stopped consuming must take the same lock to take its queue out of the table, and its queue stays
open until then.

* `Router` — whom the router is waiting for, the queues, and where each receiver stands.
* `Router.Wedged` — the router waits for room in the full queue of a receiver that is leaving.
* **`not_wedged_step_iff`** — a step from an unwedged state avoids the wedge exactly when it is
  `Unhurried`: no message is offered to the full queue of a leaving receiver, and no receiver
  leaves while the router waits on its full queue.
* **`Wedged.step`** — a wedge is never resolved: every later state is wedged, the router waiting
  on the same receiver.
-/

namespace AdbHub.Lib

variable {κ μ : Type*} [DecidableEq κ]

/-- Where a receiver stands. -/
inductive Receiver
  /-- Its queue is in the table or about to be; it takes messages when it gets to it. -/
  | consuming
  /-- It takes no more messages and wants the lock. -/
  | leaving
  /-- Its queue is closed or out of the table. -/
  | gone
  deriving DecidableEq

/-- The router, its queues and the receivers. -/
structure Router (κ μ : Type*) where
  /-- The message for which the router waits for room, holding the lock. -/
  waiting : Option (κ × μ)
  queue : κ → List μ
  receiver : κ → Receiver

/-- What router and receivers do. -/
inductive RouterAction (κ μ : Type*)
  /-- The router takes the lock and tries to enqueue a message. -/
  | offer (k : κ) (m : μ)
  /-- The waiting router finds room, or the queue closed, and releases the lock. -/
  | resume
  /-- A receiver takes the first message of its queue. -/
  | take (k : κ)
  /-- A receiver stops consuming and wants the lock. -/
  | leave (k : κ)
  /-- A leaving receiver takes the lock and removes its queue. -/
  | unlink (k : κ)
  /-- A receiver's queue closes without the lock. -/
  | close (k : κ)
  /-- A receiver begins, with an empty queue. -/
  | join (k : κ)

namespace Router

variable (cap : ℕ)

/-- The queue of `k` has no room. -/
def Full (r : Router κ μ) (k : κ) : Prop := cap ≤ (r.queue k).length

instance (r : Router κ μ) (k : κ) : Decidable (r.Full cap k) :=
  inferInstanceAs (Decidable (cap ≤ (r.queue k).length))

/-- Append a message to a queue. -/
def push (r : Router κ μ) (k : κ) (m : μ) : Router κ μ :=
  { r with queue := Function.update r.queue k (r.queue k ++ [m]) }

/-- One step. -/
def step (r : Router κ μ) : RouterAction κ μ → Option (Router κ μ)
  | .offer k m =>
      if r.waiting.isSome then none
      else if r.receiver k = .gone then some r
      else if r.Full cap k then some { r with waiting := some (k, m) }
      else some (r.push k m)
  | .resume =>
      match r.waiting with
      | none => none
      | some (k, m) =>
          if r.receiver k = .gone then some { r with waiting := none }
          else if r.Full cap k then none
          else some { r.push k m with waiting := none }
  | .take k =>
      if r.receiver k = .consuming then
        match r.queue k with
        | [] => none
        | _ :: ms => some { r with queue := Function.update r.queue k ms }
      else none
  | .leave k =>
      if r.receiver k = .consuming then
        some { r with receiver := Function.update r.receiver k .leaving }
      else none
  | .unlink k =>
      if r.waiting.isNone ∧ r.receiver k = .leaving then
        some { r with receiver := Function.update r.receiver k .gone }
      else none
  | .close k =>
      if r.receiver k = .consuming then
        some { r with receiver := Function.update r.receiver k .gone }
      else none
  | .join k =>
      if r.receiver k = .gone then
        some { r with
          queue := Function.update r.queue k []
          receiver := Function.update r.receiver k .consuming }
      else none

/-- Nobody has joined. -/
def start : Router κ μ := ⟨none, fun _ => [], fun _ => .gone⟩

/-- The router as a machine. -/
def machine : Machine (Router κ μ) (RouterAction κ μ) := ⟨start, step cap⟩

/-- The router holds the lock and waits for room in the full queue of a leaving receiver. -/
def Wedged (r : Router κ μ) : Prop :=
  ∃ k m, r.waiting = some (k, m) ∧ r.Full cap k ∧ r.receiver k = .leaving

/-- The step neither offers a message to the full queue of a leaving receiver, nor lets a
receiver leave while the router waits on its full queue. -/
def Unhurried (r : Router κ μ) : RouterAction κ μ → Prop
  | .offer k _ => ¬ (r.receiver k = .leaving ∧ r.Full cap k)
  | .leave k => ¬ ((∃ m, r.waiting = some (k, m)) ∧ r.Full cap k)
  | _ => True

variable {cap} {r r' : Router κ μ} {a : RouterAction κ μ}

@[simp] theorem machine_step : (machine cap).step r a = r.step cap a := rfl

/-- The router tries to enqueue a message. -/
theorem step_offer {k : κ} {m : μ} (h : r.waiting = none) :
    r.step cap (.offer k m) = some (if r.receiver k = .gone then r
      else if r.Full cap k then { r with waiting := some (k, m) } else r.push k m) := by
  simp only [step, h, Option.isSome_none, Bool.false_eq_true, if_false]
  split_ifs <;> rfl

/-- The waiting router goes on, or keeps waiting. -/
theorem step_resume {k : κ} {m : μ} (h : r.waiting = some (k, m)) :
    r.step cap .resume = if r.receiver k = .gone then some { r with waiting := none }
      else if r.Full cap k then none else some { r.push k m with waiting := none } := by
  simp only [step, h]

omit [DecidableEq κ] in
theorem not_wedged_start : ¬ (start : Router κ μ).Wedged cap := by
  rintro ⟨k, m, hw, -⟩
  cases hw

/-- A step that is not unhurried wedges the router. -/
theorem wedged_of_not_unhurried (h : r.step cap a = some r') (hu : ¬ r.Unhurried cap a) :
    r'.Wedged cap := by
  cases a with
  | offer k m =>
      obtain ⟨hl, hf⟩ := not_not.mp hu
      simp only [step] at h
      split_ifs at h with h1 h2
      · rw [hl] at h2
        simp at h2
      · obtain rfl := Option.some.inj h
        exact ⟨k, m, rfl, hf, hl⟩
  | leave k =>
      obtain ⟨⟨m, hm⟩, hf⟩ := not_not.mp hu
      simp only [step] at h
      split_ifs at h with h1
      obtain rfl := Option.some.inj h
      exact ⟨k, m, hm, hf, by simp⟩
  | resume | take | unlink | close | join => exact absurd trivial hu

/-- An unhurried step does not wedge the router. -/
theorem not_wedged_of_unhurried (hw : ¬ r.Wedged cap) (h : r.step cap a = some r')
    (hu : r.Unhurried cap a) : ¬ r'.Wedged cap := by
  rintro ⟨k, m, hk, hf, hl⟩
  cases a with
  | offer j n =>
      simp only [step] at h
      split_ifs at h with h1 h2 h3
      · obtain rfl := Option.some.inj h
        exact hw ⟨k, m, hk, hf, hl⟩
      · obtain rfl := Option.some.inj h
        obtain ⟨rfl, rfl⟩ : j = k ∧ n = m := by simpa using hk
        exact hu ⟨hl, h3⟩
      · obtain rfl := Option.some.inj h
        simp only [push] at hk
        simp [hk] at h1
  | resume =>
      simp only [step] at h
      rcases hr : r.waiting with _ | ⟨j, n⟩
      · rw [hr] at h
        simp at h
      · rw [hr] at h
        simp only at h
        split_ifs at h <;> (obtain rfl := Option.some.inj h; cases hk)
  | take j =>
      simp only [step] at h
      split_ifs at h with h1
      rcases hq : r.queue j with _ | ⟨n, ms⟩
      · rw [hq] at h
        simp at h
      · rw [hq] at h
        obtain rfl := Option.some.inj h
        have hjk : k ≠ j := fun hjk => by simp [hjk, h1] at hl
        exact hw ⟨k, m, hk, by simpa [Full, hjk] using hf, hl⟩
  | leave j =>
      simp only [step] at h
      split_ifs at h with h1
      obtain rfl := Option.some.inj h
      by_cases hjk : k = j
      · subst hjk
        exact hu ⟨⟨m, hk⟩, hf⟩
      · exact hw ⟨k, m, hk, hf, by simpa [hjk] using hl⟩
  | unlink j =>
      simp only [step] at h
      split_ifs at h with h1
      obtain rfl := Option.some.inj h
      rw [Option.isNone_iff_eq_none.mp h1.1] at hk
      simp at hk
  | close j =>
      simp only [step] at h
      split_ifs at h with h1
      obtain rfl := Option.some.inj h
      have hjk : k ≠ j := fun hjk => by simp [hjk] at hl
      exact hw ⟨k, m, hk, hf, by simpa [hjk] using hl⟩
  | join j =>
      simp only [step] at h
      split_ifs at h with h1
      obtain rfl := Option.some.inj h
      have hjk : k ≠ j := fun hjk => by simp [hjk] at hl
      exact hw ⟨k, m, hk, by simpa [Full, hjk] using hf, by simpa [hjk] using hl⟩

/-- **Exactly the harmless steps.** -/
theorem not_wedged_step_iff (hw : ¬ r.Wedged cap) (h : r.step cap a = some r') :
    ¬ r'.Wedged cap ↔ r.Unhurried cap a := by
  constructor
  · intro hw'
    by_contra hu
    exact hw' (wedged_of_not_unhurried h hu)
  · exact not_wedged_of_unhurried hw h

/-- A wedge is never resolved, and the router keeps waiting for the same receiver. -/
theorem Wedged.step (hw : r.Wedged cap) (h : r.step cap a = some r') :
    r'.Wedged cap ∧ r'.waiting = r.waiting := by
  obtain ⟨k, m, hk, hf, hl⟩ := hw
  cases a with
  | offer j n => simp [Router.step, hk] at h
  | resume => simp [Router.step, hk, hl, hf] at h
  | take j =>
      simp only [Router.step] at h
      split_ifs at h with h1
      have hjk : k ≠ j := fun hjk => by simp [← hjk, hl] at h1
      rcases hq : r.queue j with _ | ⟨n, ms⟩
      · rw [hq] at h
        simp at h
      · rw [hq] at h
        obtain rfl := Option.some.inj h
        exact ⟨⟨k, m, hk, by simpa [Full, hjk] using hf, hl⟩, rfl⟩
  | leave j =>
      simp only [Router.step] at h
      split_ifs at h with h1
      obtain rfl := Option.some.inj h
      have hjk : k ≠ j := fun hjk => by simp [← hjk, hl] at h1
      exact ⟨⟨k, m, hk, hf, by simpa [hjk] using hl⟩, rfl⟩
  | unlink j => simp [Router.step, hk] at h
  | close j =>
      simp only [Router.step] at h
      split_ifs at h with h1
      obtain rfl := Option.some.inj h
      have hjk : k ≠ j := fun hjk => by simp [← hjk, hl] at h1
      exact ⟨⟨k, m, hk, hf, by simpa [hjk] using hl⟩, rfl⟩
  | join j =>
      simp only [Router.step] at h
      split_ifs at h with h1
      obtain rfl := Option.some.inj h
      have hjk : k ≠ j := fun hjk => by simp [← hjk, hl] at h1
      exact ⟨⟨k, m, hk, by simpa [Full, hjk] using hf, by simpa [hjk] using hl⟩, rfl⟩

end Router

end AdbHub.Lib
