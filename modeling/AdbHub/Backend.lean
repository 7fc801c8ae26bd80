import AdbHub.Registry
import AdbHub.Lib.Publish

/-!
# The backend poller

The tasks that keep the device registry up to date (`backend.rs`): one watcher per backend stores
the newest body of its backend in a map they share, and then publishes the merge of the map.

* `SeededMap` — the shared map after the seed poll: every configured backend has an entry.
* `pollerMachine` — any number of watchers, each storing, copying the lists under the lock, and
  updating the registry after the lock is released.
* `pollerSimulation` — the poller is the library's `Publisher`: the lists are the shared value, the
  registry is what is published of it.
* **`registry_current_iff`** — between publishes the registry is the merge of the shared map, and
  no older merge is still to come, exactly when the watchers update the registry in the order in
  which they copied the lists.
-/

namespace AdbHub

open Lib

/-! ## The shared map -/

/-- Backend name → backend and body. Source: `backend.rs`, `run_backend_poller`, `shared`. -/
abbrev SharedMap := AList fun _ : String => BackendConfig × String

/-- Source: `backend.rs`, `run_backend_watcher` and `watch_track_devices`, `guard.insert`. -/
def storeBody (shared : SharedMap) (backend : BackendConfig) (body : String) : SharedMap :=
  shared.insert backend.name (backend, body)

/-- The entries of the configured backends, in configuration order; nothing before every one of
them has an entry. Source: `backend.rs`, `publish_shared`. -/
def copyLists (order : List BackendConfig) (shared : SharedMap) :
    Option (List (BackendConfig × String)) :=
  if order.all fun b => decide (b.name ∈ shared) then
    some (order.filterMap fun b => shared.lookup b.name)
  else none

/-- The body of every configured backend at the start. Source: `backend.rs`,
`run_backend_poller`. -/
def seedShared (seeds : List (BackendConfig × String)) : SharedMap :=
  seeds.foldl (fun shared (backend, body) => storeBody shared backend body) ∅

theorem mem_seedShared {seeds : List (BackendConfig × String)} {seed : BackendConfig × String}
    (h : seed ∈ seeds) : seed.1.name ∈ seedShared seeds := by
  unfold seedShared
  induction seeds using List.reverseRecOn with
  | nil => cases h
  | append_singleton seeds s ih =>
      rw [List.foldl_append, List.foldl_cons, List.foldl_nil]
      change _ ∈ AList.insert s.1.name s _
      rw [AList.mem_insert]
      rcases List.mem_append.mp h with h | h
      · exact .inr (ih h)
      · exact .inl (by rw [List.mem_singleton.mp h])

/-- A shared map with an entry for every configured backend. -/
structure SeededMap (order : List BackendConfig) where
  map : SharedMap
  seeded : ∀ b ∈ order, b.name ∈ map

namespace SeededMap

variable {order : List BackendConfig}

/-- The map after the seed poll. -/
def seed (seeds : List (BackendConfig × String)) : SeededMap (seeds.map Prod.fst) where
  map := seedShared seeds
  seeded b hb := by
    obtain ⟨s, hs, rfl⟩ := List.mem_map.mp hb
    exact mem_seedShared hs

/-- Storing a body keeps the other entries. -/
def store (m : SeededMap order) (backend : BackendConfig) (body : String) : SeededMap order where
  map := storeBody m.map backend body
  seeded b hb := by
    rw [storeBody, AList.mem_insert]
    exact .inr (m.seeded b hb)

/-- The entries in configuration order. -/
def inOrder (m : SeededMap order) : List (BackendConfig × String) :=
  order.filterMap fun b => m.map.lookup b.name

/-- Once the map is seeded every publish copies the lists. -/
@[simp] theorem copyLists_eq (m : SeededMap order) : copyLists order m.map = some m.inOrder := by
  have hall : (order.all fun b => decide (b.name ∈ m.map)) = true := by
    rw [List.all_eq_true]
    exact fun b hb => decide_eq_true (m.seeded b hb)
  rw [copyLists, if_pos hall]
  rfl

end SeededMap

/-! ## The watchers -/

/-- Where a watcher stands. Source: `backend.rs`, `run_backend_watcher` and `publish_shared`. -/
inductive Watcher
  /-- It waits for an update, a reconnect or the next poll. -/
  | idle
  /-- It stored a body and is about to copy the lists. -/
  | stored
  /-- It copied the lists, released the lock and is about to update the registry. Copies are
  numbered in the order in which they are taken. -/
  | copied (number : ℕ) (lists : List (BackendConfig × String))
  deriving DecidableEq

/-- The poller's shared state and its watchers. -/
structure Poller (order : List BackendConfig) where
  shared : SeededMap order
  registry : DeviceRegistry
  watcher : ℕ → Watcher
  /-- How many copies were taken. -/
  copies : ℕ
  /-- The copy from which the registry was last updated. -/
  applied : ℕ

/-- What watcher `i` does next. -/
inductive PollerEvent
  /-- Store a body: an update of `track-devices-l`, a polled list, or nothing after a failed
  poll. -/
  | store (i : ℕ) (body : String)
  /-- Copy the lists under the lock. -/
  | copy (i : ℕ)
  /-- Update the registry. -/
  | update (i : ℕ)

namespace Poller

variable {order : List BackendConfig}

/-- One step of a watcher; watcher `i` watches `watched[i]`. Source: `backend.rs`,
`run_backend_watcher` and `publish_shared`. -/
def step (watched : List BackendConfig) (s : Poller order) : PollerEvent → Option (Poller order)
  | .store i body =>
      match watched[i]?, s.watcher i with
      | some backend, .idle =>
          some { s with
            shared := s.shared.store backend body
            watcher := Function.update s.watcher i .stored }
      | _, _ => none
  | .copy i =>
      match s.watcher i with
      | .stored =>
          match copyLists order s.shared.map with
          | none => some { s with watcher := Function.update s.watcher i .idle }
          | some lists =>
              some { s with
                watcher := Function.update s.watcher i (.copied (s.copies + 1) lists)
                copies := s.copies + 1 }
      | _ => none
  | .update i =>
      match s.watcher i with
      | .copied number lists =>
          some { s with
            registry := s.registry.updateFromBackendLists lists
            watcher := Function.update s.watcher i .idle
            applied := number }
      | _ => none

/-- In a state in which no watcher is between its store and the end of its publish, the registry
is the merge of the shared map; and no watcher is about to update the registry with a merge that
is older than the one there. -/
def RegistryCurrent (s : Poller order) : Prop :=
  ((∀ i, s.watcher i = .idle) → s.registry.inner = mergeDeviceLists s.shared.inOrder) ∧
    ∀ i number lists, s.watcher i = .copied number lists → s.applied < number

/-- A watcher updates the registry only if no watcher holds lists that were copied earlier. -/
def UpdatesInOrder (s : Poller order) : PollerEvent → Prop
  | .update i =>
      ∀ n l j m l', s.watcher i = .copied n l → s.watcher j = .copied m l' → n ≤ m
  | _ => True

end Poller

/-- The poller after its seed poll, with a watcher for each of `watched`. Source: `backend.rs`,
`run_backend_poller`. -/
def pollerMachine (seeds : List (BackendConfig × String)) (watched : List BackendConfig)
    (registry : DeviceRegistry) : Machine (Poller (seeds.map Prod.fst)) PollerEvent where
  init :=
    { shared := .seed seeds
      registry := registry.updateFromBackendLists (SeededMap.seed seeds).inOrder
      watcher := fun _ => .idle
      copies := 0
      applied := 0 }
  step := Poller.step watched

/-! ## The poller publishes -/

/-- A watcher as a worker of the library. -/
def Watcher.worker : Watcher → Worker (List (BackendConfig × String))
  | .idle => .idle
  | .stored => .written
  | .copied number lists => .holding number lists

theorem Watcher.worker_eq_idle {w : Watcher} : w.worker = .idle ↔ w = .idle := by
  cases w <;> simp [worker]

theorem Watcher.worker_eq_holding {w : Watcher} {n : ℕ} {lists : List (BackendConfig × String)} :
    w.worker = .holding n lists ↔ w = .copied n lists := by
  cases w <;> simp [worker]

namespace Poller

variable {order : List BackendConfig}

/-- The lists are shared, and the registry is published. -/
def publisher (s : Poller order) :
    Publisher ℕ (List (BackendConfig × String)) DeviceSnapshot where
  shared := s.shared.inOrder
  published := s.registry.inner
  worker := Watcher.worker ∘ s.watcher
  copies := s.copies
  last := s.applied

/-- What a watcher's step is to the publisher. -/
def action (watched : List BackendConfig) (s : Poller order) :
    PollerEvent → Option (PublishAction ℕ (List (BackendConfig × String)))
  | .store i body => (watched[i]?).map fun backend => .write i (s.shared.store backend body).inOrder
  | .copy i => some (.copy i)
  | .update i => some (.publish i)

variable {watched : List BackendConfig} {s t : Poller order}

/-- Each step of a watcher is the step of a publisher. -/
theorem publisher_step {event : PollerEvent} (h : s.step watched event = some t) :
    ∃ b, s.action watched event = some b ∧
      s.publisher.step mergeDeviceLists b = some t.publisher := by
  cases event with
  | store i body =>
      rcases hb : watched[i]? with _ | backend
      · simp [step, hb] at h
      rcases hi : s.watcher i with _ | _ | ⟨n, l⟩
      · simp only [step, hb, hi, Option.some.injEq] at h
        subst h
        refine ⟨.write i (s.shared.store backend body).inOrder, by simp [action, hb], ?_⟩
        simp [Publisher.step, publisher, hi, Watcher.worker, Function.comp_update]
      · simp [step, hb, hi] at h
      · simp [step, hb, hi] at h
  | copy i =>
      rcases hi : s.watcher i with _ | _ | ⟨n, l⟩
      · simp [step, hi] at h
      · simp only [step, hi, SeededMap.copyLists_eq, Option.some.injEq] at h
        subst h
        refine ⟨.copy i, rfl, ?_⟩
        simp [Publisher.step, publisher, hi, Watcher.worker, Function.comp_update]
      · simp [step, hi] at h
  | update i =>
      rcases hi : s.watcher i with _ | _ | ⟨n, l⟩
      · simp [step, hi] at h
      · simp [step, hi] at h
      · simp only [step, hi, Option.some.injEq] at h
        subst h
        refine ⟨.publish i, rfl, ?_⟩
        simp [Publisher.step, publisher, hi, Watcher.worker, Function.comp_update,
          DeviceRegistry.updateFromBackendLists]

theorem current_publisher : s.publisher.Current mergeDeviceLists ↔ s.RegistryCurrent := by
  simp [Publisher.Current, RegistryCurrent, publisher, Watcher.worker_eq_idle,
    Watcher.worker_eq_holding]

theorem inOrder_iff (event : PollerEvent) :
    (∀ b, s.action watched event = some b → s.publisher.InOrder b) ↔ s.UpdatesInOrder event := by
  cases event with
  | store i body =>
      refine iff_of_true (fun b hb => ?_) trivial
      obtain ⟨backend, -, rfl⟩ := Option.map_eq_some_iff.mp hb
      trivial
  | copy i => simp [action, Publisher.InOrder, UpdatesInOrder]
  | update i =>
      simp [action, Publisher.InOrder, UpdatesInOrder, publisher, Watcher.worker_eq_holding]

end Poller

variable (seeds : List (BackendConfig × String)) (watched : List BackendConfig)
  (registry : DeviceRegistry)

/-- The poller refines the library's publisher. -/
def pollerSimulation :
    Simulation (pollerMachine seeds watched registry)
      (Publisher.machine mergeDeviceLists (SeededMap.seed seeds).inOrder :
        Machine (Publisher ℕ _ _) _) where
  abs := Poller.publisher
  act := Poller.action watched
  inv _ := True
  inv_init := trivial
  inv_step _ _ := trivial
  abs_init := rfl
  mirrors _ h := .inr (Poller.publisher_step h)

variable {seeds watched registry}

/-- **The registry is current, exactly.** The states of a run are current iff the watchers update
the registry in the order in which they copied the lists.
Source: `backend.rs`, `publish_shared` -/
theorem registry_current_iff {events : List PollerEvent} {s : Poller (seeds.map Prod.fst)}
    (h : (pollerMachine seeds watched registry).Reaches events s) :
    (pollerMachine seeds watched registry).Always Poller.RegistryCurrent events ↔
      (pollerMachine seeds watched registry).Run Poller.UpdatesInOrder events s := by
  have hsim := (pollerSimulation seeds watched registry).always_iff_run
    (fun _ _ => Publisher.numbered_of_run) (Publisher.numbered_init _).current
    (fun _ _ _ hI _ hs => Publisher.current_step_iff hI hs) h
  have hcur : (fun s => ((pollerSimulation seeds watched registry).abs s).Current
      mergeDeviceLists) = Poller.RegistryCurrent :=
    funext fun s => propext Poller.current_publisher
  rw [hcur] at hsim
  exact hsim.trans (Machine.run_congr fun s a => Poller.inOrder_iff a)

/-- Two backends that had no devices at the seed poll. -/
def twoSeeds : List (BackendConfig × String) :=
  [(⟨"office", .loopback 5041, some "abc12345", true⟩, ""),
   (⟨"lab", .loopback 5042, some "xyz12345", true⟩, "")]

/-- Both backends report a device. The two publishes overlap and end with watcher `i`, then
watcher `j`. -/
def overlapping (i j : ℕ) : List PollerEvent :=
  [.store 0 "ABC\tdevice\n", .copy 0, .store 1 "XYZ\tdevice\n", .copy 1, .update i, .update j]

/-- Overlapping publishes that end in the order of their copies. -/
theorem overlapping_in_order_current :
    (pollerMachine twoSeeds (twoSeeds.map Prod.fst) {}).Always Poller.RegistryCurrent
      (overlapping 0 1) := by
  have hrun : ∃ s, (pollerMachine twoSeeds (twoSeeds.map Prod.fst) {}).Run Poller.UpdatesInOrder
      (overlapping 0 1) s := by
    refine ⟨_, .snoc (.snoc (.snoc (.snoc (.snoc (.snoc .init trivial rfl) trivial rfl) trivial
      rfl) trivial rfl) ?_ rfl) ?_ rfl⟩
    · intro n l j m l' hi hj
      cases (show Watcher.copied 1 _ = .copied n l from hi)
      rcases j with _ | _ | j
      · cases (show Watcher.copied 1 _ = .copied m l' from hj)
        decide
      · cases (show Watcher.copied 2 _ = .copied m l' from hj)
        decide
      · cases hj
    · intro n l j m l' hi hj
      cases (show Watcher.copied 2 _ = .copied n l from hi)
      rcases j with _ | _ | j
      · cases hj
      · cases (show Watcher.copied 2 _ = .copied m l' from hj)
        decide
      · cases hj
  obtain ⟨s, hs⟩ := hrun
  exact (registry_current_iff hs.reaches).mpr hs

/-- When the watcher with the older copy updates last, both watchers are done and the device of
the other backend is missing from the registry. -/
theorem overtaken_update_lost :
    ∃ s, (pollerMachine twoSeeds (twoSeeds.map Prod.fst) {}).Reaches (overlapping 1 0) s ∧
      (∀ i, s.watcher i = .idle) ∧ s.registry.inner.serials = ["ABC"] ∧
      (mergeDeviceLists s.shared.inOrder).serials = ["ABC", "XYZ"] := by
  refine ⟨_, Machine.reaches_of_exec rfl, fun i => ?_, ?_, ?_⟩
  · rcases i with _ | _ | i <;> rfl
  · decide +kernel
  · decide +kernel

end AdbHub
