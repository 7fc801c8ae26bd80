import AdbHub.HiddenDevices
import AdbHub.InitialPoll

/-!
# Leaving nodes out of a merge

What the devices of some nodes are shown as, with and without the lists of the others
(`registry.rs`, `merge_device_lists`, and `config.rs`, `filter_snapshot`).

* `Undisturbed` — the nodes that are left out do not meddle with the names of the others.
* **`mergeDeviceLists_keptLists`** — then leaving them out leaves the other devices as they are.
* `filterSnapshot_of_alike` — lists that are alike where nodes are enabled are shown alike.
-/

namespace AdbHub

open Lib

/-! ## The lists of some of the nodes -/

variable {keep : String → Bool} {lists lists' : List (BackendConfig × String)}

/-- The lists of some of the nodes. -/
def keptLists (keep : String → Bool) (lists : List (BackendConfig × String)) :
    List (BackendConfig × String) :=
  lists.filter fun list => keep list.1.name

/-- The nodes that are left out do not meddle with the names of the others: a serial of another node
is a conflict without them if it is one with them, and no line of another node that gets a numbered
name stands behind one of theirs. -/
structure Undisturbed (keep : String → Bool) (lists : List (BackendConfig × String)) : Prop where
  conflict : ∀ p ∈ parseLists lists, keep p.backend.name = true → Conflict lists p.serial →
    Conflict (keptLists keep lists) p.serial
  numbered : FallsBackAmong (candidateSerial (parseLists lists)) fallbackSerial
    (fun p => keep p.backend.name) (parseLists lists)

theorem parseLists_keptLists : parseLists (keptLists keep lists) =
    (parseLists lists).filter fun p => keep p.backend.name := by
  unfold parseLists keptLists
  rw [flatMap_filter, List.filter_flatMap]
  refine List.flatMap_congr fun list _ => ?_
  obtain ⟨backend, body⟩ := list
  dsimp only
  have hbackend : ∀ p ∈ (lines body).filterMap fun line => (parseDeviceLine line).map
      fun row => (⟨backend, row.1, row.2.1, row.2.2⟩ : ParsedDevice), p.backend = backend := by
    intro p hp
    obtain ⟨line, -, hline⟩ := List.mem_filterMap.mp hp
    obtain ⟨_, -, rfl⟩ := Option.map_eq_some_iff.mp hline
    rfl
  symm
  split_ifs with hkeep
  · exact List.filter_eq_self.mpr fun p hp => by rw [hbackend p hp, hkeep]
  · exact List.filter_eq_nil_iff.mpr fun p hp => by rw [hbackend p hp]; exact hkeep

theorem reportsOf_keptLists {keep : String → Bool} {lists : List (BackendConfig × String)} :
    reportsOf (keptLists keep lists) = (reportsOf lists).filter fun d => keep d.backendName := by
  unfold reportsOf
  rw [parseLists_keptLists, List.filter_map]
  rfl

/-- The device of a line that got a name. -/
def ParsedDevice.named (p : ParsedDevice) (publicSerial : String) : DeviceEntry :=
  { p.report with publicSerial := publicSerial }

/-- The merge names the lines and keeps the rest of them. -/
theorem devices_mergeDeviceLists (lists : List (BackendConfig × String)) :
    (mergeDeviceLists lists).devices =
      ((parseLists lists).zip (assignNames (candidateSerial (parseLists lists)) fallbackSerial
        (parseLists lists))).map fun line => line.1.named line.2 := by
  rw [← publicSerials_mergeDeviceLists, DeviceSnapshot.serials]
  have hentries := mergeDeviceLists_forall₂ lists
  generalize parseLists lists = parsed at hentries ⊢
  generalize (mergeDeviceLists lists).devices = devices at hentries ⊢
  induction hentries with
  | nil => rfl
  | @cons p d ps ds hentry _ ih =>
      rw [List.map_cons, List.zip_cons_cons, List.map_cons, ← ih]
      congr 1

/-- Without the nodes that are left out, the lines of the others ask for the same serials. -/
theorem candidateSerial_keptLists (h : Undisturbed keep lists) {p : ParsedDevice}
    (hp : p ∈ parseLists lists) (hkeep : keep p.backend.name = true) :
    candidateSerial (parseLists lists) p =
      candidateSerial (parseLists (keptLists keep lists)) p := by
  have hiff : Conflict lists p.serial ↔ Conflict (keptLists keep lists) p.serial := by
    refine ⟨h.conflict p hp hkeep, fun hconflict => ?_⟩
    have hsub : (parseLists (keptLists keep lists)).Sublist (parseLists lists) := by
      rw [parseLists_keptLists]
      exact List.filter_sublist
    exact Nat.lt_of_lt_of_le hconflict hsub.countP_le
  unfold candidateSerial
  exact if_congr hiff rfl rfl

/-- **Leaving nodes out.** The devices of the other nodes are those of their own lists, if the nodes
that are left out do not meddle with their names. -/
theorem mergeDeviceLists_keptLists (h : Undisturbed keep lists) :
    (mergeDeviceLists lists).devices.filter (fun d => keep d.backendName) =
      (mergeDeviceLists (keptLists keep lists)).devices := by
  rw [devices_mergeDeviceLists, devices_mergeDeviceLists, List.filter_map]
  have hnames := zip_assignNames_filter h.numbered
  rw [← parseLists_keptLists] at hnames
  rw [show ((fun d : DeviceEntry => keep d.backendName) ∘ fun line : ParsedDevice × String =>
    line.1.named line.2) = fun line => keep line.1.backend.name from rfl, hnames]
  congr 2
  refine assignNames_congr fun p hp => ?_
  rw [parseLists_keptLists] at hp
  obtain ⟨hmem, hkeep⟩ := List.mem_filter.mp hp
  exact candidateSerial_keptLists h hmem hkeep

/-- Some nodes, all those among them that are enabled, report the same in both lists, and the others
do not meddle with their names. -/
def AlikeWhereEnabled (policy : HubPolicySnapshot) (lists lists' : List (BackendConfig × String)) :
    Prop :=
  ∃ keep : String → Bool, (∀ name, policy.backendEnabled name = true → keep name = true) ∧
    reportsOf (keptLists keep lists) = reportsOf (keptLists keep lists') ∧
      Undisturbed keep lists ∧ Undisturbed keep lists'

/-- What is shown of two lists that are alike where nodes are enabled. -/
theorem filterSnapshot_of_alike {policy : HubPolicySnapshot}
    (h : AlikeWhereEnabled policy lists lists') :
    policy.filterSnapshot (mergeDeviceLists lists) =
      policy.filterSnapshot (mergeDeviceLists lists') := by
  obtain ⟨keep, henabled, hreports, hlists, hlists'⟩ := h
  have hkept : ∀ devices : List DeviceEntry,
      devices.filter (fun d => policy.backendEnabled d.backendName &&
        policy.deviceEnabled d.publicSerial) =
      (devices.filter fun d => keep d.backendName).filter fun d =>
        policy.backendEnabled d.backendName && policy.deviceEnabled d.publicSerial := by
    intro devices
    rw [List.filter_filter]
    refine List.filter_congr fun d _ => ?_
    by_cases hd : policy.backendEnabled d.backendName = true
    · simp [henabled _ hd]
    · simp [hd]
  unfold HubPolicySnapshot.filterSnapshot
  rw [hkept, hkept (mergeDeviceLists lists').devices, mergeDeviceLists_keptLists hlists,
    mergeDeviceLists_keptLists hlists', mergeDeviceLists_eq_iff.mpr hreports]

end AdbHub
