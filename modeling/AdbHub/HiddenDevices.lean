import AdbHub.HubPolicy

/-!
# Disabled devices when the lists change

The device policy goes by public serials, which the merge makes anew of all lists (`registry.rs`,
`merge_device_lists`, and `config.rs`, `filter_snapshot`).

* `HiddenDevice` — the device policy lets nothing of a device through.
* `hidden_iff` — a device without numbered names is hidden iff the serial it asks for is disabled.
* **`stays_hidden_iff`** — a hidden device stays hidden iff its serial is a conflict before and
  after or neither time, or both of its names are disabled.
-/

namespace AdbHub

open Lib

/-! ## Devices and their names -/

/-- The device that a node reports under this serial. -/
def IsDevice (name serial : String) (d : DeviceEntry) : Prop :=
  d.backendName = name ∧ d.upstreamSerial = serial

instance (name serial : String) : DecidablePred (IsDevice name serial) :=
  fun d => inferInstanceAs (Decidable (d.backendName = name ∧ d.upstreamSerial = serial))

/-- Line `i` of the lists is about this device. -/
def DeviceLine (lists : List (BackendConfig × String)) (name serial : String) (i : ℕ) : Prop :=
  ∃ p, (parseLists lists)[i]? = some p ∧ p.backend.name = name ∧ p.serial = serial

/-- Line `i` gets a numbered name: the serial it asks for is used already. -/
def Numbered (lists : List (BackendConfig × String)) (i : ℕ) : Prop :=
  FallsBack (candidateSerial (parseLists lists)) fallbackSerial (parseLists lists) i

/-- The serial is reported by more than one line. Source: `merge_device_lists`, `conflict`. -/
def Conflict (lists : List (BackendConfig × String)) (serial : String) : Prop :=
  serialCount (parseLists lists) serial > 1

instance (lists : List (BackendConfig × String)) (serial : String) :
    Decidable (Conflict lists serial) :=
  inferInstanceAs (Decidable (serialCount (parseLists lists) serial > 1))

/-- The device policy, whatever the nodes' flags, lets nothing of the device through. -/
def HiddenDevice (policy : DevicePolicyTable) (lists : List (BackendConfig × String))
    (name serial : String) : Prop :=
  ∀ d ∈ ((⟨policy, ∅⟩ : HubPolicySnapshot).filterSnapshot (mergeDeviceLists lists)).devices,
    ¬ IsDevice name serial d

variable {policy : DevicePolicyTable} {lists lists' : List (BackendConfig × String)}
  {name serial : String} {i : ℕ}

/-- A device is hidden if all its public serials are disabled. -/
theorem hiddenDevice_iff : HiddenDevice policy lists name serial ↔
    ∀ d ∈ (mergeDeviceLists lists).devices, IsDevice name serial d →
      policy.isEnabled d.publicSerial = false := by
  unfold HiddenDevice HubPolicySnapshot.filterSnapshot
  constructor
  · intro h d hd hdevice
    by_contra henabled
    refine h d (List.mem_filter.mpr ⟨hd, ?_⟩) hdevice
    simpa [HubPolicySnapshot.backendEnabled, HubPolicySnapshot.deviceEnabled] using henabled
  · intro h d hd hdevice
    obtain ⟨hmem, henabled⟩ := List.mem_filter.mp hd
    have hdisabled := h d hmem hdevice
    simp [HubPolicySnapshot.deviceEnabled, hdisabled] at henabled

/-- The lines of a device are its merged devices, one by one. -/
theorem exists_merged_of_deviceLine (h : DeviceLine lists name serial i) :
    ∃ d, (mergeDeviceLists lists).devices[i]? = some d ∧ IsDevice name serial d := by
  obtain ⟨p, hp, hname, hserial⟩ := h
  have hlen := (mergeDeviceLists_forall₂ lists).length_eq
  obtain ⟨hi, rfl⟩ := List.getElem?_eq_some_iff.mp hp
  have hentry := (mergeDeviceLists_forall₂ lists).get hi (hlen ▸ hi)
  refine ⟨_, List.getElem?_eq_getElem (hlen ▸ hi), ?_⟩
  unfold IsEntryOf at hentry
  rw [List.get_eq_getElem, List.get_eq_getElem] at hentry
  unfold IsDevice
  rw [hentry]
  exact ⟨hname, hserial⟩

theorem exists_deviceLine_of_merged {d : DeviceEntry} (hd : d ∈ (mergeDeviceLists lists).devices)
    (hdevice : IsDevice name serial d) :
    ∃ i, DeviceLine lists name serial i ∧ (mergeDeviceLists lists).devices[i]? = some d := by
  have hlen := (mergeDeviceLists_forall₂ lists).length_eq
  obtain ⟨i, hi, rfl⟩ := List.getElem_of_mem hd
  have hi' : i < (parseLists lists).length := by rwa [hlen]
  have hentry := (mergeDeviceLists_forall₂ lists).get hi' hi
  refine ⟨i, ⟨_, List.getElem?_eq_getElem hi', ?_, ?_⟩, List.getElem?_eq_getElem hi⟩
  · have hname := congrArg DeviceEntry.backendName hentry
    exact hname.symm.trans hdevice.1
  · have hserial := congrArg DeviceEntry.upstreamSerial hentry
    exact hserial.symm.trans hdevice.2

/-- The serial that the lines of a device ask for. Source: `merge_device_lists`, `public`. -/
def askedSerial (lists : List (BackendConfig × String)) (name serial : String) : String :=
  if Conflict lists serial then name ++ ":" ++ serial else serial

/-- The first line of all does not get a numbered name. -/
theorem not_numbered_zero (lists : List (BackendConfig × String)) : ¬ Numbered lists 0 := by
  intro h
  cases h with
  | repeated hj => exact absurd hj (Nat.not_lt_zero _)
  | chained hj => exact absurd hj (Nat.not_lt_zero _)

/-- A line without a numbered name gets what it asks for. -/
theorem publicSerial_of_not_numbered (h : DeviceLine lists name serial i)
    (hnumbered : ¬ Numbered lists i) {d : DeviceEntry}
    (hd : (mergeDeviceLists lists).devices[i]? = some d) :
    d.publicSerial = askedSerial lists name serial := by
  obtain ⟨p, hp, rfl, rfl⟩ := h
  have hserials : (mergeDeviceLists lists).serials[i]? = some d.publicSerial := by
    rw [DeviceSnapshot.serials, List.getElem?_map, hd]
    rfl
  rw [publicSerials_mergeDeviceLists, getElem?_assignNames_of_not_fallsBack hp hnumbered]
    at hserials
  exact (Option.some.inj hserials).symm

/-- A hidden device has the serial that it asks for disabled, if some line gets it. -/
theorem disabled_of_hidden (h : HiddenDevice policy lists name serial)
    (hline : ∃ i, DeviceLine lists name serial i ∧ ¬ Numbered lists i) :
    policy.isEnabled (askedSerial lists name serial) = false := by
  obtain ⟨i, hi, hnumbered⟩ := hline
  obtain ⟨d, hd, hdevice⟩ := exists_merged_of_deviceLine hi
  rw [← publicSerial_of_not_numbered hi hnumbered hd]
  exact hiddenDevice_iff.mp h d (List.mem_of_getElem? hd) hdevice

/-- **When a device is hidden.** If the device is there and none of its lines gets a numbered name,
it is hidden iff the serial that it asks for is disabled. -/
theorem hidden_iff (hthere : ∃ i, DeviceLine lists name serial i)
    (hnumbered : ∀ i, DeviceLine lists name serial i → ¬ Numbered lists i) :
    HiddenDevice policy lists name serial ↔
      policy.isEnabled (askedSerial lists name serial) = false := by
  constructor
  · intro h
    obtain ⟨i, hi⟩ := hthere
    exact disabled_of_hidden h ⟨i, hi, hnumbered i hi⟩
  · intro h
    rw [hiddenDevice_iff]
    intro d hd hdevice
    obtain ⟨i, hi, hget⟩ := exists_deviceLine_of_merged hd hdevice
    rw [publicSerial_of_not_numbered hi (hnumbered i hi) hget, h]

/-- **When a hidden device stays hidden.** Some line of the device gets the serial it asks for in
the first lists, and all of them do in the second ones. If the device policy hides the device in the
first lists, it does so in the second ones iff the serial is a conflict in both or in neither, or
both names of the device are disabled.
Source: `README.md`, "public serial for devices"; `registry.rs`, `merge_device_lists` -/
theorem stays_hidden_iff
    (hfirst : ∃ i, DeviceLine lists name serial i ∧ ¬ Numbered lists i)
    (hthere : ∃ i, DeviceLine lists' name serial i)
    (hsecond : ∀ i, DeviceLine lists' name serial i → ¬ Numbered lists' i)
    (hhidden : HiddenDevice policy lists name serial) :
    HiddenDevice policy lists' name serial ↔
      (Conflict lists serial ↔ Conflict lists' serial) ∨
        (policy.isEnabled serial = false ∧ policy.isEnabled (name ++ ":" ++ serial) = false) := by
  have hdisabled := disabled_of_hidden hhidden hfirst
  rw [hidden_iff hthere hsecond]
  unfold askedSerial at hdisabled ⊢
  by_cases hconflict : Conflict lists serial
  · by_cases hconflict' : Conflict lists' serial
    · simp_all
    · simp_all
  · by_cases hconflict' : Conflict lists' serial
    · simp_all
    · simp_all

/-- The lists of two nodes. -/
def officeAndLab (office lab : String) : List (BackendConfig × String) :=
  [(⟨"office", .loopback 5041, none, true⟩, office), (⟨"lab", .loopback 5042, none, true⟩, lab)]

/-- The policy that disables `ABC`. -/
def withoutAbc : DevicePolicyTable := .fromEntries [⟨"ABC", false⟩]

/-- A disabled device stays hidden when another device comes. -/
theorem stays_hidden_next_to_other :
    HiddenDevice withoutAbc (officeAndLab "ABC\tdevice\n" "XYZ\tdevice\n") "office" "ABC" := by
  have hfirst : DeviceLine (officeAndLab "ABC\tdevice\n" "") "office" "ABC" 0 :=
    ⟨⟨⟨"office", .loopback 5041, none, true⟩, "ABC", "device", ""⟩, by decide +kernel, rfl, rfl⟩
  have hlines : parseLists (officeAndLab "ABC\tdevice\n" "XYZ\tdevice\n") =
      [⟨⟨"office", .loopback 5041, none, true⟩, "ABC", "device", ""⟩,
       ⟨⟨"lab", .loopback 5042, none, true⟩, "XYZ", "device", ""⟩] := by decide +kernel
  have hsecond : DeviceLine (officeAndLab "ABC\tdevice\n" "XYZ\tdevice\n") "office" "ABC" 0 :=
    ⟨⟨⟨"office", .loopback 5041, none, true⟩, "ABC", "device", ""⟩, by rw [hlines]; rfl, rfl, rfl⟩
  have honly : ∀ i, DeviceLine (officeAndLab "ABC\tdevice\n" "XYZ\tdevice\n") "office" "ABC" i →
      i = 0 := by
    rintro i ⟨p, hp, hname, -⟩
    rw [hlines] at hp
    rcases i with _ | _ | i
    · rfl
    · obtain rfl := Option.some.inj hp
      exact absurd hname (by decide)
    · cases hp
  refine (stays_hidden_iff ⟨0, hfirst, not_numbered_zero _⟩ ⟨0, hsecond⟩ ?_ ?_).mpr ?_
  · intro i hi
    rw [honly i hi]
    exact not_numbered_zero _
  · unfold HiddenDevice
    decide +kernel
  · exact .inl (iff_of_false (by decide +kernel) (by decide +kernel))

/-- A disabled device is shown when another node reports its serial, too. -/
theorem shown_after_conflict :
    HiddenDevice withoutAbc (officeAndLab "ABC\tdevice\n" "") "office" "ABC" ∧
      (mergeDeviceLists (officeAndLab "ABC\tdevice\n" "")).serials = ["ABC"] ∧
      ((⟨withoutAbc, ∅⟩ : HubPolicySnapshot).filterSnapshot
        (mergeDeviceLists (officeAndLab "ABC\tdevice\n" "ABC\tdevice\n"))).serials =
          ["office:ABC", "lab:ABC"] ∧
      ¬ HiddenDevice withoutAbc (officeAndLab "ABC\tdevice\n" "ABC\tdevice\n") "office" "ABC" := by
  unfold HiddenDevice
  exact ⟨by decide +kernel, by decide +kernel, by decide +kernel, by decide +kernel⟩

end AdbHub
