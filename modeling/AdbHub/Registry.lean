import AdbHub.Config
import AdbHub.Lib.Text
import AdbHub.Lib.FreshNames

/-!
# The device registry

Device entries, the snapshot shown to clients, and the merge of the raw `devices -l` bodies of
the backends into one snapshot (`registry.rs`).

* `parseDeviceLine`, `parseLists` — one line, and all lines of all backends.
* `mergeDeviceLists` — the merge loop with its three naming schemes: the raw serial, `name:serial`
  on a conflict, and `name:serial:index` when that name is used already.
* `publicSerials_mergeDeviceLists` — the public serials are the library's `assignNames` for the
  candidate and fallback names of the parsed lines, so what is known of it applies.
* **`mergeDeviceLists_serials_nodup_iff`** — the public serials are pairwise distinct exactly when
  no line falls back to a name that an earlier line has as its first choice.
-/

namespace AdbHub

open Lib

/-! ## Snapshots -/

/-- A device as the hub shows it. Source: `registry.rs`, `DeviceEntry`. -/
structure DeviceEntry where
  /-- Serial as seen by clients (may be rewritten on conflict). -/
  publicSerial : String
  /-- Serial to send to the upstream adb server. -/
  upstreamSerial : String
  state : String
  /-- Extra columns from `devices -l`. -/
  extras : String
  backendName : String
  backendAddr : SocketAddr
  pairCode : Option String
  /-- Route token of a private device; `none` for a device of the shared backend. -/
  routeId : Option String
  deriving DecidableEq

/-- A list of devices. Source: `registry.rs`, `DeviceSnapshot`. -/
structure DeviceSnapshot where
  devices : List DeviceEntry := []
  deriving DecidableEq

namespace DeviceSnapshot

/-- The first device with a public serial. Source: `DeviceSnapshot::find`. -/
def find (s : DeviceSnapshot) (publicSerial : String) : Option DeviceEntry :=
  s.devices.find? fun d => d.publicSerial = publicSerial

/-- The body of `host:devices` and `host:devices-l`. Source: `DeviceSnapshot::format_devices`. -/
def formatDevices (s : DeviceSnapshot) (long : Bool) : String :=
  s.devices.foldl (fun out d =>
    if long then
      if d.extras = "" then out ++ (d.publicSerial ++ "\t" ++ d.state ++ "\n")
      else out ++ (d.publicSerial ++ "\t" ++ d.state ++ " " ++ d.extras ++ "\n")
    else out ++ (d.publicSerial ++ "\t" ++ d.state ++ "\n")) ""

/-- The public serials, in order. -/
def serials (s : DeviceSnapshot) : List String := s.devices.map DeviceEntry.publicSerial

/-- Where the public serials are pairwise distinct, a shown serial selects its own device. -/
theorem find_of_nodup {s : DeviceSnapshot} (h : s.serials.Nodup) {d : DeviceEntry}
    (hd : d ∈ s.devices) : s.find d.publicSerial = some d := by
  obtain ⟨devices⟩ := s
  unfold find serials at *
  induction devices with
  | nil => cases hd
  | cons e es ih =>
      simp only [List.map_cons, List.nodup_cons, List.mem_map, not_exists, not_and] at h
      rcases List.mem_cons.mp hd with rfl | hd'
      · simp
      · have hne : e.publicSerial ≠ d.publicSerial := fun heq => h.1 d hd' heq.symm
        simpa [hne] using ih h.2 hd'

/-- No device is found under a serial that no device shows. -/
theorem find_eq_none_of_forall {s : DeviceSnapshot} {serial : String}
    (h : ∀ d ∈ s.devices, d.publicSerial ≠ serial) : s.find serial = none := by
  rw [find, List.find?_eq_none]
  intro d hd
  simpa using h d hd

end DeviceSnapshot

/-! ## Parsing device lists -/

/-- One line of `adb devices` / `devices -l` output: serial, state, remaining columns.
Source: `registry.rs`, `parse_device_line`. -/
def parseDeviceLine (line : String) : Option (String × String × String) :=
  let line := trim line
  if line = "" || startsWith line "*" || startsWith line "List of" then none
  else match splitWhitespace line with
    | serial :: state :: extras => some (serial, state, join " " extras)
    | _ => none

/-- A parsed line together with the backend that reported it. -/
structure ParsedDevice where
  backend : BackendConfig
  serial : String
  state : String
  extras : String
  deriving DecidableEq

/-- The first pass over the lists. Source: `registry.rs`, `merge_device_lists`. -/
def parseLists (lists : List (BackendConfig × String)) : List ParsedDevice :=
  lists.flatMap fun (backend, body) =>
    (lines body).filterMap fun line =>
      (parseDeviceLine line).map fun (serial, state, extras) => ⟨backend, serial, state, extras⟩

/-! ## Merging -/

/-- How often a serial occurs over all backends. Source: `merge_device_lists`,
`serial_counts`. -/
def serialCount (parsed : List ParsedDevice) (serial : String) : ℕ :=
  parsed.countP fun p => p.serial = serial

/-- The serial a line asks for: its own, or `name:serial` when the serial is reported more than
once. Source: `merge_device_lists`, `public`. -/
def candidateSerial (parsed : List ParsedDevice) (p : ParsedDevice) : String :=
  if serialCount parsed p.serial > 1 then p.backend.name ++ ":" ++ p.serial else p.serial

/-- The serial a line gets when the one it asks for is used; `index` is the number of devices
merged so far. Source: `merge_device_lists`, the fallback format. -/
def fallbackSerial (p : ParsedDevice) (index : ℕ) : String :=
  p.backend.name ++ ":" ++ p.serial ++ ":" ++ index.repr

/-- One round of the second pass: name the line, remember the name, push the device. -/
def mergeStep (parsed : List ParsedDevice) (acc : List String × List DeviceEntry)
    (p : ParsedDevice) : List String × List DeviceEntry :=
  let (usedPublic, devices) := acc
  let candidate := candidateSerial parsed p
  let publicSerial :=
    if candidate ∈ usedPublic then fallbackSerial p devices.length else candidate
  (publicSerial :: usedPublic,
    devices ++ [{ publicSerial := publicSerial
                  upstreamSerial := p.serial
                  state := p.state
                  extras := p.extras
                  backendName := p.backend.name
                  backendAddr := p.backend.addr
                  pairCode := p.backend.pairCode
                  routeId := none }])

/-- Merge the raw bodies of the backends. Source: `registry.rs`, `merge_device_lists`. -/
def mergeDeviceLists (lists : List (BackendConfig × String)) : DeviceSnapshot :=
  let parsed := parseLists lists
  ⟨(parsed.foldl (mergeStep parsed) ([], [])).2⟩

/-- The registry shared by the tasks of the hub. Source: `registry.rs`, `DeviceRegistry`. -/
structure DeviceRegistry where
  inner : DeviceSnapshot := {}
  /-- How often the broadcast channel `notify` was sent to. -/
  notified : ℕ := 0

/-- Replace the contents by the merge of raw lists. Source:
`DeviceRegistry::update_from_backend_lists`. -/
def DeviceRegistry.updateFromBackendLists (r : DeviceRegistry)
    (lists : List (BackendConfig × String)) : DeviceRegistry :=
  let merged := mergeDeviceLists lists
  { inner := merged
    notified := if r.inner.devices ≠ merged.devices then r.notified + 1 else r.notified }

example :
    (mergeDeviceLists
      [(⟨"office", .loopback 1, none, true⟩, "SAME\tdevice\n"),
       (⟨"lab", .loopback 2, none, true⟩, "SAME\toffline\n")]).serials =
      ["office:SAME", "lab:SAME"] := by decide +kernel

/-- The loop keeps the used names equal to the serials of the devices so far, and names them as
`assignNames` does. -/
theorem mergeStep_foldl (parsed ps : List ParsedDevice) :
    (ps.foldl (mergeStep parsed) ([], [])).2.map DeviceEntry.publicSerial =
        assignNames (candidateSerial parsed) fallbackSerial ps ∧
      ∀ n, n ∈ (ps.foldl (mergeStep parsed) ([], [])).1 ↔
        n ∈ assignNames (candidateSerial parsed) fallbackSerial ps := by
  induction ps using List.reverseRecOn with
  | nil => simp [assignNames]
  | append_singleton ps p ih =>
      obtain ⟨hnames, hused⟩ := ih
      have hlen : (ps.foldl (mergeStep parsed) ([], [])).2.length =
          (assignNames (candidateSerial parsed) fallbackSerial ps).length := by
        rw [← hnames, List.length_map]
      simp only [List.foldl_append, List.foldl_cons, List.foldl_nil, assignNames_snoc, mergeStep,
        pickName, hused, hlen]
      refine ⟨by simp [hnames], fun n => ?_⟩
      simp [hused, or_comm]

theorem publicSerials_mergeDeviceLists (lists : List (BackendConfig × String)) :
    (mergeDeviceLists lists).serials =
      assignNames (candidateSerial (parseLists lists)) fallbackSerial (parseLists lists) :=
  (mergeStep_foldl (parseLists lists) (parseLists lists)).1

/-- A merged device keeps what its line and its backend say; only the public serial is chosen by
the merge. -/
def IsEntryOf (p : ParsedDevice) (d : DeviceEntry) : Prop :=
  d = { publicSerial := d.publicSerial, upstreamSerial := p.serial, state := p.state,
        extras := p.extras, backendName := p.backend.name, backendAddr := p.backend.addr,
        pairCode := p.backend.pairCode, routeId := none }

/-- The loop pushes one device for each line. -/
theorem mergeStep_foldl_forall₂ (parsed ps : List ParsedDevice) :
    List.Forall₂ IsEntryOf ps (ps.foldl (mergeStep parsed) ([], [])).2 := by
  induction ps using List.reverseRecOn with
  | nil => exact List.Forall₂.nil
  | append_singleton ps p ih =>
      rw [List.foldl_append]
      exact List.rel_append ih (List.Forall₂.cons rfl List.Forall₂.nil)

/-- The merged devices are the lines of the backends, one by one. -/
theorem mergeDeviceLists_forall₂ (lists : List (BackendConfig × String)) :
    List.Forall₂ IsEntryOf (parseLists lists) (mergeDeviceLists lists).devices :=
  mergeStep_foldl_forall₂ (parseLists lists) (parseLists lists)

/-- Every merged device comes from a line of one of the backends. -/
theorem exists_parsed_of_mem {lists : List (BackendConfig × String)} {d : DeviceEntry}
    (hd : d ∈ (mergeDeviceLists lists).devices) : ∃ p ∈ parseLists lists, IsEntryOf p d := by
  obtain ⟨i, hi, rfl⟩ := List.getElem_of_mem hd
  have hlen := (mergeDeviceLists_forall₂ lists).length_eq
  have hi' : i < (parseLists lists).length := by rwa [hlen]
  exact ⟨(parseLists lists)[i], List.getElem_mem hi', (mergeDeviceLists_forall₂ lists).get hi' hi⟩

/-- A line of the body is read as this serial in this state. -/
def Reports (body serial state : String) : Prop :=
  ∃ line ∈ lines body, ∃ extras, parseDeviceLine line = some (serial, state, extras)

/-- A parsed line stands in the body of its backend. -/
theorem exists_body_of_parsed {lists : List (BackendConfig × String)} {p : ParsedDevice}
    (hp : p ∈ parseLists lists) :
    ∃ body, (p.backend, body) ∈ lists ∧ Reports body p.serial p.state := by
  unfold parseLists at hp
  obtain ⟨⟨backend, body⟩, hmem, hp⟩ := List.mem_flatMap.mp hp
  obtain ⟨line, hline, hparse⟩ := List.mem_filterMap.mp hp
  obtain ⟨⟨serial, state, extras⟩, hsome, rfl⟩ := Option.map_eq_some_iff.mp hparse
  exact ⟨body, hmem, line, hline, extras, hsome⟩

/-- A fallback serial ends in the index it was made for. -/
theorem fallbackSerial_index (p q : ParsedDevice) (i j : ℕ)
    (h : fallbackSerial p i = fallbackSerial q j) : i = j :=
  (append_repr_inj h).2

/-- Some line of the lists falls back to a name that an earlier line has as its first choice. -/
def FallbackSerialTaken (lists : List (BackendConfig × String)) : Prop :=
  FallbackTaken (candidateSerial (parseLists lists)) fallbackSerial (parseLists lists)

/-- **Distinct public serials, exactly.** The merged public serials are pairwise distinct, and
each of them selects its own device, iff no line falls back to a name that an earlier line has
as its first choice.
Source: `registry.rs`, `merge_device_lists` ("keep public serials unique") -/
theorem mergeDeviceLists_serials_nodup_iff (lists : List (BackendConfig × String)) :
    ((mergeDeviceLists lists).serials.Nodup ∧
        ∀ d ∈ (mergeDeviceLists lists).devices,
          (mergeDeviceLists lists).find d.publicSerial = some d) ↔
      ¬ FallbackSerialTaken lists := by
  have hiff : (mergeDeviceLists lists).serials.Nodup ↔ ¬ FallbackSerialTaken lists := by
    rw [publicSerials_mergeDeviceLists]
    exact nodup_assignNames_iff fallbackSerial_index
  rw [← hiff]
  exact and_iff_left_of_imp fun h d hd => DeviceSnapshot.find_of_nodup h hd

/-- The body with which a single backend makes the merge repeat a public serial: `X` is reported
twice, and the fallback name of its second report is the raw serial of another device. -/
def repeatedSerialLists : List (BackendConfig × String) :=
  [(⟨"a", .loopback 5038, none, true⟩, "a:X:2\tdevice\nX\tdevice\nX\tdevice\n")]

theorem mergeDeviceLists_repeats_serial :
    (mergeDeviceLists repeatedSerialLists).serials = ["a:X:2", "a:X", "a:X:2"] ∧
      ¬ (mergeDeviceLists repeatedSerialLists).serials.Nodup := by
  have h : (mergeDeviceLists repeatedSerialLists).serials = ["a:X:2", "a:X", "a:X:2"] := by
    decide +kernel
  exact ⟨h, by rw [h]; decide⟩

end AdbHub
