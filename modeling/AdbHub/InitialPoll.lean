import AdbHub.Backend
import AdbHub.BackendQuery
import AdbHub.SocketText

/-!
# The device lists at the start of the hub

The poll before the hub accepts clients, and the seed poll of the poller that follows it
(`backend.rs`, `poll_backends_once` and `run_backend_poller`).

* `pollBackendsOnce` — a list, with the backends that did not pass at its end.
* `seedPoller` — a map by name, read in the order of the configuration.
* `mergeDeviceLists_eq_iff` — two snapshots are equal iff their lists report the same devices.
* **`same_snapshot_iff`** — the two polls store the same snapshot iff what the entries that pass
  report is what the last entries of their names report; `sameReports_of_nodup`.
-/

namespace AdbHub

open Lib

/-! ## The two polls -/

section

variable (backends : List BackendConfig) (probe list : ℕ → Dial)

/-- The list of entry number `i`, or nothing after an error. Source: `backend.rs`,
`fetch_devices_l(..)` and the match on it. -/
def polledBody (backend : BackendConfig) (i : ℕ) : String :=
  (fetchDevicesL (list i) backend.pairCode).toOption.getD ""

/-- The entries that pass the probe, with their numbers. -/
def passing : List (BackendConfig × ℕ) :=
  backends.zipIdx.filter fun (backend, i) => passesProbe backend (probe i)

/-- The lists of the first poll. Source: `poll_backends_once`. -/
def initialLists : List (BackendConfig × String) :=
  backends.foldl
    (fun lists backend =>
      -- incompatible backends stay visible as empty
      if lists.any fun (b, _) => b.name = backend.name then lists else lists ++ [(backend, "")])
    ((passing backends probe).map fun (backend, i) => (backend, polledBody list backend i))

/-- Source: `poll_backends_once`. -/
def pollBackendsOnce (registry : DeviceRegistry) : DeviceRegistry :=
  registry.updateFromBackendLists (initialLists backends probe list)

/-- Source: `run_backend_poller`, `compatible_names`. -/
def compatibleNames : List String :=
  (filterCompatibleBackends backends probe).map BackendConfig.name

/-- What the poller stores at first for an entry. Source: `run_backend_poller`, the loop under
"Seed shared". -/
def seedEntry (entry : BackendConfig × ℕ) : BackendConfig × String :=
  (entry.1,
    if entry.1.name ∈ compatibleNames backends probe then polledBody list entry.1 entry.2 else "")

/-- Source: `run_backend_poller`, up to the first `publish_shared`. -/
def seeds : List (BackendConfig × String) := backends.zipIdx.map (seedEntry backends probe list)

/-- Source: `run_backend_poller` with its first `publish_shared`. -/
def seedPoller (registry : DeviceRegistry) : DeviceRegistry :=
  match copyLists backends (seedShared (seeds backends probe list)) with
  | some lists => registry.updateFromBackendLists lists
  | none => registry

end

/-! ## What a snapshot tells of the lists -/

/-- A device as its backend reports it. -/
def ParsedDevice.report (p : ParsedDevice) : DeviceEntry where
  publicSerial := p.serial
  upstreamSerial := p.serial
  state := p.state
  extras := p.extras
  backendName := p.backend.name
  backendAddr := p.backend.addr
  pairCode := p.backend.pairCode
  routeId := none

/-- The devices that lists report. -/
def reportsOf (lists : List (BackendConfig × String)) : List DeviceEntry :=
  (parseLists lists).map ParsedDevice.report

theorem reportsOf_append (l l' : List (BackendConfig × String)) :
    reportsOf (l ++ l') = reportsOf l ++ reportsOf l' := by
  simp [reportsOf, parseLists]

theorem reportsOf_eq_flatMap (lists : List (BackendConfig × String)) :
    reportsOf lists = lists.flatMap fun p => reportsOf [p] := by
  simp [reportsOf, parseLists, List.map_flatMap]

/-- An empty body reports nothing. -/
@[simp] theorem reportsOf_empty (backend : BackendConfig) : reportsOf [(backend, "")] = [] := by
  simp [reportsOf, parseLists, lines, splitInclusive]

/-- The merge reads nothing but the reports. -/
theorem mergeStep_congr {ps ps' : List ParsedDevice}
    (h : ps.map ParsedDevice.report = ps'.map ParsedDevice.report)
    (acc : List String × List DeviceEntry) {p p' : ParsedDevice} (hp : p.report = p'.report) :
    mergeStep ps acc p = mergeStep ps' acc p' := by
  have hserial : p.serial = p'.serial := congrArg DeviceEntry.publicSerial hp
  have hname : p.backend.name = p'.backend.name := congrArg DeviceEntry.backendName hp
  have hcount : serialCount ps p.serial = serialCount ps' p.serial := by
    have hmap : ∀ qs : List ParsedDevice, serialCount qs p.serial =
        (qs.map ParsedDevice.report).countP fun d => d.publicSerial = p.serial := by
      intro qs
      rw [List.countP_map]
      rfl
    rw [hmap, hmap, h]
  have hcandidate : candidateSerial ps p = candidateSerial ps' p' := by
    unfold candidateSerial
    rw [← hserial, ← hname, hcount]
  have hstate : p.state = p'.state := congrArg DeviceEntry.state hp
  have hextras : p.extras = p'.extras := congrArg DeviceEntry.extras hp
  have haddr : p.backend.addr = p'.backend.addr := congrArg DeviceEntry.backendAddr hp
  have hcode : p.backend.pairCode = p'.backend.pairCode := congrArg DeviceEntry.pairCode hp
  unfold mergeStep fallbackSerial
  rw [hcandidate, hserial, hname, hstate, hextras, haddr, hcode]

theorem mergeStep_foldl_congr {ps ps' qs qs' : List ParsedDevice}
    (h : ps.map ParsedDevice.report = ps'.map ParsedDevice.report)
    (hq : qs.map ParsedDevice.report = qs'.map ParsedDevice.report)
    (acc : List String × List DeviceEntry) :
    qs.foldl (mergeStep ps) acc = qs'.foldl (mergeStep ps') acc := by
  induction qs generalizing qs' acc with
  | nil =>
      obtain rfl : qs' = [] := by simpa using hq.symm
      rfl
  | cons q qs ih =>
      rcases qs' with _ | ⟨q', qs'⟩
      · simp at hq
      · obtain ⟨hqq, hrest⟩ := List.cons.inj hq
        rw [List.foldl_cons, List.foldl_cons, mergeStep_congr h acc hqq]
        exact ih hrest _

/-- The reports can be read back from the merged devices. -/
theorem map_mergeDeviceLists (lists : List (BackendConfig × String)) :
    (mergeDeviceLists lists).devices.map (fun d => { d with publicSerial := d.upstreamSerial }) =
      reportsOf lists := by
  have h := mergeDeviceLists_forall₂ lists
  unfold reportsOf
  generalize parseLists lists = ps at h ⊢
  generalize (mergeDeviceLists lists).devices = ds at h ⊢
  induction h with
  | nil => rfl
  | cons hentry _ ih =>
      rw [List.map_cons, List.map_cons, ih]
      congr 1
      rw [hentry]
      rfl

/-- **Two merges are equal iff their lists report the same devices**, in the same order. -/
theorem mergeDeviceLists_eq_iff {l l' : List (BackendConfig × String)} :
    mergeDeviceLists l = mergeDeviceLists l' ↔ reportsOf l = reportsOf l' := by
  constructor
  · intro h
    rw [← map_mergeDeviceLists, ← map_mergeDeviceLists, h]
  · intro h
    unfold mergeDeviceLists
    dsimp only
    rw [mergeStep_foldl_congr h h]

/-- What is made of the items of a filtered list. -/
theorem flatMap_filter {α β : Type} (keep : α → Bool) (g : α → List β) (xs : List α) :
    (xs.filter keep).flatMap g = xs.flatMap fun x => if keep x then g x else [] := by
  induction xs with
  | nil => rfl
  | cons x xs ih =>
      rw [List.flatMap_cons, ← ih, List.filter_cons]
      split_ifs
      · rfl
      · rfl

/-! ## What the two polls report -/

section

variable (backends : List BackendConfig) (probe list : ℕ → Dial)

/-- What an entry reports when it is asked for its list. -/
def reported (entry : BackendConfig × ℕ) : List DeviceEntry :=
  reportsOf [(entry.1, polledBody list entry.1 entry.2)]

/-- The last entry of a name. -/
def lastNamed (name : String) : Option (BackendConfig × ℕ) :=
  (backends.zipIdx.filter fun entry => entry.1.name = name).getLast?

/-- What the last entry of a name reports, if some entry of the name passes the probe. -/
def lastReported (name : String) : List DeviceEntry :=
  if name ∈ compatibleNames backends probe then
    (lastNamed backends name).elim [] (reported list)
  else []

/-- The entries that pass the probe report what the last entries of the names report. -/
def SameReports : Prop :=
  (passing backends probe).flatMap (reported list) =
    backends.flatMap fun backend => lastReported backends probe list backend.name

/-- The backends that are added at the end of the first list report nothing. -/
theorem reportsOf_initialLists :
    reportsOf (initialLists backends probe list) =
      (passing backends probe).flatMap (reported list) := by
  have hfold : ∀ (bs : List BackendConfig) (ls : List (BackendConfig × String)),
      reportsOf (bs.foldl (fun lists backend =>
        if lists.any fun (b, _) => b.name = backend.name then lists
        else lists ++ [(backend, "")]) ls) = reportsOf ls := by
    intro bs
    induction bs with
    | nil => exact fun _ => rfl
    | cons b bs ih =>
        intro ls
        rw [List.foldl_cons, ih]
        split_ifs
        · rfl
        · rw [reportsOf_append, reportsOf_empty, List.append_nil]
  unfold initialLists
  rw [hfold, reportsOf_eq_flatMap, List.flatMap_map]
  rfl

/-- The map has the last entry of every name. -/
theorem lookup_seedShared (seeds : List (BackendConfig × String)) (name : String) :
    (seedShared seeds).lookup name = (seeds.filter fun seed => seed.1.name = name).getLast? := by
  unfold seedShared
  induction seeds using List.reverseRecOn with
  | nil => rfl
  | append_singleton seeds seed ih =>
      rw [List.foldl_append, List.foldl_cons, List.foldl_nil, List.filter_append]
      show AList.lookup name (AList.insert seed.1.name seed _ : SharedMap) = _
      by_cases hname : seed.1.name = name
      · subst hname
        simp [AList.lookup_insert]
      · rw [AList.lookup_insert_ne (Ne.symm hname), ih]
        simp [hname]

theorem map_fst_seeds : (seeds backends probe list).map Prod.fst = backends := by
  unfold seeds
  rw [List.map_map]
  exact List.zipIdx_map_fst 0 backends

theorem copyLists_seeds :
    copyLists backends (seedShared (seeds backends probe list)) =
      some (backends.filterMap fun backend =>
        (lastNamed backends backend.name).map (seedEntry backends probe list)) := by
  have hcopy := (SeededMap.seed (seeds backends probe list)).copyLists_eq
  unfold SeededMap.inOrder SeededMap.seed at hcopy
  simp only [map_fst_seeds] at hcopy
  rw [hcopy]
  congr 1
  refine List.filterMap_congr fun backend _ => ?_
  rw [lookup_seedShared]
  unfold seeds lastNamed
  rw [List.filter_map, List.getLast?_map]
  rfl

theorem reportsOf_filterMap (bs : List BackendConfig)
    (g : BackendConfig → Option (BackendConfig × String)) :
    reportsOf (bs.filterMap g) = bs.flatMap fun b => (g b).elim [] fun p => reportsOf [p] := by
  induction bs with
  | nil => rfl
  | cons b bs ih =>
      rw [List.flatMap_cons, ← ih]
      rcases hg : g b with _ | p
      · rw [List.filterMap_cons_none hg]
        rfl
      · rw [List.filterMap_cons_some hg]
        exact reportsOf_append [p] _

theorem mem_of_lastNamed {name : String} {entry : BackendConfig × ℕ}
    (h : lastNamed backends name = some entry) :
    entry ∈ backends.zipIdx ∧ entry.1.name = name := by
  have hmem := List.mem_of_getLast? h
  simpa using List.mem_filter.mp hmem

/-- What the poller publishes at first. -/
theorem reportsOf_seeded :
    reportsOf (backends.filterMap fun backend =>
        (lastNamed backends backend.name).map (seedEntry backends probe list)) =
      backends.flatMap fun backend => lastReported backends probe list backend.name := by
  rw [reportsOf_filterMap]
  refine List.flatMap_congr fun backend _ => ?_
  unfold lastReported
  rcases hlast : lastNamed backends backend.name with _ | entry
  · split_ifs
    · rfl
    · rfl
  · obtain ⟨-, hname⟩ := mem_of_lastNamed backends hlast
    show reportsOf [seedEntry backends probe list entry] = _
    unfold seedEntry
    rw [hname]
    split_ifs
    · rfl
    · exact reportsOf_empty entry.1

/-- **The first two snapshots, exactly.** For every list of backends, repeated names and addresses
included, and all replies: the poll before the hub accepts clients and the seed poll of the poller
store the same snapshot iff the entries that pass the probe report what, for every entry with a name
of which one passes, the last entry of this name reports.
Source: `backend.rs`, `poll_backends_once`, `run_backend_poller` and `publish_shared` -/
theorem same_snapshot_iff (registry registry' : DeviceRegistry) :
    (pollBackendsOnce backends probe list registry).inner =
        (seedPoller backends probe list registry').inner ↔
      SameReports backends probe list := by
  unfold pollBackendsOnce seedPoller
  rw [copyLists_seeds]
  show mergeDeviceLists _ = mergeDeviceLists _ ↔ _
  rw [mergeDeviceLists_eq_iff, reportsOf_initialLists, reportsOf_seeded]
  rfl

/-- The seed poll is where the watchers of the poller start. -/
theorem seedPoller_eq_init (watched : List BackendConfig) (registry : DeviceRegistry) :
    seedPoller backends probe list registry =
      (pollerMachine (seeds backends probe list) watched registry).init.registry := by
  have hcopy : copyLists backends (seedShared (seeds backends probe list)) =
      some (SeededMap.seed (seeds backends probe list)).inOrder := by
    rw [← SeededMap.copyLists_eq]
    show _ = copyLists ((seeds backends probe list).map Prod.fst)
      (seedShared (seeds backends probe list))
    rw [map_fst_seeds]
  unfold seedPoller
  rw [hcopy]
  rfl

variable {backends probe list}

theorem mem_compatibleNames {name : String} : name ∈ compatibleNames backends probe ↔
    ∃ entry ∈ passing backends probe, entry.1.name = name := by
  unfold compatibleNames filterCompatibleBackends passing
  simp

/-- Entries of one name that pass alike and report the same devices are no different. -/
theorem sameReports_of_alike
    (h : ∀ entry ∈ backends.zipIdx, ∀ other ∈ backends.zipIdx, entry.1.name = other.1.name →
      passesProbe entry.1 (probe entry.2) = passesProbe other.1 (probe other.2) ∧
        reported list entry = reported list other) :
    SameReports backends probe list := by
  unfold SameReports
  have hzip : ∀ g : String → List DeviceEntry, backends.flatMap (fun backend => g backend.name) =
      backends.zipIdx.flatMap fun entry => g entry.1.name := by
    intro g
    calc backends.flatMap (fun backend => g backend.name)
        = (backends.zipIdx.map Prod.fst).flatMap fun backend => g backend.name := by
          rw [List.zipIdx_map_fst]
      _ = backends.zipIdx.flatMap fun entry => g entry.1.name := List.flatMap_map ..
  unfold passing
  rw [hzip, flatMap_filter]
  refine List.flatMap_congr fun entry hentry => ?_
  unfold lastReported
  by_cases hpass : passesProbe entry.1 (probe entry.2) = true
  · have hname : entry.1.name ∈ compatibleNames backends probe :=
      mem_compatibleNames.mpr ⟨entry, List.mem_filter.mpr ⟨hentry, hpass⟩, rfl⟩
    rw [if_pos hpass, if_pos hname]
    rcases hlast : lastNamed backends entry.1.name with _ | last
    · have hnone := List.getLast?_eq_none_iff.mp hlast
      have hmem : entry ∈ backends.zipIdx.filter fun other => other.1.name = entry.1.name :=
        List.mem_filter.mpr ⟨hentry, by simp⟩
      rw [hnone] at hmem
      cases hmem
    · obtain ⟨hmem, hsame⟩ := mem_of_lastNamed backends hlast
      exact (h entry hentry last hmem hsame.symm).2
  · have hname : entry.1.name ∉ compatibleNames backends probe := by
      intro hname
      obtain ⟨other, hother, hsame⟩ := mem_compatibleNames.mp hname
      obtain ⟨hmem, hpassOther⟩ := List.mem_filter.mp hother
      exact hpass (((h entry hentry other hmem hsame.symm).1).trans hpassOther)
    rw [if_neg hpass, if_neg hname]

/-- With names of their own the backends are never confused. -/
theorem sameReports_of_nodup (h : (backends.map BackendConfig.name).Nodup) :
    SameReports backends probe list := by
  refine sameReports_of_alike fun entry hentry other hother hname => ?_
  have hentry' := List.mem_zipIdx_iff_getElem?.mp hentry
  have hother' := List.mem_zipIdx_iff_getElem?.mp hother
  have hlt : entry.2 < (backends.map BackendConfig.name).length := by
    rw [List.length_map]
    exact (List.getElem?_eq_some_iff.mp hentry').1
  have hindex : entry.2 = other.2 := by
    refine (List.getElem?_inj hlt h).mp ?_
    rw [List.getElem?_map, List.getElem?_map, hentry', hother', Option.map_some, Option.map_some,
      hname]
  obtain rfl : entry = other := by
    refine Prod.ext ?_ hindex
    rw [hindex, hother'] at hentry'
    exact (Option.some.inj hentry').symm
  exact ⟨rfl, rfl⟩

end

/-- A configuration file with one name for two backends. -/
def twoLabs : TomlFile where
  includeLocal := false
  backend :=
    [⟨some "lab", "127.0.0.1:5041", none, true⟩, ⟨some "lab", "127.0.0.1:5042", none, true⟩]

/-- Its backends. -/
def labBackends : List BackendConfig :=
  [⟨"lab", .loopback 5041, none, true⟩, ⟨"lab", .loopback 5042, none, true⟩]

/-- The backends answer with a device each. -/
def labReplies (i : ℕ) : Dial :=
  { incoming := utf8 (if i = 0 then "OKAY000bABC\tdevice\n" else "OKAY000bXYZ\tdevice\n") }

/-- The first poll shows both devices, and the poller one of them twice. -/
theorem two_labs_differ :
    ¬ ∀ (net : NetText) (parsed : TomlFile) (config : HubConfig),
      HubConfig.fromTomlFile net parsed = .ok config →
        ∀ (probe list : ℕ → Dial) (registry registry' : DeviceRegistry),
          (pollBackendsOnce config.backends probe list registry).inner =
            (seedPoller config.backends probe list registry').inner := by
  intro h
  obtain ⟨config, hconfig, hbackends⟩ : ∃ config,
      HubConfig.fromTomlFile stdNet twoLabs = .ok config ∧ config.backends = labBackends :=
    ⟨_, rfl, by decide +kernel⟩
  have hsame := h stdNet twoLabs config hconfig (fun _ => {}) labReplies {} {}
  rw [hbackends] at hsame
  have hfirst : (pollBackendsOnce labBackends (fun _ => {}) labReplies {}).inner.serials =
      ["ABC", "XYZ"] := by
    decide +kernel
  have hsecond : (seedPoller labBackends (fun _ => {}) labReplies {}).inner.serials =
      ["lab:XYZ", "lab:XYZ:1"] := by
    decide +kernel
  rw [hsame, hsecond] at hfirst
  exact absurd hfirst (by decide)

end AdbHub
