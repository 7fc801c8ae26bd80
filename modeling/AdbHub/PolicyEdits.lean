import AdbHub.Lib.Reads
import AdbHub.PolicyFiles

/-!
# Editing a configuration file while it is read

The single file accesses of the two reloaders, interleaved with replacements of the file
(`proxy_config.rs`, `ReloadableProxyPolicy`, and `config.rs`, `ReloadableHubPolicy`).

* `PolicyFile` — the file; `isFile`, `readMtime` and `readText` access it.
* `ReloadableHubPolicy.reloader`, `ReloadableProxyPolicy.reloader` — the reloaders, access by access;
  on a file that does not change they are the functions of the source (`eval_build`, `eval_refresh`).
* `hub_upToDate` — the hub misses no edit.
* **`no_edit_missed_iff`** — the proxy misses none iff none comes while it starts, after its file was
  loaded and before its modification time is read.
-/

namespace AdbHub

open Lib

/-! ## File accesses -/

/-- The configuration file, if there is one. -/
abbrev PolicyFile := Option DiskFile

namespace PolicyFile

variable {α : Type}

/-- The modification time. -/
def mtime (file : PolicyFile) : Option ℕ := file.bind DiskFile.modified

/-- The text, or the error of reading it. -/
def text (file : PolicyFile) : Except String String :=
  file.elim (.error "No such file or directory (os error 2)") DiskFile.contents

/-- Source: `Path::is_file`. -/
def isFile (k : Bool → Reads PolicyFile α) : Reads PolicyFile α :=
  .read fun file => k file.isSome

/-- Source: `fs::metadata(..).ok().and_then(|m| m.modified().ok())`. -/
def readMtime (k : Option ℕ → Reads PolicyFile α) : Reads PolicyFile α :=
  .read fun file => k file.mtime

/-- Source: `fs::read_to_string`. -/
def readText (k : Except String String → Reads PolicyFile α) : Reads PolicyFile α :=
  .read fun file => k file.text

end PolicyFile

open PolicyFile

/-! ## The hub -/

namespace ReloadableHubPolicy

variable (fmt : ConfigFormat) (path : String)

/-- The policy of a text. Source: `config.rs`, `load_hub_policy_file`. -/
def policyOf (text : Except String String) : Option HubPolicySnapshot :=
  ((HubConfig.loadFile fmt.net fmt.parseToml path text).map HubConfig.policy).toOption

/-- Source: `ReloadableHubPolicy::from_config`, for a configuration with a path. -/
def build (config : HubConfig) : Reads PolicyFile (Cached (Option ℕ) HubPolicySnapshot) :=
  isFile fun present =>
    if present then
      readMtime fun mtime => readText fun text =>
        .done ⟨mtime, (policyOf fmt path text).getD config.policy⟩
    else .done ⟨none, config.policy⟩

/-- Source: `ReloadableHubPolicy`, its cache and its file. -/
def reloader (config : HubConfig) : Reloader PolicyFile (Option ℕ) HubPolicySnapshot where
  stamp := PolicyFile.mtime
  load file := policyOf fmt path file.text
  build := build fmt path config
  reload policy := readText fun text => .done ((policyOf fmt path text).getD policy)
  eval_reload := by
    intro policy file p hp
    show (policyOf fmt path file.text).getD policy = p
    rw [hp, Option.getD_some]

/-- On a file that does not change, `build` is `fromConfig`. -/
theorem eval_build (disk : Disk) {config : HubConfig} (hpath : config.configPath = some path) :
    (build fmt path config).eval (disk path) =
      ⟨(fromConfig fmt disk config).mtime, (fromConfig fmt disk config).policy⟩ := by
  unfold fromConfig build isFile
  rw [hpath, Reads.eval_read]
  rcases hfile : disk path with _ | file
  · simp [hfile]
  · simp [hfile, readMtime, readText, PolicyFile.mtime, policyOf, loadHubPolicyFile, Disk.loadFile,
      PolicyFile.text]

/-- And a refresh is `refresh`. -/
theorem eval_refresh (disk : Disk) (config : HubConfig) {r : ReloadableHubPolicy}
    (hpath : r.path = some path) :
    ((reloader fmt path config).refresh ⟨r.mtime, r.policy⟩).eval (disk path) =
      ⟨(r.refresh fmt disk).1.mtime, (r.refresh fmt disk).1.policy⟩ := by
  unfold refresh Reloader.refresh
  rw [hpath, Reads.eval_read]
  by_cases hmtime : (disk path).bind DiskFile.modified = r.mtime
  · simp [reloader, PolicyFile.mtime, hmtime]
  · simp [reloader, PolicyFile.mtime, hmtime, readText, policyOf, loadHubPolicyFile, Disk.loadFile,
      PolicyFile.text]

/-- `from_config` reads the modification time before the file. -/
theorem stampFirst_build (config : HubConfig) :
    (reloader fmt path config).StampFirst (build fmt path config) := by
  intro file
  rcases file with _ | file
  · refine .inl ⟨rfl, fun p hp => ?_⟩
    cases hp
  · refine .inr fun file => .inl ⟨fun _ => rfl, fun p hp => ?_⟩
    show (policyOf fmt path file.text).getD config.policy = p
    rw [show policyOf fmt path file.text = some p from hp, Option.getD_some]

/-- **The hub misses no edit.** -/
theorem hub_upToDate {file : PolicyFile} {config : HubConfig}
    {events : List (Reloader.Event PolicyFile)}
    {s : Reloader.State PolicyFile (Option ℕ) HubPolicySnapshot}
    (h : ((reloader fmt path config).machine file).Reaches events s) :
    (reloader fmt path config).UpToDate s :=
  Reloader.upToDate_of_stampFirst (stampFirst_build fmt path config) h

end ReloadableHubPolicy

/-! ## The proxy -/

namespace ReloadableProxyPolicy

variable (fmt : ProxyFormat)

/-- What loading a text gives. Source: `ProxyFileConfig::load_file`. -/
def loadText (text : Except String String) : Except ProxyConfigError ProxyFileConfig := do
  let text ← text.mapError .io
  ProxyFileConfig.fromTomlStr fmt text

/-- Source: `ProxyFileConfig::load_file`. -/
def loadFile : Reads PolicyFile (Except ProxyConfigError ProxyFileConfig) :=
  isFile fun present =>
    if present then readText fun text => .done (loadText fmt text) else .done (.ok {})

/-- The table is there, and the modification time is still to be read. Source:
`ReloadableProxyPolicy::new`. -/
def stampTable (table : DevicePolicyTable) : Reads PolicyFile (Cached (Option ℕ) DevicePolicyTable) :=
  readMtime fun mtime => .done ⟨mtime, table⟩

/-- Source: `ReloadableProxyPolicy::new`. -/
def build : Reads PolicyFile (Cached (Option ℕ) DevicePolicyTable) :=
  (loadFile fmt).bind fun loaded => stampTable (tableOf loaded)

/-- Source: `ReloadableProxyPolicy`, its cache and its file. -/
def reloader : Reloader PolicyFile (Option ℕ) DevicePolicyTable where
  stamp := PolicyFile.mtime
  load file := file.bind fun file => (loadText fmt file.contents).toOption.map ProxyFileConfig.devices
  build := build fmt
  reload _ := (loadFile fmt).map tableOf
  eval_reload := by
    intro _ file p hp
    obtain ⟨file, rfl, hp⟩ := Option.bind_eq_some_iff.mp hp
    obtain ⟨cfg, hcfg, rfl⟩ := Option.map_eq_some_iff.mp hp
    show ((loadText fmt file.contents).toOption.getD {}).devices = _
    rw [hcfg, Option.getD_some]

theorem eval_loadFile (disk : Disk) (path : String) :
    (loadFile fmt).eval (disk path) = ProxyFileConfig.loadFile fmt disk path := by
  unfold loadFile ProxyFileConfig.loadFile isFile
  rw [Reads.eval_read]
  rcases hfile : disk path with _ | file
  · rfl
  · rfl

/-- On a file that does not change, `build` is `new`. -/
theorem eval_build (disk : Disk) (path : String) :
    (build fmt).eval (disk path) = ⟨(new fmt disk path).mtime, (new fmt disk path).table⟩ := by
  unfold build
  rw [Reads.eval_bind, eval_loadFile]
  rfl

/-- The cache gets the modification time that was read. -/
theorem ownStamp_build : (build fmt).OwnStamp PolicyFile.mtime ∅ := by
  intro file
  rcases file with _ | file
  · exact fun file => Set.mem_insert _ _
  · exact fun _ file => Set.mem_insert _ _

/-- And a refresh is `refresh`. -/
theorem eval_refresh (disk : Disk) (r : ReloadableProxyPolicy) :
    ((reloader fmt).refresh ⟨r.mtime, r.table⟩).eval (disk r.path) =
      ⟨(r.refresh fmt disk).1.mtime, (r.refresh fmt disk).1.table⟩ := by
  unfold refresh Reloader.refresh
  rw [Reads.eval_read]
  by_cases hmtime : (disk r.path).bind DiskFile.modified = r.mtime
  · simp [reloader, PolicyFile.mtime, hmtime]
  · simp [reloader, PolicyFile.mtime, hmtime, eval_loadFile]

/-! ## Edits while the proxy starts -/

variable {fmt}

variable (fmt) in
/-- How far `new` can be: at its start, at the text of the file, or at the modification time. -/
def Starting (p : Reads PolicyFile (Cached (Option ℕ) DevicePolicyTable)) : Prop :=
  p = build fmt ∨ (p = readText fun text => stampTable (tableOf (loadText fmt text))) ∨
    ∃ table, p = stampTable table

/-- One access: only the one of the modification time is the last. -/
theorem Starting.read {k : PolicyFile → Reads PolicyFile (Cached (Option ℕ) DevicePolicyTable)}
    (h : Starting fmt (.read k)) (file : PolicyFile) :
    (∃ k', k file = .read k' ∧ Starting fmt (.read k')) ∨
      ∃ table, .read k = stampTable table ∧ k file = .done ⟨file.mtime, table⟩ := by
  rcases h with h | h | ⟨table, h⟩
  · obtain rfl := Reads.read.inj h
    rcases file with _ | file
    · exact .inl ⟨_, rfl, .inr (.inr ⟨_, rfl⟩)⟩
    · exact .inl ⟨_, rfl, .inr (.inl rfl)⟩
  · obtain rfl := Reads.read.inj h
    exact .inl ⟨_, rfl, .inr (.inr ⟨_, rfl⟩)⟩
  · obtain rfl := Reads.read.inj h
    exact .inr ⟨table, rfl, rfl⟩

variable {file : PolicyFile} {events : List (Reloader.Event PolicyFile)}
  {s : Reloader.State PolicyFile (Option ℕ) DevicePolicyTable} {e : Reloader.Event PolicyFile}

theorem starting_of_run (h : ((reloader fmt).machine file).Reaches events s) {p}
    (hp : s.phase = .building p) : Starting fmt p := by
  refine Machine.Run.invariant (I := fun s => ∀ p, s.phase = .building p → Starting fmt p) h ?_ ?_
    p hp
  · intro p hp
    obtain rfl := Reloader.Phase.building.inj hp
    exact .inl rfl
  · intro s e t hs _ ht p hp
    by_cases hreplace : ∃ file, e = .replace file
    · obtain ⟨file, rfl⟩ := hreplace
      refine hs p ?_
      exact (Reloader.building_of_replace ht p).mp hp
    · rcases Reloader.step_cases ht fun file he => hreplace ⟨file, he⟩ with
        ⟨k, -, hphase, rfl⟩ | ⟨k, quiet, -, -, rfl⟩ | ⟨c, -, -, rfl⟩
      · rcases (hs _ hphase).read s.cell with ⟨k', hk, hstarting⟩ | ⟨table, -, hk⟩
        · obtain rfl : .read k' = p := by simpa [hk, Reloader.built] using hp
          exact hstarting
        · simp [hk, Reloader.built] at hp
      · exact absurd hp (Reloader.refreshed_ne_building _ _ _ _)
      · cases hp

variable (fmt) in
/-- When `new` reads the modification time, its table is the one of the file, if the file can be
loaded. -/
def TableLoaded (s : Reloader.State PolicyFile (Option ℕ) DevicePolicyTable)
    (e : Reloader.Event PolicyFile) : Prop :=
  ∀ table, e = .access → s.phase = .building (stampTable table) →
    ∀ q, (reloader fmt).load s.cell = some q → table = q

theorem builtCurrent_iff (h : ((reloader fmt).machine file).Reaches events s) :
    (reloader fmt).BuiltCurrent s e ↔ TableLoaded fmt s e := by
  constructor
  · intro hbuilt table he hphase q hq
    exact hbuilt _ ⟨s.cell.mtime, table⟩ he hphase rfl rfl q hq
  · intro hloaded k c he hphase hk _ q hq
    rcases (starting_of_run h hphase).read s.cell with ⟨k', hk', -⟩ | ⟨table, htable, hk'⟩
    · rw [hk] at hk'
      cases hk'
    · obtain rfl := Reads.done.inj (hk.symm.trans hk')
      rw [htable] at hphase
      exact hloaded table he hphase q hq

/-- **Edits, exactly.** However the file accesses of the hub and of the proxy are interleaved with
replacements of their file, every refresh that starts after the last replacement returns the policy
of the file, where that can be loaded, iff the file of which `ReloadableProxyPolicy::new` reads the
modification time has the table that was loaded before (or cannot be loaded).
Source: `proxy_config.rs`, `ReloadableProxyPolicy`, and `config.rs`, `ReloadableHubPolicy` -/
theorem no_edit_missed_iff {hubFmt : ConfigFormat} {path : String} {config : HubConfig}
    {hubFile : PolicyFile} {hubEvents : List (Reloader.Event PolicyFile)}
    {hub : Reloader.State PolicyFile (Option ℕ) HubPolicySnapshot}
    (hhub : ((ReloadableHubPolicy.reloader hubFmt path config).machine hubFile).Reaches
      hubEvents hub)
    (hproxy : ((reloader fmt).machine file).Reaches events s) :
    (((ReloadableHubPolicy.reloader hubFmt path config).machine hubFile).Always
        (ReloadableHubPolicy.reloader hubFmt path config).UpToDate hubEvents ∧
      ((reloader fmt).machine file).Always (reloader fmt).UpToDate events) ↔
        ((reloader fmt).machine file).Run (TableLoaded fmt) events s := by
  have hkept : ((ReloadableHubPolicy.reloader hubFmt path config).machine hubFile).Always
      (ReloadableHubPolicy.reloader hubFmt path config).UpToDate hubEvents :=
    hhub.always fun _ _ hrun => ReloadableHubPolicy.hub_upToDate hubFmt path hrun.reaches
  rw [and_iff_right hkept, Reloader.always_upToDate_iff (ownStamp_build fmt) hproxy]
  exact Machine.run_congr_of_reaches fun _ _ _ h => builtCurrent_iff h

/-- A file that is created once the proxy has found none, before it reads the modification time. -/
def editWhileStarting : List (Reloader.Event PolicyFile) :=
  [.access, .replace (some ⟨some 1, .ok disabledText⟩), .access, .refresh, .access]

/-- The device that this file disables stays enabled. -/
theorem edit_while_starting_missed :
    ¬ ∀ (hubFmt : ConfigFormat) (path : String) (config : HubConfig) (hubFile : PolicyFile)
      (hubEvents : List (Reloader.Event PolicyFile))
      (hub : Reloader.State PolicyFile (Option ℕ) HubPolicySnapshot) (fmt : ProxyFormat)
      (file : PolicyFile) (events : List (Reloader.Event PolicyFile))
      (s : Reloader.State PolicyFile (Option ℕ) DevicePolicyTable),
      ((ReloadableHubPolicy.reloader hubFmt path config).machine hubFile).Reaches hubEvents hub →
        ((reloader fmt).machine file).Reaches events s →
          ((ReloadableHubPolicy.reloader hubFmt path config).machine hubFile).Always
              (ReloadableHubPolicy.reloader hubFmt path config).UpToDate hubEvents ∧
            ((reloader fmt).machine file).Always (reloader fmt).UpToDate events := by
  intro h
  have hproxy : ((reloader oneDeviceFormat).machine none).Reaches editWhileStarting _ :=
    Machine.reaches_of_exec rfl
  have halways := (h noHubFormat "hub.toml" .localOnly none [] _ _ _ _ _ .init hproxy).2
  have htable := (halways.last hproxy).returned .empty rfl (.fromEntries [⟨"ABC", false⟩]) rfl
  have hdevice : true = false := congrArg (fun table => table.isEnabled "ABC") htable
  cases hdevice

/-- A file that is replaced while the proxy refreshes its policy. -/
def editWhileRefreshing : List (Reloader.Event PolicyFile) :=
  [.access, .access, .access, .replace (some ⟨some 2, .ok disabledText⟩), .refresh, .access,
    .replace (some ⟨some 3, .ok "[[device]"⟩), .access, .access]

/-- Such an edit is not missed. -/
theorem edit_while_refreshing_seen :
    ((ReloadableHubPolicy.reloader noHubFormat "hub.toml" .localOnly).machine none).Always
        (ReloadableHubPolicy.reloader noHubFormat "hub.toml" .localOnly).UpToDate [.access] ∧
      ((reloader oneDeviceFormat).machine (some ⟨some 1, .ok disabledText⟩)).Always
        (reloader oneDeviceFormat).UpToDate editWhileRefreshing := by
  obtain ⟨s, hrun⟩ : ∃ s, ((reloader oneDeviceFormat).machine
      (some ⟨some 1, .ok disabledText⟩)).Run (reloader oneDeviceFormat).BuiltCurrent
        editWhileRefreshing s := by
    refine ⟨_, .snoc (.snoc (.snoc (.snoc (.snoc (.snoc (.snoc (.snoc (.snoc .init ?_ rfl) ?_ rfl)
      ?_ rfl) ?_ rfl) ?_ rfl) ?_ rfl) ?_ rfl) ?_ rfl) ?_ rfl⟩
    · intro k c _ hphase hk
      obtain rfl := Reads.read.inj (Reloader.Phase.building.inj hphase)
      cases hk
    · intro k c _ hphase hk
      obtain rfl := Reads.read.inj (Reloader.Phase.building.inj hphase)
      cases hk
    · intro k c _ hphase hk _ p hp
      obtain rfl := Reads.read.inj (Reloader.Phase.building.inj hphase)
      obtain rfl := Reads.done.inj hk
      exact Option.some.inj hp
    all_goals exact Reloader.builtCurrent_of_built rfl
  exact (no_edit_missed_iff (Machine.reaches_of_exec rfl) hrun.reaches).mpr
    ((Machine.run_congr_of_reaches fun _ _ _ h => builtCurrent_iff h).mp hrun)

end ReloadableProxyPolicy

end AdbHub
