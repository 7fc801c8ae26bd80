import AdbHub.Lib.Machine
import AdbHub.ReloadablePolicy
import AdbHub.SocketText

/-!
# What a broken configuration file does to the policy

The policies of the proxy and of the hub over whole histories of their configuration files, good
and broken ones (`proxy_config.rs`, `ReloadableProxyPolicy`, and `config.rs`,
`ReloadableHubPolicy`).

* `ReloadableProxyPolicy` — the enable table of the proxy, read again when its file has changed.
* `PolicyHistory` — a reloader, and the policy of the last version that it has loaded.
* `hub_in_force` — the hub keeps that policy.
* **`in_force_iff`** — the proxy keeps it iff no device is disabled whenever a file is broken.
-/

namespace AdbHub

open Lib

/-! ## The policy of the proxy -/

/-- Source: `proxy_config.rs`, `ProxyConfigError`, of which loading a file uses these. -/
inductive ProxyConfigError
  | io (text : String)
  | toml (text : String)
  deriving DecidableEq

/-- Source: `proxy_config.rs`, `ProxyFileConfig`. -/
structure ProxyFileConfig where
  devices : DevicePolicyTable := .empty

/-- The `toml` crate, for the `TomlFile` of the proxy: the `device` entries of a text. -/
abbrev ProxyFormat := String → Except String (List DevicePolicyEntry)

namespace ProxyFileConfig

/-- Source: `ProxyFileConfig::from_toml_str`. -/
def fromTomlStr (fmt : ProxyFormat) (text : String) : Except ProxyConfigError ProxyFileConfig := do
  let device ← (fmt text).mapError .toml
  return ⟨.fromEntries device⟩

/-- Source: `ProxyFileConfig::load_file`. -/
def loadFile (fmt : ProxyFormat) (disk : Disk) (path : String) :
    Except ProxyConfigError ProxyFileConfig :=
  match disk path with
  | none => .ok {}
  | some file => do
      let text ← file.contents.mapError .io
      fromTomlStr fmt text

end ProxyFileConfig

/-- Source: `proxy_config.rs`, `ReloadableProxyPolicy` and `PolicyCache`. -/
structure ReloadableProxyPolicy where
  path : String
  mtime : Option ℕ
  table : DevicePolicyTable

namespace ReloadableProxyPolicy

/-- The table of a file, and the default where it cannot be loaded. Source:
`ProxyFileConfig::load_file(..).unwrap_or_default().devices`. -/
def tableOf (loaded : Except ProxyConfigError ProxyFileConfig) : DevicePolicyTable :=
  (loaded.toOption.getD {}).devices

/-- Source: `ReloadableProxyPolicy::new`. -/
def new (fmt : ProxyFormat) (disk : Disk) (path : String) : ReloadableProxyPolicy :=
  let table := tableOf (ProxyFileConfig.loadFile fmt disk path)
  let mtime := (disk path).bind DiskFile.modified
  ⟨path, mtime, table⟩

/-- Source: `ReloadableProxyPolicy::refresh`. -/
def refresh (fmt : ProxyFormat) (disk : Disk) (r : ReloadableProxyPolicy) :
    ReloadableProxyPolicy × DevicePolicyTable :=
  let mtime := (disk r.path).bind DiskFile.modified
  let r :=
    if mtime ≠ r.mtime then
      { r with mtime := mtime, table := tableOf (ProxyFileConfig.loadFile fmt disk r.path) }
    else r
  (r, r.table)

/-- Source: `ReloadableProxyPolicy::is_enabled`. -/
def isEnabled (fmt : ProxyFormat) (disk : Disk) (r : ReloadableProxyPolicy) (serial : String) :
    Bool :=
  (r.refresh fmt disk).2.isEnabled serial

end ReloadableProxyPolicy

/-! ## Histories -/

/-- A reloader with the disk it reads. -/
structure PolicyHistory (R P : Type) where
  disk : Disk
  reloader : R
  /-- What the last refresh has returned; at first what the reloader starts with. -/
  inForce : P
  /-- The policy of the last version that was loaded; at first what the reloader starts with. -/
  lastLoaded : P

/-- What happens next. -/
inductive PolicyEvent
  /-- The files change. -/
  | version (disk : Disk)
  | refresh

/-- One step of a history; `loads` is the policy of the version that a refresh loads, if it does. -/
def PolicyHistory.step {R P : Type} (refresh : Disk → R → R × P) (loads : Disk → R → Option P)
    (h : PolicyHistory R P) : PolicyEvent → Option (PolicyHistory R P)
  | .version disk => some { h with disk := disk }
  | .refresh =>
      some { h with
        reloader := (refresh h.disk h.reloader).1
        inForce := (refresh h.disk h.reloader).2
        lastLoaded := (loads h.disk h.reloader).getD h.lastLoaded }

/-! ## The hub -/

namespace ReloadableHubPolicy

variable (fmt : ConfigFormat)

/-- The policy of the version that a refresh loads: of a file that has changed and that can be
loaded. -/
def loads (disk : Disk) (r : ReloadableHubPolicy) : Option HubPolicySnapshot :=
  r.path.bind fun path =>
    if (disk path).bind DiskFile.modified ≠ r.mtime then (loadHubPolicyFile fmt disk path).toOption
    else none

/-- The histories of a hub that starts with a configuration. -/
def history (disk : Disk) (config : HubConfig) :
    Machine (PolicyHistory ReloadableHubPolicy HubPolicySnapshot) PolicyEvent :=
  let r := fromConfig fmt disk config
  ⟨⟨disk, r, r.policy, r.policy⟩, PolicyHistory.step (refresh fmt) (loads fmt)⟩

/-- Without a file the policy in the cache is the static one. -/
def Kept (r : ReloadableHubPolicy) : Prop := r.path = none → r.staticPolicy = r.policy

theorem kept_fromConfig (disk : Disk) (config : HubConfig) : (fromConfig fmt disk config).Kept := by
  unfold fromConfig
  rcases hpath : config.configPath with _ | path
  · intro _
    rfl
  · rcases hfile : disk path with _ | file
    · simp [Kept, hfile]
    · simp [Kept, hfile]

/-- A refresh returns what it leaves in the cache: what it has loaded, or what was there. -/
theorem policy_refresh (disk : Disk) (r : ReloadableHubPolicy) (hr : r.Kept) :
    (r.refresh fmt disk).1.Kept ∧ (r.refresh fmt disk).2 = (r.refresh fmt disk).1.policy ∧
      (r.refresh fmt disk).1.policy = (r.loads fmt disk).getD r.policy := by
  unfold refresh loads
  rcases hpath : r.path with _ | path
  · exact ⟨hr, hr hpath, rfl⟩
  · dsimp only [Option.bind_some]
    split_ifs
    · refine ⟨fun h => ?_, rfl, rfl⟩
      cases show some path = none from h
    · exact ⟨hr, rfl, rfl⟩

/-- **The hub keeps the policy of the last version that it has loaded.** -/
theorem hub_in_force {disk : Disk} {config : HubConfig} {events : List PolicyEvent}
    {s : PolicyHistory ReloadableHubPolicy HubPolicySnapshot}
    (h : (history fmt disk config).Reaches events s) : s.inForce = s.lastLoaded := by
  refine (Machine.Run.invariant (I := fun s => s.inForce = s.lastLoaded ∧
    s.reloader.policy = s.lastLoaded ∧ s.reloader.Kept) h ?_ ?_).1
  · exact ⟨rfl, rfl, kept_fromConfig fmt disk config⟩
  · rintro s e t ⟨hforce, hpolicy, hkept⟩ _ ht
    cases e with
    | version disk =>
        obtain rfl := Option.some.inj ht
        exact ⟨hforce, hpolicy, hkept⟩
    | refresh =>
        obtain rfl := Option.some.inj ht
        obtain ⟨hkept', hreturned, hleft⟩ := policy_refresh fmt s.disk s.reloader hkept
        rw [hpolicy] at hleft
        exact ⟨hreturned.trans hleft, hleft, hkept'⟩

end ReloadableHubPolicy

/-! ## The proxy -/

namespace ReloadableProxyPolicy

variable (fmt : ProxyFormat)

/-- A refresh loads the file: it has changed. -/
def Changed (disk : Disk) (r : ReloadableProxyPolicy) : Prop :=
  (disk r.path).bind DiskFile.modified ≠ r.mtime

instance (disk : Disk) (r : ReloadableProxyPolicy) : Decidable (r.Changed disk) :=
  inferInstanceAs (Decidable (_ ≠ _))

/-- The table of the version that a refresh loads. -/
def loads (disk : Disk) (r : ReloadableProxyPolicy) : Option DevicePolicyTable :=
  if r.Changed disk then
    (ProxyFileConfig.loadFile fmt disk r.path).toOption.map ProxyFileConfig.devices
  else none

/-- The histories of a proxy with its configuration file at a path. -/
def history (disk : Disk) (path : String) :
    Machine (PolicyHistory ReloadableProxyPolicy DevicePolicyTable) PolicyEvent :=
  let r := new fmt disk path
  ⟨⟨disk, r, r.table, r.table⟩, PolicyHistory.step (refresh fmt) (loads fmt)⟩

/-- The devices of the last version that was loaded are enabled and disabled as it says. -/
def InForce (s : PolicyHistory ReloadableProxyPolicy DevicePolicyTable) : Prop :=
  ∀ serial, s.inForce.isEnabled serial = s.lastLoaded.isEnabled serial

/-- A file that has changed and cannot be loaded is met with no device disabled. -/
def NoneDisabled (s : PolicyHistory ReloadableProxyPolicy DevicePolicyTable) (e : PolicyEvent) :
    Prop :=
  e = .refresh → s.reloader.Changed s.disk →
    (∃ err, ProxyFileConfig.loadFile fmt s.disk s.reloader.path = .error err) →
      ∀ serial, s.reloader.table.isEnabled serial = true

variable {fmt}

theorem table_refresh (disk : Disk) (r : ReloadableProxyPolicy) :
    (r.refresh fmt disk).1.table =
      if r.Changed disk then tableOf (ProxyFileConfig.loadFile fmt disk r.path) else r.table := by
  show (ite ((disk r.path).bind DiskFile.modified ≠ r.mtime) _ r).table = _
  by_cases hchanged : r.Changed disk
  · rw [if_pos (show (disk r.path).bind DiskFile.modified ≠ r.mtime from hchanged), if_pos hchanged]
  · rw [if_neg (show ¬ (disk r.path).bind DiskFile.modified ≠ r.mtime from hchanged),
      if_neg hchanged]

/-- A refresh loads nothing, loads a version, or meets a broken one. -/
theorem refresh_cases (fmt : ProxyFormat) (disk : Disk) (r : ReloadableProxyPolicy) :
    (¬ r.Changed disk ∧ r.loads fmt disk = none ∧ (r.refresh fmt disk).1.table = r.table) ∨
    (∃ cfg, ProxyFileConfig.loadFile fmt disk r.path = .ok cfg ∧
      r.loads fmt disk = some cfg.devices ∧ (r.refresh fmt disk).1.table = cfg.devices) ∨
    (r.Changed disk ∧ (∃ err, ProxyFileConfig.loadFile fmt disk r.path = .error err) ∧
      r.loads fmt disk = none ∧ (r.refresh fmt disk).1.table = .empty) := by
  unfold loads
  rw [table_refresh]
  by_cases hchanged : r.Changed disk
  · right
    rw [if_pos hchanged, if_pos hchanged]
    rcases hloaded : ProxyFileConfig.loadFile fmt disk r.path with err | cfg
    · exact .inr ⟨hchanged, ⟨err, rfl⟩, rfl, rfl⟩
    · exact .inl ⟨cfg, rfl, rfl, rfl⟩
  · rw [if_neg hchanged, if_neg hchanged]
    exact .inl ⟨hchanged, rfl, rfl⟩

/-- One step of a proxy whose policy is in force. -/
theorem inForce_step_iff {s t : PolicyHistory ReloadableProxyPolicy DevicePolicyTable}
    {e : PolicyEvent} (htable : s.inForce = s.reloader.table) (hs : InForce s)
    (h : PolicyHistory.step (refresh fmt) (loads fmt) s e = some t) :
    InForce t ↔ NoneDisabled fmt s e := by
  cases e with
  | version disk =>
      obtain rfl := Option.some.inj h
      refine iff_of_true hs fun he => ?_
      cases he
  | refresh =>
      obtain rfl := Option.some.inj h
      unfold InForce at hs ⊢
      rw [htable] at hs
      dsimp only
      rw [show (s.reloader.refresh fmt s.disk).2 = (s.reloader.refresh fmt s.disk).1.table from rfl]
      rcases refresh_cases fmt s.disk s.reloader with
        ⟨hsame, hloads, hafter⟩ | ⟨cfg, hcfg, hloads, hafter⟩ | ⟨hchanged, herr, hloads, hafter⟩
      · rw [hloads, hafter]
        exact iff_of_true hs fun _ hchanged => absurd hchanged hsame
      · rw [hloads, hafter]
        refine iff_of_true (fun _ => rfl) fun _ _ herr => ?_
        obtain ⟨err, herr⟩ := herr
        rw [hcfg] at herr
        cases herr
      · rw [hloads, hafter]
        constructor
        · intro h _ _ _ serial
          rw [hs serial]
          exact (h serial).symm
        · intro h serial
          exact ((hs serial).symm.trans (h rfl hchanged herr serial)).symm

/-- **Broken files and the policy, exactly.** Over every history of the configuration files, each
of the two policies in force is that of the last version that was loaded iff, whenever a refresh of
the proxy meets a file that has changed and cannot be loaded, the table of the proxy disables no
device.
Source: `proxy_config.rs`, `ReloadableProxyPolicy::refresh`, and `config.rs`,
`ReloadableHubPolicy::refresh` -/
theorem in_force_iff {hubFmt : ConfigFormat} {disk : Disk} {config : HubConfig} {path : String}
    {events : List PolicyEvent} {hub : PolicyHistory ReloadableHubPolicy HubPolicySnapshot}
    {proxy : PolicyHistory ReloadableProxyPolicy DevicePolicyTable}
    (hhub : (ReloadableHubPolicy.history hubFmt disk config).Reaches events hub)
    (hproxy : (history fmt disk path).Reaches events proxy) :
    ((ReloadableHubPolicy.history hubFmt disk config).Always
        (fun s => s.inForce = s.lastLoaded) events ∧
      (history fmt disk path).Always InForce events) ↔
        (history fmt disk path).Run (NoneDisabled fmt) events proxy := by
  have hkept : (ReloadableHubPolicy.history hubFmt disk config).Always
      (fun s => s.inForce = s.lastLoaded) events :=
    hhub.always fun _ _ hrun => ReloadableHubPolicy.hub_in_force hubFmt hrun.reaches
  rw [and_iff_right hkept]
  refine Machine.always_iff_run (H := fun _ => True) (I := fun s => s.inForce = s.reloader.table)
    ?_ (fun _ => rfl) ?_ hproxy fun _ _ _ _ => trivial
  · intro events s hrun
    refine Machine.Run.invariant (I := fun s => s.inForce = s.reloader.table) hrun rfl
      fun s e t hs _ ht => ?_
    cases e with
    | version disk =>
        obtain rfl := Option.some.inj ht
        exact hs
    | refresh =>
        obtain rfl := Option.some.inj ht
        rfl
  · intro s e t _ _ htable hs ht
    exact inForce_step_iff htable hs ht

/-- A file that disables one device. -/
def disabledText : String := "[[device]]\nserial = \"ABC\"\nenabled = false\n"

/-- The format, on this file and on broken ones. -/
def oneDeviceFormat : ProxyFormat := fun text =>
  if text = disabledText then .ok [⟨"ABC", false⟩] else .error "TOML parse error"

/-- The formats of a hub that reads no file. -/
def noHubFormat : ConfigFormat where
  net := stdNet
  showAddr := SocketAddr.display
  parseToml := fun _ => .error "TOML parse error"
  printToml := fun _ => .error "unsupported"

/-- The configuration file of a proxy. -/
def proxyDisk (modified : ℕ) (text : String) : Disk := fun path =>
  if path = "config.toml" then some ⟨some modified, .ok text⟩ else none

/-- A broken file comes when no device is disabled, and is mended. -/
def brokenFirst : List PolicyEvent :=
  [.version (proxyDisk 1 "[[device]"), .refresh, .version (proxyDisk 2 disabledText), .refresh]

/-- The policies are in force throughout. -/
theorem broken_first_in_force :
    (ReloadableHubPolicy.history noHubFormat (fun _ => none) .localOnly).Always
        (fun s => s.inForce = s.lastLoaded) brokenFirst ∧
      (history oneDeviceFormat (fun _ => none) "config.toml").Always InForce brokenFirst := by
  obtain ⟨hub, hhub⟩ : ∃ s, (ReloadableHubPolicy.history noHubFormat (fun _ => none)
      .localOnly).Reaches brokenFirst s := ⟨_, Machine.reaches_of_exec rfl⟩
  obtain ⟨proxy, hrun⟩ : ∃ s, (history oneDeviceFormat (fun _ => none) "config.toml").Run
      (NoneDisabled oneDeviceFormat) brokenFirst s := by
    refine ⟨_, .snoc (.snoc (.snoc (.snoc .init ?_ rfl) ?_ rfl) ?_ rfl) ?_ rfl⟩
    · intro h
      cases h
    · intro _ _ _ serial
      rfl
    · intro h
      cases h
    · rintro _ _ ⟨err, herr⟩
      cases herr
  exact (in_force_iff hhub hrun.reaches).mpr hrun

/-- A broken file enables a device that was disabled. -/
theorem broken_file_enables :
    ¬ ∀ (hubFmt : ConfigFormat) (fmt : ProxyFormat) (disk : Disk) (config : HubConfig)
      (path : String) (events : List PolicyEvent)
      (hub : PolicyHistory ReloadableHubPolicy HubPolicySnapshot)
      (proxy : PolicyHistory ReloadableProxyPolicy DevicePolicyTable),
      (ReloadableHubPolicy.history hubFmt disk config).Reaches events hub →
        (history fmt disk path).Reaches events proxy →
          (ReloadableHubPolicy.history hubFmt disk config).Always
              (fun s => s.inForce = s.lastLoaded) events ∧
            (history fmt disk path).Always InForce events := by
  intro h
  have hproxy : (history oneDeviceFormat (proxyDisk 1 disabledText) "config.toml").Reaches
      [.version (proxyDisk 2 "[[device]"), .refresh] _ := Machine.reaches_of_exec rfl
  have halways := (h noHubFormat _ _ .localOnly _ _ _ _ (Machine.reaches_of_exec rfl) hproxy).2
  have hforce : true = false := halways.last hproxy "ABC"
  cases hforce

end ReloadableProxyPolicy

end AdbHub
