import AdbHub.HubConfig
import AdbHub.HubPolicy

/-!
# The enable policy in the configuration file

The flags of devices and nodes, read again whenever the configuration file has changed
(`config.rs`, `ReloadableHubPolicy`).

* `ConfigFormat` — the text forms of files and addresses; `Disk` — the configuration files.
* `ReloadableHubPolicy.fromConfig` and `ReloadableHubPolicy.refresh`.
* `policy_refresh_fromConfig` — on a disk that does not change, a refresh gives the flags of the
  file, or those of the configuration where the file cannot be loaded.
-/

namespace AdbHub

open Lib

/-- The text forms of configuration files and addresses: the `toml` crate, and `SocketAddr`'s
`FromStr` and `Display`. -/
structure ConfigFormat where
  net : NetText
  showAddr : SocketAddr → String
  parseToml : String → Except String TomlFile
  printToml : TomlFile → Except String String

/-- A regular file. -/
structure DiskFile where
  /-- When it was last modified, if that is known. -/
  modified : Option ℕ
  /-- Its text, or the error of reading it. -/
  contents : Except String String

/-- The regular files, by path. -/
abbrev Disk := String → Option DiskFile

/-- Source: `HubConfig::load_file`. -/
def Disk.loadFile (fmt : ConfigFormat) (disk : Disk) (path : String) :
    Except ConfigError HubConfig :=
  HubConfig.loadFile fmt.net fmt.parseToml path
    ((disk path).elim (.error "No such file or directory (os error 2)") DiskFile.contents)

/-- Backend name → enabled; a later backend of a name replaces an earlier one. Source:
`config.rs`, the `collect` of `backends`. -/
def backendFlags (backends : List BackendConfig) : AList fun _ : String => Bool :=
  backends.foldl (fun flags b => flags.insert b.name b.enabled) ∅

/-- The flags of a configuration. Source: `ReloadableHubPolicy::from_config`, `static_policy`, and
`load_hub_policy_file`. -/
def HubConfig.policy (cfg : HubConfig) : HubPolicySnapshot := ⟨cfg.devices, backendFlags cfg.backends⟩

/-- Source: `config.rs`, `load_hub_policy_file`. -/
def loadHubPolicyFile (fmt : ConfigFormat) (disk : Disk) (path : String) :
    Except ConfigError HubPolicySnapshot :=
  (disk.loadFile fmt path).map HubConfig.policy

/-- Source: `config.rs`, `ReloadableHubPolicy` and `HubPolicyCache`. -/
structure ReloadableHubPolicy where
  path : Option String
  staticPolicy : HubPolicySnapshot
  mtime : Option ℕ
  policy : HubPolicySnapshot

namespace ReloadableHubPolicy

/-- Source: `ReloadableHubPolicy::from_config`. -/
def fromConfig (fmt : ConfigFormat) (disk : Disk) (config : HubConfig) : ReloadableHubPolicy :=
  let unread : ReloadableHubPolicy := ⟨config.configPath, config.policy, none, config.policy⟩
  match config.configPath with
  | none => unread
  | some path =>
      match disk path with
      | none => unread
      | some file =>
          { unread with
            mtime := file.modified
            policy := (loadHubPolicyFile fmt disk path).toOption.getD config.policy }

/-- Source: `ReloadableHubPolicy::refresh`. -/
def refresh (fmt : ConfigFormat) (disk : Disk) (r : ReloadableHubPolicy) :
    ReloadableHubPolicy × HubPolicySnapshot :=
  match r.path with
  | none => (r, r.staticPolicy)
  | some path =>
      let mtime := (disk path).bind DiskFile.modified
      let r :=
        if mtime ≠ r.mtime then
          { r with
            mtime := mtime
            policy := (loadHubPolicyFile fmt disk path).toOption.getD r.policy }
        else r
      (r, r.policy)

end ReloadableHubPolicy

/-- The flags in force for a configuration: those of its file, or its own where the file cannot be
loaded. -/
def HubConfig.flagsInForce (fmt : ConfigFormat) (disk : Disk) (config : HubConfig) :
    HubPolicySnapshot :=
  match config.configPath with
  | none => config.policy
  | some path =>
      if (disk path).isSome then (loadHubPolicyFile fmt disk path).toOption.getD config.policy
      else config.policy

/-- **An unchanged file** is read once. -/
theorem policy_refresh_fromConfig (fmt : ConfigFormat) (disk : Disk) (config : HubConfig) :
    ((ReloadableHubPolicy.fromConfig fmt disk config).refresh fmt disk).2 =
      config.flagsInForce fmt disk := by
  unfold ReloadableHubPolicy.fromConfig HubConfig.flagsInForce ReloadableHubPolicy.refresh
  rcases hpath : config.configPath with _ | path
  · rfl
  · rcases hfile : disk path with _ | file
    · simp [hfile]
    · simp [hfile]

end AdbHub
