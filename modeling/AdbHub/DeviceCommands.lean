import AdbHub.HubEdit
import AdbHub.PolicyFiles

/-!
# Device commands of the proxy

What `adb-proxy device enable` and `disable` make of the policy file, command after command
(`main.rs`, `run_device_command`, and `proxy_config.rs`).

* `ProxyToml` — the `toml` crate, with entries as they are written: the flag may be missing.
* `ProxyFileConfig.toTomlString` — only the disabled devices are saved, and nothing for none.
* `DeviceCommand.machine` — any sequence of commands on a file.
* `loads_step` — one command, through saving and loading.
* **`commands_answer`** — a serial is what the last command about it says, else what the file said.
-/

namespace AdbHub

open Lib

/-! ## The text of the policy file -/

/-- A `[[device]]` entry as it is written. Source: `policy.rs`, `DevicePolicyEntry`. -/
structure TomlDevice where
  serial : String
  enabled : Option Bool
  deriving DecidableEq

/-- A missing flag is `default_true`. Source: `policy.rs`, `DevicePolicyEntry`. -/
def TomlDevice.entry (d : TomlDevice) : DevicePolicyEntry := ⟨d.serial, d.enabled.getD true⟩

/-- How an entry is printed. Source: `policy.rs`, `DevicePolicyEntry`. -/
def DevicePolicyEntry.written (e : DevicePolicyEntry) : TomlDevice := ⟨e.serial, some e.enabled⟩

@[simp] theorem entry_written (e : DevicePolicyEntry) : e.written.entry = e := rfl

/-- The `toml` crate, for the `TomlFile` of the proxy. -/
structure ProxyToml where
  parse : String → Except String (List TomlDevice)
  print : List DevicePolicyEntry → Except String String

namespace ProxyToml

/-- The entries of a text, with the defaults for what is missing. -/
def format (toml : ProxyToml) : ProxyFormat := fun text =>
  (toml.parse text).map (List.map TomlDevice.entry)

/-- The crate parses what it prints, and an empty document has no entries. -/
structure Reparses (toml : ProxyToml) : Prop where
  printed : ∀ entries text, toml.print entries = .ok text →
    toml.parse text = .ok (entries.map DevicePolicyEntry.written)
  nothing : toml.parse "" = .ok []

end ProxyToml

/-! ## Saving -/

namespace ProxyFileConfig

/-- Source: `ProxyFileConfig::to_toml_string`. -/
def toTomlString (toml : ProxyToml) (cfg : ProxyFileConfig) : Except String String :=
  let device := cfg.devices.toDisabledEntries
  if device.isEmpty then .ok ""
  else toml.print device

/-- The disk after the file was saved at some time. Source: `ProxyFileConfig::save_file`. -/
def saveFile (toml : ProxyToml) (disk : Disk) (path : String) (modified : Option ℕ)
    (cfg : ProxyFileConfig) : Except String Disk := do
  let text ← cfg.toTomlString toml
  .ok (Function.update disk path (some ⟨modified, .ok text⟩))

/-- Source: `ProxyFileConfig::set_device_enabled`. -/
def setDeviceEnabled (cfg : ProxyFileConfig) (serial : String) (enabled : Bool) : ProxyFileConfig :=
  ⟨cfg.devices.setEnabled serial enabled⟩

variable {toml : ProxyToml} {cfg : ProxyFileConfig} {disk disk' : Disk} {path text : String}

/-- What is saved is loaded with the same answers. -/
theorem fromTomlStr_toTomlString (htoml : toml.Reparses) (h : cfg.toTomlString toml = .ok text) :
    fromTomlStr toml.format text = .ok ⟨.fromEntries cfg.devices.toDisabledEntries⟩ := by
  have hparse : toml.format text = .ok cfg.devices.toDisabledEntries := by
    unfold toTomlString at h
    dsimp only at h
    unfold ProxyToml.format
    split_ifs at h with hnone
    · obtain rfl := Except.ok.inj h
      rw [htoml.nothing, List.isEmpty_iff.mp hnone]
      rfl
    · rw [htoml.printed _ _ h]
      simp [Except.map, Function.comp_def]
  unfold fromTomlStr
  simp only [hparse, Except.mapError, bind, Except.bind]
  rfl

/-- **A saved file** answers as what was saved. -/
theorem loadFile_saveFile (htoml : toml.Reparses) {modified : Option ℕ}
    (h : cfg.saveFile toml disk path modified = .ok disk') :
    ∃ loaded, loadFile toml.format disk' path = .ok loaded ∧
      ∀ serial, loaded.devices.isEnabled serial = cfg.devices.isEnabled serial := by
  unfold saveFile at h
  obtain ⟨text, htext, h⟩ := bind_eq_ok h
  obtain rfl := Except.ok.inj h
  refine ⟨_, ?_, DevicePolicyTable.isEnabled_fromEntries_toDisabledEntries cfg.devices⟩
  unfold loadFile
  simp only [Function.update_self, Except.mapError, bind, Except.bind]
  exact fromTomlStr_toTomlString htoml htext

end ProxyFileConfig

/-! ## Commands -/

/-- `device enable` or `device disable`, and the time at which it saves the file.
Source: `main.rs`, `DeviceAction`. -/
structure DeviceCommand where
  serial : String
  enabled : Bool
  modified : Option ℕ

namespace DeviceCommand

/-- A command that succeeds. Source: `main.rs`, `run_device_command`. -/
def step (toml : ProxyToml) (path : String) (disk : Disk) (c : DeviceCommand) : Option Disk :=
  match ProxyFileConfig.loadFile toml.format disk path with
  | .error _ => none
  | .ok cfg =>
      match (cfg.setDeviceEnabled c.serial c.enabled).saveFile toml disk path c.modified with
      | .error _ => none
      | .ok disk => some disk

/-- Commands on a file, one after the other. -/
def machine (toml : ProxyToml) (path : String) (disk : Disk) : Machine Disk DeviceCommand where
  init := disk
  step := step toml path

/-- What the last command about a serial says. -/
def lastSaid (commands : List DeviceCommand) (serial : String) : Option Bool :=
  (commands.reverse.find? fun c => c.serial = serial).map enabled

theorem lastSaid_concat (commands : List DeviceCommand) (c : DeviceCommand) (serial : String) :
    lastSaid (commands ++ [c]) serial =
      if serial = c.serial then some c.enabled else lastSaid commands serial := by
  unfold lastSaid
  rw [List.reverse_append, List.reverse_singleton, List.singleton_append, List.find?_cons]
  split_ifs with hserial
  · simp [hserial]
  · simp [Ne.symm hserial]

/-- The file loads, and its policy answers in this way. -/
def Loads (toml : ProxyToml) (path : String) (disk : Disk) (answer : String → Bool) : Prop :=
  ∃ cfg, ProxyFileConfig.loadFile toml.format disk path = .ok cfg ∧
    ∀ serial, cfg.devices.isEnabled serial = answer serial

section

variable {toml : ProxyToml} {path : String} {disk disk' : Disk} {answer : String → Bool}
  {c : DeviceCommand} {commands : List DeviceCommand}

/-- **One command** changes the answer for its own serial. -/
theorem loads_step (htoml : toml.Reparses) (h : Loads toml path disk answer)
    (hstep : step toml path disk c = some disk') :
    Loads toml path disk' fun serial => if serial = c.serial then c.enabled else answer serial := by
  obtain ⟨cfg, hload, hanswer⟩ := h
  unfold step at hstep
  simp only [hload] at hstep
  split at hstep
  · cases hstep
  · rename_i saved hsave
    obtain rfl := Option.some.inj hstep
    obtain ⟨loaded, hloaded, hsame⟩ := ProxyFileConfig.loadFile_saveFile htoml hsave
    refine ⟨loaded, hloaded, fun serial => ?_⟩
    rw [hsame, ProxyFileConfig.setDeviceEnabled, DevicePolicyTable.isEnabled_setEnabled, hanswer]

/-- A command on a file that loads succeeds if the entries can be printed. -/
theorem step_succeeds (hprint : ∀ entries, ∃ text, toml.print entries = .ok text)
    (h : Loads toml path disk answer) (c : DeviceCommand) :
    ∃ disk', step toml path disk c = some disk' := by
  obtain ⟨cfg, hload, -⟩ := h
  obtain ⟨text, htext⟩ : ∃ text,
      (cfg.setDeviceEnabled c.serial c.enabled).toTomlString toml = .ok text := by
    unfold ProxyFileConfig.toTomlString
    dsimp only
    split_ifs
    · exact ⟨"", rfl⟩
    · exact hprint _
  refine ⟨Function.update disk path (some ⟨c.modified, .ok text⟩), ?_⟩
  unfold step ProxyFileConfig.saveFile
  simp only [hload, htext, bind, Except.bind]

/-- **What a history of commands comes to.** If the `toml` crate parses what it prints: for every
policy file that loads and every sequence of commands, the file that is left loads, and its policy
says of every serial what the last command about it said, or what the first file said. No sequence
gets stuck if entries can be printed.
Source: `main.rs`, `run_device_command`; `policy.rs`, `DevicePolicyTable` -/
theorem commands_answer (htoml : toml.Reparses) {cfg : ProxyFileConfig}
    (hload : ProxyFileConfig.loadFile toml.format disk path = .ok cfg)
    (commands : List DeviceCommand) :
    (∀ disk', (machine toml path disk).Reaches commands disk' →
        Loads toml path disk' fun serial =>
          (lastSaid commands serial).getD (cfg.devices.isEnabled serial)) ∧
      ((∀ entries, ∃ text, toml.print entries = .ok text) →
        ∃ disk', (machine toml path disk).Reaches commands disk') := by
  induction commands using List.reverseRecOn with
  | nil =>
      refine ⟨fun disk' h => ?_, fun _ => ⟨disk, .init⟩⟩
      obtain rfl := Machine.run_nil_iff.mp h
      exact ⟨cfg, hload, fun _ => rfl⟩
  | append_singleton commands c ih =>
      obtain ⟨hanswer, hruns⟩ := ih
      constructor
      · intro disk' h
        obtain ⟨disk₁, hrun, -, hstep⟩ := Machine.run_snoc_iff.mp h
        obtain ⟨loaded, hloaded, htold⟩ := loads_step htoml (hanswer disk₁ hrun) hstep
        refine ⟨loaded, hloaded, fun serial => ?_⟩
        simp only [htold, lastSaid_concat]
        split_ifs <;> rfl
      · intro hprint
        obtain ⟨disk₁, hrun⟩ := hruns hprint
        obtain ⟨disk', hstep⟩ := step_succeeds hprint (hanswer disk₁ hrun) c
        exact ⟨disk', .snoc hrun trivial hstep⟩

end

/-- The crate, on the text of one disabled device and on no text. -/
def oneDeviceToml : ProxyToml where
  parse text :=
    if text = ReloadableProxyPolicy.disabledText then .ok [⟨"ABC", some false⟩]
    else if text = "" then .ok []
    else .error "TOML parse error"
  print entries :=
    if entries = [⟨"ABC", false⟩] then .ok ReloadableProxyPolicy.disabledText
    else .error "unsupported"

theorem oneDeviceToml_reparses : oneDeviceToml.Reparses where
  printed entries text h := by
    unfold oneDeviceToml at h
    dsimp only at h
    split_ifs at h with hentries
    obtain rfl := Except.ok.inj h
    rw [hentries]
    simp [oneDeviceToml, DevicePolicyEntry.written]
  nothing := rfl

/-- A device is disabled in a file that was not there, enabled, and disabled again. -/
theorem disabled_at_last :
    ∃ disk, (machine oneDeviceToml "config.toml" fun _ => none).Reaches
        [⟨"ABC", false, some 1⟩, ⟨"ABC", true, some 2⟩, ⟨"ABC", false, some 3⟩] disk ∧
      Loads oneDeviceToml "config.toml" disk fun serial => decide (serial ≠ "ABC") := by
  obtain ⟨disk, hrun⟩ : ∃ disk, (machine oneDeviceToml "config.toml" fun _ => none).Reaches
      [⟨"ABC", false, some 1⟩, ⟨"ABC", true, some 2⟩, ⟨"ABC", false, some 3⟩] disk :=
    ⟨_, Machine.reaches_of_exec rfl⟩
  have hload : ProxyFileConfig.loadFile oneDeviceToml.format (fun _ => none) "config.toml" =
      .ok {} := rfl
  obtain ⟨loaded, hloaded, htold⟩ :=
    (commands_answer oneDeviceToml_reparses hload _).1 disk hrun
  refine ⟨disk, hrun, loaded, hloaded, fun serial => ?_⟩
  simp only [htold]
  by_cases hserial : serial = "ABC"
  · subst hserial
    decide
  · simp [lastSaid, Ne.symm hserial, hserial]

end DeviceCommand

end AdbHub
