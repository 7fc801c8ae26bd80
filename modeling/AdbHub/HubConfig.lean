import AdbHub.Config
import AdbHub.Policy
import AdbHub.Lib.Effect
import AdbHub.Lib.Utf8

/-!
# The hub configuration file

Which configuration files the hub accepts, and the backends they give (`config.rs`, `auth.rs`).
The file format itself and the text form of addresses are parameters (`TomlText`, `NetText`).

* `HubConfig.fromTomlFile` — the checks, in the source's order, with their messages.
* `HubConfig.loadFile` and `HubConfig.enabledBackends`.
* `fromTomlFile_eq_ok` and `loadFile_eq_ok` — what a file has passed that is accepted or loaded.
* **`backends_fromTomlFile`** — an accepted file keeps its backends as they are listed, with any
  names, repeated ones included; every pair code among them is valid.
-/

namespace AdbHub

open Lib

/-- Source: `config.rs`, `ConfigError`; each error with its text. -/
inductive ConfigError
  | io (text : String)
  | invalid (text : String)
  | toml (text : String)
  deriving DecidableEq

/-- The text form of addresses: `SocketAddr::from_str`, and the name made of an address.
Source: `std::net`, and `config.rs`, `default_backend_name`. -/
structure NetText where
  parseAddr : String → Except String SocketAddr
  defaultBackendName : SocketAddr → String

/-- Source: `config.rs`, `TomlBackend`. -/
structure TomlBackend where
  name : Option String
  addr : String
  pairCode : Option String
  enabled : Bool := true
  deriving DecidableEq

/-- Source: `config.rs`, `TomlFile`. -/
structure TomlFile where
  listen : String := "127.0.0.1:5037"
  pollIntervalMs : UInt64 := 1000
  /-- Must match the version of the installed adb client. -/
  adbVersion : UInt32 := 41
  includeLocal : Bool := true
  localAdbPort : UInt16 := 5039
  backend : List TomlBackend := []
  device : List DevicePolicyEntry := []
  deriving DecidableEq

/-- Source: `config.rs`, `HubConfig`. -/
structure HubConfig where
  listen : SocketAddr
  /-- In milliseconds. -/
  pollInterval : UInt64
  backends : List BackendConfig
  adbVersion : UInt32
  includeLocal : Bool
  localAdbPort : UInt16
  devices : DevicePolicyTable
  /-- Path this config was loaded from. -/
  configPath : Option String

/-- Source: `SocketAddr::port`. -/
def SocketAddr.port : SocketAddr → UInt16
  | .v4 _ port => port
  | .v6 _ port _ _ => port

/-- Source: `auth.rs`, `PAIR_CODE_LEN`. -/
def pairCodeLen : ℕ := 8

/-- Exactly 8 characters from `A`–`Z` and `0`–`9`. Source: `auth.rs`, `validate_pair_code`. -/
def validatePairCode (code : String) : Except String Unit :=
  if (utf8 code).length ≠ pairCodeLen then
    .error ("pair code must be " ++ pairCodeLen.repr ++ " characters, got " ++
      (utf8 code).length.repr)
  else if !(utf8 code).all fun b =>
      (0x41 ≤ b && b ≤ 0x5a) || (0x30 ≤ b && b ≤ 0x39) then
    .error "pair code must be alphanumeric A-Z0-9"
  else .ok ()

/-- Source: `auth.rs`, `AUTH_PREFIX`. -/
def authPrefix : String := "auth:"

/-- Source: `auth.rs`, `auth_service`. -/
def authService (code : String) : String := authPrefix ++ code

namespace HubConfig

/-- One `[[backend]]` entry. Source: `HubConfig::from_toml_file`, the body of the loop. -/
def readBackend (net : NetText) (idx : ℕ) (b : TomlBackend) : Except ConfigError BackendConfig := do
  let addr ← (net.parseAddr b.addr).mapError fun e =>
    .invalid ("backend[" ++ idx.repr ++ "].addr: " ++ e)
  let name := b.name.getD (net.defaultBackendName addr)
  if let some code := b.pairCode then
    (validatePairCode code).mapError fun e =>
      ConfigError.invalid ("backend[" ++ idx.repr ++ "].pair_code: " ++ e)
  .ok { name := name, addr := addr, pairCode := b.pairCode, enabled := b.enabled }

/-- The entries from number `idx` on. -/
def readBackends (net : NetText) : ℕ → List TomlBackend → Except ConfigError (List BackendConfig)
  | _, [] => .ok []
  | idx, b :: bs => do
      let backend ← readBackend net idx b
      let backends ← readBackends net (idx + 1) bs
      .ok (backend :: backends)

/-- Source: `HubConfig::from_toml_file`. -/
def fromTomlFile (net : NetText) (parsed : TomlFile) : Except ConfigError HubConfig := do
  let listen ← (net.parseAddr parsed.listen).mapError fun e => .invalid ("listen: " ++ e)
  if parsed.localAdbPort = 0 then
    throw (.invalid "local_adb_port must be non-zero")
  if listen.port = parsed.localAdbPort then
    throw (.invalid "local_adb_port must differ from listen port")
  let backends ← readBackends net 0 parsed.backend
  if backends.isEmpty && !parsed.includeLocal then
    throw (.invalid "at least one [[backend]] is required when include_local = false")
  return {
    listen := listen
    pollInterval := max parsed.pollIntervalMs 100
    backends := backends
    adbVersion := parsed.adbVersion
    includeLocal := parsed.includeLocal
    localAdbPort := parsed.localAdbPort
    devices := .fromEntries parsed.device
    configPath := none }

/-- Load a file with the given contents; `parseToml` is the `toml` crate.
Source: `HubConfig::load_file`. -/
def loadFile (net : NetText) (parseToml : String → Except String TomlFile) (path : String)
    (contents : Except String String) : Except ConfigError HubConfig := do
  let text ← contents.mapError .io
  let parsed ← (parseToml text).mapError .toml
  let cfg ← fromTomlFile net parsed
  return { cfg with configPath := some path }

/-- The defaults without file and backends. Source: `HubConfig::local_only`. -/
def localOnly : HubConfig where
  listen := .loopback 5037
  pollInterval := 1000
  backends := []
  adbVersion := 41
  includeLocal := true
  localAdbPort := 5039
  devices := .empty
  configPath := none

/-- Source: `HubConfig::enabled_backends`. -/
def enabledBackends (cfg : HubConfig) : List BackendConfig := cfg.backends.filter (·.enabled)

/-- The backend is what the entry says; a missing name is made of the address. -/
structure IsBackendOf (net : NetText) (b : TomlBackend) (backend : BackendConfig) : Prop where
  addr : net.parseAddr b.addr = .ok backend.addr
  name : backend.name = b.name.getD (net.defaultBackendName backend.addr)
  pairCode : backend.pairCode = b.pairCode
  enabled : backend.enabled = b.enabled
  valid : ∀ code, b.pairCode = some code → validatePairCode code = .ok ()

theorem readBackend_ok {net : NetText} {idx : ℕ} {b : TomlBackend} {backend : BackendConfig}
    (h : readBackend net idx b = .ok backend) : IsBackendOf net b backend := by
  unfold readBackend at h
  obtain ⟨addr, haddr, h⟩ := bind_eq_ok h
  rw [mapError_eq_ok_iff] at haddr
  rcases hcode : b.pairCode with _ | code
  · rw [hcode] at h
    obtain rfl := Except.ok.inj h
    refine ⟨haddr, rfl, hcode.symm, rfl, ?_⟩
    intro code hsome
    rw [hcode] at hsome
    simp at hsome
  · rw [hcode] at h
    obtain ⟨_, hvalid, h⟩ := bind_eq_ok h
    rw [mapError_eq_ok_iff] at hvalid
    obtain rfl := Except.ok.inj h
    refine ⟨haddr, rfl, hcode.symm, rfl, ?_⟩
    intro code' hsome
    rw [hcode] at hsome
    obtain rfl := Option.some.inj hsome
    exact hvalid

theorem readBackends_ok {net : NetText} {idx : ℕ} {bs : List TomlBackend}
    {backends : List BackendConfig} (h : readBackends net idx bs = .ok backends) :
    List.Forall₂ (IsBackendOf net) bs backends := by
  induction bs generalizing idx backends with
  | nil =>
      obtain rfl := Except.ok.inj h
      exact .nil
  | cons b bs ih =>
      unfold readBackends at h
      obtain ⟨backend, hb, h⟩ := bind_eq_ok h
      obtain ⟨rest, hbs, h⟩ := bind_eq_ok h
      obtain rfl := Except.ok.inj h
      exact .cons (readBackend_ok hb) (ih hbs)

/-- What an accepted file has passed, and what is made of it. -/
theorem fromTomlFile_eq_ok {net : NetText} {parsed : TomlFile} {cfg : HubConfig}
    (h : fromTomlFile net parsed = .ok cfg) :
    net.parseAddr parsed.listen = .ok cfg.listen ∧ parsed.localAdbPort ≠ 0 ∧
      cfg.listen.port ≠ parsed.localAdbPort ∧
      readBackends net 0 parsed.backend = .ok cfg.backends ∧
      ¬ (cfg.backends = [] ∧ parsed.includeLocal = false) ∧
      cfg = {
        listen := cfg.listen
        pollInterval := max parsed.pollIntervalMs 100
        backends := cfg.backends
        adbVersion := parsed.adbVersion
        includeLocal := parsed.includeLocal
        localAdbPort := parsed.localAdbPort
        devices := .fromEntries parsed.device
        configPath := none } := by
  unfold fromTomlFile at h
  obtain ⟨listen, hlisten, h⟩ := bind_eq_ok h
  rw [mapError_eq_ok_iff] at hlisten
  dsimp only at h
  -- the three checks, in the source's order
  by_cases hzero : parsed.localAdbPort = 0
  · rw [if_pos hzero] at h
    cases h
  rw [if_neg hzero] at h
  by_cases hclash : listen.port = parsed.localAdbPort
  · rw [if_pos hclash] at h
    cases h
  rw [if_neg hclash] at h
  obtain ⟨backends, hbackends, h⟩ := bind_eq_ok h
  by_cases hnone : (backends.isEmpty && !parsed.includeLocal) = true
  · rw [if_pos hnone] at h
    cases h
  rw [if_neg hnone] at h
  obtain rfl := Except.ok.inj h
  refine ⟨hlisten, hzero, hclash, hbackends, ?_, rfl⟩
  rintro ⟨hnil, hlocal⟩
  apply hnone
  simp [hlocal, List.isEmpty_iff.mpr hnil]

/-- **The backends of an accepted file** are its entries, one by one: any names, repeated ones
included, and valid pair codes only. -/
theorem backends_fromTomlFile {net : NetText} {parsed : TomlFile} {cfg : HubConfig}
    (h : fromTomlFile net parsed = .ok cfg) :
    List.Forall₂ (IsBackendOf net) parsed.backend cfg.backends := by
  obtain ⟨-, -, -, hbackends, -⟩ := fromTomlFile_eq_ok h
  exact readBackends_ok hbackends

/-- A file that is loaded is read, parsed and accepted; the configuration knows its path. -/
theorem loadFile_eq_ok {net : NetText} {parseToml : String → Except String TomlFile}
    {path : String} {contents : Except String String} {cfg : HubConfig}
    (h : loadFile net parseToml path contents = .ok cfg) :
    ∃ text parsed loaded, contents = .ok text ∧ parseToml text = .ok parsed ∧
      fromTomlFile net parsed = .ok loaded ∧ cfg = { loaded with configPath := some path } := by
  unfold loadFile at h
  obtain ⟨text, htext, h⟩ := bind_eq_ok h
  obtain ⟨parsed, hparsed, h⟩ := bind_eq_ok h
  obtain ⟨loaded, hloaded, h⟩ := bind_eq_ok h
  rw [mapError_eq_ok_iff] at htext hparsed
  exact ⟨text, parsed, loaded, htext, hparsed, hloaded, (Except.ok.inj h).symm⟩

end HubConfig

end AdbHub
