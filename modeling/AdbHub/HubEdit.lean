import AdbHub.BackendQuery
import AdbHub.ReloadablePolicy
import AdbHub.SocketText

/-!
# Editing the configuration file

The commands that change the configuration file (`bin/adb-hub.rs`), each of which loads the file,
changes the configuration and saves it (`config.rs`, `policy.rs`).

* `HubConfig.toTomlString` — what is saved, and `HubConfig.SavedAs`: what a reload has to agree
  on.
* `HubConfig.upsertBackend`, `setBackendEnabled`, `setDeviceEnabled` — the changes.
* `HubEdit`, `ConfigFile.machine` — any sequence of successful commands.
* **`saved_files_load_iff`** — every saved file loads to what was saved exactly if no command
  removes the last backend of a configuration without the local one.
-/

namespace AdbHub

open Lib Protocol

/-- The text of an error. Source: `config.rs`, `ConfigError`. -/
def ConfigError.text : ConfigError → String
  | .io text => "io error: " ++ text
  | .invalid text => "invalid config: " ++ text
  | .toml text => "toml parse error: " ++ text

/-! ## Saving -/

/-- The disabled devices, by serial. Source: `policy.rs`, `to_disabled_entries`. -/
def DevicePolicyTable.toDisabledEntries (t : DevicePolicyTable) : List DevicePolicyEntry :=
  (t.entries.entries.filterMap fun ⟨serial, enabled⟩ =>
    if enabled then none else some ⟨serial, false⟩).insertionSort fun a b => a.serial ≤ b.serial

/-- Change the first element with a property. Source: `iter_mut().find(..)`. -/
def updateFirst {α : Type} (p : α → Bool) (f : α → α) : List α → Option (List α)
  | [] => none
  | x :: xs => if p x then some (f x :: xs) else (updateFirst p f xs).map (x :: ·)

namespace HubConfig

/-- Source: `config.rs`, `to_toml_string`, `file`. -/
def toTomlFile (fmt : ConfigFormat) (cfg : HubConfig) : TomlFile where
  listen := fmt.showAddr cfg.listen
  pollIntervalMs := cfg.pollInterval
  adbVersion := cfg.adbVersion
  includeLocal := cfg.includeLocal
  localAdbPort := cfg.localAdbPort
  backend := cfg.backends.map fun b => ⟨some b.name, fmt.showAddr b.addr, b.pairCode, b.enabled⟩
  device := cfg.devices.toDisabledEntries

/-- Source: `config.rs`, `to_toml_string`. -/
def toTomlString (fmt : ConfigFormat) (cfg : HubConfig) : Except String String :=
  fmt.printToml (cfg.toTomlFile fmt)

/-- Replace address and pair code of the first backend of the name, else name and pair code of the
first one of the address, else add the backend. Source: `config.rs`, `upsert_backend`. -/
def upsertBackend (cfg : HubConfig) (backend : BackendConfig) : HubConfig :=
  match updateFirst (fun b => b.name = backend.name)
      (fun b => { b with addr := backend.addr, pairCode := backend.pairCode }) cfg.backends with
  | some backends => { cfg with backends := backends }
  | none =>
      match updateFirst (fun b => b.addr = backend.addr)
          (fun b => { b with name := backend.name, pairCode := backend.pairCode })
          cfg.backends with
      | some backends => { cfg with backends := backends }
      | none => { cfg with backends := cfg.backends ++ [backend] }

/-- Source: `config.rs`, `set_device_enabled`. -/
def setDeviceEnabled (cfg : HubConfig) (serial : String) (enabled : Bool) : HubConfig :=
  { cfg with devices := cfg.devices.setEnabled serial enabled }

/-- Source: `config.rs`, `set_backend_enabled`. -/
def setBackendEnabled (cfg : HubConfig) (name : String) (enabled : Bool) :
    Except ConfigError HubConfig :=
  match updateFirst (fun b => b.name = name) (fun b => { b with enabled := enabled })
      cfg.backends with
  | some backends => .ok { cfg with backends := backends }
  | none => .error (.invalid ("node '" ++ name ++ "' not found"))

/-- Remove every backend of the name. Source: `bin/adb-hub.rs`, `run_unpair`. -/
def removeBackend (cfg : HubConfig) (name : String) : Except String HubConfig :=
  let backends := cfg.backends.filter fun b => b.name ≠ name
  if backends.length = cfg.backends.length then .error ("backend '" ++ name ++ "' not found")
  else .ok { cfg with backends := backends }

end HubConfig

/-! ## Commands -/

/-- A command that changes the configuration. -/
inductive HubEdit
  /-- The address as typed, the code and the name; what the two connections to the address
  meet. -/
  | pair (addr code : String) (name : Option String) (auth probe : Dial)
  | unpair (name : String)
  | device (serial : String) (enabled : Bool)
  | node (name : String) (enabled : Bool)

/-- The backend `adb-hub pair` adds, if it accepts the pair code and is not too old. Source:
`bin/adb-hub.rs`, `run_pair`, up to `config`. -/
def pairedBackend (fmt : ConfigFormat) (addr code : String) (name : Option String)
    (auth probe : Dial) : Except String BackendConfig := do
  let addr ← fmt.net.parseAddr addr
  validatePairCode code
  -- there is no time limit here but that of the operating system
  auth.connect.getD (.error "Connection timed out (os error 110)")
  let _ ← authenticateStream auth.upstream code
  if (checkProxyCompat probe (some code)).isOk then
    .ok ⟨name.getD (fmt.net.defaultBackendName addr), addr, some code, true⟩
  else .error ("incompatible adb-proxy version on " ++ fmt.showAddr addr)

/-- What a command makes of the configuration. Source: `bin/adb-hub.rs`, `run_pair`, `run_unpair`,
`run_device` and `run_node`. -/
def HubEdit.apply (fmt : ConfigFormat) (cfg : HubConfig) : HubEdit → Except String HubConfig
  | .pair addr code name auth probe => do
      let backend ← pairedBackend fmt addr code name auth probe
      .ok (cfg.upsertBackend backend)
  | .unpair name => cfg.removeBackend name
  | .device serial enabled => .ok (cfg.setDeviceEnabled serial enabled)
  | .node name enabled => (cfg.setBackendEnabled name enabled).mapError ConfigError.text

/-- The configuration file, and the configuration that was saved last. -/
structure ConfigFile where
  text : Option String
  saved : Option HubConfig := none

namespace ConfigFile

/-- Source: `bin/adb-hub.rs`, `load_or_empty`. -/
def loadOrEmpty (fmt : ConfigFormat) (path : String) (text : Option String) :
    Except ConfigError HubConfig :=
  match text with
  | some text => HubConfig.loadFile fmt.net fmt.parseToml path (.ok text)
  | none => .ok .localOnly

/-- A command that succeeds. Source: `bin/adb-hub.rs`; `config.rs`, `save_file`. -/
def step (fmt : ConfigFormat) (path : String) (s : ConfigFile) (e : HubEdit) : Option ConfigFile :=
  match loadOrEmpty fmt path s.text with
  | .error _ => none
  | .ok cfg =>
      match e.apply fmt cfg with
      | .error _ => none
      | .ok cfg =>
          match cfg.toTomlString fmt with
          | .error _ => none
          | .ok text => some ⟨some text, some cfg⟩

/-- The commands, from a file or none. -/
def machine (fmt : ConfigFormat) (path : String) (text : Option String) :
    Machine ConfigFile HubEdit where
  init := { text := text }
  step := step fmt path

end ConfigFile

/-! ## What is saved can be loaded -/

/-- What is printed is parsed again. -/
structure ConfigFormat.Reparses (fmt : ConfigFormat) : Prop where
  toml : ∀ {file text}, fmt.printToml file = .ok text → fmt.parseToml text = .ok file
  addr : ∀ {text addr}, fmt.net.parseAddr text = .ok addr →
    fmt.net.parseAddr (fmt.showAddr addr) = .ok addr
  /-- The address a configuration has without a file. Source: `config.rs`, `default_listen`. -/
  defaultListen : fmt.net.parseAddr "127.0.0.1:5037" = .ok (.loopback 5037)

/-- The text forms of the standard library, and those of the `toml` crate. -/
def ConfigFormat.std (parseToml : String → Except String TomlFile)
    (printToml : TomlFile → Except String String) : ConfigFormat where
  net := stdNet
  showAddr := SocketAddr.display
  parseToml := parseToml
  printToml := printToml

theorem ConfigFormat.std_reparses {parseToml : String → Except String TomlFile}
    {printToml : TomlFile → Except String String}
    (htoml : ∀ {file text}, printToml file = .ok text → parseToml text = .ok file) :
    (ConfigFormat.std parseToml printToml).Reparses where
  toml := htoml
  addr := SocketAddr.parse_display_of_parse
  defaultListen := parse_defaultListen

/-- A backend of a configuration that was loaded or edited. -/
structure BackendConfig.WellFormed (fmt : ConfigFormat) (b : BackendConfig) : Prop where
  addr : fmt.net.parseAddr (fmt.showAddr b.addr) = .ok b.addr
  pairCode : ∀ code, b.pairCode = some code → validatePairCode code = .ok ()

/-- A configuration that was loaded or edited. -/
structure HubConfig.WellFormed (fmt : ConfigFormat) (cfg : HubConfig) : Prop where
  listen : fmt.net.parseAddr (fmt.showAddr cfg.listen) = .ok cfg.listen
  port : cfg.localAdbPort ≠ 0
  ports : cfg.listen.port ≠ cfg.localAdbPort
  pollInterval : 100 ≤ cfg.pollInterval
  backends : ∀ b ∈ cfg.backends, b.WellFormed fmt

/-- Devices can come from somewhere: the local server is included, or there is a backend. -/
def HubConfig.HasSource (cfg : HubConfig) : Prop := cfg.includeLocal = true ∨ cfg.backends ≠ []

/-- What a loaded configuration has of the one that was saved. -/
structure HubConfig.SavedAs (cfg loaded : HubConfig) : Prop where
  listen : loaded.listen = cfg.listen
  pollInterval : loaded.pollInterval = cfg.pollInterval
  adbVersion : loaded.adbVersion = cfg.adbVersion
  includeLocal : loaded.includeLocal = cfg.includeLocal
  localAdbPort : loaded.localAdbPort = cfg.localAdbPort
  backends : loaded.backends = cfg.backends
  devices : ∀ serial, loaded.devices.isEnabled serial = cfg.devices.isEnabled serial

namespace DevicePolicyTable

theorem mem_toDisabledEntries {t : DevicePolicyTable} {e : DevicePolicyEntry} :
    e ∈ t.toDisabledEntries ↔ e.enabled = false ∧ t.entries.lookup e.serial = some false := by
  unfold toDisabledEntries
  rw [(List.perm_insertionSort _ _).mem_iff, List.mem_filterMap]
  constructor
  · rintro ⟨⟨serial, enabled⟩, hmem, he⟩
    cases enabled with
    | true => simp at he
    | false =>
        obtain rfl := Option.some.inj he
        exact ⟨rfl, AList.mem_lookup_iff.mpr hmem⟩
  · rintro ⟨henabled, hlookup⟩
    refine ⟨⟨e.serial, false⟩, AList.mem_lookup_iff.mp hlookup, ?_⟩
    obtain ⟨serial, enabled⟩ := e
    obtain rfl : enabled = false := henabled
    rfl

/-- A table made of entries that disable devices disables just these. -/
theorem isEnabled_fromEntries {entries : List DevicePolicyEntry}
    (h : ∀ e ∈ entries, e.enabled = false) (serial : String) :
    (fromEntries entries).isEnabled serial = false ↔ ∃ e ∈ entries, e.serial = serial := by
  unfold fromEntries isEnabled
  induction entries using List.reverseRecOn with
  | nil => simp
  | append_singleton entries e ih =>
      have ih := ih fun e' he' => h e' (List.mem_append_left _ he')
      have he : e.enabled = false := h e (by simp)
      rw [List.foldl_append, List.foldl_cons, List.foldl_nil, he]
      by_cases hserial : e.serial = serial
      · subst hserial
        simp
      · rw [AList.lookup_insert_ne (Ne.symm hserial), ih]
        simp [hserial]

/-- **The saved entries** answer as the table does. -/
theorem isEnabled_fromEntries_toDisabledEntries (t : DevicePolicyTable) (serial : String) :
    (fromEntries t.toDisabledEntries).isEnabled serial = t.isEnabled serial := by
  have hiff : (fromEntries t.toDisabledEntries).isEnabled serial = false ↔
      t.isEnabled serial = false := by
    rw [isEnabled_fromEntries fun e he => (mem_toDisabledEntries.mp he).1]
    unfold isEnabled
    constructor
    · rintro ⟨e, he, rfl⟩
      rw [(mem_toDisabledEntries.mp he).2]
      rfl
    · intro h
      refine ⟨⟨serial, false⟩, mem_toDisabledEntries.mpr ⟨rfl, ?_⟩, rfl⟩
      rcases hlookup : t.entries.lookup serial with _ | enabled
      · rw [hlookup] at h
        simp at h
      · rw [hlookup] at h
        obtain rfl : enabled = false := h
        rfl
  exact Bool.eq_iff_iff.mpr (by rw [← not_iff_not, Bool.not_eq_true, Bool.not_eq_true, hiff])

end DevicePolicyTable

namespace HubConfig

variable {fmt : ConfigFormat} {net : NetText} {parsed : TomlFile} {cfg : HubConfig}

theorem hundred_le_max (ms : UInt64) : 100 ≤ max ms 100 := by
  show 100 ≤ if ms ≤ 100 then 100 else ms
  split_ifs with hms
  · exact UInt64.le_refl 100
  · exact UInt64.le_of_lt (UInt64.not_le.mp hms)

theorem max_hundred_of_le {ms : UInt64} (h : 100 ≤ ms) : max ms 100 = ms := by
  show (if ms ≤ 100 then 100 else ms) = ms
  split_ifs with hms
  · exact UInt64.le_antisymm h hms
  · rfl

/-- What an accepted file has passed. -/
theorem fromTomlFile_ok (h : fromTomlFile net parsed = .ok cfg) :
    net.parseAddr parsed.listen = .ok cfg.listen ∧ cfg.localAdbPort ≠ 0 ∧
      cfg.listen.port ≠ cfg.localAdbPort ∧ 100 ≤ cfg.pollInterval ∧ cfg.HasSource := by
  obtain ⟨hlisten, hzero, hclash, -, hnone, hcfg⟩ := fromTomlFile_eq_ok h
  have hport : cfg.localAdbPort = parsed.localAdbPort := by rw [hcfg]
  have hpoll : cfg.pollInterval = max parsed.pollIntervalMs 100 := by rw [hcfg]
  have hlocal : cfg.includeLocal = parsed.includeLocal := by rw [hcfg]
  rw [hport, hpoll]
  refine ⟨hlisten, hzero, hclash, hundred_le_max _, ?_⟩
  unfold HasSource
  rw [hlocal, or_iff_not_imp_left, Bool.not_eq_true]
  exact fun hfalse hnil => hnone ⟨hnil, hfalse⟩

/-- The backends of an accepted file have addresses that were read, and valid pair codes. -/
theorem wellFormed_of_fromTomlFile
    (haddr : ∀ {text addr}, fmt.net.parseAddr text = .ok addr →
      fmt.net.parseAddr (fmt.showAddr addr) = .ok addr)
    (h : fromTomlFile fmt.net parsed = .ok cfg) : ∀ b ∈ cfg.backends, b.WellFormed fmt := by
  have hbackends := backends_fromTomlFile h
  intro b hb
  obtain ⟨i, hi, rfl⟩ := List.getElem_of_mem hb
  have hi' : i < parsed.backend.length := hbackends.length_eq ▸ hi
  have hentry := hbackends.get hi' hi
  refine ⟨haddr hentry.addr, fun code hcode => hentry.valid code ?_⟩
  rw [← hentry.pairCode]
  exact hcode

/-- A loaded configuration is well formed. -/
theorem wellFormed_of_loadFile (hfmt : fmt.Reparses) {path text : String}
    (h : loadFile fmt.net fmt.parseToml path (.ok text) = .ok cfg) :
    cfg.WellFormed fmt ∧ cfg.HasSource := by
  obtain ⟨-, parsed, loaded, -, -, hfile, rfl⟩ := loadFile_eq_ok h
  obtain ⟨hlisten, hport, hports, hpoll, hsource⟩ := fromTomlFile_ok hfile
  have hbackends := wellFormed_of_fromTomlFile hfmt.addr hfile
  exact ⟨⟨hfmt.addr hlisten, hport, hports, hpoll, hbackends⟩, hsource⟩

/-- The saved backends are read as they were. -/
theorem readBackends_saved {backends : List BackendConfig} (h : ∀ b ∈ backends, b.WellFormed fmt)
    (idx : ℕ) :
    readBackends fmt.net idx
        (backends.map fun b => ⟨some b.name, fmt.showAddr b.addr, b.pairCode, b.enabled⟩) =
      .ok backends := by
  induction backends generalizing idx with
  | nil => rfl
  | cons b bs ih =>
      obtain ⟨haddr, hcode⟩ := h b (List.mem_cons_self ..)
      have hread : readBackend fmt.net idx
          ⟨some b.name, fmt.showAddr b.addr, b.pairCode, b.enabled⟩ = .ok b := by
        obtain ⟨name, addr, pairCode, enabled⟩ := b
        unfold readBackend
        rcases pairCode with _ | code
        · simp only [haddr, Except.mapError, bind, Except.bind, Option.getD_some]
        · simp only [haddr, hcode code rfl, Except.mapError, bind, Except.bind, Option.getD_some]
      rw [List.map_cons, readBackends, hread, ih fun b' hb' => h b' (List.mem_cons_of_mem _ hb')]
      rfl

/-- **A saved file** loads to what was saved exactly if devices can come from somewhere. -/
theorem loadFile_saved_iff (hfmt : fmt.Reparses) (hcfg : cfg.WellFormed fmt) {text : String}
    (htext : cfg.toTomlString fmt = .ok text) (path : String) :
    (∃ loaded, loadFile fmt.net fmt.parseToml path (.ok text) = .ok loaded ∧ cfg.SavedAs loaded) ↔
      cfg.HasSource := by
  have hload : ∀ loaded, loadFile fmt.net fmt.parseToml path (.ok text) = .ok loaded →
      loaded.HasSource := fun loaded h => (wellFormed_of_loadFile hfmt h).2
  constructor
  · rintro ⟨loaded, hloaded, hsaved⟩
    have hsource := hload loaded hloaded
    unfold HasSource at hsource ⊢
    rw [hsaved.includeLocal, hsaved.backends] at hsource
    exact hsource
  · intro hsource
    have hnone : (cfg.backends.isEmpty && !cfg.includeLocal) = false := by
      rcases hsource with hlocal | hne
      · rw [hlocal, Bool.not_true, Bool.and_false]
      · rw [List.isEmpty_eq_false_iff.mpr hne, Bool.false_and]
    have hfile : fromTomlFile fmt.net (cfg.toTomlFile fmt) =
        .ok { cfg with
          devices := .fromEntries cfg.devices.toDisabledEntries
          configPath := none } := by
      unfold fromTomlFile toTomlFile
      simp only [hcfg.listen, readBackends_saved hcfg.backends, hcfg.port, hcfg.ports, hnone,
        max_hundred_of_le hcfg.pollInterval, Except.mapError, bind, Except.bind, if_false]
      rfl
    refine ⟨{ cfg with
      devices := .fromEntries cfg.devices.toDisabledEntries
      configPath := some path }, ?_, ⟨rfl, rfl, rfl, rfl, rfl, rfl, ?_⟩⟩
    · unfold loadFile
      simp only [hfmt.toml htext, hfile, Except.mapError, bind, Except.bind]
      rfl
    · exact DevicePolicyTable.isEnabled_fromEntries_toDisabledEntries cfg.devices

end HubConfig

/-! ## What the commands keep -/

theorem updateFirst_some {α : Type} {p : α → Bool} {f : α → α} {xs ys : List α}
    (h : updateFirst p f xs = some ys) :
    (∀ y ∈ ys, y ∈ xs ∨ ∃ x ∈ xs, y = f x) ∧ ys ≠ [] := by
  induction xs generalizing ys with
  | nil => simp [updateFirst] at h
  | cons x xs ih =>
      unfold updateFirst at h
      split_ifs at h
      · obtain rfl := Option.some.inj h
        refine ⟨fun y hy => ?_, List.cons_ne_nil _ _⟩
        rcases List.mem_cons.mp hy with rfl | hy
        · exact .inr ⟨x, List.mem_cons_self .., rfl⟩
        · exact .inl (List.mem_cons_of_mem x hy)
      · obtain ⟨zs, hzs, rfl⟩ := Option.map_eq_some_iff.mp h
        refine ⟨fun y hy => ?_, List.cons_ne_nil _ _⟩
        rcases List.mem_cons.mp hy with rfl | hy
        · exact .inl (List.mem_cons_self ..)
        · rcases (ih hzs).1 y hy with hy | ⟨z, hz, hy⟩
          · exact .inl (List.mem_cons_of_mem x hy)
          · exact .inr ⟨z, List.mem_cons_of_mem x hz, hy⟩

namespace HubConfig

variable {fmt : ConfigFormat} {cfg cfg' : HubConfig}

/-- A well-formed configuration with other well-formed backends. -/
theorem WellFormed.withBackends (h : cfg.WellFormed fmt) {backends : List BackendConfig}
    (hb : ∀ b ∈ backends, b.WellFormed fmt) : WellFormed fmt { cfg with backends := backends } :=
  ⟨h.listen, h.port, h.ports, h.pollInterval, hb⟩

/-- The first backend is changed, or the list is left alone. -/
theorem WellFormed.updateFirst (h : cfg.WellFormed fmt) {p : BackendConfig → Bool}
    {f : BackendConfig → BackendConfig} (hf : ∀ b, b.WellFormed fmt → (f b).WellFormed fmt)
    {backends : List BackendConfig} (hb : updateFirst p f cfg.backends = some backends) :
    WellFormed fmt { cfg with backends := backends } := by
  refine h.withBackends fun b hmem => ?_
  rcases (updateFirst_some hb).1 b hmem with hmem | ⟨c, hc, rfl⟩
  · exact h.backends b hmem
  · exact hf c (h.backends c hc)

theorem WellFormed.upsertBackend (h : cfg.WellFormed fmt) {backend : BackendConfig}
    (hb : backend.WellFormed fmt) :
    (cfg.upsertBackend backend).WellFormed fmt ∧ (cfg.upsertBackend backend).HasSource := by
  unfold HubConfig.upsertBackend
  split
  · rename_i backends hname
    refine ⟨h.updateFirst ?_ hname, .inr (updateFirst_some hname).2⟩
    exact fun _ _ => ⟨hb.addr, hb.pairCode⟩
  · split
    · rename_i backends haddr
      refine ⟨h.updateFirst ?_ haddr, .inr (updateFirst_some haddr).2⟩
      exact fun _ hwf => ⟨hwf.addr, hb.pairCode⟩
    · refine ⟨h.withBackends fun b hmem => ?_, .inr (by simp)⟩
      rcases List.mem_append.mp hmem with hmem | hmem
      · exact h.backends b hmem
      · rwa [List.mem_singleton.mp hmem]

theorem WellFormed.setBackendEnabled (h : cfg.WellFormed fmt) {name : String} {enabled : Bool}
    (hset : cfg.setBackendEnabled name enabled = .ok cfg') :
    cfg'.WellFormed fmt ∧ cfg'.HasSource := by
  unfold HubConfig.setBackendEnabled at hset
  split at hset
  · rename_i backends hname
    obtain rfl := Except.ok.inj hset
    refine ⟨h.updateFirst ?_ hname, .inr (updateFirst_some hname).2⟩
    exact fun _ hwf => ⟨hwf.addr, hwf.pairCode⟩
  · simp at hset

/-- Removing a backend leaves the others. -/
theorem WellFormed.removeBackend (h : cfg.WellFormed fmt) {name : String}
    (hremove : cfg.removeBackend name = .ok cfg') :
    cfg'.WellFormed fmt ∧
      (cfg'.HasSource ↔ cfg.includeLocal = true ∨ ∃ b ∈ cfg.backends, b.name ≠ name) := by
  unfold HubConfig.removeBackend at hremove
  dsimp only at hremove
  split_ifs at hremove
  obtain rfl := Except.ok.inj hremove
  refine ⟨h.withBackends fun b hb => h.backends b (List.mem_filter.mp hb).1, ?_⟩
  refine or_congr_right ?_
  constructor
  · intro hne
    obtain ⟨b, hb⟩ := List.exists_mem_of_ne_nil _ hne
    obtain ⟨hmem, hname⟩ := List.mem_filter.mp hb
    exact ⟨b, hmem, by simpa using hname⟩
  · rintro ⟨b, hmem, hname⟩
    exact List.ne_nil_of_mem (List.mem_filter.mpr ⟨hmem, by simpa using hname⟩)

theorem localOnly_wellFormed (hfmt : fmt.Reparses) : localOnly.WellFormed fmt where
  listen := hfmt.addr hfmt.defaultListen
  port := by decide
  ports := by decide
  pollInterval := by decide
  backends b hb := absurd hb List.not_mem_nil

end HubConfig

section commands

variable {fmt : ConfigFormat} {path : String} {text : Option String} {cfg cfg' : HubConfig}
  {backend : BackendConfig} {s t : ConfigFile} {e : HubEdit}

/-- A paired backend has an address that was typed, and a valid pair code. -/
theorem pairedBackend_wellFormed (hfmt : fmt.Reparses) {addr code : String} {name : Option String}
    {auth probe : Dial} (h : pairedBackend fmt addr code name auth probe = .ok backend) :
    backend.WellFormed fmt := by
  unfold pairedBackend at h
  obtain ⟨parsed, haddr, h⟩ := bind_eq_ok h
  obtain ⟨_, hcode, h⟩ := bind_eq_ok h
  obtain ⟨_, -, h⟩ := bind_eq_ok h
  obtain ⟨_, -, h⟩ := bind_eq_ok h
  split_ifs at h
  obtain rfl := Except.ok.inj h
  refine ⟨hfmt.addr haddr, fun code' hsome => ?_⟩
  obtain rfl := Option.some.inj hsome
  exact hcode

/-- The commands that cannot leave a configuration without source. -/
def HubEdit.KeepsSource (cfg : HubConfig) : HubEdit → Prop
  | .unpair name => cfg.includeLocal = true ∨ ∃ b ∈ cfg.backends, b.name ≠ name
  | _ => True

/-- **What a command keeps.** -/
theorem wellFormed_of_apply (hfmt : fmt.Reparses) (hcfg : cfg.WellFormed fmt)
    (hsource : cfg.HasSource) (h : e.apply fmt cfg = .ok cfg') :
    cfg'.WellFormed fmt ∧ (cfg'.HasSource ↔ e.KeepsSource cfg) := by
  cases e with
  | pair addr code name auth probe =>
      obtain ⟨backend, hb, h⟩ := bind_eq_ok h
      obtain rfl := Except.ok.inj h
      obtain ⟨hwf, hsource'⟩ := hcfg.upsertBackend (pairedBackend_wellFormed hfmt hb)
      exact ⟨hwf, iff_of_true hsource' trivial⟩
  | unpair name => exact hcfg.removeBackend h
  | device serial enabled =>
      obtain rfl := Except.ok.inj h
      refine ⟨⟨hcfg.listen, hcfg.port, hcfg.ports, hcfg.pollInterval, hcfg.backends⟩, ?_⟩
      exact iff_of_true hsource trivial
  | node name enabled =>
      have hset := mapError_eq_ok_iff.mp h
      obtain ⟨hwf, hsource'⟩ := hcfg.setBackendEnabled hset
      exact ⟨hwf, iff_of_true hsource' trivial⟩

namespace ConfigFile

/-- What was saved last can be loaded again, and loads to what was saved. -/
def SavedLoads (fmt : ConfigFormat) (path : String) (s : ConfigFile) : Prop :=
  ∀ cfg, s.saved = some cfg → ∃ text loaded, s.text = some text ∧
    HubConfig.loadFile fmt.net fmt.parseToml path (.ok text) = .ok loaded ∧ cfg.SavedAs loaded

/-- A command does not remove the last backend of a configuration without the local one. -/
def KeepsSource (fmt : ConfigFormat) (path : String) (s : ConfigFile) (e : HubEdit) : Prop :=
  ∀ cfg, loadOrEmpty fmt path s.text = .ok cfg → e.KeepsSource cfg

/-- A command starts from a well-formed configuration. -/
theorem wellFormed_of_loadOrEmpty (hfmt : fmt.Reparses) (h : loadOrEmpty fmt path text = .ok cfg) :
    cfg.WellFormed fmt ∧ cfg.HasSource := by
  unfold loadOrEmpty at h
  rcases text with _ | text
  · obtain rfl := Except.ok.inj h
    exact ⟨HubConfig.localOnly_wellFormed hfmt, .inl rfl⟩
  · exact HubConfig.wellFormed_of_loadFile hfmt h

/-- **One command** leaves a file that loads to what was saved exactly if it keeps a source. -/
theorem savedLoads_step_iff (hfmt : fmt.Reparses) (h : s.step fmt path e = some t) :
    t.SavedLoads fmt path ↔ s.KeepsSource fmt path e := by
  unfold step at h
  rcases hload : loadOrEmpty fmt path s.text with err | cfg
  · simp [hload] at h
  · rcases happly : e.apply fmt cfg with err | cfg'
    · simp [hload, happly] at h
    · rcases htext : cfg'.toTomlString fmt with err | text
      · simp [hload, happly, htext] at h
      · simp only [hload, happly, htext] at h
        obtain rfl := Option.some.inj h
        obtain ⟨hcfg, hsource⟩ := wellFormed_of_loadOrEmpty hfmt hload
        obtain ⟨hcfg', hiff⟩ := wellFormed_of_apply hfmt hcfg hsource happly
        have hloads := HubConfig.loadFile_saved_iff hfmt hcfg' htext path
        unfold SavedLoads KeepsSource
        rw [hload]
        constructor
        · intro hsaved c hc
          obtain rfl := Except.ok.inj hc
          obtain ⟨text', loaded, htext', hloaded⟩ := hsaved cfg' rfl
          obtain rfl := Option.some.inj htext'
          exact hiff.mp (hloads.mp ⟨loaded, hloaded⟩)
        · intro hkeeps c hc
          obtain rfl := Option.some.inj hc
          obtain ⟨loaded, hloaded⟩ := hloads.mpr (hiff.mpr (hkeeps cfg rfl))
          exact ⟨text, loaded, rfl, hloaded⟩

end ConfigFile

/-- The commands' saved files load, for any text forms that reparse. -/
theorem always_savedLoads_iff (hfmt : fmt.Reparses) {edits : List HubEdit}
    (h : (ConfigFile.machine fmt path text).Reaches edits s) :
    (ConfigFile.machine fmt path text).Always (ConfigFile.SavedLoads fmt path) edits ↔
      (ConfigFile.machine fmt path text).Run (ConfigFile.KeepsSource fmt path) edits s := by
  refine Machine.always_iff_run (I := fun _ => True) (H := fun _ => True) (fun _ _ _ => trivial)
    ?_ ?_ h fun _ _ _ _ => trivial
  · intro cfg hcfg
    simp [ConfigFile.machine] at hcfg
  · intro s e t _ _ _ _ hs
    exact ConfigFile.savedLoads_step_iff hfmt hs

/-- **Saved files load, exactly.** If the `toml` crate parses what it prints: for every file, or
none, and every sequence of successful commands, after each of them the file loads to what was
saved iff none of them removes the last backend of a configuration without the local one.
Source: `config.rs`, `roundtrip_toml_with_pair_code`; `bin/adb-hub.rs` -/
theorem saved_files_load_iff {parseToml : String → Except String TomlFile}
    {printToml : TomlFile → Except String String}
    (htoml : ∀ file text, printToml file = .ok text → parseToml text = .ok file)
    {edits : List HubEdit}
    (h : (ConfigFile.machine (.std parseToml printToml) path text).Reaches edits s) :
    (ConfigFile.machine (.std parseToml printToml) path text).Always
        (ConfigFile.SavedLoads (.std parseToml printToml) path) edits ↔
      (ConfigFile.machine (.std parseToml printToml) path text).Run
        (ConfigFile.KeepsSource (.std parseToml printToml) path) edits s :=
  always_savedLoads_iff (ConfigFormat.std_reparses (htoml _ _)) h

end commands

/-! ## Example: a paired node -/

/-- A file with one node and not the local devices, as it may be written by hand. -/
def remoteText : String :=
  "include_local = false\n\n[[backend]]\nname = \"office\"\naddr = \"127.0.0.1:5041\"\n" ++
    "pair_code = \"AAAA1111\"\n"

/-- What the file says. -/
def remoteFile : TomlFile where
  includeLocal := false
  backend := [⟨some "office", "127.0.0.1:5041", some "AAAA1111", true⟩]

/-- What is saved after the node is unpaired. -/
def unpairedText : String :=
  "listen = \"127.0.0.1:5037\"\npoll_interval_ms = 1000\nadb_version = 41\n" ++
    "include_local = false\nlocal_adb_port = 5039\nbackend = []\ndevice = []\n"

/-- What is saved when the node is paired without a file. -/
def pairedText : String :=
  "listen = \"127.0.0.1:5037\"\npoll_interval_ms = 1000\nadb_version = 41\n" ++
    "include_local = true\nlocal_adb_port = 5039\ndevice = []\n\n[[backend]]\n" ++
    "name = \"office\"\naddr = \"127.0.0.1:5041\"\npair_code = \"AAAA1111\"\n"

/-- What that says. -/
def pairedFile : TomlFile where
  backend := [⟨some "office", "127.0.0.1:5041", some "AAAA1111", true⟩]

/-- Parsing these texts. -/
def parseRemote (text : String) : Except String TomlFile :=
  if text = remoteText then .ok remoteFile
  else if text = unpairedText then .ok { includeLocal := false }
  else if text = pairedText then .ok pairedFile
  else .error "TOML parse error"

/-- Printing what they say. -/
def printRemote (file : TomlFile) : Except String String :=
  if file = { includeLocal := false } then .ok unpairedText
  else if file = pairedFile then .ok pairedText
  else .error "unsupported"

theorem parseRemote_printRemote (file : TomlFile) (text : String)
    (h : printRemote file = .ok text) : parseRemote text = .ok file := by
  unfold printRemote at h
  split_ifs at h with hunpaired hpaired
  · obtain rfl := Except.ok.inj h
    rw [hunpaired]
    decide +kernel
  · obtain rfl := Except.ok.inj h
    rw [hpaired]
    decide +kernel

/-- The node accepts the pair code and is not too old. -/
def pairOffice : HubEdit :=
  .pair "127.0.0.1:5041" "AAAA1111" (some "office") { incoming := okayStatus }
    { incoming := okayStatus ++ okayStatus ++ packetBytes (utf8 "0.4.4") }

/-- Pairing without a file leaves one that loads. -/
theorem paired_file_loads :
    ∃ s, (ConfigFile.machine (.std parseRemote printRemote) "config.toml" none).Reaches
        [pairOffice] s ∧ s.text = some pairedText ∧
      (ConfigFile.machine (.std parseRemote printRemote) "config.toml" none).Always
        (ConfigFile.SavedLoads (.std parseRemote printRemote) "config.toml") [pairOffice] := by
  have hrun : (ConfigFile.step (.std parseRemote printRemote) "config.toml" ⟨none, none⟩
      pairOffice).map ConfigFile.text = some (some pairedText) := by decide +kernel
  obtain ⟨s, hs, htext⟩ := Option.map_eq_some_iff.mp hrun
  have hreach : (ConfigFile.machine (.std parseRemote printRemote) "config.toml" none).Reaches
      [pairOffice] s := .snoc .init trivial hs
  refine ⟨s, hreach, htext, (saved_files_load_iff parseRemote_printRemote hreach).mpr ?_⟩
  exact .snoc .init (fun _ _ => trivial) hs

/-- Unpairing the only node leaves a file that is rejected. -/
theorem unpaired_file_rejected :
    (∀ file text, printRemote file = .ok text → parseRemote text = .ok file) ∧
      ∃ s, (ConfigFile.machine (.std parseRemote printRemote) "config.toml"
          (some remoteText)).Reaches [.unpair "office"] s ∧ s.text = some unpairedText ∧
        (HubConfig.loadFile stdNet parseRemote "config.toml" (.ok unpairedText)).map (fun _ => ()) =
          .error (.invalid "at least one [[backend]] is required when include_local = false") ∧
        ¬ (ConfigFile.machine (.std parseRemote printRemote) "config.toml"
          (some remoteText)).Always (ConfigFile.SavedLoads (.std parseRemote printRemote)
            "config.toml") [.unpair "office"] := by
  have hrun : (ConfigFile.step (.std parseRemote printRemote) "config.toml"
      ⟨some remoteText, none⟩ (.unpair "office")).map (fun s => (s.text, s.saved.isSome)) =
        some (some unpairedText, true) := by decide +kernel
  have hrejected : (HubConfig.loadFile stdNet parseRemote "config.toml"
      (.ok unpairedText)).map (fun _ => ()) =
        .error (.invalid "at least one [[backend]] is required when include_local = false") := by
    decide +kernel
  obtain ⟨s, hs, hsaved⟩ := Option.map_eq_some_iff.mp hrun
  obtain ⟨htext, hsome⟩ := Prod.mk.inj hsaved
  obtain ⟨cfg, hcfg⟩ := Option.isSome_iff_exists.mp hsome
  refine ⟨parseRemote_printRemote, s, .snoc .init trivial hs, htext, hrejected, fun hall => ?_⟩
  have hloads : s.SavedLoads (.std parseRemote printRemote) "config.toml" :=
    hall.last (.snoc .init trivial hs)
  obtain ⟨text, loaded, htext', hloaded, -⟩ := hloads cfg hcfg
  obtain rfl := Option.some.inj (htext.symm.trans htext')
  have hload : HubConfig.loadFile stdNet parseRemote "config.toml" (.ok unpairedText) =
      .ok loaded := hloaded
  rw [hload] at hrejected
  exact absurd hrejected (by simp [Except.map])

end AdbHub
