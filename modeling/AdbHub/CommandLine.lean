import AdbHub.Agent.Refresh
import AdbHub.DeviceLists
import AdbHub.LiveFlags
import AdbHub.Lib.LastSeen

/-!
# The configuration a hub starts with

What `adb-hub` makes of its command line and of the configuration files it finds
(`bin/adb-hub.rs`, `build_config` and `load_default_config`; `config.rs`, `from_legacy_adbproxy`).

* `HubConfig.fromLegacyAdbproxy` — a file of the old format, with one backend.
* `loadDefaultConfig` — the first of three files that there is.
* `buildConfig` — the backends of the command line, or those of a file, with the options on top; of
  every name the last backend.
* `buildConfig_fails_iff` — what ends the program before the hub starts. A file that is not named on
  the command line is not among it.
* **`started_hub`** — a hub that starts has no two backends of one name, so that its two first polls
  find the same devices, whatever the backends answer.
-/

namespace AdbHub

open Lib

/-! ## Files of the old format -/

namespace HubConfig

/-- The host and the port that were read so far, and one more line. Source: `config.rs`,
`from_legacy_adbproxy`, the body of the loop. -/
def legacyLine (acc : Option String × Option String) (line : String) :
    Option String × Option String :=
  let line := trim line
  if line = "" ∨ startsWith line "#" then acc
  else
    match splitOnce line '=' with
    | none => acc
    | some (key, value) =>
        if trim key = "host" then (some (trim value), acc.2)
        else if trim key = "port" then (acc.1, some (trim value))
        else acc

/-- Source: `config.rs`, `from_legacy_adbproxy`. -/
def fromLegacyAdbproxy (net : NetText) (text : String) : Except ConfigError HubConfig :=
  match (lines text).foldl legacyLine (none, none) with
  | (none, _) => .error (.invalid "legacy config missing host")
  | (some _, none) => .error (.invalid "legacy config missing port")
  | (some host, some port) => do
      let addr ← (net.parseAddr (host ++ ":" ++ port)).mapError fun e =>
        .invalid ("legacy host:port: " ++ e)
      -- all but the backends is as without a file
      return { localOnly with
        backends := [{ name := net.defaultBackendName addr, addr := addr, pairCode := none,
                       enabled := true }] }

end HubConfig

/-- Source: `config.rs`, `load_legacy_file`. -/
def Disk.loadLegacyFile (fmt : ConfigFormat) (disk : Disk) (path : String) :
    Except ConfigError HubConfig := do
  let text ← (((disk path).elim (.error "No such file or directory (os error 2)")
    DiskFile.contents).mapError ConfigError.io)
  HubConfig.fromLegacyAdbproxy fmt.net text

/-! ## The configuration -/

/-- Where configuration files are. Source: `config.rs`, `default_config_path`, `old_config_path` and
`legacy_config_path`. -/
structure ConfigPaths where
  config : String
  old : String
  legacy : String

/-- Source: `bin/adb-hub.rs`, `load_default_config`. -/
def loadDefaultConfig (fmt : ConfigFormat) (disk : Disk) (paths : ConfigPaths) :
    Except String HubConfig :=
  if (disk paths.config).isSome then (disk.loadFile fmt paths.config).mapError ConfigError.text
  else if (disk paths.old).isSome ∧ paths.old ≠ paths.config then
    (disk.loadFile fmt paths.old).mapError ConfigError.text
  else if (disk paths.legacy).isSome then
    (disk.loadLegacyFile fmt paths.legacy).mapError ConfigError.text
  else .error ("no config at " ++ paths.config)

/-- The options the configuration is made of. Source: `bin/adb-hub.rs`, `Args`. -/
structure Args where
  listen : Option SocketAddr := none
  config : Option String := none
  backends : List String := []
  pollIntervalMs : Option UInt64 := none
  noLocal : Bool := false
  localPort : Option UInt16 := none

/-- Read every `--backend`. Source: `bin/adb-hub.rs`, `build_config`, the loop over
`args.backends`. -/
def parseBackendArgs (net : NetText) : List String → Except ConfigError (List BackendConfig)
  | [] => .ok []
  | spec :: specs => do
      let backend ← parseBackendArg net spec
      let backends ← parseBackendArgs net specs
      .ok (backend :: backends)

/-- The options about the local server, over those of a file. Source: `bin/adb-hub.rs`,
`build_config`. -/
def Args.overLocal (args : Args) (c : HubConfig) : HubConfig :=
  { c with
    includeLocal := if args.noLocal then false else c.includeLocal
    localAdbPort := args.localPort.getD c.localAdbPort }

/-- The backends of the command line, else the named file, else the default one if it loads.
Source: `bin/adb-hub.rs`, `build_config`, up to `args.listen`. -/
def Args.baseConfig (fmt : ConfigFormat) (disk : Disk) (paths : ConfigPaths) (args : Args) :
    Except String HubConfig :=
  if args.backends ≠ [] then do
    let backends ← (parseBackendArgs fmt.net args.backends).mapError ConfigError.text
    return { HubConfig.localOnly with
      backends := backends
      includeLocal := !args.noLocal
      localAdbPort := args.localPort.getD 5039 }
  else
    match args.config with
    | some path => do
        let c ← (disk.loadFile fmt path).mapError ConfigError.text
        return args.overLocal c
    -- no config is fine, and a broken one is no config
    | none => .ok (args.overLocal ((loadDefaultConfig fmt disk paths).toOption.getD .localOnly))

/-- Source: `bin/adb-hub.rs`, `build_config`. -/
def buildConfig (fmt : ConfigFormat) (disk : Disk) (paths : ConfigPaths) (args : Args) :
    Except String HubConfig := do
  let config ← args.baseConfig fmt disk paths
  return { config with
    listen := args.listen.getD config.listen
    pollInterval := (args.pollIntervalMs.map (max · 100)).getD config.pollInterval
    backends := keepLast BackendConfig.name config.backends }

/-- The agent of a service with this configuration. Source: `service.rs`, `run_shared_service`,
`agent_cfg`. -/
def HubConfig.agentConfig (cfg : HubConfig) (paths : ConfigPaths) : AgentConfig where
  configPath := cfg.configPath.getD paths.config
  inlineBackends := some cfg

/-! ## Where the configuration comes from -/

variable {fmt : ConfigFormat} {disk : Disk} {paths : ConfigPaths} {args : Args} {cfg : HubConfig}

/-- What the configuration is made of, before the options are put on top. -/
inductive Args.Base (fmt : ConfigFormat) (disk : Disk) (paths : ConfigPaths) (args : Args) :
    HubConfig → Prop
  | specs {backends : List BackendConfig} (hspecs : args.backends ≠ [])
      (h : parseBackendArgs fmt.net args.backends = .ok backends) :
      Base fmt disk paths args { HubConfig.localOnly with
        backends := backends
        includeLocal := !args.noLocal
        localAdbPort := args.localPort.getD 5039 }
  | file {path : String} {c : HubConfig} (hspecs : args.backends = [])
      (h : disk.loadFile fmt path = .ok c) : Base fmt disk paths args (args.overLocal c)
  | legacy {path : String} {c : HubConfig} (hspecs : args.backends = [])
      (hnone : disk paths.config = none) (h : disk.loadLegacyFile fmt path = .ok c) :
      Base fmt disk paths args (args.overLocal c)
  | nothing (hspecs : args.backends = []) (h : ∀ c, disk.loadFile fmt paths.config ≠ .ok c) :
      Base fmt disk paths args (args.overLocal .localOnly)

theorem not_loadFile_of_none (fmt : ConfigFormat) {path : String} (h : disk path = none)
    (c : HubConfig) : disk.loadFile fmt path ≠ .ok c := by
  unfold Disk.loadFile HubConfig.loadFile
  rw [h]
  exact nofun

/-- The default configuration is that of the first file there is. -/
theorem base_of_loadDefaultConfig (hspecs : args.backends = []) :
    args.Base fmt disk paths
      (args.overLocal ((loadDefaultConfig fmt disk paths).toOption.getD .localOnly)) := by
  unfold loadDefaultConfig
  by_cases hconfig : (disk paths.config).isSome
  · rw [if_pos hconfig]
    rcases hload : disk.loadFile fmt paths.config with err | c
    · refine .nothing hspecs fun c => ?_
      rw [hload]
      exact nofun
    · exact .file hspecs hload
  rw [if_neg hconfig]
  have hnone : disk paths.config = none := Option.not_isSome_iff_eq_none.mp hconfig
  by_cases hold : (disk paths.old).isSome ∧ paths.old ≠ paths.config
  · rw [if_pos hold]
    rcases hload : disk.loadFile fmt paths.old with err | c
    · exact .nothing hspecs (not_loadFile_of_none fmt hnone)
    · exact .file hspecs hload
  rw [if_neg hold]
  by_cases hlegacy : (disk paths.legacy).isSome
  · rw [if_pos hlegacy]
    rcases hload : disk.loadLegacyFile fmt paths.legacy with err | c
    · exact .nothing hspecs (not_loadFile_of_none fmt hnone)
    · exact .legacy hspecs hnone hload
  · rw [if_neg hlegacy]
    exact .nothing hspecs (not_loadFile_of_none fmt hnone)

theorem base_of_baseConfig (h : args.baseConfig fmt disk paths = .ok cfg) :
    args.Base fmt disk paths cfg := by
  unfold Args.baseConfig at h
  by_cases hspecs : args.backends ≠ []
  · rw [if_pos hspecs] at h
    obtain ⟨backends, hbackends, hcfg⟩ := bind_eq_ok h
    rw [mapError_eq_ok_iff] at hbackends
    obtain rfl := Except.ok.inj hcfg
    exact .specs hspecs hbackends
  · rw [if_neg hspecs] at h
    rcases hpath : args.config with _ | path
    · rw [hpath] at h
      obtain rfl := Except.ok.inj h
      exact base_of_loadDefaultConfig (not_not.mp hspecs)
    · rw [hpath] at h
      obtain ⟨c, hload, hcfg⟩ := bind_eq_ok h
      rw [mapError_eq_ok_iff] at hload
      obtain rfl := Except.ok.inj hcfg
      exact .file (not_not.mp hspecs) hload

/-- What is put on top of it. -/
theorem buildConfig_ok (h : buildConfig fmt disk paths args = .ok cfg) :
    ∃ base, args.Base fmt disk paths base ∧ cfg = { base with
      listen := args.listen.getD base.listen
      pollInterval := (args.pollIntervalMs.map (max · 100)).getD base.pollInterval
      backends := keepLast BackendConfig.name base.backends } := by
  unfold buildConfig at h
  obtain ⟨base, hbase, hcfg⟩ := bind_eq_ok h
  exact ⟨base, base_of_baseConfig hbase, (Except.ok.inj hcfg).symm⟩

/-! ## What can go wrong -/

theorem parseBackendArgs_fails_iff {net : NetText} {specs : List String} :
    (∃ e, parseBackendArgs net specs = .error e) ↔
      ∃ spec ∈ specs, ∃ e, parseBackendArg net spec = .error e := by
  induction specs with
  | nil =>
      simp [parseBackendArgs]
  | cons spec specs ih =>
      have hcons : parseBackendArgs net (spec :: specs) = (do
          let backend ← parseBackendArg net spec
          let backends ← parseBackendArgs net specs
          .ok (backend :: backends)) := rfl
      rw [List.exists_mem_cons_iff, ← ih, hcons]
      rcases parseBackendArg net spec with e | backend
      · exact iff_of_true ⟨e, rfl⟩ (.inl ⟨e, rfl⟩)
      · rcases parseBackendArgs net specs with e | backends
        · exact iff_of_true ⟨e, rfl⟩ (.inr ⟨e, rfl⟩)
        · refine iff_of_false ?_ ?_
          · rintro ⟨e, ⟨⟩⟩
          · rintro (⟨e, ⟨⟩⟩ | ⟨e, ⟨⟩⟩)

/-- **What ends the program before the hub starts**: a `--backend` that cannot be read, or a file
named by `--config` that cannot be loaded. A default file that cannot be loaded does not. -/
theorem buildConfig_fails_iff :
    (∃ e, buildConfig fmt disk paths args = .error e) ↔
      (∃ spec ∈ args.backends, ∃ e, parseBackendArg fmt.net spec = .error e) ∨
        args.backends = [] ∧ ∃ path, args.config = some path ∧
          ∃ e, disk.loadFile fmt path = .error e := by
  rw [← parseBackendArgs_fails_iff]
  unfold buildConfig Args.baseConfig
  by_cases hspecs : args.backends = []
  · rw [if_neg (not_not.mpr hspecs), hspecs]
    rcases args.config with _ | path
    · refine iff_of_false ?_ ?_
      · rintro ⟨e, ⟨⟩⟩
      · rintro (⟨e, ⟨⟩⟩ | ⟨-, path, ⟨⟩, -⟩)
    · dsimp only
      rcases hload : disk.loadFile fmt path with e | c
      · exact iff_of_true ⟨_, rfl⟩ (.inr ⟨rfl, path, rfl, e, hload⟩)
      · refine iff_of_false ?_ ?_
        · rintro ⟨e, ⟨⟩⟩
        · rintro (⟨e, ⟨⟩⟩ | ⟨-, _, ⟨⟩, e, herror⟩)
          rw [hload] at herror
          cases herror
  · rw [if_pos hspecs]
    rcases parseBackendArgs fmt.net args.backends with e | backends
    · exact iff_of_true ⟨_, rfl⟩ (.inl ⟨e, rfl⟩)
    · refine iff_of_false ?_ ?_
      · rintro ⟨e, ⟨⟩⟩
      · rintro (⟨e, ⟨⟩⟩ | ⟨hnil, -⟩)
        exact hspecs hnil

/-! ## The hub that starts -/

/-- A configuration that a hub can be started with. -/
structure HubConfig.Startable (cfg : HubConfig) : Prop where
  names : (cfg.backends.map BackendConfig.name).Nodup
  pairCodes : ∀ b ∈ cfg.backends, ∀ code, b.pairCode = some code → validatePairCode code = .ok ()
  pollInterval : 100 ≤ cfg.pollInterval

/-- The ports of the hub and of its local adb server are two. -/
def HubConfig.PortsApart (cfg : HubConfig) : Prop :=
  cfg.localAdbPort ≠ 0 ∧ cfg.listen.port ≠ cfg.localAdbPort

theorem localOnly_portsApart : HubConfig.localOnly.PortsApart := by
  unfold HubConfig.PortsApart
  decide

/-- A backend of the command line has no pair code. -/
theorem parseBackendArg_pairCode {net : NetText} {spec : String} {backend : BackendConfig}
    (h : parseBackendArg net spec = .ok backend) : backend.pairCode = none := by
  unfold parseBackendArg at h
  split at h
  · obtain ⟨addr, -, h⟩ := bind_eq_ok h
    dsimp only at h
    split_ifs at h
    · cases h
    · obtain rfl := Except.ok.inj h
      rfl
  · obtain ⟨addr, -, h⟩ := bind_eq_ok h
    obtain rfl := Except.ok.inj h
    rfl

theorem parseBackendArgs_pairCode {net : NetText} {specs : List String}
    {backends : List BackendConfig} (h : parseBackendArgs net specs = .ok backends) :
    ∀ b ∈ backends, b.pairCode = none := by
  induction specs generalizing backends with
  | nil =>
      obtain rfl := Except.ok.inj h
      simp
  | cons spec specs ih =>
      obtain ⟨backend, hone, h⟩ := bind_eq_ok h
      obtain ⟨rest, hrest, h⟩ := bind_eq_ok h
      obtain rfl := Except.ok.inj h
      rintro b hb
      rcases List.mem_cons.mp hb with rfl | hb
      · exact parseBackendArg_pairCode hone
      · exact ih hrest b hb

/-- What a file of the old format gives. -/
theorem loadLegacyFile_ok {path : String} {c : HubConfig}
    (h : disk.loadLegacyFile fmt path = .ok c) :
    ∃ backend : BackendConfig, backend.pairCode = none ∧
      c = { HubConfig.localOnly with backends := [backend] } := by
  unfold Disk.loadLegacyFile HubConfig.fromLegacyAdbproxy at h
  obtain ⟨text, -, h⟩ := bind_eq_ok h
  split at h
  · cases h
  · cases h
  · obtain ⟨addr, -, h⟩ := bind_eq_ok h
    exact ⟨_, rfl, (Except.ok.inj h).symm⟩

/-- The pair codes and the interval of what the options are put on. -/
theorem Args.Base.sound {base : HubConfig} (h : args.Base fmt disk paths base) :
    (∀ b ∈ base.backends, ∀ code, b.pairCode = some code → validatePairCode code = .ok ()) ∧
      100 ≤ base.pollInterval ∧ (args.localPort = none → base.PortsApart) := by
  have hthousand : (100 : UInt64) ≤ 1000 := by decide
  rcases h with ⟨hspecs, h⟩ | ⟨hspecs, h⟩ | ⟨hspecs, hnone, h⟩ | ⟨hspecs, h⟩
  · refine ⟨fun b hb code hcode => ?_, hthousand, fun hport => ?_⟩
    · rw [parseBackendArgs_pairCode h b hb] at hcode
      cases hcode
    · rw [hport]
      exact localOnly_portsApart
  · obtain ⟨text, parsed, loaded, -, -, hfile, rfl⟩ := HubConfig.loadFile_eq_ok h
    obtain ⟨-, hzero, hclash, hpoll, -⟩ := HubConfig.fromTomlFile_ok hfile
    have hbackends := HubConfig.backends_fromTomlFile hfile
    refine ⟨fun b hb code hcode => ?_, hpoll, fun hport => ?_⟩
    · obtain ⟨i, hi, rfl⟩ := List.getElem_of_mem hb
      have hi' : i < parsed.backend.length := hbackends.length_eq ▸ hi
      have hentry := hbackends.get hi' hi
      refine hentry.valid code ?_
      rw [← hentry.pairCode]
      exact hcode
    · unfold HubConfig.PortsApart Args.overLocal
      rw [hport]
      exact ⟨hzero, hclash⟩
  · obtain ⟨backend, hcode, rfl⟩ := loadLegacyFile_ok h
    refine ⟨fun b hb code hsome => ?_, hthousand, fun hport => ?_⟩
    · obtain rfl := List.mem_singleton.mp hb
      rw [hcode] at hsome
      cases hsome
    · unfold HubConfig.PortsApart Args.overLocal
      rw [hport]
      exact localOnly_portsApart
  · refine ⟨fun b hb => ?_, hthousand, fun hport => ?_⟩
    · cases hb
    · unfold HubConfig.PortsApart Args.overLocal
      rw [hport]
      exact localOnly_portsApart

/-- The hub polls no two backends of one name. -/
theorem nodup_polledBackends {backends : List BackendConfig}
    (hnames : (cfg.backends.map BackendConfig.name).Nodup)
    (h : cfg.polledBackends = .ok backends) : (backends.map BackendConfig.name).Nodup := by
  unfold HubConfig.polledBackends at h
  dsimp only at h
  split_ifs at h with hlocal
  all_goals
    obtain rfl := Except.ok.inj h
    refine List.Nodup.sublist (List.filter_sublist.map _) ?_
  · rw [List.map_cons, List.nodup_cons]
    constructor
    · intro hmem
      obtain ⟨b, hb, hname⟩ := List.mem_map.mp hmem
      have hne := (List.mem_filter.mp hb).2
      simp [hname] at hne
    · exact hnames.sublist (List.filter_sublist.map _)
  · exact hnames

/-- **The hub that starts.** Whatever the command line and the files: the backends have different
names and valid pair codes, and they are polled in a reasonable interval; the ports are apart unless
the command line has set one; and what the hub shows its first clients is what its poller finds
first. Source: `bin/adb-hub.rs`, `build_config`; `hub.rs`, `run_hub_with_shutdown` -/
theorem started_hub (h : buildConfig fmt disk paths args = .ok cfg) :
    cfg.Startable ∧ (args.listen = none → args.localPort = none → cfg.PortsApart) ∧
      ∀ backends, cfg.polledBackends = .ok backends → ∀ probe list registry registry',
        (pollBackendsOnce backends probe list registry).inner =
          (seedPoller backends probe list registry').inner := by
  obtain ⟨base, hbase, rfl⟩ := buildConfig_ok h
  obtain ⟨hcodes, hpoll, hports⟩ := hbase.sound
  have hnames := nodup_keepLast BackendConfig.name base.backends
  refine ⟨⟨hnames, fun b hb => ?_, ?_⟩, fun hlisten hport => ?_, fun backends hpolled => ?_⟩
  · exact hcodes b ((keepLast_sublist _ _).subset hb)
  · rcases args.pollIntervalMs with _ | ms
    · exact hpoll
    · exact HubConfig.hundred_le_max ms
  · rw [hlisten]
    exact hports hport
  · intro probe list registry registry'
    rw [same_snapshot_iff]
    exact sameReports_of_nodup (nodup_polledBackends hnames hpolled)

/-! ## The agent of a service -/

/-- No enabled backend has a later one of its name. -/
def HubConfig.Unshadowed (cfg : HubConfig) : Prop :=
  ∀ pre b post, cfg.backends = pre ++ b :: post → b.enabled = true →
    b.name ∉ post.map BackendConfig.name

/-- What an agent works with first. -/
theorem roundConfig_agentConfig (fmt : ConfigFormat) (disk : Disk) (paths : ConfigPaths)
    (cfg : HubConfig) :
    ∃ r, roundConfig fmt (cfg.agentConfig paths) disk = .ok r ∧ r.backends =
      ((disk.loadFile fmt (cfg.configPath.getD paths.config)).toOption.getD cfg).enabledBackends := by
  unfold roundConfig HubConfig.agentConfig
  dsimp only
  split_ifs with hfile
  · exact ⟨_, rfl, rfl⟩
  · have hnone := Option.not_isSome_iff_eq_none.mp hfile
    rcases hload : disk.loadFile fmt (cfg.configPath.getD paths.config) with e | c
    · exact ⟨_, rfl, rfl⟩
    · exact absurd hload (not_loadFile_of_none fmt hnone c)

/-- **The agent takes the file.** On Linux the backends of the configuration are left to the agent
of the service, which works with those of the configuration file, or of the default file where there
is none, if that loads. They are the backends of the configuration iff that was made of the file and
no enabled backend in it has a later one of its name, or it was made of the command line and the
default file, if it loads, has the same backends.
Source: `service.rs`, `run_shared_service`; `agent.rs`, `refresh_and_publish` -/
theorem agent_backends_iff (h : buildConfig fmt disk paths args = .ok cfg) :
    ∃ r, roundConfig fmt (cfg.agentConfig paths) disk = .ok r ∧
      (∀ c, disk.loadFile fmt (cfg.configPath.getD paths.config) = .ok c →
        r.backends = c.enabledBackends) ∧
      (r.backends = cfg.enabledBackends ↔
        if args.backends = [] then
          ∀ path c, cfg.configPath = some path → disk.loadFile fmt path = .ok c → c.Unshadowed
        else ∀ c, disk.loadFile fmt paths.config = .ok c →
          c.enabledBackends = cfg.enabledBackends) := by
  obtain ⟨r, hround, hbackends⟩ := roundConfig_agentConfig fmt disk paths cfg
  refine ⟨r, hround, fun c hload => ?_, ?_⟩
  · rw [hbackends, hload]
    rfl
  rw [hbackends]
  obtain ⟨base, hbase, hcfg⟩ := buildConfig_ok h
  have hpath : cfg.configPath = base.configPath := by rw [hcfg]
  have hkept : cfg.enabledBackends =
      (keepLast BackendConfig.name base.backends).filter (·.enabled) := by
    rw [hcfg]
    rfl
  -- where no file is loaded, the agent works with the configuration
  have hinline : cfg.configPath = none → (∀ c, disk.loadFile fmt paths.config ≠ .ok c) →
      ((disk.loadFile fmt (cfg.configPath.getD paths.config)).toOption.getD cfg).enabledBackends =
        cfg.enabledBackends := by
    intro hnone hfail
    rw [hnone, Option.getD_none]
    rcases hload : disk.loadFile fmt paths.config with e | c
    · rfl
    · exact absurd hload (hfail c)
  rcases hbase with ⟨hspecs, -⟩ | @⟨path, c, hspecs, hload⟩ | @⟨path, c, hspecs, hnone, hload⟩ |
    ⟨hspecs, hfail⟩
  · rw [if_neg hspecs, hpath]
    show ((disk.loadFile fmt paths.config).toOption.getD cfg).enabledBackends = _ ↔ _
    rcases disk.loadFile fmt paths.config with e | c
    · exact iff_of_true rfl nofun
    · refine ⟨fun hsame c' hc' => ?_, fun hall => hall c rfl⟩
      obtain rfl := Except.ok.inj hc'
      exact hsame
  · have hfile : cfg.configPath = some path := by
      obtain ⟨text, parsed, loaded, -, -, -, rfl⟩ := HubConfig.loadFile_eq_ok hload
      exact hpath
    rw [if_pos hspecs, hfile, Option.getD_some, hload, hkept]
    show c.backends.filter (·.enabled) = (keepLast BackendConfig.name c.backends).filter _ ↔ _
    rw [eq_comm, filter_keepLast_eq_iff]
    refine ⟨fun hall path' c' hpath' hload' => ?_, fun hall => hall path c rfl hload⟩
    obtain rfl := Option.some.inj hpath'
    rw [hload] at hload'
    obtain rfl := Except.ok.inj hload'
    exact hall
  · obtain ⟨backend, -, rfl⟩ := loadLegacyFile_ok hload
    rw [if_pos hspecs]
    refine iff_of_true (hinline hpath (not_loadFile_of_none fmt hnone)) ?_
    rw [hpath]
    exact nofun
  · rw [if_pos hspecs]
    refine iff_of_true (hinline hpath hfail) ?_
    rw [hpath]
    exact nofun

/-- `adb-hub --backend shop=10.0.0.8:5038`, where the default file names no backends. -/
def shopArgs : Args := { backends := ["shop=10.0.0.8:5038"] }

/-- Every file is one with nothing in it. -/
def emptyFormat : ConfigFormat := .std (fun _ => .ok {}) fun _ => .ok ""

def shopPaths : ConfigPaths := ⟨"config.toml", "config.toml", ".adbproxy"⟩

def shopDisk : Disk := fun path => if path = "config.toml" then some ⟨some 1, .ok ""⟩ else none

/-- What the hub starts with. -/
def shopConfig : HubConfig :=
  { HubConfig.localOnly with backends := [⟨"shop", .v4 0x0a000008 5038, none, true⟩] }

theorem buildConfig_shop : buildConfig emptyFormat shopDisk shopPaths shopArgs = .ok shopConfig := by
  have hshop : parseBackendArg stdNet ("shop" ++ "=" ++ "10.0.0.8:5038") =
      .ok ⟨"shop", .v4 0x0a000008 5038, none, true⟩ :=
    parseBackendArg_name (by decide) (by decide) (by decide +kernel)
  have hparsed : parseBackendArgs stdNet ["shop=10.0.0.8:5038"] =
      .ok [⟨"shop", .v4 0x0a000008 5038, none, true⟩] := by
    show (parseBackendArg stdNet ("shop" ++ "=" ++ "10.0.0.8:5038") >>= _) = _
    rw [hshop]
    rfl
  have hkept : keepLast BackendConfig.name shopConfig.backends = shopConfig.backends := by decide
  have hbase : shopArgs.baseConfig emptyFormat shopDisk shopPaths = .ok shopConfig := by
    unfold Args.baseConfig
    show ((parseBackendArgs stdNet ["shop=10.0.0.8:5038"]).mapError _ >>= _) = _
    rw [hparsed]
    rfl
  unfold buildConfig
  simp only [hbase, bind, Except.bind, hkept]
  rfl

theorem shop_started : shopConfig.Startable ∧ shopConfig.PortsApart ∧
    (pollBackendsOnce (shopConfig.localBackend :: shopConfig.backends) (fun _ => {}) (fun _ => {})
        {}).inner =
      (seedPoller (shopConfig.localBackend :: shopConfig.backends) (fun _ => {}) (fun _ => {})
        {}).inner := by
  obtain ⟨hstart, hports, hpolls⟩ := started_hub buildConfig_shop
  have hpolled : shopConfig.polledBackends = .ok (shopConfig.localBackend :: shopConfig.backends) := by
    decide
  exact ⟨hstart, hports rfl rfl, hpolls _ hpolled _ _ _ _⟩

/-- The agent works without the shop. -/
theorem shop_ignored : shopConfig.enabledBackends ≠ [] ∧ ∃ r,
    roundConfig emptyFormat (shopConfig.agentConfig shopPaths) shopDisk = .ok r ∧
      r.backends = [] ∧ r.backends ≠ shopConfig.enabledBackends := by
  obtain ⟨r, hround, hfile, hiff⟩ := agent_backends_iff buildConfig_shop
  have hspecs : shopArgs.backends ≠ [] := by decide
  rw [if_neg hspecs] at hiff
  have hempty : HubConfig.fromTomlFile stdNet {} = .ok .localOnly := by
    unfold HubConfig.fromTomlFile
    show ((SocketAddr.parse "127.0.0.1:5037").mapError _ >>= _) = _
    rw [parse_defaultListen]
    rfl
  have hload : shopDisk.loadFile emptyFormat shopPaths.config =
      .ok { HubConfig.localOnly with configPath := some "config.toml" } := by
    have hdisk : shopDisk shopPaths.config = some ⟨some 1, .ok ""⟩ := if_pos rfl
    unfold Disk.loadFile
    rw [hdisk]
    simp only [HubConfig.loadFile, emptyFormat, ConfigFormat.std, Option.elim_some, Except.mapError,
      bind, Except.bind, hempty]
    rfl
  have hshop : shopConfig.enabledBackends ≠ [] := by decide
  refine ⟨hshop, r, hround, hfile _ hload, fun hsame => ?_⟩
  exact hshop (hiff.mp hsame _ hload).symm

end AdbHub
