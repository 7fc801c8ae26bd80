import AdbHub.Agent.Control
import AdbHub.Agent.Routes
import AdbHub.BackendQuery
import AdbHub.ReloadablePolicy

/-!
# The rounds of an agent

What `refresh_and_publish` (`agent.rs`) does before it publishes: it reads the configuration, asks
the backends for their versions, and those that are new enough for their devices.

* `backendsFingerprint` and `CompatCache` — the versions are asked for once for each list of
  backends.
* `refreshRound` — one round: the cache it leaves, the policy and the lists of the backends.
* `AgentRun` — an agent whose snapshots come from rounds, and whose streams are opened on
  connections to the backends.
-/

namespace AdbHub

open Lib Protocol

/-- The configuration of an agent. Source: `agent.rs`, `AgentConfig`. -/
structure AgentConfig where
  configPath : String
  /-- Used where there is no file. -/
  inlineBackends : Option HubConfig := none

/-! ## Rounds -/

/-- Source: `agent.rs`, `backends_fingerprint`. -/
def backendsFingerprint (fmt : ConfigFormat) (backends : List BackendConfig) : String :=
  join "|" (backends.map fun b =>
    b.name ++ "@" ++ fmt.showAddr b.addr ++ "#" ++ b.pairCode.getD "")

/-- The backends whose version was accepted, for the list of backends they were asked for. Source:
`agent.rs`, `CompatCache`. -/
structure CompatCache where
  fingerprint : String := ""
  names : List String := []

/-- What the backends answer in a round: backend number `i` is asked for its version with
`probe i`, and for its devices with `list i`. -/
structure RoundReplies where
  probe : ℕ → Dial
  list : ℕ → Dial

/-- Ask for the versions if the backends have changed. Source: `agent.rs`,
`refresh_and_publish`, `compatible_names`. -/
def CompatCache.check (fmt : ConfigFormat) (cache : CompatCache) (enabled : List BackendConfig)
    (probe : ℕ → Dial) : CompatCache :=
  if cache.fingerprint ≠ backendsFingerprint fmt enabled then
    ⟨backendsFingerprint fmt enabled,
      (filterCompatibleBackends enabled probe).map BackendConfig.name⟩
  else cache

/-- The configuration a round works with: the file where there is one, and only the enabled
backends. Source: `agent.rs`, `refresh_and_publish`, `hub_cfg`. -/
def roundConfig (fmt : ConfigFormat) (config : AgentConfig) (disk : Disk) :
    Except ConfigError HubConfig := do
  let hubCfg ←
    match config.inlineBackends with
    | some inline =>
        if (disk config.configPath).isSome then
          .ok ((disk.loadFile fmt config.configPath).toOption.getD inline)
        else .ok inline
    | none =>
        if (disk config.configPath).isSome then disk.loadFile fmt config.configPath
        else .ok .localOnly
  .ok { hubCfg with includeLocal := false, backends := hubCfg.backends.filter (·.enabled) }

/-- What backend number `i` answers for its devices. -/
def RoundReplies.devices (replies : RoundReplies) (enabled : List BackendConfig) (i : ℕ) :
    Except String String :=
  fetchDevicesL (replies.list i) ((enabled[i]?).bind BackendConfig.pairCode)

/-- What a round publishes from, and the cache it leaves. -/
structure RoundResult where
  cache : CompatCache
  policy : HubPolicySnapshot
  lists : List (BackendConfig × String)

/-- One round on a loaded configuration. Source: `agent.rs`, `refresh_and_publish`, from `policy`
to `snap`. -/
def askBackends (fmt : ConfigFormat) (disk : Disk) (hubCfg : HubConfig) (cache : CompatCache)
    (replies : RoundReplies) : RoundResult :=
  let policy := ReloadableHubPolicy.fromConfig fmt disk hubCfg
  let cache := cache.check fmt hubCfg.enabledBackends replies.probe
  { cache := cache
    policy := (policy.refresh fmt disk).2
    lists := refreshLists hubCfg cache.names (replies.devices hubCfg.enabledBackends) }

/-- One round. Source: `agent.rs`, `refresh_and_publish`. -/
def refreshRound (fmt : ConfigFormat) (config : AgentConfig) (disk : Disk) (cache : CompatCache)
    (replies : RoundReplies) : Except ConfigError RoundResult := do
  let hubCfg ← roundConfig fmt config disk
  .ok (askBackends fmt disk hubCfg cache replies)

/-! ## Agents with their backends -/

/-- What the main loop does with the upstream of a stream; nothing while the connect is pending.
Source: `agent.rs`, `open_private_stream`. -/
def openUpstream (req : OpenPrivateStream) (route : RouteEntry) (dial : Dial) :
    Option AgentTaskEvent :=
  match dial.connect with
  | none => none
  | some (.error err) => some (.connectFails err)
  | some (.ok ()) =>
      match route.pairCode.elim (.ok dial.upstream) (authenticateStream dial.upstream) with
      | .error err => some (.authFails err)
      | .ok u =>
          match u.request req.service with
          | .error _ => some .serviceFails
          | .ok _ => some .upstreamReady

/-- What a round or a connection decides. -/
def AgentTaskEvent.decided : AgentTaskEvent → Bool
  | .publish _ _ | .publishFails | .poll _ _ | .pollFails => true
  | .connectFails _ | .authFails _ | .serviceFails | .upstreamReady => true
  | _ => false

/-- An agent with its cache. -/
structure AgentRun where
  agent : AgentState
  cache : CompatCache := {}

/-- What happens next. -/
inductive AgentInput
  /-- The round of the initial snapshot. -/
  | publish (replies : RoundReplies)
  /-- A round of the poller. -/
  | poll (replies : RoundReplies)
  /-- The backend of a stream is contacted. -/
  | contact (dial : Dial)
  /-- Everything else. -/
  | task (e : AgentTaskEvent)

namespace AgentRun

/-- One step of an agent whose configuration does not change. Source: `agent.rs`,
`run_agent_with_shutdown`. -/
def step (json : SerdeJson) (fmt : ConfigFormat) (config : AgentConfig) (disk : Disk)
    (s : AgentRun) : AgentInput → Option AgentRun
  | .publish replies =>
      match refreshRound fmt config disk s.cache replies with
      | .error _ => (s.agent.step json .publishFails).map fun agent => { s with agent := agent }
      | .ok r => (s.agent.step json (.publish r.policy r.lists)).map fun agent => ⟨agent, r.cache⟩
  | .poll replies =>
      match refreshRound fmt config disk s.cache replies with
      | .error _ => (s.agent.step json .pollFails).map fun agent => { s with agent := agent }
      | .ok r => (s.agent.step json (.poll r.policy r.lists)).map fun agent => ⟨agent, r.cache⟩
  | .contact dial =>
      match s.agent.main with
      | .opening req route =>
          (openUpstream req route dial).bind fun e =>
            (s.agent.step json e).map fun agent => { s with agent := agent }
      | _ => none
  | .task e =>
      if e.decided then none
      else (s.agent.step json e).map fun agent => { s with agent := agent }

/-- An agent with the token it has drawn. -/
def machine (json : SerdeJson) (fmt : ConfigFormat) (config : AgentConfig) (disk : Disk)
    (token : String) : Machine AgentRun AgentInput where
  init := { agent := (AgentState.machine json token).init }
  step := step json fmt config disk

end AgentRun

/-! ## One backend with a pair code -/

/-- A file with one backend, with the given pair code. -/
def officeText (code : String) : String :=
  "[[backend]]\nname = \"office\"\naddr = \"127.0.0.1:5041\"\npair_code = \"" ++ code ++ "\"\n"

/-- What the file says. -/
def officeFile (code : String) : TomlFile where
  backend := [⟨some "office", "127.0.0.1:5041", some code, true⟩]

/-- The text forms of two such files and of the addresses in them. -/
def officeFormat : ConfigFormat where
  net :=
    { parseAddr := fun text =>
        if text = "127.0.0.1:5037" then .ok (.loopback 5037)
        else if text = "127.0.0.1:5041" then .ok (.loopback 5041)
        else .error "invalid socket address syntax"
      defaultBackendName := fun _ => "127.0.0.1_5041" }
  showAddr addr := if addr = .loopback 5041 then "127.0.0.1:5041" else "127.0.0.1:5037"
  parseToml text :=
    if text = officeText "AAAA1111" then .ok (officeFile "AAAA1111")
    else if text = officeText "BBBB2222" then .ok (officeFile "BBBB2222")
    else .error "TOML parse error"
  printToml file :=
    if file = officeFile "AAAA1111" then .ok (officeText "AAAA1111")
    else if file = officeFile "BBBB2222" then .ok (officeText "BBBB2222")
    else .error "unsupported"

/-- The file is there. -/
def officeDisk (code : String) : Disk := fun path =>
  if path = "config.toml" then some ⟨none, .ok (officeText code)⟩ else none

/-- The configuration it is loaded as. -/
def officeConfig (code : String) : HubConfig where
  listen := .loopback 5037
  pollInterval := 1000
  backends := [⟨"office", .loopback 5041, some code, true⟩]
  adbVersion := 41
  includeLocal := true
  localAdbPort := 5039
  devices := .fromEntries []
  configPath := some "config.toml"

/-- The backend accepts the pair code, and reports its version and one device. -/
def officeReplies : RoundReplies where
  probe _ := { incoming := okayStatus ++ okayStatus ++ packetBytes (utf8 "0.4.4") }
  list _ := { incoming := okayStatus ++ okayStatus ++ packetBytes (utf8 "ABC\tdevice\n") }

end AdbHub
