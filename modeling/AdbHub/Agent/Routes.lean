import AdbHub.Agent.Snapshot
import AdbHub.HubConfig

/-!
# The routes of an agent

The table of routes that `refresh_and_publish` (`agent.rs`) makes for the devices it publishes. A
route token is the name of the backend and the upstream serial with a `:` between them; a later
device replaces the entry of an earlier one with the same token.

* `refreshLists` — the lists of a round: what the enabled backends of a configuration answered.
* `RoutesOwn` — every published device has its own entry, and devices of different backends or
  serials have different tokens.
* `Clash` — two backends of one name report the same serial, or a name and a serial meet at
  different colons.
* **`published_routes_own_iff`** — after a round the routes are the devices' own exactly when no
  two published devices clash.
-/

namespace AdbHub

open Lib

/-- The lists of a round: the answer of each enabled backend, and an empty list for one that is
not compatible or did not answer. Source: `agent.rs`, `refresh_and_publish`, `lists`. -/
def refreshLists (cfg : HubConfig) (compatibleNames : List String)
    (fetchDevicesL : ℕ → Except String String) : List (BackendConfig × String) :=
  cfg.enabledBackends.zipIdx.map fun (backend, i) =>
    (backend,
      if backend.name ∈ compatibleNames then (fetchDevicesL i).toOption.getD "" else "")

namespace DeviceEntry

/-- Where the streams of a device have to go. -/
def ownRoute (d : DeviceEntry) : RouteEntry := ⟨d.backendAddr, d.pairCode, d.upstreamSerial⟩

/-- The backend that reported a device. -/
def backend (d : DeviceEntry) : String × SocketAddr × Option String :=
  (d.backendName, d.backendAddr, d.pairCode)

end DeviceEntry

/-- The routes of the published devices are their own. -/
structure RoutesOwn (snap : DeviceSnapshot) : Prop where
  /-- The route of a device leads to the address of its backend, with the pair code of that backend
  and its own upstream serial. -/
  entry : ∀ d ∈ snap.devices, (refreshRoutes snap).lookup (routeIdOf d) = some d.ownRoute
  /-- Devices with the same token are the same device of the same backend. -/
  distinct : ∀ d ∈ snap.devices, ∀ e ∈ snap.devices, routeIdOf d = routeIdOf e →
    d.backend = e.backend ∧ d.upstreamSerial = e.upstreamSerial

/-- Two backends of one name, but of different addresses or pair codes, report the same serial. -/
def SameNameAndSerial (d e : DeviceEntry) : Prop :=
  d.backendName = e.backendName ∧ d.upstreamSerial = e.upstreamSerial ∧ d.backend ≠ e.backend

/-- The name of one backend goes on behind a colon where the serial of the other device begins. -/
def MeetAtColon (d e : DeviceEntry) : Prop :=
  ∃ t, d.backendName = e.backendName ++ ":" ++ t ∧ e.upstreamSerial = t ++ ":" ++ d.upstreamSerial

/-- Two devices that the tokens do not tell apart. -/
def Clash (d e : DeviceEntry) : Prop := SameNameAndSerial d e ∨ MeetAtColon d e

variable {snap : DeviceSnapshot} {d e : DeviceEntry}

/-- Equal tokens are made of equal parts, or of parts that meet at different colons. -/
theorem routeIdOf_eq_iff :
    routeIdOf d = routeIdOf e ↔
      (d.backendName = e.backendName ∧ d.upstreamSerial = e.upstreamSerial) ∨
        MeetAtColon d e ∨ MeetAtColon e d := by
  unfold routeIdOf MeetAtColon
  exact append_singleton_append_eq_iff (c := ':')

/-- The table has the route of the last device with a token. -/
theorem lookup_refreshRoutes {routeId : String} :
    (refreshRoutes snap).lookup routeId =
      (snap.devices.reverse.find? fun d => routeIdOf d = routeId).map DeviceEntry.ownRoute := by
  obtain ⟨devices⟩ := snap
  unfold refreshRoutes
  induction devices using List.reverseRecOn with
  | nil => rfl
  | append_singleton devices e ih =>
      rw [List.foldl_append, List.foldl_cons, List.foldl_nil, List.reverse_append,
        List.reverse_singleton, List.singleton_append]
      by_cases he : routeIdOf e = routeId
      · subst he
        simp [DeviceEntry.ownRoute]
      · rw [AList.lookup_insert_ne (Ne.symm he), ih]
        simp [he]

/-- **Own routes, exactly.** The routes of a snapshot are the devices' own iff no two of its
devices clash. -/
theorem routesOwn_iff :
    RoutesOwn snap ↔ ∀ d ∈ snap.devices, ∀ e ∈ snap.devices, ¬ Clash d e := by
  constructor
  · rintro ⟨-, hdistinct⟩ d hd e he (⟨hname, hserial, hne⟩ | hmeet)
    · have heq : routeIdOf d = routeIdOf e := by rw [routeIdOf, routeIdOf, hname, hserial]
      exact hne (hdistinct d hd e he heq).1
    · have hboth := hdistinct d hd e he (routeIdOf_eq_iff.mpr (.inr (.inl hmeet)))
      obtain ⟨t, hname, -⟩ := hmeet
      have hname' : d.backendName = e.backendName := congrArg Prod.fst hboth.1
      rw [hname'] at hname
      -- a name is not longer than itself
      have hlen := congrArg String.length hname
      simp only [String.length_append] at hlen
      have hcolon : (":" : String).length = 1 := rfl
      omega
  · intro h
    have hdistinct : ∀ d ∈ snap.devices, ∀ e ∈ snap.devices, routeIdOf d = routeIdOf e →
        d.backend = e.backend ∧ d.upstreamSerial = e.upstreamSerial := by
      intro d hd e he heq
      rcases routeIdOf_eq_iff.mp heq with ⟨hname, hserial⟩ | hmeet | hmeet
      · refine ⟨?_, hserial⟩
        by_contra hne
        exact h d hd e he (.inl ⟨hname, hserial, hne⟩)
      · exact absurd (.inr hmeet) (h d hd e he)
      · exact absurd (.inr hmeet) (h e he d hd)
    refine ⟨fun d hd => ?_, hdistinct⟩
    rw [lookup_refreshRoutes]
    rcases hf : snap.devices.reverse.find? fun e => routeIdOf e = routeIdOf d with _ | e
    · have hnone := List.find?_eq_none.mp hf d (List.mem_reverse.mpr hd)
      simp at hnone
    · have he := List.mem_reverse.mp (List.mem_of_find?_eq_some hf)
      have heq : routeIdOf e = routeIdOf d := by simpa using List.find?_some hf
      obtain ⟨hbackend, hserial⟩ := hdistinct e he d hd heq
      obtain ⟨-, hrest⟩ := Prod.mk.inj hbackend
      obtain ⟨haddr, hcode⟩ := Prod.mk.inj hrest
      rw [Option.map_some, DeviceEntry.ownRoute, DeviceEntry.ownRoute, haddr, hcode, hserial]

/-- **Published routes, exactly.** For every configuration, compatible backends, answers of the
backends and enable policy, after a round every published device has the route of its own backend
and serial, and devices of different backends or serials have different tokens, iff no two
published devices clash.
Source: `agent.rs`, `refresh_and_publish` -/
theorem published_routes_own_iff (cfg : HubConfig) (compatibleNames : List String)
    (fetchDevicesL : ℕ → Except String String) (policy : HubPolicySnapshot) :
    RoutesOwn (agentView policy (refreshLists cfg compatibleNames fetchDevicesL)) ↔
      ∀ d ∈ (agentView policy (refreshLists cfg compatibleNames fetchDevicesL)).devices,
        ∀ e ∈ (agentView policy (refreshLists cfg compatibleNames fetchDevicesL)).devices,
          ¬ Clash d e :=
  routesOwn_iff

/-- The published devices carry the name, address and pair code of an enabled backend of the
configuration. -/
theorem backend_mem_of_published {cfg : HubConfig} {compatibleNames : List String}
    {fetchDevicesL : ℕ → Except String String} {policy : HubPolicySnapshot}
    (hd : d ∈ (agentView policy (refreshLists cfg compatibleNames fetchDevicesL)).devices) :
    ∃ b ∈ cfg.enabledBackends, d.backend = (b.name, b.addr, b.pairCode) := by
  have hmerged := (List.mem_filter.mp hd).1
  obtain ⟨p, hp, hentry⟩ := exists_parsed_of_mem hmerged
  obtain ⟨body, hmem, -⟩ := exists_body_of_parsed hp
  obtain ⟨⟨b, i⟩, hb, heq⟩ := List.mem_map.mp hmem
  refine ⟨p.backend, ?_, ?_⟩
  · rw [← (Prod.mk.inj heq).1]
    exact (List.mem_zipIdx' hb).2 ▸ List.getElem_mem _
  · unfold IsEntryOf at hentry
    rw [hentry]
    rfl

/-! ## Two backends of one name -/

/-- A file with two backends named `lab`. -/
def labFile : TomlFile where
  backend := [⟨some "lab", "10.0.0.1:5038", some "AAAA1111", true⟩,
    ⟨some "lab", "10.0.0.2:5038", some "BBBB2222", true⟩]

/-- Text of the addresses in the file. -/
def labNet : NetText where
  parseAddr text :=
    if text = "127.0.0.1:5037" then .ok (.loopback 5037)
    else if text = "10.0.0.1:5038" then .ok (.v4 0x0a000001#32 5038)
    else if text = "10.0.0.2:5038" then .ok (.v4 0x0a000002#32 5038)
    else .error "invalid socket address syntax"
  defaultBackendName _ := ""

/-- The configuration the file is accepted as. -/
def labConfig : HubConfig where
  listen := .loopback 5037
  pollInterval := 1000
  backends := [⟨"lab", .v4 0x0a000001#32 5038, some "AAAA1111", true⟩,
    ⟨"lab", .v4 0x0a000002#32 5038, some "BBBB2222", true⟩]
  adbVersion := 41
  includeLocal := true
  localAdbPort := 5039
  devices := .fromEntries []
  configPath := some "config.toml"

/-- Both backends have an emulator. -/
def labLists : List (BackendConfig × String) :=
  refreshLists labConfig ["lab"] fun _ => .ok "emulator-5554\tdevice\n"

/-- The device of the first backend is published with a route to the second one, and that one's
pair code. -/
theorem route_of_other_backend :
    HubConfig.loadFile labNet (fun _ => .ok labFile) "config.toml" (.ok "") = .ok labConfig ∧
      (∃ d ∈ (agentView .empty labLists).devices,
        d.backendAddr = .v4 0x0a000001#32 5038 ∧
          (refreshRoutes (agentView .empty labLists)).lookup (routeIdOf d) =
            some ⟨.v4 0x0a000002#32 5038, some "BBBB2222", "emulator-5554"⟩) ∧
      ¬ RoutesOwn (agentView .empty labLists) := by
  have hload : HubConfig.loadFile labNet (fun _ => .ok labFile) "config.toml" (.ok "") =
      .ok labConfig := by rfl
  have hmem : ∃ d ∈ (agentView .empty labLists).devices,
      d.backendAddr = .v4 0x0a000001#32 5038 ∧
        (refreshRoutes (agentView .empty labLists)).lookup (routeIdOf d) =
          some ⟨.v4 0x0a000002#32 5038, some "BBBB2222", "emulator-5554"⟩ := by
    decide +kernel
  refine ⟨hload, hmem, fun hown => ?_⟩
  obtain ⟨d, hd, haddr, hroute⟩ := hmem
  have hentry := hown.entry d hd
  rw [hroute, DeviceEntry.ownRoute, haddr] at hentry
  simp at hentry

end AdbHub
