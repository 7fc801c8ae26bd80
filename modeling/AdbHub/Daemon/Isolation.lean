import AdbHub.Daemon.Routing
import AdbHub.Lib.Noninterference

/-!
# Isolation of the users

The registry under updates of any content, in any order, and what its contents mean for the
requests of a user (`tenant.rs`, `daemon.rs`).

* `registryMachine` — replacing the shared list, replacing the private list of a user, and removing
  it.
* `RegistryEvent.FromDaemon` — the updates that the daemon makes: polls of the local backend, and
  reports of agents.
* **`tenants_noninterference`** — what a user sees, and what the daemon does for each of the user's
  services, is the same in any two runs that differ in the events of other users only.
* **`routes_confined`** — no entry has a pair code, connections go to the local backend only, and
  streams only to routes of the user's own list.
-/

namespace AdbHub

open Lib

/-! ## The registry under any updates -/

/-- An update of the registry. -/
inductive RegistryEvent
  | updateShared (snap : DeviceSnapshot)
  | updateAgentDevices (uid : Uid) (devices : DeviceSnapshot)
  | removeAgent (uid : Uid)

/-- The registry under updates in any order. -/
def registryMachine : Machine TenantRegistry RegistryEvent where
  init := {}
  step r
    | .updateShared snap => some (r.updateShared snap)
    | .updateAgentDevices uid devices => some (r.updateAgentDevices uid devices)
    | .removeAgent uid => some (r.removeAgent uid)

namespace RegistryEvent

/-- The event changes what `v` sees: it is about the shared devices or about `v`. -/
def concerns (v : Uid) : RegistryEvent → Bool
  | updateShared _ => true
  | updateAgentDevices uid _ => uid = v
  | removeAgent uid => uid = v

/-- The backend of the shared devices. Source: `daemon.rs`, `run_daemon_with_shutdown`,
`local_backend`. -/
def localBackendAt (addr : SocketAddr) : BackendConfig := ⟨localBackendName, addr, none, true⟩

/-- The daemon makes the update: a poll of the local backend, if there is one, with any body; a
device list that an agent sent, of any content; or a removal.
Source: `daemon.rs`, `poll_shared_once` and `agent_read_loop` -/
def FromDaemon (localAddr : Option SocketAddr) : RegistryEvent → Prop
  | updateShared snap => ∃ addr body, localAddr = some addr ∧
      snap = mergeDeviceLists [(localBackendAt addr, body)]
  | updateAgentDevices _ devices => ∃ sent, devices = sanitizedToSnapshot sent
  | removeAgent _ => True

end RegistryEvent

open RegistryEvent

/-! ## Noninterference -/

/-- What `v` sees of the registry: the shared list, and the private list of `v`. -/
def tenantView (v : Uid) : View registryMachine (DeviceSnapshot × Option DeviceSnapshot) where
  view r := (r.shared, r.priv v)
  visible := concerns v
  act seen
    | .updateShared snap => (snap, seen.2)
    | .updateAgentDevices _ devices => (seen.1, some devices)
    | .removeAgent _ => (seen.1, none)
  view_visible := by
    intro r event t h hv
    rcases event with snap | ⟨uid, devices⟩ | uid
    · obtain rfl := Option.some.inj h
      rfl
    · obtain rfl := Option.some.inj h
      obtain rfl : uid = v := of_decide_eq_true hv
      simp
    · obtain rfl := Option.some.inj h
      obtain rfl : uid = v := of_decide_eq_true hv
      simp
  view_hidden := by
    intro r event t h hv
    rcases event with snap | ⟨uid, devices⟩ | uid
    · simp [concerns] at hv
    · obtain rfl := Option.some.inj h
      have hne : v ≠ uid := Ne.symm (of_decide_eq_false hv)
      simp [hne]
    · obtain rfl := Option.some.inj h
      have hne : v ≠ uid := Ne.symm (of_decide_eq_false hv)
      simp [hne]

/-- A user's snapshot is computed from what the user sees. -/
theorem snapshotFor_eq_of_view {r t : TenantRegistry} {v : Uid}
    (h : (tenantView v).view r = (tenantView v).view t) : r.snapshotFor v = t.snapshotFor v := by
  obtain ⟨hshared, hpriv⟩ := Prod.mk.inj h
  unfold TenantRegistry.snapshotFor
  rw [hshared, hpriv]

/-- **Tenant noninterference.** In two runs with the same shared updates and the same events of
`v`, whatever the events of the other users are and wherever they stand, `v` sees the same devices;
and the device list, the preferred device, the backend order and the route of every service, hence
everything the daemon does for a client of `v`, are the same.
Source: `tenant.rs`, `users_isolated` -/
theorem tenants_noninterference (v : Uid) {events events' : List RegistryEvent}
    {r r' : TenantRegistry} (hr : registryMachine.Reaches events r)
    (hr' : registryMachine.Reaches events' r')
    (h : events.filter (concerns v) = events'.filter (concerns v)) :
    r.snapshotFor v = r'.snapshotFor v ∧
      ∀ (localBackend : Option BackendConfig) (service : String),
        (∀ long, (r.snapshotFor v).formatDevices long = (r'.snapshotFor v).formatDevices long) ∧
        backendOrder (r.snapshotFor v) localBackend = backendOrder (r'.snapshotFor v) localBackend ∧
        pickPreferred (r.snapshotFor v) (backendOrder (r.snapshotFor v) localBackend) =
          pickPreferred (r'.snapshotFor v) (backendOrder (r'.snapshotFor v) localBackend) ∧
        routeMulti service (r.snapshotFor v) (backendOrder (r.snapshotFor v) localBackend)
            localBackend =
          routeMulti service (r'.snapshotFor v) (backendOrder (r'.snapshotFor v) localBackend)
            localBackend ∧
        ∀ adbVersion payload,
          handleAdbClient r localBackend adbVersion (some v) payload =
            handleAdbClient r' localBackend adbVersion (some v) payload := by
  have hview := (tenantView v).noninterference hr hr' h
  have hsnap := snapshotFor_eq_of_view hview
  refine ⟨hsnap, fun localBackend service => ?_⟩
  rw [hsnap]
  refine ⟨fun _ => rfl, rfl, rfl, rfl, fun adbVersion payload => ?_⟩
  unfold handleAdbClient
  simp only [hsnap]

/-- A private device. -/
def privateDevice (serial : String) : DeviceSnapshot :=
  sanitizedToSnapshot [⟨serial, serial, "device", "", "office", "office:" ++ serial⟩]

/-- User 1000 sees the same devices whether or not user 1001 has an agent. -/
theorem other_agent_unseen :
    ((({} : TenantRegistry).updateAgentDevices 1001 (privateDevice "B1")).updateAgentDevices 1000
        (privateDevice "A1")).snapshotFor 1000 =
      (({} : TenantRegistry).updateAgentDevices 1000 (privateDevice "A1")).snapshotFor 1000 := by
  have hboth : registryMachine.Reaches [.updateAgentDevices 1001 (privateDevice "B1"),
      .updateAgentDevices 1000 (privateDevice "A1")]
        ((({} : TenantRegistry).updateAgentDevices 1001 (privateDevice "B1")).updateAgentDevices
          1000 (privateDevice "A1")) := Machine.reaches_of_exec rfl
  have hone : registryMachine.Reaches [.updateAgentDevices 1000 (privateDevice "A1")]
      (({} : TenantRegistry).updateAgentDevices 1000 (privateDevice "A1")) :=
    Machine.reaches_of_exec rfl
  exact (tenants_noninterference 1000 hboth hone rfl).1

/-! ## Confinement -/

namespace TenantRegistry

/-- What is stored: shared entries of the local backend, private entries with a route, and no pair
codes. -/
structure Confined (localAddr : Option SocketAddr) (r : TenantRegistry) : Prop where
  shared : ∀ d ∈ r.shared.devices,
    d.routeId = none ∧ d.pairCode = none ∧ localAddr = some d.backendAddr
  priv : ∀ uid l, r.priv uid = some l → ∀ d ∈ l.devices, d.routeId.isSome ∧ d.pairCode = none

variable {localAddr : Option SocketAddr} {r : TenantRegistry} {events : List RegistryEvent}

/-- A poll of the local backend brings entries of that backend. -/
theorem mem_polled {addr : SocketAddr} {body : String} {d : DeviceEntry}
    (hd : d ∈ (mergeDeviceLists [(localBackendAt addr, body)]).devices) :
    d.routeId = none ∧ d.pairCode = none ∧ d.backendAddr = addr := by
  obtain ⟨p, hp, hentry⟩ := exists_parsed_of_mem hd
  obtain ⟨body', hmem, -⟩ := exists_body_of_parsed hp
  have hbackend : p.backend = localBackendAt addr :=
    (Prod.mk.inj (List.mem_singleton.mp hmem)).1
  unfold IsEntryOf at hentry
  rw [hentry, hbackend]
  exact ⟨rfl, rfl, rfl⟩

/-- Every update the daemon makes keeps the contents confined. -/
theorem Confined.step {t : TenantRegistry} {event : RegistryEvent} (hr : r.Confined localAddr)
    (hevent : event.FromDaemon localAddr) (h : registryMachine.step r event = some t) :
    t.Confined localAddr := by
  have hupdate : ∀ (uid : Uid) (new : Option DeviceSnapshot),
      (∀ l, new = some l → ∀ d ∈ l.devices, d.routeId.isSome ∧ d.pairCode = none) →
      ∀ v l, Function.update r.priv uid new v = some l →
        ∀ d ∈ l.devices, d.routeId.isSome ∧ d.pairCode = none := by
    intro uid new hnew v l hl
    by_cases hv : v = uid
    · subst hv
      rw [Function.update_self] at hl
      exact hnew l hl
    · rw [Function.update_of_ne hv] at hl
      exact hr.priv v l hl
  rcases event with snap | ⟨uid, devices⟩ | uid
  · obtain ⟨addr, body, hlocal, rfl⟩ := hevent
    obtain rfl := Option.some.inj h
    refine ⟨fun d hd => ?_, hr.priv⟩
    obtain ⟨hroute, hcode, haddr⟩ := mem_polled hd
    exact ⟨hroute, hcode, by rw [hlocal, haddr]⟩
  · obtain ⟨sent, rfl⟩ := hevent
    obtain rfl := Option.some.inj h
    refine ⟨hr.shared, hupdate uid _ ?_⟩
    intro l hl
    obtain rfl := Option.some.inj hl
    exact sanitizedToSnapshot_routed sent
  · obtain rfl := Option.some.inj h
    refine ⟨hr.shared, hupdate uid none ?_⟩
    intro l hl
    simp at hl

theorem confined_of_run (h : registryMachine.Run (fun _ event => event.FromDaemon localAddr) events r) :
    r.Confined localAddr := by
  apply h.invariant
  · refine ⟨?_, ?_⟩
    · intro d hd
      simp [registryMachine] at hd
    · rintro uid l ⟨⟩
  · intro s event t hs hevent hstep
    exact hs.step hevent hstep

/-- A device a user sees is a shared one, or one of the user's own list. -/
theorem mem_snapshotFor {uid : Uid} {d : DeviceEntry} (hd : d ∈ (r.snapshotFor uid).devices) :
    d ∈ r.shared.devices ∨ ∃ l, r.priv uid = some l ∧ d ∈ l.devices := by
  unfold snapshotFor at hd
  rcases hp : r.priv uid with _ | l
  · rw [hp] at hd
    exact .inl hd
  · rw [hp] at hd
    rcases List.mem_append.mp hd with hd | hd
    · exact .inl hd
    · exact .inr ⟨l, rfl, hd⟩

/-- The route is one of the local backend, or of the user's own list. -/
def RouteConfined (r : TenantRegistry) (localAddr : Option SocketAddr) (uid : Uid) : Route → Prop
  | .shared addr _ => localAddr = some addr
  | .priv routeId _ => ∃ l, r.priv uid = some l ∧ ∃ d ∈ l.devices, d.routeId = some routeId

/-- In a confined registry, every route of a user's service is confined. -/
theorem Confined.routeMulti (hr : r.Confined localAddr) {uid : Uid} {service : String}
    {order : List String} {route : Route}
    (h : routeMulti service (r.snapshotFor uid) order (localAddr.map localBackendAt) = .ok route) :
    r.RouteConfined localAddr uid route := by
  rcases route with ⟨addr, upstream⟩ | ⟨routeId, upstream⟩
  · rcases routeMulti_eq_shared h with ⟨d, hrw, hd, rfl⟩ | ⟨-, -, b, hb, rfl⟩
    · rcases mem_snapshotFor hrw.mem with hmem | ⟨l, hl, hmem⟩
      · exact (hr.shared d hmem).2.2
      · have hsome := (hr.priv uid l hl d hmem).1
        rw [hd] at hsome
        simp at hsome
    · obtain ⟨addr, rfl, rfl⟩ := Option.map_eq_some_iff.mp hb
      rfl
  · obtain ⟨d, hrw, hd⟩ := routeMulti_eq_priv h
    rcases mem_snapshotFor hrw.mem with hmem | ⟨l, hl, hmem⟩
    · have hnone := (hr.shared d hmem).1
      rw [hd] at hnone
      simp at hnone
    · exact ⟨l, hl, d, hmem, hd⟩

/-- **Routes are confined.** In every state reached by polls of the local backend and by agent
messages of any content, no entry has a pair code; and for every user and every service, the route
is the address of the local backend or a route of the list stored last for that user. So is
whatever the daemon does for a client.
Source: `daemon.rs`, `route_multi` -/
theorem routes_confined
    (h : registryMachine.Run (fun _ event => event.FromDaemon localAddr) events r) :
    ((∀ d ∈ r.shared.devices, d.pairCode = none) ∧
        ∀ uid l, r.priv uid = some l → ∀ d ∈ l.devices, d.pairCode = none) ∧
      ∀ uid service,
        (∀ route, AdbHub.routeMulti service (r.snapshotFor uid)
            (backendOrder (r.snapshotFor uid) (localAddr.map localBackendAt))
            (localAddr.map localBackendAt) = .ok route → r.RouteConfined localAddr uid route) ∧
        ∀ adbVersion route, (serveClient (r.snapshotFor uid) (localAddr.map localBackendAt)
            adbVersion service).route = some route → r.RouteConfined localAddr uid route := by
  have hr := confined_of_run h
  refine ⟨⟨fun d hd => (hr.shared d hd).2.1, fun uid l hl d hd => (hr.priv uid l hl d hd).2⟩,
    fun uid service => ⟨?_, ?_⟩⟩
  · intro route hroute
    exact hr.routeMulti hroute
  · intro adbVersion route hroute
    exact hr.routeMulti (routeMulti_of_route hroute).2

/-- The local backend has the device `USB1`; the agent of user 1000 reports a device of the same
serial, and one of its own. -/
def spoofed : TenantRegistry :=
  (({} : TenantRegistry).updateShared
    (mergeDeviceLists [(localBackendAt (.loopback 5039), "USB1\tdevice\n")])).updateAgentDevices 1000
      (sanitizedToSnapshot [⟨"USB1", "USB1", "device", "", "office", "office:USB1"⟩,
        ⟨"A1", "A1", "device", "", "office", "office:A1"⟩])

/-- The reported serial does not draw the service of another user to the agent, and the device of
user 1000 is reached by its route. -/
theorem spoofed_routes_confined :
    spoofed.RouteConfined (some (.loopback 5039)) 1001
        (.shared (.loopback 5039) "host:transport:USB1") ∧
      spoofed.RouteConfined (some (.loopback 5039)) 1000
        (.priv "office:A1" "host:transport:A1") := by
  have hrun : registryMachine.Run (fun _ event => event.FromDaemon (some (.loopback 5039)))
      ([] ++ [.updateShared (mergeDeviceLists [(localBackendAt (.loopback 5039), "USB1\tdevice\n")])]
        ++ [.updateAgentDevices 1000 (sanitizedToSnapshot
          [⟨"USB1", "USB1", "device", "", "office", "office:USB1"⟩,
            ⟨"A1", "A1", "device", "", "office", "office:A1"⟩])]) spoofed :=
    .snoc (.snoc .init ⟨.loopback 5039, "USB1\tdevice\n", rfl, rfl⟩ rfl) ⟨_, rfl⟩ rfl
  constructor
  · exact ((routes_confined hrun).2 1001 "host:transport:USB1").1 _ (by decide +kernel)
  · exact ((routes_confined hrun).2 1000 "host:transport:A1").1 _ (by decide +kernel)

end TenantRegistry

end AdbHub
