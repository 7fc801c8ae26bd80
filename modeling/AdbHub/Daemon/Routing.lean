import AdbHub.Protocol
import AdbHub.Session
import AdbHub.Tenant

/-!
# What the daemon does for an ADB client

The first service of a client of the multi-user daemon (`daemon.rs`): who the client is, what is
answered from the user's devices, what is refused, and where everything else goes.

* `backendOrder`, `routeMulti` — the route of a service.
* `handleAdbClient` — the chain of cases, in the source's order.
* `IsKill` — the requests on which an adb server exits; this is the assumption about the server,
  not code of the daemon.
* **`kill_sent_iff`** — a kill request is the first packet of a connection to the shared local adb
  server exactly for the services of `KillsLocal`: a transport id, or a device of the local server
  named by its serial or picked for `host-usb:` and `host-local:`.
-/

namespace AdbHub

open Lib

/-! ## Routes -/

/-- Name of the backend of the shared devices. Source: `LocalAdb::backend_name`. -/
def localBackendName : String := "local"

/-- Source: `daemon.rs`, `backend_order`. -/
def backendOrder (snap : DeviceSnapshot) (localBackend : Option BackendConfig) : List String :=
  snap.devices.foldl
    (fun order d => if d.backendName ∈ order then order else order ++ [d.backendName])
    (if localBackend.isSome then [localBackendName] else [])

/-- Where a service goes. Source: `daemon.rs`, `Route`. -/
inductive Route
  | shared (addr : SocketAddr) (upstream : String)
  /-- The source's `Private`. -/
  | priv (routeId : String) (upstream : String)
  deriving DecidableEq

/-- Source: `daemon.rs`, `route_multi`. -/
def routeMulti (service : String) (snap : DeviceSnapshot) (backendOrder : List String)
    (localBackend : Option BackendConfig) : Except String Route := do
  match ← rewriteUpstreamService service snap backendOrder with
  | some (entry, upstream) =>
      match entry.routeId with
      | some routeId => .ok (.priv routeId upstream)
      | none => .ok (.shared entry.backendAddr upstream)
  | none =>
      -- default and features go to the shared local server when there is one
      match localBackend with
      | some b => .ok (.shared b.addr service)
      | none => .error "no shared local backend"

/-- Source: `daemon.rs`, `is_unsafe_global_host`. -/
def isUnsafeGlobalHost (service : String) : Bool :=
  service = "host:reconnect-offline" || service = "host:resetowninghost" ||
    startsWith service "host:kill:"

/-- Source: `tunnel.rs`, `is_transport`. -/
def isTransport (service : String) : Bool :=
  startsWith service "host:tport:" || startsWith service "host:transport:"

/-! ## The first service -/

/-- What the daemon does for a client. -/
inductive ClientAction
  /-- `OKAY` and a body. -/
  | answer (body : List UInt8)
  /-- `FAIL` and a reason. -/
  | refuse (reason : String)
  /-- The device list, now and after every change. Source: `track_devices_multi`. -/
  | trackDevices (long : Bool)
  /-- `OKAY`; the daemon is notified and stays up. -/
  | okayKill
  /-- A connection to the address with the service as its first packet. Source:
  `forward_shared`. -/
  | forwardShared (addr : SocketAddr) (upstream : String)
  /-- A stream of the user's agent. Source: `forward_private`. -/
  | forwardPrivate (routeId upstream : String)
  /-- A stream of the user's agent, with tunnel requests intercepted; later tunnel connections
  open the route with the selector. Source: `tunnel.rs`, `transport`. -/
  | transport (routeId upstream publicSerial selector : String)
  deriving DecidableEq

/-- What the route of a service leads to. -/
def ClientAction.ofRoute : Except String Route → ClientAction
  | .ok (.shared addr upstream) => .forwardShared addr upstream
  | .ok (.priv routeId upstream) => .forwardPrivate routeId upstream
  | .error reason => .refuse reason

/-- The stream that a transport service of a private device opens. -/
def privateTransport (service : String) (snap : DeviceSnapshot) (backendOrder : List String) :
    Option ClientAction :=
  match rewriteUpstreamService service snap backendOrder with
  | .ok (some (entry, upstream)) =>
      entry.routeId.map fun routeId =>
        .transport routeId upstream entry.publicSerial ("host:transport:" ++ entry.upstreamSerial)
  | _ => none

/-- The serial or the state of the preferred device. -/
def describePreferred (snap : DeviceSnapshot) (order : List String) (service : String) :
    ClientAction :=
  match pickPreferred snap order with
  | .ok entry =>
      .answer (utf8 (if service = "host:get-serialno" then entry.publicSerial else entry.state))
  | .error reason => .refuse reason

/-- The services the daemon answers itself. Source: `daemon.rs`, `handle_adb_client`, up to
`is_unsafe_global_host`. -/
def answerClient (snap : DeviceSnapshot) (order : List String) (adbVersion : UInt32)
    (service : String) : Option ClientAction :=
  if service = "host:devices" ∨ service = "host:devices-l" then
    some (.answer (utf8 (snap.formatDevices (service = "host:devices-l"))))
  else if service = "host:track-devices" ∨ service = "host:track-devices-l" then
    some (.trackDevices (service = "host:track-devices-l"))
  else if service = "host:kill" then some .okayKill
  else if service = "host:version" then some (.answer (lowerHex4 adbVersion.toNat))
  else if service = "host:get-state" ∨ service = "host:get-serialno" ∨
      service = "host:get-connection-state" then
    some (describePreferred snap order service)
  else if isUnsafeGlobalHost service then
    some (.refuse "host command not permitted on multi-user daemon")
  else none

/-- Where every other service goes. Source: `daemon.rs`, `handle_adb_client`, from `is_transport`
on. -/
def forwardClient (snap : DeviceSnapshot) (order : List String)
    (localBackend : Option BackendConfig) (service : String) : ClientAction :=
  match (if isTransport service then privateTransport service snap order else none) with
  | some action => action
  | none => .ofRoute (routeMulti service snap order localBackend)

/-- What is done for a service of a user who sees the devices `snap`. Source: `daemon.rs`,
`handle_adb_client`. -/
def serveClient (snap : DeviceSnapshot) (localBackend : Option BackendConfig) (adbVersion : UInt32)
    (service : String) : ClientAction :=
  let order := backendOrder snap localBackend
  (answerClient snap order adbVersion service).getD (forwardClient snap order localBackend service)

/-- What the daemon does for a client whose first packet is `payload`. Source: `daemon.rs`,
`handle_adb_client`. -/
def handleAdbClient (tenants : TenantRegistry) (localBackend : Option BackendConfig)
    (adbVersion : UInt32) (peerUid : Option Uid) (payload : List UInt8) : ClientAction :=
  match peerUid with
  | none => .refuse "unable to identify client user"
  | some uid =>
      match fromUtf8 payload with
      | none => .refuse "invalid utf8 service"
      | some service => serveClient (tenants.snapshotFor uid) localBackend adbVersion service

variable {snap : DeviceSnapshot} {localBackend : Option BackendConfig} {adbVersion : UInt32}
  {service upstream : String} {order : List String} {addr : SocketAddr} {d : DeviceEntry}

/-! ## Where a service is forwarded -/

/-- A service goes to an address if it is rewritten for a device without a route, or if it is not
rewritten and there is a local server. -/
theorem routeMulti_eq_shared (h : routeMulti service snap order localBackend =
    .ok (.shared addr upstream)) :
    (∃ d, Rewrites snap order service d upstream ∧ d.routeId = none ∧ d.backendAddr = addr) ∨
      (rewriteUpstreamService service snap order = .ok none ∧ upstream = service ∧
        ∃ b, localBackend = some b ∧ b.addr = addr) := by
  unfold routeMulti at h
  obtain ⟨rewritten, hrw, h⟩ := bind_eq_ok h
  rcases rewritten with _ | ⟨d, up⟩
  · rcases localBackend with _ | b
    · simp at h
    · obtain ⟨rfl, rfl⟩ := Route.shared.inj (Except.ok.inj h)
      exact .inr ⟨hrw, rfl, b, rfl, rfl⟩
  · rcases hroute : d.routeId with _ | routeId
    · simp only [hroute] at h
      obtain ⟨rfl, rfl⟩ := Route.shared.inj (Except.ok.inj h)
      exact .inl ⟨d, rewrites_of_eq hrw, hroute, rfl⟩
    · simp [hroute] at h

/-- A service goes to the agent if it is rewritten for a device with a route. -/
theorem routeMulti_eq_priv {routeId : String} (h : routeMulti service snap order localBackend =
    .ok (.priv routeId upstream)) :
    ∃ d, Rewrites snap order service d upstream ∧ d.routeId = some routeId := by
  unfold routeMulti at h
  obtain ⟨rewritten, hrw, h⟩ := bind_eq_ok h
  rcases rewritten with _ | ⟨d, up⟩
  · rcases localBackend with _ | b <;> simp at h
  · rcases hroute : d.routeId with _ | r
    · simp [hroute] at h
    · simp only [hroute] at h
      obtain ⟨rfl, rfl⟩ := Route.priv.inj (Except.ok.inj h)
      exact ⟨d, rewrites_of_eq hrw, hroute⟩

/-- A service rewritten for a device without a route goes to the address of the device. -/
theorem routeMulti_of_rewrite (h : rewriteUpstreamService service snap order =
    .ok (some (d, upstream))) (hd : d.routeId = none) :
    routeMulti service snap order localBackend = .ok (.shared d.backendAddr upstream) := by
  simp [routeMulti, h, bind, Except.bind, hd]

theorem routeMulti_of_unscoped {b : BackendConfig}
    (h : rewriteUpstreamService service snap order = .ok none) :
    routeMulti service snap order (some b) = .ok (.shared b.addr service) := by
  simp [routeMulti, h, bind, Except.bind]

/-- The route an action follows, if it leaves the daemon. -/
def ClientAction.route : ClientAction → Option Route
  | .forwardShared addr upstream => some (.shared addr upstream)
  | .forwardPrivate routeId upstream => some (.priv routeId upstream)
  | .transport routeId upstream _ _ => some (.priv routeId upstream)
  | .answer _ | .refuse _ | .trackDevices _ | .okayKill => none

/-- What the daemon answers itself leaves it nowhere. -/
theorem route_answerClient {action : ClientAction}
    (h : answerClient snap order adbVersion service = some action) : action.route = none := by
  have hdescribe : (describePreferred snap order service).route = none := by
    unfold describePreferred
    rcases pickPreferred snap order with reason | entry <;> rfl
  unfold answerClient at h
  split_ifs at h <;> obtain rfl := Option.some.inj h
  all_goals first
    | rfl
    | exact hdescribe

/-- A transport of a private device goes where its route goes. -/
theorem route_privateTransport (localBackend : Option BackendConfig) {action : ClientAction}
    (h : privateTransport service snap order = some action) :
    ∃ routeId upstream, action.route = some (.priv routeId upstream) ∧
      routeMulti service snap order localBackend = .ok (.priv routeId upstream) := by
  unfold privateTransport at h
  rcases hrw : rewriteUpstreamService service snap order with reason | (_ | ⟨d, up⟩)
  · rw [hrw] at h
    simp at h
  · rw [hrw] at h
    simp at h
  · rw [hrw] at h
    obtain ⟨routeId, hroute, rfl⟩ := Option.map_eq_some_iff.mp h
    exact ⟨routeId, up, rfl, by simp [routeMulti, hrw, bind, Except.bind, hroute]⟩

/-- **What leaves the daemon follows `route_multi`**, and is not `host:kill`. -/
theorem routeMulti_of_route {route : Route}
    (h : (serveClient snap localBackend adbVersion service).route = some route) :
    service ≠ "host:kill" ∧
      routeMulti service snap (backendOrder snap localBackend) localBackend = .ok route := by
  unfold serveClient at h
  simp only at h
  rcases ha : answerClient snap (backendOrder snap localBackend) adbVersion service with _ | action
  · rw [ha, Option.getD_none] at h
    constructor
    · rintro rfl
      have hkill : answerClient snap (backendOrder snap localBackend) adbVersion "host:kill" =
          some .okayKill := by
        simp [answerClient]
      rw [hkill] at ha
      simp at ha
    · unfold forwardClient at h
      split at h
      · rename_i action hp
        split_ifs at hp with ht
        obtain ⟨routeId, up, hroute, hmulti⟩ := route_privateTransport localBackend hp
        rw [hroute] at h
        obtain rfl := Option.some.inj h
        exact hmulti
      · rcases hr : routeMulti service snap (backendOrder snap localBackend) localBackend with
          reason | route'
        · rw [hr] at h
          simp [ClientAction.ofRoute, ClientAction.route] at h
        · rw [hr] at h
          rcases route' with ⟨a, up⟩ | ⟨r, up⟩ <;>
          · obtain rfl := Option.some.inj h
            rfl
  · rw [ha, Option.getD_some, route_answerClient ha] at h
    simp at h

/-- A service that does not begin with `host:` is routed. -/
theorem serveClient_of_not_host (h : stripPrefix service "host:" = none) :
    serveClient snap localBackend adbVersion service =
      .ofRoute (routeMulti service snap (backendOrder snap localBackend) localBackend) := by
  have hne : ∀ rest, service ≠ "host:" ++ rest := stripPrefix_eq_none_iff.mp h
  have hstart : ∀ pre : String, startsWith service ("host:" ++ pre) = false := by
    intro pre
    rw [Bool.eq_false_iff, Ne, startsWith_iff]
    rintro ⟨rest, hrest⟩
    exact hne (pre ++ rest) (by rw [hrest, String.append_assoc])
  have hunsafe : isUnsafeGlobalHost service = false := by
    have h₁ : service ≠ "host:reconnect-offline" := hne "reconnect-offline"
    have h₂ : service ≠ "host:resetowninghost" := hne "resetowninghost"
    have h₃ : startsWith service "host:kill:" = false := hstart "kill:"
    simp [isUnsafeGlobalHost, h₁, h₂, h₃]
  have htransport : isTransport service = false := by
    rw [isTransport, Bool.or_eq_false_iff]
    exact ⟨hstart "tport:", hstart "transport:"⟩
  have hanswer : answerClient snap (backendOrder snap localBackend) adbVersion service = none := by
    have h₁ : service ≠ "host:devices" := hne "devices"
    have h₂ : service ≠ "host:devices-l" := hne "devices-l"
    have h₃ : service ≠ "host:track-devices" := hne "track-devices"
    have h₄ : service ≠ "host:track-devices-l" := hne "track-devices-l"
    have h₅ : service ≠ "host:kill" := hne "kill"
    have h₆ : service ≠ "host:version" := hne "version"
    have h₇ : service ≠ "host:get-state" := hne "get-state"
    have h₈ : service ≠ "host:get-serialno" := hne "get-serialno"
    have h₉ : service ≠ "host:get-connection-state" := hne "get-connection-state"
    simp [answerClient, h₁, h₂, h₃, h₄, h₅, h₆, h₇, h₈, h₉, hunsafe]
  simp only [serveClient, hanswer, Option.getD_none, forwardClient, htransport, Bool.false_eq_true,
    if_false]

/-! ## Requests to exit -/

/-- A decimal number, as in `host-transport-id:`. -/
def IsNumber (n : String) : Prop := n ≠ "" ∧ n.toList.all Char.isDigit = true

/-- The requests on which an adb server exits: `kill` behind any host prefix. -/
def IsKill (request : String) : Prop :=
  request = "host:kill" ∨ request = "host-usb:kill" ∨ request = "host-local:kill" ∨
    (∃ serial, request = "host-serial:" ++ serial ++ ":kill") ∨
    ∃ n, IsNumber n ∧ request = "host-transport-id:" ++ n ++ ":kill"

/-- A request that is a kill request once a serial stands before it; a serial may contain `:`. -/
def EndsInKill (request : String) : Prop := request = "kill" ∨ ∃ rest, request = rest ++ ":kill"

/-- The action opens a connection to the shared local adb server with a kill request. -/
def SendsKill (localBackend : Option BackendConfig) (action : ClientAction) : Prop :=
  ∃ b upstream, localBackend = some b ∧ action = .forwardShared b.addr upstream ∧ IsKill upstream

/-- The service is for the device `d`, and `request` is what it asks of it. -/
def AsksDevice (snap : DeviceSnapshot) (localBackend : Option BackendConfig) (service : String)
    (d : DeviceEntry) (request : String) : Prop :=
  (∃ serial, ':' ∉ serial.toList ∧ service = "host-serial:" ++ (serial ++ ":" ++ request) ∧
      lookupDevice snap serial = .ok d) ∨
    (service = "host-usb:" ++ request ∨ service = "host-local:" ++ request) ∧
      pickPreferred snap (backendOrder snap localBackend) = .ok d

/-- The services with which a user stops the shared local adb server: by transport id, or through
a device of that server. -/
def KillsLocal (snap : DeviceSnapshot) (localBackend : Option BackendConfig) (service : String) :
    Prop :=
  ∃ b, localBackend = some b ∧
    ((∃ n, IsNumber n ∧ service = "host-transport-id:" ++ n ++ ":kill") ∨
      ∃ d request, AsksDevice snap localBackend service d request ∧ d.routeId = none ∧
        d.backendAddr = b.addr ∧ EndsInKill request)

/-- How the kill requests begin. -/
def killPrefixes : List String :=
  ["host:kill", "host-usb:kill", "host-local:kill", "host-serial:", "host-transport-id:"]

theorem exists_killPrefix {request : String} (h : IsKill request) :
    ∃ k ∈ killPrefixes, ∃ t, request = k ++ t := by
  unfold killPrefixes
  rcases h with rfl | rfl | rfl | ⟨serial, rfl⟩ | ⟨n, -, rfl⟩
  · exact ⟨"host:kill", by simp, "", rfl⟩
  · exact ⟨"host-usb:kill", by simp, "", rfl⟩
  · exact ⟨"host-local:kill", by simp, "", rfl⟩
  · exact ⟨"host-serial:", by simp, serial ++ ":kill", String.append_assoc ..⟩
  · exact ⟨"host-transport-id:", by simp, n ++ ":kill", String.append_assoc ..⟩

/-- What begins in another way is no kill request. -/
theorem not_isKill_append {pre : String}
    (h : ∀ k ∈ killPrefixes, ¬ pre.toList <+: k.toList ∧ ¬ k.toList <+: pre.toList) (t : String) :
    ¬ IsKill (pre ++ t) := by
  intro hkill
  obtain ⟨k, hk, u, heq⟩ := exists_killPrefix hkill
  exact append_ne_of_not_prefix (h k hk).1 (h k hk).2 t u heq

/-- The end `:kill` begins at the colon between two texts, behind it, or nowhere. -/
theorem endsInKill_of_append_eq {a request s : String}
    (h : a ++ ":" ++ request = s ++ ":kill") : EndsInKill request := by
  have hl : a.toList ++ ':' :: request.toList = s.toList ++ ':' :: "kill".toList := by
    have hlist := congrArg String.toList h
    simpa using hlist
  rcases List.append_eq_append_iff.mp hl with ⟨u, -, hu⟩ | ⟨u, -, hu⟩
  · rcases u with _ | ⟨c, u⟩
    · exact .inl (String.toList_inj.mp (by simpa using hu))
    · refine .inr ⟨String.ofList u, String.toList_inj.mp ?_⟩
      simpa using (List.cons.inj hu).2
  · rcases u with _ | ⟨c, u⟩
    · exact .inl (String.toList_inj.mp (List.cons.inj hu).2.symm)
    · have hcolon : ':' ∉ "kill".toList := by decide
      rw [(List.cons.inj hu).2] at hcolon
      simp at hcolon

/-- A request for a serial is a kill request exactly if what follows the serial is. -/
theorem isKill_hostSerial_iff (serial request : String) :
    IsKill ("host-serial:" ++ serial ++ ":" ++ request) ↔ EndsInKill request := by
  have hne : ∀ q : String, ¬ "host-serial:".toList <+: q.toList →
      ¬ q.toList <+: "host-serial:".toList →
        ∀ t, "host-serial:" ++ serial ++ ":" ++ request ≠ q ++ t := by
    intro q h h' t
    rw [String.append_assoc, String.append_assoc]
    exact append_ne_of_not_prefix h h' _ t
  constructor
  · rintro (h | h | h | ⟨s, h⟩ | ⟨n, -, h⟩)
    · exact absurd h (hne "host:kill" (by decide) (by decide) "")
    · exact absurd h (hne "host-usb:kill" (by decide) (by decide) "")
    · exact absurd h (hne "host-local:kill" (by decide) (by decide) "")
    · exact endsInKill_of_append_eq h
    · have hid : "host-transport-id:" ++ n ++ ":kill" = "host-transport-id:" ++ (n ++ ":kill") :=
        String.append_assoc ..
      rw [hid] at h
      exact absurd h (hne "host-transport-id:" (by decide) (by decide) (n ++ ":kill"))
  · rintro (rfl | ⟨rest, rfl⟩)
    · exact .inr (.inr (.inr (.inl ⟨serial, by simp [String.append_assoc]⟩)))
    · exact .inr (.inr (.inr (.inl ⟨serial ++ ":" ++ rest, by simp [String.append_assoc]⟩)))

/-- A service that is sent on as it is, and is not `host:kill`, is a kill request only by a
transport id: the other prefixes are for a device. -/
theorem exists_transport_id_of_unscoped (h : rewriteUpstreamService service snap order = .ok none)
    (hne : service ≠ "host:kill") (hkill : IsKill service) :
    ∃ n, IsNumber n ∧ service = "host-transport-id:" ++ n ++ ":kill" := by
  have hbind : ∀ {x : Except String DeviceEntry} {f : DeviceEntry → String},
      (do let entry ← x
          .ok (some (entry, f entry)) : Except String (Option (DeviceEntry × String))) ≠ .ok none := by
    intro x f hx
    obtain ⟨e, -, he⟩ := bind_eq_ok hx
    simp at he
  rcases hkill with rfl | rfl | rfl | ⟨serial, rfl⟩ | hid
  · exact absurd rfl hne
  · rw [show "host-usb:kill" = "host-usb:" ++ "kill" from rfl,
      rewrite_any_prefix_eq (.inl rfl)] at h
    exact absurd h hbind
  · rw [show "host-local:kill" = "host-local:" ++ "kill" from rfl,
      rewrite_any_prefix_eq (.inr rfl)] at h
    exact absurd h hbind
  · rw [String.append_assoc, rewrite_host_serial_eq] at h
    split at h
    · simp at h
    · exact absurd h hbind
  · exact hid

/-- A kill request that a service was rewritten to asks it of a device. -/
theorem asksDevice_of_rewrites (h : Rewrites snap (backendOrder snap localBackend) service d upstream)
    (hkill : IsKill upstream) :
    ∃ request, AsksDevice snap localBackend service d request ∧ EndsInKill request := by
  cases h with
  | anyTport _ _ _ _ | tport _ _ _ =>
      exact absurd hkill (not_isKill_append (by decide) d.upstreamSerial)
  | anyTransport _ _ _ _ | transport _ _ _ =>
      exact absurd hkill (not_isKill_append (by decide) d.upstreamSerial)
  | serial serial request _ hfree hl =>
      exact ⟨request, .inl ⟨serial, hfree, rfl, hl⟩, (isKill_hostSerial_iff _ _).mp hkill⟩
  | usb request _ hp =>
      exact ⟨request, .inr ⟨.inl rfl, hp⟩, (isKill_hostSerial_iff _ _).mp hkill⟩
  | loc request _ hp =>
      exact ⟨request, .inr ⟨.inr rfl, hp⟩, (isKill_hostSerial_iff _ _).mp hkill⟩
  | features _ _ hf _ =>
      have hfeatures : ¬ IsKill ("host:features" ++ "") := not_isKill_append (by decide) ""
      have hhost : ¬ IsKill ("host:host-features" ++ "") := not_isKill_append (by decide) ""
      rw [String.append_empty] at hfeatures hhost
      rcases hf with rfl | rfl
      · exact absurd hkill hfeatures
      · exact absurd hkill hhost
  | anyDevice request _ hany _ =>
      have hcolon : ':' ∉ request.toList ∧ request ≠ "kill" := by
        simp only [isAnyDeviceRequest, Bool.or_eq_true, decide_eq_true_eq] at hany
        rcases hany with ((rfl | rfl) | rfl) | rfl <;> decide
      rcases (isKill_hostSerial_iff _ _).mp hkill with hk | ⟨rest, rfl⟩
      · exact absurd hk hcolon.2
      · simp at hcolon

/-- What is asked of a device without a route is sent to its address. -/
theorem serveClient_of_asksDevice {request : String}
    (h : AsksDevice snap localBackend service d request) (hd : d.routeId = none) :
    serveClient snap localBackend adbVersion service =
      .forwardShared d.backendAddr ("host-serial:" ++ d.upstreamSerial ++ ":" ++ request) := by
  have hhost : ∀ {pre : String}, ¬ "host:".toList <+: pre.toList → ¬ pre.toList <+: "host:".toList →
      ∀ t, stripPrefix (pre ++ t) "host:" = none :=
    fun h₁ h₂ t => stripPrefix_append_eq_none h₁ h₂ t
  have hrewrite : stripPrefix service "host:" = none ∧
      rewriteUpstreamService service snap (backendOrder snap localBackend) =
        .ok (some (d, "host-serial:" ++ d.upstreamSerial ++ ":" ++ request)) := by
    rcases h with ⟨serial, hfree, rfl, hl⟩ | ⟨rfl | rfl, hp⟩
    · refine ⟨hhost (by decide) (by decide) _, ?_⟩
      have hsplit : splitOnce (serial ++ ":" ++ request) ':' = some (serial, request) :=
        splitOnce_append hfree request
      rw [rewrite_host_serial_eq, hsplit]
      simp only [hl]
      rfl
    · refine ⟨hhost (by decide) (by decide) _, ?_⟩
      rw [rewrite_any_prefix_eq (.inl rfl), hp]
      rfl
    · refine ⟨hhost (by decide) (by decide) _, ?_⟩
      rw [rewrite_any_prefix_eq (.inr rfl), hp]
      rfl
  rw [serveClient_of_not_host hrewrite.1, routeMulti_of_rewrite hrewrite.2 hd]
  rfl

/-- A service for a transport id is sent on as it is. -/
theorem serveClient_transport_id (rest : String) {b : BackendConfig} :
    serveClient snap (some b) adbVersion ("host-transport-id:" ++ rest) =
      .forwardShared b.addr ("host-transport-id:" ++ rest) := by
  have hhost : stripPrefix ("host-transport-id:" ++ rest) "host:" = none :=
    stripPrefix_append_eq_none (by decide) (by decide) rest
  have hpre : ∀ pre ∈ devicePrefixes, stripPrefix ("host-transport-id:" ++ rest) pre = none := by
    have hdiffer : ∀ pre ∈ devicePrefixes, ¬ pre.toList <+: "host-transport-id:".toList ∧
        ¬ "host-transport-id:".toList <+: pre.toList := by decide
    intro pre hp
    exact stripPrefix_append_eq_none (hdiffer pre hp).1 (hdiffer pre hp).2 rest
  have hsel := isAnySelector_append "host-transport-id:" rest (by decide)
  rw [serveClient_of_not_host hhost, routeMulti_of_unscoped (rewrite_unscoped hsel hpre hhost _ _)]
  rfl

/-- The services whose route leads a kill request to the local server are those of `KillsLocal`. -/
theorem sendsKill_serveClient_iff :
    SendsKill localBackend (serveClient snap localBackend adbVersion service) ↔
      KillsLocal snap localBackend service := by
  constructor
  · rintro ⟨b, upstream, rfl, haction, hkill⟩
    have hroute : (serveClient snap (some b) adbVersion service).route =
        some (.shared b.addr upstream) := by
      rw [haction]
      rfl
    obtain ⟨hne, hmulti⟩ := routeMulti_of_route hroute
    refine ⟨b, rfl, ?_⟩
    rcases routeMulti_eq_shared hmulti with ⟨d, hrw, hd, haddr⟩ | ⟨hnone, rfl, -⟩
    · obtain ⟨request, hasks, hends⟩ := asksDevice_of_rewrites hrw hkill
      exact .inr ⟨d, request, hasks, hd, haddr, hends⟩
    · exact .inl (exists_transport_id_of_unscoped hnone hne hkill)
  · rintro ⟨b, rfl, ⟨n, hn, rfl⟩ | ⟨d, request, hasks, hd, haddr, hends⟩⟩
    · refine ⟨b, "host-transport-id:" ++ n ++ ":kill", rfl, ?_, .inr (.inr (.inr (.inr ⟨n, hn, rfl⟩)))⟩
      rw [String.append_assoc, serveClient_transport_id]
    · refine ⟨b, _, rfl, ?_, (isKill_hostSerial_iff d.upstreamSerial request).mpr hends⟩
      rw [serveClient_of_asksDevice hasks hd, haddr]

/-- **Kill requests to the local server, exactly.** For every tenant view, every peer and every
first packet, the daemon sends no kill request as the first packet of a connection to the shared
local adb server iff the packet is not a service of `KillsLocal` from a user it can identify.
Source: `daemon.rs`, `handle_adb_client` ("Do not terminate the common daemon or shared local ADB") -/
theorem kill_sent_iff (tenants : TenantRegistry) (localBackend : Option BackendConfig)
    (adbVersion : UInt32) (peerUid : Option Uid) (payload : List UInt8) :
    ¬ SendsKill localBackend (handleAdbClient tenants localBackend adbVersion peerUid payload) ↔
      ∀ uid service, peerUid = some uid → payload = utf8 service →
        ¬ KillsLocal (tenants.snapshotFor uid) localBackend service := by
  have hrefuse : ∀ reason, ¬ SendsKill localBackend (.refuse reason) := by
    rintro reason ⟨b, up, -, haction, -⟩
    simp at haction
  unfold handleAdbClient
  rcases peerUid with _ | uid
  · simp [hrefuse]
  · rcases hs : fromUtf8 payload with _ | service
    · refine iff_of_true (hrefuse _) ?_
      rintro uid' service - rfl
      rw [fromUtf8_utf8] at hs
      simp at hs
    · simp only [sendsKill_serveClient_iff]
      obtain rfl := fromUtf8_eq_some_iff.mp hs
      constructor
      · rintro h uid' service' huid hpayload
        obtain rfl := Option.some.inj huid
        rw [← Option.some.inj (hs.symm.trans (fromUtf8_eq_some_iff.mpr hpayload.symm))]
        exact h
      · intro h
        exact h uid service rfl rfl

/-- A device attached to the server. -/
def usbDevice : DeviceEntry :=
  { publicSerial := "USB1", upstreamSerial := "USB1", state := "device", extras := ""
    backendName := localBackendName, backendAddr := .loopback 5039, pairCode := none
    routeId := none }

/-- What a user's first service leads to with that device attached to the server. -/
def serveUsbDevice (service : String) : ClientAction :=
  handleAdbClient (({} : TenantRegistry).updateShared ⟨[usbDevice]⟩)
    (some TenantRegistry.localAdb) 41 (some 1000) (utf8 service)

/-- With one device attached to the server, any user stops the shared server by naming it, by
picking the device on USB, or by a transport id. -/
theorem kill_sent_for_device :
    SendsKill (some TenantRegistry.localAdb) (serveUsbDevice "host-serial:USB1:kill") ∧
      SendsKill (some TenantRegistry.localAdb) (serveUsbDevice "host-usb:kill") ∧
      SendsKill (some TenantRegistry.localAdb) (serveUsbDevice "host-transport-id:1:kill") := by
  have hkill : ∀ upstream, IsKill upstream → ∀ service,
      serveClient ⟨[usbDevice]⟩ (some TenantRegistry.localAdb) 41 service =
        .forwardShared TenantRegistry.localAdb.addr upstream →
      SendsKill (some TenantRegistry.localAdb) (serveUsbDevice service) := by
    intro upstream hup service hserve
    refine ⟨TenantRegistry.localAdb, upstream, rfl, ?_, hup⟩
    unfold serveUsbDevice handleAdbClient
    rw [fromUtf8_utf8]
    exact hserve
  have hserial : IsKill "host-serial:USB1:kill" := .inr (.inr (.inr (.inl ⟨"USB1", by decide +kernel⟩)))
  have hid : IsKill "host-transport-id:1:kill" :=
    .inr (.inr (.inr (.inr ⟨"1", ⟨by decide, by decide +kernel⟩, by decide +kernel⟩)))
  refine ⟨?_, ?_, ?_⟩
  · exact hkill _ hserial _ (by decide +kernel)
  · exact hkill _ hserial _ (by decide +kernel)
  · exact hkill _ hid _ (by decide +kernel)

end AdbHub
