import AdbHub.Daemon.Routing
import AdbHub.HubRouting
import AdbHub.Lib.NumberText
import AdbHub.Tunnel.Tasks

/-!
# Which sessions set up tunnels

A session that selects a remote device and then asks for a scrcpy tunnel (`tunnel.rs`, `transport`),
in the single-user hub (`session.rs`, `handle_client`) and in the daemon (`daemon.rs`,
`handle_adb_client`).

* `transportRequest` — what is done with the request that follows the selection.
* `handleClient` — the first service of a client of the single-user hub.
* **`transport_handled_iff`** — a remote device that was selected for a transport gets its tunnels
  iff the service is none of `host:transport-any`, `-usb` and `-local`.
-/

namespace AdbHub

open Lib

/-! ## The request after the selection -/

/-- Source: `str::parse::<u16>`. -/
def parseU16 (s : String) : Option UInt16 :=
  let (digits, rest) := spanDigits 10 (match s.toList with
    | '+' :: cs => cs
    | cs => cs)
  if digits ≠ [] ∧ rest = [] ∧ positional 10 digits < 2 ^ 16 then
    some (UInt16.ofNat (positional 10 digits))
  else none

/-- What is done with a request. -/
inductive FollowUp
  | refuse (reason : String)
  /-- A listener is added, and the client told its port or why there is none. -/
  | add (call : AddCall)
  /-- The listener was removed; `OKAY` twice. -/
  | removed (port : UInt16)
  /-- The request goes to the device, and everything after it. -/
  | forward
  deriving DecidableEq

/-- Port and socket of a request for a scrcpy forward. Source: `tunnel.rs`, `transport`. -/
def forwardRequest (request : String) : Option (UInt16 × String) := do
  let rest ← stripPrefix request "host:forward:tcp:"
  let (port, socket) ← splitOnce rest ';'
  if startsWith socket "localabstract:scrcpy_" then
    let port ← parseU16 port
    return (port, socket)
  else none

/-- The request after the selection of a device; `removes` tells which listeners
`TunnelManager::remove` finds. Source: `tunnel.rs`, `transport`, from `read_packet(client)` on. -/
def transportRequest (serial : String) (owner : Option Uid) (removes : UInt16 → Bool)
    (request : List UInt8) : FollowUp :=
  let request := (fromUtf8 request).getD ""
  if startsWith request "reverse:forward:localabstract:scrcpy_" then
    .refuse "remote scrcpy reverse requires a tunnel; use adb forward"
  else
    match forwardRequest request with
    | some (port, socket) => .add ⟨port, serial, socket, owner⟩
    | none =>
        match (stripPrefix request "host:killforward:tcp:").bind parseU16 with
        | some port => if removes port then .removed port else .forward
        | none => .forward

/-! ## The single-user hub -/

/-- What the single-user hub does for a client. -/
inductive HubAction
  /-- `OKAY` and a body. -/
  | answer (body : List UInt8)
  /-- `FAIL` and a reason. -/
  | refuse (reason : String)
  /-- Source: `session.rs`, `track_devices`. -/
  | trackDevices (long : Bool)
  /-- `OKAY`, and the hub stops. -/
  | okayKill
  /-- Source: `session.rs`, `forward_session`. -/
  | forward (addr : SocketAddr) (pairCode : Option String) (upstream : String)
  /-- A connection to the backend, with tunnel requests intercepted; later tunnel connections send
  the selector. Source: `tunnel.rs`, `connect_backend` and `transport`. -/
  | transport (addr : SocketAddr) (pairCode : Option String)
      (upstream publicSerial selector : String)
  deriving DecidableEq

/-- The services the hub answers itself. Source: `session.rs`, `handle_client`, up to
`is_transport`. -/
def answerHubClient (snap : DeviceSnapshot) (order : List String) (service : String) :
    Option HubAction :=
  if service = "host:devices" ∨ service = "host:devices-l" then
    some (.answer (utf8 (snap.formatDevices (service = "host:devices-l"))))
  else if service = "host:track-devices" ∨ service = "host:track-devices-l" then
    some (.trackDevices (service = "host:track-devices-l"))
  else if service = "host:kill" then some .okayKill
  else if service = "host:get-state" ∨ service = "host:get-serialno" ∨
      service = "host:get-connection-state" then
    match pickPreferred snap order with
    | .ok entry =>
        some (.answer (utf8 (if service = "host:get-serialno" then entry.publicSerial
          else entry.state)))
    | .error reason => some (.refuse reason)
  else none

/-- The connection that a transport service of a remote device opens. -/
def remoteTransport (service : String) (snap : DeviceSnapshot) (order : List String) :
    Option HubAction :=
  match rewriteUpstreamService service snap order with
  | .ok (some (entry, upstream)) =>
      if entry.backendName ≠ "local" then
        some (.transport entry.backendAddr entry.pairCode upstream entry.publicSerial
          ("host:transport:" ++ entry.upstreamSerial))
      else none
  | _ => none

/-- Where every other service goes. Source: `session.rs`, `handle_client`, from `is_transport`
on. -/
def forwardHubClient (snap : DeviceSnapshot) (order : List String) (defaultBackend : SocketAddr)
    (defaultPairCode : Option String) (service : String) : HubAction :=
  match (if isTransport service then remoteTransport service snap order else none) with
  | some action => action
  | none =>
      match routeService service snap defaultBackend defaultPairCode order with
      | .ok (addr, pairCode, upstream) => .forward addr pairCode upstream
      | .error reason => .refuse reason

/-- What the hub does for a service, with the devices `snap`. Source: `session.rs`,
`handle_client`. -/
def handleClient (snap : DeviceSnapshot) (order : List String) (defaultBackend : SocketAddr)
    (defaultPairCode : Option String) (service : String) : HubAction :=
  (answerHubClient snap order service).getD
    (forwardHubClient snap order defaultBackend defaultPairCode service)

/-! ## Sessions with tunnels -/

/-- The request after the first service. Only `tunnel.rs`, `transport` looks at it. -/
def HubAction.onRequest (action : HubAction) (removes : UInt16 → Bool) (request : List UInt8) :
    FollowUp :=
  match action with
  | .transport _ _ _ serial _ => transportRequest serial none removes request
  | _ => .forward

/-- The request after the first service of a user's client. -/
def ClientAction.onRequest (action : ClientAction) (uid : Uid) (removes : UInt16 → Bool)
    (request : List UInt8) : FollowUp :=
  match action with
  | .transport _ _ serial _ => transportRequest serial (some uid) removes request
  | _ => .forward

/-- The session selects a device of a backend and its tunnel requests are intercepted. -/
structure HubAction.Intercepts (action : HubAction) (d : DeviceEntry) (upstream : String) :
    Prop where
  transport : action = .transport d.backendAddr d.pairCode upstream d.publicSerial
    ("host:transport:" ++ d.upstreamSerial)
  request : ∀ removes request, action.onRequest removes request =
    transportRequest d.publicSerial none removes request

/-- The session selects a device of a user's agent and its tunnel requests are intercepted. -/
structure ClientAction.Intercepts (action : ClientAction) (uid : Uid) (d : DeviceEntry)
    (routeId upstream : String) : Prop where
  transport : action = .transport routeId upstream d.publicSerial
    ("host:transport:" ++ d.upstreamSerial)
  request : ∀ removes request, action.onRequest uid removes request =
    transportRequest d.publicSerial (some uid) removes request

/-- The selectors without a colon after `host:transport`. -/
def dashSelectors : List String :=
  ["host:transport-any", "host:transport-usb", "host:transport-local"]

variable {service upstream : String} {snap : DeviceSnapshot} {order : List String} {d : DeviceEntry}

/-- What a service that names a transport begins with, nothing else begins with. -/
theorem ne_of_isTransport (h : isTransport service = true) {other : String}
    (hother : isTransport other = false) : service ≠ other := by
  rintro rfl
  rw [h] at hother
  cases hother

theorem isTransport_append {pre : String} (h : isTransport pre = true) (rest : String) :
    isTransport (pre ++ rest) = true := by
  simp only [isTransport, Bool.or_eq_true, startsWith_iff] at h ⊢
  rcases h with ⟨t, rfl⟩ | ⟨t, rfl⟩
  · exact .inl ⟨t ++ rest, String.append_assoc ..⟩
  · exact .inr ⟨t ++ rest, String.append_assoc ..⟩

/-- No service that is sent to a device under another name is one for a transport. -/
theorem not_isTransport_append {pre : String}
    (h : ∀ p ∈ ["host:tport:", "host:transport:"], ¬ p.toList <+: pre.toList ∧
      ¬ pre.toList <+: p.toList) (rest : String) : isTransport (pre ++ rest) = false := by
  rw [isTransport, Bool.or_eq_false_iff, Bool.eq_false_iff, Bool.eq_false_iff, Ne, Ne,
    startsWith_iff, startsWith_iff]
  constructor
  · rintro ⟨t, ht⟩
    exact append_ne_of_not_prefix (h _ (by simp)).2 (h _ (by simp)).1 rest t ht
  · rintro ⟨t, ht⟩
    exact append_ne_of_not_prefix (h _ (by simp)).2 (h _ (by simp)).1 rest t ht

theorem not_isTransport_dash : ∀ service ∈ dashSelectors, isTransport service = false := by decide

/-- **Which services name a transport**: of those that the rewriter takes for one, all but the
selectors without a colon. -/
theorem isTransport_iff (h : rewriteUpstreamService service snap order = .ok (some (d, upstream)))
    (hup : isTransport upstream = true) : isTransport service = true ↔ service ∉ dashSelectors := by
  have hserial : ∀ request : String,
      isTransport ("host-serial:" ++ d.upstreamSerial ++ ":" ++ request) = false := by
    intro request
    rw [String.append_assoc, String.append_assoc]
    exact not_isTransport_append (by decide) _
  cases rewrites_of_eq h with
  | anyTport _ _ hany _ | anyTransport _ _ hany _ =>
      simp only [isAnySelector, Bool.or_eq_true, decide_eq_true_eq] at hany
      rcases hany with ((((rfl | rfl) | rfl) | rfl) | rfl) | rfl <;> decide
  | tport serial _ _ =>
      have hservice : isTransport ("host:tport:serial:" ++ serial) = true :=
        isTransport_append (by decide) serial
      exact iff_of_true hservice fun hmem => ne_of_isTransport hservice
        (not_isTransport_dash _ hmem) rfl
  | transport serial _ _ =>
      have hservice : isTransport ("host:transport:" ++ serial) = true :=
        isTransport_append (by decide) serial
      exact iff_of_true hservice fun hmem => ne_of_isTransport hservice
        (not_isTransport_dash _ hmem) rfl
  | serial _ request _ _ | usb request _ _ | loc request _ _ | anyDevice request _ _ _ =>
      rw [hserial request] at hup
      cases hup
  | features _ _ hservice _ =>
      rcases hservice with rfl | rfl
      · exact absurd hup (by decide)
      · exact absurd hup (by decide)

/-! ## In both hubs -/

/-- The hub answers no transport service itself. -/
theorem answerHubClient_of_isTransport (h : isTransport service = true) :
    answerHubClient snap order service = none := by
  have hne : ∀ other, isTransport other = false → service ≠ other := fun _ => ne_of_isTransport h
  unfold answerHubClient
  rw [if_neg, if_neg, if_neg, if_neg]
  · rintro (h | h | h) <;> exact hne _ (by decide) h
  · exact hne _ (by decide)
  · rintro (h | h) <;> exact hne _ (by decide) h
  · rintro (h | h) <;> exact hne _ (by decide) h

/-- Nor does the daemon. -/
theorem answerClient_of_isTransport {adbVersion : UInt32} (h : isTransport service = true) :
    answerClient snap order adbVersion service = none := by
  have hne : ∀ other, isTransport other = false → service ≠ other := fun _ => ne_of_isTransport h
  have hunsafe : ¬ isUnsafeGlobalHost service = true := by
    simp only [isUnsafeGlobalHost, Bool.or_eq_true, decide_eq_true_eq, startsWith_iff]
    rintro ((h | h) | ⟨rest, hrest⟩)
    · exact hne _ (by decide) h
    · exact hne _ (by decide) h
    · exact hne _ (not_isTransport_append (by decide) rest) hrest
  unfold answerClient
  rw [if_neg, if_neg, if_neg, if_neg, if_neg, if_neg hunsafe]
  · rintro (h | h | h) <;> exact hne _ (by decide) h
  · exact hne _ (by decide)
  · exact hne _ (by decide)
  · rintro (h | h) <;> exact hne _ (by decide) h
  · rintro (h | h) <;> exact hne _ (by decide) h

theorem HubAction.intercepts_iff {action : HubAction} : action.Intercepts d upstream ↔
    action = .transport d.backendAddr d.pairCode upstream d.publicSerial
      ("host:transport:" ++ d.upstreamSerial) := by
  refine ⟨fun h => h.transport, fun h => ⟨h, fun removes request => ?_⟩⟩
  rw [h]
  rfl

theorem ClientAction.intercepts_iff {action : ClientAction} {uid : Uid} {routeId : String} :
    action.Intercepts uid d routeId upstream ↔
      action =
        .transport routeId upstream d.publicSerial ("host:transport:" ++ d.upstreamSerial) := by
  refine ⟨fun h => h.transport, fun h => ⟨h, fun removes request => ?_⟩⟩
  rw [h]
  rfl

/-- What the hub answers itself is no transport. -/
theorem answerHubClient_ne_transport {addr : SocketAddr} {pairCode : Option String}
    {serial selector : String} :
    answerHubClient snap order service ≠
      some (.transport addr pairCode upstream serial selector) := by
  intro h
  unfold answerHubClient at h
  rcases hpick : pickPreferred snap order with reason | entry
  · rw [hpick] at h
    split_ifs at h <;> cases h
  · rw [hpick] at h
    split_ifs at h <;> cases h

/-- The hub intercepts the tunnel requests of a session iff the service names a transport. -/
theorem handleClient_intercepts_iff {defaultBackend : SocketAddr} {defaultPairCode : Option String}
    (h : rewriteUpstreamService service snap order = .ok (some (d, upstream)))
    (hremote : d.backendName ≠ "local") :
    (handleClient snap order defaultBackend defaultPairCode service).Intercepts d upstream ↔
      isTransport service = true := by
  rw [HubAction.intercepts_iff]
  unfold handleClient
  constructor
  · intro haction
    by_contra hservice
    rcases hanswer : answerHubClient snap order service with _ | answer
    · rw [hanswer, Option.getD_none] at haction
      unfold forwardHubClient at haction
      rw [if_neg hservice] at haction
      rcases hroute : routeService service snap defaultBackend defaultPairCode order with
        reason | ⟨addr, pairCode, up⟩
      · rw [hroute] at haction
        cases haction
      · rw [hroute] at haction
        cases haction
    · rw [hanswer, Option.getD_some] at haction
      rw [haction] at hanswer
      exact answerHubClient_ne_transport hanswer
  · intro hservice
    rw [answerHubClient_of_isTransport hservice, Option.getD_none]
    unfold forwardHubClient remoteTransport
    rw [if_pos hservice, h]
    simp only [if_pos hremote]

/-- What the daemon answers itself is no transport. -/
theorem answerClient_ne_transport {adbVersion : UInt32} {routeId serial selector : String} :
    answerClient snap order adbVersion service ≠
      some (.transport routeId upstream serial selector) := by
  intro h
  have hroute := route_answerClient h
  cases hroute

/-- The daemon intercepts the tunnel requests of a session iff the service names a transport. -/
theorem serveClient_intercepts_iff {localBackend : Option BackendConfig} {adbVersion : UInt32}
    {uid : Uid} {routeId : String}
    (h : rewriteUpstreamService service snap (backendOrder snap localBackend) =
      .ok (some (d, upstream)))
    (hremote : d.routeId = some routeId) :
    (serveClient snap localBackend adbVersion service).Intercepts uid d routeId upstream ↔
      isTransport service = true := by
  rw [ClientAction.intercepts_iff]
  unfold serveClient
  dsimp only
  constructor
  · intro haction
    by_contra hservice
    rcases hanswer : answerClient snap (backendOrder snap localBackend) adbVersion service with
      _ | answer
    · rw [hanswer, Option.getD_none] at haction
      unfold forwardClient at haction
      rw [if_neg hservice] at haction
      rcases hroute : routeMulti service snap (backendOrder snap localBackend) localBackend with
        reason | ⟨addr, up⟩ | ⟨routeId', up⟩
      · rw [hroute] at haction
        cases haction
      · rw [hroute] at haction
        cases haction
      · rw [hroute] at haction
        cases haction
    · rw [hanswer, Option.getD_some] at haction
      rw [haction] at hanswer
      exact answerClient_ne_transport hanswer
  · intro hservice
    rw [answerClient_of_isTransport hservice, Option.getD_none]
    unfold forwardClient privateTransport
    rw [if_pos hservice, h]
    simp only [hremote, Option.map_some]

/-- **Tunnels of remote devices, exactly.** Whatever the devices and the preference order, in the
single-user hub and in the daemon: a session for which the rewriter selects a remote device by a
transport request is handled by `tunnel::transport`, so that each request after it is intercepted,
iff its service is none of the selectors without a colon.
Source: `tunnel.rs`, `is_transport`, `session.rs`, `handle_client`, and `daemon.rs`,
`handle_adb_client` -/
theorem transport_handled_iff (service : String) (snap : DeviceSnapshot) (order : List String)
    (defaultBackend : SocketAddr) (defaultPairCode : Option String)
    (localBackend : Option BackendConfig) (adbVersion : UInt32) (uid : Uid) :
    (∀ d upstream, rewriteUpstreamService service snap order = .ok (some (d, upstream)) →
      isTransport upstream = true → d.backendName ≠ "local" →
        ((handleClient snap order defaultBackend defaultPairCode service).Intercepts d upstream ↔
          service ∉ dashSelectors)) ∧
      ∀ d upstream routeId,
        rewriteUpstreamService service snap (backendOrder snap localBackend) =
          .ok (some (d, upstream)) →
        isTransport upstream = true → d.routeId = some routeId →
          ((serveClient snap localBackend adbVersion service).Intercepts uid d routeId upstream ↔
            service ∉ dashSelectors) := by
  constructor
  · intro d upstream h hup hremote
    rw [handleClient_intercepts_iff h hremote]
    exact isTransport_iff h hup
  · intro d upstream routeId h hup hremote
    rw [serveClient_intercepts_iff h hremote]
    exact isTransport_iff h hup

/-- A remote device, without and with a user's agent. -/
def officePhone (routeId : Option String) : DeviceEntry :=
  { publicSerial := "ABC", upstreamSerial := "ABC", backendName := "office",
    backendAddr := .loopback 5038, pairCode := none, state := "device", extras := "",
    routeId := routeId }

/-- Selected by its serial, a remote device gets its tunnels in both hubs. -/
theorem phone_by_serial_intercepted :
    (handleClient ⟨[officePhone none]⟩ ["office"] (.loopback 5039) none
        "host:transport:ABC").Intercepts (officePhone none) "host:transport:ABC" ∧
      (serveClient ⟨[officePhone (some "r1")]⟩ none 41 "host:transport:ABC").Intercepts 1000
        (officePhone (some "r1")) "r1" "host:transport:ABC" := by
  have hhub := (transport_handled_iff "host:transport:ABC" ⟨[officePhone none]⟩ ["office"]
    (.loopback 5039) none none 41 1000).1 (officePhone none) "host:transport:ABC"
    (by decide +kernel) (by decide) (by decide)
  have hdaemon := (transport_handled_iff "host:transport:ABC" ⟨[officePhone (some "r1")]⟩ []
    (.loopback 5039) none none 41 1000).2 (officePhone (some "r1")) "host:transport:ABC" "r1"
    (by decide +kernel) (by decide) rfl
  exact ⟨hhub.mpr (by decide), hdaemon.mpr (by decide)⟩

/-- Selected as any device, it does not. -/
theorem any_phone_not_intercepted :
    ¬ ∀ (service : String) (snap : DeviceSnapshot) (order : List String)
      (defaultBackend : SocketAddr) (defaultPairCode : Option String)
      (localBackend : Option BackendConfig) (adbVersion : UInt32) (uid : Uid),
      (∀ d upstream, rewriteUpstreamService service snap order = .ok (some (d, upstream)) →
        isTransport upstream = true → d.backendName ≠ "local" →
          (handleClient snap order defaultBackend defaultPairCode service).Intercepts d
            upstream) ∧
        ∀ d upstream routeId,
          rewriteUpstreamService service snap (backendOrder snap localBackend) =
            .ok (some (d, upstream)) →
          isTransport upstream = true → d.routeId = some routeId →
            (serveClient snap localBackend adbVersion service).Intercepts uid d routeId
              upstream := by
  intro h
  have hhub := (h "host:transport-any" ⟨[officePhone none]⟩ ["office"] (.loopback 5039) none none 41
    1000).1 (officePhone none) "host:transport:ABC" (by decide +kernel) (by decide) (by decide)
  have haction : handleClient ⟨[officePhone none]⟩ ["office"] (.loopback 5039) none
      "host:transport-any" = .forward (.loopback 5038) none "host:transport:ABC" := by
    decide +kernel
  rw [HubAction.intercepts_iff, haction] at hhub
  cases hhub

end AdbHub
