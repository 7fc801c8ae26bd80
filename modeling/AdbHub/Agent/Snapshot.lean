import AdbHub.HubPolicy
import AdbHub.Ipc

/-!
# What an agent reports

The second half of `refresh_and_publish` (`agent.rs`): from the device lists of the enabled
backends to the reported devices and the table of routes the agent keeps for itself.

* `sanitize` and `refreshRoutes` — a device as the daemon gets to see it, and where its streams go.
* `agentSnapshot` — the list the daemon stores for the report.
-/

namespace AdbHub

/-- Where the agent opens the streams of a route. Source: `agent.rs`, `RouteEntry`. -/
structure RouteEntry where
  addr : SocketAddr
  pairCode : Option String
  upstreamSerial : String
  deriving DecidableEq

/-- The route token of a device. Source: `agent.rs`, `refresh_and_publish`, `route_id`. -/
def routeIdOf (d : DeviceEntry) : String := d.backendName ++ ":" ++ d.upstreamSerial

/-- A device without address and pair code. Source: `agent.rs`, `refresh_and_publish`. -/
def sanitize (d : DeviceEntry) : SanitizedDevice :=
  { publicSerial := d.publicSerial
    upstreamSerial := d.upstreamSerial
    state := d.state
    extras := d.extras
    backendName := d.backendName
    routeId := routeIdOf d }

/-- The routes of a snapshot; a later device replaces the route of an earlier one with the same
token. Source: `agent.rs`, `refresh_and_publish`, `new_routes`. -/
def refreshRoutes (snap : DeviceSnapshot) : AList fun _ : String => RouteEntry :=
  snap.devices.foldl
    (fun routes d => routes.insert (routeIdOf d) ⟨d.backendAddr, d.pairCode, d.upstreamSerial⟩) ∅

/-- What the agent shows of its backends. Source: `agent.rs`, `refresh_and_publish`, `snap`. -/
def agentView (policy : HubPolicySnapshot) (lists : List (BackendConfig × String)) :
    DeviceSnapshot :=
  policy.filterSnapshot (mergeDeviceLists lists)

/-- The devices in the published message. Source: `agent.rs`, `refresh_and_publish`,
`sanitized`. -/
def publishedDevices (policy : HubPolicySnapshot) (lists : List (BackendConfig × String)) :
    List SanitizedDevice :=
  (agentView policy lists).devices.map sanitize

/-- The list the daemon stores for what an agent published. -/
def agentSnapshot (policy : HubPolicySnapshot) (lists : List (BackendConfig × String)) :
    DeviceSnapshot :=
  sanitizedToSnapshot (publishedDevices policy lists)

end AdbHub
