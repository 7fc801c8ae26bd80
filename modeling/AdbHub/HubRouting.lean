import AdbHub.HubPolicy
import AdbHub.Session

/-!
# Routing in the single-user hub

Where the single-user hub sends a service (`session.rs`, `route_service`): the devices of all
backends in one merged and filtered list, the rewriter, and the default backend for the rest.

* `routeService` — address, pair code and service of the upstream connection.
* `UpstreamFor` — the services that a backend may get for what its own list reports.
* **`routed_to_reporting_backend`** — a service goes unchanged to the default backend with the
  default pair code, or to an enabled backend with that backend's own pair code, for a serial that
  this backend reported.
-/

namespace AdbHub

open Lib

/-- Which backend gets a service, with which pair code, and the service to send upstream.
Source: `session.rs`, `route_service`. -/
def routeService (service : String) (snap : DeviceSnapshot) (defaultBackend : SocketAddr)
    (defaultPairCode : Option String) (backendOrder : List String) :
    Except String (SocketAddr × Option String × String) := do
  match ← rewriteUpstreamService service snap backendOrder with
  | some (entry, upstream) => .ok (entry.backendAddr, entry.pairCode, upstream)
  -- opaque forward to the default backend (local adb or first remote)
  | none => .ok (defaultBackend, defaultPairCode, service)

/-- The services that a backend with this list may get instead of `service`. -/
inductive UpstreamFor (service body : String) : String → Prop
  | features : service = "host:features" ∨ service = "host:host-features" →
      UpstreamFor service body service
  | transport (serial : String) : Reports body serial "device" →
      UpstreamFor service body ("host:transport:" ++ serial)
  | tport (serial : String) : Reports body serial "device" →
      UpstreamFor service body ("host:tport:serial:" ++ serial)
  | hostSerial (serial state request : String) : Reports body serial state →
      UpstreamFor service body ("host-serial:" ++ serial ++ ":" ++ request)

/-- A device that the hub shows was reported by an enabled backend, and carries the address and
the pair code of that one. -/
theorem exists_backend_of_shown {lists : List (BackendConfig × String)}
    {policy : HubPolicySnapshot} {d : DeviceEntry}
    (hd : d ∈ (policy.filterSnapshot (mergeDeviceLists lists)).devices) :
    ∃ backend body, (backend, body) ∈ lists ∧ policy.backendEnabled backend.name = true ∧
      d.backendAddr = backend.addr ∧ d.pairCode = backend.pairCode ∧
      Reports body d.upstreamSerial d.state := by
  unfold HubPolicySnapshot.filterSnapshot at hd
  obtain ⟨hmerged, hallowed⟩ := List.mem_filter.mp hd
  obtain ⟨p, hp, hentry⟩ := exists_parsed_of_mem hmerged
  obtain ⟨body, hlist, hreports⟩ := exists_body_of_parsed hp
  obtain ⟨henabled, -⟩ := Bool.and_eq_true_iff.mp hallowed
  unfold IsEntryOf at hentry
  rw [hentry] at henabled ⊢
  exact ⟨p.backend, body, hlist, henabled, rfl, rfl, hreports⟩

/-- What a service is rewritten to is a service for the device that was chosen. -/
theorem Rewrites.upstreamFor {snap : DeviceSnapshot} {backendOrder : List String}
    {service upstream body : String} {d : DeviceEntry}
    (h : Rewrites snap backendOrder service d upstream)
    (hd : Reports body d.upstreamSerial d.state) : UpstreamFor service body upstream := by
  cases h with
  | anyTport _ _ _ hp =>
      rw [state_of_pickPreferred hp] at hd
      exact .tport _ hd
  | anyTransport _ _ _ hp =>
      rw [state_of_pickPreferred hp] at hd
      exact .transport _ hd
  | tport _ _ hl =>
      rw [state_of_lookupOnline hl] at hd
      exact .tport _ hd
  | transport _ _ hl =>
      rw [state_of_lookupOnline hl] at hd
      exact .transport _ hd
  | serial _ request => exact .hostSerial _ _ request hd
  | usb request => exact .hostSerial _ _ request hd
  | loc request => exact .hostSerial _ _ request hd
  | features _ _ hservice => exact .features hservice
  | anyDevice request => exact .hostSerial _ _ request hd

/-- **No service reaches a backend with the pair code of another one**, or for a serial which that
backend never reported: it is sent unchanged to the default backend with the default pair code, or
to some enabled backend of the lists with its own pair code.
Source: `session.rs`, `route_service` -/
theorem routed_to_reporting_backend {service : String} {lists : List (BackendConfig × String)}
    {policy : HubPolicySnapshot} {defaultBackend addr : SocketAddr}
    {defaultPairCode code : Option String} {backendOrder : List String} {upstream : String}
    (h : routeService service (policy.filterSnapshot (mergeDeviceLists lists)) defaultBackend
      defaultPairCode backendOrder = .ok (addr, code, upstream)) :
    (addr = defaultBackend ∧ code = defaultPairCode ∧ upstream = service) ∨
      ∃ (i : ℕ) (backend : BackendConfig) (body : String), lists[i]? = some (backend, body) ∧
        addr = backend.addr ∧ code = backend.pairCode ∧ policy.backendEnabled backend.name = true ∧
        UpstreamFor service body upstream := by
  unfold routeService at h
  obtain ⟨_ | ⟨d, u⟩, hrw, h⟩ := bind_eq_ok h
  · left
    obtain ⟨rfl, hrest⟩ := Prod.mk.inj (Except.ok.inj h)
    obtain ⟨rfl, rfl⟩ := Prod.mk.inj hrest
    exact ⟨rfl, rfl, rfl⟩
  · right
    obtain ⟨rfl, hrest⟩ := Prod.mk.inj (Except.ok.inj h)
    obtain ⟨rfl, rfl⟩ := Prod.mk.inj hrest
    have hrewrites := rewrites_of_eq hrw
    obtain ⟨backend, body, hlist, henabled, haddr, hcode, hreports⟩ :=
      exists_backend_of_shown hrewrites.mem
    obtain ⟨i, hi⟩ := List.mem_iff_getElem?.mp hlist
    exact ⟨i, backend, body, hi, haddr, hcode, henabled, hrewrites.upstreamFor hreports⟩

/-- The device that two backends report is reached through the backend that its public serial
names. -/
theorem routed_to_office :
    routeService "host:transport:office:ABC"
        (HubPolicySnapshot.empty.filterSnapshot (mergeDeviceLists conflictLists)) (.loopback 5039)
        none ["local", "office", "lab"] =
      .ok (.loopback 5038, some "ABCD1234", "host:transport:ABC") ∧
    ((SocketAddr.loopback 5038 = SocketAddr.loopback 5039 ∧ some "ABCD1234" = none ∧
        "host:transport:ABC" = "host:transport:office:ABC") ∨
      ∃ (i : ℕ) (backend : BackendConfig) (body : String),
        conflictLists[i]? = some (backend, body) ∧
        SocketAddr.loopback 5038 = backend.addr ∧ some "ABCD1234" = backend.pairCode ∧
        HubPolicySnapshot.empty.backendEnabled backend.name = true ∧
        UpstreamFor "host:transport:office:ABC" body "host:transport:ABC") := by
  have h : routeService "host:transport:office:ABC"
      (HubPolicySnapshot.empty.filterSnapshot (mergeDeviceLists conflictLists)) (.loopback 5039)
      none ["local", "office", "lab"] =
        .ok (.loopback 5038, some "ABCD1234", "host:transport:ABC") := by
    decide +kernel
  exact ⟨h, routed_to_reporting_backend h⟩

end AdbHub
