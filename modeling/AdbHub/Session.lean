import AdbHub.Registry
import AdbHub.Lib.Effect

/-!
# Routing a host service to a device

How a client's service string selects a device of a snapshot and becomes the service sent
upstream (`session.rs`).

* `pickPreferred` — the device meant when the client names none.
* `rewriteUpstreamService` — the chain of prefix tests, in the source's order.
* `Rewrites` — why a service is sent to a device, with `rewrites_of_eq`: each answer of the rewriter
  is one of these.
* `NamingUnambiguous` — public serials are pairwise distinct, and none followed by `:` begins
  another one.
* `RoutesToItself` — all three ways of naming a device by its serial lead to that device.
* **`routesToItself_iff`** — under unambiguous naming an online device is routed to by all three
  forms exactly when its public serial contains no `:`. The transport forms always work
  (`rewrite_transport`, `rewrite_tport_serial`); `host-serial:` splits at the first `:`, so it
  looks up a proper prefix of a serial that contains one.
-/

namespace AdbHub

open Lib

/-! ## The preferred device -/

/-- Why a backend offers no device. Source: `session.rs`, `PickBackendErr`. -/
inductive PickBackendErr
  | none
  | many
  deriving DecidableEq

/-- The one online device of a backend. Source: `session.rs`, `pick_one_on_backend`. -/
def pickOneOnBackend (snap : DeviceSnapshot) (backendName : String) :
    Except PickBackendErr DeviceEntry :=
  match snap.devices.filter fun d => d.backendName = backendName && d.state = "device" with
  | [] => .error .none
  | [d] => .ok d
  | _ => .error .many

/-- The order in which the backends are tried: local first when it is known, then the configured
order, then the backends that only the snapshot knows. Source: `session.rs`, `pick_preferred`. -/
def preferenceOrder (snap : DeviceSnapshot) (backendOrder : List String) : List String :=
  let order : List String :=
    if backendOrder.any (· = "local") || snap.devices.any (·.backendName = "local")
    then ["local"] else []
  let order := backendOrder.foldl (fun order name =>
    if name = "local" then order else if name ∈ order then order else order ++ [name]) order
  snap.devices.foldl (fun order d =>
    if d.backendName ∈ order then order else order ++ [d.backendName]) order

/-- Walk the backends; the first with online devices must have exactly one. -/
def pickAlong (snap : DeviceSnapshot) : List String → Except String DeviceEntry
  | [] => .error "no devices/emulators found"
  | name :: rest =>
      match pickOneOnBackend snap name with
      | .ok d => .ok d
      | .error .none => pickAlong snap rest
      | .error .many => .error ("more than one device/emulator on backend '" ++ name ++ "'")

/-- The device meant when the client passes no `-s`. Source: `session.rs`, `pick_preferred`. -/
def pickPreferred (snap : DeviceSnapshot) (backendOrder : List String) :
    Except String DeviceEntry :=
  pickAlong snap (preferenceOrder snap backendOrder)

/-! ## The rewriter -/

/-- Source: `session.rs`, `lookup_device`. -/
def lookupDevice (snap : DeviceSnapshot) (publicSerial : String) : Except String DeviceEntry :=
  match snap.find publicSerial with
  | some d => .ok d
  | none => .error ("device '" ++ publicSerial ++ "' not found")

/-- Source: `session.rs`, `lookup_online`. -/
def lookupOnline (snap : DeviceSnapshot) (publicSerial : String) : Except String DeviceEntry := do
  let entry ← lookupDevice snap publicSerial
  if entry.state ≠ "device" then
    .error ("device '" ++ publicSerial ++ "' is not online (" ++ entry.state ++ ")")
  else .ok entry

/-- The exact selectors that name no serial. -/
def isAnySelector (service : String) : Bool :=
  service = "host:tport:any" || service = "host:tport:usb" || service = "host:tport:local" ||
    service = "host:transport-any" || service = "host:transport-usb" ||
    service = "host:transport-local"

/-- The `host:` requests that mean any single device. -/
def isAnyDeviceRequest (request : String) : Bool :=
  request = "get-state" || request = "get-serialno" || request = "get-devpath" ||
    request = "get-connection-state"

/-- The device a service is for and the service to send upstream; `none` for services that are
not device-scoped. Source: `session.rs`, `rewrite_upstream_service`. -/
def rewriteUpstreamService (service : String) (snap : DeviceSnapshot)
    (backendOrder : List String) : Except String (Option (DeviceEntry × String)) :=
  -- exact selectors come before the prefixes, or `transport-any` would name a serial
  if isAnySelector service then do
    let entry ← pickPreferred snap backendOrder
    if startsWith service "host:tport:" then
      .ok (some (entry, "host:tport:serial:" ++ entry.upstreamSerial))
    else .ok (some (entry, "host:transport:" ++ entry.upstreamSerial))
  else if let some serial := stripPrefix service "host:tport:serial:" then do
    let entry ← lookupOnline snap serial
    .ok (some (entry, "host:tport:serial:" ++ entry.upstreamSerial))
  else if let some serial := stripPrefix service "host:transport:" then do
    let entry ← lookupOnline snap serial
    .ok (some (entry, "host:transport:" ++ entry.upstreamSerial))
  else if let some rest := stripPrefix service "host-serial:" then
    match splitOnce rest ':' with
    | none => .error "invalid host-serial service"
    | some (serial, request) => do
        let entry ← lookupDevice snap serial
        .ok (some (entry, "host-serial:" ++ entry.upstreamSerial ++ ":" ++ request))
  else if let some request := stripPrefix service "host-usb:" then do
    let entry ← pickPreferred snap backendOrder
    .ok (some (entry, "host-serial:" ++ entry.upstreamSerial ++ ":" ++ request))
  else if let some request := stripPrefix service "host-local:" then do
    let entry ← pickPreferred snap backendOrder
    .ok (some (entry, "host-serial:" ++ entry.upstreamSerial ++ ":" ++ request))
  else
    -- features follow the preferred device when there is one
    match (if service = "host:features" || service = "host:host-features" then
        (pickPreferred snap backendOrder).toOption else none) with
    | some entry => .ok (some (entry, service))
    | none =>
        match stripPrefix service "host:" with
        | some request =>
            if isAnyDeviceRequest request then do
              let entry ← pickPreferred snap backendOrder
              .ok (some (entry, "host-serial:" ++ entry.upstreamSerial ++ ":" ++ request))
            else .ok none
        | none => .ok none

/-! ## Which test a service that names a serial meets -/

/-- No service with a serial behind its prefix is one of the exact selectors. -/
theorem isAnySelector_append (pre serial : String)
    (h : ∀ w ∈ ["host:tport:any", "host:tport:usb", "host:tport:local", "host:transport-any",
      "host:transport-usb", "host:transport-local"], ¬ pre.toList <+: String.toList w) :
    isAnySelector (pre ++ serial) = false := by
  have hne : ∀ w ∈ ["host:tport:any", "host:tport:usb", "host:tport:local", "host:transport-any",
      "host:transport-usb", "host:transport-local"], pre ++ serial ≠ w := by
    rintro w hw rfl
    exact h _ hw ⟨serial.toList, by simp⟩
  simp only [List.forall_mem_cons, List.not_mem_nil, false_implies, implies_true,
    and_true] at hne
  simp [isAnySelector, hne]

theorem rewrite_tport_serial_eq (serial : String) (snap : DeviceSnapshot)
    (backendOrder : List String) :
    rewriteUpstreamService ("host:tport:serial:" ++ serial) snap backendOrder =
      (do let entry ← lookupOnline snap serial
          .ok (some (entry, "host:tport:serial:" ++ entry.upstreamSerial))) := by
  have hsel := isAnySelector_append "host:tport:serial:" serial (by decide)
  simp only [rewriteUpstreamService, hsel, stripPrefix_append, Bool.false_eq_true, if_false]

theorem rewrite_transport_eq (serial : String) (snap : DeviceSnapshot)
    (backendOrder : List String) :
    rewriteUpstreamService ("host:transport:" ++ serial) snap backendOrder =
      (do let entry ← lookupOnline snap serial
          .ok (some (entry, "host:transport:" ++ entry.upstreamSerial))) := by
  have hsel := isAnySelector_append "host:transport:" serial (by decide)
  have htport : stripPrefix ("host:transport:" ++ serial) "host:tport:serial:" = none :=
    stripPrefix_append_eq_none (by decide) (by decide) serial
  simp only [rewriteUpstreamService, hsel, htport, stripPrefix_append, Bool.false_eq_true,
    if_false]

theorem rewrite_host_serial_eq (rest : String) (snap : DeviceSnapshot)
    (backendOrder : List String) :
    rewriteUpstreamService ("host-serial:" ++ rest) snap backendOrder =
      (match splitOnce rest ':' with
        | none => .error "invalid host-serial service"
        | some (serial, request) => do
            let entry ← lookupDevice snap serial
            .ok (some (entry, "host-serial:" ++ entry.upstreamSerial ++ ":" ++ request))) := by
  have hsel := isAnySelector_append "host-serial:" rest (by decide)
  have htport : stripPrefix ("host-serial:" ++ rest) "host:tport:serial:" = none :=
    stripPrefix_append_eq_none (by decide) (by decide) rest
  have htransport : stripPrefix ("host-serial:" ++ rest) "host:transport:" = none :=
    stripPrefix_append_eq_none (by decide) (by decide) rest
  simp only [rewriteUpstreamService, hsel, htport, htransport, stripPrefix_append,
    Bool.false_eq_true, if_false]

/-- A service that begins with `host-usb:` or `host-local:` is for the preferred device. -/
theorem rewrite_any_prefix_eq {pre : String} (h : pre = "host-usb:" ∨ pre = "host-local:")
    (request : String) (snap : DeviceSnapshot) (backendOrder : List String) :
    rewriteUpstreamService (pre ++ request) snap backendOrder =
      (do let entry ← pickPreferred snap backendOrder
          .ok (some (entry, "host-serial:" ++ entry.upstreamSerial ++ ":" ++ request))) := by
  rcases h with rfl | rfl
  · have hsel := isAnySelector_append "host-usb:" request (by decide)
    have htport : stripPrefix ("host-usb:" ++ request) "host:tport:serial:" = none :=
      stripPrefix_append_eq_none (by decide) (by decide) request
    have htransport : stripPrefix ("host-usb:" ++ request) "host:transport:" = none :=
      stripPrefix_append_eq_none (by decide) (by decide) request
    have hserial : stripPrefix ("host-usb:" ++ request) "host-serial:" = none :=
      stripPrefix_append_eq_none (by decide) (by decide) request
    simp only [rewriteUpstreamService, hsel, htport, htransport, hserial, stripPrefix_append,
      Bool.false_eq_true, if_false]
  · have hsel := isAnySelector_append "host-local:" request (by decide)
    have htport : stripPrefix ("host-local:" ++ request) "host:tport:serial:" = none :=
      stripPrefix_append_eq_none (by decide) (by decide) request
    have htransport : stripPrefix ("host-local:" ++ request) "host:transport:" = none :=
      stripPrefix_append_eq_none (by decide) (by decide) request
    have hserial : stripPrefix ("host-local:" ++ request) "host-serial:" = none :=
      stripPrefix_append_eq_none (by decide) (by decide) request
    have husb : stripPrefix ("host-local:" ++ request) "host-usb:" = none :=
      stripPrefix_append_eq_none (by decide) (by decide) request
    simp only [rewriteUpstreamService, hsel, htport, htransport, hserial, husb, stripPrefix_append,
      Bool.false_eq_true, if_false]

/-- The prefixes of the services that are for a device. -/
def devicePrefixes : List String :=
  ["host:tport:serial:", "host:transport:", "host-serial:", "host-usb:", "host-local:"]

/-- A service of none of the forms that are for a device is not rewritten. -/
theorem rewrite_unscoped {service : String} (hsel : isAnySelector service = false)
    (hpre : ∀ pre ∈ devicePrefixes, stripPrefix service pre = none)
    (hhost : stripPrefix service "host:" = none) (snap : DeviceSnapshot)
    (backendOrder : List String) :
    rewriteUpstreamService service snap backendOrder = .ok none := by
  have hfeatures : ¬ (service = "host:features" ∨ service = "host:host-features") := by
    have hne := stripPrefix_eq_none_iff.mp hhost
    rintro (rfl | rfl)
    · exact hne "features" (by decide)
    · exact hne "host-features" (by decide)
  simp only [devicePrefixes, List.forall_mem_cons, List.not_mem_nil, false_implies, implies_true,
    and_true] at hpre
  obtain ⟨h₁, h₂, h₃, h₄, h₅⟩ := hpre
  simp [rewriteUpstreamService, hsel, h₁, h₂, h₃, h₄, h₅, hhost, hfeatures]

/-! ## What the rewriter can answer -/

/-- Why a service is sent to a device, and as what. -/
inductive Rewrites (snap : DeviceSnapshot) (backendOrder : List String) :
    String → DeviceEntry → String → Prop
  /-- Any device, by transport id. -/
  | anyTport (service : String) (d : DeviceEntry) : isAnySelector service = true →
      pickPreferred snap backendOrder = .ok d →
      Rewrites snap backendOrder service d ("host:tport:serial:" ++ d.upstreamSerial)
  /-- Any device. -/
  | anyTransport (service : String) (d : DeviceEntry) : isAnySelector service = true →
      pickPreferred snap backendOrder = .ok d →
      Rewrites snap backendOrder service d ("host:transport:" ++ d.upstreamSerial)
  | tport (serial : String) (d : DeviceEntry) : lookupOnline snap serial = .ok d →
      Rewrites snap backendOrder ("host:tport:serial:" ++ serial) d
        ("host:tport:serial:" ++ d.upstreamSerial)
  | transport (serial : String) (d : DeviceEntry) : lookupOnline snap serial = .ok d →
      Rewrites snap backendOrder ("host:transport:" ++ serial) d
        ("host:transport:" ++ d.upstreamSerial)
  | serial (serial request : String) (d : DeviceEntry) : ':' ∉ serial.toList →
      lookupDevice snap serial = .ok d →
      Rewrites snap backendOrder ("host-serial:" ++ (serial ++ ":" ++ request)) d
        ("host-serial:" ++ d.upstreamSerial ++ ":" ++ request)
  | usb (request : String) (d : DeviceEntry) : pickPreferred snap backendOrder = .ok d →
      Rewrites snap backendOrder ("host-usb:" ++ request) d
        ("host-serial:" ++ d.upstreamSerial ++ ":" ++ request)
  | loc (request : String) (d : DeviceEntry) : pickPreferred snap backendOrder = .ok d →
      Rewrites snap backendOrder ("host-local:" ++ request) d
        ("host-serial:" ++ d.upstreamSerial ++ ":" ++ request)
  | features (service : String) (d : DeviceEntry) :
      service = "host:features" ∨ service = "host:host-features" →
      pickPreferred snap backendOrder = .ok d → Rewrites snap backendOrder service d service
  | anyDevice (request : String) (d : DeviceEntry) : isAnyDeviceRequest request = true →
      pickPreferred snap backendOrder = .ok d →
      Rewrites snap backendOrder ("host:" ++ request) d
        ("host-serial:" ++ d.upstreamSerial ++ ":" ++ request)

/-- **The answers of the rewriter**, one for each test of its chain. -/
theorem rewrites_of_eq {service : String} {snap : DeviceSnapshot} {backendOrder : List String}
    {d : DeviceEntry} {upstream : String}
    (h : rewriteUpstreamService service snap backendOrder = .ok (some (d, upstream))) :
    Rewrites snap backendOrder service d upstream := by
  unfold rewriteUpstreamService at h
  split at h
  · rename_i hsel
    obtain ⟨e, he, h⟩ := bind_eq_ok h
    split at h
    · obtain ⟨rfl, rfl⟩ := Prod.mk.inj (Option.some.inj (Except.ok.inj h))
      exact .anyTport service e hsel he
    · obtain ⟨rfl, rfl⟩ := Prod.mk.inj (Option.some.inj (Except.ok.inj h))
      exact .anyTransport service e hsel he
  split at h
  · rename_i serial hserial
    obtain ⟨e, he, h⟩ := bind_eq_ok h
    obtain ⟨rfl, rfl⟩ := Prod.mk.inj (Option.some.inj (Except.ok.inj h))
    rw [stripPrefix_eq_some_iff.mp hserial]
    exact .tport serial e he
  split at h
  · rename_i serial hserial
    obtain ⟨e, he, h⟩ := bind_eq_ok h
    obtain ⟨rfl, rfl⟩ := Prod.mk.inj (Option.some.inj (Except.ok.inj h))
    rw [stripPrefix_eq_some_iff.mp hserial]
    exact .transport serial e he
  split at h
  · rename_i rest hrest
    split at h
    · simp at h
    · rename_i serial request hsplit
      obtain ⟨e, he, h⟩ := bind_eq_ok h
      obtain ⟨rfl, rfl⟩ := Prod.mk.inj (Option.some.inj (Except.ok.inj h))
      obtain ⟨rfl, hfree⟩ := splitOnce_eq_some_iff.mp hsplit
      rw [stripPrefix_eq_some_iff.mp hrest]
      exact .serial serial request e hfree he
  split at h
  · rename_i request hrequest
    obtain ⟨e, he, h⟩ := bind_eq_ok h
    obtain ⟨rfl, rfl⟩ := Prod.mk.inj (Option.some.inj (Except.ok.inj h))
    rw [stripPrefix_eq_some_iff.mp hrequest]
    exact .usb request e he
  split at h
  · rename_i request hrequest
    obtain ⟨e, he, h⟩ := bind_eq_ok h
    obtain ⟨rfl, rfl⟩ := Prod.mk.inj (Option.some.inj (Except.ok.inj h))
    rw [stripPrefix_eq_some_iff.mp hrequest]
    exact .loc request e he
  split at h
  · rename_i e hfeatures
    obtain ⟨rfl, rfl⟩ := Prod.mk.inj (Option.some.inj (Except.ok.inj h))
    split_ifs at hfeatures with hservice
    rcases hpick : pickPreferred snap backendOrder with reason | e'
    · rw [hpick] at hfeatures
      simp [Except.toOption] at hfeatures
    · rw [hpick] at hfeatures
      obtain rfl := Option.some.inj hfeatures
      exact .features service e' (by simpa using hservice) hpick
  split at h
  · rename_i request hrequest
    split at h
    · rename_i hany
      obtain ⟨e, he, h⟩ := bind_eq_ok h
      obtain ⟨rfl, rfl⟩ := Prod.mk.inj (Option.some.inj (Except.ok.inj h))
      rw [stripPrefix_eq_some_iff.mp hrequest]
      exact .anyDevice request e hany he
    · simp at h
  · simp at h

section members

variable {snap : DeviceSnapshot} {d : DeviceEntry}

theorem mem_of_lookupDevice {serial : String} (h : lookupDevice snap serial = .ok d) :
    d ∈ snap.devices := by
  unfold lookupDevice at h
  rcases hf : snap.find serial with _ | e
  · rw [hf] at h
    simp at h
  · rw [hf] at h
    obtain rfl := Except.ok.inj h
    exact List.mem_of_find?_eq_some hf

theorem mem_of_lookupOnline {serial : String} (h : lookupOnline snap serial = .ok d) :
    d ∈ snap.devices := by
  unfold lookupOnline at h
  obtain ⟨e, he, h⟩ := bind_eq_ok h
  split_ifs at h
  obtain rfl := Except.ok.inj h
  exact mem_of_lookupDevice he

/-- The device a backend offers is one of its online devices. -/
theorem online_of_pickOneOnBackend {name : String} (h : pickOneOnBackend snap name = .ok d) :
    d ∈ snap.devices ∧ d.state = "device" := by
  unfold pickOneOnBackend at h
  split at h
  · simp at h
  · rename_i e hfilter
    obtain rfl := Except.ok.inj h
    have hmem := List.mem_singleton.mpr (rfl : e = e)
    rw [← hfilter, List.mem_filter] at hmem
    obtain ⟨he, honline⟩ := hmem
    simp only [Bool.and_eq_true, decide_eq_true_eq] at honline
    exact ⟨he, honline.2⟩
  · simp at h

theorem online_of_pickAlong {order : List String} (h : pickAlong snap order = .ok d) :
    d ∈ snap.devices ∧ d.state = "device" := by
  induction order with
  | nil =>
      unfold pickAlong at h
      simp at h
  | cons name rest ih =>
      unfold pickAlong at h
      rcases hp : pickOneOnBackend snap name with (_ | _) | e
      · rw [hp] at h
        exact ih h
      · rw [hp] at h
        simp at h
      · rw [hp] at h
        obtain rfl := Except.ok.inj h
        exact online_of_pickOneOnBackend hp

theorem mem_of_pickPreferred {backendOrder : List String}
    (h : pickPreferred snap backendOrder = .ok d) : d ∈ snap.devices :=
  (online_of_pickAlong h).1

/-- The preferred device is online. -/
theorem state_of_pickPreferred {backendOrder : List String}
    (h : pickPreferred snap backendOrder = .ok d) : d.state = "device" :=
  (online_of_pickAlong h).2

/-- A device that a transport form selects by its serial is online. -/
theorem state_of_lookupOnline {serial : String} (h : lookupOnline snap serial = .ok d) :
    d.state = "device" := by
  unfold lookupOnline at h
  obtain ⟨e, -, h⟩ := bind_eq_ok h
  split_ifs at h with hstate
  obtain rfl := Except.ok.inj h
  exact not_not.mp hstate

/-- Whatever a service is sent to is a device of the snapshot. -/
theorem Rewrites.mem {backendOrder : List String} {service upstream : String}
    (h : Rewrites snap backendOrder service d upstream) : d ∈ snap.devices := by
  cases h with
  | anyTport _ _ _ hp | anyTransport _ _ _ hp | features _ _ _ hp | anyDevice _ _ _ hp =>
      exact mem_of_pickPreferred hp
  | usb _ _ hp | loc _ _ hp => exact mem_of_pickPreferred hp
  | tport _ _ hl | transport _ _ hl => exact mem_of_lookupOnline hl
  | serial _ _ _ _ hl => exact mem_of_lookupDevice hl

end members

/-! ## Naming a device by its serial -/

/-- Public serials are pairwise distinct, and none of them followed by `:` begins another. -/
def NamingUnambiguous (snap : DeviceSnapshot) : Prop :=
  snap.serials.Nodup ∧ ∀ s ∈ snap.serials, ∀ t ∈ snap.serials, startsWith t (s ++ ":") = false

instance : DecidablePred NamingUnambiguous := fun snap =>
  inferInstanceAs (Decidable (snap.serials.Nodup ∧
    ∀ s ∈ snap.serials, ∀ t ∈ snap.serials, startsWith t (s ++ ":") = false))

/-- All three ways of naming `d` by its public serial select `d`, and rewrite the serial to the
upstream one. -/
def RoutesToItself (snap : DeviceSnapshot) (backendOrder : List String) (d : DeviceEntry)
    (r : String) : Prop :=
  rewriteUpstreamService ("host:transport:" ++ d.publicSerial) snap backendOrder =
      .ok (some (d, "host:transport:" ++ d.upstreamSerial)) ∧
    rewriteUpstreamService ("host:tport:serial:" ++ d.publicSerial) snap backendOrder =
      .ok (some (d, "host:tport:serial:" ++ d.upstreamSerial)) ∧
    rewriteUpstreamService ("host-serial:" ++ (d.publicSerial ++ ":" ++ r)) snap backendOrder =
      .ok (some (d, "host-serial:" ++ d.upstreamSerial ++ ":" ++ r))

section naming

variable {snap : DeviceSnapshot} {d : DeviceEntry}

theorem lookupDevice_of_mem (h : snap.serials.Nodup) (hd : d ∈ snap.devices) :
    lookupDevice snap d.publicSerial = .ok d := by
  rw [lookupDevice, DeviceSnapshot.find_of_nodup h hd]

theorem lookupOnline_of_mem (h : snap.serials.Nodup) (hd : d ∈ snap.devices)
    (hs : d.state = "device") : lookupOnline snap d.publicSerial = .ok d := by
  simp only [lookupOnline, lookupDevice_of_mem h hd]
  exact if_neg (not_not.mpr hs)

/-- Transport by serial reaches the device, whatever its serial looks like. -/
theorem rewrite_transport (h : snap.serials.Nodup) (hd : d ∈ snap.devices)
    (hs : d.state = "device") (backendOrder : List String) :
    rewriteUpstreamService ("host:transport:" ++ d.publicSerial) snap backendOrder =
      .ok (some (d, "host:transport:" ++ d.upstreamSerial)) := by
  rw [rewrite_transport_eq, lookupOnline_of_mem h hd hs]
  rfl

theorem rewrite_tport_serial (h : snap.serials.Nodup) (hd : d ∈ snap.devices)
    (hs : d.state = "device") (backendOrder : List String) :
    rewriteUpstreamService ("host:tport:serial:" ++ d.publicSerial) snap backendOrder =
      .ok (some (d, "host:tport:serial:" ++ d.upstreamSerial)) := by
  rw [rewrite_tport_serial_eq, lookupOnline_of_mem h hd hs]
  rfl

/-- A request for a serial without `:` reaches the device. -/
theorem rewrite_host_serial (h : snap.serials.Nodup) (hd : d ∈ snap.devices)
    (hc : ':' ∉ d.publicSerial.toList) (r : String) (backendOrder : List String) :
    rewriteUpstreamService ("host-serial:" ++ (d.publicSerial ++ ":" ++ r)) snap backendOrder =
      .ok (some (d, "host-serial:" ++ d.upstreamSerial ++ ":" ++ r)) := by
  have hsplit : splitOnce (d.publicSerial ++ ":" ++ r) ':' = some (d.publicSerial, r) :=
    splitOnce_append hc r
  rw [rewrite_host_serial_eq, hsplit]
  simp only [lookupDevice_of_mem h hd]
  rfl

/-- A request for a serial with a `:` is split inside the serial, and under unambiguous naming
the part before the first `:` names no device. -/
theorem rewrite_host_serial_of_colon (h : NamingUnambiguous snap) (hd : d ∈ snap.devices)
    (hc : ':' ∈ d.publicSerial.toList) (r : String) (backendOrder : List String) :
    ∃ reason, rewriteUpstreamService ("host-serial:" ++ (d.publicSerial ++ ":" ++ r)) snap
      backendOrder = .error reason := by
  obtain ⟨serial, rest, hserial, hfree⟩ := exists_eq_append_of_mem hc
  have hsplit : splitOnce (d.publicSerial ++ ":" ++ r) ':' =
      some (serial, rest ++ ":" ++ r) := by
    rw [splitOnce_eq_some_iff]
    refine ⟨?_, hfree⟩
    rw [hserial]
    simp [String.append_assoc]
  have hnone : snap.find serial = none := by
    apply DeviceSnapshot.find_eq_none_of_forall
    rintro e he rfl
    have hpre := h.2 _ (List.mem_map_of_mem he) _ (List.mem_map_of_mem hd)
    have : startsWith d.publicSerial (e.publicSerial ++ ":") = true :=
      startsWith_iff.mpr ⟨rest, hserial⟩
    rw [this] at hpre
    simp at hpre
  refine ⟨"device '" ++ serial ++ "' not found", ?_⟩
  rw [rewrite_host_serial_eq, hsplit]
  simp only [lookupDevice, hnone]
  rfl

/-- **Naming a device, exactly.** In a snapshot with unambiguous naming, all three ways of naming
an online device reach it iff its public serial contains no `:`.
Source: `session.rs`, `rewrite_upstream_service`, `lookup_device`, `lookup_online` -/
theorem routesToItself_iff (h : NamingUnambiguous snap) (hd : d ∈ snap.devices)
    (hs : d.state = "device") (backendOrder : List String) (r : String) :
    RoutesToItself snap backendOrder d r ↔ ':' ∉ d.publicSerial.toList := by
  constructor
  · rintro ⟨-, -, hhost⟩ hc
    obtain ⟨reason, hreason⟩ := rewrite_host_serial_of_colon h hd hc r backendOrder
    rw [hreason] at hhost
    simp at hhost
  · intro hc
    exact ⟨rewrite_transport h.1 hd hs backendOrder, rewrite_tport_serial h.1 hd hs backendOrder,
      rewrite_host_serial h.1 hd hc r backendOrder⟩

end naming

/-! ## A serial that the merge made -/

/-- Two backends that report the same serial. -/
def conflictLists : List (BackendConfig × String) :=
  [(⟨"office", .loopback 5038, some "ABCD1234", true⟩, "ABC\tdevice\n"),
   (⟨"lab", .loopback 5040, some "EFGH5678", true⟩, "ABC\tdevice\nXYZ\tdevice\n")]

/-- The office device as the merge shows it. -/
def officeAbc : DeviceEntry :=
  { publicSerial := "office:ABC", upstreamSerial := "ABC", state := "device", extras := ""
    backendName := "office", backendAddr := .loopback 5038, pairCode := some "ABCD1234"
    routeId := none }

/-- The lab device whose serial is not in conflict. -/
def labXyz : DeviceEntry :=
  { publicSerial := "XYZ", upstreamSerial := "XYZ", state := "device", extras := ""
    backendName := "lab", backendAddr := .loopback 5040, pairCode := some "EFGH5678"
    routeId := none }

theorem rewritten_serial_not_routed_by_host_serial :
    (NamingUnambiguous (mergeDeviceLists conflictLists) ∧
        officeAbc ∈ (mergeDeviceLists conflictLists).devices ∧ officeAbc.state = "device") ∧
      rewriteUpstreamService "host-serial:office:ABC:get-state" (mergeDeviceLists conflictLists)
        ["office", "lab"] = .error "device 'office' not found" ∧
      ¬ RoutesToItself (mergeDeviceLists conflictLists) ["office", "lab"] officeAbc
        "get-state" := by
  have hrw : rewriteUpstreamService "host-serial:office:ABC:get-state"
      (mergeDeviceLists conflictLists) ["office", "lab"] =
        .error "device 'office' not found" := by
    decide +kernel
  refine ⟨by decide +kernel, hrw, ?_⟩
  rintro ⟨-, -, hhost⟩
  have : "host-serial:" ++ (officeAbc.publicSerial ++ ":" ++ "get-state") =
      "host-serial:office:ABC:get-state" := by decide +kernel
  rw [this, hrw] at hhost
  simp at hhost

theorem raw_serial_routed :
    RoutesToItself (mergeDeviceLists conflictLists) ["office", "lab"] labXyz "get-state" :=
  (routesToItself_iff (by decide +kernel) (by decide +kernel) rfl ["office", "lab"]
    "get-state").mpr (by decide)

end AdbHub
