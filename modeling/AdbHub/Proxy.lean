import AdbHub.Compat
import AdbHub.Policy

/-!
# The device gate of adb-proxy

What `proxy_connection` does with the first service of an authenticated client (`lib.rs`), and
which disabled devices that service can still reach.

* `proxyAction` — the policy gate and the four ways on from it.
* `Selects` — the devices the upstream adb server selects for a service; this is the assumption
  about the server, not code of the proxy.
* `ReachesPastGate` — a disabled device is selected by a form that `transportSerial` does not
  recognise.
* **`gate_holds_iff`** — a forwarded service selects enabled devices only, exactly when it does
  not reach a disabled one past the gate.
-/

namespace AdbHub

open Lib

/-! ## The first service -/

/-- Crate version, answered to the hub's compatibility probe. Source: `lib.rs`, `VERSION`. -/
def proxyVersion : String := "0.4.5"

/-- What the proxy does with a service. -/
inductive ProxyAction
  /-- Answer `OKAY` and a payload without contacting the target. -/
  | answer (payload : String)
  /-- Answer `FAIL` without contacting the target. -/
  | refuse (reason : String)
  /-- Send the service to the target and filter the one list it answers. -/
  | filterList (service : String)
  /-- Send the service to the target and filter every list it answers. -/
  | filterTrack (service : String)
  /-- Send the service to the target and pipe both directions. -/
  | forward (service : String)
  deriving DecidableEq

/-- The service that reaches the target, if any does. -/
def ProxyAction.forwarded : ProxyAction → Option String
  | .answer _ | .refuse _ => none
  | .filterList s | .filterTrack s | .forward s => some s

/-- What happens to a service that passed the gate. -/
def proxyForward (service : String) : ProxyAction :=
  if service = "host:devices" || service = "host:devices-l" then .filterList service
  else if service = "host:track-devices" || service = "host:track-devices-l" then
    .filterTrack service
  else .forward service

/-- The first service of an authenticated client, under the policy in force.
Source: `lib.rs`, `proxy_connection`. -/
def proxyAction (policy : DevicePolicyTable) (service : String) : ProxyAction :=
  if service = proxyVersionService then .answer proxyVersion
  else match transportSerial service with
    | some serial =>
        if policy.isEnabled serial then proxyForward service
        else .refuse ("device '" ++ serial ++ "' is disabled")
    | none => proxyForward service

@[simp] theorem proxyForward_forwarded (service : String) :
    (proxyForward service).forwarded = some service := by
  unfold proxyForward
  split_ifs <;> rfl

/-- A service reaches the target exactly if it is not the version probe and does not name a
disabled device by a recognised transport form; it arrives unchanged. -/
theorem proxyAction_forwarded_iff {policy : DevicePolicyTable} {service t : String} :
    (proxyAction policy service).forwarded = some t ↔
      t = service ∧ service ≠ proxyVersionService ∧
        ∀ s, transportSerial service = some s → policy.isEnabled s = true := by
  unfold proxyAction
  split_ifs with hv
  · simp [ProxyAction.forwarded, hv]
  · rcases hs : transportSerial service with _ | s
    · simp only [proxyForward_forwarded, Option.some.injEq]
      exact ⟨fun h => ⟨h.symm, hv, fun s hs' => by cases hs'⟩, fun h => h.1.symm⟩
    · simp only
      split_ifs with he
      · simp only [proxyForward_forwarded, Option.some.injEq]
        refine ⟨fun h => ⟨h.symm, hv, ?_⟩, fun h => h.1.symm⟩
        rintro u rfl
        exact he
      · simp [ProxyAction.forwarded, he]

/-! ## What the target selects -/

/-- `d` is attached, and nothing else is. -/
def OnlyAttached (attached : List String) (d : String) : Prop :=
  d ∈ attached ∧ ∀ e ∈ attached, e = d

/-- The forms that select the only attached device. -/
def selectsAny (service : String) : Bool :=
  service ∈ ["host:transport-any", "host:transport-usb", "host:transport-local",
      "host:tport:any", "host:tport:usb", "host:tport:local"] ||
    startsWith service "host-usb:" || startsWith service "host-local:"

/-- **The assumption about the upstream adb server**: which attached device a service selects. -/
inductive Selects (attached : List String) : String → String → Prop
  | transport {d} : d ∈ attached → Selects attached ("host:transport:" ++ d) d
  | tport {d} : d ∈ attached → Selects attached ("host:tport:serial:" ++ d) d
  | hostSerial {d} (request : String) : d ∈ attached →
      Selects attached ("host-serial:" ++ d ++ ":" ++ request) d
  | any {service d} : selectsAny service = true → OnlyAttached attached d →
      Selects attached service d

/-- A service that selects a disabled device in a form the gate does not read a serial from:
`host-serial:`, a form without a serial, or `host:transport:` with a serial that is literally
`any`, `usb` or `local`. -/
def ReachesPastGate (policy : DevicePolicyTable) (attached : List String) (service : String) :
    Prop :=
  ∃ d ∈ attached, policy.isEnabled d = false ∧
    ((∃ request, service = "host-serial:" ++ d ++ ":" ++ request) ∨
      (selectsAny service = true ∧ OnlyAttached attached d) ∨
      (d ∈ reservedSerials ∧ service = "host:transport:" ++ d))

/-! ## The gate -/

section gate

variable {policy : DevicePolicyTable} {attached : List String} {service d : String}

theorem transportSerial_host_serial (rest : String) :
    transportSerial ("host-serial:" ++ rest) = none := by
  have h₁ : stripPrefix ("host-serial:" ++ rest) "host:transport:" = none :=
    stripPrefix_append_eq_none (by decide) (by decide) rest
  have h₂ : stripPrefix ("host-serial:" ++ rest) "host:tport:serial:" = none :=
    stripPrefix_append_eq_none (by decide) (by decide) rest
  simp [transportSerial, h₁, h₂]

/-- No form that selects the only attached device is recognised by the gate. -/
theorem transportSerial_of_selectsAny (h : selectsAny service = true) :
    transportSerial service = none := by
  simp only [selectsAny, Bool.or_eq_true, decide_eq_true_eq, startsWith_iff] at h
  rcases h with (h | ⟨rest, rfl⟩) | ⟨rest, rfl⟩
  · revert service
    decide
  · have h₁ : stripPrefix ("host-usb:" ++ rest) "host:transport:" = none :=
      stripPrefix_append_eq_none (by decide) (by decide) rest
    have h₂ : stripPrefix ("host-usb:" ++ rest) "host:tport:serial:" = none :=
      stripPrefix_append_eq_none (by decide) (by decide) rest
    simp [transportSerial, h₁, h₂]
  · have h₁ : stripPrefix ("host-local:" ++ rest) "host:transport:" = none :=
      stripPrefix_append_eq_none (by decide) (by decide) rest
    have h₂ : stripPrefix ("host-local:" ++ rest) "host:tport:serial:" = none :=
      stripPrefix_append_eq_none (by decide) (by decide) rest
    simp [transportSerial, h₁, h₂]

/-- What is selected past the gate is forwarded and selected. -/
theorem exists_disabled_of_reachesPastGate (h : ReachesPastGate policy attached service) :
    (proxyAction policy service).forwarded = some service ∧
      ∃ d, Selects attached service d ∧ policy.isEnabled d = false := by
  have hfwd : ∀ s, transportSerial s = none → s ≠ proxyVersionService →
      (proxyAction policy s).forwarded = some s := by
    intro s hs hv
    rw [proxyAction_forwarded_iff]
    exact ⟨rfl, hv, fun t ht => by rw [hs] at ht; cases ht⟩
  obtain ⟨d, hd, hdis, ⟨request, rfl⟩ | ⟨hany, honly⟩ | ⟨hres, rfl⟩⟩ := h
  · refine ⟨hfwd _ ?_ ?_, d, .hostSerial request hd, hdis⟩
    · rw [String.append_assoc, String.append_assoc]
      exact transportSerial_host_serial _
    · rw [String.append_assoc, String.append_assoc]
      exact append_ne_of_not_prefix (q := "proxy:version") (by decide) (by decide) _ ""
  · refine ⟨hfwd _ (transportSerial_of_selectsAny hany) ?_, d, .any hany honly, hdis⟩
    rintro rfl
    revert hany
    decide
  · refine ⟨hfwd _ ?_ ?_, d, .transport hd, hdis⟩
    · rw [transportSerial_transport, if_pos hres]
    · exact append_ne_of_not_prefix (q := "proxy:version") (by decide) (by decide) _ ""

/-- A device that a forwarded service selects is enabled, or was reached past the gate. -/
theorem isEnabled_or_reachesPastGate
    (hfwd : (proxyAction policy service).forwarded = some service)
    (hsel : Selects attached service d) :
    policy.isEnabled d = true ∨ ReachesPastGate policy attached service := by
  obtain ⟨-, -, hgate⟩ := proxyAction_forwarded_iff.mp hfwd
  rcases hen : policy.isEnabled d with _ | _
  · right
    cases hsel with
    | transport hd =>
        by_cases hres : d ∈ reservedSerials
        · exact ⟨d, hd, hen, .inr (.inr ⟨hres, rfl⟩)⟩
        · have := hgate d (by rw [transportSerial_transport, if_neg hres])
          rw [hen] at this
          simp at this
    | tport hd =>
        have := hgate d (transportSerial_tport d)
        rw [hen] at this
        simp at this
    | hostSerial request hd => exact ⟨d, hd, hen, .inl ⟨request, rfl⟩⟩
    | any hany honly => exact ⟨d, honly.1, hen, .inr (.inl ⟨hany, honly⟩)⟩
  · exact .inl rfl

end gate

/-- **The gate, exactly.** Every device selected by what the proxy forwards is enabled iff the
service does not reach a disabled device past the gate.
Source: `lib.rs`, `proxy_connection`; `policy.rs`, `transport_serial` -/
theorem gate_holds_iff (policy : DevicePolicyTable) (attached : List String) (service : String) :
    (∀ t d, (proxyAction policy service).forwarded = some t → Selects attached t d →
        policy.isEnabled d = true) ↔
      ¬ ReachesPastGate policy attached service := by
  constructor
  · intro h hpast
    obtain ⟨hfwd, d, hsel, hdis⟩ := exists_disabled_of_reachesPastGate hpast
    rw [h service d hfwd hsel] at hdis
    simp at hdis
  · intro hpast t d hfwd hsel
    obtain rfl := (proxyAction_forwarded_iff.mp hfwd).1
    exact (isEnabled_or_reachesPastGate hfwd hsel).resolve_right hpast

/-- `A0001XX` is disabled, is the only attached device, and is operated on all the same. -/
theorem disabled_device_reached :
    (proxyAction (DevicePolicyTable.empty.setEnabled "A0001XX" false)
        "host-serial:A0001XX:reboot").forwarded = some "host-serial:A0001XX:reboot" ∧
      Selects ["A0001XX"] "host-serial:A0001XX:reboot" "A0001XX" ∧
      (proxyAction (DevicePolicyTable.empty.setEnabled "A0001XX" false)
        "host:transport-any").forwarded = some "host:transport-any" ∧
      Selects ["A0001XX"] "host:transport-any" "A0001XX" ∧
      ¬ ∀ t d, (proxyAction (DevicePolicyTable.empty.setEnabled "A0001XX" false)
          "host:transport-any").forwarded = some t → Selects ["A0001XX"] t d →
        (DevicePolicyTable.empty.setEnabled "A0001XX" false).isEnabled d = true := by
  have hany : Selects ["A0001XX"] "host:transport-any" "A0001XX" :=
    .any (by decide +kernel) (by simp [OnlyAttached])
  have hfwd : (proxyAction (DevicePolicyTable.empty.setEnabled "A0001XX" false)
      "host:transport-any").forwarded = some "host:transport-any" := by decide +kernel
  have hserial : "host-serial:A0001XX:reboot" =
      "host-serial:" ++ "A0001XX" ++ ":" ++ "reboot" := by decide +kernel
  refine ⟨by decide +kernel, ?_, hfwd, hany, fun h => ?_⟩
  · rw [hserial]
    exact .hostSerial "reboot" (by simp)
  · have := h _ _ hfwd hany
    revert this
    decide +kernel

end AdbHub
