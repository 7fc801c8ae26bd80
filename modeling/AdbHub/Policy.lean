import AdbHub.Lib.Text

/-!
# Device enable policy

The per-device enable entries and the two places where adb-proxy applies them (`policy.rs`).

* `DevicePolicyTable` — the explicit entries. A serial without an entry is enabled; what
  `isEnabled` answers after a `setEnabled` is `isEnabled_setEnabled`. The source's map has one
  entry per serial; `AList` carries that as a field.
* `filterDevicesBody` — drop the lines of disabled serials from a device list.
* `transportSerial` — the serial a transport service names, of either form.
-/

namespace AdbHub

open Lib

/-! ## The table -/

/-- Per-device enable policy. Source: `policy.rs`, `DevicePolicyEntry`. -/
structure DevicePolicyEntry where
  serial : String
  enabled : Bool
  deriving DecidableEq

/-- Lookup table serial → enabled. Source: `policy.rs`, `DevicePolicyTable`. -/
structure DevicePolicyTable where
  entries : AList fun _ : String => Bool

namespace DevicePolicyTable

/-- The table without explicit entries. Source: `DevicePolicyTable::default`. -/
def empty : DevicePolicyTable := ⟨∅⟩

/-- Later entries of a serial replace earlier ones. Source: `DevicePolicyTable::from_entries`. -/
def fromEntries (entries : List DevicePolicyEntry) : DevicePolicyTable :=
  ⟨entries.foldl (fun table e => table.insert e.serial e.enabled) ∅⟩

/-- An absent serial is enabled. Source: `DevicePolicyTable::is_enabled`. -/
def isEnabled (t : DevicePolicyTable) (serial : String) : Bool :=
  (t.entries.lookup serial).getD true

/-- Enabling drops the entry, disabling stores `false`. Source:
`DevicePolicyTable::set_enabled`. -/
def setEnabled (t : DevicePolicyTable) (serial : String) (enabled : Bool) : DevicePolicyTable :=
  if enabled then ⟨t.entries.erase serial⟩ else ⟨t.entries.insert serial false⟩

@[simp] theorem isEnabled_empty (serial : String) : empty.isEnabled serial = true := rfl

/-- What `is_enabled` answers after one `set_enabled`. -/
theorem isEnabled_setEnabled (t : DevicePolicyTable) (serial x : String) (enabled : Bool) :
    (t.setEnabled serial enabled).isEnabled x = if x = serial then enabled else t.isEnabled x := by
  unfold setEnabled isEnabled
  by_cases hx : x = serial
  · subst hx
    cases enabled <;> simp
  · cases enabled <;> simp [hx]

end DevicePolicyTable

/-! ## Device lists and transport services -/

/-- Drop the lines of disabled serials from a raw `host:devices` / `devices-l` body; banner lines
stay, blank lines go. Source: `policy.rs`, `filter_devices_body`. -/
def filterDevicesBody (raw : String) (isEnabled : String → Bool) : String :=
  (lines raw).foldl (fun out line =>
    let trimmed := trim line
    if trimmed = "" then out
    else if startsWith trimmed "*" || startsWith trimmed "List of" then out ++ line ++ "\n"
    else
      let serial := (splitWhitespace trimmed).head?.getD ""
      if serial = "" || !isEnabled serial then out else out ++ line ++ "\n") ""

/-- The serial in a transport-style service. Source: `policy.rs`, `transport_serial`. -/
def transportSerial (service : String) : Option String :=
  match stripPrefix service "host:transport:" with
  | some s => if s = "any" || s = "usb" || s = "local" then none else some s
  | none => stripPrefix service "host:tport:serial:"

/-- The serials that `host:transport:` does not let through as serials. -/
def reservedSerials : List String := ["any", "usb", "local"]

theorem transportSerial_transport (s : String) :
    transportSerial ("host:transport:" ++ s) = if s ∈ reservedSerials then none else some s := by
  simp [transportSerial, reservedSerials, or_assoc]

theorem transportSerial_tport (s : String) :
    transportSerial ("host:tport:serial:" ++ s) = some s := by
  have hnone : stripPrefix ("host:tport:serial:" ++ s) "host:transport:" = none :=
    stripPrefix_append_eq_none (by decide) (by decide) s
  simp [transportSerial, hnone]

end AdbHub
