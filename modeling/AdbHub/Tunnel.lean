import AdbHub.Tenant

/-!
# Local tunnels

The local listeners that stand for a remote device (`tunnel.rs`), as far as agents own them.

* `TunnelManager` — the listeners by port, and `removeOwner`.
-/

namespace AdbHub

/-- A listener; `owner` is the user whose private device it serves. Source: `tunnel.rs`,
`Listener`. -/
structure Listener where
  owner : Option Uid
  serial : String
  deriving DecidableEq

/-- The listeners by port. Source: `tunnel.rs`, `TunnelManager`. -/
structure TunnelManager where
  listeners : UInt16 → Option Listener := fun _ => none

namespace TunnelManager

/-- Source: `TunnelManager::remove_owner`. -/
def removeOwner (m : TunnelManager) (owner : Uid) : TunnelManager :=
  ⟨fun port => (m.listeners port).filter fun l => l.owner ≠ some owner⟩

/-- A listener that was added on a port. Source: `TunnelManager::add`, `listeners.insert`. -/
def insert (m : TunnelManager) (port : UInt16) (l : Listener) : TunnelManager :=
  ⟨Function.update m.listeners port (some l)⟩

/-- Exactly the listeners of other owners stay. -/
theorem listeners_removeOwner_eq_some_iff {m : TunnelManager} {owner : Uid} {port : UInt16}
    {l : Listener} :
    (m.removeOwner owner).listeners port = some l ↔
      m.listeners port = some l ∧ l.owner ≠ some owner := by
  simp [removeOwner, Option.filter_eq_some_iff]

end TunnelManager

end AdbHub
