import AdbHub.HubPolicy
import AdbHub.Lib.Watch
import AdbHub.Tenant

/-!
# Tracking the device list

The two sessions that follow the device list and tell their client of every change: `track_devices`
of a hub (`session.rs`) and `track_devices_multi` of the daemon (`daemon.rs`).

* `trackDevices` — the device registry, seen through a policy in one read.
* `trackDevicesMulti` — the tenant registry, as one user sees it: the shared list is read first, the
  private one of the user afterwards, each under a lock of its own.
* `TenantUpdate.store_eq` — an update stores its data and notifies later, if at all; every update
  that changes what somebody sees notifies (`unchanged`).
* **`tracker_shows_current_view`** — once everything notified is received, the packet sent last is
  the current view.
-/

namespace AdbHub

open Lib

/-! ## The device registry -/

namespace DeviceRegistry

/-- What `update_from_backend_lists` stores before it releases the lock. -/
def store (r : DeviceRegistry) (lists : List (BackendConfig × String)) : DeviceRegistry :=
  { r.updateFromBackendLists lists with notified := r.notified }

/-- Whether `update_from_backend_lists` sends to the channel afterwards. -/
def notifies (r : DeviceRegistry) (lists : List (BackendConfig × String)) : Bool :=
  (r.updateFromBackendLists lists).notified ≠ r.notified

/-- An update that does not notify stores the devices that are there. -/
theorem inner_store {r : DeviceRegistry} {lists : List (BackendConfig × String)}
    (h : r.notifies lists = false) : (r.store lists).inner = r.inner := by
  unfold notifies updateFromBackendLists at h
  unfold store updateFromBackendLists
  by_cases hne : r.inner.devices ≠ (mergeDeviceLists lists).devices
  · simp [hne] at h
  · exact (congrArg DeviceSnapshot.mk (not_not.mp hne)).symm

end DeviceRegistry

/-- A `track-devices` session of a hub, under a policy that stays. Source: `session.rs`,
`track_devices`, `client_snapshot`. -/
def trackDevices (policy : HubPolicySnapshot) (long : Bool) :
    Watch DeviceRegistry (List (BackendConfig × String)) DeviceSnapshot String where
  apply lists r := r.store lists
  changes lists r := r.notifies lists
  start := {}
  reads := [fun _ r => policy.filterSnapshot r.inner]
  render snap := snap.formatDevices long
  capacity := 64
  unchanged h read hread acc := by
    obtain rfl := List.mem_singleton.mp hread
    simp only [DeviceRegistry.inner_store h]

/-! ## The tenant registry -/

/-- An update of the tenant registry. Source: `tenant.rs`, `TenantRegistry`. -/
inductive TenantUpdate
  | shared (snap : DeviceSnapshot)
  | agentDevices (uid : Uid) (devices : DeviceSnapshot)
  | removeAgent (uid : Uid)

namespace TenantUpdate

/-- The whole update. -/
def apply : TenantUpdate → TenantRegistry → TenantRegistry
  | .shared snap, r => r.updateShared snap
  | .agentDevices uid devices, r => r.updateAgentDevices uid devices
  | .removeAgent uid, r => r.removeAgent uid

/-- What the update stores before it releases the lock. -/
def store (u : TenantUpdate) (r : TenantRegistry) : TenantRegistry :=
  { u.apply r with notified := r.notified }

/-- Whether the update sends to the channel afterwards. -/
def notifies (u : TenantUpdate) (r : TenantRegistry) : Bool := (u.apply r).notified ≠ r.notified

/-- An update is what it stores, and one notification or none. -/
theorem store_eq (u : TenantUpdate) (r : TenantRegistry) :
    u.apply r = { u.store r with
      notified := if u.notifies r then r.notified + 1 else r.notified } := by
  unfold store notifies
  cases u with
  | shared snap =>
      by_cases hne : r.shared.devices ≠ snap.devices <;>
        simp [apply, TenantRegistry.updateShared, hne]
  | agentDevices uid devices =>
      simp only [apply, TenantRegistry.updateAgentDevices]
      split_ifs <;> simp_all
  | removeAgent uid =>
      simp only [apply, TenantRegistry.removeAgent]
      split_ifs <;> simp_all

/-- **What is not notified changes nothing**: not the shared list, and no user's own. -/
theorem unchanged {u : TenantUpdate} {r : TenantRegistry} (h : u.notifies r = false) :
    (u.store r).shared = r.shared ∧ (u.store r).priv = r.priv := by
  unfold notifies at h
  cases u with
  | shared snap =>
      by_cases hne : r.shared.devices ≠ snap.devices
      · simp [apply, TenantRegistry.updateShared, hne] at h
      · exact ⟨(congrArg DeviceSnapshot.mk (not_not.mp hne)).symm, rfl⟩
  | agentDevices uid devices =>
      refine ⟨rfl, ?_⟩
      rcases hp : r.priv uid with _ | prev
      · simp [apply, TenantRegistry.updateAgentDevices, hp] at h
      · by_cases hne : prev.devices ≠ devices.devices
        · simp [apply, TenantRegistry.updateAgentDevices, hp, hne] at h
        · have hsame : r.priv uid = some devices := by
            rw [hp]
            exact congrArg (some ∘ DeviceSnapshot.mk) (not_not.mp hne)
          show Function.update r.priv uid (some devices) = r.priv
          rw [← hsame, Function.update_eq_self]
  | removeAgent uid =>
      refine ⟨rfl, ?_⟩
      rcases hp : r.priv uid with _ | prev
      · show Function.update r.priv uid none = r.priv
        rw [← hp, Function.update_eq_self]
      · simp [apply, TenantRegistry.removeAgent, hp] at h

end TenantUpdate

/-- The second read of `snapshot_for`. -/
def extendPrivate (uid : Uid) (snap : DeviceSnapshot) (r : TenantRegistry) : DeviceSnapshot :=
  match r.priv uid with
  | some privSnap => ⟨snap.devices ++ privSnap.devices⟩
  | none => snap

/-- A `track-devices` session of the daemon, for a user. Source: `daemon.rs`,
`track_devices_multi`. -/
def trackDevicesMulti (uid : Uid) (long : Bool) :
    Watch TenantRegistry TenantUpdate DeviceSnapshot String where
  apply u r := u.store r
  changes u r := u.notifies r
  start := {}
  reads := [fun _ r => r.shared, extendPrivate uid]
  render snap := snap.formatDevices long
  capacity := 64
  unchanged h read hread acc := by
    obtain ⟨hshared, hpriv⟩ := TenantUpdate.unchanged h
    rcases List.mem_cons.mp hread with rfl | hread
    · exact hshared
    · obtain rfl := List.mem_singleton.mp hread
      unfold extendPrivate
      rw [hpriv]

theorem view_trackDevices (policy : HubPolicySnapshot) (long : Bool) (r : DeviceRegistry) :
    (trackDevices policy long).view r = policy.filterSnapshot r.inner := rfl

/-- The two reads, with nothing in between, are `snapshot_for`. -/
theorem view_trackDevicesMulti (uid : Uid) (long : Bool) (r : TenantRegistry) :
    (trackDevicesMulti uid long).view r = r.snapshotFor uid := rfl

/-! ## What the client was told -/

/-- **No change is lost to a tracker.** In every interleaving of updates with a `track-devices`
session, of a hub or of the daemon: when the session waits, has received every notification and no
update is about to notify, the packet it sent last is the current view of its client.
Source: `session.rs`, `track_devices`; `daemon.rs`, `track_devices_multi`. -/
theorem tracker_shows_current_view {ι : Type} [DecidableEq ι] (long : Bool) :
    (∀ (policy : HubPolicySnapshot) (initial : DeviceRegistry)
        (events : List (WatchEvent ι (List (BackendConfig × String))))
        (s : Watched ι DeviceRegistry DeviceSnapshot String),
      ((trackDevices policy long).machine initial).Reaches events s → s.Quiet →
        s.packets.getLast? = some ((policy.filterSnapshot s.data.inner).formatDevices long)) ∧
    (∀ (uid : Uid) (initial : TenantRegistry) (events : List (WatchEvent ι TenantUpdate))
        (s : Watched ι TenantRegistry DeviceSnapshot String),
      ((trackDevicesMulti uid long).machine initial).Reaches events s → s.Quiet →
        s.packets.getLast? = some ((s.data.snapshotFor uid).formatDevices long)) := by
  constructor
  · intro policy initial events s h hq
    rw [Watched.packet_of_quiet h hq, view_trackDevices]
    rfl
  · intro uid initial events s h hq
    rw [Watched.packet_of_quiet h hq, view_trackDevicesMulti]
    rfl

/-- A tracker that greets, subscribes and sends a first list, and what happens then. -/
def greetedThen {ω : Type} (reads : List (WatchEvent Unit ω)) (events : List (WatchEvent Unit ω)) :
    List (WatchEvent Unit ω) := [.greet, .subscribe] ++ reads ++ [.write] ++ events

/-- The local backend reports one device. -/
def oneDevice : List (BackendConfig × String) := [(TenantRegistry.localAdb, "A1\tdevice\n")]

/-- A hub's tracker is told of one device; a daemon's tracker, of a device that becomes shared
while it reads. -/
theorem trackers_told :
    (∃ s, ((trackDevices .empty false).machine {}).Reaches
        (greetedThen [.read] [.store () oneDevice, .notify (), .recv, .read, .write])
        s ∧ s.packets.getLast? =
          some ((HubPolicySnapshot.empty.filterSnapshot s.data.inner).formatDevices false)) ∧
    (∃ s, ((trackDevicesMulti 1000 false).machine {}).Reaches
        (greetedThen [.read, .store () (.shared (mergeDeviceLists oneDevice)),
          .notify (), .read] [.recv, .read, .read, .write])
        s ∧ s.packets.getLast? = some ((s.data.snapshotFor 1000).formatDevices false)) := by
  constructor
  · have hexec : ((((trackDevices .empty false).machine {}).exec
        ((trackDevices .empty false).machine {}).init (greetedThen [.read]
          [.store () oneDevice, .notify (), .recv, .read, .write])).map
        fun s => (s.phase, s.next, s.sent, s.owes ())) = some (.waiting, 1, 1, false) := by
      decide +kernel
    obtain ⟨s, hs, hquiet⟩ := Option.map_eq_some_iff.mp hexec
    simp only [Prod.mk.injEq] at hquiet
    obtain ⟨hphase, hnext, hsent, howes⟩ := hquiet
    have hq : s.Quiet := ⟨hphase, hnext.trans hsent.symm, fun _ => howes⟩
    have hreach := Machine.reaches_of_exec hs
    exact ⟨s, hreach, (tracker_shows_current_view false).1 .empty {} _ s hreach hq⟩
  · have hexec : ((((trackDevicesMulti 1000 false).machine {}).exec
        ((trackDevicesMulti 1000 false).machine {}).init (greetedThen
          [.read, .store () (.shared (mergeDeviceLists oneDevice)),
            .notify (), .read] [.recv, .read, .read, .write])).map
        fun s => (s.phase, s.next, s.sent, s.owes ())) = some (.waiting, 1, 1, false) := by
      decide +kernel
    obtain ⟨s, hs, hquiet⟩ := Option.map_eq_some_iff.mp hexec
    simp only [Prod.mk.injEq] at hquiet
    obtain ⟨hphase, hnext, hsent, howes⟩ := hquiet
    have hq : s.Quiet := ⟨hphase, hnext.trans hsent.symm, fun _ => howes⟩
    have hreach := Machine.reaches_of_exec hs
    exact ⟨s, hreach, (tracker_shows_current_view false).2 1000 {} _ s hreach hq⟩

end AdbHub
