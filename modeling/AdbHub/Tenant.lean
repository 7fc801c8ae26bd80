import AdbHub.Agent.Snapshot
import AdbHub.Lib.Machine

/-!
# The tenant registry

The daemon's devices: the shared ones, and the private ones of every user (`tenant.rs`).

* `TenantRegistry` with `updateShared`, `updateAgentDevices`, `removeAgent` and `snapshotFor`.
* `tenantMachine` — the polls of the local backend, the reports of the agents and their removal,
  in any order.
* **`views_selectable_iff`** — every user can select every device by the serial shown, exactly
  when no update brings one half of a view a serial that the other half shows already
  (`NoCrossConflict`).
-/

namespace AdbHub

open Lib

/-- OS user identifier. Source: `tenant.rs`, `Uid`. -/
abbrev Uid := UInt32

/-- Shared devices, and the private devices of each user. Source: `tenant.rs`,
`TenantRegistry`. -/
structure TenantRegistry where
  shared : DeviceSnapshot := {}
  /-- The source's map `private`. -/
  priv : Uid → Option DeviceSnapshot := fun _ => none
  /-- How often the broadcast channel `notify` was sent to. -/
  notified : ℕ := 0

namespace TenantRegistry

/-- Source: `TenantRegistry::update_shared`. -/
def updateShared (r : TenantRegistry) (snap : DeviceSnapshot) : TenantRegistry :=
  { r with
    shared := snap
    notified := if r.shared.devices ≠ snap.devices then r.notified + 1 else r.notified }

/-- Source: `TenantRegistry::update_shared_from_lists`. -/
def updateSharedFromLists (r : TenantRegistry) (lists : List (BackendConfig × String)) :
    TenantRegistry :=
  r.updateShared (mergeDeviceLists lists)

/-- Source: `TenantRegistry::update_agent_devices`. -/
def updateAgentDevices (r : TenantRegistry) (uid : Uid) (devices : DeviceSnapshot) :
    TenantRegistry :=
  { r with
    priv := Function.update r.priv uid (some devices)
    notified :=
      if ((r.priv uid).map fun prev => decide (prev.devices ≠ devices.devices)).getD true then
        r.notified + 1
      else r.notified }

/-- Source: `TenantRegistry::remove_agent`. -/
def removeAgent (r : TenantRegistry) (uid : Uid) : TenantRegistry :=
  { r with
    priv := Function.update r.priv uid none
    notified := if (r.priv uid).isSome then r.notified + 1 else r.notified }

/-- The devices a user sees. Source: `TenantRegistry::snapshot_for`. -/
def snapshotFor (r : TenantRegistry) (uid : Uid) : DeviceSnapshot :=
  match r.priv uid with
  | some privSnap => ⟨r.shared.devices ++ privSnap.devices⟩
  | none => r.shared

variable (r : TenantRegistry) (uid : Uid) (snap : DeviceSnapshot)

@[simp] theorem shared_updateShared : (r.updateShared snap).shared = snap := rfl

@[simp] theorem priv_updateShared : (r.updateShared snap).priv = r.priv := rfl

@[simp] theorem shared_updateAgentDevices : (r.updateAgentDevices uid snap).shared = r.shared := rfl

@[simp] theorem priv_updateAgentDevices :
    (r.updateAgentDevices uid snap).priv = Function.update r.priv uid (some snap) := rfl

@[simp] theorem shared_removeAgent : (r.removeAgent uid).shared = r.shared := rfl

@[simp] theorem priv_removeAgent :
    (r.removeAgent uid).priv = Function.update r.priv uid none := rfl

/-- The serials a user sees: the shared ones, then the private ones. -/
theorem serials_snapshotFor :
    (r.snapshotFor uid).serials =
      r.shared.serials ++ ((r.priv uid).map DeviceSnapshot.serials).getD [] := by
  unfold snapshotFor
  rcases r.priv uid with _ | l <;> simp [DeviceSnapshot.serials]

end TenantRegistry

/-! ## Updates in any order -/

/-- What happens to the registry. -/
inductive TenantEvent
  /-- The local backend was polled; the body is empty after a failed poll.
  Source: `daemon.rs`, `poll_shared_once`. -/
  | pollShared (body : String)
  /-- The agent of `uid` reported what it built from its backends. -/
  | agentReport (uid : Uid) (policy : HubPolicySnapshot) (lists : List (BackendConfig × String))
  /-- The agent of `uid` is removed. -/
  | removeAgent (uid : Uid)

/-- The registry under events in any order. -/
def tenantMachine (localBackend : BackendConfig) : Machine TenantRegistry TenantEvent where
  init := {}
  step r
    | .pollShared body => some (r.updateSharedFromLists [(localBackend, body)])
    | .agentReport uid policy lists =>
        some (r.updateAgentDevices uid (agentSnapshot policy lists))
    | .removeAgent uid => some (r.removeAgent uid)

namespace TenantRegistry

/-- The shared list and every private list have pairwise distinct public serials. -/
def HalvesDistinct (r : TenantRegistry) : Prop :=
  r.shared.serials.Nodup ∧ ∀ uid l, r.priv uid = some l → l.serials.Nodup

/-- Every user's view has pairwise distinct serials, and each of them selects its device. -/
def ViewsSelectable (r : TenantRegistry) : Prop :=
  ∀ uid, (r.snapshotFor uid).serials.Nodup ∧
    ∀ d ∈ (r.snapshotFor uid).devices, (r.snapshotFor uid).find d.publicSerial = some d

/-- No serial is both shared and private to a user. -/
def HalvesDisjoint (r : TenantRegistry) : Prop :=
  ∀ uid l, r.priv uid = some l → r.shared.serials.Disjoint l.serials

/-- The update brings no serial that the other half of some view shows already. -/
def NoCrossConflict (localBackend : BackendConfig) (r : TenantRegistry) : TenantEvent → Prop
  | .pollShared body =>
      ∀ uid l, r.priv uid = some l →
        (mergeDeviceLists [(localBackend, body)]).serials.Disjoint l.serials
  | .agentReport _ policy lists => r.shared.serials.Disjoint (agentSnapshot policy lists).serials
  | .removeAgent _ => True

variable {r t : TenantRegistry} {localBackend : BackendConfig} {event : TenantEvent}

/-- With distinct halves, views are selectable exactly when the halves share no serial. -/
theorem viewsSelectable_iff (h : r.HalvesDistinct) : r.ViewsSelectable ↔ r.HalvesDisjoint := by
  constructor
  · intro hv uid l hl
    have hnd := (hv uid).1
    rw [serials_snapshotFor, hl] at hnd
    exact List.disjoint_of_nodup_append hnd
  · intro hd uid
    have hnd : (r.snapshotFor uid).serials.Nodup := by
      rw [serials_snapshotFor]
      rcases hp : r.priv uid with _ | l
      · simpa using h.1
      · exact h.1.append (h.2 uid l hp) (hd uid l hp)
    exact ⟨hnd, fun d hd' => DeviceSnapshot.find_of_nodup hnd hd'⟩

/-- From disjoint halves, an event leads to disjoint halves iff it brings no cross conflict. -/
theorem halvesDisjoint_step_iff (hr : r.HalvesDisjoint)
    (h : (tenantMachine localBackend).step r event = some t) :
    t.HalvesDisjoint ↔ r.NoCrossConflict localBackend event := by
  cases event with
  | pollShared body =>
      obtain rfl := Option.some.inj h
      rfl
  | agentReport uid policy lists =>
      obtain rfl := Option.some.inj h
      simp only [HalvesDisjoint, NoCrossConflict, shared_updateAgentDevices,
        priv_updateAgentDevices]
      constructor
      · intro ht
        exact ht uid _ (Function.update_self ..)
      · intro hc v l hl
        by_cases hv : v = uid
        · subst hv
          rw [Function.update_self] at hl
          obtain rfl := Option.some.inj hl
          exact hc
        · rw [Function.update_of_ne hv] at hl
          exact hr v l hl
  | removeAgent uid =>
      obtain rfl := Option.some.inj h
      refine iff_of_true (fun v l hl => ?_) trivial
      by_cases hv : v = uid
      · subst hv
        rw [priv_removeAgent, Function.update_self] at hl
        simp at hl
      · rw [priv_removeAgent, Function.update_of_ne hv] at hl
        exact hr v l hl

theorem halvesDistinct_init : (tenantMachine localBackend).init.HalvesDistinct :=
  ⟨List.nodup_nil, by rintro uid l ⟨⟩⟩

theorem halvesDisjoint_init : (tenantMachine localBackend).init.HalvesDisjoint := by
  rintro uid l ⟨⟩

theorem halvesDisjoint_of_run {events : List TenantEvent}
    (h : (tenantMachine localBackend).Run (NoCrossConflict localBackend) events r) :
    r.HalvesDisjoint :=
  h.invariant halvesDisjoint_init fun _ _ _ hr hc hs => (halvesDisjoint_step_iff hr hs).mpr hc

/-- **Selectable views, exactly.** If no update of a run brings a cross conflict, then in every
state with distinct halves every user's view is selectable; and in a run all of whose states have
distinct halves, all views are selectable throughout only if no update brings one.
Source: `tenant.rs`, `snapshot_for` -/
theorem views_selectable_iff {events : List TenantEvent}
    (h : (tenantMachine localBackend).Reaches events r) :
    ((tenantMachine localBackend).Run (NoCrossConflict localBackend) events r →
        (tenantMachine localBackend).Always (fun t => t.HalvesDistinct → t.ViewsSelectable)
          events) ∧
      ((tenantMachine localBackend).Always HalvesDistinct events →
        ((tenantMachine localBackend).Always ViewsSelectable events ↔
          (tenantMachine localBackend).Run (NoCrossConflict localBackend) events r)) := by
  constructor
  · intro hrun
    exact hrun.always fun _ t ht hd => (viewsSelectable_iff hd).mpr (halvesDisjoint_of_run ht)
  · intro hH
    refine Machine.always_iff_run (I := HalvesDisjoint) (fun _ _ => halvesDisjoint_of_run) ?_ ?_
      h hH
    · exact (viewsSelectable_iff halvesDistinct_init).mpr halvesDisjoint_init
    · intro s a u hs hu hI _ hstep
      rw [viewsSelectable_iff hu]
      exact halvesDisjoint_step_iff hI hstep

/-- The backend of the shared devices. Source: `daemon.rs`, `run_daemon_with_shutdown`. -/
def localAdb : BackendConfig := ⟨"local", .loopback 5039, none, true⟩

/-- A user's own backend. -/
def officeAdb : BackendConfig := ⟨"office", .loopback 5040, some "abc12345", true⟩

/-- What user 1000 reports when its backend has one device. -/
def reportOf (serial : String) : DeviceSnapshot :=
  agentSnapshot .empty [(officeAdb, serial ++ "\tdevice\n")]

/-- A device `SAME` attached to the server, then a report of user 1000. -/
def reportsWith (serial : String) : List TenantEvent :=
  [.pollShared "SAME\tdevice\n"] ++ [.agentReport 1000 .empty [(officeAdb, serial ++ "\tdevice\n")]]

/-- The registry before the report. -/
def sharedSame : TenantRegistry :=
  ({} : TenantRegistry).updateSharedFromLists [(localAdb, "SAME\tdevice\n")]

theorem serials_sharedSame : sharedSame.shared.serials = ["SAME"] := by decide +kernel

/-- A report of another serial leaves the views selectable. -/
theorem distinct_serials_selectable :
    (tenantMachine localAdb).Always (fun t => t.HalvesDistinct → t.ViewsSelectable)
      (reportsWith "OTHER") := by
  have hshared : (tenantMachine localAdb).Run (NoCrossConflict localAdb)
      ([] ++ [.pollShared "SAME\tdevice\n"]) sharedSame := by
    refine .snoc .init ?_ rfl
    rintro uid l ⟨⟩
  have hrun : (tenantMachine localAdb).Run (NoCrossConflict localAdb) (reportsWith "OTHER")
      (sharedSame.updateAgentDevices 1000 (reportOf "OTHER")) := by
    refine .snoc hshared ?_ rfl
    change sharedSame.shared.serials.Disjoint (reportOf "OTHER").serials
    have hother : (reportOf "OTHER").serials = ["OTHER"] := by decide +kernel
    rw [serials_sharedSame, hother]
    simp
  exact (views_selectable_iff hrun.reaches).1 hrun

/-- Both halves are distinct, but user 1000 is shown the serial `SAME` twice and cannot select
the private device by it. -/
theorem cross_conflict_shown_twice :
    ∃ r, (tenantMachine localAdb).Reaches (reportsWith "SAME") r ∧ r.HalvesDistinct ∧
      (r.snapshotFor 1000).serials = ["SAME", "SAME"] ∧ ¬ r.ViewsSelectable := by
  have hsame : (reportOf "SAME").serials = ["SAME"] := by decide +kernel
  have hview : ((sharedSame.updateAgentDevices 1000 (reportOf "SAME")).snapshotFor 1000).serials =
      ["SAME", "SAME"] := by
    rw [serials_snapshotFor, shared_updateAgentDevices, priv_updateAgentDevices,
      Function.update_self, serials_sharedSame]
    simp [hsame]
  refine ⟨sharedSame.updateAgentDevices 1000 (reportOf "SAME"), Machine.reaches_of_exec rfl,
    ⟨?_, ?_⟩, hview, ?_⟩
  · rw [shared_updateAgentDevices, serials_sharedSame]
    decide
  · intro uid l hl
    rw [priv_updateAgentDevices] at hl
    by_cases huid : uid = 1000
    · subst huid
      rw [Function.update_self] at hl
      obtain rfl := Option.some.inj hl
      rw [hsame]
      decide
    · rw [Function.update_of_ne huid] at hl
      cases hl
  · intro hsel
    have hnd := (hsel 1000).1
    rw [hview] at hnd
    revert hnd
    decide

end TenantRegistry

end AdbHub
