import AdbHub.Tunnel

/-!
# Agent connections of the daemon

How agents register, report, are replaced and leave (`daemon.rs`, `handle_agent` and
`agent_read_loop`), for any number of connections of any users.

* `DaemonState` — the tenant registry, the registered connection of each user, the tunnels, and
  where the task of each connection stands. The cleanup holds the write lock of `agents` from its
  comparison of tokens to its end; the devices and tunnels are removed in between, step by step.
* `DaemonState.Effect` — everything a step can do; `effect_of_step` reads a step as its effect.
* **`consistent_of_run`** — in every run one cleanup at a time holds the lock, and registered
  connections are being served or about to leave.
-/

namespace AdbHub

open Lib

/-! ## State -/

/-- A connection to the control socket, numbered in order of acceptance. -/
abbrev ConnId := ℕ

/-- Where the task of a connection stands. Source: `daemon.rs`, `handle_agent`. -/
inductive HandleAgent
  /-- Not accepted yet. -/
  | absent
  /-- It waits for the first message. -/
  | connected
  /-- It is in `agent_read_loop`. -/
  | serving
  /-- The loop has ended; it wants the write lock of `agents`. -/
  | leaving
  /-- It holds the lock and has taken `registered` out of `agents`. -/
  | removingDevices (registered : ConnId)
  /-- It holds the lock and has removed the private devices. -/
  | removingTunnels
  | finished
  deriving DecidableEq

/-- The task holds the write lock of `agents`. -/
def HandleAgent.holds : HandleAgent → Bool
  | .removingDevices _ | .removingTunnels => true
  | _ => false

/-- What the daemon knows of a connection. Source: `daemon.rs`, `AgentConn`. -/
structure AgentConn where
  uid : Uid
  instanceToken : String
  deriving DecidableEq

/-- The state shared by the tasks of the daemon. Source: `daemon.rs`, `DaemonState`. -/
structure DaemonState where
  tenants : TenantRegistry := {}
  agents : Uid → Option ConnId := fun _ => none
  tunnels : TunnelManager := {}
  /-- The connection whose cleanup holds the write lock of `agents`. -/
  guard : Option ConnId := none
  conn : ConnId → AgentConn := fun _ => ⟨0, ""⟩
  task : ConnId → HandleAgent := fun _ => .absent
  /-- History: the last device list received from a registered connection. -/
  received : ConnId → Option DeviceSnapshot := fun _ => none
  /-- History: the private list that was stored when a connection registered. -/
  found : ConnId → Option DeviceSnapshot := fun _ => none
  /-- History: the connection of each user that registered last. -/
  newest : Uid → Option ConnId := fun _ => none

/-- What happens next. -/
inductive AgentEvent
  /-- A connection is accepted; the user is the peer credential. -/
  | connect (c : ConnId) (uid : Uid)
  /-- The first message arrives. -/
  | first (c : ConnId) (msg : IpcMessage)
  /-- A later message arrives. -/
  | receive (c : ConnId) (msg : IpcMessage)
  /-- The connection ends or fails. -/
  | disconnect (c : ConnId)
  /-- The cleanup takes the lock and compares the tokens. -/
  | beginCleanup (c : ConnId)
  /-- The cleanup removes the private devices. -/
  | removeDevices (c : ConnId)
  /-- The cleanup removes the tunnels and releases the lock. -/
  | removeTunnels (c : ConnId)
  /-- A session adds a tunnel. -/
  | addTunnel (port : UInt16) (l : Listener)
  /-- The shared devices are polled. -/
  | pollShared (lists : List (BackendConfig × String))

/-- The device list a message carries. Source: `daemon.rs`, `agent_read_loop`. -/
def IpcMessage.reported : IpcMessage → Option DeviceSnapshot
  | .deviceSnapshot m | .deviceSnapshotChanged m => some (sanitizedToSnapshot m.devices)
  | _ => none

namespace DaemonState

/-- Move the task of a connection. -/
def goto (s : DaemonState) (c : ConnId) (pc : HandleAgent) : DaemonState :=
  { s with task := Function.update s.task c pc }

/-- Source: `daemon.rs`, `handle_agent`, `agents.insert`. -/
def register (s : DaemonState) (c : ConnId) (reg : RegisterAgent) : DaemonState :=
  let uid := (s.conn c).uid
  { s.goto c .serving with
    conn := Function.update s.conn c ⟨uid, reg.instanceToken⟩
    agents := Function.update s.agents uid (some c)
    received := Function.update s.received c none
    found := Function.update s.found c (s.tenants.priv uid)
    newest := Function.update s.newest uid (some c) }

/-- The registered connection has the token of `c`. Source: `daemon.rs`, `handle_agent`, "Only
remove if we are still the active agent for this uid". -/
def activeToken (s : DaemonState) (c : ConnId) : Option ConnId :=
  (s.agents (s.conn c).uid).filter fun a => (s.conn a).instanceToken = (s.conn c).instanceToken

/-- Take up a device list. Source: `daemon.rs`, `agent_read_loop`. -/
def report (s : DaemonState) (c : ConnId) (l : DeviceSnapshot) : DaemonState :=
  { s with
    tenants := s.tenants.updateAgentDevices (s.conn c).uid l
    received := Function.update s.received c (some l) }

/-- Take the registration `a` out of `agents` and keep the lock. -/
def takeOut (s : DaemonState) (c a : ConnId) : DaemonState :=
  { s.goto c (.removingDevices a) with
    agents := Function.update s.agents (s.conn c).uid none
    guard := some c }

/-- One step. Source: `daemon.rs`, `handle_agent` and `agent_read_loop`. -/
def step (s : DaemonState) : AgentEvent → Option DaemonState
  | .connect c uid =>
      if s.task c = .absent then
        some { s.goto c .connected with conn := Function.update s.conn c ⟨uid, ""⟩ }
      else none
  | .first c msg =>
      if s.task c = .connected then
        match msg with
        | .registerAgent reg =>
            if reg.version ≠ protocolVersion then some (s.goto c .finished)
            else if s.guard.isSome then none
            else some (s.register c reg)
        | _ => some (s.goto c .finished)
      else none
  | .receive c msg =>
      if s.task c = .serving then
        match msg.reported with
        | some l => some (s.report c l)
        | none => some s
      else none
  | .disconnect c =>
      match s.task c with
      | .connected => some (s.goto c .finished)
      | .serving => some (s.goto c .leaving)
      | _ => none
  | .beginCleanup c =>
      if s.task c = .leaving ∧ s.guard = none then
        match s.activeToken c with
        | some a => some (s.takeOut c a)
        | none => some (s.goto c .finished)
      else none
  | .removeDevices c =>
      match s.task c with
      | .removingDevices _ =>
          some { s.goto c .removingTunnels with tenants := s.tenants.removeAgent (s.conn c).uid }
      | _ => none
  | .removeTunnels c =>
      if s.task c = .removingTunnels then
        some { s.goto c .finished with
          tunnels := s.tunnels.removeOwner (s.conn c).uid
          guard := none }
      else none
  | .addTunnel port l => some { s with tunnels := s.tunnels.insert port l }
  | .pollShared lists => some { s with tenants := s.tenants.updateSharedFromLists lists }

/-- The daemon as a machine. -/
def machine : Machine DaemonState AgentEvent := ⟨{}, step⟩

/-! ## What a step can do -/

/-- The effect of an event. -/
inductive Effect (s : DaemonState) : AgentEvent → DaemonState → Prop
  | connect {c uid} (h : s.task c = .absent) :
      Effect s (.connect c uid)
        { s.goto c .connected with conn := Function.update s.conn c ⟨uid, ""⟩ }
  | reject {c msg} (h : s.task c = .connected) : Effect s (.first c msg) (s.goto c .finished)
  | register {c reg} (h : s.task c = .connected) (hfree : s.guard = none) :
      Effect s (.first c (.registerAgent reg)) (s.register c reg)
  | report {c msg l} (h : s.task c = .serving) (hl : msg.reported = some l) :
      Effect s (.receive c msg) (s.report c l)
  | ignore {c msg} (h : s.task c = .serving) (hl : msg.reported = none) :
      Effect s (.receive c msg) s
  | hangUp {c} (h : s.task c = .connected) : Effect s (.disconnect c) (s.goto c .finished)
  | leave {c} (h : s.task c = .serving) : Effect s (.disconnect c) (s.goto c .leaving)
  | takeOut {c a} (h : s.task c = .leaving) (hfree : s.guard = none)
      (ha : s.agents (s.conn c).uid = some a)
      (htoken : (s.conn a).instanceToken = (s.conn c).instanceToken) :
      Effect s (.beginCleanup c) (s.takeOut c a)
  | replaced {c} (h : s.task c = .leaving) (hfree : s.guard = none)
      (hother : ∀ a, s.agents (s.conn c).uid = some a →
        (s.conn a).instanceToken ≠ (s.conn c).instanceToken) :
      Effect s (.beginCleanup c) (s.goto c .finished)
  | removeDevices {c a} (h : s.task c = .removingDevices a) :
      Effect s (.removeDevices c)
        { s.goto c .removingTunnels with tenants := s.tenants.removeAgent (s.conn c).uid }
  | removeTunnels {c} (h : s.task c = .removingTunnels) :
      Effect s (.removeTunnels c)
        { s.goto c .finished with
          tunnels := s.tunnels.removeOwner (s.conn c).uid
          guard := none }
  | addTunnel {port l} : Effect s (.addTunnel port l) { s with tunnels := s.tunnels.insert port l }
  | pollShared {lists} :
      Effect s (.pollShared lists) { s with tenants := s.tenants.updateSharedFromLists lists }

variable {s t : DaemonState} {e : AgentEvent} {a c : ConnId} {uid : Uid}

theorem effect_of_step (h : s.step e = some t) : s.Effect e t := by
  cases e with
  | connect c uid =>
      simp only [step] at h
      split_ifs at h with hpc
      obtain rfl := Option.some.inj h
      exact .connect hpc
  | first c msg =>
      cases msg with
      | registerAgent reg =>
          simp only [step] at h
          split_ifs at h with hpc hv hg
          · obtain rfl := Option.some.inj h
            exact .reject hpc
          · obtain rfl := Option.some.inj h
            exact .register hpc (Option.not_isSome_iff_eq_none.mp hg)
      | _ =>
          simp only [step] at h
          split_ifs at h with hpc
          obtain rfl := Option.some.inj h
          exact .reject hpc
  | receive c msg =>
      simp only [step] at h
      split_ifs at h with hpc
      rcases hl : msg.reported with _ | l <;> rw [hl] at h
      · obtain rfl := Option.some.inj h
        exact .ignore hpc hl
      · obtain rfl := Option.some.inj h
        exact .report hpc hl
  | disconnect c =>
      simp only [step] at h
      rcases hpc : s.task c <;> rw [hpc] at h <;> simp only [reduceCtorEq, Option.some.injEq] at h
      · subst h
        exact .hangUp hpc
      · subst h
        exact .leave hpc
  | beginCleanup c =>
      simp only [step] at h
      split_ifs at h with hpc
      rcases ha : s.activeToken c with _ | a <;> rw [ha] at h
      · obtain rfl := Option.some.inj h
        refine .replaced hpc.1 hpc.2 fun a hag htoken => ?_
        simp [activeToken, hag, htoken] at ha
      · obtain rfl := Option.some.inj h
        obtain ⟨hag, htoken⟩ := Option.filter_eq_some_iff.mp ha
        exact .takeOut hpc.1 hpc.2 hag (by simpa using htoken)
  | removeDevices c =>
      simp only [step] at h
      rcases hpc : s.task c <;> rw [hpc] at h <;> simp only [reduceCtorEq, Option.some.injEq] at h
      subst h
      exact .removeDevices hpc
  | removeTunnels c =>
      simp only [step] at h
      split_ifs at h with hpc
      obtain rfl := Option.some.inj h
      exact .removeTunnels hpc
  | addTunnel port l =>
      obtain rfl := Option.some.inj h
      exact .addTunnel
  | pollShared lists =>
      obtain rfl := Option.some.inj h
      exact .pollShared

/-! ## Consistency of the tasks -/

/-- What holds of the tasks in every run. -/
structure Consistent (s : DaemonState) : Prop where
  guard : ∀ c, (s.task c).holds → s.guard = some c
  agents_live : ∀ uid a, s.agents uid = some a →
    (s.conn a).uid = uid ∧ (s.task a = .serving ∨ s.task a = .leaving)
  taken_out : ∀ c a, s.task c = .removingDevices a →
    s.agents (s.conn c).uid = none ∧ (s.conn a).uid = (s.conn c).uid ∧ s.task a ≠ .absent
  newest_uid : ∀ uid a, s.newest uid = some a → (s.conn a).uid = uid ∧ s.task a ≠ .absent

/-- A connection keeps its user once it is accepted. -/
theorem uid_step (h : s.Effect e t) (ha : s.task a ≠ .absent) :
    (t.conn a).uid = (s.conn a).uid ∧ t.task a ≠ .absent := by
  cases h with
  | @connect c uid hpc =>
      have hne : a ≠ c := fun hac => ha (hac ▸ hpc)
      simp [goto, hne, ha]
  | @register c reg =>
      by_cases hac : a = c
      · subst hac
        simp [register, goto]
      · simp [register, goto, hac, ha]
  | report | ignore | addTunnel | pollShared => exact ⟨rfl, ha⟩
  | @reject c | @hangUp c | @leave c | @takeOut c | @replaced c | @removeDevices c | @removeTunnels c =>
      by_cases hac : a = c <;> simp [goto, takeOut, hac, ha]

theorem guard_step (hs : s.Consistent) (h : s.Effect e t) (hc : (t.task c).holds) :
    t.guard = some c := by
  have hg := hs.guard
  cases h with
  | @takeOut d b hpc hfree =>
      by_cases hcd : c = d
      · rw [hcd]
        rfl
      · simp only [takeOut, goto, Function.update_of_ne hcd] at hc
        simp [hg c hc] at hfree
  | @removeTunnels d hpc =>
      by_cases hcd : c = d
      · simp [goto, hcd, HandleAgent.holds] at hc
      · simp only [goto, Function.update_of_ne hcd] at hc
        have hgd := hg d (by rw [hpc]; rfl)
        rw [hg c hc] at hgd
        exact absurd (Option.some.inj hgd) hcd
  | @removeDevices d b hpc =>
      by_cases hcd : c = d
      · exact hg c (by rw [hcd, hpc]; rfl)
      · exact hg c (by simpa [goto, hcd] using hc)
  | report | ignore | addTunnel | pollShared => exact hg c hc
  | @connect d | @reject d | @register d | @hangUp d | @leave d | @replaced d =>
      by_cases hcd : c = d
      · simp [goto, register, hcd, HandleAgent.holds] at hc
      · exact hg c (by simpa [goto, register, hcd] using hc)

theorem agents_step (hs : s.Consistent) (h : s.Effect e t) (ha : t.agents uid = some a) :
    (t.conn a).uid = uid ∧ (t.task a = .serving ∨ t.task a = .leaving) := by
  -- a registration that was there before keeps its user
  have hold : s.agents uid = some a → (t.conn a).uid = uid ∧
      (s.task a = .serving ∨ s.task a = .leaving) := by
    intro hsa
    obtain ⟨huid, hlive⟩ := hs.agents_live uid a hsa
    have hne : s.task a ≠ .absent := by rcases hlive with h | h <;> simp [h]
    exact ⟨(uid_step h hne).1.trans huid, hlive⟩
  cases h with
  | @register d reg hpc =>
      by_cases hud : uid = (s.conn d).uid
      · obtain rfl : d = a := by simpa [register, hud] using ha
        simp [register, goto, hud]
      · have hsa : s.agents uid = some a := by simpa [register, hud] using ha
        obtain ⟨huid, hlive⟩ := hold hsa
        have had : a ≠ d := fun had => by rw [had, hpc] at hlive; simp at hlive
        exact ⟨huid, by simpa [register, goto, had] using hlive⟩
  | @takeOut d b hpc =>
      by_cases hud : uid = (s.conn d).uid
      · simp [takeOut, hud] at ha
      · have hsa : s.agents uid = some a := by simpa [takeOut, hud] using ha
        obtain ⟨huid, hlive⟩ := hold hsa
        have had : a ≠ d := fun had => hud (by rw [← had, ← (hs.agents_live uid a hsa).1])
        exact ⟨huid, by simpa [takeOut, goto, had] using hlive⟩
  | @leave d hpc =>
      obtain ⟨huid, hlive⟩ := hold ha
      refine ⟨huid, ?_⟩
      by_cases had : a = d
      · simp [goto, had]
      · simpa [goto, had] using hlive
  | @replaced d hpc _ hother =>
      obtain ⟨huid, hlive⟩ := hold ha
      have had : a ≠ d := by
        rintro rfl
        rw [← (hs.agents_live uid a ha).1] at ha
        exact hother a ha rfl
      exact ⟨huid, by simpa [goto, had] using hlive⟩
  | report | ignore | addTunnel | pollShared => exact hold ha
  | @connect d _ hpc | @reject d _ hpc | @hangUp d hpc | @removeDevices d _ hpc
  | @removeTunnels d hpc =>
      obtain ⟨huid, hlive⟩ := hold ha
      have had : a ≠ d := fun had => by rw [had, hpc] at hlive; simp at hlive
      exact ⟨huid, by simpa [goto, had] using hlive⟩

theorem taken_out_step (hs : s.Consistent) (h : s.Effect e t)
    (hc : t.task c = .removingDevices a) :
    t.agents (t.conn c).uid = none ∧ (t.conn a).uid = (t.conn c).uid ∧ t.task a ≠ .absent := by
  -- a registration that was taken out before stays so while the lock is held
  have hold : s.task c = .removingDevices a →
      (t.agents (s.conn c).uid = s.agents (s.conn c).uid) →
      t.agents (t.conn c).uid = none ∧ (t.conn a).uid = (t.conn c).uid ∧ t.task a ≠ .absent := by
    intro hsc hag
    obtain ⟨hnone, huid, hne⟩ := hs.taken_out c a hsc
    obtain ⟨ha, hta⟩ := uid_step h hne
    obtain ⟨hcu, -⟩ := uid_step h (show s.task c ≠ .absent by simp [hsc])
    exact ⟨by rw [hcu, hag, hnone], by rw [ha, hcu, huid], hta⟩
  cases h with
  | @takeOut d b hpc hfree hag =>
      by_cases hcd : c = d
      · subst hcd
        obtain rfl : b = a := by simpa [takeOut, goto] using hc
        obtain ⟨huid, hlive⟩ := hs.agents_live _ b hag
        refine ⟨by simp [takeOut, goto], huid, ?_⟩
        by_cases hbc : b = c
        · simp [takeOut, goto, hbc]
        · rcases hlive with hb | hb <;> simp [takeOut, goto, hbc, hb]
      · have hsc : s.task c = .removingDevices a := by simpa [takeOut, goto, hcd] using hc
        rw [hs.guard c (by rw [hsc]; rfl)] at hfree
        simp at hfree
  | @register d reg hpc hfree =>
      by_cases hcd : c = d
      · simp [register, goto, hcd] at hc
      · have hsc : s.task c = .removingDevices a := by simpa [register, goto, hcd] using hc
        rw [hs.guard c (by rw [hsc]; rfl)] at hfree
        simp at hfree
  | report | ignore | addTunnel | pollShared => exact hold hc rfl
  | @connect d | @reject d | @hangUp d | @leave d | @replaced d | @removeDevices d
  | @removeTunnels d =>
      by_cases hcd : c = d
      · simp [goto, hcd] at hc
      · exact hold (by simpa [goto, hcd] using hc) rfl

theorem newest_step (hs : s.Consistent) (h : s.Effect e t) (ha : t.newest uid = some a) :
    (t.conn a).uid = uid ∧ t.task a ≠ .absent := by
  have hold : s.newest uid = some a → (t.conn a).uid = uid ∧ t.task a ≠ .absent := by
    intro hsa
    obtain ⟨huid, hne⟩ := hs.newest_uid uid a hsa
    obtain ⟨hu, hta⟩ := uid_step h hne
    exact ⟨hu.trans huid, hta⟩
  cases h with
  | @register d reg hpc =>
      by_cases hud : uid = (s.conn d).uid
      · obtain rfl : d = a := by simpa [register, hud] using ha
        simp [register, goto, hud]
      · exact hold (by simpa [register, hud] using ha)
  | _ => exact hold ha

theorem Consistent.step (hs : s.Consistent) (h : s.Effect e t) : t.Consistent :=
  ⟨fun _ => guard_step hs h, fun _ _ => agents_step hs h, fun _ _ => taken_out_step hs h,
    fun _ _ => newest_step hs h⟩


theorem consistent_of_run {C : DaemonState → AgentEvent → Prop} {events : List AgentEvent}
    (h : machine.Run C events s) : s.Consistent := by
  refine h.invariant ?_ fun _ _ _ hs _ hstep => hs.step (effect_of_step hstep)
  constructor <;> simp [machine, HandleAgent.holds]

/-! ## Two connections of one user -/

/-- A registration with the given token. -/
def registration (token : String) : IpcMessage :=
  .registerAgent ⟨protocolVersion, ["devices", "streams"], token⟩

/-- A report of the device `ABC`. -/
def reportAbc : IpcMessage :=
  .deviceSnapshotChanged ⟨1, [⟨"ABC", "ABC", "device", "", "office", "office:ABC"⟩]⟩

/-- Connection 0 of user 1000 is replaced by connection 1 and leaves. -/
def replacement (token token' : String) : List AgentEvent :=
  [.connect 0 1000, .first 0 (registration token), .receive 0 reportAbc, .connect 1 1000,
    .first 1 (registration token'), .disconnect 0, .beginCleanup 0]

end DaemonState

end AdbHub
