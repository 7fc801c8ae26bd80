import AdbHub.Daemon.Agents

/-!
# Whose device list is stored

The private list the daemon keeps for a user, against the connection that is registered for the
user (`daemon.rs`, `agent_read_loop`; `tenant.rs`).

* `DaemonState.Registered` — the registration of a user, until the cleanup that takes it out has
  removed the private devices.
* `DaemonState.Owned` — a list is stored exactly when the registered connection stands for it; one
  lemma for each kind of step (`Owned.register`, `Owned.report`, `Owned.removeDevices`).
* **`private_lists_owned_iff`** — a stored list is that of the registered connection, exactly when
  every list that is taken up comes from the registered connection or is the stored one.
-/

namespace AdbHub

open Lib

namespace DaemonState

variable {s t : DaemonState} {e : AgentEvent} {a c : ConnId} {uid : Uid}

/-- The registration of a user: the entry of `agents`, or the entry that a cleanup has taken out
while it holds the lock and is about to remove the private devices. -/
def Registered (s : DaemonState) (uid : Uid) (a : ConnId) : Prop :=
  s.agents uid = some a ∨ ∃ c, (s.conn c).uid = uid ∧ s.task c = .removingDevices a

/-- The list a connection stands for: the last one received from it, or before that the one that
was stored when it registered. -/
def listOf (s : DaemonState) (a : ConnId) : Option DeviceSnapshot := (s.received a).or (s.found a)

/-- A stored private list is that of the registered connection, and a user all of whose
connections are finished has none. -/
def PrivateListsOwned (s : DaemonState) : Prop :=
  (∀ uid l, s.tenants.priv uid = some l →
    ∃ a, s.Registered uid a ∧ (s.conn a).uid = uid ∧ s.listOf a = some l) ∧
  ∀ uid, (∀ c, (s.conn c).uid = uid → s.task c = .absent ∨ s.task c = .finished) →
    s.tenants.priv uid = none

/-- A list that is taken up comes from the registered connection, or is the stored one. -/
def ReportsFromRegistered (s : DaemonState) : AgentEvent → Prop
  | .receive c msg => ∀ l, msg.reported = some l →
      s.Registered (s.conn c).uid c ∨ s.tenants.priv (s.conn c).uid = some l
  | _ => True

/-- A private list is stored exactly when the registered connection stands for it. -/
def Owned (s : DaemonState) : Prop :=
  ∀ uid l, s.tenants.priv uid = some l ↔ ∃ a, s.Registered uid a ∧ s.listOf a = some l

theorem Registered.uid_eq (hs : s.Consistent) (h : s.Registered uid a) : (s.conn a).uid = uid := by
  rcases h with ha | ⟨c, rfl, hc⟩
  · exact (hs.agents_live uid a ha).1
  · exact (hs.taken_out c a hc).2.1

theorem Registered.unique {b : ConnId} (hs : s.Consistent) (ha : s.Registered uid a)
    (hb : s.Registered uid b) : a = b := by
  rcases ha with ha | ⟨c, hcu, hc⟩ <;> rcases hb with hb | ⟨d, hdu, hd⟩
  · exact Option.some.inj (ha.symm.trans hb)
  · rw [← hdu, (hs.taken_out d b hd).1] at ha
    simp at ha
  · rw [← hcu, (hs.taken_out c a hc).1] at hb
    simp at hb
  · have hgc := hs.guard c (by rw [hc]; rfl)
    rw [hs.guard d (by rw [hd]; rfl)] at hgc
    obtain rfl := Option.some.inj hgc
    rw [hc] at hd
    cases hd
    rfl

/-- While the lock is free the registration is the entry of `agents`. -/
theorem registered_iff_of_free (hs : s.Consistent) (hfree : s.guard = none) :
    s.Registered uid a ↔ s.agents uid = some a := by
  apply or_iff_left
  rintro ⟨c, -, hc⟩
  rw [hs.guard c (by rw [hc]; rfl)] at hfree
  simp at hfree

/-- Steps that change no registration. -/
theorem registered_congr (hag : t.agents = s.agents)
    (htask : ∀ c b, t.task c = .removingDevices b ↔ s.task c = .removingDevices b)
    (hconn : ∀ c b, s.task c = .removingDevices b → (t.conn c).uid = (s.conn c).uid) :
    t.Registered uid a ↔ s.Registered uid a := by
  unfold Registered
  rw [hag]
  refine or_congr_right (exists_congr fun c => ?_)
  rw [htask]
  constructor
  · rintro ⟨hu, hc⟩
    exact ⟨(hconn c a hc) ▸ hu, hc⟩
  · rintro ⟨hu, hc⟩
    exact ⟨(hconn c a hc).trans hu, hc⟩

/-- Moving a task between stages in which it has taken out no registration. -/
theorem registered_goto {pc : HandleAgent} (hs : ∀ b, s.task c ≠ .removingDevices b)
    (hpc : ∀ b, pc ≠ .removingDevices b) :
    (s.goto c pc).Registered uid a ↔ s.Registered uid a := by
  refine registered_congr rfl (fun d b => ?_) fun _ _ _ => rfl
  by_cases hdc : d = c
  · subst hdc
    simp [goto, hs b, hpc b]
  · simp [goto, hdc]

theorem registered_register {reg : RegisterAgent} (hs : s.Consistent) (hfree : s.guard = none) :
    (s.register c reg).Registered uid a ↔
      if uid = (s.conn c).uid then a = c else s.Registered uid a := by
  have hnone : ∀ d b, (s.register c reg).task d ≠ .removingDevices b := by
    intro d b hd
    by_cases hdc : d = c
    · simp [register, goto, hdc] at hd
    · have hsd : s.task d = .removingDevices b := by simpa [register, goto, hdc] using hd
      rw [hs.guard d (by rw [hsd]; rfl)] at hfree
      simp at hfree
  have hright : ¬ ∃ d, ((s.register c reg).conn d).uid = uid ∧
      (s.register c reg).task d = .removingDevices a := by
    rintro ⟨d, -, hd⟩
    exact hnone d a hd
  rw [Registered, or_iff_left hright, registered_iff_of_free hs hfree]
  by_cases hu : uid = (s.conn c).uid
  · simp [register, hu, eq_comm]
  · simp [register, hu]

theorem registered_takeOut {b : ConnId} (hs : s.Consistent) (hfree : s.guard = none)
    (hb : s.agents (s.conn c).uid = some b) :
    (s.takeOut c b).Registered uid a ↔ s.Registered uid a := by
  have htaken : ∀ d, (s.takeOut c b).task d = .removingDevices a ↔ d = c ∧ a = b := by
    intro d
    by_cases hdc : d = c
    · simp [takeOut, goto, hdc, eq_comm]
    · simp only [takeOut, goto, Function.update_of_ne hdc, hdc, false_and, iff_false]
      intro hd
      rw [hs.guard d (by rw [hd]; rfl)] at hfree
      simp at hfree
  rw [registered_iff_of_free hs hfree, Registered]
  simp only [htaken]
  by_cases hu : uid = (s.conn c).uid
  · subst hu
    simp [takeOut, goto, hb, eq_comm]
  · have hcu : ¬ (s.conn c).uid = uid := fun h => hu h.symm
    simp [takeOut, goto, hu, hcu]

theorem registered_removeDevices {b : ConnId} {tenants : TenantRegistry} (hs : s.Consistent)
    (hpc : s.task c = .removingDevices b) :
    ({ s.goto c .removingTunnels with tenants := tenants } : DaemonState).Registered uid a ↔
      uid ≠ (s.conn c).uid ∧ s.Registered uid a := by
  have honly : ∀ d e, s.task d = .removingDevices e → d = c := by
    intro d e hd
    have hgd := hs.guard d (by rw [hd]; rfl)
    rw [hs.guard c (by rw [hpc]; rfl)] at hgd
    exact (Option.some.inj hgd).symm
  have hnone : ∀ d, (s.goto c .removingTunnels).task d ≠ .removingDevices a := by
    intro d hd
    by_cases hdc : d = c
    · simp [goto, hdc] at hd
    · exact hdc (honly d a (by simpa [goto, hdc] using hd))
  have hright : ¬ ∃ d, (s.conn d).uid = uid ∧
      (s.goto c .removingTunnels).task d = .removingDevices a := by
    rintro ⟨d, -, hd⟩
    exact hnone d hd
  have hgone := (hs.taken_out c b hpc).1
  constructor
  · rintro (ha | hd)
    · refine ⟨?_, .inl ha⟩
      rintro rfl
      have hag : s.agents (s.conn c).uid = some a := ha
      rw [hgone] at hag
      simp at hag
    · exact absurd hd hright
  · rintro ⟨hu, ha | ⟨d, hdu, hd⟩⟩
    · exact .inl ha
    · rw [honly d a hd] at hdu
      exact absurd hdu.symm hu

/-- Steps that change neither registrations nor lists. -/
theorem Owned.congr (ho : s.Owned) (hpriv : t.tenants.priv = s.tenants.priv)
    (hreg : ∀ uid a, t.Registered uid a ↔ s.Registered uid a)
    (hlist : ∀ uid a, s.Registered uid a → t.listOf a = s.listOf a) : t.Owned := by
  intro uid l
  rw [hpriv, ho uid l]
  refine exists_congr fun a => ?_
  rw [hreg]
  exact and_congr_right fun ha => by rw [hlist uid a ha]

theorem Owned.register {reg : RegisterAgent} (hs : s.Consistent) (ho : s.Owned)
    (hpc : s.task c = .connected) (hfree : s.guard = none) : (s.register c reg).Owned := by
  intro uid l
  simp only [registered_register hs hfree]
  by_cases hu : uid = (s.conn c).uid
  · subst hu
    simp [DaemonState.register, goto, listOf]
  · simp only [hu, if_false]
    rw [show (s.register c reg).tenants.priv = s.tenants.priv from rfl, ho uid l]
    refine exists_congr fun a => and_congr_right fun ha => ?_
    have hac : a ≠ c := by
      rintro rfl
      rcases (hs.agents_live uid a ((registered_iff_of_free hs hfree).mp ha)).2 with h | h <;>
        simp [hpc] at h
    simp [DaemonState.register, goto, listOf, hac]

theorem Owned.report {l : DeviceSnapshot} (hs : s.Consistent) (ho : s.Owned)
    (hc : s.Registered (s.conn c).uid c ∨ s.tenants.priv (s.conn c).uid = some l) :
    (s.report c l).Owned := by
  have hreg : ∀ uid a, (s.report c l).Registered uid a ↔ s.Registered uid a := fun _ _ => Iff.rfl
  have hself : (s.report c l).listOf c = some l := by simp [DaemonState.report, listOf]
  have hother : ∀ a, a ≠ c → (s.report c l).listOf a = s.listOf a := by
    intro a hac
    simp [DaemonState.report, listOf, hac]
  intro uid l'
  simp only [hreg]
  by_cases hu : uid = (s.conn c).uid
  · subst hu
    have hpriv : (s.report c l).tenants.priv (s.conn c).uid = some l := by
      simp [DaemonState.report]
    rw [hpriv]
    by_cases hrc : s.Registered (s.conn c).uid c
    · constructor
      · rintro ⟨⟩
        exact ⟨c, hrc, hself⟩
      · rintro ⟨a, ha, hal⟩
        obtain rfl := ha.unique hs hrc
        rwa [hself] at hal
    · -- a report of the stored list by another connection
      rw [← hc.resolve_left hrc, ho]
      refine exists_congr fun a => and_congr_right fun ha => ?_
      rw [hother a fun hac => hrc (hac ▸ ha)]
  · have hpriv : (s.report c l).tenants.priv uid = s.tenants.priv uid := by
      simp [DaemonState.report, hu]
    rw [hpriv, ho]
    refine exists_congr fun a => and_congr_right fun ha => ?_
    have hac : a ≠ c := by
      rintro rfl
      exact hu (ha.uid_eq hs).symm
    rw [hother a hac]

theorem Owned.removeDevices {b : ConnId} (hs : s.Consistent) (ho : s.Owned)
    (hpc : s.task c = .removingDevices b) :
    ({ s.goto c .removingTunnels with
        tenants := s.tenants.removeAgent (s.conn c).uid } : DaemonState).Owned := by
  intro uid l
  simp only [registered_removeDevices hs hpc]
  by_cases hu : uid = (s.conn c).uid
  · simp [hu]
  · simp only [ne_eq, hu, not_false_eq_true, true_and, TenantRegistry.priv_removeAgent,
      Function.update_of_ne hu]
    exact ho uid l

theorem owned_step (hs : s.Consistent) (ho : s.Owned) (h : s.Effect e t)
    (hc : s.ReportsFromRegistered e) : t.Owned := by
  cases h with
  | register hpc hfree => exact ho.register hs hpc hfree
  | report hpc hl => exact ho.report hs (hc _ hl)
  | removeDevices hpc => exact ho.removeDevices hs hpc
  | takeOut hpc hfree ha =>
      exact ho.congr rfl (fun _ _ => registered_takeOut hs hfree ha) fun _ _ _ => rfl
  | @connect c uid hpc =>
      refine ho.congr rfl (fun uid' a => registered_congr rfl (fun d b => ?_) fun d b hd => ?_)
        fun _ _ _ => rfl
      · by_cases hdc : d = c
        · subst hdc
          simp [goto, hpc]
        · simp [goto, hdc]
      · have hdc : d ≠ c := by
          rintro rfl
          rw [hpc] at hd
          simp at hd
        simp [hdc]
  | reject hpc | hangUp hpc | leave hpc | replaced hpc =>
      refine ho.congr rfl (fun uid a => ?_) fun _ _ _ => rfl
      exact registered_goto (by simp [hpc]) (by simp)
  | @removeTunnels c hpc =>
      refine ho.congr rfl (fun uid a => ?_) fun _ _ _ => rfl
      exact registered_goto (s := s) (by simp [hpc]) (by simp)
  | ignore | addTunnel => exact ho
  | pollShared => exact ho.congr rfl (fun _ _ => Iff.rfl) fun _ _ _ => rfl

theorem Owned.privateListsOwned (hs : s.Consistent) (ho : s.Owned) : s.PrivateListsOwned := by
  refine ⟨fun uid l hl => ?_, fun uid hdone => ?_⟩
  · obtain ⟨a, ha, hal⟩ := (ho uid l).mp hl
    exact ⟨a, ha, ha.uid_eq hs, hal⟩
  · by_contra hne
    obtain ⟨l, hl⟩ := Option.ne_none_iff_exists'.mp hne
    obtain ⟨a, ha | ⟨c, hcu, hc⟩, -⟩ := (ho uid l).mp hl
    · obtain ⟨huid, hlive⟩ := hs.agents_live uid a ha
      rcases hdone a huid with h | h <;> simp [h] at hlive
    · rcases hdone c hcu with h | h <;> simp [hc] at h

theorem owned_of_run {events : List AgentEvent} (h : machine.Run ReportsFromRegistered events s) :
    s.Consistent ∧ s.Owned := by
  refine h.invariant (I := fun s => s.Consistent ∧ s.Owned)
    ⟨consistent_of_run (.init : machine.Run (fun _ _ => True) [] _), ?_⟩ ?_
  · intro uid l
    simp [machine, Registered]
  · rintro s e t ⟨hs, ho⟩ hc hstep
    have heff := effect_of_step hstep
    exact ⟨hs.step heff, owned_step hs ho heff hc⟩

/-- A report that is neither from the registered connection nor the stored list leaves a list that
no registered connection stands for. -/
theorem not_owned_of_report {l : DeviceSnapshot} (ho : s.Owned)
    (hreg : ¬ s.Registered (s.conn c).uid c) (hnew : s.tenants.priv (s.conn c).uid ≠ some l) :
    ¬ (s.report c l).PrivateListsOwned := by
  intro hp
  obtain ⟨a, ha, -, hal⟩ := hp.1 (s.conn c).uid l (by simp [report])
  have hsa : s.Registered (s.conn c).uid a := ha
  have hac : a ≠ c := fun hac => hreg (hac ▸ hsa)
  have hsl : s.listOf a = some l := by simpa [report, listOf, hac] using hal
  exact hnew ((ho _ l).mpr ⟨a, hsa, hsl⟩)

/-- **Private lists are owned, exactly.** In all states of a run a stored private list is that of
the registered connection, and absent once all connections of the user are finished, iff every
list that is taken up comes from the registered connection or is the stored one.
Source: `daemon.rs`, `agent_read_loop` -/
theorem private_lists_owned_iff {events : List AgentEvent} (h : machine.Reaches events s) :
    machine.Always PrivateListsOwned events ↔ machine.Run ReportsFromRegistered events s := by
  refine Machine.always_iff_run (I := fun s => s.Consistent ∧ s.Owned) (H := fun _ => True)
    (fun _ _ => owned_of_run) ?_ ?_ h fun _ _ _ _ => trivial
  · obtain ⟨hs, ho⟩ := owned_of_run .init
    exact ho.privateListsOwned hs
  · rintro s e t - - ⟨hs, ho⟩ - hstep
    have heff := effect_of_step hstep
    constructor
    · intro ht
      cases heff with
      | @report c msg l hpc hl =>
          intro l' hl'
          obtain rfl : l = l' := Option.some.inj (hl.symm.trans hl')
          by_contra hcon
          obtain ⟨hreg, hnew⟩ := not_or.mp hcon
          exact not_owned_of_report ho hreg hnew ht
      | ignore _ hl =>
          intro l hl'
          rw [hl] at hl'
          cases hl'
      | _ => trivial
    · intro hc
      exact (owned_step hs ho heff hc).privateListsOwned (hs.step heff)

/-- The newer connection takes the registration over. -/
theorem replacement_owned :
    machine.Always PrivateListsOwned (replacement "t0" "t1") := by
  have hrun : ∃ s, machine.Run ReportsFromRegistered (replacement "t0" "t1") s := by
    refine ⟨_, .snoc (.snoc (.snoc (.snoc (.snoc (.snoc (.snoc .init trivial rfl) trivial rfl) ?_
      rfl) trivial rfl) trivial rfl) trivial rfl) trivial rfl⟩
    intro l _
    exact .inl (.inl rfl)
  obtain ⟨s, hs⟩ := hrun
  exact (private_lists_owned_iff hs.reaches).mpr hs

/-- Connection 0 is replaced by connection 1, which leaves; then connection 0 reports and leaves. -/
def staleReport : List AgentEvent :=
  [.connect 0 1000, .first 0 (registration "t0"), .connect 1 1000, .first 1 (registration "t1"),
    .disconnect 1, .beginCleanup 1, .removeDevices 1, .removeTunnels 1, .receive 0 reportAbc,
    .disconnect 0, .beginCleanup 0]

/-- All connections of the user are finished, and the list the replaced one reported is still
there. -/
theorem stale_report_stays :
    ∃ s, machine.Reaches staleReport s ∧
      (∀ c, s.task c = .absent ∨ s.task c = .finished) ∧
      (s.tenants.priv 1000).map DeviceSnapshot.serials = some ["ABC"] ∧
      ¬ s.PrivateListsOwned := by
  have hstate : ∃ s, machine.Reaches staleReport s ∧
      (∀ c, s.task c = .absent ∨ s.task c = .finished) ∧
      (s.tenants.priv 1000).map DeviceSnapshot.serials = some ["ABC"] := by
    refine ⟨_, Machine.reaches_of_exec rfl, fun c => ?_, by decide +kernel⟩
    rcases c with _ | _ | c
    · exact .inr rfl
    · exact .inr rfl
    · exact .inl rfl
  obtain ⟨s, hr, hall, hlist⟩ := hstate
  refine ⟨s, hr, hall, hlist, fun hp => ?_⟩
  rw [hp.2 1000 fun c _ => hall c] at hlist
  simp at hlist

end DaemonState

end AdbHub
