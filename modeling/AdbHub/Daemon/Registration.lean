import AdbHub.Daemon.Agents

/-!
# Which connection is registered

The entry of `agents` for a user, against the connection of the user that registered last
(`daemon.rs`, `handle_agent`).

* `DaemonState.NewestRegistered` — the entry is the newest connection until that connection's own
  cleanup, and only its cleanup removes devices and tunnels.
* **`newest_registered_iff`** — this holds in all states of a run exactly when no cleanup runs while
  another connection with the same token is registered.
-/

namespace AdbHub

open Lib

namespace DaemonState

variable {s t : DaemonState} {e : AgentEvent} {a c : ConnId} {uid : Uid}

/-- The task has registered and its cleanup has not run. -/
def Live (s : DaemonState) (a : ConnId) : Prop := s.task a = .serving ∨ s.task a = .leaving

/-- `agents` holds the newest connection of a user until the cleanup of that connection, and
nothing afterwards; and a cleanup that removes devices and tunnels is that of the newest
connection. -/
def NewestRegistered (s : DaemonState) : Prop :=
  (∀ uid a, s.agents uid = some a ↔ s.newest uid = some a ∧ s.Live a) ∧
    ∀ c, (s.task c).holds → s.newest (s.conn c).uid = some c

/-- No other connection with the same token is registered when a cleanup runs. -/
def CleansOwnRegistration (s : DaemonState) : AgentEvent → Prop
  | .beginCleanup c => ∀ a, s.agents (s.conn c).uid = some a →
      (s.conn a).instanceToken = (s.conn c).instanceToken → a = c
  | _ => True

/-- Moving a task that is not live before or after, and does not take the lock. -/
theorem NewestRegistered.goto {pc : HandleAgent} (hn : s.NewestRegistered)
    (hs : ¬ s.Live c) (hpc : pc ≠ .serving ∧ pc ≠ .leaving)
    (hholds : pc.holds → (s.task c).holds) : (s.goto c pc).NewestRegistered := by
  refine ⟨fun uid a => ?_, fun d hd => ?_⟩
  · rw [show (s.goto c pc).agents = s.agents from rfl, hn.1 uid a]
    refine and_congr_right fun _ => ?_
    by_cases hac : a = c
    · subst hac
      apply iff_of_false hs
      simp [Live, DaemonState.goto, hpc.1, hpc.2]
    · simp [Live, DaemonState.goto, hac]
  · apply hn.2 d
    by_cases hdc : d = c
    · subst hdc
      exact hholds (by simpa [DaemonState.goto] using hd)
    · simpa [DaemonState.goto, hdc] using hd

theorem newestRegistered_step (hs : s.Consistent) (hn : s.NewestRegistered) (h : s.Effect e t)
    (hc : s.CleansOwnRegistration e) : t.NewestRegistered := by
  cases h with
  | report | ignore | addTunnel | pollShared => exact hn
  | @connect c uid hpc =>
      have hgoto : (s.goto c .connected).NewestRegistered :=
        hn.goto (by simp [Live, hpc]) (by simp) (by simp [HandleAgent.holds])
      refine ⟨hgoto.1, fun d hd => ?_⟩
      have hdc : d ≠ c := by
        rintro rfl
        simp [goto, HandleAgent.holds] at hd
      simpa [goto, hdc] using hgoto.2 d hd
  | reject hpc | hangUp hpc =>
      exact hn.goto (by simp [Live, hpc]) (by simp) (by simp [HandleAgent.holds])
  | removeDevices hpc =>
      exact hn.goto (by simp [Live, hpc]) (by simp) (by simp [hpc, HandleAgent.holds])
  | removeTunnels hpc =>
      exact hn.goto (by simp [Live, hpc]) (by simp) (by simp [HandleAgent.holds])
  | @leave c hpc =>
      refine ⟨fun uid a => ?_, fun d hd => hn.2 d ?_⟩
      · rw [show (s.goto c .leaving).agents = s.agents from rfl, hn.1 uid a]
        refine and_congr_right fun _ => ?_
        by_cases hac : a = c <;> simp [Live, goto, hac, hpc]
      · by_cases hdc : d = c
        · simp [goto, hdc, HandleAgent.holds] at hd
        · simpa [goto, hdc] using hd
  | @replaced c hpc hfree hother =>
      refine ⟨fun uid a => ?_, fun d hd => hn.2 d ?_⟩
      · by_cases hac : a = c
        · subst hac
          have hnot : s.agents uid ≠ some a := by
            intro ha
            rw [← (hs.agents_live uid a ha).1] at ha
            exact hother a ha rfl
          simp [goto, Live, hnot]
        · rw [show (s.goto c .finished).agents = s.agents from rfl, hn.1 uid a]
          simp [Live, goto, hac]
      · by_cases hdc : d = c
        · simp [goto, hdc, HandleAgent.holds] at hd
        · simpa [goto, hdc] using hd
  | @takeOut c b hpc hfree hb htoken =>
      obtain rfl : b = c := hc b hb htoken
      refine ⟨fun uid a => ?_, fun d hd => ?_⟩
      · by_cases hu : uid = (s.conn b).uid
        · subst hu
          have hnew := ((hn.1 _ b).mp hb).1
          simp only [takeOut, Function.update_self, reduceCtorEq, false_iff, not_and]
          rintro hna
          obtain rfl : b = a := Option.some.inj (hnew.symm.trans hna)
          simp [Live, goto]
        · have hag : (s.takeOut b b).agents uid = s.agents uid := by simp [takeOut, hu]
          rw [hag, hn.1 uid a]
          refine and_congr_right fun hna => ?_
          have hab : a ≠ b := fun hab => hu (hab ▸ (hs.newest_uid uid a hna).1.symm)
          simp [Live, takeOut, goto, hab]
      · by_cases hdb : d = b
        · subst hdb
          exact ((hn.1 _ d).mp hb).1
        · have hsd : (s.task d).holds := by simpa [takeOut, goto, hdb] using hd
          rw [hs.guard d hsd] at hfree
          simp at hfree
  | @register c reg hpc hfree =>
      refine ⟨fun uid a => ?_, fun d hd => ?_⟩
      · by_cases hu : uid = (s.conn c).uid
        · subst hu
          simp only [register, Function.update_self, Option.some.injEq]
          refine ⟨?_, fun h => h.1⟩
          rintro rfl
          simp [Live, goto]
        · have hag : (s.register c reg).agents uid = s.agents uid := by simp [register, hu]
          have hne : (s.register c reg).newest uid = s.newest uid := by simp [register, hu]
          rw [hag, hne, hn.1 uid a]
          refine and_congr_right fun hna => ?_
          have hac : a ≠ c := fun hac => hu (hac ▸ (hs.newest_uid uid a hna).1.symm)
          simp [Live, register, goto, hac]
      · by_cases hdc : d = c
        · simp [register, goto, hdc, HandleAgent.holds] at hd
        · have hsd : (s.task d).holds := by simpa [register, goto, hdc] using hd
          rw [hs.guard d hsd] at hfree
          simp at hfree

/-- Taking out the registration of another connection removes the newest one before its cleanup. -/
theorem not_newestRegistered_of_takeOut {b : ConnId} (hn : s.NewestRegistered)
    (hb : s.agents (s.conn c).uid = some b) (hbc : b ≠ c) :
    ¬ (s.takeOut c b).NewestRegistered := by
  intro ht
  obtain ⟨hnew, hlive⟩ := (hn.1 _ b).mp hb
  have hag := (ht.1 (s.conn c).uid b).mpr ⟨hnew, by simpa [Live, takeOut, goto, hbc] using hlive⟩
  simp [takeOut] at hag

/-- **The newest connection is registered, exactly.** In all states of a run `agents` holds the
newest connection of a user until its own cleanup and nothing afterwards, and only the newest
connection's cleanup removes anything, iff no cleanup runs while another connection with the same
token is registered.
Source: `daemon.rs`, `handle_agent` ("Only remove if we are still the active agent for this
uid") -/
theorem newest_registered_iff {events : List AgentEvent} (h : machine.Reaches events s) :
    machine.Always NewestRegistered events ↔ machine.Run CleansOwnRegistration events s := by
  refine Machine.always_iff_run (I := Consistent) (H := fun _ => True)
    (fun _ _ => consistent_of_run) ?_ ?_ h fun _ _ _ _ => trivial
  · constructor <;> simp [machine, HandleAgent.holds]
  · intro s e t _ _ hs hn hstep
    have heff := effect_of_step hstep
    constructor
    · intro ht
      cases heff with
      | @takeOut c b hpc hfree hb htoken =>
          intro a ha hat
          by_contra hac
          obtain rfl : b = a := Option.some.inj (hb.symm.trans ha)
          exact not_newestRegistered_of_takeOut hn hb hac ht
      | @replaced c hpc hfree hother =>
          intro a ha hat
          exact absurd hat (hother a ha)
      | _ => trivial
    · exact newestRegistered_step hs hn heff

/-- The cleanup of a replaced connection with another token. -/
theorem replacement_newest :
    machine.Always NewestRegistered (replacement "t0" "t1") := by
  have hrun : ∃ s, machine.Run CleansOwnRegistration (replacement "t0" "t1") s := by
    refine ⟨_, .snoc (.snoc (.snoc (.snoc (.snoc (.snoc (.snoc .init trivial rfl) trivial rfl)
      trivial rfl) trivial rfl) trivial rfl) trivial rfl) ?_ rfl⟩
    intro a ha htoken
    cases (show some 1 = some a from ha)
    exact absurd (show "t1" = "t0" from htoken) (by decide)
  obtain ⟨s, hs⟩ := hrun
  exact (newest_registered_iff hs.reaches).mpr hs

/-- With equal tokens the cleanup of the replaced connection removes the registration of the newer
one, which is still being served. -/
theorem equal_token_removes_newer :
    ∃ s, machine.Reaches (replacement "t" "t") s ∧ s.newest 1000 = some 1 ∧
      s.task 1 = .serving ∧ s.agents 1000 = none ∧ ¬ s.NewestRegistered := by
  refine ⟨_, Machine.reaches_of_exec rfl, rfl, rfl, rfl, ?_⟩
  intro hn
  have h := (hn.1 1000 1).mpr ⟨rfl, .inl rfl⟩
  cases (show (none : Option ConnId) = some 1 from h)

end DaemonState

end AdbHub
