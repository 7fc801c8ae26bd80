import AdbHub.Backend
import AdbHub.Protocol

/-!
# Backends that cannot be reached

The watchers of the poller in their two modes, with every outcome of contacting a backend
(`backend.rs`, `run_backend_watcher` and `watch_track_devices`).

* `BackendPhase` — where a watcher stands in its loop; `BackendWatchers.step` drives the poller's
  shared map and the registry (`watcherSimulation`).
* `ShowsNothing` — nothing is stored for a backend, and nothing was published of it; then the
  registry lists no device of it (`ShowsNothing.unlisted`).
* **`unreachable_empty_iff`** — backends whose watchers wait after a failure show nothing iff
  `EmptyOnFailure` holds of every step.
* **`tracking_leaves_devices_iff`** — with names of their own, and updates of the registry in order,
  this is what the tracking mode fails to do and the polling mode does (`Settled.emptyOnFailure`).
-/

namespace AdbHub

open Lib Protocol

/-! ## The watchers -/

/-- Where a watcher stands. Source: `run_backend_watcher`. -/
inductive BackendPhase
  /-- Source: `probe_track_support`. -/
  | probing
  /-- Source: `watch_track_devices`, up to its loop. -/
  | connecting
  /-- Source: the loop of `watch_track_devices`. -/
  | tracking
  /-- It sleeps for `RECONNECT_WAIT`. -/
  | reconnecting
  /-- It polls. Source: `fetch_devices_l` in `run_backend_watcher`. -/
  | fetching
  /-- It publishes what was polled, or nothing after an error. -/
  | publishing (failed : Bool)
  /-- It sleeps for `poll_interval`. -/
  | sleeping (failed : Bool)
  deriving DecidableEq

/-- The watcher waits to retry after a failed attempt. -/
def BackendPhase.Failed (phase : BackendPhase) : Prop :=
  phase = .reconnecting ∨ phase = .sleeping true

instance (phase : BackendPhase) : Decidable phase.Failed :=
  inferInstanceAs (Decidable (_ ∨ _))

/-- The poller with its watchers. -/
structure BackendWatchers (order : List BackendConfig) where
  poller : Poller order
  phase : ℕ → BackendPhase
  /-- The lists from which the registry was updated last. -/
  listed : List (BackendConfig × String)

/-- What happens next; the outcome of connecting is an error, or the status that was read. -/
inductive BackendEvent
  | probe (i : ℕ) (outcome : Except String Stream)
  | connect (i : ℕ) (outcome : Except String Stream)
  /-- A packet of the tracking stream. -/
  | packet (i : ℕ) (body : Stream)
  /-- The tracking stream ends. -/
  | ended (i : ℕ)
  /-- The list that was polled, or an error. -/
  | fetched (i : ℕ) (outcome : Except String String)
  /-- The watcher copies the lists. Source: `publish_shared`. -/
  | copy (i : ℕ)
  /-- The watcher updates the registry. Source: `publish_shared`. -/
  | update (i : ℕ)
  /-- The watcher has slept. -/
  | retry (i : ℕ)

/-- The backend answered with `OKAY`. -/
def accepts (outcome : Except String Stream) : Prop := outcome = .ok okayStatus

instance (outcome : Except String Stream) : Decidable (accepts outcome) :=
  inferInstanceAs (Decidable (outcome = _))

namespace BackendWatchers

variable {order : List BackendConfig}

/-- The watcher moves on in its loop. -/
def go (s : BackendWatchers order) (i : ℕ) (phase : BackendPhase) : BackendWatchers order :=
  { s with phase := Function.update s.phase i phase }

/-- One step. Source: `run_backend_watcher`, `probe_track_support`, `watch_track_devices` and
`publish_shared`. -/
def step (watched : List BackendConfig) (s : BackendWatchers order) :
    BackendEvent → Option (BackendWatchers order)
  | .probe i outcome =>
      if s.phase i = .probing then
        some (s.go i (if accepts outcome then .connecting else .fetching))
      else none
  | .connect i outcome =>
      if s.phase i = .connecting then
        some (s.go i (if accepts outcome then .tracking else .reconnecting))
      else none
  | .packet i body =>
      if s.phase i = .tracking then
        (s.poller.step watched (.store i (fromUtf8Lossy body))).map fun poller =>
          { s with poller := poller }
      else none
  | .ended i =>
      if s.phase i = .tracking ∧ s.poller.watcher i = .idle then some (s.go i .reconnecting)
      else none
  | .fetched i outcome =>
      if s.phase i = .fetching then
        (s.poller.step watched (.store i (outcome.toOption.getD ""))).map fun poller =>
          { s.go i (.publishing (outcome.toOption.isNone)) with poller := poller }
      else none
  | .copy i =>
      (s.poller.step watched (.copy i)).map fun poller => { s with poller := poller }
  | .update i =>
      match s.poller.watcher i with
      | .copied _ lists =>
          (s.poller.step watched (.update i)).map fun poller =>
            { s with
              poller := poller
              listed := lists
              phase := match s.phase i with
                | .publishing failed => Function.update s.phase i (.sleeping failed)
                | _ => s.phase }
      | _ => none
  | .retry i =>
      match s.phase i with
      | .reconnecting => some (s.go i .connecting)
      | .sleeping _ => some (s.go i .fetching)
      | _ => none

end BackendWatchers

/-- The watchers after the seed poll. Source: `run_backend_poller`. -/
def watcherMachine (seeds : List (BackendConfig × String)) (watched : List BackendConfig)
    (registry : DeviceRegistry) :
    Machine (BackendWatchers (seeds.map Prod.fst)) BackendEvent where
  init := ⟨(pollerMachine seeds watched registry).init, fun _ => .probing,
    (SeededMap.seed seeds).inOrder⟩
  step := BackendWatchers.step watched

namespace BackendWatchers

variable {order : List BackendConfig} {watched : List BackendConfig}
  {s t : BackendWatchers order} {e : BackendEvent} {i : ℕ} {b : BackendConfig}

/-! ## What is shown of a backend -/

/-- The body that is stored under a name. -/
def storedBody (s : BackendWatchers order) (name : String) : String :=
  ((s.poller.shared.map.lookup name).map Prod.snd).getD ""

/-- The lists have nothing under a name. -/
def NothingFor (lists : List (BackendConfig × String)) (name : String) : Prop :=
  ∀ entry ∈ lists, entry.1.name = name → entry.2 = ""

/-- The stored body of the backend is empty, and that was published. -/
structure ShowsNothing (s : BackendWatchers order) (b : BackendConfig) : Prop where
  stored : s.storedBody b.name = ""
  published : NothingFor s.listed b.name

/-- Every backend whose watcher waits after a failed attempt shows nothing. -/
def UnreachableEmpty (watched : List BackendConfig) (s : BackendWatchers order) : Prop :=
  ∀ i b, watched[i]? = some b → (s.phase i).Failed → s.ShowsNothing b

/-- Watcher `j` stores nothing but an empty body under the name of a backend that is waited for. -/
def Undisturbed (watched : List BackendConfig) (s : BackendWatchers order) (j : ℕ)
    (body : String) : Prop :=
  body = "" ∨ ∀ i b c, watched[i]? = some b → (s.phase i).Failed → watched[j]? = some c →
    b.name ≠ c.name

/-- What keeps `UnreachableEmpty`. -/
def EmptyOnFailure (watched : List BackendConfig) (s : BackendWatchers order) :
    BackendEvent → Prop
  -- a tracking attempt fails while nothing is shown of the backend
  | .connect i outcome => ¬ accepts outcome → ∀ b, watched[i]? = some b → s.ShowsNothing b
  | .ended i => ∀ b, watched[i]? = some b → s.ShowsNothing b
  | .packet i body => s.Undisturbed watched i (fromUtf8Lossy body)
  | .fetched i outcome => s.Undisturbed watched i (outcome.toOption.getD "")
  -- lists that were copied earlier have nothing under the names that are waited for either
  | .update j => ∀ number lists, s.poller.watcher j = .copied number lists →
      (∀ i b, watched[i]? = some b → (s.phase i).Failed → NothingFor lists b.name) ∧
        (s.phase j = .publishing true → ∀ b, watched[j]? = some b →
          s.storedBody b.name = "" ∧ NothingFor lists b.name)
  | _ => True

/-- The registry is updated in the order of the copies. -/
def InOrder (s : BackendWatchers order) : BackendEvent → Prop
  | .update i => s.poller.UpdatesInOrder (.update i)
  | _ => True

/-- A tracking attempt fails only while nothing is stored. -/
def TracksEmpty (watched : List BackendConfig) (s : BackendWatchers order) : BackendEvent → Prop
  | .connect i outcome => ¬ accepts outcome → ∀ b, watched[i]? = some b → s.storedBody b.name = ""
  | .ended i => ∀ b, watched[i]? = some b → s.storedBody b.name = ""
  | _ => True

/-! ## One step -/

theorem poller_store {p : Poller order} {body : String}
    (h : s.poller.step watched (.store i body) = some p) :
    ∃ c, watched[i]? = some c ∧ s.poller.watcher i = .idle ∧ p = { s.poller with
      shared := s.poller.shared.store c body
      watcher := Function.update s.poller.watcher i .stored } := by
  simp only [Poller.step] at h
  split at h
  · rename_i c hc hidle
    exact ⟨c, hc, hidle, (Option.some.inj h).symm⟩
  · cases h

theorem poller_copy {p : Poller order} (h : s.poller.step watched (.copy i) = some p) :
    s.poller.watcher i = .stored ∧ p = { s.poller with
      watcher := Function.update s.poller.watcher i
        (.copied (s.poller.copies + 1) s.poller.shared.inOrder)
      copies := s.poller.copies + 1 } := by
  simp only [Poller.step, SeededMap.copyLists_eq] at h
  split at h
  · rename_i hstored
    exact ⟨hstored, (Option.some.inj h).symm⟩
  · cases h

theorem poller_update {p : Poller order} {number : ℕ} {lists : List (BackendConfig × String)}
    (hi : s.poller.watcher i = .copied number lists)
    (h : s.poller.step watched (.update i) = some p) : p = { s.poller with
      registry := s.poller.registry.updateFromBackendLists lists
      watcher := Function.update s.poller.watcher i .idle
      applied := number } := by
  simp only [Poller.step, hi] at h
  exact (Option.some.inj h).symm

theorem storedBody_congr (h : t.poller.shared = s.poller.shared) (name : String) :
    t.storedBody name = s.storedBody name := by
  unfold storedBody
  rw [h]

theorem storedBody_store {c : BackendConfig} {body : String}
    (h : t.poller.shared = s.poller.shared.store c body) (name : String) :
    t.storedBody name = if name = c.name then body else s.storedBody name := by
  unfold storedBody
  rw [h]
  show ((AList.lookup name (AList.insert c.name (c, body) _ : SharedMap)).map Prod.snd).getD "" = _
  split_ifs with hname
  · rw [hname, AList.lookup_insert]
    rfl
  · rw [AList.lookup_insert_ne hname]

/-- A watcher that moves on without a failure. -/
theorem UnreachableEmpty.go (hs : s.UnreachableEmpty watched) {phase : BackendPhase}
    (hphase : ¬ phase.Failed) : (s.go i phase).UnreachableEmpty watched := by
  intro j b hb hfailed
  by_cases hj : j = i
  · rw [hj] at hfailed
    exact absurd (by simpa [BackendWatchers.go] using hfailed) hphase
  · have hold : (s.phase j).Failed := by simpa [BackendWatchers.go, hj] using hfailed
    obtain ⟨hstored, hpublished⟩ := hs j b hb hold
    exact ⟨hstored, hpublished⟩

/-- An attempt that fails. -/
theorem unreachableEmpty_go_iff (hs : s.UnreachableEmpty watched) {phase : BackendPhase}
    (hphase : phase.Failed) : (s.go i phase).UnreachableEmpty watched ↔
      ∀ b, watched[i]? = some b → s.ShowsNothing b := by
  constructor
  · intro h b hb
    obtain ⟨hstored, hpublished⟩ := h i b hb (by simpa [BackendWatchers.go] using hphase)
    exact ⟨hstored, hpublished⟩
  · intro h j b hb hfailed
    by_cases hj : j = i
    · rw [hj] at hb
      obtain ⟨hstored, hpublished⟩ := h b hb
      exact ⟨hstored, hpublished⟩
    · have hold : (s.phase j).Failed := by simpa [BackendWatchers.go, hj] using hfailed
      obtain ⟨hstored, hpublished⟩ := hs j b hb hold
      exact ⟨hstored, hpublished⟩

/-- A body that is stored. -/
theorem unreachableEmpty_store_iff (hs : s.UnreachableEmpty watched) {c : BackendConfig}
    {body : String} (hc : watched[i]? = some c)
    (hshared : t.poller.shared = s.poller.shared.store c body) (hlisted : t.listed = s.listed)
    (hphase : ∀ j, (t.phase j).Failed ↔ (s.phase j).Failed) :
    t.UnreachableEmpty watched ↔ s.Undisturbed watched i body := by
  constructor
  · intro h
    by_cases hbody : body = ""
    · exact .inl hbody
    · refine .inr fun j b c' hb hfailed hc' hname => hbody ?_
      obtain rfl := Option.some.inj (hc.symm.trans hc')
      have hstored := (h j b hb ((hphase j).mpr hfailed)).stored
      rwa [storedBody_store hshared, if_pos hname] at hstored
  · intro h j b hb hfailed
    have hold := (hphase j).mp hfailed
    obtain ⟨hstored, hpublished⟩ := hs j b hb hold
    refine ⟨?_, hlisted.symm ▸ hpublished⟩
    rw [storedBody_store hshared]
    split_ifs with hname
    · rcases h with hbody | hne
      · exact hbody
      · exact absurd hname (hne j b c hb hold hc)
    · exact hstored

/-- After an update of the registry, watcher `j` sleeps if it has polled. -/
def afterUpdate (s : BackendWatchers order) (j : ℕ) : ℕ → BackendPhase :=
  match s.phase j with
  | .publishing failed => Function.update s.phase j (.sleeping failed)
  | _ => s.phase

theorem afterUpdate_cases (s : BackendWatchers order) (j : ℕ) :
    (s.afterUpdate j = s.phase ∧ ∀ failed, s.phase j ≠ .publishing failed) ∨
      ∃ failed, s.phase j = .publishing failed ∧
        s.afterUpdate j = Function.update s.phase j (.sleeping failed) := by
  unfold afterUpdate
  rcases s.phase j <;> simp

theorem failed_afterUpdate {j : ℕ} : (s.afterUpdate j i).Failed ↔
    (s.phase i).Failed ∨ (i = j ∧ s.phase j = .publishing true) := by
  rcases s.afterUpdate_cases j with ⟨hafter, hj⟩ | ⟨failed, hj, hafter⟩
  · rw [hafter]
    exact (or_iff_left fun h => hj true h.2).symm
  · rw [hafter, hj]
    by_cases hi : i = j
    · subst hi
      rw [Function.update_self, hj]
      cases failed <;> simp [BackendPhase.Failed]
    · simp [hi]

/-- An update of the registry, as a step. -/
theorem step_update {j : ℕ} (h : s.step watched (.update j) = some t) :
    ∃ number lists, s.poller.watcher j = .copied number lists ∧
      s.poller.step watched (.update j) = some t.poller ∧ t.listed = lists ∧
        t.phase = s.afterUpdate j := by
  simp only [step] at h
  split at h
  · rename_i number lists hj
    obtain ⟨p, hp, rfl⟩ := Option.map_eq_some_iff.mp h
    exact ⟨number, lists, hj, hp, rfl, rfl⟩
  · cases h

theorem unreachableEmpty_update_iff (hs : s.UnreachableEmpty watched) {j : ℕ}
    (h : s.step watched (.update j) = some t) :
    t.UnreachableEmpty watched ↔ s.EmptyOnFailure watched (.update j) := by
  obtain ⟨number, lists, hj, hp, hlisted, hphase⟩ := step_update h
  have hshared : t.poller.shared = s.poller.shared := by
    rw [poller_update hj hp]
  constructor
  · intro ht number' lists' hj'
    obtain ⟨-, rfl⟩ : number = number' ∧ lists = lists' := by
      have heq := hj.symm.trans hj'
      exact ⟨(Watcher.copied.inj heq).1, (Watcher.copied.inj heq).2⟩
    have hshown : ∀ i b, watched[i]? = some b →
        (s.phase i).Failed ∨ (i = j ∧ s.phase j = .publishing true) → t.ShowsNothing b := by
      intro i b hb hfailed
      refine ht i b hb ?_
      rw [hphase]
      exact failed_afterUpdate.mpr hfailed
    constructor
    · intro i b hb hfailed
      rw [← hlisted]
      exact (hshown i b hb (.inl hfailed)).published
    · intro hpublishing b hb
      obtain ⟨hstored, hpublished⟩ := hshown j b hb (.inr ⟨rfl, hpublishing⟩)
      rw [storedBody_congr hshared] at hstored
      rw [hlisted] at hpublished
      exact ⟨hstored, hpublished⟩
  · intro hempty i b hb hfailed
    obtain ⟨hothers, hself⟩ := hempty number lists hj
    rw [hphase, failed_afterUpdate] at hfailed
    rcases hfailed with hfailed | ⟨rfl, hpublishing⟩
    · refine ⟨(storedBody_congr hshared b.name).trans (hs i b hb hfailed).stored, ?_⟩
      rw [hlisted]
      exact hothers i b hb hfailed
    · obtain ⟨hstored, hnothing⟩ := hself hpublishing b hb
      refine ⟨(storedBody_congr hshared b.name).trans hstored, ?_⟩
      rw [hlisted]
      exact hnothing

/-- One step, exactly. -/
theorem unreachableEmpty_step_iff (hs : s.UnreachableEmpty watched)
    (h : s.step watched e = some t) :
    t.UnreachableEmpty watched ↔ s.EmptyOnFailure watched e := by
  cases e with
  | probe i outcome =>
      simp only [step] at h
      split_ifs at h
      · obtain rfl := Option.some.inj h
        exact iff_of_true (hs.go (by decide)) trivial
      · obtain rfl := Option.some.inj h
        exact iff_of_true (hs.go (by decide)) trivial
  | connect i outcome =>
      simp only [step] at h
      split_ifs at h with _ haccepts
      · obtain rfl := Option.some.inj h
        exact iff_of_true (hs.go (by decide)) fun hnot => absurd haccepts hnot
      · obtain rfl := Option.some.inj h
        rw [unreachableEmpty_go_iff hs (by decide)]
        exact ⟨fun hshown _ => hshown, fun hempty => hempty haccepts⟩
  | packet i body =>
      simp only [step] at h
      split_ifs at h
      obtain ⟨p, hp, rfl⟩ := Option.map_eq_some_iff.mp h
      obtain ⟨c, hc, -, rfl⟩ := poller_store hp
      exact unreachableEmpty_store_iff hs hc rfl rfl fun _ => Iff.rfl
  | ended i =>
      simp only [step] at h
      split_ifs at h
      obtain rfl := Option.some.inj h
      exact unreachableEmpty_go_iff hs (by decide)
  | fetched i outcome =>
      simp only [step] at h
      split_ifs at h with hfetching
      obtain ⟨p, hp, rfl⟩ := Option.map_eq_some_iff.mp h
      obtain ⟨c, hc, -, rfl⟩ := poller_store hp
      refine unreachableEmpty_store_iff hs hc rfl rfl fun j => ?_
      by_cases hj : j = i
      · rw [hj, hfetching]
        simp [go, BackendPhase.Failed]
      · simp [go, hj]
  | copy i =>
      simp only [step] at h
      obtain ⟨p, hp, rfl⟩ := Option.map_eq_some_iff.mp h
      refine iff_of_true (fun j b hb hfailed => ?_) trivial
      have hshared : p.shared = s.poller.shared := by
        rw [(poller_copy hp).2]
      obtain ⟨hstored, hpublished⟩ := hs j b hb hfailed
      exact ⟨(storedBody_congr hshared b.name).trans hstored, hpublished⟩
  | update j => exact unreachableEmpty_update_iff hs h
  | retry i =>
      simp only [step] at h
      split at h
      · obtain rfl := Option.some.inj h
        exact iff_of_true (hs.go (by decide)) trivial
      · obtain rfl := Option.some.inj h
        exact iff_of_true (hs.go (by decide)) trivial
      · cases h

theorem EmptyOnFailure.tracksEmpty (h : s.EmptyOnFailure watched e) : s.TracksEmpty watched e := by
  cases e with
  | connect i outcome =>
      intro hnot b hb
      exact (h hnot b hb).stored
  | ended i =>
      intro b hb
      exact (h b hb).stored
  | probe | packet | fetched | copy | update | retry => trivial

/-- No watcher waits at the start. -/
theorem unreachableEmpty_init {seeds : List (BackendConfig × String)} {registry : DeviceRegistry} :
    (watcherMachine seeds watched registry).init.UnreachableEmpty watched := by
  intro i b _ hfailed
  exact absurd hfailed (by decide : ¬ BackendPhase.probing.Failed)

/-- **Unreachable backends, exactly.** In every run of the watchers, with any outcomes of contacting
the backends: whenever a watcher waits after a failed attempt the body of its backend is empty and
was published so, iff every step meets `EmptyOnFailure`.
Source: `backend.rs`, `run_backend_watcher`, `watch_track_devices` and `publish_shared` -/
theorem unreachable_empty_iff {seeds : List (BackendConfig × String)} {registry : DeviceRegistry}
    {events : List BackendEvent} {s : BackendWatchers (seeds.map Prod.fst)}
    (h : (watcherMachine seeds watched registry).Reaches events s) :
    (watcherMachine seeds watched registry).Always (UnreachableEmpty watched) events ↔
      (watcherMachine seeds watched registry).Run (EmptyOnFailure watched) events s := by
  refine Machine.always_iff_run (H := fun _ => True) (I := fun _ => True) (fun _ _ _ => trivial)
    unreachableEmpty_init (fun s e t _ _ _ hs ht => unreachableEmpty_step_iff hs ht) h
    fun _ _ _ _ => trivial

/-! ## The registry -/

/-- What a step of a watcher is to the poller. -/
def visible : BackendEvent → Option PollerEvent
  | .packet i body => some (.store i (fromUtf8Lossy body))
  | .fetched i outcome => some (.store i (outcome.toOption.getD ""))
  | .copy i => some (.copy i)
  | .update i => some (.update i)
  | _ => none

/-- The registry was last updated from the lists. -/
def RegistryListed (s : BackendWatchers order) : Prop :=
  s.poller.registry.inner = mergeDeviceLists s.listed

/-- Each step of a watcher is a step of the poller, or none; an update of the registry is listed. -/
theorem step_poller (h : s.step watched e = some t) :
    (visible e = none ∧ t.poller = s.poller ∧ t.listed = s.listed) ∨
      ∃ c, visible e = some c ∧ s.poller.step watched c = some t.poller ∧
        ((t.listed = s.listed ∧ ∀ j, c ≠ .update j) ∨
          ∃ j number, c = .update j ∧ s.poller.watcher j = .copied number t.listed) := by
  cases e with
  | probe i outcome | connect i outcome =>
      simp only [step] at h
      split_ifs at h
      all_goals
        obtain rfl := Option.some.inj h
        exact .inl ⟨rfl, rfl, rfl⟩
  | packet i body =>
      simp only [step] at h
      split_ifs at h
      obtain ⟨p, hp, rfl⟩ := Option.map_eq_some_iff.mp h
      exact .inr ⟨_, rfl, hp, .inl ⟨rfl, fun _ => PollerEvent.noConfusion⟩⟩
  | ended i =>
      simp only [step] at h
      split_ifs at h
      obtain rfl := Option.some.inj h
      exact .inl ⟨rfl, rfl, rfl⟩
  | fetched i outcome =>
      simp only [step] at h
      split_ifs at h
      obtain ⟨p, hp, rfl⟩ := Option.map_eq_some_iff.mp h
      exact .inr ⟨_, rfl, hp, .inl ⟨rfl, fun _ => PollerEvent.noConfusion⟩⟩
  | copy i =>
      simp only [step] at h
      obtain ⟨p, hp, rfl⟩ := Option.map_eq_some_iff.mp h
      exact .inr ⟨_, rfl, hp, .inl ⟨rfl, fun _ => PollerEvent.noConfusion⟩⟩
  | update j =>
      obtain ⟨number, lists, hj, hp, hlisted, -⟩ := step_update h
      exact .inr ⟨_, rfl, hp, .inr ⟨j, number, rfl, hlisted ▸ hj⟩⟩
  | retry i =>
      simp only [step] at h
      split at h
      · obtain rfl := Option.some.inj h
        exact .inl ⟨rfl, rfl, rfl⟩
      · obtain rfl := Option.some.inj h
        exact .inl ⟨rfl, rfl, rfl⟩
      · cases h

theorem registryListed_step (hs : s.RegistryListed) (h : s.step watched e = some t) :
    t.RegistryListed := by
  unfold RegistryListed at hs ⊢
  rcases step_poller h with ⟨-, hpoller, hlisted⟩ | ⟨c, -, hp, ⟨hlisted, hc⟩ | ⟨j, n, rfl, hj⟩⟩
  · rw [hpoller, hlisted, hs]
  · rw [hlisted, ← hs]
    cases c with
    | store i body =>
        obtain ⟨_, -, -, heq⟩ := poller_store hp
        rw [heq]
    | copy i =>
        rw [(poller_copy hp).2]
    | update i => exact absurd rfl (hc i)
  · rw [poller_update hj hp]
    rfl

/-- The watchers drive the poller, and the registry is updated from the lists. -/
def watcherSimulation (seeds : List (BackendConfig × String)) (watched : List BackendConfig)
    (registry : DeviceRegistry) :
    Simulation (watcherMachine seeds watched registry) (pollerMachine seeds watched registry) where
  abs := poller
  act _ := visible
  inv := RegistryListed
  inv_init := rfl
  inv_step hs h := registryListed_step hs h
  abs_init := rfl
  mirrors _ h := (step_poller h).imp (fun hp => ⟨hp.1, hp.2.1⟩)
    fun hp => hp.imp fun _ hc => ⟨hc.1, hc.2.1⟩

/-- The registry lists no device of a backend that shows nothing. -/
theorem ShowsNothing.unlisted {seeds : List (BackendConfig × String)} {registry : DeviceRegistry}
    {events : List BackendEvent} {s : BackendWatchers (seeds.map Prod.fst)}
    (h : (watcherMachine seeds watched registry).Reaches events s) (hb : s.ShowsNothing b) :
    ∀ d ∈ s.poller.registry.inner.devices, d.backendName ≠ b.name := by
  intro d hd hname
  have hlisted : s.RegistryListed := (watcherSimulation seeds watched registry).inv_of_run h
  rw [hlisted] at hd
  obtain ⟨p, hp, hentry⟩ := exists_parsed_of_mem hd
  obtain ⟨body, hbody, line, hline, -⟩ := exists_body_of_parsed hp
  rw [hentry] at hname
  have hempty : body = "" := hb.published _ hbody hname
  rw [hempty] at hline
  cases hline

/-- Where the lists are published in order, the registry is current. -/
theorem registry_current {seeds : List (BackendConfig × String)} {registry : DeviceRegistry}
    {events : List BackendEvent} {s : BackendWatchers (seeds.map Prod.fst)}
    (h : (watcherMachine seeds watched registry).Run InOrder events s) :
    s.poller.RegistryCurrent := by
  have horder : ∀ (s : BackendWatchers (seeds.map Prod.fst)) e p, s.InOrder e →
      visible e = some p → s.poller.UpdatesInOrder p := by
    intro s e p he hp
    cases e with
    | probe | connect | ended | retry => cases hp
    | packet | fetched | copy =>
        obtain rfl := Option.some.inj hp
        trivial
    | update j =>
        obtain rfl := Option.some.inj hp
        exact he
  obtain ⟨polls, hpolls⟩ := (watcherSimulation seeds watched registry).run
    (fun s e p _ he hp => horder s e p he hp) h
  exact ((registry_current_iff hpolls.reaches).mpr hpolls).last hpolls.reaches

/-! ## What the tracking mode leaves out -/

/-- Lists have what is stored under a name. -/
def Agrees (s : BackendWatchers order) (lists : List (BackendConfig × String)) (name : String) :
    Prop :=
  ∀ entry ∈ lists, entry.1.name = name → entry.2 = s.storedBody name

/-- Where lists that were copied, and those that were published, stand. -/
structure Settled (watched : List BackendConfig) (s : BackendWatchers order) : Prop where
  /-- Entries are stored under their own names. -/
  named : ∀ name entry, s.poller.shared.map.lookup name = some entry → entry.1.name = name
  numbered : ∀ i n lists, s.poller.watcher i = .copied n lists → n ≤ s.poller.copies
  distinct : ∀ i j n l l', s.poller.watcher i = .copied n l → s.poller.watcher j = .copied n l' →
    i = j
  /-- A watcher that has published its last body. -/
  idle : ∀ i b, watched[i]? = some b → s.poller.watcher i = .idle → s.Agrees s.listed b.name ∧
    ∀ j n lists, s.poller.watcher j = .copied n lists → s.Agrees lists b.name
  /-- A watcher that is about to publish it. -/
  copied : ∀ i b n lists, watched[i]? = some b → s.poller.watcher i = .copied n lists →
    s.Agrees lists b.name ∧
      ∀ j m lists', s.poller.watcher j = .copied m lists' → n < m → s.Agrees lists' b.name
  /-- Only a watcher in its loop, or one that publishes what it has polled, is not idle. -/
  waiting : ∀ i, s.phase i ≠ .tracking → (∀ failed, s.phase i ≠ .publishing failed) →
    s.poller.watcher i = .idle
  polled : ∀ i b, watched[i]? = some b → s.phase i = .publishing true → s.storedBody b.name = ""

/-- The lists that are copied have what is stored. -/
theorem Settled.agrees_inOrder (h : s.Settled watched) (name : String) :
    s.Agrees s.poller.shared.inOrder name := by
  intro entry hentry hname
  obtain ⟨o, -, ho⟩ := List.mem_filterMap.mp hentry
  have hlookup : s.poller.shared.map.lookup name = some entry := by
    rw [← hname, h.named o.name entry ho]
    exact ho
  unfold storedBody
  rw [hlookup]
  rfl

/-- What a watcher with an empty body shows. -/
theorem Agrees.nothingFor {lists : List (BackendConfig × String)} {name : String}
    (h : s.Agrees lists name) (hempty : s.storedBody name = "") : NothingFor lists name := by
  intro entry hentry hname
  rw [h entry hentry hname, hempty]

theorem index_eq_of_name (hnames : (watched.map BackendConfig.name).Nodup) {i j : ℕ}
    {b c : BackendConfig} (hb : watched[i]? = some b) (hc : watched[j]? = some c)
    (hname : b.name = c.name) : i = j := by
  have hlt : i < (watched.map BackendConfig.name).length := by
    rw [List.length_map]
    exact (List.getElem?_eq_some_iff.mp hb).1
  refine (List.getElem?_inj hlt hnames).mp ?_
  rw [List.getElem?_map, List.getElem?_map, hb, hc, Option.map_some, Option.map_some, hname]

/-- A watcher that does not wait disturbs nobody who does. -/
theorem undisturbed_of_names (hnames : (watched.map BackendConfig.name).Nodup) {j : ℕ}
    (hj : ¬ (s.phase j).Failed) (body : String) : s.Undisturbed watched j body := by
  refine .inr fun i b c hb hfailed hc hname => hj ?_
  rwa [← index_eq_of_name hnames hb hc hname]

/-- Watchers of backends with names of their own that track only what is empty keep the
condition. -/
theorem Settled.emptyOnFailure (h : s.Settled watched)
    (hnames : (watched.map BackendConfig.name).Nodup) (hs : s.UnreachableEmpty watched)
    (hempty : s.TracksEmpty watched e) (ht : s.step watched e = some t) :
    s.EmptyOnFailure watched e := by
  have hshows : ∀ i b, watched[i]? = some b → s.poller.watcher i = .idle →
      s.storedBody b.name = "" → s.ShowsNothing b := by
    intro i b hb hidle hstored
    exact ⟨hstored, (h.idle i b hb hidle).1.nothingFor hstored⟩
  cases e with
  | probe | copy | retry => trivial
  | connect i outcome =>
      simp only [step] at ht
      split_ifs at ht with hphase
      all_goals
        intro hnot b hb
        exact hshows i b hb (h.waiting i (by simp [hphase]) (by simp [hphase])) (hempty hnot b hb)
  | packet i _ | fetched i _ =>
      simp only [step] at ht
      split_ifs at ht with hphase
      refine undisturbed_of_names hnames ?_ _
      rw [hphase]
      decide
  | ended i =>
      simp only [step] at ht
      split_ifs at ht with hphase
      intro b hb
      exact hshows i b hb hphase.2 (hempty b hb)
  | update j =>
      intro number lists hj
      constructor
      · intro i b hb hfailed
        have hidle : s.poller.watcher i = .idle := by
          rcases hfailed with hphase | hphase
          · exact h.waiting i (by simp [hphase]) (by simp [hphase])
          · exact h.waiting i (by simp [hphase]) (by simp [hphase])
        exact ((h.idle i b hb hidle).2 j number lists hj).nothingFor (hs i b hb hfailed).stored
      · intro hpublishing b hb
        have hstored := h.polled j b hb hpublishing
        exact ⟨hstored, (h.copied j b number lists hb hj).1.nothingFor hstored⟩

/-! ### What the steps do to the copies -/

/-- A watcher that is idle moves on in its loop. -/
theorem Settled.go (h : s.Settled watched) (hidle : s.poller.watcher i = .idle)
    {phase : BackendPhase} (hphase : phase ≠ .publishing true) :
    (s.go i phase).Settled watched := by
  refine ⟨h.named, h.numbered, h.distinct, h.idle, h.copied, fun j hj hj' => ?_,
    fun j b hb hj => ?_⟩
  · by_cases hji : j = i
    · rw [hji]
      exact hidle
    · exact h.waiting j (by simpa [BackendWatchers.go, hji] using hj)
        (by simpa [BackendWatchers.go, hji] using hj')
  · by_cases hji : j = i
    · rw [hji] at hj
      exact absurd (by simpa [BackendWatchers.go] using hj) hphase
    · exact h.polled j b hb (by simpa [BackendWatchers.go, hji] using hj)

/-- A watcher stores a body. -/
theorem Settled.store (h : s.Settled watched) (hnames : (watched.map BackendConfig.name).Nodup)
    {c : BackendConfig} {body : String} (hc : watched[i]? = some c)
    (hpoller : t.poller = { s.poller with
      shared := s.poller.shared.store c body
      watcher := Function.update s.poller.watcher i .stored })
    (hlisted : t.listed = s.listed) (hphase : ∀ j ≠ i, t.phase j = s.phase j)
    (hloop : t.phase i = .tracking ∨ ∃ failed, t.phase i = .publishing failed)
    (hpolled : t.phase i = .publishing true → body = "") : t.Settled watched := by
  have hshared : t.poller.shared = s.poller.shared.store c body := by rw [hpoller]
  have hwatcher : ∀ j ≠ i, t.poller.watcher j = s.poller.watcher j := by
    intro j hj
    rw [hpoller]
    exact Function.update_of_ne hj _ _
  have hself : t.poller.watcher i = .stored := by
    rw [hpoller]
    exact Function.update_self ..
  have hcopied : ∀ {j n lists}, t.poller.watcher j = .copied n lists →
      s.poller.watcher j = .copied n lists := by
    intro j n lists hj
    by_cases hji : j = i
    · rw [hji, hself] at hj
      cases hj
    · rwa [hwatcher j hji] at hj
  -- the other backends have other names
  have hagrees : ∀ {j b lists}, watched[j]? = some b → j ≠ i → s.Agrees lists b.name →
      t.Agrees lists b.name := by
    intro j b lists hb hji hl entry hentry hname
    rw [hl entry hentry hname, storedBody_store hshared, if_neg]
    exact fun heq => hji (index_eq_of_name hnames hb hc heq)
  constructor
  · intro name entry hentry
    rw [hshared] at hentry
    by_cases hname : name = c.name
    · have hinsert : AList.lookup name (AList.insert c.name (c, body) _ : SharedMap) =
          some entry := hentry
      rw [hname, AList.lookup_insert] at hinsert
      obtain rfl := Option.some.inj hinsert
      exact hname.symm
    · have hinsert : AList.lookup name (AList.insert c.name (c, body) _ : SharedMap) =
          some entry := hentry
      rw [AList.lookup_insert_ne hname] at hinsert
      exact h.named name entry hinsert
  · intro j n lists hj
    have hle := h.numbered j n lists (hcopied hj)
    rw [hpoller]
    exact hle
  · intro j k n l l' hj hk
    exact h.distinct j k n l l' (hcopied hj) (hcopied hk)
  · intro j b hb hidle
    have hji : j ≠ i := by
      rintro rfl
      rw [hself] at hidle
      cases hidle
    rw [hwatcher j hji] at hidle
    obtain ⟨hshown, hothers⟩ := h.idle j b hb hidle
    rw [hlisted]
    exact ⟨hagrees hb hji hshown,
      fun k n lists hk => hagrees hb hji (hothers k n lists (hcopied hk))⟩
  · intro j b n lists hb hj
    have hji : j ≠ i := by
      rintro rfl
      rw [hself] at hj
      cases hj
    obtain ⟨hown, hothers⟩ := h.copied j b n lists hb (hcopied hj)
    exact ⟨hagrees hb hji hown,
      fun k m lists' hk hnm => hagrees hb hji (hothers k m lists' (hcopied hk) hnm)⟩
  · intro j hj hj'
    by_cases hji : j = i
    · rw [hji] at hj hj'
      rcases hloop with hloop | ⟨failed, hloop⟩
      · exact absurd hloop hj
      · exact absurd hloop (hj' failed)
    · rw [hwatcher j hji]
      rw [hphase j hji] at hj hj'
      exact h.waiting j hj hj'
  · intro j b hb hj
    rw [storedBody_store hshared]
    by_cases hji : j = i
    · rw [hji] at hb hj
      obtain rfl := Option.some.inj (hc.symm.trans hb)
      rw [if_pos rfl]
      exact hpolled hj
    · rw [hphase j hji] at hj
      rw [if_neg fun heq => hji (index_eq_of_name hnames hb hc heq)]
      exact h.polled j b hb hj

/-- A watcher copies the lists. -/
theorem Settled.copy (h : s.Settled watched) (hstored : s.poller.watcher i = .stored)
    (hpoller : t.poller = { s.poller with
      watcher := Function.update s.poller.watcher i
        (.copied (s.poller.copies + 1) s.poller.shared.inOrder)
      copies := s.poller.copies + 1 })
    (hlisted : t.listed = s.listed) (hphase : t.phase = s.phase) : t.Settled watched := by
  have hbody : ∀ name, t.storedBody name = s.storedBody name :=
    storedBody_congr (by rw [hpoller])
  have hagrees : ∀ {lists name}, s.Agrees lists name → t.Agrees lists name := by
    intro lists name hl entry hentry hname
    rw [hl entry hentry hname, hbody]
  have hwatcher : ∀ j ≠ i, t.poller.watcher j = s.poller.watcher j := by
    intro j hj
    rw [hpoller]
    exact Function.update_of_ne hj _ _
  have hself : t.poller.watcher i = .copied (s.poller.copies + 1) s.poller.shared.inOrder := by
    rw [hpoller]
    exact Function.update_self ..
  -- lists that were copied before, or the new ones
  have hcopied : ∀ {j n lists}, t.poller.watcher j = .copied n lists →
      (j ≠ i ∧ s.poller.watcher j = .copied n lists) ∨
        (j = i ∧ n = s.poller.copies + 1 ∧ lists = s.poller.shared.inOrder) := by
    intro j n lists hj
    by_cases hji : j = i
    · rw [hji, hself] at hj
      obtain ⟨rfl, rfl⟩ := Watcher.copied.inj hj
      exact .inr ⟨hji, rfl, rfl⟩
    · rw [hwatcher j hji] at hj
      exact .inl ⟨hji, hj⟩
  constructor
  · rw [show t.poller.shared = s.poller.shared by rw [hpoller]]
    exact h.named
  · intro j n lists hj
    rw [show t.poller.copies = s.poller.copies + 1 by rw [hpoller]]
    rcases hcopied hj with ⟨-, hold⟩ | ⟨-, rfl, -⟩
    · exact (h.numbered j n lists hold).trans (Nat.le_succ _)
    · exact le_rfl
  · intro j k n l l' hj hk
    rcases hcopied hj with ⟨-, hj⟩ | ⟨rfl, rfl, -⟩
    · rcases hcopied hk with ⟨-, hk⟩ | ⟨-, rfl, -⟩
      · exact h.distinct j k n l l' hj hk
      · exact absurd (h.numbered j _ l hj) (by omega)
    · rcases hcopied hk with ⟨-, hk⟩ | ⟨rfl, -, -⟩
      · exact absurd (h.numbered k _ l' hk) (by omega)
      · rfl
  · intro j b hb hidle
    have hji : j ≠ i := by
      rintro rfl
      rw [hself] at hidle
      cases hidle
    rw [hwatcher j hji] at hidle
    obtain ⟨hshown, hothers⟩ := h.idle j b hb hidle
    rw [hlisted]
    refine ⟨hagrees hshown, fun k n lists hk => hagrees ?_⟩
    rcases hcopied hk with ⟨-, hk⟩ | ⟨-, -, rfl⟩
    · exact hothers k n lists hk
    · exact h.agrees_inOrder b.name
  · intro j b n lists hb hj
    rcases hcopied hj with ⟨-, hj⟩ | ⟨-, rfl, rfl⟩
    · obtain ⟨hown, hothers⟩ := h.copied j b n lists hb hj
      refine ⟨hagrees hown, fun k m lists' hk hnm => hagrees ?_⟩
      rcases hcopied hk with ⟨-, hk⟩ | ⟨-, -, rfl⟩
      · exact hothers k m lists' hk hnm
      · exact h.agrees_inOrder b.name
    · refine ⟨hagrees (h.agrees_inOrder b.name), fun k m lists' hk hnm => ?_⟩
      rcases hcopied hk with ⟨-, hk⟩ | ⟨-, rfl, -⟩
      · exact absurd (h.numbered k m lists' hk) (by omega)
      · omega
  · intro j hj hj'
    rw [hphase] at hj hj'
    have hidle := h.waiting j hj hj'
    have hji : j ≠ i := by
      rintro rfl
      rw [hstored] at hidle
      cases hidle
    rw [hwatcher j hji, hidle]
  · intro j b hb hj
    rw [hphase] at hj
    rw [hbody]
    exact h.polled j b hb hj

/-- A watcher updates the registry with the lists that were copied first. -/
theorem Settled.update (h : s.Settled watched) {number : ℕ}
    {lists : List (BackendConfig × String)} (hi : s.poller.watcher i = .copied number lists)
    (horder : s.poller.UpdatesInOrder (.update i))
    (hpoller : t.poller = { s.poller with
      registry := s.poller.registry.updateFromBackendLists lists
      watcher := Function.update s.poller.watcher i .idle
      applied := number })
    (hlisted : t.listed = lists) (hphase : t.phase = s.afterUpdate i) : t.Settled watched := by
  have hbody : ∀ name, t.storedBody name = s.storedBody name :=
    storedBody_congr (by rw [hpoller])
  have hagrees : ∀ {lists name}, s.Agrees lists name → t.Agrees lists name := by
    intro lists name hl entry hentry hname
    rw [hl entry hentry hname, hbody]
  have hwatcher : ∀ j ≠ i, t.poller.watcher j = s.poller.watcher j := by
    intro j hj
    rw [hpoller]
    exact Function.update_of_ne hj _ _
  have hself : t.poller.watcher i = .idle := by
    rw [hpoller]
    exact Function.update_self ..
  have hcopied : ∀ {j n l}, t.poller.watcher j = .copied n l →
      j ≠ i ∧ s.poller.watcher j = .copied n l := by
    intro j n l hj
    by_cases hji : j = i
    · rw [hji, hself] at hj
      cases hj
    · rw [hwatcher j hji] at hj
      exact ⟨hji, hj⟩
  have hphases : ∀ j, t.phase j = s.phase j ∨ (j = i ∧ ∃ failed, s.phase i = .publishing failed ∧
      t.phase i = .sleeping failed) := by
    intro j
    rw [hphase]
    rcases s.afterUpdate_cases i with ⟨hafter, -⟩ | ⟨failed, hpublishing, hafter⟩
    · rw [hafter]
      exact .inl rfl
    · rw [hafter]
      by_cases hji : j = i
      · exact .inr ⟨hji, failed, hpublishing, Function.update_self ..⟩
      · exact .inl (Function.update_of_ne hji _ _)
  constructor
  · rw [show t.poller.shared = s.poller.shared by rw [hpoller]]
    exact h.named
  · intro j n l hj
    rw [show t.poller.copies = s.poller.copies by rw [hpoller]]
    exact h.numbered j n l (hcopied hj).2
  · intro j k n l l' hj hk
    exact h.distinct j k n l l' (hcopied hj).2 (hcopied hk).2
  · intro j b hb hidle
    rw [hlisted]
    by_cases hji : j = i
    · rw [hji] at hb
      obtain ⟨hown, hothers⟩ := h.copied i b number lists hb hi
      refine ⟨hagrees hown, fun k m l hk => hagrees (hothers k m l (hcopied hk).2 ?_)⟩
      -- what is still to be published was copied later
      have hle := horder number lists k m l hi (hcopied hk).2
      refine lt_of_le_of_ne hle fun heq => (hcopied hk).1 ?_
      exact h.distinct k i m l lists (hcopied hk).2 (heq ▸ hi)
    · rw [hwatcher j hji] at hidle
      obtain ⟨-, hothers⟩ := h.idle j b hb hidle
      exact ⟨hagrees (hothers i number lists hi),
        fun k m l hk => hagrees (hothers k m l (hcopied hk).2)⟩
  · intro j b n l hb hj
    obtain ⟨hown, hothers⟩ := h.copied j b n l hb (hcopied hj).2
    exact ⟨hagrees hown, fun k m l' hk hnm => hagrees (hothers k m l' (hcopied hk).2 hnm)⟩
  · intro j hj hj'
    by_cases hji : j = i
    · rw [hji, hself]
    · rw [hwatcher j hji]
      rcases hphases j with hsame | ⟨heq, -⟩
      · rw [hsame] at hj hj'
        exact h.waiting j hj hj'
      · exact absurd heq hji
  · intro j b hb hj
    rw [hbody]
    rcases hphases j with hsame | ⟨rfl, failed, -, hsleeping⟩
    · rw [hsame] at hj
      exact h.polled j b hb hj
    · rw [hsleeping] at hj
      cases hj

/-- One step. -/
theorem settled_step (h : s.Settled watched) (hnames : (watched.map BackendConfig.name).Nodup)
    (horder : s.InOrder e) (ht : s.step watched e = some t) : t.Settled watched := by
  cases e with
  | probe i outcome | connect i outcome =>
      simp only [step] at ht
      split_ifs at ht with hphase
      all_goals
        obtain rfl := Option.some.inj ht
        exact h.go (h.waiting i (by simp [hphase]) (by simp [hphase])) (by decide)
  | packet i body =>
      simp only [step] at ht
      split_ifs at ht with hphase
      obtain ⟨p, hp, rfl⟩ := Option.map_eq_some_iff.mp ht
      obtain ⟨c, hc, -, rfl⟩ := poller_store hp
      exact h.store hnames hc rfl rfl (fun _ _ => rfl) (.inl hphase) fun hpolled => by
        simp [hphase] at hpolled
  | ended i =>
      simp only [step] at ht
      split_ifs at ht with hphase
      obtain rfl := Option.some.inj ht
      exact h.go hphase.2 (by decide)
  | fetched i outcome =>
      simp only [step] at ht
      split_ifs at ht with hphase
      obtain ⟨p, hp, rfl⟩ := Option.map_eq_some_iff.mp ht
      obtain ⟨c, hc, -, rfl⟩ := poller_store hp
      have hself : Function.update s.phase i (.publishing outcome.toOption.isNone) i =
          .publishing outcome.toOption.isNone := Function.update_self ..
      refine h.store hnames hc rfl rfl (fun j hj => Function.update_of_ne hj _ _)
        (.inr ⟨_, hself⟩) fun hpolled => ?_
      have hnone := BackendPhase.publishing.inj (hself.symm.trans hpolled)
      rw [Option.isNone_iff_eq_none.mp hnone]
      rfl
  | copy i =>
      simp only [step] at ht
      obtain ⟨p, hp, rfl⟩ := Option.map_eq_some_iff.mp ht
      obtain ⟨hstored, rfl⟩ := poller_copy hp
      exact h.copy hstored rfl rfl rfl
  | update i =>
      obtain ⟨number, lists, hi, hp, hlisted, hphase⟩ := step_update ht
      exact h.update hi horder (poller_update hi hp) hlisted hphase
  | retry i =>
      simp only [step] at ht
      split at ht
      · rename_i hphase
        obtain rfl := Option.some.inj ht
        exact h.go (h.waiting i (by simp [hphase]) (by simp [hphase])) (by decide)
      · rename_i failed hphase
        obtain rfl := Option.some.inj ht
        exact h.go (h.waiting i (by simp [hphase]) (by simp [hphase])) (by decide)
      · cases ht

variable {seeds : List (BackendConfig × String)} {registry : DeviceRegistry}
  {events : List BackendEvent}

theorem named_seedShared (seeds : List (BackendConfig × String)) (name : String)
    (entry : BackendConfig × String) (h : (seedShared seeds).lookup name = some entry) :
    entry.1.name = name := by
  unfold seedShared at h
  induction seeds using List.reverseRecOn with
  | nil => cases h
  | append_singleton seeds seed ih =>
      rw [List.foldl_append, List.foldl_cons, List.foldl_nil] at h
      have hinsert : AList.lookup name (AList.insert seed.1.name seed _ : SharedMap) =
          some entry := h
      by_cases hname : name = seed.1.name
      · rw [hname, AList.lookup_insert] at hinsert
        obtain rfl := Option.some.inj hinsert
        exact hname.symm
      · rw [AList.lookup_insert_ne hname] at hinsert
        exact ih hinsert

theorem settled_init : (watcherMachine seeds watched registry).init.Settled watched := by
  have hnamed := named_seedShared seeds
  refine ⟨hnamed, ?_, ?_, fun i b hb _ => ⟨?_, ?_⟩, ?_, fun _ _ _ => rfl, ?_⟩
  · rintro i n lists hi
    cases hi
  · rintro i j n l l' hi
    cases hi
  · intro entry hentry hname
    obtain ⟨o, -, ho⟩ := List.mem_filterMap.mp hentry
    have hlookup : (seedShared seeds).lookup b.name = some entry := by
      rw [← hname, hnamed o.name entry ho]
      exact ho
    show entry.2 = (((seedShared seeds).lookup b.name).map Prod.snd).getD ""
    rw [hlookup]
    rfl
  · rintro j n lists hj
    cases hj
  · rintro i b n lists _ hi
    cases hi
  · rintro i b _ hi
    cases hi

/-- **The defect is in the tracking mode.** Where the backends have names of their own and the
registry is updated in the order of the copies, backends that cannot be reached show nothing iff no
tracking attempt fails while something is stored. -/
theorem tracking_leaves_devices_iff {s : BackendWatchers (seeds.map Prod.fst)}
    (hnames : (watched.map BackendConfig.name).Nodup)
    (h : (watcherMachine seeds watched registry).Run InOrder events s) :
    (watcherMachine seeds watched registry).Always (UnreachableEmpty watched) events ↔
      (watcherMachine seeds watched registry).Run
        (fun s e => s.InOrder e ∧ s.TracksEmpty watched e) events s := by
  constructor
  · intro halways
    induction h with
    | init => exact .init
    | snoc hr hc hs ih =>
        obtain ⟨has, ht⟩ :=
          (Machine.always_snoc_iff (.snoc hr.reaches trivial hs)).mp halways
        have hempty := (unreachableEmpty_step_iff (has.last hr.reaches) hs).mp ht
        exact .snoc (ih has) ⟨hc, hempty.tracksEmpty⟩ hs
  · intro hrun
    refine hrun.always fun bs t hr => ?_
    refine (Machine.Run.invariant
      (I := fun s => s.Settled watched ∧ s.UnreachableEmpty watched) hr
        ⟨settled_init, unreachableEmpty_init⟩ ?_).2
    rintro s e t ⟨hsettled, hs⟩ ⟨horder, hempty⟩ ht
    have hkeep := hsettled.emptyOnFailure hnames hs hempty ht
    exact ⟨settled_step hsettled hnames horder ht, (unreachableEmpty_step_iff hs ht).mpr hkeep⟩

/-- The one backend of the runs below. -/
def officeBackend : BackendConfig := ⟨"office", .loopback 5041, some "ABCD1234", true⟩

/-- A backend that is polled, and cannot be reached any more. -/
def polledOutage : List BackendEvent :=
  [.probe 0 (.ok failStatus), .fetched 0 (.ok "ABC\tdevice\n"), .copy 0, .update 0, .retry 0,
    .fetched 0 (.error "connect timeout"), .copy 0, .update 0]

/-- A backend that is tracked, and whose stream ends. -/
def trackedOutage : List BackendEvent :=
  [.probe 0 (.ok okayStatus), .connect 0 (.ok okayStatus), .packet 0 (utf8 "ABC\tdevice\n"),
    .copy 0, .update 0, .ended 0]

/-- The device of the polled backend goes. -/
theorem polled_outage_empty :
    (watcherMachine [(officeBackend, "")] [officeBackend] {}).Always
      (UnreachableEmpty [officeBackend]) polledOutage := by
  have hzero : ∀ {i b}, [officeBackend][i]? = some b → i = 0 := by
    intro i b hb
    rcases i with _ | i
    · rfl
    · simp at hb
  obtain ⟨s, hrun⟩ : ∃ s, (watcherMachine [(officeBackend, "")] [officeBackend] {}).Run
      (EmptyOnFailure [officeBackend]) polledOutage s := by
    refine ⟨_, .snoc (.snoc (.snoc (.snoc (.snoc (.snoc (.snoc (.snoc .init trivial rfl) ?_ rfl)
      trivial rfl) ?_ rfl) trivial rfl) ?_ rfl) trivial rfl) ?_ rfl⟩
    · refine .inr fun i b c hb hfailed _ => ?_
      obtain rfl := hzero hb
      exact absurd hfailed (by decide)
    · intro number lists hj
      refine ⟨fun i b hb hfailed => ?_, fun hpublishing => ?_⟩
      · obtain rfl := hzero hb
        exact absurd hfailed (by decide)
      · exact absurd hpublishing (by decide)
    · exact .inl rfl
    · intro number lists hj
      obtain ⟨-, rfl⟩ := Watcher.copied.inj hj
      refine ⟨fun i b hb hfailed => ?_, fun _ b hb => ?_⟩
      · obtain rfl := hzero hb
        exact absurd hfailed (by decide)
      · obtain rfl := Option.some.inj hb
        refine ⟨rfl, fun entry hentry _ => ?_⟩
        obtain rfl : entry = (officeBackend, "") := List.mem_singleton.mp hentry
        rfl
  exact (unreachable_empty_iff hrun.reaches).mpr hrun

/-- The device of the tracked backend stays. -/
theorem tracked_outage_listed :
    ¬ ∀ (seeds : List (BackendConfig × String)) (watched : List BackendConfig)
      (registry : DeviceRegistry) (events : List BackendEvent)
      (s : BackendWatchers (seeds.map Prod.fst)),
      (watcherMachine seeds watched registry).Reaches events s → s.UnreachableEmpty watched := by
  intro h
  have hreach : (watcherMachine [(officeBackend, "")] [officeBackend] {}).Reaches trackedOutage _ :=
    Machine.reaches_of_exec rfl
  have hempty := h _ _ _ _ _ hreach 0 officeBackend rfl (by decide)
  have hbody : "ABC\tdevice\n" = "" := hempty.stored
  exact absurd hbody (by decide)

end BackendWatchers

end AdbHub
