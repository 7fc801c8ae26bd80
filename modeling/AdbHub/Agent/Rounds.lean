import AdbHub.Agent.Refresh

/-!
# The rounds of an agent, one after the other

The initial snapshot and the poller of an agent (`agent.rs`, `run_agent_with_shutdown`), in an
environment that changes from round to round: the configuration file, and what the backends
answer.

* `Refresher` — what one round leaves for the next: the cache of accepted versions, and whether
  there is a next round.
* `Complete` — the snapshot of a round has every line of every backend whose version would be
  accepted in that round, except what the policy disables.
* `Unspoiled` — no earlier round has ended the poller, or keeps such a backend from being asked.
* **`rounds_complete_iff`** — the snapshots of a run are complete exactly if its rounds are
  unspoiled.
-/

namespace AdbHub

open Lib Protocol

/-! ## Rounds in a changing environment -/

/-- What a round meets. -/
structure Round where
  disk : Disk
  replies : RoundReplies
  /-- The outcome of `write_message`. -/
  written : Bool := true

/-- Where the rounds stand. Source: `agent.rs`, `run_agent_with_shutdown`. -/
inductive RefreshPhase
  /-- The round of the initial snapshot is next. -/
  | initial
  /-- A round of the poller is next. -/
  | polling
  /-- The poller has broken off. -/
  | ended
  deriving DecidableEq

/-- What the rounds share. -/
structure Refresher where
  phase : RefreshPhase := .initial
  cache : CompatCache := {}
  generation : UInt64 := 0
  /-- What the last round handed to `write_message`; nothing if it failed before or there was no
  round. -/
  published : Option IpcMessage := none

/-- The message of a snapshot. Source: `agent.rs`, `refresh_and_publish`, `ipc`. -/
def snapshotMessage (changed : Bool) (msg : DeviceSnapshotMsg) : IpcMessage :=
  if changed then .deviceSnapshotChanged msg else .deviceSnapshot msg

namespace Refresher

/-- It is time for a round. The initial round may fail; a round of the poller that fails is the
last one. Source: `agent.rs`, `run_agent_with_shutdown` and `refresh_and_publish`. -/
def round (fmt : ConfigFormat) (config : AgentConfig) (s : Refresher) (r : Round) : Refresher :=
  let after (ok : Bool) : RefreshPhase :=
    if ok then .polling else if s.phase = .initial then .polling else .ended
  if s.phase = .ended then { s with published := none }
  else
    match refreshRound fmt config r.disk s.cache r.replies with
    | .error _ => { s with phase := after false, published := none }
    | .ok res =>
        { phase := after r.written
          cache := res.cache
          generation := s.generation + 1
          published := some (snapshotMessage (s.phase = .polling)
            ⟨s.generation + 1, publishedDevices res.policy res.lists⟩) }

/-- The rounds of an agent. -/
def machine (fmt : ConfigFormat) (config : AgentConfig) : Machine Refresher Round where
  init := {}
  step s r := some (s.round fmt config r)

end Refresher

/-! ## Complete snapshots -/

/-- A line of a device list is shown: a published device has its serial, state and columns and the
name of its backend, unless the policy disables the node, or the device under the serial it got in
the merge. -/
def LineShown (policy : HubPolicySnapshot) (merged : DeviceSnapshot)
    (devices : List SanitizedDevice) (p : ParsedDevice) : Prop :=
  policy.backendEnabled p.backend.name = false ∨
    (∃ d ∈ merged.devices, IsEntryOf p d ∧ policy.deviceEnabled d.publicSerial = false) ∨
      ∃ d ∈ devices, d.upstreamSerial = p.serial ∧ d.state = p.state ∧ d.extras = p.extras ∧
        d.backendName = p.backend.name

/-- Backend number `i` would be accepted in a round, and answers with a line. -/
structure AnswersLine (enabled : List BackendConfig) (replies : RoundReplies) (i : ℕ)
    (p : ParsedDevice) : Prop where
  backend : enabled[i]? = some p.backend
  passes : passesProbe p.backend (replies.probe i) = true
  line : ∃ body, replies.devices enabled i = .ok body ∧
    ∃ line ∈ lines body, parseDeviceLine line = some (p.serial, p.state, p.extras)

/-- If the configuration of a round is found, its snapshot is published with every line of every
enabled backend that would be accepted in the round, as far as the policy enables them. -/
def Complete (fmt : ConfigFormat) (config : AgentConfig) (s : Refresher) (r : Round)
    (t : Refresher) : Prop :=
  ∀ cfg, roundConfig fmt config r.disk = .ok cfg →
    ∃ changed msg, t.published = some (snapshotMessage changed msg) ∧
      ∀ i p, AnswersLine cfg.enabledBackends r.replies i p →
        LineShown (cfg.flagsInForce fmt r.disk)
          (mergeDeviceLists (askBackends fmt r.disk cfg s.cache r.replies).lists) msg.devices p

/-- A round breaks off if its configuration is not found or its snapshot not written. -/
def Round.BreaksOff (fmt : ConfigFormat) (config : AgentConfig) (r : Round) : Prop :=
  (∃ e, roundConfig fmt config r.disk = .error e) ∨ r.written = false

/-- If the versions were asked for this list of backends before, every enabled backend that would
be accepted now, answers with a line and is not disabled by the policy has the name of one that was
accepted then. -/
def AcceptedBefore (fmt : ConfigFormat) (s : Refresher) (r : Round) (cfg : HubConfig) : Prop :=
  s.cache.fingerprint = backendsFingerprint fmt cfg.enabledBackends →
    ∀ i p, AnswersLine cfg.enabledBackends r.replies i p →
      (cfg.flagsInForce fmt r.disk).backendEnabled p.backend.name = true →
        p.backend.name ∈ s.cache.names

/-- If the configuration of a round is found, no earlier round but the first has broken off, and
the backends that would be accepted now were accepted when the versions were asked for. -/
def Unspoiled (fmt : ConfigFormat) (config : AgentConfig) (past : List Round) (s : Refresher)
    (r : Round) : Prop :=
  ∀ cfg, roundConfig fmt config r.disk = .ok cfg →
    (∀ q ∈ past.tail, ¬ q.BreaksOff fmt config) ∧ AcceptedBefore fmt s r cfg

section rounds

variable {fmt : ConfigFormat} {config : AgentConfig} {cfg : HubConfig} {disk : Disk}
  {cache : CompatCache} {replies : RoundReplies} {i : ℕ} {p : ParsedDevice} {d : DeviceEntry}

/-- A backend without accepted version has no merged device. -/
theorem name_mem_of_merged {names : List String} {devices : ℕ → Except String String}
    (hd : d ∈ (mergeDeviceLists (refreshLists cfg names devices)).devices) :
    d.backendName ∈ names := by
  obtain ⟨p, hp, hentry⟩ := exists_parsed_of_mem hd
  obtain ⟨body, hmem, line, hline, -⟩ := exists_body_of_parsed hp
  obtain ⟨⟨b, j⟩, -, heq⟩ := List.mem_map.mp hmem
  obtain ⟨hb, hbody⟩ := Prod.mk.inj heq
  have hname : d.backendName = p.backend.name := by
    unfold IsEntryOf at hentry
    rw [hentry]
  by_contra hnot
  rw [hname, ← hb] at hnot
  rw [if_neg hnot] at hbody
  subst hbody
  simp [lines, splitInclusive] at hline

/-- A line of a backend with accepted version is merged. -/
theorem merged_of_answers {names : List String}
    (h : AnswersLine cfg.enabledBackends replies i p) (hname : p.backend.name ∈ names) :
    ∃ d ∈ (mergeDeviceLists (refreshLists cfg names
      (replies.devices cfg.enabledBackends))).devices, IsEntryOf p d := by
  obtain ⟨hb, -, body, hbody, line, hline, hparse⟩ := h
  have hlist : (p.backend, body) ∈
      refreshLists cfg names (replies.devices cfg.enabledBackends) := by
    refine List.mem_map.mpr ⟨(p.backend, i), List.mem_zipIdx_iff_getElem?.mpr hb, ?_⟩
    dsimp only
    rw [if_pos hname, hbody]
    rfl
  have hp : p ∈ parseLists (refreshLists cfg names (replies.devices cfg.enabledBackends)) := by
    refine List.mem_flatMap.mpr ⟨_, hlist, List.mem_filterMap.mpr ⟨line, hline, ?_⟩⟩
    rw [hparse]
    rfl
  obtain ⟨j, hj, rfl⟩ := List.getElem_of_mem hp
  have hall := mergeDeviceLists_forall₂
    (refreshLists cfg names (replies.devices cfg.enabledBackends))
  have hj' := hall.length_eq ▸ hj
  exact ⟨_, List.getElem_mem hj', hall.get hj hj'⟩

/-- The snapshot of a round on accepted names shows a line if its backend is one of them, and not
otherwise unless the policy disables the node. -/
theorem lineShown_iff {names : List String} {policy : HubPolicySnapshot}
    (h : AnswersLine cfg.enabledBackends replies i p) :
    LineShown policy
        (mergeDeviceLists (refreshLists cfg names (replies.devices cfg.enabledBackends)))
        (publishedDevices policy
          (refreshLists cfg names (replies.devices cfg.enabledBackends))) p ↔
      (policy.backendEnabled p.backend.name = true → p.backend.name ∈ names) := by
  have hentryName : ∀ d, IsEntryOf p d → d.backendName = p.backend.name := by
    intro d hd
    unfold IsEntryOf at hd
    rw [hd]
  constructor
  · rintro (hnode | ⟨d, hd, hentry, -⟩ | ⟨d, hd, -, -, -, hname⟩) henabled
    · rw [hnode] at henabled
      simp at henabled
    · rw [← hentryName d hentry]
      exact name_mem_of_merged hd
    · obtain ⟨e, he, rfl⟩ := List.mem_map.mp hd
      have hname' : e.backendName = p.backend.name := hname
      rw [← hname']
      exact name_mem_of_merged (List.mem_filter.mp he).1
  · intro hnames
    by_cases henabled : policy.backendEnabled p.backend.name = true
    · obtain ⟨d, hd, hentry⟩ := merged_of_answers h (hnames henabled)
      by_cases hdevice : policy.deviceEnabled d.publicSerial = true
      · refine .inr (.inr ⟨sanitize d, List.mem_map.mpr ⟨d, ?_, rfl⟩, ?_⟩)
        · refine List.mem_filter.mpr ⟨hd, ?_⟩
          rw [hentryName d hentry, henabled, hdevice]
          rfl
        · unfold IsEntryOf at hentry
          rw [hentry]
          exact ⟨rfl, rfl, rfl, rfl⟩
      · exact .inr (.inl ⟨d, hd, hentry, Bool.eq_false_iff.mpr hdevice⟩)
    · exact .inl (Bool.eq_false_iff.mpr henabled)

/-- The name of a backend that would be accepted in a round is among the accepted ones after the
check, if it was before or the versions are asked for again. -/
theorem name_mem_check_iff (h : AnswersLine cfg.enabledBackends replies i p) :
    p.backend.name ∈ (cache.check fmt cfg.enabledBackends replies.probe).names ↔
      (cache.fingerprint = backendsFingerprint fmt cfg.enabledBackends →
        p.backend.name ∈ cache.names) := by
  unfold CompatCache.check
  by_cases hcached : cache.fingerprint = backendsFingerprint fmt cfg.enabledBackends
  · rw [if_neg (not_not_intro hcached)]
    exact ⟨fun hmem _ => hmem, fun hmem => hmem hcached⟩
  · rw [if_pos hcached]
    refine iff_of_true ?_ fun hsame => absurd hsame hcached
    refine List.mem_map.mpr ⟨p.backend, List.mem_map.mpr ⟨(p.backend, i), ?_, rfl⟩, rfl⟩
    exact List.mem_filter.mpr ⟨List.mem_zipIdx_iff_getElem?.mpr h.backend, h.passes⟩

theorem snapshotMessage_inj {changed changed' : Bool} {msg msg' : DeviceSnapshotMsg}
    (h : snapshotMessage changed msg = snapshotMessage changed' msg') : msg = msg' := by
  unfold snapshotMessage at h
  cases changed <;> cases changed' <;> simp_all

/-- A round publishes while the poller has not broken off and its configuration is found. -/
theorem published_round {s : Refresher} {r : Round} (hcfg : roundConfig fmt config r.disk = .ok cfg)
    (hphase : s.phase ≠ .ended) :
    (s.round fmt config r).published = some (snapshotMessage (s.phase = .polling)
      ⟨s.generation + 1, publishedDevices (cfg.flagsInForce fmt r.disk)
        (askBackends fmt r.disk cfg s.cache r.replies).lists⟩) := by
  have hround : refreshRound fmt config r.disk s.cache r.replies =
      .ok (askBackends fmt r.disk cfg s.cache r.replies) := by
    unfold refreshRound
    rw [hcfg]
    rfl
  unfold Refresher.round
  simp only [if_neg hphase, hround]
  rw [← policy_refresh_fromConfig]
  rfl

/-- **One round** is complete exactly if it takes place and asks the backends it has to. -/
theorem complete_round_iff (s : Refresher) (r : Round) :
    Complete fmt config s r (s.round fmt config r) ↔
      ∀ cfg, roundConfig fmt config r.disk = .ok cfg →
        s.phase ≠ .ended ∧ AcceptedBefore fmt s r cfg := by
  unfold Complete AcceptedBefore
  refine forall_congr' fun cfg => forall_congr' fun hcfg => ?_
  by_cases hphase : s.phase = .ended
  · have hnone : (s.round fmt config r).published = none := by
      unfold Refresher.round
      simp only [if_pos hphase]
    rw [hnone]
    simp [hphase]
  · rw [published_round hcfg hphase]
    constructor
    · rintro ⟨changed, msg, hpublished, hshown⟩
      obtain rfl := snapshotMessage_inj (Option.some.inj hpublished)
      refine ⟨hphase, fun hcached i p hp henabled => ?_⟩
      exact (name_mem_check_iff hp).mp ((lineShown_iff hp).mp (hshown i p hp) henabled) hcached
    · rintro ⟨-, hnames⟩
      refine ⟨_, _, rfl, fun i p hp => ?_⟩
      apply (lineShown_iff hp).mpr
      intro henabled
      apply (name_mem_check_iff hp).mpr
      intro hcached
      exact hnames hcached i p hp henabled

/-- After a round the poller runs, unless it had broken off or a round of its own breaks off. -/
theorem phase_round (s : Refresher) (r : Round) :
    (s.round fmt config r).phase ≠ .initial ∧
      ((s.round fmt config r).phase = .ended ↔
        s.phase = .ended ∨ (s.phase ≠ .initial ∧ r.BreaksOff fmt config)) := by
  unfold Refresher.round Round.BreaksOff refreshRound
  rcases hphase : s.phase with _ | _ | _
  · rcases hcfg : roundConfig fmt config r.disk with e | cfg
    · simp [bind, Except.bind]
    · rcases r.written with _ | _ <;> simp [bind, Except.bind]
  · rcases hcfg : roundConfig fmt config r.disk with e | cfg
    · simp [bind, Except.bind]
    · rcases r.written with _ | _ <;> simp [bind, Except.bind]
  · simp

/-- **What ends the poller**: a round after the first one that breaks off. -/
theorem ended_iff {rounds : List Round} {s : Refresher}
    (h : (Refresher.machine fmt config).Reaches rounds s) :
    (s.phase = .initial ↔ rounds = []) ∧
      (s.phase = .ended ↔ ∃ r ∈ rounds.tail, r.BreaksOff fmt config) := by
  unfold Machine.Reaches at h
  induction h with
  | init => exact ⟨iff_of_true rfl rfl, by simp [Refresher.machine]⟩
  | @snoc rounds s t r _ _ hs ih =>
      obtain rfl := Option.some.inj hs
      obtain ⟨hinitial, hended⟩ := ih
      obtain ⟨hne, hiff⟩ := @phase_round fmt config s r
      refine ⟨iff_of_false hne (by simp), hiff.trans ?_⟩
      rcases rounds with _ | ⟨first, rest⟩
      · have hphase := hinitial.mpr rfl
        simp [hphase]
      · have hphase : s.phase ≠ .initial := mt hinitial.mp (by simp)
        rw [hended, List.cons_append, List.tail_cons, List.tail_cons]
        constructor
        · rintro (⟨q, hq, hbreaks⟩ | ⟨-, hbreaks⟩)
          · exact ⟨q, List.mem_append_left _ hq, hbreaks⟩
          · exact ⟨r, List.mem_append_right _ (List.mem_singleton_self r), hbreaks⟩
        · rintro ⟨q, hq, hbreaks⟩
          rcases List.mem_append.mp hq with hq | hq
          · exact .inl ⟨q, hq, hbreaks⟩
          · obtain rfl := List.mem_singleton.mp hq
            exact .inr ⟨hphase, hbreaks⟩

end rounds

/-- **Complete snapshots, exactly.** In every run of the rounds of an agent, whatever the file and
the backends are in each round, every round is complete iff every round is unspoiled.
Source: `agent.rs`, `run_agent_with_shutdown` and `refresh_and_publish` -/
theorem rounds_complete_iff (fmt : ConfigFormat) (config : AgentConfig) (rounds : List Round) :
    (Refresher.machine fmt config).EachStep (fun _ s r t => Complete fmt config s r t) rounds ↔
      (Refresher.machine fmt config).EachStep (fun past s r _ => Unspoiled fmt config past s r)
        rounds := by
  refine forall_congr' fun past => forall_congr' fun s => forall_congr' fun r =>
    forall_congr' fun t => ?_
  refine forall_congr' fun _ => forall_congr' fun hreach => forall_congr' fun hs => ?_
  obtain rfl := Option.some.inj hs
  refine (complete_round_iff s r).trans ?_
  refine forall_congr' fun cfg => forall_congr' fun _ => and_congr_left fun _ => ?_
  rw [Ne, (ended_iff hreach).2]
  simp only [not_exists, not_and]

/-- The backend refuses the connection in the first round, and is there in the second one. -/
def outageThenBack : List Round :=
  [⟨officeDisk "AAAA1111",
      ⟨fun _ => { connect := some (.error "Connection refused (os error 111)") },
        fun _ => { connect := some (.error "Connection refused (os error 111)") }⟩, true⟩,
    ⟨officeDisk "AAAA1111", officeReplies, true⟩]

/-- The second snapshot has no device, although the backend would be accepted and has one. -/
theorem missing_after_outage :
    (∃ s, (Refresher.machine officeFormat ⟨"config.toml", none⟩).Reaches outageThenBack s ∧
        s.published = some (.deviceSnapshotChanged ⟨2, []⟩)) ∧
      ¬ (Refresher.machine officeFormat ⟨"config.toml", none⟩).EachStep
          (fun _ s r t => Complete officeFormat ⟨"config.toml", none⟩ s r t) outageThenBack := by
  constructor
  · have hrun : ((Refresher.machine officeFormat ⟨"config.toml", none⟩).exec {}
        outageThenBack).map (fun s => s.published) =
          some (some (.deviceSnapshotChanged ⟨2, []⟩)) := by decide +kernel
    obtain ⟨s, hs, hpublished⟩ := Option.map_eq_some_iff.mp hrun
    exact ⟨s, Machine.reaches_of_exec hs, hpublished⟩
  · intro hall
    have hsecond := hall (outageThenBack.take 1) _ ⟨officeDisk "AAAA1111", officeReplies, true⟩ _
      List.prefix_rfl (Machine.reaches_of_exec rfl) rfl
    have hcomplete := (complete_round_iff _ _).mp hsecond
    have hcfg : roundConfig officeFormat ⟨"config.toml", none⟩ (officeDisk "AAAA1111") =
        .ok { officeConfig "AAAA1111" with includeLocal := false } := by rfl
    obtain ⟨-, hbefore⟩ := hcomplete _ hcfg
    have hanswers : AnswersLine (officeConfig "AAAA1111").enabledBackends officeReplies 0
        ⟨⟨"office", .loopback 5041, some "AAAA1111", true⟩, "ABC", "device", ""⟩ := by
      refine ⟨rfl, by decide +kernel, "ABC\tdevice\n", by rfl, "ABC\tdevice", ?_, ?_⟩
      · decide +kernel
      · decide +kernel
    exact absurd (hbefore (by decide +kernel) 0 _ hanswers (by decide +kernel)) (by decide +kernel)

end AdbHub
