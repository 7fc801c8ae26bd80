import AdbHub.HubEdit
import AdbHub.KeptNodes

/-!
# Flags that change while the hub runs

The enable flags of the nodes count twice: when the hub starts, for the backends it polls, and at
every request, for the devices that are shown (`hub.rs`, `run_hub_with_shutdown`; `session.rs`,
`client_snapshot`). Here a hub that runs is compared with one that starts.

* `HubConfig.polledBackends` — the backends that a hub polls as long as it runs.
* `HubStart.machine` — a hub that runs while the flags in its file are changed.
* `Replies.ofTurns` and `StartPoll.answers` — the lists that the backends answer the two with;
  `reportsOf_turns` and `reportsOf_start`.
* **`live_flags`** — a run serves what a hub freshly started serves, if at every poll the flags of
  the file are known or will be read, the nodes that are enabled tell both hubs the same and the
  others do not meddle with their names.
* **`served_as_fresh_of_sameNodes`** — so it is if the enabled nodes are those that are watched.
-/

namespace AdbHub

open Lib

/-! ## The start of a hub -/

/-- The adb server on the side port. Source: `hub.rs`, `run_hub_with_shutdown`, `local_backend`. -/
def HubConfig.localBackend (config : HubConfig) : BackendConfig where
  name := "local"
  addr := .loopback config.localAdbPort
  pairCode := none
  enabled := true

/-- The backends that the hub polls and routes through. Source: `hub.rs`,
`run_hub_with_shutdown`. -/
def HubConfig.polledBackends (config : HubConfig) : Except String (List BackendConfig) :=
  let backends :=
    if config.includeLocal then
      config.localBackend :: config.backends.filter fun b =>
        b.name ≠ config.localBackend.name && b.addr ≠ config.localBackend.addr
    else config.backends
  -- the local backend is always enabled
  let backends := backends.filter (·.enabled)
  if backends.isEmpty then .error "no backends configured (all nodes disabled?)" else .ok backends

/-- What the backends answer, by address and pair code: to the question for their version, and to
that for their devices. -/
structure Replies where
  probe : SocketAddr → Option String → Dial
  list : SocketAddr → Option String → Dial

namespace Replies

/-- What entry number `i` answers to the question for its version. -/
def probes (replies : Replies) (backends : List BackendConfig) (i : ℕ) : Dial :=
  (backends[i]?).elim {} fun b => replies.probe b.addr b.pairCode

/-- What entry number `i` answers to the question for its devices. -/
def lists (replies : Replies) (backends : List BackendConfig) (i : ℕ) : Dial :=
  (backends[i]?).elim {} fun b => replies.list b.addr b.pairCode

/-- The list that a watcher stores. Source: `backend.rs`, `run_backend_watcher`, the match on
`fetch_devices_l(..)`. -/
def body (replies : Replies) (backend : BackendConfig) : String :=
  polledBody (fun _ => replies.list backend.addr backend.pairCode) backend 0

/-- The map of the poller after its seed poll. Source: `backend.rs`, `run_backend_poller`. -/
def seeded (replies : Replies) (backends : List BackendConfig) : List (BackendConfig × String) :=
  seeds backends (replies.probes backends) (replies.lists backends)

end Replies

/-- The two polls of a hub that starts. -/
inductive StartPoll
  /-- The poll before clients are accepted. -/
  | beforeClients
  /-- The seed poll of the poller. -/
  | seed

/-- The lists that are merged at the start. Source: `backend.rs`, `poll_backends_once`, and
`run_backend_poller` up to its first `publish_shared`. -/
def StartPoll.lists (backends : List BackendConfig) (replies : Replies) :
    StartPoll → List (BackendConfig × String)
  | .beforeClients => initialLists backends (replies.probes backends) (replies.lists backends)
  | .seed => (SeededMap.seed (replies.seeded backends)).inOrder

/-- What a client is shown. Source: `session.rs`, `client_snapshot`. -/
def clientSnapshot (fmt : ConfigFormat) (disk : Disk) (policy : ReloadableHubPolicy)
    (registry : DeviceRegistry) : ReloadableHubPolicy × DeviceSnapshot :=
  let (policy, flags) := policy.refresh fmt disk
  (policy, flags.filterSnapshot registry.inner)

/-- What a hub that starts with this file shows, if it starts. Source: `hub.rs`,
`run_hub_with_shutdown`. -/
def freshView (start : StartPoll) (fmt : ConfigFormat) (disk : Disk) (path : String)
    (replies : Replies) : Option DeviceSnapshot := do
  let config ← (disk.loadFile fmt path).toOption
  let policy := ReloadableHubPolicy.fromConfig fmt disk config
  let backends ← config.polledBackends.toOption
  let registry := ({} : DeviceRegistry).updateFromBackendLists (start.lists backends replies)
  some (clientSnapshot fmt disk policy registry).2

/-! ## A hub that runs -/

/-- The two configurations differ in enable flags only. -/
def OnlyFlags (config config' : HubConfig) : Prop :=
  config'.listen = config.listen ∧ config'.pollInterval = config.pollInterval ∧
    config'.adbVersion = config.adbVersion ∧ config'.includeLocal = config.includeLocal ∧
    config'.localAdbPort = config.localAdbPort ∧
    config'.backends.map (fun b => { b with enabled := true }) =
      config.backends.map fun b => { b with enabled := true }

instance (config config' : HubConfig) : Decidable (OnlyFlags config config') :=
  inferInstanceAs (Decidable (_ ∧ _ ∧ _ ∧ _ ∧ _ ∧ _))

/-- Watcher `i` polls its backend and publishes. Source: `backend.rs`, `run_backend_watcher`. -/
def Poller.turn {order : List BackendConfig} (watched : List BackendConfig) (replies : Replies)
    (s : Poller order) (i : ℕ) : Option (Poller order) := do
  let backend ← watched[i]?
  let s ← s.step watched (.store i (replies.body backend))
  let s ← s.step watched (.copy i)
  s.step watched (.update i)

/-- A hub that runs, with its file. -/
structure LiveHub (order : List BackendConfig) where
  disk : Disk
  policy : ReloadableHubPolicy
  poller : Poller order
  /-- What was shown after the last complete poll, and what the backends answered in it; nothing if
  the file was changed since. -/
  served : Option (Replies × DeviceSnapshot)

/-- What happens next. -/
inductive LiveEvent
  /-- The file is replaced. -/
  | rewrite (file : DiskFile)
  /-- The watchers take these turns, and a client asks for the devices. -/
  | poll (replies : Replies) (turns : List ℕ)

namespace LiveHub

variable {order : List BackendConfig}

/-- The file is replaced. -/
def replaceFile (s : LiveHub order) (path : String) (file : DiskFile) : LiveHub order :=
  { s with disk := Function.update s.disk path (some file), served := none }

/-- The poller has come to this state, and a client asks for the devices. Source: `session.rs`,
`client_snapshot`. -/
def serve (fmt : ConfigFormat) (s : LiveHub order) (replies : Replies) (poller : Poller order) :
    LiveHub order :=
  let (policy, view) := clientSnapshot fmt s.disk s.policy poller.registry
  { s with policy := policy, poller := poller, served := some (replies, view) }

/-- One step; only flags change in the file, and every watcher takes a turn in a poll. -/
def step (fmt : ConfigFormat) (path : String) (watched : List BackendConfig) (s : LiveHub order) :
    LiveEvent → Option (LiveHub order)
  | .rewrite file => do
      let config ← (s.disk.loadFile fmt path).toOption
      let config' ← ((s.replaceFile path file).disk.loadFile fmt path).toOption
      if OnlyFlags config config' then some (s.replaceFile path file) else none
  | .poll replies turns =>
      if ∀ i < watched.length, i ∈ turns then
        (turns.foldlM (Poller.turn watched replies) s.poller).map (s.serve fmt replies)
      else none

/-- The clients are shown what a hub that starts now shows them. -/
def ServedAsFresh (start : StartPoll) (fmt : ConfigFormat) (path : String) (s : LiveHub order) :
    Prop :=
  ∀ replies view fresh, s.served = some (replies, view) →
    freshView start fmt s.disk path replies = some fresh → view = fresh

end LiveHub

/-- A hub that is started with a file. -/
structure HubStart (fmt : ConfigFormat) (path : String) where
  disk : Disk
  config : HubConfig
  loaded : disk.loadFile fmt path = .ok config
  backends : List BackendConfig
  polled : config.polledBackends = .ok backends
  /-- What the backends answer when the poller starts. -/
  replies : Replies

namespace HubStart

variable {fmt : ConfigFormat} {path : String}

/-- The backends that have a watcher. Source: `backend.rs`, `run_backend_poller`, `compatible`. -/
def watched (hub : HubStart fmt path) : List BackendConfig :=
  filterCompatibleBackends hub.backends (hub.replies.probes hub.backends)

/-- The backends whose lists are merged. -/
def order (hub : HubStart fmt path) : List BackendConfig :=
  (hub.replies.seeded hub.backends).map Prod.fst

/-- The hub from its start on. Source: `hub.rs`, `run_hub_with_shutdown`. -/
def machine (hub : HubStart fmt path) : Machine (LiveHub hub.order) LiveEvent where
  init :=
    { disk := hub.disk
      policy := .fromConfig fmt hub.disk hub.config
      poller := (pollerMachine (hub.replies.seeded hub.backends) hub.watched {}).init
      served := none }
  step := LiveHub.step fmt path hub.watched

end HubStart

/-! ## What the two hubs are told -/

section

variable {order watched : List BackendConfig} {replies : Replies}

/-- What backends report. -/
def Replies.reports (replies : Replies) (backends : List BackendConfig) : List DeviceEntry :=
  backends.flatMap fun b => reportsOf [(b, replies.body b)]

/-- The reports of some nodes. -/
theorem Replies.filter_reports (keep : String → Bool) (backends : List BackendConfig) :
    (replies.reports backends).filter (fun d => keep d.backendName) =
      replies.reports (backends.filter fun b => keep b.name) := by
  unfold Replies.reports
  rw [List.filter_flatMap, flatMap_filter]
  refine List.flatMap_congr fun b _ => ?_
  rw [← reportsOf_keptLists]
  unfold keptLists
  rw [List.filter_singleton]
  rcases keep b.name with _ | _
  · rfl
  · rfl

theorem polledBody_lists {backends : List BackendConfig} {entry : BackendConfig × ℕ}
    (h : entry ∈ backends.zipIdx) :
    polledBody (replies.lists backends) entry.1 entry.2 = replies.body entry.1 := by
  unfold Replies.body polledBody Replies.lists
  rw [List.mem_zipIdx_iff_getElem?.mp h]
  rfl

/-- The backend is compatible. Source: `backend.rs`, `filter_compatible_backends`. -/
def Replies.compatible (replies : Replies) (backend : BackendConfig) : Bool :=
  passesProbe backend (replies.probe backend.addr backend.pairCode)

theorem filterCompatibleBackends_probes (backends : List BackendConfig) :
    filterCompatibleBackends backends (replies.probes backends) =
      backends.filter replies.compatible := by
  have hpasses : ∀ entry ∈ backends.zipIdx,
      passesProbe entry.1 (replies.probes backends entry.2) = replies.compatible entry.1 := by
    intro entry hentry
    unfold Replies.probes Replies.compatible
    rw [List.mem_zipIdx_iff_getElem?.mp hentry]
    rfl
  have hentries : filterCompatibleBackends backends (replies.probes backends) =
      (backends.zipIdx.filter fun entry => replies.compatible entry.1).map Prod.fst :=
    congrArg (List.map Prod.fst) (List.filter_congr hpasses)
  have hfst : (backends.zipIdx.filter fun entry => replies.compatible entry.1).map Prod.fst =
      (backends.zipIdx.map Prod.fst).filter replies.compatible := by
    rw [List.filter_map]
    rfl
  rw [hentries, hfst, List.zipIdx_map_fst]

/-- The last backend of a name. -/
def lastOf (backends : List BackendConfig) (name : String) : Option BackendConfig :=
  (backends.filter fun b => b.name = name).getLast?

/-- The lists that backends answer with. -/
def Replies.answers (replies : Replies) (backends : List BackendConfig) :
    List (BackendConfig × String) :=
  backends.map fun b => (b, replies.body b)

/-- The lists that a hub which starts is given: of the compatible backends before clients are
accepted, and of the last entries of their names by the seed poll. -/
def StartPoll.answers (backends : List BackendConfig) (replies : Replies) :
    StartPoll → List (BackendConfig × String)
  | .beforeClients => replies.answers (backends.filter replies.compatible)
  | .seed => backends.filterMap fun b =>
      if b.name ∈ (backends.filter replies.compatible).map BackendConfig.name then
        (lastOf backends b.name).map fun c => (c, replies.body c)
      else none

theorem reportsOf_answers (backends : List BackendConfig) :
    reportsOf (replies.answers backends) = replies.reports backends := by
  unfold Replies.answers Replies.reports
  rw [reportsOf_eq_flatMap, List.flatMap_map]

theorem lastNamed_fst (backends : List BackendConfig) (name : String) :
    (lastNamed backends name).map Prod.fst = lastOf backends name := by
  unfold lastNamed lastOf
  rw [← List.getLast?_map]
  congr 1
  calc (backends.zipIdx.filter fun entry => entry.1.name = name).map Prod.fst
      = (backends.zipIdx.map Prod.fst).filter fun b => b.name = name := by
        rw [List.filter_map]
        rfl
    _ = backends.filter fun b => b.name = name := by rw [List.zipIdx_map_fst]

/-- What the last entry of a name reports by the seed poll. -/
theorem lastReported_eq (backends : List BackendConfig) (name : String) :
    lastReported backends (replies.probes backends) (replies.lists backends) name =
      (if name ∈ (backends.filter replies.compatible).map BackendConfig.name then
        (lastOf backends name).map fun c => (c, replies.body c)
      else none).elim [] fun list => reportsOf [list] := by
  unfold lastReported compatibleNames
  rw [filterCompatibleBackends_probes]
  split_ifs
  · rw [← lastNamed_fst]
    rcases hlast : lastNamed backends name with _ | entry
    · rfl
    · show reported (replies.lists backends) entry = _
      unfold reported
      rw [polledBody_lists (mem_of_lastNamed backends hlast).1]
      rfl
  · rfl

/-- What a hub that starts is told. -/
theorem reportsOf_start (backends : List BackendConfig) (start : StartPoll) :
    reportsOf (start.lists backends replies) = reportsOf (start.answers backends replies) := by
  cases start with
  | beforeClients =>
      show reportsOf (initialLists ..) = reportsOf (replies.answers _)
      rw [reportsOf_initialLists, reportsOf_answers, ← filterCompatibleBackends_probes]
      unfold Replies.reports filterCompatibleBackends
      rw [List.flatMap_map]
      refine List.flatMap_congr fun entry hentry => ?_
      unfold reported
      rw [polledBody_lists (List.mem_filter.mp hentry).1]
  | seed =>
      have hseeds := copyLists_seeds backends (replies.probes backends) (replies.lists backends)
      have horder : copyLists backends (seedShared (replies.seeded backends)) =
          some (SeededMap.seed (replies.seeded backends)).inOrder := by
        rw [← SeededMap.copyLists_eq]
        show _ = copyLists ((replies.seeded backends).map Prod.fst)
          (seedShared (replies.seeded backends))
        unfold Replies.seeded
        rw [map_fst_seeds]
      have hin : (SeededMap.seed (replies.seeded backends)).inOrder = _ :=
        Option.some.inj (horder.symm.trans hseeds)
      show reportsOf (SeededMap.seed (replies.seeded backends)).inOrder = _
      unfold StartPoll.answers
      rw [hin, reportsOf_seeded, reportsOf_filterMap]
      exact List.flatMap_congr fun b _ => lastReported_eq backends b.name

/-- No watcher is at work, and the registry is the merge of the lists. -/
def Poller.Settled {order : List BackendConfig} (s : Poller order) : Prop :=
  (∀ i, s.watcher i = .idle) ∧ s.registry.inner = mergeDeviceLists s.shared.inOrder

/-- What one turn does. -/
theorem Poller.turn_cases {s t : Poller order} {i : ℕ} (h : s.Settled)
    (ht : s.turn watched replies i = some t) :
    ∃ w, watched[i]? = some w ∧ t.shared = s.shared.store w (replies.body w) ∧ t.Settled := by
  obtain ⟨hidle, -⟩ := h
  unfold Poller.turn at ht
  rcases hbackend : watched[i]? with _ | w
  · simp [hbackend] at ht
  · simp only [hbackend, hidle i, Poller.step, Option.bind_eq_bind, Option.bind_some,
      Function.update_self, SeededMap.copyLists_eq, Option.some.injEq] at ht
    obtain rfl := ht
    refine ⟨w, rfl, rfl, fun j => ?_, rfl⟩
    by_cases hj : j = i
    · rw [hj]
      exact Function.update_self ..
    · simp [Function.update_of_ne hj, hidle j]

theorem Poller.Settled.turns {order watched : List BackendConfig} {replies : Replies}
    {turns : List ℕ} {s t : Poller order} (h : s.Settled)
    (ht : turns.foldlM (Poller.turn watched replies) s = some t) : t.Settled := by
  induction turns generalizing s with
  | nil =>
      obtain rfl := Option.some.inj ht
      exact h
  | cons i turns ih =>
      rw [List.foldlM_cons] at ht
      obtain ⟨u, hu, hrest⟩ := Option.bind_eq_some_iff.mp ht
      obtain ⟨_, _, _, hsettled⟩ := Poller.turn_cases h hu
      exact ih hsettled hrest

theorem lookup_store (m : SeededMap order) (w : BackendConfig) (body name : String) :
    (m.store w body).map.lookup name =
      if w.name = name then some (w, body) else m.map.lookup name := by
  show (storeBody m.map w body).lookup name = _
  unfold storeBody
  split_ifs with hname
  · rw [← hname, AList.lookup_insert]
  · exact AList.lookup_insert_ne (Ne.symm hname)

/-- The watcher of a name whose turn came last. -/
def lastTurn (watched : List BackendConfig) (turns : List ℕ) (name : String) :
    Option BackendConfig :=
  lastOf (turns.filterMap fun i => watched[i]?) name

/-- The lists that a hub which runs is given in a poll: for every backend, that of the watcher of its
name whose turn came last. -/
def Replies.ofTurns (replies : Replies) (order watched : List BackendConfig) (turns : List ℕ) :
    List (BackendConfig × String) :=
  order.filterMap fun b => (lastTurn watched turns b.name).map fun w => (w, replies.body w)

theorem lastTurn_cons {i : ℕ} {turns : List ℕ} {w : BackendConfig} (hw : watched[i]? = some w)
    (name : String) : lastTurn watched (i :: turns) name =
      (lastTurn watched turns name).or (if w.name = name then some w else none) := by
  unfold lastTurn lastOf
  rw [List.filterMap_cons_some hw, List.filter_cons]
  by_cases hname : w.name = name
  · simp only [hname, decide_true, if_true, List.getLast?_cons]
    exact Option.or_some.symm
  · simp [hname]

/-- In a complete poll every watcher has a turn. -/
theorem exists_lastTurn {turns : List ℕ} (hturns : ∀ i < watched.length, i ∈ turns)
    {name : String} (hname : name ∈ watched.map BackendConfig.name) :
    ∃ w ∈ watched, lastTurn watched turns name = some w := by
  obtain ⟨w, hw, rfl⟩ := List.mem_map.mp hname
  obtain ⟨i, hi⟩ := List.mem_iff_getElem?.mp hw
  have hmem : w ∈ (turns.filterMap fun i => watched[i]?).filter fun b => b.name = w.name := by
    refine List.mem_filter.mpr ⟨List.mem_filterMap.mpr ⟨i, ?_, hi⟩, by simp⟩
    exact hturns i (List.getElem?_eq_some_iff.mp hi).1
  rcases hlast : lastTurn watched turns w.name with _ | last
  · rw [List.getLast?_eq_none_iff.mp hlast] at hmem
    cases hmem
  · obtain ⟨j, -, hj⟩ := List.mem_filterMap.mp (List.mem_filter.mp (List.mem_of_getLast? hlast)).1
    exact ⟨last, List.mem_of_getElem? hj, rfl⟩

/-- What is stored under a name after the watchers have taken their turns. -/
theorem Poller.lookup_turns {turns : List ℕ} {s t : Poller order} (hs : s.Settled)
    (h : turns.foldlM (Poller.turn watched replies) s = some t) (name : String) :
    t.shared.map.lookup name =
      ((lastTurn watched turns name).map fun w => (w, replies.body w)).or
        (s.shared.map.lookup name) := by
  induction turns generalizing s with
  | nil =>
      obtain rfl := Option.some.inj h
      rfl
  | cons i turns ih =>
      rw [List.foldlM_cons] at h
      obtain ⟨u, hu, hrest⟩ := Option.bind_eq_some_iff.mp h
      obtain ⟨w, hw, hshared, hsettled⟩ := Poller.turn_cases hs hu
      rw [ih hsettled hrest, hshared, lookup_store, lastTurn_cons hw]
      rcases lastTurn watched turns name with _ | last
      · split_ifs
        · rfl
        · rfl
      · rfl

/-- Under a name without a watcher there is no list. -/
def Poller.Unlisted (watched : List BackendConfig) (s : Poller order) : Prop :=
  ∀ name, name ∉ watched.map BackendConfig.name →
    ∀ list, s.shared.map.lookup name = some list → list.2 = ""

theorem lastTurn_eq_none {turns : List ℕ} {name : String}
    (hname : name ∉ watched.map BackendConfig.name) : lastTurn watched turns name = none := by
  unfold lastTurn lastOf
  rw [List.getLast?_eq_none_iff, List.filter_eq_nil_iff]
  intro w hw
  obtain ⟨i, -, hi⟩ := List.mem_filterMap.mp hw
  have hne : w.name ≠ name := fun h => hname (List.mem_map.mpr ⟨w, List.mem_of_getElem? hi, h⟩)
  simpa using hne

theorem Poller.Unlisted.turns {turns : List ℕ} {s t : Poller order} (h : s.Unlisted watched)
    (hs : s.Settled) (ht : turns.foldlM (Poller.turn watched replies) s = some t) :
    t.Unlisted watched := by
  intro name hname list hlist
  rw [Poller.lookup_turns hs ht, lastTurn_eq_none hname] at hlist
  exact h name hname list hlist

/-- What a hub that runs is told in a complete poll. -/
theorem reportsOf_turns {turns : List ℕ} (hturns : ∀ i < watched.length, i ∈ turns)
    {s t : Poller order} (hs : s.Settled) (hunlisted : s.Unlisted watched)
    (h : turns.foldlM (Poller.turn watched replies) s = some t) :
    reportsOf t.shared.inOrder = reportsOf (replies.ofTurns order watched turns) := by
  unfold SeededMap.inOrder Replies.ofTurns
  rw [reportsOf_filterMap, reportsOf_filterMap]
  refine List.flatMap_congr fun b _ => ?_
  rw [Poller.lookup_turns hs h]
  by_cases hname : b.name ∈ watched.map BackendConfig.name
  · obtain ⟨w, -, hw⟩ := exists_lastTurn hturns hname
    rw [hw]
    rfl
  · rw [lastTurn_eq_none hname, Option.map_none, Option.none_or]
    rcases hlist : s.shared.map.lookup b.name with _ | ⟨backend, body⟩
    · rfl
    · obtain rfl : body = "" := hunlisted b.name hname _ hlist
      exact reportsOf_empty backend

end

/-! ## The runs -/

namespace LiveHub

variable {order : List BackendConfig} {start : StartPoll} {fmt : ConfigFormat} {path : String}
  {watched : List BackendConfig} {s t : LiveHub order}

/-- A configuration knows its file. -/
theorem configPath_of_loadFile {disk : Disk} {config : HubConfig}
    (h : disk.loadFile fmt path = .ok config) : config.configPath = some path := by
  obtain ⟨-, -, loaded, -, -, -, rfl⟩ := HubConfig.loadFile_eq_ok h
  rfl

theorem exists_file_of_loadFile {disk : Disk} {config : HubConfig}
    (h : disk.loadFile fmt path = .ok config) : ∃ file, disk path = some file := by
  rcases hfile : disk path with _ | file
  · unfold Disk.loadFile at h
    rw [hfile] at h
    cases h
  · exact ⟨file, rfl⟩

theorem loadHubPolicyFile_of_loadFile {disk : Disk} {config : HubConfig}
    (h : disk.loadFile fmt path = .ok config) :
    loadHubPolicyFile fmt disk path = .ok config.policy := by
  unfold loadHubPolicyFile
  rw [h]
  rfl

/-- What a running hub knows of its file. -/
structure KnowsFile (fmt : ConfigFormat) (path : String) (s : LiveHub order) (config : HubConfig) :
    Prop where
  loaded : s.disk.loadFile fmt path = .ok config
  reads : s.policy.path = some path

/-- The flags of the file are those that are known, or will be read at the next request: it has not
the modification time that the known ones were read at. -/
def FlagsInForce (path : String) (s : LiveHub order) (config : HubConfig) : Prop :=
  (s.disk path).bind DiskFile.modified ≠ s.policy.mtime ∨ s.policy.policy.SameFlags config.policy

/-- A refresh gives the flags in force. -/
theorem KnowsFile.refresh {config : HubConfig} (h : s.KnowsFile fmt path config) :
    KnowsFile fmt path { s with policy := (s.policy.refresh fmt s.disk).1 } config ∧
      (s.FlagsInForce path config → (s.policy.refresh fmt s.disk).2.SameFlags config.policy) := by
  have hload := loadHubPolicyFile_of_loadFile h.loaded
  unfold ReloadableHubPolicy.refresh
  rw [h.reads]
  dsimp only
  by_cases hmtime : (s.disk path).bind DiskFile.modified = s.policy.mtime
  · rw [if_neg (not_not.mpr hmtime)]
    exact ⟨h, fun hflags => hflags.resolve_left (not_not.mpr hmtime)⟩
  · rw [if_pos hmtime, hload]
    exact ⟨⟨h.loaded, rfl⟩, fun _ => .refl _⟩

/-- The condition on a step: at a poll the flags of the file are in force, and the lists that the
nodes answer the running hub with are, where nodes are enabled, like those for a hub that starts. -/
def LikeFresh (start : StartPoll) (fmt : ConfigFormat) (path : String)
    (watched : List BackendConfig) (s : LiveHub order) : LiveEvent → Prop
  | .rewrite _ => True
  | .poll replies turns => ∀ config backends, s.disk.loadFile fmt path = .ok config →
      config.polledBackends = .ok backends → s.FlagsInForce path config ∧
        AlikeWhereEnabled config.policy (replies.ofTurns order watched turns)
          (start.answers backends replies)

/-- What holds of a hub that runs. -/
structure Runs (fmt : ConfigFormat) (path : String) (watched : List BackendConfig)
    (s : LiveHub order) : Prop where
  settled : s.poller.Settled
  unlisted : s.poller.Unlisted watched
  knows : ∃ config, s.KnowsFile fmt path config

/-- At the start a backend that is not compatible has nothing. -/
theorem unlisted_init (hub : HubStart fmt path) : hub.machine.init.poller.Unlisted hub.watched := by
  intro name hname list hlist
  have hlast : (seedShared (hub.replies.seeded hub.backends)).lookup name = some list := hlist
  rw [lookup_seedShared] at hlast
  obtain ⟨hmem, hsame⟩ := List.mem_filter.mp (List.mem_of_getLast? hlast)
  obtain ⟨entry, -, rfl⟩ := List.mem_map.mp hmem
  have hentry : entry.1.name = name := of_decide_eq_true hsame
  exact if_neg (hentry ▸ hname)

theorem runs_init (hub : HubStart fmt path) : hub.machine.init.Runs fmt path hub.watched := by
  refine ⟨⟨fun _ => rfl, rfl⟩, unlisted_init hub, hub.config, hub.loaded, ?_⟩
  obtain ⟨file, hfile⟩ := exists_file_of_loadFile hub.loaded
  show (ReloadableHubPolicy.fromConfig fmt hub.disk hub.config).path = _
  unfold ReloadableHubPolicy.fromConfig
  rw [configPath_of_loadFile hub.loaded]
  dsimp only
  rw [hfile]

/-- What a hub that starts with the file shows. -/
theorem freshView_eq {disk : Disk} {config : HubConfig} {backends : List BackendConfig}
    {replies : Replies} (hload : disk.loadFile fmt path = .ok config)
    (hpolled : config.polledBackends = .ok backends) :
    freshView start fmt disk path replies =
      some (config.policy.filterSnapshot (mergeDeviceLists (start.lists backends replies))) := by
  obtain ⟨file, hfile⟩ := exists_file_of_loadFile hload
  have hflags : config.flagsInForce fmt disk = config.policy := by
    unfold HubConfig.flagsInForce
    rw [configPath_of_loadFile hload]
    dsimp only
    rw [hfile, loadHubPolicyFile_of_loadFile hload]
    rfl
  unfold freshView
  rw [hload]
  simp only [Except.toOption, hpolled, Option.bind_eq_bind, Option.bind_some]
  show some (((ReloadableHubPolicy.fromConfig fmt disk config).refresh fmt disk).2.filterSnapshot
    _) = _
  rw [policy_refresh_fromConfig, hflags]
  rfl

/-- Everything one step can do. -/
theorem step_cases {event : LiveEvent} (h : s.step fmt path watched event = some t) :
    (∃ file config', event = .rewrite file ∧
      (s.replaceFile path file).disk.loadFile fmt path = .ok config' ∧
        t = s.replaceFile path file) ∨
      ∃ replies turns poller, event = .poll replies turns ∧ (∀ i < watched.length, i ∈ turns) ∧
        turns.foldlM (Poller.turn watched replies) s.poller = some poller ∧
          t = s.serve fmt replies poller := by
  cases event with
  | rewrite file =>
      left
      simp only [step, Option.bind_eq_bind] at h
      obtain ⟨_, -, h⟩ := Option.bind_eq_some_iff.mp h
      obtain ⟨config', hload', h⟩ := Option.bind_eq_some_iff.mp h
      split_ifs at h
      rcases hload : (s.replaceFile path file).disk.loadFile fmt path with e | cfg
      · rw [hload] at hload'
        cases hload'
      · exact ⟨file, cfg, rfl, hload, (Option.some.inj h).symm⟩
  | poll replies turns =>
      right
      simp only [step] at h
      split_ifs at h with hturns
      obtain ⟨poller, hpoller, rfl⟩ := Option.map_eq_some_iff.mp h
      exact ⟨replies, turns, poller, rfl, hturns, hpoller, rfl⟩

theorem runs_step {event : LiveEvent} (h : s.Runs fmt path watched)
    (hstep : s.step fmt path watched event = some t) : t.Runs fmt path watched := by
  obtain ⟨hsettled, hunlisted, config, hknows⟩ := h
  rcases step_cases hstep with ⟨file, config', rfl, hload', rfl⟩ |
    ⟨replies, turns, poller, rfl, -, hpoller, rfl⟩
  · exact ⟨hsettled, hunlisted, config', hload', hknows.reads⟩
  · obtain ⟨hknows', -⟩ := hknows.refresh
    exact ⟨hsettled.turns hpoller, hunlisted.turns hsettled hpoller, config, hknows'.loaded,
      hknows'.reads⟩

/-- What is shown after a step that is like one of a hub that starts. -/
theorem served_step {event : LiveEvent} (h : s.Runs fmt path watched)
    (hlike : s.LikeFresh start fmt path watched event)
    (hstep : s.step fmt path watched event = some t) : t.ServedAsFresh start fmt path := by
  obtain ⟨hsettled, hunlisted, config, hknows⟩ := h
  rcases step_cases hstep with ⟨file, config', rfl, -, rfl⟩ |
    ⟨replies, turns, poller, rfl, hturns, hpoller, rfl⟩
  · intro _ _ _ hserved
    cases hserved
  · rintro replies' view fresh hserved hfresh
    obtain ⟨rfl, rfl⟩ := Prod.mk.inj (Option.some.inj hserved)
    have hload : (s.serve fmt replies poller).disk.loadFile fmt path = .ok config :=
      hknows.loaded
    rcases hpolled : config.polledBackends with e | backends
    · unfold freshView at hfresh
      simp [hload, hpolled, Except.toOption] at hfresh
    · obtain ⟨hforce, halike⟩ := hlike config backends hknows.loaded hpolled
      obtain ⟨-, hflags⟩ := hknows.refresh
      rw [freshView_eq hload hpolled] at hfresh
      obtain rfl := Option.some.inj hfresh
      have hrunning : poller.registry.inner =
          mergeDeviceLists (replies.ofTurns order watched turns) := by
        rw [(hsettled.turns hpoller).2, mergeDeviceLists_eq_iff]
        exact reportsOf_turns hturns hsettled hunlisted hpoller
      show (s.policy.refresh fmt s.disk).2.filterSnapshot poller.registry.inner = _
      rw [(hflags hforce).filterSnapshot_eq, hrunning,
        mergeDeviceLists_eq_iff.mpr (reportsOf_start backends start)]
      exact filterSnapshot_of_alike halike

theorem runs_of_reaches {hub : HubStart fmt path} {events : List LiveEvent} {s : LiveHub hub.order}
    (h : hub.machine.Reaches events s) : s.Runs fmt path hub.watched :=
  Machine.Run.invariant (I := fun s => s.Runs fmt path hub.watched) h (runs_init hub)
    fun _ _ _ hruns _ hstep => runs_step hruns hstep

/-- What holds at the end of a run. -/
theorem served_of_run {hub : HubStart fmt path} {events : List LiveEvent} {s : LiveHub hub.order}
    (h : hub.machine.Run (LikeFresh start fmt path hub.watched) events s) :
    s.ServedAsFresh start fmt path := by
  cases h with
  | init => exact fun _ _ _ hserved => nomatch hserved
  | snoc hrun hlike hstep => exact served_step (runs_of_reaches hrun.reaches) hlike hstep

end LiveHub

/-- Under names of their own backends are the last ones of their names. -/
theorem lastOf_of_nodup {backends : List BackendConfig}
    (hnames : (backends.map BackendConfig.name).Nodup) {b : BackendConfig} (hb : b ∈ backends) :
    lastOf backends b.name = some b := by
  have hmem : b ∈ backends.filter fun c => c.name = b.name :=
    List.mem_filter.mpr ⟨hb, by simp⟩
  rcases hlast : lastOf backends b.name with _ | c
  · rw [List.getLast?_eq_none_iff.mp hlast] at hmem
    cases hmem
  · obtain ⟨hc, hname⟩ := List.mem_filter.mp (List.mem_of_getLast? hlast)
    rw [List.inj_on_of_nodup_map hnames hc hb (of_decide_eq_true hname)]

theorem map_filter_eq_filterMap {α β : Type} (keep : α → Bool) (f : α → β) (xs : List α) :
    (xs.filter keep).map f = xs.filterMap fun x => if keep x then some (f x) else none := by
  rw [← List.filterMap_eq_map, ← List.filterMap_eq_filter, List.filterMap_filterMap]
  refine List.filterMap_congr fun x _ => ?_
  unfold Option.guard
  split_ifs
  · rfl
  · rfl

/-- What a hub that starts is given, under names of their own. -/
theorem answers_of_nodup {backends : List BackendConfig} {replies : Replies}
    (hnames : (backends.map BackendConfig.name).Nodup) (start : StartPoll) :
    start.answers backends replies = replies.answers (backends.filter replies.compatible) := by
  cases start with
  | beforeClients => rfl
  | seed =>
      show backends.filterMap _ = (backends.filter replies.compatible).map _
      rw [map_filter_eq_filterMap replies.compatible fun b => (b, replies.body b)]
      refine List.filterMap_congr fun b hb => ?_
      have hcompatible : b.name ∈ (backends.filter replies.compatible).map BackendConfig.name ↔
          replies.compatible b = true := by
        constructor
        · intro hname
          obtain ⟨c, hc, hcb⟩ := List.mem_map.mp hname
          obtain ⟨hc, hpasses⟩ := List.mem_filter.mp hc
          rwa [List.inj_on_of_nodup_map hnames hc hb hcb] at hpasses
        · exact fun hpasses => List.mem_map_of_mem (List.mem_filter.mpr ⟨hb, hpasses⟩)
      by_cases hpasses : replies.compatible b = true
      · rw [if_pos (hcompatible.mpr hpasses), if_pos hpasses, lastOf_of_nodup hnames hb]
        rfl
      · rw [if_neg (mt hcompatible.mp hpasses), if_neg hpasses]

namespace HubStart

variable {fmt : ConfigFormat} {path : String} (hub : HubStart fmt path)

theorem order_eq : hub.order = hub.backends := map_fst_seeds ..

theorem watched_eq : hub.watched = hub.order.filter hub.replies.compatible := by
  rw [order_eq]
  exact filterCompatibleBackends_probes hub.backends

variable {hub}

/-- What a hub that runs is given, under names of their own. -/
theorem ofTurns_of_nodup (hnames : (hub.backends.map BackendConfig.name).Nodup) {turns : List ℕ}
    (hturns : ∀ i < hub.watched.length, i ∈ turns) (replies : Replies) :
    replies.ofTurns hub.order hub.watched turns = replies.answers hub.watched := by
  rw [← order_eq] at hnames
  have hwatched : ∀ w ∈ hub.watched, w ∈ hub.order := by
    rw [watched_eq]
    exact fun w hw => (List.mem_filter.mp hw).1
  unfold Replies.ofTurns Replies.answers
  conv_rhs => rw [watched_eq, map_filter_eq_filterMap]
  refine List.filterMap_congr fun b hb => ?_
  by_cases hpasses : hub.replies.compatible b = true
  · have hb' : b ∈ hub.watched := by
      rw [watched_eq]
      exact List.mem_filter.mpr ⟨hb, hpasses⟩
    obtain ⟨w, hw, hlast⟩ := exists_lastTurn hturns (List.mem_map_of_mem hb')
    have hname : w.name = b.name := of_decide_eq_true
      (List.mem_filter.mp (List.mem_of_getLast? hlast)).2
    rw [hlast, List.inj_on_of_nodup_map hnames (hwatched w hw) hb hname, if_pos hpasses]
    rfl
  · have hname : b.name ∉ hub.watched.map BackendConfig.name := by
      intro hmem
      obtain ⟨w, hw, hwb⟩ := List.mem_map.mp hmem
      rw [List.inj_on_of_nodup_map hnames (hwatched w hw) hb hwb, watched_eq] at hw
      exact hpasses (List.mem_filter.mp hw).2
    rw [lastTurn_eq_none hname, if_neg hpasses]
    rfl

/-- The condition on a step: at a poll the flags of the file are in force, the nodes that are enabled
are in both hubs the same compatible ones, under names of their own, and the others do not meddle
with the names of their devices. -/
def SameNodes (hub : HubStart fmt path) (s : LiveHub hub.order) : LiveEvent → Prop
  | .rewrite _ => True
  | .poll replies _ => ∀ config backends, s.disk.loadFile fmt path = .ok config →
      config.polledBackends = .ok backends → s.FlagsInForce path config ∧
        (backends.map BackendConfig.name).Nodup ∧
        (hub.watched.filter fun b => config.policy.backendEnabled b.name) =
          ((backends.filter replies.compatible).filter fun b =>
            config.policy.backendEnabled b.name) ∧
        Undisturbed config.policy.backendEnabled (replies.answers hub.watched) ∧
        Undisturbed config.policy.backendEnabled
          (replies.answers (backends.filter replies.compatible))

/-- **The same nodes tell the same.** -/
theorem likeFresh_of_sameNodes (hnames : (hub.backends.map BackendConfig.name).Nodup)
    (start : StartPoll) {s t : LiveHub hub.order} {event : LiveEvent}
    (hstep : hub.machine.step s event = some t) (h : hub.SameNodes s event) :
    s.LikeFresh start fmt path hub.watched event := by
  rcases LiveHub.step_cases hstep with ⟨file, _, rfl, -, -⟩ | ⟨replies, turns, _, rfl, hturns, -, -⟩
  · trivial
  · intro config backends hload hpolled
    obtain ⟨hforce, hnames', hsame, hold, hnew⟩ := h config backends hload hpolled
    rw [ofTurns_of_nodup hnames hturns, answers_of_nodup hnames']
    refine ⟨hforce, config.policy.backendEnabled, fun _ henabled => henabled, ?_, hold, hnew⟩
    rw [reportsOf_keptLists, reportsOf_keptLists, reportsOf_answers, reportsOf_answers,
      Replies.filter_reports, Replies.filter_reports, hsame]

/-- **Nodes that stay.** Under names of their own, flags can be changed while the hub runs as long
as no node is enabled that it does not watch.
Source: `hub.rs`, `run_hub_with_shutdown` -/
theorem served_as_fresh_of_sameNodes (hnames : (hub.backends.map BackendConfig.name).Nodup)
    (start : StartPoll) {events : List LiveEvent} {s : LiveHub hub.order}
    (h : hub.machine.Run hub.SameNodes events s) :
    hub.machine.Always (LiveHub.ServedAsFresh start fmt path) events := by
  have hlike : ∀ es t, hub.machine.Run hub.SameNodes es t →
      hub.machine.Run (LiveHub.LikeFresh start fmt path hub.watched) es t := by
    intro es t hrun
    induction hrun with
    | init => exact .init
    | snoc _ hc hs ih => exact .snoc ih (likeFresh_of_sameNodes hnames start hs hc) hs
  exact h.always fun es t hrun => LiveHub.served_of_run (hlike es t hrun)

end HubStart

end AdbHub
