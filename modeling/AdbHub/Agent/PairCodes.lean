import AdbHub.Agent.Refresh

/-!
# Pair codes stay with the agent

An agent that runs on two configurations which differ only in the values of pair codes.

* `HubConfig.SameButCodes`, `SameButCodes` — configurations and files that differ in nothing else.
* `parseLists_alike`, `mergeDeviceLists_alike`, `agentView_alike` — what is made of the lists of the
  backends differs in the codes only; `publishedDevices_eq` — what is published does not differ.
* `AgentState.Alike` — agents whose routes differ in the codes only, and `AgentState.Alike.step`:
  they can do the same.
* **`nothing_told_of_codes`** — whatever the backends and the daemon do, the agent writes the same
  messages, and the same bytes.
-/

namespace AdbHub

open Lib Protocol

/-! ## Lists of backends -/

/-- Backends that differ in the value of the pair code only. -/
structure BackendConfig.SameButCode (b b' : BackendConfig) : Prop where
  name : b.name = b'.name
  addr : b.addr = b'.addr
  enabled : b.enabled = b'.enabled
  pairCode : SameCodes b.pairCode b'.pairCode

/-- Lines that differ in the pair code of their backend only. -/
structure ParsedDevice.Alike (p p' : ParsedDevice) : Prop where
  backend : p.backend.SameButCode p'.backend
  serial : p.serial = p'.serial
  state : p.state = p'.state
  extras : p.extras = p'.extras

/-- Devices that differ in the pair code only. -/
structure DeviceEntry.Alike (d d' : DeviceEntry) : Prop where
  publicSerial : d.publicSerial = d'.publicSerial
  upstreamSerial : d.upstreamSerial = d'.upstreamSerial
  state : d.state = d'.state
  extras : d.extras = d'.extras
  backendName : d.backendName = d'.backendName
  backendAddr : d.backendAddr = d'.backendAddr
  pairCode : SameCodes d.pairCode d'.pairCode

/-- Lists of backends that differ in the pair codes only, with the same bodies. -/
def ListsAlike : List (BackendConfig × String) → List (BackendConfig × String) → Prop :=
  List.Forall₂ fun l l' => l.1.SameButCode l'.1 ∧ l.2 = l'.2

section lists

variable {lists lists' : List (BackendConfig × String)} {ps ps' parsed parsed' : List ParsedDevice}
  {p p' : ParsedDevice}

theorem parseLists_alike (h : ListsAlike lists lists') :
    List.Forall₂ ParsedDevice.Alike (parseLists lists) (parseLists lists') := by
  unfold parseLists
  refine List.rel_flatMap h ?_
  rintro ⟨b, body⟩ ⟨b', body'⟩ ⟨hb, hbody⟩
  obtain rfl : body = body' := hbody
  refine List.rel_filterMap (R := Eq) (fun line line' hline => ?_) (List.forall₂_eq_eq_eq ▸ rfl)
  subst hline
  rcases parseDeviceLine line with _ | ⟨serial, state, extras⟩
  · exact .none
  · exact .some ⟨hb, rfl, rfl, rfl⟩

/-- The same first choice of a name. -/
theorem candidateSerial_alike (h : List.Forall₂ ParsedDevice.Alike parsed parsed')
    (hp : p.Alike p') : candidateSerial parsed p = candidateSerial parsed' p' := by
  have hcount : ∀ serial, serialCount parsed serial = serialCount parsed' serial := by
    intro serial
    unfold serialCount
    induction h with
    | nil => rfl
    | cons hq _ ih => rw [List.countP_cons, List.countP_cons, ih, hq.serial]
  unfold candidateSerial
  rw [hcount, hp.serial, hp.backend.name]

/-- The loop names the devices alike. -/
theorem mergeStep_foldl_alike (h : List.Forall₂ ParsedDevice.Alike parsed parsed')
    (hps : List.Forall₂ ParsedDevice.Alike ps ps') :
    (ps.foldl (mergeStep parsed) ([], [])).1 = (ps'.foldl (mergeStep parsed') ([], [])).1 ∧
      List.Forall₂ DeviceEntry.Alike (ps.foldl (mergeStep parsed) ([], [])).2
        (ps'.foldl (mergeStep parsed') ([], [])).2 := by
  refine List.rel_foldl (R := ParsedDevice.Alike)
    (P := fun acc acc' : List String × List DeviceEntry =>
      acc.1 = acc'.1 ∧ List.Forall₂ DeviceEntry.Alike acc.2 acc'.2) ?_ ⟨rfl, .nil⟩ hps
  rintro ⟨used, devices⟩ ⟨used', devices'⟩ ⟨hused, hdevices⟩ p p' hp
  obtain rfl : used = used' := hused
  have hserial : (if candidateSerial parsed p ∈ used then fallbackSerial p devices.length
        else candidateSerial parsed p) =
      if candidateSerial parsed' p' ∈ used then fallbackSerial p' devices'.length
        else candidateSerial parsed' p' := by
    rw [candidateSerial_alike h hp, fallbackSerial, fallbackSerial, hp.serial, hp.backend.name,
      hdevices.length_eq]
  refine ⟨congrArg (· :: used) hserial, List.rel_append hdevices (.cons ?_ .nil)⟩
  exact ⟨hserial, hp.serial, hp.state, hp.extras, hp.backend.name, hp.backend.addr,
    hp.backend.pairCode⟩

theorem mergeDeviceLists_alike (h : ListsAlike lists lists') :
    List.Forall₂ DeviceEntry.Alike (mergeDeviceLists lists).devices
      (mergeDeviceLists lists').devices :=
  (mergeStep_foldl_alike (parseLists_alike h) (parseLists_alike h)).2

theorem agentView_alike (policy : HubPolicySnapshot) (h : ListsAlike lists lists') :
    List.Forall₂ DeviceEntry.Alike (agentView policy lists).devices
      (agentView policy lists').devices := by
  unfold agentView HubPolicySnapshot.filterSnapshot
  refine List.rel_filter (fun d d' hd => ?_) (mergeDeviceLists_alike h)
  simp only [hd.backendName, hd.publicSerial]

/-- **The published devices** do not depend on the values of the pair codes. -/
theorem publishedDevices_eq (policy : HubPolicySnapshot) (h : ListsAlike lists lists') :
    publishedDevices policy lists = publishedDevices policy lists' := by
  unfold publishedDevices
  rw [← List.forall₂_eq_eq_eq]
  refine List.rel_map (fun d d' hd => ?_) (agentView_alike policy h)
  rw [sanitize, sanitize, routeIdOf, routeIdOf, hd.publicSerial, hd.upstreamSerial, hd.state,
    hd.extras, hd.backendName]

/-- Routes that differ in the pair code only. -/
structure RouteEntry.Alike (r r' : RouteEntry) : Prop where
  addr : r.addr = r'.addr
  upstreamSerial : r.upstreamSerial = r'.upstreamSerial
  pairCode : SameCodes r.pairCode r'.pairCode

/-- The first device with a token leads to routes that differ in the pair code only. -/
theorem find_alike {ds ds' : List DeviceEntry} (h : List.Forall₂ DeviceEntry.Alike ds ds')
    (routeId : String) :
    Option.Rel RouteEntry.Alike
      ((ds.find? fun d => routeIdOf d = routeId).map DeviceEntry.ownRoute)
      ((ds'.find? fun d => routeIdOf d = routeId).map DeviceEntry.ownRoute) := by
  induction h with
  | nil => exact .none
  | @cons d d' ds ds' hd _ ih =>
      have hid : routeIdOf d = routeIdOf d' := by
        rw [routeIdOf, routeIdOf, hd.backendName, hd.upstreamSerial]
      rw [List.find?_cons, List.find?_cons, hid]
      rcases decide (routeIdOf d' = routeId) with _ | _
      · exact ih
      · exact .some ⟨hd.backendAddr, hd.upstreamSerial, hd.pairCode⟩

/-- The same tokens lead to routes that differ in the pair code only. -/
theorem lookup_refreshRoutes_alike (policy : HubPolicySnapshot) (h : ListsAlike lists lists')
    (routeId : String) :
    Option.Rel RouteEntry.Alike ((refreshRoutes (agentView policy lists)).lookup routeId)
      ((refreshRoutes (agentView policy lists')).lookup routeId) := by
  rw [lookup_refreshRoutes, lookup_refreshRoutes]
  exact find_alike (List.rel_reverse (agentView_alike policy h)) routeId

end lists

/-! ## Agents -/

/-- Where the main loop stands, whatever the pair code of the route it opens. -/
inductive MainLoop.Alike : MainLoop → MainLoop → Prop
  | same (main : MainLoop) : Alike main main
  | opening (req : OpenPrivateStream) {route route' : RouteEntry} (h : route.Alike route') :
      Alike (.opening req route) (.opening req route')

/-- Agents whose routes differ in the pair codes only. -/
inductive AgentState.Alike (s : AgentState) : AgentState → Prop
  | mk {main : MainLoop} {routes : AList fun _ : String => RouteEntry} (hmain : s.main.Alike main)
      (hroutes : ∀ routeId, Option.Rel RouteEntry.Alike (s.routes.lookup routeId)
        (routes.lookup routeId)) :
      Alike s { s with main := main, routes := routes }

/-- Whether a snapshot is made. -/
def AgentTaskEvent.snapshots : AgentTaskEvent → Bool
  | .publish _ _ | .poll _ _ => true
  | _ => false

/-- The same event; the lists of a snapshot may differ in the pair codes. -/
inductive AgentTaskEvent.Alike : AgentTaskEvent → AgentTaskEvent → Prop
  | same {e : AgentTaskEvent} (h : e.snapshots = false) : Alike e e
  | publish (policy : HubPolicySnapshot) {lists lists' : List (BackendConfig × String)}
      (h : ListsAlike lists lists') : Alike (.publish policy lists) (.publish policy lists')
  | poll (policy : HubPolicySnapshot) {lists lists' : List (BackendConfig × String)}
      (h : ListsAlike lists lists') : Alike (.poll policy lists) (.poll policy lists')

namespace AgentState

variable {json : SerdeJson} {s s' : AgentState} {w : Writer} {msg : IpcMessage} {ok : Bool}

theorem Alike.main (h : s.Alike s') : s.main.Alike s'.main := by
  cases h with
  | mk hmain _ => exact hmain

theorem Alike.wire_eq (h : s.Alike s') : s'.wire = s.wire := by
  cases h with
  | mk _ _ => rfl

/-- A write returns alike. -/
theorem Alike.afterWrite (h : s.Alike s') (w : Writer) (ok : Bool) :
    (s.afterWrite w ok).Alike (s'.afterWrite w ok) := by
  obtain ⟨main, poller, task, streams, streamId, queue, toUpstream, routes, generation, wire⟩ := s
  cases h with
  | mk hmain hroutes =>
      cases w with
      | main =>
          cases hmain with
          | same =>
              cases main with
              | writing after => cases after <;> cases ok <;> exact .mk (.same _) hroutes
              | _ => exact .mk (.same _) hroutes
          | opening req h => exact .mk (.opening req h) hroutes
      | poller => cases poller <;> exact .mk hmain hroutes
      | task k =>
          unfold AgentState.afterWrite
          dsimp only
          rcases task k with _ | ⟨toUp, _ | _ | _⟩ | _ | _ | _ | _ <;> exact .mk hmain hroutes

/-- A write begins alike. -/
theorem Alike.beginWrite (h : s.Alike s') (json : SerdeJson) (w : Writer) (msg : IpcMessage) :
    Option.Rel Alike (s.beginWrite json w msg) (s'.beginWrite json w msg) := by
  unfold AgentState.beginWrite
  rw [h.wire_eq]
  split_ifs
  · exact .none
  · rcases frameOf json msg with e | frame
    · exact .some (h.afterWrite w false)
    · rcases hstart : s.wire.start (w, msg) frame with _ | wire
      · simp only [hstart]
        exact .none
      · cases h with
        | mk hmain hroutes =>
            simp only [hstart]
            exact .some (.mk hmain hroutes)

/-- A dropped write is dropped alike. -/
theorem Alike.dropWrite (h : s.Alike s') (w : Writer) : (s.dropWrite w).Alike (s'.dropWrite w) := by
  cases h with
  | mk hmain hroutes =>
      unfold AgentState.dropWrite AgentState.holder
      dsimp only
      split_ifs
      · exact .mk hmain hroutes
      · exact .mk hmain hroutes

theorem Alike.goto (h : s.Alike s') (k : ℕ) (t : StreamTask) : (s.goto k t).Alike (s'.goto k t) := by
  cases h with
  | mk hmain hroutes => exact .mk hmain hroutes

/-- Data is sent to a task alike. -/
theorem Alike.offer (h : s.Alike s') (k : ℕ) (data : Bytes) :
    (s.offer k data).Alike (s'.offer k data) := by
  cases h with
  | mk hmain hroutes =>
      unfold AgentState.offer
      by_cases hdone : s.task k = .done
      · rw [if_pos hdone, if_pos hdone]
        exact .mk hmain hroutes
      · rw [if_neg hdone, if_neg hdone]
        split_ifs with hfull hfull' hfull'
        · exact .mk (.same _) hroutes
        · exact absurd hfull hfull'
        · exact absurd hfull' hfull
        · exact .mk hmain hroutes

/-- A message is taken up alike. -/
theorem Alike.receive (h : s.Alike s') (msg : IpcMessage) :
    (s.receive msg).Alike (s'.receive msg) := by
  cases msg with
  | streamData id data =>
      have hstreams : s'.streams = s.streams := by
        cases h
        rfl
      unfold AgentState.receive
      dsimp only
      rw [hstreams]
      rcases s.streams id with _ | k
      · exact h
      · exact h.offer k data
  | openPrivateStream req =>
      cases h with
      | @mk main routes hmain hroutes =>
          unfold AgentState.receive
          dsimp only
          have hroute := hroutes req.routeId
          generalize s.routes.lookup req.routeId = route at hroute
          generalize routes.lookup req.routeId = route' at hroute
          cases hroute with
          | none => exact .mk (.same _) hroutes
          | some hroute => exact .mk (.opening req hroute) hroutes
  | ping =>
      cases h with
      | mk hmain hroutes => exact .mk (.same _) hroutes
  | _ =>
      cases h with
      | mk hmain hroutes => exact .mk hmain hroutes

/-- The main loop and the poller are moved alike. -/
theorem Alike.move (h : s.Alike s') (main : MainLoop) (poller : SnapshotPoller) :
    Alike { s with main := main, poller := poller } { s' with main := main, poller := poller } := by
  cases h with
  | mk hmain hroutes => exact .mk (.same _) hroutes

/-- A write begins in both, or in neither. -/
theorem Alike.step_begin (h : s.Alike s') (json : SerdeJson) (w : Writer) :
    Option.Rel Alike (s.step json (.begin w)) (s'.step json (.begin w)) := by
  obtain ⟨main, poller, task, streams, streamId, queue, toUpstream, routes, generation, wire⟩ := s
  obtain ⟨hmain, hroutes⟩ := h
  cases w with
  | main =>
      cases hmain with
      | same =>
          cases main with
          | want msg after =>
              refine Alike.beginWrite ?_ json .main msg
              exact .mk (.same _) hroutes
          | _ => exact .none
      | opening => exact .none
  | poller =>
      cases poller with
      | want msg =>
          refine Alike.beginWrite ?_ json .poller msg
          exact .mk hmain hroutes
      | _ => exact .none
  | task k =>
      unfold AgentState.step
      dsimp only
      rcases task k with _ | ⟨toUp, _ | data | _⟩ | _ | _ | _ | _
      · exact .none
      · exact .none
      · exact ((Alike.mk hmain hroutes).goto k _).beginWrite json (.task k) _
      · exact .none
      · exact .none
      · exact ((Alike.mk hmain hroutes).goto k _).beginWrite json (.task k) _
      · exact .none
      · exact .none

/-- The same bytes are written. -/
theorem Alike.step_put (h : s.Alike s') (json : SerdeJson) (n : ℕ) :
    Option.Rel Alike (s.step json (.put n)) (s'.step json (.put n)) := by
  obtain ⟨main, poller, task, streams, streamId, queue, toUpstream, routes, generation, wire⟩ := s
  obtain ⟨hmain, hroutes⟩ := h
  unfold AgentState.step AgentState.holder
  dsimp only
  generalize wire.current.map (fun p => p.message.1) = holder
  generalize wire.put n = put
  rcases holder with _ | w
  · exact .none
  · rcases put with _ | wire
    · exact .none
    · dsimp only
      split_ifs
      · exact .some (.mk hmain hroutes)
      · refine .some (Alike.afterWrite ?_ w true)
        exact .mk hmain hroutes

/-- The same write fails. -/
theorem Alike.step_writeError (h : s.Alike s') (json : SerdeJson) :
    Option.Rel Alike (s.step json .writeError) (s'.step json .writeError) := by
  obtain ⟨main, poller, task, streams, streamId, queue, toUpstream, routes, generation, wire⟩ := s
  obtain ⟨hmain, hroutes⟩ := h
  unfold AgentState.step AgentState.holder
  dsimp only
  generalize wire.current.map (fun p => p.message.1) = holder
  rcases holder with _ | w
  · exact .none
  · exact .some (((Alike.mk hmain hroutes).dropWrite w).afterWrite w false)

/-- The upstream refuses the pair code of both, or both have none. -/
theorem Alike.step_authFails (h : s.Alike s') (json : SerdeJson) (err : String) :
    Option.Rel Alike (s.step json (.authFails err)) (s'.step json (.authFails err)) := by
  obtain ⟨main, poller, task, streams, streamId, queue, toUpstream, routes, generation, wire⟩ := s
  obtain ⟨hmain, hroutes⟩ := h
  cases hmain with
  | same =>
      cases main with
      | opening req route =>
          unfold AgentState.step
          dsimp only
          split_ifs
          · exact .some (.mk (.same _) hroutes)
          · exact .none
      | _ => exact .none
  | opening req h =>
      unfold AgentState.step
      dsimp only
      rw [← h.pairCode.isSome_eq]
      split_ifs
      · exact .some (.mk (.same _) hroutes)
      · exact .none

/-- The same task is spawned. -/
theorem Alike.step_spawn (h : s.Alike s') (json : SerdeJson) (k : ℕ) :
    Option.Rel Alike (s.step json (.spawn k)) (s'.step json (.spawn k)) := by
  obtain ⟨main, poller, task, streams, streamId, queue, toUpstream, routes, generation, wire⟩ := s
  obtain ⟨hmain, hroutes⟩ := h
  cases hmain with
  | same =>
      cases main with
      | inserting id =>
          unfold AgentState.step
          dsimp only
          rcases task k with _ | _ | _ | _ | _ | _
          · exact .some (.mk (.same _) hroutes)
          all_goals exact .none
      | _ => exact .none
  | opening => exact .none

/-- The same channel has room. -/
theorem Alike.step_room (h : s.Alike s') (json : SerdeJson) :
    Option.Rel Alike (s.step json .room) (s'.step json .room) := by
  obtain ⟨main, poller, task, streams, streamId, queue, toUpstream, routes, generation, wire⟩ := s
  obtain ⟨hmain, hroutes⟩ := h
  cases hmain with
  | same =>
      cases main with
      | sending k data =>
          unfold AgentState.step
          dsimp only
          split_ifs with hdone hfull hfull' hfull'
          · exact .some (.mk (.same _) hroutes)
          · exact .none
          · exact absurd hfull hfull'
          · exact absurd hfull' hfull
          · exact .some (.mk (.same _) hroutes)
      | _ => exact .none
  | opening => exact .none

/-- The same task reads the same data. -/
theorem Alike.step_upstreamData (h : s.Alike s') (json : SerdeJson) (k : ℕ) (data : Bytes) :
    Option.Rel Alike (s.step json (.upstreamData k data)) (s'.step json (.upstreamData k data)) := by
  obtain ⟨main, poller, task, streams, streamId, queue, toUpstream, routes, generation, wire⟩ := s
  obtain ⟨hmain, hroutes⟩ := h
  unfold AgentState.step
  dsimp only
  rcases task k with _ | ⟨toUp, _ | _ | _⟩ | _ | _ | _ | _
  · exact .none
  · dsimp only
    split_ifs
    · exact .some (.mk hmain hroutes)
    · exact .none
  all_goals exact .none

/-- The same task takes up data. -/
theorem Alike.step_recv (h : s.Alike s') (json : SerdeJson) (k : ℕ) :
    Option.Rel Alike (s.step json (.recv k)) (s'.step json (.recv k)) := by
  obtain ⟨main, poller, task, streams, streamId, queue, toUpstream, routes, generation, wire⟩ := s
  obtain ⟨hmain, hroutes⟩ := h
  unfold AgentState.step
  dsimp only
  rcases task k with _ | ⟨_ | _, fromUp⟩ | _ | _ | _ | _
  · exact .none
  · rcases queue k with _ | ⟨data, rest⟩
    · exact .none
    · exact .some (.mk hmain hroutes)
  all_goals exact .none

/-- The same task finds its channel closed. -/
theorem Alike.step_recvClosed (h : s.Alike s') (json : SerdeJson) (k : ℕ) :
    Option.Rel Alike (s.step json (.recvClosed k)) (s'.step json (.recvClosed k)) := by
  obtain ⟨main, poller, task, streams, streamId, queue, toUpstream, routes, generation, wire⟩ := s
  obtain ⟨hmain, hroutes⟩ := h
  unfold AgentState.step
  dsimp only
  rcases task k with _ | ⟨_ | _, fromUp⟩ | _ | _ | _ | _
  · exact .none
  · dsimp only
    split_ifs
    · exact .some (((Alike.mk hmain hroutes).dropWrite _).goto k _)
    · exact .none
  all_goals exact .none

/-- The same task leaves the table. -/
theorem Alike.step_remove (h : s.Alike s') (json : SerdeJson) (k : ℕ) :
    Option.Rel Alike (s.step json (.remove k)) (s'.step json (.remove k)) := by
  obtain ⟨main, poller, task, streams, streamId, queue, toUpstream, routes, generation, wire⟩ := s
  obtain ⟨hmain, hroutes⟩ := h
  unfold AgentState.step AgentState.StreamsFree
  dsimp only
  cases hmain with
  | same =>
      split_ifs
      · exact .some (.mk (.same _) hroutes)
      · exact .none
  | opening req h =>
      split_ifs with hleft hleft' hleft'
      · exact .some (.mk (.opening req h) hroutes)
      · exact absurd hleft hleft'
      · exact absurd hleft' hleft
      · exact .none

/-- The same event leads to agents that are alike. -/
theorem Alike.step_same (h : s.Alike s') (json : SerdeJson) {e : AgentTaskEvent}
    (he : e.snapshots = false) : Option.Rel Alike (s.step json e) (s'.step json e) := by
  have hsame := h
  obtain ⟨main, poller, task, streams, streamId, queue, toUpstream, routes, generation, wire⟩ := s
  obtain ⟨hmain, hroutes⟩ := h
  cases e with
  | begin w => exact hsame.step_begin json w
  | put n => exact hsame.step_put json n
  | writeError => exact hsame.step_writeError json
  | publish policy lists => cases he
  | publishFails =>
      cases hmain with
      | same =>
          cases main with
          | publishing => exact .some (.mk (.same _) hroutes)
          | _ => exact .none
      | opening => exact .none
  | poll policy lists => cases he
  | pollFails =>
      cases poller with
      | sleeping => exact .some (.mk hmain hroutes)
      | _ => exact .none
  | receive msg =>
      cases hmain with
      | same =>
          cases main with
          | idle => exact .some (Alike.receive (.mk (.same _) hroutes) msg)
          | _ => exact .none
      | opening => exact .none
  | connectFails _ | serviceFails | upstreamReady =>
      cases hmain with
      | same =>
          cases main with
          | opening req route => exact .some (.mk (.same _) hroutes)
          | _ => exact .none
      | opening req h => exact .some (.mk (.same _) hroutes)
  | authFails err => exact hsame.step_authFails json err
  | spawn k => exact hsame.step_spawn json k
  | room => exact hsame.step_room json
  | stop =>
      cases hmain with
      | same =>
          cases main with
          | idle =>
              refine .some (Alike.move (Alike.dropWrite ?_ .poller) .stopped .stopped)
              exact .mk (.same _) hroutes
          | _ => exact .none
      | opening => exact .none
  | upstreamData k data => exact hsame.step_upstreamData json k data
  | upstreamEnd k =>
      unfold AgentState.step
      dsimp only
      rcases task k with _ | ⟨toUp, _ | _ | _⟩ | _ | _ | _ | _
      · exact .none
      · exact .some (.mk hmain hroutes)
      all_goals exact .none
  | recv k => exact hsame.step_recv json k
  | upWritten k =>
      unfold AgentState.step
      dsimp only
      rcases task k with _ | ⟨_ | _, fromUp⟩ | _ | _ | _ | _
      · exact .none
      · exact .none
      · exact .some (.mk hmain hroutes)
      all_goals exact .none
  | upFailed k =>
      unfold AgentState.step
      dsimp only
      rcases task k with _ | ⟨_ | _, fromUp⟩ | _ | _ | _ | _
      · exact .none
      · exact .none
      · exact .some (((Alike.mk hmain hroutes).dropWrite _).goto k _)
      all_goals exact .none
  | recvClosed k => exact hsame.step_recvClosed json k
  | remove k => exact hsame.step_remove json k

/-- What an agent can do, an agent with other pair codes can do, and they stay alike. -/
theorem Alike.step (h : s.Alike s') (json : SerdeJson) {e e' : AgentTaskEvent} (he : e.Alike e') :
    Option.Rel Alike (s.step json e) (s'.step json e') := by
  cases he with
  | same he => exact h.step_same json he
  | publish policy hlists =>
      obtain ⟨main, poller, task, streams, streamId, queue, toUpstream, routes, generation, wire⟩ := s
      obtain ⟨hmain, hroutes⟩ := h
      cases hmain with
      | same =>
          cases main with
          | publishing =>
              refine .some ?_
              dsimp only [AgentState.refresh]
              rw [publishedDevices_eq policy hlists]
              exact .mk (.same _) (lookup_refreshRoutes_alike policy hlists)
          | _ => exact .none
      | opening => exact .none
  | poll policy hlists =>
      obtain ⟨main, poller, task, streams, streamId, queue, toUpstream, routes, generation, wire⟩ := s
      obtain ⟨hmain, hroutes⟩ := h
      cases poller with
      | sleeping =>
          refine .some ?_
          dsimp only [AgentState.refresh]
          rw [publishedDevices_eq policy hlists]
          exact .mk hmain (lookup_refreshRoutes_alike policy hlists)
      | _ => exact .none

end AgentState

/-! ## Configurations -/

/-- Configurations that differ in the values of pair codes only. -/
structure HubConfig.SameButCodes (cfg cfg' : HubConfig) : Prop where
  backends : List.Forall₂ BackendConfig.SameButCode cfg.backends cfg'.backends
  same : cfg' = { cfg with backends := cfg'.backends }

/-- Files that differ in the values of pair codes only: none of them loads, or both do. -/
inductive LoadsAlike : Except ConfigError HubConfig → Except ConfigError HubConfig → Prop
  | error (e e' : ConfigError) : LoadsAlike (.error e) (.error e')
  | ok {cfg cfg' : HubConfig} (h : cfg.SameButCodes cfg') : LoadsAlike (.ok cfg) (.ok cfg')

/-- The configuration of an agent and its file in two variants that differ in the values of pair
codes only. -/
structure SameButCodes (fmt : ConfigFormat) (config config' : AgentConfig) (disk disk' : Disk) :
    Prop where
  path : config.configPath = config'.configPath
  inlineBackends : Option.Rel HubConfig.SameButCodes config.inlineBackends config'.inlineBackends
  isFile : ∀ path, (disk path).isSome = (disk' path).isSome
  loads : ∀ path, LoadsAlike (disk.loadFile fmt path) (disk'.loadFile fmt path)

section config

variable {fmt : ConfigFormat} {config config' : AgentConfig} {disk disk' : Disk}
  {cfg cfg' : HubConfig}

theorem HubConfig.SameButCodes.policy_eq (h : cfg.SameButCodes cfg') : cfg.policy = cfg'.policy := by
  have hflags : backendFlags cfg.backends = backendFlags cfg'.backends := by
    unfold backendFlags
    refine List.rel_foldl (P := Eq) (R := BackendConfig.SameButCode) ?_ rfl h.backends
    rintro flags flags' rfl b b' hb
    simp only [hb.name, hb.enabled]
  unfold HubConfig.policy
  rw [hflags, h.same]

/-- The same flags are in force. -/
theorem flagsInForce_eq (hfiles : SameButCodes fmt config config' disk disk')
    (h : cfg.SameButCodes cfg') : cfg.flagsInForce fmt disk = cfg'.flagsInForce fmt disk' := by
  have hpath : cfg'.configPath = cfg.configPath := by rw [h.same]
  unfold HubConfig.flagsInForce
  rw [hpath, ← h.policy_eq]
  rcases cfg.configPath with _ | path
  · rfl
  · dsimp only
    rw [← hfiles.isFile path]
    unfold loadHubPolicyFile
    have hload := hfiles.loads path
    generalize disk.loadFile fmt path = load at hload
    generalize disk'.loadFile fmt path = load' at hload
    cases hload with
    | error => rfl
    | ok hcfg =>
        rw [Except.map, Except.map, hcfg.policy_eq]

/-- A round finds configurations that differ in the values of pair codes only. -/
theorem roundConfig_alike (h : SameButCodes fmt config config' disk disk') :
    LoadsAlike (roundConfig fmt config disk) (roundConfig fmt config' disk') := by
  have hretain : ∀ {cfg cfg' : HubConfig}, cfg.SameButCodes cfg' → LoadsAlike
      (.ok { cfg with includeLocal := false, backends := cfg.backends.filter (·.enabled) })
      (.ok { cfg' with includeLocal := false, backends := cfg'.backends.filter (·.enabled) }) := by
    intro cfg cfg' hcfg
    refine .ok ⟨List.rel_filter (fun b b' hb => by simp only [hb.enabled]) hcfg.backends, ?_⟩
    rw [hcfg.same]
  have hload := h.loads config.configPath
  unfold roundConfig
  rw [← h.path, ← h.isFile]
  have hinline := h.inlineBackends
  generalize config.inlineBackends = inl at hinline
  generalize config'.inlineBackends = inl' at hinline
  generalize disk.loadFile fmt config.configPath = load at hload
  generalize disk'.loadFile fmt config.configPath = load' at hload
  cases hinline with
  | none =>
      by_cases hfile : (disk config.configPath).isSome
      · simp only [if_pos hfile]
        cases hload with
        | error e e' => exact .error e e'
        | ok hcfg => exact hretain hcfg
      · simp only [if_neg hfile]
        exact hretain ⟨.nil, rfl⟩
  | some hcfg =>
      by_cases hfile : (disk config.configPath).isSome
      · simp only [if_pos hfile]
        cases hload with
        | error e e' => exact hretain hcfg
        | ok hcfg' => exact hretain hcfg'
      · simp only [if_neg hfile]
        exact hretain hcfg

end config

/-! ## Rounds -/

section rounds

variable {fmt : ConfigFormat} {backends backends' : List BackendConfig}

/-- Only the empty list of backends has the fingerprint of the empty cache. -/
theorem backendsFingerprint_eq_empty_iff :
    backendsFingerprint fmt backends = "" ↔ backends = [] := by
  have hentry : ∀ b : BackendConfig,
      b.name ++ "@" ++ fmt.showAddr b.addr ++ "#" ++ b.pairCode.getD "" ≠ "" := by
    intro b h
    have hlen := congrArg String.length h
    simp only [String.length_append] at hlen
    have hat : ("@" : String).length = 1 := rfl
    have hempty : ("" : String).length = 0 := rfl
    omega
  unfold backendsFingerprint
  constructor
  · intro h
    rcases backends with _ | ⟨b, _ | ⟨c, rest⟩⟩
    · rfl
    · exact absurd h (hentry b)
    · have hlen := congrArg String.length h
      simp only [List.map_cons, join, String.length_append] at hlen
      have hat : ("@" : String).length = 1 := rfl
      have hempty : ("" : String).length = 0 := rfl
      omega
  · rintro rfl
    rfl

/-- Backends with the same number differ in the pair code only. -/
theorem zipIdx_alike (h : List.Forall₂ BackendConfig.SameButCode backends backends') (n : ℕ) :
    List.Forall₂ (fun p p' : BackendConfig × ℕ => p.1.SameButCode p'.1 ∧ p.2 = p'.2)
      (backends.zipIdx n) (backends'.zipIdx n) := by
  induction h generalizing n with
  | nil => exact .nil
  | cons hb _ ih => exact .cons ⟨hb, rfl⟩ (ih (n + 1))

/-- The same backends are found compatible. -/
theorem filterCompatibleBackends_alike
    (h : List.Forall₂ BackendConfig.SameButCode backends backends') (probe : ℕ → Dial) :
    (filterCompatibleBackends backends probe).map BackendConfig.name =
      (filterCompatibleBackends backends' probe).map BackendConfig.name := by
  have hpasses : ∀ {b b' : BackendConfig}, b.SameButCode b' → ∀ dial,
      passesProbe b dial = passesProbe b' dial := by
    intro b b' hb dial
    unfold passesProbe
    rw [checkProxyCompat_eq hb.pairCode, ← Option.not_isSome, ← Option.not_isSome,
      hb.pairCode.isSome_eq]
  have hkept := List.rel_filter (p := fun (p : BackendConfig × ℕ) => passesProbe p.1 (probe p.2))
    (q := fun (p : BackendConfig × ℕ) => passesProbe p.1 (probe p.2))
    (fun p p' hp => by simp only [hpasses hp.1, hp.2]) (zipIdx_alike h 0)
  unfold filterCompatibleBackends
  rw [List.map_map, List.map_map, ← List.forall₂_eq_eq_eq]
  exact List.rel_map (fun p p' hp => hp.1.name) hkept

/-- Backends with the same number have no pair code, or both a valid one. -/
theorem pairCode_alike (h : List.Forall₂ BackendConfig.SameButCode backends backends') (i : ℕ) :
    SameCodes ((backends[i]?).bind BackendConfig.pairCode)
      ((backends'[i]?).bind BackendConfig.pairCode) := by
  induction h generalizing i with
  | nil => exact .none
  | cons hb _ ih =>
      cases i with
      | zero => exact hb.pairCode
      | succ i => exact ih i

/-- The lists of a round differ in the pair codes only. -/
theorem refreshLists_alike {cfg cfg' : HubConfig}
    (h : List.Forall₂ BackendConfig.SameButCode cfg.enabledBackends cfg'.enabledBackends)
    (names : List String) (replies : RoundReplies) :
    ListsAlike (refreshLists cfg names (replies.devices cfg.enabledBackends))
      (refreshLists cfg' names (replies.devices cfg'.enabledBackends)) := by
  have hdevices : replies.devices cfg.enabledBackends = replies.devices cfg'.enabledBackends := by
    funext i
    exact fetchDevicesL_eq (pairCode_alike h i)
  unfold refreshLists ListsAlike
  refine List.rel_map ?_ (zipIdx_alike h 0)
  rintro ⟨b, i⟩ ⟨b', i'⟩ ⟨hb, hi⟩
  obtain rfl : i = i' := hi
  refine ⟨hb, ?_⟩
  dsimp only
  rw [hdevices, hb.name]

end rounds

/-! ## Runs -/

/-- Two agents side by side: they are alike, accept the same backends, and either both caches are
for the backends of the configuration or none is. -/
structure AgentRun.Alike (fmt : ConfigFormat) (config config' : AgentConfig) (disk disk' : Disk)
    (s s' : AgentRun) : Prop where
  agent : s.agent.Alike s'.agent
  names : s.cache.names = s'.cache.names
  current : ∀ cfg cfg', roundConfig fmt config disk = .ok cfg →
    roundConfig fmt config' disk' = .ok cfg' →
      (s.cache.fingerprint = backendsFingerprint fmt cfg.enabledBackends ↔
        s'.cache.fingerprint = backendsFingerprint fmt cfg'.enabledBackends)

section runs

variable {json : SerdeJson} {fmt : ConfigFormat} {config config' : AgentConfig} {disk disk' : Disk}
  {s s' : AgentRun}

/-- A round fails in both, or both publish from the same policy and lists that differ in the pair
codes only. -/
theorem refreshRound_alike (hconfig : SameButCodes fmt config config' disk disk')
    (h : s.Alike fmt config config' disk disk' s') (replies : RoundReplies) :
    (∃ e e', refreshRound fmt config disk s.cache replies = .error e ∧
        refreshRound fmt config' disk' s'.cache replies = .error e') ∨
      ∃ r r', refreshRound fmt config disk s.cache replies = .ok r ∧
        refreshRound fmt config' disk' s'.cache replies = .ok r' ∧
        r.policy = r'.policy ∧ ListsAlike r.lists r'.lists ∧
        ∀ a a' : AgentState, a.Alike a' →
          AgentRun.Alike fmt config config' disk disk' ⟨a, r.cache⟩ ⟨a', r'.cache⟩ := by
  have hload := roundConfig_alike hconfig
  have hcurrent := h.current
  unfold refreshRound
  generalize hcfg : roundConfig fmt config disk = load at hload hcurrent
  generalize hcfg' : roundConfig fmt config' disk' = load' at hload hcurrent
  cases hload with
  | error e e' => exact .inl ⟨e, e', rfl, rfl⟩
  | @ok cfg cfg' hsame =>
      have henabled : List.Forall₂ BackendConfig.SameButCode cfg.enabledBackends
          cfg'.enabledBackends :=
        List.rel_filter (fun b b' hb => by simp only [hb.enabled]) hsame.backends
      have hfp := hcurrent cfg cfg' rfl rfl
      -- after a round both caches are for the backends of the configuration
      have hcache : (s.cache.check fmt cfg.enabledBackends replies.probe).names =
            (s'.cache.check fmt cfg'.enabledBackends replies.probe).names ∧
          (s.cache.check fmt cfg.enabledBackends replies.probe).fingerprint =
            backendsFingerprint fmt cfg.enabledBackends ∧
          (s'.cache.check fmt cfg'.enabledBackends replies.probe).fingerprint =
            backendsFingerprint fmt cfg'.enabledBackends := by
        unfold CompatCache.check
        by_cases hcached : s.cache.fingerprint = backendsFingerprint fmt cfg.enabledBackends
        · rw [if_neg (not_not_intro hcached), if_neg (not_not_intro (hfp.mp hcached))]
          exact ⟨h.names, hcached, hfp.mp hcached⟩
        · rw [if_pos hcached, if_pos (mt hfp.mpr hcached)]
          exact ⟨filterCompatibleBackends_alike henabled replies.probe, rfl, rfl⟩
      obtain ⟨hnames, hcached, hcached'⟩ := hcache
      refine .inr ⟨_, _, rfl, rfl, ?_, ?_, fun a a' ha => ⟨ha, hnames, ?_⟩⟩
      · unfold askBackends
        dsimp only
        rw [policy_refresh_fromConfig, policy_refresh_fromConfig, flagsInForce_eq hconfig hsame]
      · unfold askBackends
        dsimp only
        rw [hnames]
        exact refreshLists_alike henabled _ replies
      · intro c c' hc hc'
        rw [hcfg] at hc
        rw [hcfg'] at hc'
        obtain rfl := Except.ok.inj hc
        obtain rfl := Except.ok.inj hc'
        exact iff_of_true hcached hcached'

/-- The upstream of a stream is opened with the same outcome. -/
theorem openUpstream_alike (req : OpenPrivateStream) {route route' : RouteEntry}
    (h : route.Alike route') (dial : Dial) :
    openUpstream req route dial = openUpstream req route' dial := by
  unfold openUpstream
  rcases dial.connect with _ | e | _
  · rfl
  · rfl
  · have hcode := h.pairCode
    generalize route.pairCode = c at hcode
    generalize route'.pairCode = c' at hcode
    cases hcode with
    | none => rfl
    | some hvalid hvalid' =>
        have hauth := authenticateStream_alike dial.upstream_alike hvalid hvalid'
        dsimp only [Option.elim]
        generalize authenticateStream dial.upstream _ = auth at hauth
        generalize authenticateStream dial.upstream _ = auth' at hauth
        cases hauth with
        | error e => rfl
        | ok hu =>
            have hsent := hu.request (rfl : (utf8 req.service).length = _)
            dsimp only
            generalize Upstream.request _ req.service = sent at hsent
            generalize Upstream.request _ req.service = sent' at hsent
            cases hsent with
            | error e => rfl
            | ok _ => rfl

/-- Opening a stream makes no snapshot. -/
theorem openUpstream_snapshots {req : OpenPrivateStream} {route : RouteEntry} {dial : Dial}
    {e : AgentTaskEvent} (h : openUpstream req route dial = some e) : e.snapshots = false := by
  unfold openUpstream at h
  split at h
  · simp at h
  · obtain rfl := Option.some.inj h
    rfl
  · split at h
    · obtain rfl := Option.some.inj h
      rfl
    · split at h
      · obtain rfl := Option.some.inj h
        rfl
      · obtain rfl := Option.some.inj h
        rfl

/-- The agents can do the same, and stay alike. -/
theorem AgentRun.Alike.step (hconfig : SameButCodes fmt config config' disk disk')
    (h : s.Alike fmt config config' disk disk' s') (input : AgentInput) :
    Option.Rel (AgentRun.Alike fmt config config' disk disk')
      (s.step json fmt config disk input) (s'.step json fmt config' disk' input) := by
  have hmap : ∀ {e e' : AgentTaskEvent} {f f' : AgentState → AgentRun}, e.Alike e' →
      (∀ a a' : AgentState, a.Alike a' → (f a).Alike fmt config config' disk disk' (f' a')) →
      Option.Rel (AgentRun.Alike fmt config config' disk disk') ((s.agent.step json e).map f)
        ((s'.agent.step json e').map f') := by
    intro e e' f f' he hf
    have hstep := h.agent.step json he
    generalize s.agent.step json e = t at hstep
    generalize s'.agent.step json e' = t' at hstep
    cases hstep with
    | none => exact .none
    | some ht => exact .some (hf _ _ ht)
  have hkeep : ∀ a a' : AgentState, a.Alike a' →
      AgentRun.Alike fmt config config' disk disk' { s with agent := a } { s' with agent := a' } :=
    fun a a' ha => ⟨ha, h.names, h.current⟩
  cases input with
  | publish replies =>
      unfold AgentRun.step
      dsimp only
      rcases refreshRound_alike hconfig h replies with
        ⟨e, e', he, he'⟩ | ⟨r, r', hr, hr', hpolicy, hlists, hcache⟩
      · rw [he, he']
        exact hmap (.same rfl) hkeep
      · rw [hr, hr']
        exact hmap (hpolicy ▸ .publish r.policy hlists) hcache
  | poll replies =>
      unfold AgentRun.step
      dsimp only
      rcases refreshRound_alike hconfig h replies with
        ⟨e, e', he, he'⟩ | ⟨r, r', hr, hr', hpolicy, hlists, hcache⟩
      · rw [he, he']
        exact hmap (.same rfl) hkeep
      · rw [hr, hr']
        exact hmap (hpolicy ▸ .poll r.policy hlists) hcache
  | contact dial =>
      unfold AgentRun.step
      dsimp only
      have hmain := h.agent.main
      generalize s.agent.main = main at hmain
      generalize s'.agent.main = main' at hmain
      have hopen : ∀ req route, Option.Rel (AgentRun.Alike fmt config config' disk disk')
          ((openUpstream req route dial).bind fun e =>
            (s.agent.step json e).map fun agent => { s with agent := agent })
          ((openUpstream req route dial).bind fun e =>
            (s'.agent.step json e).map fun agent => { s' with agent := agent }) := by
        intro req route
        rcases he : openUpstream req route dial with _ | e
        · exact .none
        · exact hmap (.same (openUpstream_snapshots he)) hkeep
      cases hmain with
      | same =>
          cases main with
          | opening req route => exact hopen req route
          | _ => exact .none
      | opening req hroute =>
          dsimp only
          rw [openUpstream_alike req hroute dial]
          exact hopen req _
  | task e =>
      unfold AgentRun.step
      dsimp only
      by_cases hdecided : e.decided
      · rw [if_pos hdecided, if_pos hdecided]
        exact .none
      · rw [if_neg hdecided, if_neg hdecided]
        have hsnap : e.snapshots = false := by
          cases e with
          | publish _ _ | poll _ _ => exact absurd rfl hdecided
          | _ => rfl
        exact hmap (.same hsnap) hkeep

/-- Two agents that run on variants of a configuration. -/
theorem agentRun_lockstep (json : SerdeJson) (token : String)
    (hconfig : SameButCodes fmt config config' disk disk') :
    Lockstep (AgentRun.machine json fmt config disk token)
      (AgentRun.machine json fmt config' disk' token)
      (AgentRun.Alike fmt config config' disk disk') where
  init := by
    refine ⟨.mk (.same _) fun _ => .none, rfl, fun cfg cfg' hcfg hcfg' => ?_⟩
    have hload := roundConfig_alike hconfig
    rw [hcfg, hcfg'] at hload
    cases hload with
    | ok hsame =>
        have henabled := List.rel_filter (p := fun b : BackendConfig => b.enabled)
          (q := fun b : BackendConfig => b.enabled)
          (fun b b' hb => by simp only [hb.enabled]) hsame.backends
        have hempty : ∀ backends, ("" : String) = backendsFingerprint fmt backends ↔
            backends = [] := fun backends => eq_comm.trans backendsFingerprint_eq_empty_iff
        show "" = _ ↔ "" = _
        rw [hempty, hempty, ← List.length_eq_zero_iff, ← List.length_eq_zero_iff]
        exact iff_of_eq (congrArg (· = 0) henabled.length_eq)
  step input h := h.step hconfig input

/-- **Pair codes stay with the agent.** Whatever the backends answer and the daemon sends, and
however the tasks are interleaved, an agent that runs on other values of the pair codes can do the
same, and writes the same messages and bytes to the control socket.
Source: `agent.rs`; `multi-user-design.md` ("an agent must never send a pair code") -/
theorem nothing_told_of_codes (hconfig : SameButCodes fmt config config' disk disk')
    {token : String} {inputs : List AgentInput}
    (h : (AgentRun.machine json fmt config disk token).Reaches inputs s) :
    ∃ s', (AgentRun.machine json fmt config' disk' token).Reaches inputs s' ∧
      s'.agent.wire = s.agent.wire := by
  obtain ⟨s', hs', halike⟩ := (agentRun_lockstep json token hconfig).reaches h
  exact ⟨s', hs', halike.agent.wire_eq⟩

end runs

/-! ## One backend, two pair codes -/

/-- The agent registers and publishes the device. -/
def officeInputs : List AgentInput :=
  [.task (.begin .main), .task (.put 77), .publish officeReplies, .task (.begin .main),
    .task (.put 158)]

theorem officeDisk_sameButCodes :
    SameButCodes officeFormat ⟨"config.toml", none⟩ ⟨"config.toml", none⟩ (officeDisk "AAAA1111")
      (officeDisk "BBBB2222") where
  path := rfl
  inlineBackends := .none
  isFile path := by
    unfold officeDisk
    split_ifs <;> rfl
  loads path := by
    by_cases hpath : path = "config.toml"
    · subst hpath
      have hA : (officeDisk "AAAA1111").loadFile officeFormat "config.toml" =
          .ok (officeConfig "AAAA1111") := by rfl
      have hB : (officeDisk "BBBB2222").loadFile officeFormat "config.toml" =
          .ok (officeConfig "BBBB2222") := by rfl
      rw [hA, hB]
      exact .ok ⟨.cons ⟨rfl, rfl, rfl, .some (by rfl) (by rfl)⟩ .nil, rfl⟩
    · unfold Disk.loadFile officeDisk
      rw [if_neg hpath, if_neg hpath]
      exact .error _ _

/-- With either pair code the agent sends its registration and the snapshot. -/
theorem same_snapshot_under_both_codes :
    ∃ s s', (AgentRun.machine AgentState.officeJson officeFormat ⟨"config.toml", none⟩
          (officeDisk "AAAA1111") "t0").Reaches officeInputs s ∧
        (AgentRun.machine AgentState.officeJson officeFormat ⟨"config.toml", none⟩
          (officeDisk "BBBB2222") "t0").Reaches officeInputs s' ∧
        s'.agent.wire = s.agent.wire ∧ s.agent.wire.sent.length = 2 := by
  have hrun : ((AgentRun.machine AgentState.officeJson officeFormat ⟨"config.toml", none⟩
      (officeDisk "AAAA1111") "t0").exec (AgentRun.machine AgentState.officeJson officeFormat
        ⟨"config.toml", none⟩ (officeDisk "AAAA1111") "t0").init officeInputs).map
      (fun s => s.agent.wire.sent.length) = some 2 := by decide +kernel
  obtain ⟨s, hs, hlen⟩ := Option.map_eq_some_iff.mp hrun
  obtain ⟨s', hs', hwire⟩ :=
    nothing_told_of_codes officeDisk_sameButCodes (Machine.reaches_of_exec hs)
  exact ⟨s, s', Machine.reaches_of_exec hs, hs', hwire, hlen⟩

end AdbHub
