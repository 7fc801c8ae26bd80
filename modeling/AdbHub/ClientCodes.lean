import AdbHub.Agent.PairCodes
import AdbHub.DeviceLists
import AdbHub.Pairing

/-!
# Pair codes stay with the hub

What a client of the single-user hub can learn of the pair codes of the backends (`session.rs`,
`handle_client`, `rewrite_upstream_service` and `forward_session`; `tunnel.rs`, `transport`;
`auth.rs`, `authenticate_stream`).

* `DeviceSnapshot.Alike`, `HubAction.Alike` — snapshots, and what is done for a service, that differ
  in the pair codes only.
* `handleClient_alike` — the same is done for a service, whatever the pair codes are.
* `ProxyConn.Alike` — connections that differ in the bytes that were written to the backend, but not
  in their number.
* **`clients_told_of_no_codes`** — with other pair codes a session ends the same, and writes the
  same to the client.
-/

namespace AdbHub

open Lib Protocol

/-! ## What is done for a service -/

/-- Snapshots that differ in the pair codes only. -/
def DeviceSnapshot.Alike (snap snap' : DeviceSnapshot) : Prop :=
  List.Forall₂ DeviceEntry.Alike snap.devices snap'.devices

/-- Both absent, or both sent in a packet of the same length. -/
def SameLength : (code code' : Option String) → Prop :=
  Option.Rel fun code code' => (utf8 (authService code)).length = (utf8 (authService code')).length

theorem SameCodes.sameLength {code code' : Option String} (h : SameCodes code code') :
    SameLength code code' := by
  rcases h with _ | ⟨hcode, hcode'⟩
  · exact .none
  · exact .some ((length_authService hcode).trans (length_authService hcode').symm)

theorem SameLength.refl (code : Option String) : SameLength code code := by
  rcases code with _ | code
  · exact .none
  · exact .some rfl

/-- What is done for a service, but for the pair code. -/
inductive HubAction.Alike : HubAction → HubAction → Prop
  | same (action : HubAction) : Alike action action
  | forward (addr : SocketAddr) {code code' : Option String} (h : SameLength code code')
      (upstream : String) : Alike (.forward addr code upstream) (.forward addr code' upstream)
  | transport (addr : SocketAddr) {code code' : Option String} (h : SameLength code code')
      (upstream publicSerial selector : String) :
      Alike (.transport addr code upstream publicSerial selector)
        (.transport addr code' upstream publicSerial selector)

section services

variable {snap snap' : DeviceSnapshot}

/-- The body of a list has no pair codes in it. -/
theorem formatDevices_alike (h : snap.Alike snap') (long : Bool) :
    snap.formatDevices long = snap'.formatDevices long := by
  have hrows : snap.devices.map (DeviceEntry.row long) =
      snap'.devices.map (DeviceEntry.row long) := by
    rw [← List.forall₂_eq_eq_eq]
    refine List.rel_map (fun d d' hd => ?_) h
    rw [DeviceEntry.row, DeviceEntry.row, hd.publicSerial, hd.state, hd.extras]
  rw [formatDevices_eq, formatDevices_eq, hrows]

theorem preferenceOrder_alike (h : snap.Alike snap') (order : List String) :
    preferenceOrder snap order = preferenceOrder snap' order := by
  have hnames : snap.devices.map DeviceEntry.backendName =
      snap'.devices.map DeviceEntry.backendName := by
    rw [← List.forall₂_eq_eq_eq]
    exact List.rel_map (fun d d' hd => hd.backendName) h
  have hlocal : (snap.devices.any fun d => d.backendName = "local") =
      snap'.devices.any fun d => d.backendName = "local" := by
    have hany := congrArg (List.any · fun name => decide (name = "local")) hnames
    rwa [List.any_map, List.any_map] at hany
  unfold preferenceOrder
  rw [hlocal]
  refine List.rel_foldl (P := Eq) ?_ rfl h
  rintro names _ rfl d d' hd
  simp only [hd.backendName]

theorem pickOneOnBackend_alike (h : snap.Alike snap') (name : String) :
    SameOutcome DeviceEntry.Alike (pickOneOnBackend snap name) (pickOneOnBackend snap' name) := by
  have honline : List.Forall₂ DeviceEntry.Alike
      (snap.devices.filter fun d => d.backendName = name && d.state = "device")
      (snap'.devices.filter fun d => d.backendName = name && d.state = "device") :=
    List.rel_filter (fun d d' hd => by simp only [hd.backendName, hd.state]) h
  unfold pickOneOnBackend
  revert honline
  generalize (snap.devices.filter fun d => d.backendName = name && d.state = "device") = ds
  generalize (snap'.devices.filter fun d => d.backendName = name && d.state = "device") = ds'
  rintro (_ | ⟨hd, _ | ⟨_, _⟩⟩)
  · exact .error _
  · exact .ok hd
  · exact .error _

/-- The same device is preferred. -/
theorem pickPreferred_alike (h : snap.Alike snap') (order : List String) :
    SameOutcome DeviceEntry.Alike (pickPreferred snap order) (pickPreferred snap' order) := by
  unfold pickPreferred
  rw [preferenceOrder_alike h order]
  induction preferenceOrder snap' order with
  | nil => exact .error _
  | cons name names ih =>
      have hone := pickOneOnBackend_alike h name
      unfold pickAlong
      revert hone
      generalize pickOneOnBackend snap name = found
      generalize pickOneOnBackend snap' name = found'
      rintro ((_ | _) | hd)
      · exact ih
      · exact .error _
      · exact .ok hd

theorem lookupDevice_alike (h : snap.Alike snap') (serial : String) :
    SameOutcome DeviceEntry.Alike (lookupDevice snap serial) (lookupDevice snap' serial) := by
  have hfind : Option.Rel DeviceEntry.Alike (snap.find serial) (snap'.find serial) := by
    unfold DeviceSnapshot.Alike at h
    unfold DeviceSnapshot.find
    generalize snap.devices = ds at h ⊢
    generalize snap'.devices = ds' at h ⊢
    induction h with
    | nil => exact .none
    | @cons d d' ds ds' hd _ ih =>
        rw [List.find?_cons, List.find?_cons, hd.publicSerial]
        rcases decide (d'.publicSerial = serial) with _ | _
        · exact ih
        · exact .some hd
  unfold lookupDevice
  revert hfind
  generalize snap.find serial = found
  generalize snap'.find serial = found'
  rintro (hd | _)
  · exact .ok hd
  · exact .error _

theorem lookupOnline_alike (h : snap.Alike snap') (serial : String) :
    SameOutcome DeviceEntry.Alike (lookupOnline snap serial) (lookupOnline snap' serial) := by
  unfold lookupOnline
  refine (lookupDevice_alike h serial).bind fun d d' hd => ?_
  rw [hd.state]
  split_ifs
  · exact .error _
  · exact .ok hd

/-- The device a service is for, and the service for it, do not depend on the pair codes. -/
theorem rewriteUpstreamService_alike (h : snap.Alike snap') (service : String)
    (order : List String) :
    SameOutcome (Option.Rel fun p p' => p.1.Alike p'.1 ∧ p.2 = p'.2)
      (rewriteUpstreamService service snap order)
      (rewriteUpstreamService service snap' order) := by
  have hpreferred := pickPreferred_alike h order
  unfold rewriteUpstreamService
  by_cases hany : isAnySelector service
  · simp only [if_pos hany]
    refine hpreferred.bind fun d d' hd => ?_
    rw [hd.upstreamSerial]
    split_ifs <;> exact .ok (.some ⟨hd, rfl⟩)
  simp only [if_neg hany]
  rcases stripPrefix service "host:tport:serial:" with _ | serial
  · rcases stripPrefix service "host:transport:" with _ | serial
    · rcases stripPrefix service "host-serial:" with _ | rest
      · rcases stripPrefix service "host-usb:" with _ | request
        · rcases stripPrefix service "host-local:" with _ | request
          · have hfeatures : Option.Rel DeviceEntry.Alike
                (if service = "host:features" || service = "host:host-features" then
                  (pickPreferred snap order).toOption else none)
                (if service = "host:features" || service = "host:host-features" then
                  (pickPreferred snap' order).toOption else none) := by
              split_ifs
              · exact hpreferred.toOption
              · exact .none
            dsimp only
            revert hfeatures
            generalize (if service = "host:features" || service = "host:host-features" then
              (pickPreferred snap order).toOption else none) = found
            generalize (if service = "host:features" || service = "host:host-features" then
              (pickPreferred snap' order).toOption else none) = found'
            rintro (hd | _)
            · exact .ok (.some ⟨hd, rfl⟩)
            · rcases stripPrefix service "host:" with _ | request
              · exact .ok .none
              · dsimp only
                split_ifs
                · refine hpreferred.bind fun d d' hd => .ok (.some ⟨hd, ?_⟩)
                  rw [hd.upstreamSerial]
                · exact .ok .none
          · refine hpreferred.bind fun d d' hd => .ok (.some ⟨hd, ?_⟩)
            rw [hd.upstreamSerial]
        · refine hpreferred.bind fun d d' hd => .ok (.some ⟨hd, ?_⟩)
          rw [hd.upstreamSerial]
      · dsimp only
        rcases splitOnce rest ':' with _ | ⟨serial, request⟩
        · exact .error _
        · refine (lookupDevice_alike h serial).bind fun d d' hd => .ok (.some ⟨hd, ?_⟩)
          rw [hd.upstreamSerial]
    · refine (lookupOnline_alike h serial).bind fun d d' hd => .ok (.some ⟨hd, ?_⟩)
      rw [hd.upstreamSerial]
  · refine (lookupOnline_alike h serial).bind fun d d' hd => .ok (.some ⟨hd, ?_⟩)
    rw [hd.upstreamSerial]

theorem answerHubClient_alike (h : snap.Alike snap') (order : List String) (service : String) :
    answerHubClient snap order service = answerHubClient snap' order service := by
  have hpreferred := pickPreferred_alike h order
  unfold answerHubClient
  rw [formatDevices_alike h]
  revert hpreferred
  generalize pickPreferred snap order = found
  generalize pickPreferred snap' order = found'
  rintro (reason | hd)
  · rfl
  · simp only [hd.publicSerial, hd.state]

theorem remoteTransport_alike (h : snap.Alike snap') (order : List String) (service : String) :
    Option.Rel HubAction.Alike (remoteTransport service snap order)
      (remoteTransport service snap' order) := by
  have hrewritten := rewriteUpstreamService_alike h service order
  unfold remoteTransport
  revert hrewritten
  generalize rewriteUpstreamService service snap order = found
  generalize rewriteUpstreamService service snap' order = found'
  rintro (reason | (⟨hd, hupstream⟩ | _))
  · exact .none
  · dsimp only
    rw [hd.backendName, hd.backendAddr, hd.publicSerial, hd.upstreamSerial, hupstream]
    split_ifs
    · exact .some (.transport _ hd.pairCode.sameLength _ _ _)
    · exact .none
  · exact .none

theorem forwardHubClient_alike (h : snap.Alike snap') {code code' : Option String}
    (hcode : SameCodes code code') (order : List String) (addr : SocketAddr) (service : String) :
    (forwardHubClient snap order addr code service).Alike
      (forwardHubClient snap' order addr code' service) := by
  have htransport : Option.Rel HubAction.Alike
      (if isTransport service then remoteTransport service snap order else none)
      (if isTransport service then remoteTransport service snap' order else none) := by
    split_ifs
    · exact remoteTransport_alike h order service
    · exact .none
  have hrouted : SameOutcome (fun r r' => r.1 = r'.1 ∧ SameCodes r.2.1 r'.2.1 ∧ r.2.2 = r'.2.2)
      (routeService service snap addr code order)
      (routeService service snap' addr code' order) := by
    unfold routeService
    refine (rewriteUpstreamService_alike h service order).bind ?_
    rintro _ _ (⟨hd, hupstream⟩ | _)
    · exact .ok ⟨hd.backendAddr, hd.pairCode, hupstream⟩
    · exact .ok ⟨rfl, hcode, rfl⟩
  unfold forwardHubClient
  revert htransport
  generalize (if isTransport service then remoteTransport service snap order else none) = found
  generalize (if isTransport service then remoteTransport service snap' order else none) = found'
  rintro (haction | _)
  · exact haction
  · dsimp only
    revert hrouted
    generalize routeService service snap addr code order = r
    generalize routeService service snap' addr code' order = r'
    rintro (reason | @⟨⟨_, _, _⟩, ⟨_, _, _⟩, rfl, hcodes, rfl⟩)
    · exact .same _
    · exact .forward _ hcodes.sameLength _

/-- **The same is done for a service**, but for the pair code that is used for it. -/
theorem handleClient_alike (h : snap.Alike snap') {code code' : Option String}
    (hcode : SameCodes code code') (order : List String) (addr : SocketAddr) (service : String) :
    (handleClient snap order addr code service).Alike
      (handleClient snap' order addr code' service) := by
  unfold handleClient
  rw [answerHubClient_alike h]
  rcases answerHubClient snap' order service with _ | action
  · exact forwardHubClient_alike h hcode order addr service
  · exact .same action

end services

/-! ## Sessions -/

/-- Connections that differ in the bytes that were written to the backend, but not in their
number. -/
structure ProxyConn.Alike (c c' : ProxyConn) : Prop where
  client : c.client = c'.client
  targetIn : c.target.incoming = c'.target.incoming
  targetOut : c.target.written.length = c'.target.written.length
  connected : c.connected = c'.connected
  filtered : c.filtered = c'.filtered

/-- Whether a write to the backend fails, and where, is a matter of how much is written. -/
def ProxyEnv.CountsTarget (env : ProxyEnv) : Prop :=
  ∃ f : ℕ → ℕ → Option (ℕ × IoError), ∀ written bytes,
    env.writeFault .target written bytes = f written.length bytes.length

section sessions

variable {env : ProxyEnv} {c c' : ProxyConn}

theorem ProxyConn.Alike.incoming (h : c.Alike c') (peer : Peer) :
    c.incoming peer = c'.incoming peer := by
  rcases peer with _ | _
  · exact congrArg Duplex.incoming h.client
  · exact h.targetIn

theorem ProxyConn.Alike.setIncoming (h : c.Alike c') (peer : Peer) (s : Incoming UInt8 IoError) :
    (c.setIncoming peer s).Alike (c'.setIncoming peer s) := by
  rcases peer with _ | _
  · refine ⟨?_, h.targetIn, h.targetOut, h.connected, h.filtered⟩
    show ({ c.client with incoming := s } : Duplex) = { c'.client with incoming := s }
    rw [h.client]
  · exact ⟨h.client, rfl, h.targetOut, h.connected, h.filtered⟩

/-- As much is written to the backend. -/
theorem ProxyConn.Alike.putTarget (h : c.Alike c') {bytes bytes' : Stream}
    (hlen : bytes.length = bytes'.length) : (c.put .target bytes).Alike (c'.put .target bytes') := by
  refine ⟨h.client, h.targetIn, ?_, h.connected, h.filtered⟩
  show (c.target.written ++ bytes).length = (c'.target.written ++ bytes').length
  rw [List.length_append, List.length_append, h.targetOut, hlen]

theorem ProxyConn.Alike.put (h : c.Alike c') (peer : Peer) (bytes : Stream) :
    (c.put peer bytes).Alike (c'.put peer bytes) := by
  rcases peer with _ | _
  · refine ⟨?_, h.targetIn, h.targetOut, h.connected, h.filtered⟩
    show ({ c.client with written := c.client.written ++ bytes } : Duplex) =
      { c'.client with written := c'.client.written ++ bytes }
    rw [h.client]
  · exact h.putTarget rfl

theorem recvExact_alike (peer : Peer) (n : ℕ) :
    Effect.Tracks ProxyConn.Alike (recvExact peer n) (recvExact peer n) := by
  intro c c' h
  unfold recvExact
  rw [Effect.on_act, Effect.on_act, h.incoming peer]
  exact ⟨rfl, h.setIncoming peer _⟩

theorem recvPacket_alike (peer : Peer) :
    Effect.Tracks ProxyConn.Alike (recvPacket peer) (recvPacket peer) := by
  unfold recvPacket
  apply (recvExact_alike peer 4).bind
  intro head
  rcases parseHex4 head with msg | len
  · exact Effect.tracks_throw _
  · dsimp only
    split_ifs
    · exact recvExact_alike peer len
    · exact Effect.tracks_pure _

/-- As many bytes for the backend have the same outcome. -/
theorem sendAll_target_alike (henv : env.CountsTarget) {bytes bytes' : Stream}
    (hlen : bytes.length = bytes'.length) :
    Effect.Tracks ProxyConn.Alike (sendAll env .target bytes) (sendAll env .target bytes') := by
  intro c c' h
  obtain ⟨f, hf⟩ := henv
  have hfault : env.writeFault .target (c.duplex .target).written bytes =
      env.writeFault .target (c'.duplex .target).written bytes' := by
    rw [hf, hf, hlen]
    exact congrArg (f · _) h.targetOut
  unfold sendAll
  rw [Effect.on_act, Effect.on_act, hfault]
  rcases env.writeFault .target (c'.duplex .target).written bytes' with _ | ⟨n, e⟩
  · exact ⟨rfl, h.putTarget hlen⟩
  · refine ⟨rfl, h.putTarget ?_⟩
    rw [List.length_take, List.length_take, hlen]

theorem sendAll_alike (henv : env.CountsTarget) (peer : Peer) (bytes : Stream) :
    Effect.Tracks ProxyConn.Alike (sendAll env peer bytes) (sendAll env peer bytes) := by
  rcases peer with _ | _
  · intro c c' h
    have hclient : c.duplex .client = c'.duplex .client := h.client
    unfold sendAll
    rw [Effect.on_act, Effect.on_act, hclient]
    rcases env.writeFault .client (c'.duplex .client).written bytes with _ | ⟨n, e⟩
    · exact ⟨rfl, h.put .client bytes⟩
    · exact ⟨rfl, h.put .client _⟩
  · exact sendAll_target_alike henv rfl

theorem sendPacket_alike (henv : env.CountsTarget) (peer : Peer) (payload : Stream) :
    Effect.Tracks ProxyConn.Alike (sendPacket env peer payload) (sendPacket env peer payload) :=
  (sendAll_alike henv peer _).bind fun _ => sendAll_alike henv peer payload

theorem sendFail_alike (henv : env.CountsTarget) (reason : String) :
    Effect.Tracks ProxyConn.Alike (sendFail env .client reason) (sendFail env .client reason) :=
  (sendAll_alike henv .client _).bind fun _ => sendPacket_alike henv .client _

theorem connectTarget_alike :
    Effect.Tracks ProxyConn.Alike (connectTarget env) (connectTarget env) := by
  intro c c' h
  unfold connectTarget
  rw [Effect.on_act, Effect.on_act]
  rcases env.connectError with _ | e
  · exact ⟨rfl, h.client, h.targetIn, h.targetOut, rfl, h.filtered⟩
  · exact ⟨rfl, h⟩

theorem copyBidirectional_alike :
    Effect.Tracks ProxyConn.Alike (copyBidirectional env) (copyBidirectional env) := by
  intro c c' h
  unfold copyBidirectional
  rw [Effect.on_act, Effect.on_act, h.incoming .client, h.incoming .target]
  rcases env.copyFault with _ | ⟨n, m, e⟩
  · exact ⟨rfl, (h.put .target _).put .client _⟩
  · exact ⟨rfl, (h.put .target _).put .client _⟩

/-- Another pair code is answered alike, and the answer is read alike. -/
theorem authenticate_alike (henv : env.CountsTarget) {code code' : String}
    (hlen : (utf8 (authService code)).length = (utf8 (authService code')).length) :
    Effect.Tracks ProxyConn.Alike (authenticate env code) (authenticate env code') := by
  have hsend : Effect.Tracks ProxyConn.Alike (sendService env .target (authService code))
      (sendService env .target (authService code')) := by
    unfold sendService sendPacket
    rw [hlen]
    exact (sendAll_alike henv .target _).bind fun _ => sendAll_target_alike henv hlen
  unfold authenticate
  apply hsend.bind
  intro _
  apply (recvExact_alike .target 4).bind
  intro status
  split_ifs
  · exact Effect.tracks_pure ()
  · exact (recvPacket_alike .target).bind fun _ => Effect.tracks_throw _
  · exact Effect.tracks_throw _

theorem authenticateIfPaired_alike (henv : env.CountsTarget) {code code' : Option String}
    (h : SameLength code code') :
    Effect.Tracks ProxyConn.Alike (authenticateIfPaired env code)
      (authenticateIfPaired env code') := by
  rcases h with hlen | _
  · exact authenticate_alike henv hlen
  · exact Effect.tracks_pure ()

theorem forwardSession_alike (henv : env.CountsTarget) (addr : SocketAddr)
    {code code' : Option String} (h : SameLength code code') (service : String) :
    Effect.Tracks ProxyConn.Alike (forwardSession env addr code service)
      (forwardSession env addr code' service) := by
  unfold forwardSession
  apply connectTarget_alike.attempt.bind
  rintro (err | _)
  · exact sendFail_alike henv _
  apply (authenticateIfPaired_alike henv h).attempt.bind
  rintro (err | _)
  · exact sendFail_alike henv _
  apply (sendPacket_alike henv .target _).bind
  intro _
  apply copyBidirectional_alike.attempt.bind
  rintro (err | stats)
  · dsimp only
    split_ifs
    · exact Effect.tracks_pure ()
    · exact Effect.tracks_throw err
  · exact Effect.tracks_pure ()

theorem connectTunnelBackend_alike (henv : env.CountsTarget) {code code' : Option String}
    (h : SameLength code code') (service : String) :
    Effect.Tracks ProxyConn.Alike (connectTunnelBackend env code service)
      (connectTunnelBackend env code' service) := by
  unfold connectTunnelBackend
  apply connectTarget_alike.bind
  intro _
  exact (authenticateIfPaired_alike henv h).bind fun _ => sendPacket_alike henv .target _

theorem selectDevice_alike (henv : env.CountsTarget) (service : String) {rest : Connection Unit}
    (hrest : Effect.Tracks ProxyConn.Alike rest rest) :
    Effect.Tracks ProxyConn.Alike (selectDevice env service rest)
      (selectDevice env service rest) := by
  unfold selectDevice
  apply (recvExact_alike .target 4).bind
  intro status
  apply (sendAll_alike henv .client status).bind
  intro _
  split_ifs
  · apply (recvExact_alike .target 8).bind
    intro id
    exact (sendAll_alike henv .client id).bind fun _ => hrest
  · exact hrest
  · exact (recvPacket_alike .target).bind fun _ => sendPacket_alike henv .client _
  · exact Effect.tracks_pure ()

theorem sendOkay_alike (henv : env.CountsTarget) :
    Effect.Tracks ProxyConn.Alike (sendOkay env .client) (sendOkay env .client) :=
  sendAll_alike henv .client okayStatus

theorem followUp_alike {env : HubEnv} (henv : env.streams.CountsTarget) (serial : String)
    (owner : Option Uid) :
    Effect.Tracks ProxyConn.Alike (followUp env serial owner) (followUp env serial owner) := by
  unfold followUp
  apply (recvPacket_alike .client).bind
  intro request
  rcases transportRequest serial owner env.removes request with reason | call | port | _
  · exact sendFail_alike henv reason
  · dsimp only
    rcases env.add call with err | actual
    · exact sendFail_alike henv err
    · apply (sendOkay_alike henv).bind
      intro _
      apply (sendOkay_alike henv).bind
      intro _
      split_ifs
      · exact sendPacket_alike henv .client _
      · exact Effect.tracks_pure ()
  · exact (sendOkay_alike henv).bind fun _ => sendOkay_alike henv
  · apply (sendPacket_alike henv .target request).bind
    exact fun _ => copyBidirectional_alike.bind fun _ => Effect.tracks_pure ()

/-- The lists that follow each other. -/
theorem sendViews_alike (henv : env.CountsTarget) (long : Bool)
    {views views' : List (Bool × DeviceSnapshot)}
    (h : List.Forall₂ (fun v v' => v.1 = v'.1 ∧ v.2.Alike v'.2) views views') :
    Effect.Tracks ProxyConn.Alike (sendViews env long views) (sendViews env long views') := by
  induction h with
  | nil => exact Effect.tracks_pure ()
  | @cons v v' views views' hv _ ih =>
      rcases v with ⟨lagged, view⟩
      rcases v' with ⟨lagged', view'⟩
      obtain ⟨rfl, hview⟩ := hv
      unfold sendViews
      rw [formatDevices_alike hview]
      apply (sendPacket_alike henv .client _).attempt.bind
      rintro (err | _)
      · dsimp only
        split_ifs
        · exact Effect.tracks_pure ()
        · exact Effect.tracks_throw err
      · exact ih

end sessions

/-! ## What a client is told -/

/-- What a session depends on when these lists are shown, filtered by these policies.
Source: `session.rs`, `client_snapshot`. -/
def HubEnv.showing (env : HubEnv) (code : Option String) (policy : HubPolicySnapshot)
    (lists : List (BackendConfig × String))
    (views : List (Bool × HubPolicySnapshot × List (BackendConfig × String))) : HubEnv :=
  { env with
    snap := policy.filterSnapshot (mergeDeviceLists lists)
    views := views.map fun (lagged, policy, lists) =>
      (lagged, policy.filterSnapshot (mergeDeviceLists lists))
    defaultPairCode := code }

/-- Later lists that differ in the pair codes only. -/
def ViewsAlike :
    (views views' : List (Bool × HubPolicySnapshot × List (BackendConfig × String))) → Prop :=
  List.Forall₂ fun v v' => v.1 = v'.1 ∧ v.2.1 = v'.2.1 ∧ ListsAlike v.2.2 v'.2.2

section told

variable {env : HubEnv} {code code' : Option String} {policy : HubPolicySnapshot}
  {lists lists' : List (BackendConfig × String)}
  {views views' : List (Bool × HubPolicySnapshot × List (BackendConfig × String))}

/-- The session of a device whose tunnel requests are intercepted. -/
theorem serveTransport_alike (henv : env.streams.CountsTarget) (addr : SocketAddr)
    (h : SameLength code code') (upstream serial selector : String) :
    Effect.Tracks ProxyConn.Alike
      (serveHubClient env (.transport addr code upstream serial selector))
      (serveHubClient env (.transport addr code' upstream serial selector)) := by
  unfold serveHubClient
  apply (connectTunnelBackend_alike henv h upstream).attempt.bind
  rintro (err | _)
  · exact sendFail_alike henv _
  · exact selectDevice_alike henv upstream (followUp_alike henv serial none)

theorem serveHubClient_alike (henv : env.streams.CountsTarget) (hlists : ListsAlike lists lists')
    (hviews : ViewsAlike views views') {action action' : HubAction} (h : action.Alike action') :
    Effect.Tracks ProxyConn.Alike (serveHubClient (env.showing code policy lists views) action)
      (serveHubClient (env.showing code' policy lists' views') action') := by
  have hsnap : (policy.filterSnapshot (mergeDeviceLists lists)).Alike
      (policy.filterSnapshot (mergeDeviceLists lists')) := agentView_alike policy hlists
  have hlater : List.Forall₂ (fun v v' : Bool × DeviceSnapshot => v.1 = v'.1 ∧ v.2.Alike v'.2)
      (env.showing code policy lists views).views (env.showing code' policy lists' views').views := by
    refine List.rel_map ?_ hviews
    rintro ⟨lagged, policy, lists⟩ ⟨_, _, lists'⟩ ⟨rfl, rfl, h⟩
    exact ⟨rfl, agentView_alike policy h⟩
  rcases h with action | ⟨addr, hcodes, upstream⟩ | ⟨addr, hcodes, upstream, serial, selector⟩
  · rcases action with body | reason | long | _ | ⟨addr, code, upstream⟩ |
      ⟨addr, code, upstream, serial, selector⟩
    · exact (sendOkay_alike henv).bind fun _ => sendPacket_alike henv .client body
    · exact sendFail_alike henv reason
    · have hfirst : Effect.Tracks ProxyConn.Alike
          (sendPacket env.streams .client
            (utf8 ((policy.filterSnapshot (mergeDeviceLists lists)).formatDevices long)))
          (sendPacket env.streams .client
            (utf8 ((policy.filterSnapshot (mergeDeviceLists lists')).formatDevices long))) := by
        rw [formatDevices_alike hsnap]
        exact sendPacket_alike henv .client _
      apply (sendOkay_alike henv).bind
      intro _
      apply hfirst.bind
      exact fun _ => sendViews_alike henv long hlater
    · exact sendOkay_alike henv
    · exact forwardSession_alike henv addr (.refl code) upstream
    · exact serveTransport_alike henv addr (.refl code) upstream serial selector
  · exact forwardSession_alike henv addr hcodes upstream
  · exact serveTransport_alike henv addr hcodes upstream serial selector

/-- **No client is told of a pair code.** Two hubs with the same backends, devices and policies, but
other pair codes: as long as what the backend sends is the same, a session ends the same and the
client is written the same and has as much of it read; even the backend is written as much.
Source: `session.rs`, `handle_client` -/
theorem clients_told_of_no_codes (henv : env.streams.CountsTarget) (hcode : SameCodes code code')
    (hlists : ListsAlike lists lists') (hviews : ViewsAlike views views')
    (client target : Incoming UInt8 IoError) :
    ((hubSession (env.showing code policy lists views)).on (.start client target)).1 =
        ((hubSession (env.showing code' policy lists' views')).on (.start client target)).1 ∧
      ((hubSession (env.showing code policy lists views)).on (.start client target)).2.Alike
        ((hubSession (env.showing code' policy lists' views')).on (.start client target)).2 := by
  have hsnap : (policy.filterSnapshot (mergeDeviceLists lists)).Alike
      (policy.filterSnapshot (mergeDeviceLists lists')) := agentView_alike policy hlists
  have hsession : Effect.Tracks ProxyConn.Alike (hubSession (env.showing code policy lists views))
      (hubSession (env.showing code' policy lists' views')) := by
    unfold hubSession
    apply (recvPacket_alike .client).attempt.bind
    rintro (err | payload)
    · dsimp only
      split_ifs
      · exact Effect.tracks_pure ()
      · exact Effect.tracks_throw err
    · dsimp only
      rcases fromUtf8 payload with _ | service
      · exact sendFail_alike henv _
      · exact serveHubClient_alike henv hlists hviews
          (handleClient_alike hsnap hcode env.order env.defaultBackend service)
  exact hsession _ _ ⟨rfl, rfl, rfl, rfl, rfl⟩

end told

/-- A hub with one device, on the backend of an office with this pair code. -/
def officeHub (code : String) : HubEnv :=
  HubEnv.quiet.showing none .empty
    [(⟨"office", .loopback 5038, some code, true⟩, "A1\tdevice\n")] []

/-- The client of a hub whose backend refuses it. -/
def officeClient : ProxyConn :=
  .start (sends (packetBytes (utf8 "host:transport-any"))) (sends failStatus)

theorem office_codes_not_told :
    ((hubSession (officeHub "ABCD1234")).on officeClient).1 =
        ((hubSession (officeHub "EFGH5678")).on officeClient).1 ∧
      ((hubSession (officeHub "ABCD1234")).on officeClient).2.Alike
        ((hubSession (officeHub "EFGH5678")).on officeClient).2 := by
  have henv : HubEnv.quiet.streams.CountsTarget := ⟨fun _ _ => none, fun _ _ => rfl⟩
  have hcodes : SameCodes (some "ABCD1234") (some "EFGH5678") :=
    .some (by decide +kernel) (by decide +kernel)
  have hlists : ListsAlike [(⟨"office", .loopback 5038, some "ABCD1234", true⟩, "A1\tdevice\n")]
      [(⟨"office", .loopback 5038, some "EFGH5678", true⟩, "A1\tdevice\n")] :=
    .cons ⟨⟨rfl, rfl, rfl, hcodes⟩, rfl⟩ .nil
  exact clients_told_of_no_codes henv .none hlists .nil _ _

end AdbHub
