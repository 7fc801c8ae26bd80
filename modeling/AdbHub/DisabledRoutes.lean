import AdbHub.PairedBackend

/-!
# Routes to a disabled device

A client of the hub asks for a device that the hub still shows, and that the proxy it is behind has
disabled meanwhile (`session.rs`, `handle_client`; `tunnel.rs`, `transport`; `lib.rs`,
`proxy_connection`).

* `Routed` — the service of the client is sent to a device, as a session or with tunnel requests
  intercepted.
* `PastGate` — the proxy reads no serial from what the hub makes of the service.
* `routed_sends_service` and `routed_hears_refusal` — both kinds of session, with a proxy that admits
  the hub.
* **`disabled_reached_iff`** — the adb server is asked for the device exactly if the service gets past
  the gate; otherwise it is left alone, and the client is told that the device is disabled.
-/

namespace AdbHub

open Lib Protocol

/-! ## What the rewriter makes of a service -/

/-- The service chooses a device for the rest of the connection. Source: `session.rs`,
`rewrite_upstream_service`, the first three tests. -/
def namesTransport (service : String) : Bool :=
  isAnySelector service || startsWith service "host:tport:serial:" ||
    startsWith service "host:transport:"

/-- The gate of the proxy reads no serial from what the service is rewritten to: it is for one
request, or the device has a name that `host:transport:` keeps for itself. -/
def PastGate (service serial : String) : Prop :=
  namesTransport service = false ∨
    (serial ∈ reservedSerials ∧ startsWith service "host:tport:" = false)

instance (service serial : String) : Decidable (PastGate service serial) :=
  inferInstanceAs (Decidable (_ ∨ _))

section rewriting

variable {service upstream : String} {snap : DeviceSnapshot} {order : List String} {d : DeviceEntry}

/-- What an exact selector is rewritten to. -/
theorem upstream_of_anySelector (hany : isAnySelector service = true)
    (h : rewriteUpstreamService service snap order = .ok (some (d, upstream))) :
    upstream = (if startsWith service "host:tport:" then "host:tport:serial:" else "host:transport:")
      ++ d.upstreamSerial := by
  unfold rewriteUpstreamService at h
  rw [if_pos hany] at h
  obtain ⟨entry, -, h⟩ := bind_eq_ok h
  split_ifs at h ⊢
  all_goals
    obtain ⟨rfl, rfl⟩ := Prod.mk.inj (Option.some.inj (Except.ok.inj h))
    rfl

/-- A service that is not one of the exact selectors, and begins with neither prefix. -/
theorem namesTransport_of_other {pre : String} (h : ∀ p ∈ ["host:tport:serial:", "host:transport:",
      "host:tport:any", "host:tport:usb", "host:tport:local", "host:transport-any",
      "host:transport-usb", "host:transport-local"], ¬ p.toList <+: pre.toList ∧
      ¬ pre.toList <+: String.toList p) (rest : String) : namesTransport (pre ++ rest) = false := by
  have hany : isAnySelector (pre ++ rest) = false :=
    isAnySelector_append pre rest fun w hw => (h w (by simp only [List.mem_cons] at hw ⊢; tauto)).2
  have hbegins : ∀ p ∈ ["host:tport:serial:", "host:transport:"],
      startsWith (pre ++ rest) p = false := by
    intro p hp
    rw [Bool.eq_false_iff, Ne, startsWith_iff]
    rintro ⟨t, ht⟩
    obtain ⟨h₁, h₂⟩ := h p (by simp only [List.mem_cons] at hp ⊢; tauto)
    exact append_ne_of_not_prefix h₂ h₁ rest t ht
  unfold namesTransport
  rw [hany, hbegins _ (by simp), hbegins _ (by simp)]
  rfl

/-- What the gate of the proxy reads from a service of the hub. -/
theorem transportSerial_upstream
    (h : rewriteUpstreamService service snap order = .ok (some (d, upstream))) :
    transportSerial upstream =
      if PastGate service d.upstreamSerial then none else some d.upstreamSerial := by
  have hrequest : ∀ request : String, namesTransport service = false →
      transportSerial ("host-serial:" ++ d.upstreamSerial ++ ":" ++ request) =
        if PastGate service d.upstreamSerial then none else some d.upstreamSerial := by
    intro request hnames
    rw [if_pos (.inl hnames), String.append_assoc, String.append_assoc]
    exact transportSerial_host_serial _
  have htransport : namesTransport service = true → startsWith service "host:tport:" = false →
      transportSerial ("host:transport:" ++ d.upstreamSerial) =
        if PastGate service d.upstreamSerial then none else some d.upstreamSerial := by
    intro hnames htport
    have hgate : PastGate service d.upstreamSerial ↔ d.upstreamSerial ∈ reservedSerials := by
      unfold PastGate
      rw [hnames, htport]
      simp
    rw [transportSerial_transport]
    exact if_congr hgate.symm rfl rfl
  have htport : namesTransport service = true → startsWith service "host:tport:" = true →
      transportSerial ("host:tport:serial:" ++ d.upstreamSerial) =
        if PastGate service d.upstreamSerial then none else some d.upstreamSerial := by
    intro hnames htport
    have hgate : ¬ PastGate service d.upstreamSerial := by
      unfold PastGate
      rw [hnames, htport]
      simp
    rw [transportSerial_tport, if_neg hgate]
  have hany : isAnySelector service = true → transportSerial upstream =
      if PastGate service d.upstreamSerial then none else some d.upstreamSerial := by
    intro hany
    have hnames : namesTransport service = true := by
      unfold namesTransport
      rw [hany]
      rfl
    rw [upstream_of_anySelector hany h]
    by_cases hstarts : startsWith service "host:tport:" = true
    · rw [if_pos hstarts]
      exact htport hnames hstarts
    · rw [if_neg hstarts]
      exact htransport hnames (Bool.eq_false_iff.mpr hstarts)
  cases rewrites_of_eq h with
  | anyTport _ _ hsel _ => exact hany hsel
  | anyTransport _ _ hsel _ => exact hany hsel
  | tport serial _ _ =>
      have hbegins : startsWith ("host:tport:serial:" ++ serial) "host:tport:serial:" = true :=
        startsWith_iff.mpr ⟨serial, rfl⟩
      apply htport
      · unfold namesTransport
        rw [hbegins, Bool.or_true, Bool.true_or]
      · rw [startsWith_iff]
        exact ⟨"serial:" ++ serial, by rw [← String.append_assoc]; rfl⟩
  | transport serial _ _ =>
      have hbegins : startsWith ("host:transport:" ++ serial) "host:transport:" = true :=
        startsWith_iff.mpr ⟨serial, rfl⟩
      apply htransport
      · unfold namesTransport
        rw [hbegins, Bool.or_true]
      · rw [Bool.eq_false_iff, Ne, startsWith_iff]
        rintro ⟨t, ht⟩
        exact append_ne_of_not_prefix (by decide) (by decide) serial t ht
  | serial serial request _ _ _ => exact hrequest request (namesTransport_of_other (by decide) _)
  | usb request _ _ => exact hrequest request (namesTransport_of_other (by decide) _)
  | loc request _ _ => exact hrequest request (namesTransport_of_other (by decide) _)
  | features _ _ hfeatures _ =>
      have hnames : namesTransport service = false := by
        rcases hfeatures with rfl | rfl
        all_goals decide +kernel
      rw [if_pos (.inl hnames)]
      rcases hfeatures with rfl | rfl
      all_goals decide +kernel
  | anyDevice request _ hreq _ =>
      apply hrequest request
      unfold isAnyDeviceRequest at hreq
      simp only [Bool.or_eq_true, decide_eq_true_eq] at hreq
      rcases hreq with ((rfl | rfl) | rfl) | rfl
      all_goals decide +kernel

/-- What no service is rewritten to. -/
theorem upstream_ne {text : String}
    (hbegins : ∀ p ∈ ["host:tport:serial:", "host:transport:", "host-serial:"],
      ¬ String.toList p <+: text.toList)
    (hfeatures : text ≠ "host:features" ∧ text ≠ "host:host-features")
    (h : rewriteUpstreamService service snap order = .ok (some (d, upstream))) : upstream ≠ text := by
  have hne : ∀ p ∈ ["host:tport:serial:", "host:transport:", "host-serial:"], ∀ rest : String,
      p ++ rest ≠ text := by
    rintro p hp rest rfl
    exact hbegins p hp ⟨rest.toList, String.toList_append.symm⟩
  have hrequest : ∀ request : String, "host-serial:" ++ d.upstreamSerial ++ ":" ++ request ≠ text := by
    intro request
    rw [String.append_assoc, String.append_assoc]
    exact hne _ (by simp) _
  cases rewrites_of_eq h with
  | anyTport _ _ _ _ => exact hne _ (by simp) _
  | anyTransport _ _ _ _ => exact hne _ (by simp) _
  | tport _ _ _ => exact hne _ (by simp) _
  | transport _ _ _ => exact hne _ (by simp) _
  | serial _ request _ _ _ => exact hrequest request
  | usb request _ _ => exact hrequest request
  | loc request _ _ => exact hrequest request
  | features _ _ hservice _ =>
      rcases hservice with rfl | rfl
      · exact hfeatures.1.symm
      · exact hfeatures.2.symm
  | anyDevice request _ _ _ => exact hrequest request

/-- **What the proxy does with a service of the hub for a disabled device.** -/
theorem proxyAction_upstream {policy : DevicePolicyTable}
    (h : rewriteUpstreamService service snap order = .ok (some (d, upstream)))
    (hdisabled : policy.isEnabled d.upstreamSerial = false) :
    proxyAction policy upstream = if PastGate service d.upstreamSerial then .forward upstream
      else .refuse ("device '" ++ d.upstreamSerial ++ "' is disabled") := by
  unfold proxyAction
  rw [if_neg (upstream_ne (by decide) (by decide) h), transportSerial_upstream h]
  by_cases hpast : PastGate service d.upstreamSerial
  · rw [if_pos hpast, if_pos hpast]
    have hne : ∀ text ∈ ["host:devices", "host:devices-l", "host:track-devices",
        "host:track-devices-l"], upstream ≠ text := by
      simp only [List.forall_mem_cons, List.not_mem_nil, false_implies, implies_true, and_true]
      refine ⟨?_, ?_, ?_, ?_⟩
      all_goals exact upstream_ne (by decide) (by decide) h
    simp only [List.forall_mem_cons, List.not_mem_nil, false_implies, implies_true,
      and_true] at hne
    simp [proxyForward, hne]
  · rw [if_neg hpast, if_neg hpast]
    simp [hdisabled]

/-- What the hub does for a service that is sent to a device: a plain session, or one in which
tunnel requests are intercepted. -/
inductive Routed (d : DeviceEntry) (upstream : String) : HubAction → Prop
  | session : Routed d upstream (.forward d.backendAddr d.pairCode upstream)
  | transport : Routed d upstream (.transport d.backendAddr d.pairCode upstream d.publicSerial
      ("host:transport:" ++ d.upstreamSerial))

theorem routed_of_rewrite {addr : SocketAddr} {pairCode : Option String}
    (hself : answerHubClient snap order service = none)
    (h : rewriteUpstreamService service snap order = .ok (some (d, upstream))) :
    Routed d upstream (handleClient snap order addr pairCode service) := by
  have hroute : routeService service snap addr pairCode order =
      .ok (d.backendAddr, d.pairCode, upstream) := by
    unfold routeService
    rw [h]
    rfl
  unfold handleClient
  rw [hself, Option.getD_none]
  unfold forwardHubClient
  by_cases htransport : isTransport service = true
  · rw [if_pos htransport]
    unfold remoteTransport
    rw [h]
    simp only
    by_cases hlocal : d.backendName ≠ "local"
    · rw [if_pos hlocal]
      exact .transport
    · rw [if_neg hlocal, hroute]
      exact .session
  · rw [if_neg htransport, hroute]
    exact .session

end rewriting

/-! ## A routed session, and a backend that admits the hub -/

section sessions

variable {env : HubEnv} {d : DeviceEntry} {action : HubAction} {code upstream : String}
  {client toHub : Incoming UInt8 IoError} {more : Stream}

theorem connectTunnelBackend_eq (env : ProxyEnv) (pairCode : Option String) (service : String) :
    connectTunnelBackend env pairCode service = askBackend env pairCode service (pure ()) := by
  unfold connectTunnelBackend askBackend
  simp only [bind_pure_unit]

theorem PutsOut.extends {env : ProxyEnv} {peer : Peer} {bytes : Stream} {x : Connection Unit}
    (h : PutsOut env peer bytes x) : x.Extends fun c => c.target.written := by
  intro c
  obtain ⟨bs, -, hput⟩ := h.front c
  rw [hput]
  rcases peer with _ | _
  · exact List.prefix_rfl
  · exact List.prefix_append _ _

theorem copyBidirectional_extends (env : ProxyEnv) :
    (copyBidirectional env).Extends fun c => c.target.written := by
  intro c
  unfold copyBidirectional
  rw [Effect.on_act]
  rcases env.copyFault with _ | ⟨n, m, e⟩
  all_goals exact List.prefix_append _ _

theorem followUp_extends (env : HubEnv) (serial : String) (owner : Option Uid) :
    (followUp env serial owner).Extends fun c => c.target.written := by
  have hokay := (putsOut_sendAll env.streams .client okayStatus).extends
  unfold followUp
  apply (recvPacket_keeps .client).extends.bind
  intro request
  rcases transportRequest serial owner env.removes request with reason | call | _ | _
  · exact (putsOut_sendFail env.streams .client reason).extends
  · simp only
    rcases env.add call with err | actual
    · exact (putsOut_sendFail env.streams .client err).extends
    · apply hokay.bind
      intro _
      apply hokay.bind
      intro _
      split_ifs
      · exact (putsOut_sendPacket env.streams .client _).extends
      · exact (Effect.keeps_pure ()).extends
  · exact hokay.bind fun _ => hokay
  · apply (putsOut_sendPacket env.streams .target request).extends.bind
    intro _
    exact (copyBidirectional_extends env.streams).bind fun _ => (Effect.keeps_pure ()).extends

/-- After the service only more is sent to the backend. -/
theorem transport_extends (env : HubEnv) (service serial : String) (owner : Option Uid) :
    (transport env service serial owner).Extends fun c => c.target.written := by
  unfold transport selectDevice
  apply (recvExact_keeps .target 4).extends.bind
  intro status
  apply (putsOut_sendAll env.streams .client status).extends.bind
  intro _
  split_ifs
  · apply (recvExact_keeps .target 8).extends.bind
    intro id
    apply (putsOut_sendAll env.streams .client id).extends.bind
    intro _
    exact followUp_extends env serial owner
  · exact followUp_extends env serial owner
  · apply (recvPacket_keeps .target).extends.bind
    intro reason
    exact (putsOut_sendPacket env.streams .client reason).extends
  · exact (Effect.keeps_pure ()).extends

/-- What was written stays in front. -/
theorem exists_written {α : Type} {x : Connection α} (h : x.Extends fun c => c.target.written)
    {c : ProxyConn} {front : Stream} (hc : c.target.written = front) :
    ∃ more, (x.on c).2.target.written = front ++ more := by
  obtain ⟨more, hmore⟩ := h c
  refine ⟨more, ?_⟩
  rw [← hc]
  exact hmore.symm

/-- The first packet of a routed session is the pair code. -/
theorem routed_sends_code (henv : env.streams.Undisturbed) (h : Routed d upstream action)
    (hcode : d.pairCode = some code) (client toHub : Incoming UInt8 IoError) :
    ∃ rest, ((serveHubClient env action).on (.start client toHub)).2.target.written =
      packetBytes (utf8 (authService code)) ++ rest := by
  rcases h with _ | _
  · rw [hcode]
    exact forwardSession_sends_code henv d.backendAddr code upstream client toHub
  · obtain ⟨rest, hsent⟩ := askBackend_sends_code (Effect.keeps_pure ()) henv code upstream client
      toHub
    rw [← connectTunnelBackend_eq] at hsent
    show ∃ rest, ((_ : Connection Unit).on (.start client toHub)).2.target.written = _
    unfold serveHubClient
    rw [hcode]
    simp only
    rw [Effect.on_bind_ok (Effect.on_attempt _ _)]
    rcases hrun : (connectTunnelBackend env.streams (some code) upstream).on (.start client toHub)
      with ⟨err | u, c⟩
    all_goals
      rw [hrun] at hsent
      simp only
    · obtain ⟨more, hmore⟩ := exists_written (putsOut_sendFail env.streams .client
        ("backend " ++ d.backendAddr.display ++ ": " ++ err.text)).extends hsent
      exact ⟨rest ++ more, hmore.trans (List.append_assoc _ _ _)⟩
    · obtain ⟨more, hmore⟩ :=
        exists_written (transport_extends env upstream d.publicSerial none) hsent
      exact ⟨rest ++ more, hmore.trans (List.append_assoc _ _ _)⟩

/-- A transport session with a backend that admits the hub. -/
theorem on_transport_session (henv : env.streams.Undisturbed) (hcode : d.pairCode = some code)
    (hokay : toHub.items = okayStatus ++ more) (client : Incoming UInt8 IoError) :
    ∃ c, (serveHubClient env (.transport d.backendAddr d.pairCode upstream d.publicSerial
        ("host:transport:" ++ d.upstreamSerial))).on (.start client toHub) =
          (transport env upstream d.publicSerial none).on c ∧
      c.wires = ⟨client.items, [], more,
        packetBytes (utf8 (authService code)) ++ packetBytes (utf8 upstream)⟩ := by
  obtain ⟨c, hrun, hwires⟩ := on_askBackend_okay henv hokay code upstream client (pure ())
  rw [← connectTunnelBackend_eq] at hrun
  refine ⟨c, ?_, hwires⟩
  have hattempt := Effect.on_attempt (connectTunnelBackend env.streams (some code) upstream)
    (.start client toHub)
  rw [hrun] at hattempt
  unfold serveHubClient
  rw [hcode]
  simp only
  rw [Effect.on_bind_ok hattempt]
  rfl

/-- The second one is the service. -/
theorem routed_sends_service (henv : env.streams.Undisturbed) (h : Routed d upstream action)
    (hcode : d.pairCode = some code) (hokay : toHub.items = okayStatus ++ more)
    (client : Incoming UInt8 IoError) :
    ∃ rest, ((serveHubClient env action).on (.start client toHub)).2.target.written =
      packetBytes (utf8 (authService code)) ++ (packetBytes (utf8 upstream) ++ rest) := by
  rcases h with _ | _
  · rw [hcode]
    obtain ⟨-, htarget⟩ :=
      on_forwardSession_okay henv hokay d.backendAddr code upstream client
    exact ⟨client.items, htarget⟩
  · obtain ⟨c, hrun, hwires⟩ := on_transport_session henv hcode hokay client
    obtain ⟨rest, hrest⟩ := exists_written (transport_extends env upstream d.publicSerial none)
      (congrArg Wires.targetOut hwires)
    rw [hrun]
    exact ⟨rest, hrest.trans (List.append_assoc _ _ _)⟩

/-- What the backend says against the service is passed on. -/
theorem routed_hears_refusal (henv : env.streams.Undisturbed) (h : Routed d upstream action)
    (hcode : d.pairCode = some code) {reason : String} (hfit : (utf8 reason).length ≤ maxPayload)
    (hokay : toHub.items = okayStatus ++ (failStatus ++ packetBytes (utf8 reason)))
    (client : Incoming UInt8 IoError) :
    ((serveHubClient env action).on (.start client toHub)).2.client.written =
      failStatus ++ packetBytes (utf8 reason) := by
  rcases h with _ | _
  · rw [hcode]
    exact (on_forwardSession_okay henv hokay d.backendAddr code upstream client).1
  · obtain ⟨c, hrun, hwires⟩ := on_transport_session henv hcode hokay client
    have hin : c.wires.ins .target = failStatus ++ packetBytes (utf8 reason) :=
      congrArg Wires.targetIn hwires
    obtain ⟨c₁, hstatus, hw₁⟩ := recvExact_front (by decide : failStatus.length = 4) hin
    have hpass := (putsOut_sendAll env.streams .client failStatus).on_eq henv.writes c₁
    have hpacket : readPacket.on ((c₁.put .client failStatus).wires.ins .target) =
        (.ok (utf8 reason), []) := by
      rw [ProxyConn.wires_put, hw₁]
      have hread := on_readPacket_packetBytes hfit []
      rwa [List.append_nil] at hread
    obtain ⟨c₂, hreason, hw₂⟩ := recvPacket_front hpacket
    have hsend := (putsOut_sendPacket env.streams .client (utf8 reason)).on_eq henv.writes c₂
    have hne : failStatus ≠ okayStatus := by decide
    rw [hrun]
    unfold transport selectDevice
    rw [Effect.on_bind_ok hstatus, Effect.on_bind_ok hpass, if_neg hne, if_pos rfl,
      Effect.on_bind_ok hreason, hsend]
    show ((c₂.put .client (packetBytes (utf8 reason))).wires).clientOut = _
    rw [ProxyConn.wires_put, hw₂, ProxyConn.wires_put, hw₁, hwires]
    rfl

end sessions

/-! ## The hub and the proxy -/

/-- The client is told that the device is disabled, and the adb server is left alone. -/
structure ToldDisabled (serial : String) (hub proxy : ProxyConn) : Prop where
  client : hub.client.written =
    failStatus ++ packetBytes (utf8 ("device '" ++ serial ++ "' is disabled"))
  server : proxy.target.written = []
  connected : proxy.connected = false

/-- A session of the hub is what it does for the service of its client. -/
theorem on_hubSession (env : HubEnv) {client : Incoming UInt8 IoError} {service : String}
    {more : Stream} (h : readPacket.on client.items = (.ok (utf8 service), more))
    (toHub : Incoming UInt8 IoError) :
    ∃ s, s.items = more ∧ (hubSession env).on (.start client toHub) =
      (serveHubClient env (handleClient env.snap env.order env.defaultBackend env.defaultPairCode
        service)).on (.start s toHub) := by
  have hpacket : readPacket.on ((ProxyConn.start client toHub).incoming .client).items =
      (.ok (utf8 service), more) := h
  obtain ⟨s, hrecv, hs⟩ := recvPacket_of_items hpacket
  have hattempt := Effect.on_attempt (recvPacket .client) (.start client toHub)
  rw [hrecv] at hattempt
  refine ⟨s, hs, ?_⟩
  unfold hubSession
  rw [Effect.on_bind_ok hattempt]
  simp only
  rw [fromUtf8_utf8]
  rfl

section gate

variable {proxy : ProxyEnv} {service upstream : String} {d : DeviceEntry}
  {snap : DeviceSnapshot} {order : List String}

/-- Past the gate the adb server is asked. -/
theorem serveService_past_gate
    (hwrites : ∀ peer written bytes, proxy.writeFault peer written bytes = none)
    (hconnects : proxy.connectError = none)
    (hroute : rewriteUpstreamService service snap order = .ok (some (d, upstream)))
    (hdisabled : proxy.policy.isEnabled d.upstreamSerial = false)
    (hpast : PastGate service d.upstreamSerial) (client adb : Incoming UInt8 IoError) :
    ∃ rest, ((serveService proxy upstream).on (.start client adb)).2.target.written =
      packetBytes (utf8 upstream) ++ rest := by
  obtain ⟨c, hconnect, hw⟩ := on_connectTarget hconnects (.start client adb)
  have hsend := (putsOut_sendPacket proxy .target (utf8 upstream)).on_eq hwrites c
  have hsent : (c.put .target (packetBytes (utf8 upstream))).target.written =
      packetBytes (utf8 upstream) := by
    show c.wires.targetOut ++ _ = _
    rw [hw]
    rfl
  unfold serveService
  rw [proxyAction_upstream hroute hdisabled, if_pos hpast]
  simp only
  rw [Effect.on_bind_ok hconnect, Effect.on_bind_ok (show (sendService proxy .target upstream).on c =
    _ from hsend)]
  exact exists_written (copyBidirectional_extends proxy) hsent

/-- Everything else is refused. -/
theorem serveService_refused
    (hwrites : ∀ peer written bytes, proxy.writeFault peer written bytes = none)
    (hroute : rewriteUpstreamService service snap order = .ok (some (d, upstream)))
    (hdisabled : proxy.policy.isEnabled d.upstreamSerial = false)
    (hpast : ¬ PastGate service d.upstreamSerial) (client adb : Incoming UInt8 IoError) :
    ((serveService proxy upstream).on (.start client adb)).2 =
      (ProxyConn.start client adb).put .client (failStatus ++
        packetBytes (utf8 ("device '" ++ d.upstreamSerial ++ "' is disabled"))) := by
  have hfail := (putsOut_sendFail proxy .client
    ("device '" ++ d.upstreamSerial ++ "' is disabled")).on_eq hwrites (.start client adb)
  unfold serveService
  rw [proxyAction_upstream hroute hdisabled, if_neg hpast]
  simp only
  rw [Effect.on_bind_ok hfail]
  rfl

end gate

/-- **The gate behind the hub, exactly.** Whatever has changed at the proxy since the hub took its
snapshot: in every exchange of a session that the hub sends to a device which is disabled by now, the
adb server is asked for the device if the service is for one request only, or for a device of the
name `any`, `usb` or `local`; it is left alone, and the client told so, if not.
Source: `session.rs`, `handle_client`; `tunnel.rs`, `transport`; `lib.rs`, `proxy_connection`;
`policy.rs`, `transport_serial`. -/
theorem disabled_reached_iff {env : HubEnv} {proxy : ProxyEnv} (henv : env.streams.Undisturbed)
    (hwrites : ∀ peer written bytes, proxy.writeFault peer written bytes = none)
    (hconnects : proxy.connectError = none) (hproxy : validatePairCode proxy.pairCode = .ok ())
    {service upstream : String} {d : DeviceEntry} {client adb : Incoming UInt8 IoError}
    {more : Stream} (hservice : readPacket.on client.items = (.ok (utf8 service), more))
    (hself : answerHubClient env.snap env.order service = none)
    (hroute : rewriteUpstreamService service env.snap env.order = .ok (some (d, upstream)))
    (hcode : d.pairCode = some proxy.pairCode)
    (hdisabled : proxy.policy.isEnabled d.upstreamSerial = false)
    (hfits : ∀ text ∈ [upstream, "device '" ++ d.upstreamSerial ++ "' is disabled"],
      (utf8 text).length ≤ maxPayload)
    (e : Paired (hubSession env) proxy client adb) :
    (PastGate service d.upstreamSerial →
        ∃ rest, e.proxySide.2.target.written = packetBytes (utf8 upstream) ++ rest) ∧
      (¬ PastGate service d.upstreamSerial →
        ToldDisabled d.upstreamSerial e.hub.2 e.proxySide.2) := by
  simp only [List.forall_mem_cons, List.not_mem_nil, false_implies, implies_true, and_true] at hfits
  obtain ⟨hfitUpstream, hfitReason⟩ := hfits
  obtain ⟨s, -, hsession⟩ := on_hubSession env hservice e.toLeft
  have hrouted : Routed d upstream (handleClient env.snap env.order env.defaultBackend
    env.defaultPairCode service) := routed_of_rewrite hself hroute
  -- the pair code is sent whatever arrives, so the proxy answers it
  obtain ⟨rest, hsent⟩ := routed_sends_code henv hrouted hcode s e.toLeft
  rw [← hsession] at hsent
  obtain ⟨after, hadmitted⟩ :=
    client_written_of_admitted hwrites hproxy (e.toRight_items.trans hsent) adb
  have hokay : e.toLeft.items = okayStatus ++ after := e.toLeft_items.trans hadmitted
  obtain ⟨rest, hboth⟩ := routed_sends_service henv hrouted hcode hokay s
  rw [← hsession] at hboth
  have hasked : e.toRight.items = packetBytes (utf8 (authService proxy.pairCode)) ++
      (packetBytes (utf8 upstream) ++ (sends rest).items) := by
    rw [e.toRight_items, hboth]
    simp [sends, Incoming.items]
  have hbehind := outcome_of_admitted hwrites hproxy hfitUpstream hasked adb
  constructor
  · intro hpast
    obtain ⟨rest', hserved⟩ := serveService_past_gate hwrites hconnects hroute hdisabled hpast
      (sends rest) adb
    exact ⟨rest', (congrArg Duplex.written hbehind.target).trans hserved⟩
  · intro hpast
    have hserved := serveService_refused hwrites hroute hdisabled hpast (sends rest) adb
    rw [hserved] at hbehind
    have hheard : e.toLeft.items = okayStatus ++ (failStatus ++
        packetBytes (utf8 ("device '" ++ d.upstreamSerial ++ "' is disabled"))) :=
      e.toLeft_items.trans hbehind.clientOut
    refine ⟨?_, congrArg Duplex.written hbehind.target, hbehind.connected⟩
    have hrefusal := routed_hears_refusal henv hrouted hcode hfitReason hheard s
    rw [← hsession] at hrefusal
    exact hrefusal

/-- A phone at the office, as the hub shows it. -/
def shownPhone : DeviceEntry :=
  { officePhone none with pairCode := some "ABCD1234" }

/-- The hub that shows it. -/
def staleHub : HubEnv := { HubEnv.quiet with snap := ⟨[shownPhone]⟩ }

/-- The proxy there, which does not lend it any more. -/
def phoneless : ProxyEnv :=
  { ProxyEnv.undisturbed "ABCD1234" with policy := DevicePolicyTable.empty.setEnabled "ABC" false }

/-- A client of the hub selects the phone, and wants a shell. -/
def staleExchange : Paired (hubSession staleHub) phoneless
    (sends (packetBytes (utf8 "host:transport:ABC") ++ packetBytes (utf8 "shell:")))
    (sends okayStatus) where
  toLeft := ⟨[utf8 "OKAYFA", utf8 "IL0018devi", utf8 "ce 'ABC' is disabled"], none⟩
  toRight := ⟨[utf8 "000dauth:ABCD1", utf8 "2340012host:transport:ABC"], none⟩
  toLeft_items := by decide +kernel
  toRight_items := by decide +kernel

theorem phone_refused : ToldDisabled "ABC" staleExchange.hub.2 staleExchange.proxySide.2 := by
  have henv : staleHub.streams.Undisturbed := ⟨rfl, fun _ _ _ => rfl, rfl⟩
  have hwrites : ∀ peer written bytes, phoneless.writeFault peer written bytes = none :=
    fun _ _ _ => rfl
  have hcode : validatePairCode phoneless.pairCode = .ok () := by decide +kernel
  have hself : answerHubClient staleHub.snap staleHub.order "host:transport:ABC" = none := by
    decide +kernel
  have hroute : rewriteUpstreamService "host:transport:ABC" staleHub.snap staleHub.order =
      .ok (some (shownPhone, "host:transport:ABC")) := by decide +kernel
  have hfits : ∀ text ∈ ["host:transport:ABC",
      "device '" ++ shownPhone.upstreamSerial ++ "' is disabled"],
      (utf8 text).length ≤ maxPayload := by decide +kernel
  have hservice : readPacket.on (sends (packetBytes (utf8 "host:transport:ABC") ++
      packetBytes (utf8 "shell:"))).items =
      (.ok (utf8 "host:transport:ABC"), packetBytes (utf8 "shell:")) := by decide +kernel
  have hdisabled : phoneless.policy.isEnabled shownPhone.upstreamSerial = false := by decide +kernel
  have hpast : ¬ PastGate "host:transport:ABC" "ABC" := by decide +kernel
  exact (disabled_reached_iff henv hwrites rfl hcode hservice hself hroute rfl hdisabled hfits
    staleExchange).2 hpast

end AdbHub
