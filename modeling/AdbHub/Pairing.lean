import AdbHub.BackendQuery
import AdbHub.HubSession
import AdbHub.Lib.Exchange

/-!
# The hub and the proxy

A session of the hub whose backend is an adb-proxy: client, hub, proxy and adb server in a row
(`session.rs`, `forward_session`; `auth.rs`; `lib.rs`, `proxy_connection`). What arrives at the hub
is what the proxy writes, and the other way round, in pieces of any length.

* `Paired` — the exchange of a session of the hub with a proxy.
* `Behind` — two connections of the proxy that differ in what was written to the client before;
  `serveService_tracks`: a service is served the same on both.
* **`hub_in_between`** — with the pair code of the proxy, client and adb server get what they would
  get if the client were connected to the proxy itself; without it the adb server gets nothing.
-/

namespace AdbHub

open Lib Protocol

/-! ## Exchanges -/

/-- What a session of the hub, for this client, and a connection of the proxy, in front of this adb
server, tell each other. -/
structure Paired {α : Type} (session : Connection α) (proxy : ProxyEnv)
    (client adb : Incoming UInt8 IoError) extends
  Exchange (fun toHub => (session.on (.start client toHub)).2.target.written)
    (fun toProxy => (proxy.outcome toProxy adb).2.client.written)

namespace Paired

variable {α : Type} {session : Connection α} {proxy : ProxyEnv}
  {client adb : Incoming UInt8 IoError}

/-- The end of the session of the hub. -/
def hub (e : Paired session proxy client adb) : Except IoError α × ProxyConn :=
  session.on (.start client e.toLeft)

/-- The end of the connection of the proxy. -/
def proxySide (e : Paired session proxy client adb) :
    Except IoError (Option ProxyStats) × ProxyConn :=
  proxy.outcome e.toRight adb

end Paired

/-! ## A service on two connections -/

/-- The same connection of the proxy, but that `front` was written to the client before; what the
client still sends may be cut in other pieces. -/
structure Behind (front : Stream) (c c' : ProxyConn) : Prop where
  clientIn : (c.incoming .client).items = (c'.incoming .client).items
  clientOut : c.client.written = front ++ c'.client.written
  target : c.target = c'.target
  connected : c.connected = c'.connected
  filtered : c.filtered = c'.filtered

/-- What is written to both leaves them alike. -/
theorem Behind.put {front : Stream} {c c' : ProxyConn} (h : Behind front c c') (peer : Peer)
    (bytes : Stream) : Behind front (c.put peer bytes) (c'.put peer bytes) := by
  rcases peer with _ | _
  · refine ⟨h.clientIn, ?_, h.target, h.connected, h.filtered⟩
    show c.client.written ++ bytes = front ++ (c'.client.written ++ bytes)
    rw [h.clientOut, List.append_assoc]
  · refine ⟨h.clientIn, h.clientOut, ?_, h.connected, h.filtered⟩
    show (⟨c.target.incoming, c.target.written ++ bytes⟩ : Duplex) =
      ⟨c'.target.incoming, c'.target.written ++ bytes⟩
    rw [h.target]

section tracks

variable {env : ProxyEnv} {front : Stream}

theorem sendAll_tracks (hwrites : ∀ peer written bytes, env.writeFault peer written bytes = none)
    (peer : Peer) (bytes : Stream) :
    Effect.Tracks (Behind front) (sendAll env peer bytes) (sendAll env peer bytes) := by
  intro c c' h
  rw [(putsOut_sendAll env peer bytes).on_eq hwrites, (putsOut_sendAll env peer bytes).on_eq hwrites]
  exact ⟨rfl, h.put peer bytes⟩

theorem sendPacket_tracks (hwrites : ∀ peer written bytes, env.writeFault peer written bytes = none)
    (peer : Peer) (payload : Stream) :
    Effect.Tracks (Behind front) (sendPacket env peer payload) (sendPacket env peer payload) :=
  (sendAll_tracks hwrites peer _).bind fun _ => sendAll_tracks hwrites peer payload

theorem recvExact_tracks (n : ℕ) :
    Effect.Tracks (Behind front) (recvExact .target n) (recvExact .target n) := by
  intro c c' h
  have hin : c.incoming .target = c'.incoming .target := congrArg Duplex.incoming h.target
  unfold recvExact
  rw [Effect.on_act, Effect.on_act, hin]
  refine ⟨rfl, h.clientIn, h.clientOut, ?_, h.connected, h.filtered⟩
  show ({ c.target with incoming := _ } : Duplex) = _
  rw [h.target]
  rfl

theorem recvPacket_tracks :
    Effect.Tracks (Behind front) (recvPacket .target) (recvPacket .target) := by
  unfold recvPacket
  apply (recvExact_tracks 4).bind
  intro head
  rcases parseHex4 head with msg | len
  · exact Effect.tracks_throw _
  · simp only
    split_ifs
    · exact recvExact_tracks len
    · exact Effect.tracks_pure _

theorem recvOkayPayload_tracks :
    Effect.Tracks (Behind front) (recvOkayPayload .target) (recvOkayPayload .target) := by
  unfold recvOkayPayload
  apply (recvExact_tracks 4).bind
  intro status
  split_ifs
  · exact recvPacket_tracks
  · exact recvPacket_tracks.bind fun _ => Effect.tracks_throw _
  · exact Effect.tracks_throw _

theorem connectTarget_tracks :
    Effect.Tracks (Behind front) (connectTarget env) (connectTarget env) := by
  intro c c' h
  unfold connectTarget
  rw [Effect.on_act, Effect.on_act]
  rcases env.connectError with _ | e
  · exact ⟨rfl, h.clientIn, h.clientOut, h.target, rfl, h.filtered⟩
  · exact ⟨rfl, h⟩

theorem copyBidirectional_tracks :
    Effect.Tracks (Behind front) (copyBidirectional env) (copyBidirectional env) := by
  intro c c' h
  have hin : c.incoming .target = c'.incoming .target := congrArg Duplex.incoming h.target
  unfold copyBidirectional
  rw [Effect.on_act, Effect.on_act, h.clientIn, hin]
  rcases env.copyFault with _ | ⟨n, m, e⟩
  · exact ⟨rfl, (h.put .target _).put .client _⟩
  · exact ⟨rfl, (h.put .target _).put .client _⟩

theorem filteredBody_tracks (body : Stream) :
    Effect.Tracks (Behind front) (filteredBody env body) (filteredBody env body) := by
  intro c c' h
  unfold filteredBody
  rw [Effect.on_act, Effect.on_act, h.filtered]
  exact ⟨rfl, h.clientIn, h.clientOut, h.target, h.connected, rfl⟩

theorem trackLists_tracks
    (hwrites : ∀ peer written bytes, env.writeFault peer written bytes = none) (fuel : ℕ) :
    Effect.Tracks (Behind front) (trackLists env fuel) (trackLists env fuel) := by
  induction fuel with
  | zero => exact Effect.tracks_pure ()
  | succ fuel ih =>
      unfold trackLists
      apply recvPacket_tracks.attempt.bind
      rintro (err | body)
      · simp only
        split_ifs
        · exact Effect.tracks_pure ()
        · exact Effect.tracks_throw err
      · apply (filteredBody_tracks body).bind
        intro list
        apply (sendPacket_tracks hwrites .client list).attempt.bind
        rintro (err | u)
        · simp only
          split_ifs
          · exact Effect.tracks_pure ()
          · exact Effect.tracks_throw err
        · exact ih

theorem trackAllLists_tracks
    (hwrites : ∀ peer written bytes, env.writeFault peer written bytes = none) :
    Effect.Tracks (Behind front) (trackAllLists env) (trackAllLists env) := by
  intro c c' h
  have hin : c.incoming .target = c'.incoming .target := congrArg Duplex.incoming h.target
  unfold trackAllLists
  rw [Effect.on_act, Effect.on_act, hin]
  exact trackLists_tracks hwrites _ c c' h

/-- **A service is served the same**, whatever was written to the client before. -/
theorem serveService_tracks
    (hwrites : ∀ peer written bytes, env.writeFault peer written bytes = none) (service : String) :
    Effect.Tracks (Behind front) (serveService env service) (serveService env service) := by
  have hall := @sendAll_tracks env front hwrites
  have hpacket := @sendPacket_tracks env front hwrites
  unfold serveService
  rcases proxyAction env.policy service with payload | reason | s | s | s
  · apply ((hall .client okayStatus).bind fun _ => hpacket .client (utf8 payload)).bind
    exact fun _ => Effect.tracks_pure _
  · apply ((hall .client failStatus).bind fun _ => hpacket .client (utf8 reason)).bind
    exact fun _ => Effect.tracks_pure _
  · apply connectTarget_tracks.bind
    intro _
    apply (hpacket .target (utf8 s)).bind
    intro _
    apply recvOkayPayload_tracks.bind
    intro body
    apply (filteredBody_tracks body).bind
    intro list
    apply ((hall .client okayStatus).bind fun _ => hpacket .client list).bind
    exact fun _ => Effect.tracks_pure _
  · apply connectTarget_tracks.bind
    intro _
    apply (hpacket .target (utf8 s)).bind
    intro _
    apply (recvExact_tracks 4).bind
    intro status
    split_ifs
    · apply (hall .client okayStatus).bind
      intro _
      exact (trackAllLists_tracks hwrites).bind fun _ => Effect.tracks_pure _
    · apply (hall .client status).bind
      intro _
      apply recvPacket_tracks.attempt.bind
      intro reason
      exact (hpacket .client _).bind fun _ => Effect.tracks_pure _
    · exact (hall .client status).bind fun _ => Effect.tracks_pure _
  · apply connectTarget_tracks.bind
    intro _
    exact (hpacket .target (utf8 s)).bind fun _ => copyBidirectional_tracks

end tracks

/-! ## The two sides -/

section sides

variable {env proxy : ProxyEnv} {addr : SocketAddr} {code service : String} {c : ProxyConn}
  {client adb fromHub toHub : Incoming UInt8 IoError} {after more : Stream}

/-- The pair code is sent, whatever is answered. -/
theorem target_written_authenticate (henv : env.Undisturbed) (code : String) (c : ProxyConn) :
    ((authenticate env code).on c).2.target.written =
      c.target.written ++ packetBytes (utf8 (authService code)) := by
  unfold authenticate
  rw [Effect.on_bind_ok (on_sendService henv _ c)]
  refine Eq.trans (Effect.Keeps.bind (recvExact_keeps .target 4) (fun status => ?_) _) rfl
  split_ifs
  · exact Effect.keeps_pure ()
  · exact (recvPacket_keeps .target).bind fun _ => Effect.keeps_throw _
  · exact Effect.keeps_throw _

/-- The session of a hub that is admitted: everything behind the `OKAY` is passed on, and the
service is followed by everything of the client. -/
theorem on_forwardSession_okay (henv : env.Undisturbed) (h : toHub.items = okayStatus ++ more)
    (addr : SocketAddr) (code service : String) (client : Incoming UInt8 IoError) :
    ((forwardSession env addr (some code) service).on (.start client toHub)).2.client.written =
        more ∧
      ((forwardSession env addr (some code) service).on (.start client toHub)).2.target.written =
        packetBytes (utf8 (authService code)) ++ (packetBytes (utf8 service) ++ client.items) := by
  obtain ⟨c₁, hconnect, hw₁⟩ := on_connectTarget henv.connects (.start client toHub)
  have hanswer : c₁.wires.targetIn = okayStatus ++ more := by
    rw [hw₁]
    exact h
  obtain ⟨c₂, hauth, hw₂⟩ := on_authenticate_okay henv code hanswer
  obtain ⟨stats, c₃, hcopy, hclient, htarget⟩ := on_copyBidirectional henv.copies
    (c₂.put .target (packetBytes (utf8 service)))
  have hrun : (forwardSession env addr (some code) service).on (.start client toHub) =
      (.ok (), c₃) := by
    have hattempt : (connectTarget env).attempt.on (.start client toHub) = (.ok (.ok ()), c₁) := by
      rw [Effect.on_attempt, hconnect]
    have hattempt₂ : (authenticateIfPaired env (some code)).attempt.on c₁ = (.ok (.ok ()), c₂) := by
      rw [Effect.on_attempt]
      show (Except.ok ((authenticate env code).on c₁).1, ((authenticate env code).on c₁).2) = _
      rw [hauth]
    have hattempt₃ : (copyBidirectional env).attempt.on (c₂.put .target (packetBytes (utf8 service))) =
        (.ok (.ok stats), c₃) := by
      rw [Effect.on_attempt, hcopy]
    unfold forwardSession
    rw [Effect.on_bind_ok hattempt]
    simp only
    rw [Effect.on_bind_ok hattempt₂]
    simp only
    rw [Effect.on_bind_ok (on_sendService henv service c₂), Effect.on_bind_ok hattempt₃]
    rfl
  rw [hrun]
  rw [hclient, htarget, ProxyConn.wires_put, hw₂, hw₁]
  constructor
  · rfl
  · simp [Wires.put, Wires.setIns, ProxyConn.wires, ProxyConn.start, ProxyConn.incoming,
      ProxyConn.duplex]

/-- The session of a hub that is refused: the client is told, and nothing else is sent. -/
theorem on_forwardSession_fail (henv : env.Undisturbed) {reason : String}
    (hfit : (utf8 reason).length ≤ maxPayload)
    (h : toHub.items = failStatus ++ packetBytes (utf8 reason)) (addr : SocketAddr)
    (code service : String) (client : Incoming UInt8 IoError) :
    ((forwardSession env addr (some code) service).on (.start client toHub)).2.client.written =
      failStatus ++ packetBytes (utf8 ("backend " ++ addr.display ++ " auth: " ++ reason)) := by
  obtain ⟨c₁, hconnect, hw₁⟩ := on_connectTarget henv.connects (.start client toHub)
  have hanswer : c₁.wires.targetIn = failStatus ++ packetBytes (utf8 reason) ++ [] := by
    rw [hw₁, List.append_nil]
    exact h
  obtain ⟨c₂, hauth, hw₂⟩ := on_authenticate_fail henv code reason hfit hanswer
  have hfail := (putsOut_sendFail env .client
    ("backend " ++ addr.display ++ " auth: " ++ reason)).on_eq henv.writes c₂
  have hrun : (forwardSession env addr (some code) service).on (.start client toHub) =
      (.ok (), c₂.put .client (failStatus ++
        packetBytes (utf8 ("backend " ++ addr.display ++ " auth: " ++ reason)))) := by
    have hattempt : (connectTarget env).attempt.on (.start client toHub) = (.ok (.ok ()), c₁) := by
      rw [Effect.on_attempt, hconnect]
    have hattempt₂ : (authenticateIfPaired env (some code)).attempt.on c₁ =
        (.ok (.error (.other reason)), c₂) := by
      rw [Effect.on_attempt]
      show (Except.ok ((authenticate env code).on c₁).1, ((authenticate env code).on c₁).2) = _
      rw [hauth]
    unfold forwardSession
    rw [Effect.on_bind_ok hattempt]
    simp only
    rw [Effect.on_bind_ok hattempt₂]
    exact hfail
  rw [hrun]
  have hnone : c₂.client.written = [] := by
    have := congrArg Wires.clientOut hw₂
    rw [hw₁] at this
    exact this
  show c₂.client.written ++ _ = _
  rw [hnone, List.nil_append]

/-- The first packet to the backend is the pair code, whatever is answered. -/
theorem forwardSession_sends_code (henv : env.Undisturbed) (addr : SocketAddr)
    (code service : String) (client toHub : Incoming UInt8 IoError) :
    ∃ rest, ((forwardSession env addr (some code) service).on (.start client toHub)).2.target.written
      = packetBytes (utf8 (authService code)) ++ rest := by
  obtain ⟨c₁, hconnect, hw₁⟩ := on_connectTarget henv.connects (.start client toHub)
  have hattempt : (connectTarget env).attempt.on (.start client toHub) = (.ok (.ok ()), c₁) := by
    rw [Effect.on_attempt, hconnect]
  have hnone : c₁.target.written = [] := congrArg Wires.targetOut hw₁
  have hsent := target_written_authenticate henv code c₁
  rw [hnone, List.nil_append] at hsent
  unfold forwardSession
  rw [Effect.on_bind_ok hattempt]
  simp only
  rw [Effect.on_bind_ok (Effect.on_attempt _ _)]
  rcases hauth : (authenticateIfPaired env (some code)).on c₁ with ⟨err | u, c₂⟩
  all_goals
    obtain rfl : c₂ = ((authenticate env code).on c₁).2 := (congrArg Prod.snd hauth).symm
    simp only
  · refine ⟨[], ?_⟩
    rw [List.append_nil, ← hsent]
    exact (putsOut_sendFail env .client _).keeps _
  · obtain ⟨stats, c₃, hcopy, -, htarget⟩ := on_copyBidirectional henv.copies
      (((authenticate env code).on c₁).2.put .target (packetBytes (utf8 service)))
    have hattempt₃ := Effect.on_attempt (copyBidirectional env)
      (((authenticate env code).on c₁).2.put .target (packetBytes (utf8 service)))
    rw [hcopy] at hattempt₃
    rw [Effect.on_bind_ok (on_sendService henv service _), Effect.on_bind_ok hattempt₃]
    refine ⟨packetBytes (utf8 service) ++
      ((authenticate env code).on c₁).2.wires.clientIn, ?_⟩
    show c₃.target.written = _
    rw [htarget, ProxyConn.wires_put]
    show ((authenticate env code).on c₁).2.target.written ++ _ ++ _ = _
    rw [hsent, List.append_assoc]
    rfl

/-- A valid pair code makes a first packet of thirteen bytes. -/
theorem length_authService (h : validatePairCode code = .ok ()) :
    (utf8 (authService code)).length = 13 := by
  have h8 := length_of_validatePairCode h
  unfold authService
  unfold utf8 at h8 ⊢
  rw [String.toList_append, List.flatMap_append, List.length_append, h8]
  decide

/-- The proxy admits the hub, and serves what comes behind the pair code. -/
theorem proxy_admits (hwrites : ∀ peer written bytes, proxy.writeFault peer written bytes = none)
    (hcode : validatePairCode proxy.pairCode = .ok ())
    (h : fromHub.items = packetBytes (utf8 (authService proxy.pairCode)) ++ after)
    (adb : Incoming UInt8 IoError) :
    ∃ c, (acceptAuth proxy).on (.start fromHub adb) = (.ok true, c) ∧
      (c.incoming .client).items = after ∧ c.client.written = okayStatus ∧
      c.target = ⟨adb, []⟩ ∧ c.connected = false ∧ c.filtered = 0 := by
  have hlen : (utf8 (authService proxy.pairCode)).length ≤ maxPayload := by
    rw [length_authService hcode]
    decide
  have hread : readPacket.on ((ProxyConn.start fromHub adb).incoming .client).items =
      (.ok (utf8 (authService proxy.pairCode)), after) := by
    show readPacket.on fromHub.items = _
    rw [h]
    exact on_readPacket_packetBytes hlen after
  -- of the environment, admitting looks at the pair code and the writes alone
  have hquiet : ({ proxy with connectError := none, copyFault := none } : ProxyEnv).Undisturbed :=
    ⟨rfl, hwrites, rfl⟩
  obtain ⟨s, hs, hadmit⟩ := acceptAuth_admits hquiet hcode hread
  exact ⟨_, hadmit, hs, rfl, rfl, rfl, rfl⟩

/-- What the proxy writes to a hub that it admits begins with `OKAY`. -/
theorem client_written_of_admitted
    (hwrites : ∀ peer written bytes, proxy.writeFault peer written bytes = none)
    (hcode : validatePairCode proxy.pairCode = .ok ())
    (h : fromHub.items = packetBytes (utf8 (authService proxy.pairCode)) ++ after)
    (adb : Incoming UInt8 IoError) :
    ∃ more, (proxy.outcome fromHub adb).2.client.written = okayStatus ++ more := by
  obtain ⟨c, hadmit, -, hwritten, -⟩ := proxy_admits hwrites hcode h adb
  unfold ProxyEnv.outcome proxyConnection
  rw [Effect.on_bind_ok hadmit]
  simp only [if_true]
  rw [Effect.on_bind_ok (Effect.on_attempt _ _)]
  obtain ⟨s, hs⟩ := recvPacket_leaves .client c
  rcases hrecv : (recvPacket .client).on c with ⟨err | payload, c'⟩
  all_goals
    rw [hrecv] at hs
    obtain rfl : c' = c.setIncoming .client s := hs
    simp only
  · refine ⟨[], ?_⟩
    split_ifs
    all_goals
      rw [List.append_nil, ← hwritten]
      rfl
  · have hbehind : Behind okayStatus (c.setIncoming .client s)
        { c.setIncoming .client s with client := ⟨s, []⟩ } :=
      ⟨rfl, by rw [List.append_nil, ← hwritten]; rfl, rfl, rfl, rfl⟩
    obtain ⟨-, hleft⟩ := serveService_tracks hwrites (fromUtf8Lossy payload) _ _ hbehind
    rw [Effect.snd_on_bind_pure]
    exact ⟨_, hleft.clientOut⟩

/-- The service of a hub that is admitted is served as that of a client connected to the proxy. -/
theorem outcome_of_admitted
    (hwrites : ∀ peer written bytes, proxy.writeFault peer written bytes = none)
    (hcode : validatePairCode proxy.pairCode = .ok ())
    (hfit : (utf8 service).length ≤ maxPayload)
    (h : fromHub.items = packetBytes (utf8 (authService proxy.pairCode)) ++
      (packetBytes (utf8 service) ++ client.items)) (adb : Incoming UInt8 IoError) :
    Behind okayStatus (proxy.outcome fromHub adb).2
      ((serveService proxy service).on (.start client adb)).2 := by
  obtain ⟨c, hadmit, hin, hwritten, htarget, hconnected, hfiltered⟩ :=
    proxy_admits hwrites hcode h adb
  have hpacket : readPacket.on (c.incoming .client).items = (.ok (utf8 service), client.items) := by
    rw [hin]
    exact on_readPacket_packetBytes hfit client.items
  obtain ⟨s, hrecv, hs⟩ := recvPacket_of_items hpacket
  unfold ProxyEnv.outcome proxyConnection
  rw [Effect.on_bind_ok hadmit]
  simp only [if_true]
  rw [Effect.on_bind_ok (Effect.on_attempt _ _), hrecv]
  simp only
  rw [Effect.snd_on_bind_pure, fromUtf8Lossy_utf8]
  have hbehind : Behind okayStatus (c.setIncoming .client s) (.start client adb) := by
    refine ⟨hs, ?_, htarget, hconnected, hfiltered⟩
    rw [ProxyConn.start, List.append_nil]
    exact hwritten
  exact (serveService_tracks hwrites service _ _ hbehind).2

/-- A hub with another pair code is told so and nothing else happens. -/
theorem proxy_refuses (hwrites : ∀ peer written bytes, proxy.writeFault peer written bytes = none)
    (hcode : validatePairCode code = .ok ()) (hne : code ≠ proxy.pairCode)
    (h : fromHub.items = packetBytes (utf8 (authService code)) ++ after)
    (adb : Incoming UInt8 IoError) :
    ∃ c, proxy.outcome fromHub adb = (.ok none, c) ∧
      c.client.written = failStatus ++ packetBytes (utf8 "unauthorized") ∧
      c.target.written = [] ∧ c.connected = false := by
  have hlen : (utf8 (authService code)).length ≤ maxPayload := by
    rw [length_authService hcode]
    decide
  have hread : readPacket.on ((ProxyConn.start fromHub adb).incoming .client).items =
      (.ok (utf8 (authService code)), after) := by
    show readPacket.on fromHub.items = _
    rw [h]
    exact on_readPacket_packetBytes hlen after
  obtain ⟨s, hrecv, -⟩ := recvPacket_of_items hread
  have hrefusal : refusal proxy.pairCode (utf8 (authService code)) = some "unauthorized" := by
    have hparse : parseAuthService (authService code) = .ok code := by
      unfold parseAuthService
      rw [stripPrefix_eq_some_iff.mpr (rfl : authService code = authPrefix ++ code)]
      simp only [hcode, bind, Except.bind]
    have hdiffer : ¬ codesMatch proxy.pairCode code = true := by
      unfold codesMatch
      rw [decide_eq_true_eq]
      exact fun heq => hne heq.symm
    unfold refusal
    rw [fromUtf8_utf8]
    simp only [hparse, if_neg hdiffer]
  have hfail := (putsOut_sendFail proxy .client "unauthorized").on_eq hwrites
    ((ProxyConn.start fromHub adb).setIncoming .client s)
  have haccept : (acceptAuth proxy).on (.start fromHub adb) = (.ok false,
      ((ProxyConn.start fromHub adb).setIncoming .client s).put .client
        (failStatus ++ packetBytes (utf8 "unauthorized"))) := by
    rw [on_acceptAuth, hrecv]
    simp only [hrefusal]
    unfold refuse
    rw [Effect.on_bind_ok hfail]
    rfl
  have houtcome : proxy.outcome fromHub adb = (.ok none,
      ((ProxyConn.start fromHub adb).setIncoming .client s).put .client
        (failStatus ++ packetBytes (utf8 "unauthorized"))) := by
    unfold ProxyEnv.outcome proxyConnection
    rw [Effect.on_bind_ok haccept]
    rfl
  exact ⟨_, houtcome, rfl, rfl, rfl⟩

end sides

/-! ## The hub in between -/

/-- What the client of the hub and the adb server behind the proxy have got. -/
structure Relayed (hub proxy direct : ProxyConn) : Prop where
  client : hub.client.written = direct.client.written
  server : proxy.target.written = direct.target.written
  connected : proxy.connected = direct.connected

/-- The client is told that the pair code is wrong, and the adb server is left alone. -/
structure TurnedAway (addr : SocketAddr) (hub proxy : ProxyConn) : Prop where
  client : hub.client.written =
    failStatus ++ packetBytes (utf8 ("backend " ++ addr.display ++ " auth: " ++ "unauthorized"))
  server : proxy.target.written = []
  connected : proxy.connected = false

/-- **The hub makes no difference.** In every exchange of a session of the hub with a proxy, in
pieces of any length, client and adb server get what they would get if the client were connected to
the proxy itself and asked for the service, if the pair code of the backend is the one of the proxy;
with another pair code the client is told so and the adb server is left alone.
Source: `session.rs`, `forward_session`; `lib.rs`, `proxy_connection`; `auth.rs`. -/
theorem hub_in_between {env proxy : ProxyEnv} (henv : env.Undisturbed)
    (hwrites : ∀ peer written bytes, proxy.writeFault peer written bytes = none)
    {addr : SocketAddr} {code service : String} {client adb : Incoming UInt8 IoError}
    (hproxy : validatePairCode proxy.pairCode = .ok ()) (hcode : validatePairCode code = .ok ())
    (hfit : (utf8 service).length ≤ maxPayload)
    (e : Paired (forwardSession env addr (some code) service) proxy client adb) :
    (code = proxy.pairCode → Relayed e.hub.2 e.proxySide.2
        ((serveService proxy service).on (.start client adb)).2) ∧
      (code ≠ proxy.pairCode → TurnedAway addr e.hub.2 e.proxySide.2) := by
  obtain ⟨rest, hsent⟩ :=
    forwardSession_sends_code henv addr code service client e.toLeft
  have hfirst : e.toRight.items = packetBytes (utf8 (authService code)) ++ rest :=
    e.toRight_items.trans hsent
  constructor
  · rintro rfl
    obtain ⟨more, hokay⟩ := client_written_of_admitted hwrites hproxy hfirst adb
    -- the answer of the proxy begins with OKAY, so the hub goes on to send the service
    have hanswer : e.toLeft.items = okayStatus ++ more := e.toLeft_items.trans hokay
    obtain ⟨hclient, hall⟩ :=
      on_forwardSession_okay henv hanswer addr proxy.pairCode service client
    have hasked := e.toRight_items.trans hall
    -- so the proxy gets the whole of it
    have hbehind := outcome_of_admitted hwrites hproxy hfit hasked adb
    refine ⟨?_, congrArg Duplex.written hbehind.target, hbehind.connected⟩
    have hwritten := hbehind.clientOut
    rw [hokay] at hwritten
    exact hclient.trans (List.append_cancel_left hwritten)
  · intro hne
    obtain ⟨c, houtcome, hfail, hserver, hconnected⟩ :=
      proxy_refuses hwrites hcode hne hfirst adb
    have hanswer : e.toLeft.items = failStatus ++ packetBytes (utf8 "unauthorized") := by
      rw [e.toLeft_items, houtcome]
      exact hfail
    have hreason : (utf8 "unauthorized").length ≤ maxPayload := by decide +kernel
    refine ⟨?_, ?_, ?_⟩
    · exact on_forwardSession_fail henv hreason hanswer addr code service client
    · rw [Paired.proxySide, houtcome]
      exact hserver
    · rw [Paired.proxySide, houtcome]
      exact hconnected

/-- A client asks the adb server behind the proxy for its version, through the hub. -/
def versionExchange : Paired (forwardSession (.undisturbed "") (.loopback 5038) (some "ABCD1234")
    "host:version") (.undisturbed "ABCD1234") (sends (utf8 "more"))
    (sends (utf8 "OKAY00040029")) where
  toLeft := ⟨[utf8 "OKA", utf8 "YOKAY", utf8 "00040029"], none⟩
  toRight := ⟨[utf8 "000dauth:ABCD1234", utf8 "000chost:versionmo", utf8 "re"], none⟩
  toLeft_items := by decide +kernel
  toRight_items := by decide +kernel

theorem version_through_both :
    Relayed versionExchange.hub.2 versionExchange.proxySide.2
      ((serveService (.undisturbed "ABCD1234") "host:version").on
        (.start (sends (utf8 "more")) (sends (utf8 "OKAY00040029")))).2 := by
  have henv : (ProxyEnv.undisturbed "").Undisturbed := ⟨rfl, fun _ _ _ => rfl, rfl⟩
  have hwrites : ∀ peer written bytes,
      (ProxyEnv.undisturbed "ABCD1234").writeFault peer written bytes = none := fun _ _ _ => rfl
  have hcode : validatePairCode "ABCD1234" = .ok () := by decide +kernel
  have hfit : (utf8 "host:version").length ≤ maxPayload := by decide +kernel
  exact (hub_in_between henv hwrites hcode hcode hfit versionExchange).1 rfl

end AdbHub
