import AdbHub.DeviceLists
import AdbHub.Pairing

/-!
# A proxy as a backend

What the hub asks a backend that is an adb-proxy, and what it makes of the answers (`backend.rs`;
`lib.rs`, `proxy_connection`).

* `queryBackend` — a query on the streams of a connection; `queryBackend_eq`: it is the one that
  `Dial` describes, on what arrives.
* **`paired_devices_iff`** — the list of devices that the hub gets is the one of the adb server,
  filtered by the policy of the proxy, exactly if that fits into a packet.
* **`shown_devices_enabled`** — no device that is disabled at the proxy is ever merged into a
  snapshot of the hub.
* **`paired_probe`** — a proxy passes the version check exactly if the pair codes agree.
-/

namespace AdbHub

open Lib Protocol

/-! ## A query on the streams -/

/-- Connect to a backend, send a service, and read the answer. Source: `backend.rs`,
`connect_backend`, and `write_service` behind it. -/
def askBackend {α : Type} (env : ProxyEnv) (pairCode : Option String) (service : String)
    (answer : Connection α) : Connection α := do
  connectTarget env
  authenticateIfPaired env pairCode
  sendService env .target service
  answer

/-- A query. Source: `backend.rs`, `fetch_devices_l` and `fetch_proxy_version`. -/
def queryBackend (env : ProxyEnv) (pairCode : Option String) (service : String) :
    Connection Stream :=
  askBackend env pairCode service (recvOkayPayload .target)

/-- The attempt to contact a backend from which this arrives, in time. -/
def Dial.hearing (toHub : Incoming UInt8 IoError) : Dial where
  incoming := toHub.items
  ended := (toHub.failure.getD .unexpectedEof).text

/-- The same backend, as `Upstream` and as the target of a connection. -/
structure SameBackend (u : Upstream) (c : ProxyConn) : Prop where
  incoming : u.incoming = c.wires.targetIn
  ended : u.ended = ((c.incoming .target).failure.getD .unexpectedEof).text
  faultless : u.outgoing = .faultless u.outgoing.out

/-- The same value and the same backend, or the same error. -/
inductive SameAnswer {α : Type} :
    Except String (α × Upstream) → Except IoError α × ProxyConn → Prop
  | ok (a : α) {u : Upstream} {c : ProxyConn} (h : SameBackend u c) : SameAnswer (.ok (a, u)) (.ok a, c)
  | error (e : IoError) (c : ProxyConn) : SameAnswer (.error e.text) (.error e, c)

section answers

variable {α β : Type} {u : Upstream} {c : ProxyConn} {env : ProxyEnv}

/-- What is returned is the same. -/
theorem SameAnswer.mapError_eq {x : Except String (α × Upstream)}
    {y : Except IoError α × ProxyConn} (h : SameAnswer x y) :
    y.1.mapError IoError.text = x.map Prod.fst := by
  rcases h with ⟨a, hsame⟩ | e
  · rfl
  · rfl

theorem SameAnswer.bind {x : Except String (α × Upstream)} {y : Connection α}
    {f : α × Upstream → Except String (β × Upstream)} {g : α → Connection β}
    (h : SameAnswer x (y.on c))
    (hf : ∀ a u c, SameBackend u c → SameAnswer (f (a, u)) ((g a).on c)) :
    SameAnswer (x >>= f) ((y >>= g).on c) := by
  rcases hy : y.on c with ⟨e | a, c'⟩
  all_goals
    rw [hy] at h
    rcases h with ⟨a, hsame⟩ | e
  · rw [Effect.on_bind_error hy]
    exact .error e c'
  · rw [Effect.on_bind_ok hy]
    exact hf a _ c' hsame

/-- Reading a rest reads from where the first part has stopped. -/
theorem Upstream.read_bind (u : Upstream) (r : Reader α) (f : α → Reader β) :
    u.read (r >>= f) = u.read r >>= fun p => p.2.read (f p.1) := by
  unfold Upstream.read
  rw [Reader.on_bind]
  rcases r.on u.incoming with ⟨e | a, rest⟩
  · rfl
  · rfl

/-- Exactly some bytes are read from both. -/
theorem readExact_answer (h : SameBackend u c) (n : ℕ) :
    SameAnswer (u.read (Protocol.readExact n)) ((recvExact .target n).on c) := by
  unfold Upstream.read
  rw [on_readExact, h.incoming]
  have hfst := fst_fill n (c.incoming .target).pieces
  have hsnd := flatten_snd_fill n (c.incoming .target).pieces
  show SameAnswer _ (((c.incoming .target).readExact .unexpectedEof n).1,
    c.setIncoming .target ((c.incoming .target).readExact .unexpectedEof n).2)
  unfold Incoming.readExact
  rcases hf : fill n (c.incoming .target).pieces with ⟨read, pieces⟩
  rw [hf] at hfst hsnd
  simp only at hfst hsnd
  by_cases hlt : c.wires.targetIn.length < n
  · rw [if_pos hlt]
    obtain rfl : read = none := by
      rw [hfst]
      exact if_pos hlt
    show SameAnswer (.error u.ended) _
    rw [h.ended]
    exact .error _ _
  · rw [if_neg hlt]
    obtain rfl : read = some (c.wires.targetIn.take n) := by
      rw [hfst]
      exact if_neg hlt
    refine .ok _ ⟨?_, h.ended, h.faultless⟩
    exact hsnd.symm

/-- A packet is read from both. -/
theorem readPacket_answer (h : SameBackend u c) :
    SameAnswer (u.read readPacket) ((recvPacket .target).on c) := by
  unfold readPacket recvPacket
  rw [Upstream.read_bind]
  apply (readExact_answer h 4).bind
  intro head u c h
  rcases parseHex4 head with msg | len
  · exact .error (.invalidData msg) c
  · simp only
    split_ifs
    · exact readExact_answer h len
    · exact .ok [] ⟨h.incoming, h.ended, h.faultless⟩

/-- An answer with a body is read from both. -/
theorem readOkayPayload_answer (h : SameBackend u c) :
    SameAnswer (u.read readOkayPayload) ((recvOkayPayload .target).on c) := by
  unfold readOkayPayload recvOkayPayload
  rw [Upstream.read_bind]
  apply (readExact_answer h 4).bind
  intro status u c h
  simp only
  split_ifs
  · exact readPacket_answer h
  · rw [Upstream.read_bind]
    apply (readPacket_answer h).bind
    intro reason u c _
    exact .error (.other (fromUtf8Lossy reason)) c
  · exact .error (.invalidData _) c

/-- A service is sent on a connection on which no write fails. -/
theorem request_faultless (incoming : Stream) (ended : String) (out : Stream) (service : String) :
    (Upstream.mk incoming ended (.faultless out)).request service =
      .ok ⟨incoming, ended, .faultless (out ++ packetBytes (utf8 service))⟩ := by
  unfold Upstream.request writeService
  rw [writePacket_faultless]
  rfl

/-- A service is sent to both. -/
theorem request_answer (henv : env.Undisturbed) (h : SameBackend u c) (service : String) :
    ∃ u' c', u.request service = .ok u' ∧ (sendService env .target service).on c = (.ok (), c') ∧
      SameBackend u' c' := by
  have hrequest := request_faultless u.incoming u.ended u.outgoing.out service
  rw [← h.faultless] at hrequest
  exact ⟨_, _, hrequest, on_sendService henv service c, h.incoming, h.ended, rfl⟩

/-- The pair code is sent to both, and answered alike. -/
theorem authenticate_answer (henv : env.Undisturbed) (h : SameBackend u c) (code : String) :
    SameAnswer (authenticateStream u code >>= fun u => .ok ((), u)) ((authenticate env code).on c) := by
  obtain ⟨u₁, c₁, hrequest, hsend, h₁⟩ := request_answer henv h (authService code)
  unfold authenticateStream authenticate
  rw [Effect.on_bind_ok hsend, hrequest, bind_assoc]
  show SameAnswer ((u₁.read readStatus >>= _) >>= _) _
  rw [bind_assoc]
  apply (readExact_answer h₁ 4).bind
  intro status u c h
  simp only
  split_ifs
  · exact .ok () h
  · rw [bind_assoc]
    apply (readPacket_answer h).bind
    intro reason u c _
    exact .error (.other (fromUtf8Lossy reason)) c
  · exact .error (.invalidData _) c

end answers

/-- **A query is the one that `Dial` describes**: on a connection on which no write fails, the hub
reads what it reads of an attempt from which the same arrives. -/
theorem queryBackend_eq {env : ProxyEnv} (henv : env.Undisturbed) (pairCode : Option String)
    (service : String) (client toHub : Incoming UInt8 IoError) :
    ((queryBackend env pairCode service).on (.start client toHub)).1.mapError IoError.text =
      (connectBackend (.hearing toHub) pairCode >>= fun u =>
        queryPayload (.hearing toHub) u service) := by
  have hstart : SameBackend (Dial.hearing toHub).upstream
      { ProxyConn.start client toHub with connected := true } := ⟨rfl, rfl, rfl⟩
  have hconnect : (connectTarget env).on (.start client toHub) =
      (.ok (), { ProxyConn.start client toHub with connected := true }) := by
    unfold connectTarget
    rw [Effect.on_act, henv.connects]
  have hask : ∀ u c, SameBackend u c →
      SameAnswer (u.request service >>= fun u => u.read readOkayPayload)
        ((do sendService env .target service; recvOkayPayload .target : Connection Stream).on c) := by
    intro u c h
    obtain ⟨u₁, c₁, hrequest, hsend, h₁⟩ := request_answer henv h service
    rw [Effect.on_bind_ok hsend, hrequest]
    exact readOkayPayload_answer h₁
  have hall : SameAnswer (connectBackend (.hearing toHub) pairCode >>= fun u =>
      u.request service >>= fun u => u.read readOkayPayload)
      ((queryBackend env pairCode service).on (.start client toHub)) := by
    unfold queryBackend askBackend
    rw [Effect.on_bind_ok hconnect]
    rcases pairCode with _ | code
    · exact hask _ _ hstart
    · have hauth := (authenticate_answer henv hstart code).bind
        (f := fun p => p.2.request service >>= fun u => u.read readOkayPayload)
        (g := fun _ => do sendService env .target service; recvOkayPayload .target)
        (fun _ u c h => hask u c h)
      rw [bind_assoc] at hauth
      exact hauth
  rw [hall.mapError_eq]
  rcases connectBackend (.hearing toHub) pairCode with e | u
  · rfl
  · show Except.map _ (u.request service >>= _) = queryPayload _ u service
    unfold queryPayload
    rcases u.request service with e | u
    · rfl
    · show Except.map Prod.fst (u.read readOkayPayload) =
        (u.read readOkayPayload >>= fun p => .ok p.1)
      rcases u.read readOkayPayload with e | ⟨body, u⟩
      · rfl
      · rfl

/-! ## Asking a proxy -/

/-- The attempt as which the hub sees an exchange with a backend. -/
def Paired.dial {α : Type} {session : Connection α} {proxy : ProxyEnv}
    {client adb : Incoming UInt8 IoError} (e : Paired session proxy client adb) : Dial :=
  .hearing e.toLeft

/-- What the proxy writes for a service. -/
def served (proxy : ProxyEnv) (service : String) (adb : Incoming UInt8 IoError) : Stream :=
  ((serveService proxy service).on (.start ⟨[], none⟩ adb)).2.client.written

section queries

variable {α : Type} {env : ProxyEnv} {more : Stream} {toHub : Incoming UInt8 IoError}

/-- Behind an `OKAY` for the pair code the answer to the service is read. -/
theorem query_of_okay (h : toHub.items = okayStatus ++ more) (code service : String) :
    (connectBackend (.hearing toHub) (some code) >>= fun u =>
        queryPayload (.hearing toHub) u service) =
      (readOkayPayload.on more).1.mapError (errorText (Dial.hearing toHub).ended) := by
  have hauth : ∀ out, (Upstream.mk toHub.items (Dial.hearing toHub).ended out).read readStatus =
      .ok (okayStatus, ⟨more, (Dial.hearing toHub).ended, out⟩) := by
    intro out
    unfold Upstream.read readStatus
    rw [h, on_readExact_append (by decide : okayStatus.length = 4)]
  have hconnect : connectBackend (.hearing toHub) (some code) =
      .ok ⟨more, (Dial.hearing toHub).ended, .faultless (packetBytes (utf8 (authService code)))⟩ := by
    show authenticateStream ⟨toHub.items, (Dial.hearing toHub).ended, .faultless []⟩ code = _
    unfold authenticateStream
    rw [request_faultless]
    simp only [bind, Except.bind, hauth, if_true, List.nil_append]
  rw [hconnect]
  unfold queryPayload Upstream.read
  simp only [bind, Except.bind, request_faultless]
  rcases readOkayPayload.on more with ⟨e | body, rest⟩
  · rfl
  · rfl

/-- A refused pair code is the result of the query. -/
theorem query_of_fail {reason : String} (hfit : (utf8 reason).length ≤ maxPayload)
    (h : toHub.items = failStatus ++ packetBytes (utf8 reason)) (code service : String) :
    (connectBackend (.hearing toHub) (some code) >>= fun u =>
        queryPayload (.hearing toHub) u service) = .error reason := by
  have hne : failStatus ≠ okayStatus := by decide
  have hauth : ∀ out, (Upstream.mk toHub.items (Dial.hearing toHub).ended out).read readStatus =
      .ok (failStatus, ⟨packetBytes (utf8 reason), (Dial.hearing toHub).ended, out⟩) := by
    intro out
    unfold Upstream.read readStatus
    rw [h, on_readExact_append (by decide : failStatus.length = 4)]
  have hpacket : ∀ out, (Upstream.mk (packetBytes (utf8 reason)) (Dial.hearing toHub).ended
      out).read readPacket = .ok (utf8 reason, ⟨[], (Dial.hearing toHub).ended, out⟩) := by
    intro out
    have hread := on_readPacket_packetBytes hfit []
    rw [List.append_nil] at hread
    unfold Upstream.read
    rw [hread]
  have hconnect : connectBackend (.hearing toHub) (some code) = .error reason := by
    show authenticateStream ⟨toHub.items, (Dial.hearing toHub).ended, .faultless []⟩ code = _
    unfold authenticateStream
    rw [request_faultless]
    simp only [bind, Except.bind, hauth, if_neg hne, if_true, hpacket, fromUtf8Lossy_utf8]
  rw [hconnect]
  rfl

/-- The first packet to the backend is the pair code, whatever is answered. -/
theorem askBackend_sends_code {answer : Connection α}
    (hanswer : answer.Keeps fun c => c.target.written) (henv : env.Undisturbed)
    (code service : String) (client toHub : Incoming UInt8 IoError) :
    ∃ rest, ((askBackend env (some code) service answer).on (.start client toHub)).2.target.written =
      packetBytes (utf8 (authService code)) ++ rest := by
  obtain ⟨c₁, hconnect, hw₁⟩ := on_connectTarget henv.connects (.start client toHub)
  have hnone : c₁.target.written = [] := congrArg Wires.targetOut hw₁
  have hsent := target_written_authenticate henv code c₁
  rw [hnone, List.nil_append] at hsent
  unfold askBackend
  rw [Effect.on_bind_ok hconnect]
  rcases hauth : (authenticateIfPaired env (some code)).on c₁ with ⟨err | u, c₂⟩
  all_goals
    obtain rfl : c₂ = ((authenticate env code).on c₁).2 := (congrArg Prod.snd hauth).symm
  · rw [Effect.on_bind_error hauth]
    exact ⟨[], by rw [List.append_nil]; exact hsent⟩
  · rw [Effect.on_bind_ok hauth, Effect.on_bind_ok (on_sendService henv service _)]
    refine ⟨packetBytes (utf8 service), ?_⟩
    refine Eq.trans (hanswer _) ?_
    rw [← hsent]
    rfl

/-- A hub that is admitted goes on to read the answer, and sends nothing but the service. -/
theorem on_askBackend_okay (henv : env.Undisturbed) (h : toHub.items = okayStatus ++ more)
    (code service : String) (client : Incoming UInt8 IoError) (answer : Connection α) :
    ∃ c, (askBackend env (some code) service answer).on (.start client toHub) = answer.on c ∧
      c.wires = ⟨client.items, [], more,
        packetBytes (utf8 (authService code)) ++ packetBytes (utf8 service)⟩ := by
  obtain ⟨c₁, hconnect, hw₁⟩ := on_connectTarget henv.connects (.start client toHub)
  have hanswer : c₁.wires.targetIn = okayStatus ++ more := by
    rw [hw₁]
    exact h
  obtain ⟨c₂, hauth, hw₂⟩ := on_authenticate_okay henv code hanswer
  refine ⟨c₂.put .target (packetBytes (utf8 service)), ?_, ?_⟩
  · unfold askBackend
    rw [Effect.on_bind_ok hconnect]
    show ((authenticate env code >>= fun _ => _) : Connection α).on c₁ = _
    rw [Effect.on_bind_ok hauth, Effect.on_bind_ok (on_sendService henv service _)]
  · rw [ProxyConn.wires_put, hw₂, hw₁]
    rfl

end queries

section paired

variable {α : Type} {env proxy : ProxyEnv} {code service : String}
  {client adb : Incoming UInt8 IoError} {answer : Connection α}

/-- **Through the right pair code** the hub hears an `OKAY` and what the proxy writes for the
service. -/
theorem heard_of_paired (hanswer : answer.Keeps fun c => c.target.written)
    (henv : env.Undisturbed)
    (hwrites : ∀ peer written bytes, proxy.writeFault peer written bytes = none)
    (hproxy : validatePairCode proxy.pairCode = .ok ())
    (hfit : (utf8 service).length ≤ maxPayload)
    (e : Paired (askBackend env (some proxy.pairCode) service answer) proxy client adb) :
    e.toLeft.items = okayStatus ++ served proxy service adb := by
  obtain ⟨rest, hsent⟩ :=
    askBackend_sends_code hanswer henv proxy.pairCode service client e.toLeft
  have hfirst := e.toRight_items.trans hsent
  obtain ⟨more, hokay⟩ := client_written_of_admitted hwrites hproxy hfirst adb
  have hheard : e.toLeft.items = okayStatus ++ more := e.toLeft_items.trans hokay
  obtain ⟨c, hrun, hwires⟩ :=
    on_askBackend_okay henv hheard proxy.pairCode service client answer
  have hasked : e.toRight.items = packetBytes (utf8 (authService proxy.pairCode)) ++
      (packetBytes (utf8 service) ++ (⟨[], none⟩ : Incoming UInt8 IoError).items) := by
    rw [e.toRight_items, hrun]
    refine (hanswer c).trans ((congrArg Wires.targetOut hwires).trans ?_)
    exact congrArg _ (List.append_nil _).symm
  have hbehind := (outcome_of_admitted hwrites hproxy hfit hasked adb).clientOut
  exact e.toLeft_items.trans hbehind

/-- **With another pair code** it hears a refusal. -/
theorem heard_of_refused (hanswer : answer.Keeps fun c => c.target.written)
    (henv : env.Undisturbed)
    (hwrites : ∀ peer written bytes, proxy.writeFault peer written bytes = none)
    (hcode : validatePairCode code = .ok ()) (hne : code ≠ proxy.pairCode)
    (e : Paired (askBackend env (some code) service answer) proxy client adb) :
    e.toLeft.items = failStatus ++ packetBytes (utf8 "unauthorized") := by
  obtain ⟨rest, hsent⟩ := askBackend_sends_code hanswer henv code service client e.toLeft
  obtain ⟨c, houtcome, hfail, -, -⟩ :=
    proxy_refuses hwrites hcode hne (e.toRight_items.trans hsent) adb
  rw [e.toLeft_items, houtcome]
  exact hfail

/-- A query through the right pair code gets what the proxy writes for the service. -/
theorem paired_query (henv : env.Undisturbed)
    (hwrites : ∀ peer written bytes, proxy.writeFault peer written bytes = none)
    (hproxy : validatePairCode proxy.pairCode = .ok ())
    (hfit : (utf8 service).length ≤ maxPayload)
    (e : Paired (queryBackend env (some proxy.pairCode) service) proxy client adb) :
    e.hub.1.mapError IoError.text =
      (readOkayPayload.on (served proxy service adb)).1.mapError (errorText e.dial.ended) :=
  (queryBackend_eq henv _ _ client e.toLeft).trans (query_of_okay
    (heard_of_paired (recvOkayPayload_keeps .target) henv hwrites hproxy hfit e) _ _)

/-- With another pair code the hub is told so. -/
theorem paired_query_refused (henv : env.Undisturbed)
    (hwrites : ∀ peer written bytes, proxy.writeFault peer written bytes = none)
    (hcode : validatePairCode code = .ok ()) (hne : code ≠ proxy.pairCode)
    (e : Paired (queryBackend env (some code) service) proxy client adb) :
    e.hub.1.mapError IoError.text = .error "unauthorized" :=
  (queryBackend_eq henv _ _ client e.toLeft).trans (query_of_fail (by decide +kernel)
    (heard_of_refused (recvOkayPayload_keeps .target) henv hwrites hcode hne e) _ _)

end paired

/-! ## The list of devices -/

/-- What is read of the target changes nothing else of a connection. -/
theorem recvOkayPayload_rest :
    (recvOkayPayload .target).Keeps fun c => (c.client, c.filtered) := by
  have hexact : ∀ n, (recvExact .target n).Keeps fun c => (c.client, c.filtered) :=
    fun n c => rfl
  have hpacket : (recvPacket .target).Keeps fun c => (c.client, c.filtered) := by
    unfold recvPacket
    apply (hexact 4).bind
    intro head
    rcases parseHex4 head with msg | len
    · exact Effect.keeps_throw _
    · simp only
      split_ifs
      · exact hexact len
      · exact Effect.keeps_pure _
  unfold recvOkayPayload
  apply (hexact 4).bind
  intro status
  split_ifs
  · exact hpacket
  · exact hpacket.bind fun _ => Effect.keeps_throw _
  · exact Effect.keeps_throw _

/-- The list of an adb server, as the proxy shows it. -/
def shownList (proxy : ProxyEnv) (body : Stream) : String :=
  filterDevicesBody (fromUtf8Lossy body) (proxy.refresh 0).isEnabled

/-- **What the proxy writes for a list**: the filtered list of the adb server, or nothing. -/
theorem served_list {proxy : ProxyEnv}
    (hwrites : ∀ peer written bytes, proxy.writeFault peer written bytes = none)
    (adb : Incoming UInt8 IoError) :
    served proxy "host:devices-l" adb =
      match proxy.connectError, (readOkayPayload.on adb.items).1 with
      | none, .ok body => okayStatus ++ packetBytes (utf8 (shownList proxy body))
      | _, _ => [] := by
  have haction : proxyAction proxy.policy "host:devices-l" = .filterList "host:devices-l" := by
    have hserial : transportSerial "host:devices-l" = none := by decide +kernel
    unfold proxyAction
    rw [if_neg (by decide +kernel), hserial]
    rfl
  unfold served serveService
  rw [haction]
  simp only
  rcases hconnects : proxy.connectError with _ | err
  swap
  · have hconnect : (connectTarget proxy).on (.start ⟨[], none⟩ adb) =
        (.error err, .start ⟨[], none⟩ adb) := by
      unfold connectTarget
      rw [Effect.on_act, hconnects]
    rw [Effect.on_bind_error hconnect]
    rfl
  set c₀ : ProxyConn := { ProxyConn.start ⟨[], none⟩ adb with connected := true } with hc₀
  have hconnect : (connectTarget proxy).on (.start ⟨[], none⟩ adb) = (.ok (), c₀) := by
    unfold connectTarget
    rw [Effect.on_act, hconnects]
  have hsend : (sendService proxy .target "host:devices-l").on c₀ =
      (.ok (), c₀.put .target (packetBytes (utf8 "host:devices-l"))) :=
    (putsOut_sendPacket proxy .target _).on_eq hwrites c₀
  set c₁ := c₀.put .target (packetBytes (utf8 "host:devices-l")) with hc₁
  have hbackend : SameBackend ⟨adb.items, _, .faultless []⟩ c₁ := ⟨rfl, rfl, rfl⟩
  have hvalue := (readOkayPayload_answer hbackend).mapError_eq
  have hkeeps := recvOkayPayload_rest c₁
  rw [Effect.on_bind_ok hconnect, Effect.on_bind_ok hsend]
  unfold Upstream.read at hvalue
  rcases hread : readOkayPayload.on adb.items with ⟨err | body, rest⟩
  all_goals
    rcases hrecv : (recvOkayPayload .target).on c₁ with ⟨err' | body', c₂⟩
    all_goals
      rw [hrecv, hread] at hvalue
      rw [hrecv] at hkeeps
      obtain ⟨hclient, hfiltered⟩ := Prod.mk.inj hkeeps
  · rw [Effect.on_bind_error hrecv]
    exact congrArg Duplex.written hclient
  · cases hvalue
  · cases hvalue
  · obtain rfl : body' = body := Except.ok.inj hvalue
    have hlist : (filteredBody proxy body').on c₂ =
        (.ok (utf8 (shownList proxy body')), { c₂ with filtered := c₂.filtered + 1 }) := by
      unfold filteredBody shownList
      rw [Effect.on_act, show c₂.filtered = 0 from hfiltered]
    have hput := (putsOut_sendOkayPayload proxy .client (utf8 (shownList proxy body'))).on_eq hwrites
      { c₂ with filtered := c₂.filtered + 1 }
    rw [Effect.on_bind_ok hrecv, Effect.on_bind_ok hlist, Effect.on_bind_ok hput]
    show c₂.client.written ++ _ = _
    rw [show c₂.client.written = [] from congrArg Duplex.written hclient]
    rfl

/-- What is made of the answer to a query is made of its result. -/
theorem query_map {β : Type} (dial : Dial) (code : Option String) (service : String)
    (f : Stream → β) :
    (connectBackend dial code >>= fun u => queryPayload dial u service >>= fun body =>
        (.ok (f body) : Except String β)) =
      (connectBackend dial code >>= fun u => queryPayload dial u service).map f := by
  rcases connectBackend dial code with err | u
  · rfl
  · show (queryPayload dial u service >>= _) = Except.map f (queryPayload dial u service)
    rcases queryPayload dial u service with err | body
    · rfl
    · rfl

section devices

variable {env proxy : ProxyEnv} {code : String} {client adb : Incoming UInt8 IoError}
  {body rest : Stream}

/-- The list of devices is what the query returns, as text. -/
theorem fetchDevicesL_dial (henv : env.Undisturbed)
    (e : Paired (queryBackend env (some code) "host:devices-l") proxy client adb) :
    fetchDevicesL e.dial (some code) = (e.hub.1.mapError IoError.text).map fromUtf8Lossy := by
  have hquery := queryBackend_eq henv (some code) "host:devices-l" client e.toLeft
  unfold Paired.hub
  rw [hquery]
  exact query_map e.dial (some code) "host:devices-l" fromUtf8Lossy

/-- **The list through both, exactly.** In every exchange, in pieces of any length, the hub gets the
list of the adb server filtered by the policy of the proxy iff that list fits into a packet.
Source: `backend.rs`, `fetch_devices_l`; `lib.rs`, `proxy_connection`. -/
theorem paired_devices_iff (henv : env.Undisturbed)
    (hwrites : ∀ peer written bytes, proxy.writeFault peer written bytes = none)
    (hconnects : proxy.connectError = none) (hproxy : validatePairCode proxy.pairCode = .ok ())
    (e : Paired (queryBackend env (some proxy.pairCode) "host:devices-l") proxy client adb)
    (hlist : readOkayPayload.on adb.items = (.ok body, rest)) :
    fetchDevicesL e.dial (some proxy.pairCode) = .ok (shownList proxy body) ↔
      (utf8 (shownList proxy body)).length ≤ maxPayload := by
  have hserved := served_list hwrites adb
  rw [hconnects, hlist] at hserved
  rw [fetchDevicesL_dial henv e,
    paired_query henv hwrites hproxy (by decide +kernel) e, hserved]
  simp only
  rw [on_readOkayPayload_okay]
  constructor
  · intro hok
    by_contra hlong
    obtain ⟨q, r, hread, hq⟩ := on_readPacket_long (Nat.lt_of_not_le hlong) []
    rw [List.append_nil] at hread
    rw [hread] at hok
    -- of a longer list a sixteenth is read at most
    have hsame : fromUtf8Lossy q = shownList proxy body := Except.ok.inj hok
    have hle := length_fromUtf8Lossy_le q
    rw [hsame] at hle
    unfold maxPayload at hlong
    omega
  · intro hfit
    have hread := on_readPacket_packetBytes hfit []
    rw [List.append_nil] at hread
    rw [hread]
    show Except.ok _ = _
    rw [fromUtf8Lossy_utf8]

/-- A proxy at which `A0001XX` is disabled, in front of an adb server with two devices. -/
def lentOffice : ProxyEnv :=
  { ProxyEnv.undisturbed "ABCD1234" with
    refresh := fun _ => DevicePolicyTable.empty.setEnabled "A0001XX" false }

/-- The list of that adb server. -/
def officeList : Stream := utf8 "A0001XX\tdevice\nB0002YY\tdevice\n"

/-- The hub asks it for its devices. -/
def officeExchange : Paired (queryBackend (.undisturbed "") (some "ABCD1234") "host:devices-l")
    lentOffice (sends []) (sends (okayStatus ++ packetBytes officeList)) where
  toLeft := ⟨[utf8 "OKA", utf8 "YOKAY00", utf8 "0fB0002YY\tdevice\n"], none⟩
  toRight := ⟨[utf8 "000dauth:ABCD1", utf8 "234000ehost:devices-l"], none⟩
  toLeft_items := by decide +kernel
  toRight_items := by decide +kernel

theorem office_lists_enabled :
    fetchDevicesL officeExchange.dial (some "ABCD1234") = .ok (shownList lentOffice officeList) := by
  have henv : (ProxyEnv.undisturbed "").Undisturbed := ⟨rfl, fun _ _ _ => rfl, rfl⟩
  have hwrites : ∀ peer written bytes, lentOffice.writeFault peer written bytes = none :=
    fun _ _ _ => rfl
  have hcode : validatePairCode lentOffice.pairCode = .ok () := by decide +kernel
  have hread : readOkayPayload.on (sends (okayStatus ++ packetBytes officeList)).items =
      (.ok officeList, []) := by decide +kernel
  have hfit : (utf8 (shownList lentOffice officeList)).length ≤ maxPayload := by decide +kernel
  exact (paired_devices_iff henv hwrites rfl hcode officeExchange hread).mpr hfit

/-- The list the adb server answers with, once filtered, fits into a packet. -/
def ListsFit (proxy : ProxyEnv) (adb : Incoming UInt8 IoError) : Prop :=
  ∀ body rest, readOkayPayload.on adb.items = (.ok body, rest) →
    (utf8 (shownList proxy body)).length ≤ maxPayload

/-- A body that was stored for a backend: nothing, or the list that was fetched in an exchange with
this proxy, whose adb server sent `adb`. Whether that list arrives as it was sent is another matter:
`ListsFit`. -/
def PolledFrom (proxy : ProxyEnv) (adb : Incoming UInt8 IoError) (backend : BackendConfig)
    (body : String) : Prop :=
  body = "" ∨ ∃ (env : ProxyEnv) (code : String) (client : Incoming UInt8 IoError)
    (e : Paired (queryBackend env (some code) "host:devices-l") proxy client adb),
    env.Undisturbed ∧ backend.pairCode = some code ∧ validatePairCode code = .ok () ∧
      fetchDevicesL e.dial (some code) = .ok body

/-- A polled body reports enabled devices only. -/
theorem isEnabled_of_polled (hwrites : ∀ peer written bytes,
      proxy.writeFault peer written bytes = none) (hproxy : validatePairCode proxy.pairCode = .ok ())
    (hfits : ListsFit proxy adb) {backend : BackendConfig} {text serial state : String}
    (h : PolledFrom proxy adb backend text) (hreports : Reports text serial state) :
    (proxy.refresh 0).isEnabled serial = true := by
  obtain ⟨line, hline, extras, hparse⟩ := hreports
  rcases h with rfl | ⟨env, code, client, e, henv, -, hcode, hfetch⟩
  · have hnone : lines "" = [] := by decide +kernel
    rw [hnone] at hline
    cases hline
  · by_cases hne : code = proxy.pairCode
    · subst hne
      rw [fetchDevicesL_dial henv e, paired_query henv hwrites hproxy (by decide +kernel) e,
        served_list hwrites adb] at hfetch
      have hshort : ∀ err : ProtocolError → String,
          ((readOkayPayload.on []).1.mapError err).map fromUtf8Lossy ≠ .ok text := by
        intro err
        have hempty : (readOkayPayload.on []).1 = .error .unexpectedEof := by decide +kernel
        rw [hempty]
        exact fun h => by cases h
      rcases hconnects : proxy.connectError with _ | err
      swap
      · rw [hconnects] at hfetch
        exact absurd hfetch (hshort _)
      rcases hread : readOkayPayload.on adb.items with ⟨err | body, rest⟩
      all_goals rw [hconnects, hread] at hfetch
      · exact absurd hfetch (hshort _)
      · have hpacket := on_readPacket_packetBytes (hfits body rest hread) []
        rw [List.append_nil] at hpacket
        simp only at hfetch
        rw [on_readOkayPayload_okay, hpacket] at hfetch
        obtain rfl : shownList proxy body = text := by
          have hsame : fromUtf8Lossy (utf8 (shownList proxy body)) = text := Except.ok.inj hfetch
          rw [← hsame, fromUtf8Lossy_utf8]
        -- what is read of a filtered list is what is read of the list, filtered
        have hmem : (serial, state, extras) ∈
            (lines (shownList proxy body)).filterMap parseDeviceLine :=
          List.mem_filterMap.mpr ⟨line, hline, hparse⟩
        unfold shownList at hmem
        rw [parse_filterDevicesBody] at hmem
        exact (List.mem_filter.mp hmem).2
    · rw [fetchDevicesL_dial henv e, paired_query_refused henv hwrites hcode hne e] at hfetch
      cases hfetch

/-- **No disabled device is shown.** Whatever the adb servers behind the proxies list, as long as a
filtered list fits into a packet, and whichever polls have failed, a device in the snapshot of the
hub is one of a polled backend, and enabled by the policy of the proxy that is this backend.
Source: `lib.rs`, `proxy_connection`; `backend.rs`, `fetch_devices_l`; `registry.rs`,
`merge_device_lists`. -/
theorem shown_devices_enabled {lists : List (BackendConfig × String)}
    {proxyOf : BackendConfig → ProxyEnv} {answerOf : BackendConfig × String → Incoming UInt8 IoError}
    (hwrites : ∀ backend peer written bytes, (proxyOf backend).writeFault peer written bytes = none)
    (hproxy : ∀ backend, validatePairCode (proxyOf backend).pairCode = .ok ())
    (hfits : ∀ p ∈ lists, ListsFit (proxyOf p.1) (answerOf p))
    (h : ∀ p ∈ lists, PolledFrom (proxyOf p.1) (answerOf p) p.1 p.2) {d : DeviceEntry}
    (hd : d ∈ (mergeDeviceLists lists).devices) :
    ∃ p ∈ lists, d.backendName = p.1.name ∧ d.backendAddr = p.1.addr ∧ d.pairCode = p.1.pairCode ∧
      ((proxyOf p.1).refresh 0).isEnabled d.upstreamSerial = true := by
  obtain ⟨p, hp, hentry⟩ := exists_parsed_of_mem hd
  obtain ⟨body, hmem, hreports⟩ := exists_body_of_parsed hp
  have henabled := isEnabled_of_polled (hwrites p.backend) (hproxy p.backend)
    (hfits (p.backend, body) hmem) (h (p.backend, body) hmem) hreports
  unfold IsEntryOf at hentry
  rw [hentry]
  exact ⟨(p.backend, body), hmem, rfl, rfl, rfl, henabled⟩

/-- A hub that polls that proxy shows the other device. -/
theorem office_shows_enabled :
    ∃ p ∈ [((⟨"office", .loopback 5038, some "ABCD1234", true⟩ : BackendConfig),
        "B0002YY\tdevice\n")],
      "office" = p.1.name ∧ SocketAddr.loopback 5038 = p.1.addr ∧ some "ABCD1234" = p.1.pairCode ∧
        (lentOffice.refresh 0).isEnabled "B0002YY" = true := by
  have henv : (ProxyEnv.undisturbed "").Undisturbed := ⟨rfl, fun _ _ _ => rfl, rfl⟩
  have hcode : validatePairCode lentOffice.pairCode = .ok () := by decide +kernel
  have hread : readOkayPayload.on (sends (okayStatus ++ packetBytes officeList)).items =
      (.ok officeList, []) := by decide +kernel
  have hfits : ListsFit lentOffice (sends (okayStatus ++ packetBytes officeList)) := by
    intro body rest h
    rw [hread] at h
    obtain rfl := Except.ok.inj (Prod.mk.inj h).1
    decide +kernel
  have hfetch : fetchDevicesL officeExchange.dial (some "ABCD1234") =
      .ok "B0002YY\tdevice\n" := by decide +kernel
  have hpolled : ∀ p ∈ [((⟨"office", .loopback 5038, some "ABCD1234", true⟩ : BackendConfig),
      "B0002YY\tdevice\n")],
      PolledFrom lentOffice (sends (okayStatus ++ packetBytes officeList)) p.1 p.2 := by
    intro p hp
    obtain rfl := List.mem_singleton.mp hp
    exact .inr ⟨_, _, _, officeExchange, henv, rfl, hcode, hfetch⟩
  have hshown : (⟨"B0002YY", "B0002YY", "device", "", "office", .loopback 5038, some "ABCD1234",
      none⟩ : DeviceEntry) ∈ (mergeDeviceLists
        [(⟨"office", .loopback 5038, some "ABCD1234", true⟩, "B0002YY\tdevice\n")]).devices := by
    decide +kernel
  exact shown_devices_enabled (fun _ _ _ _ => rfl) (fun _ => hcode) (fun _ _ => hfits) hpolled hshown

/-- What the proxy writes for a version probe. -/
theorem served_version
    (hwrites : ∀ peer written bytes, proxy.writeFault peer written bytes = none) :
    served proxy proxyVersionService adb = okayStatus ++ packetBytes (utf8 proxyVersion) := by
  have haction : proxyAction proxy.policy proxyVersionService = .answer proxyVersion := by
    unfold proxyAction
    rw [if_pos rfl]
  unfold served serveService
  rw [haction]
  simp only
  rw [Effect.on_bind_ok ((putsOut_sendOkayPayload proxy .client _).on_eq hwrites _)]
  rfl

/-- **The version check, end to end.** In every exchange the hub learns the version of the proxy,
and accepts it, with the pair code of the proxy; with another one it learns nothing but that it is
not the right one.
Source: `backend.rs`, `check_proxy_compat`; `lib.rs`, `proxy_connection`; `compat.rs`. -/
theorem paired_probe (henv : env.Undisturbed)
    (hwrites : ∀ peer written bytes, proxy.writeFault peer written bytes = none)
    (hproxy : validatePairCode proxy.pairCode = .ok ()) (hcode : validatePairCode code = .ok ())
    (e : Paired (queryBackend env (some code) proxyVersionService) proxy client adb) :
    checkProxyCompat e.dial (some code) =
      if code = proxy.pairCode then .ok proxyVersion else .unknown "unauthorized" := by
  have hfetch : fetchProxyVersion e.dial (some code) =
      (e.hub.1.mapError IoError.text).map fun body => trim (fromUtf8Lossy body) := by
    have hquery := queryBackend_eq henv (some code) proxyVersionService client e.toLeft
    unfold Paired.hub
    rw [hquery]
    exact query_map e.dial (some code) proxyVersionService fun body => trim (fromUtf8Lossy body)
  unfold checkProxyCompat
  rw [hfetch]
  by_cases hsame : code = proxy.pairCode
  · subst hsame
    have hpacket : readPacket.on (packetBytes (utf8 proxyVersion)) = (.ok (utf8 proxyVersion), []) := by
      have hread := on_readPacket_packetBytes
        (by decide +kernel : (utf8 proxyVersion).length ≤ maxPayload) []
      rw [List.append_nil] at hread
      exact hread
    rw [paired_query henv hwrites hproxy (by decide +kernel) e, served_version hwrites,
      on_readOkayPayload_okay, hpacket, if_pos rfl]
    show evaluateProxyVersion (trim (fromUtf8Lossy (utf8 proxyVersion))) = _
    rw [fromUtf8Lossy_utf8]
    decide +kernel
  · rw [paired_query_refused henv hwrites hcode hsame e, if_neg hsame]
    rfl

end devices

/-- The hub asks that proxy for its version. -/
def probeExchange : Paired (queryBackend (.undisturbed "") (some "ABCD1234") proxyVersionService)
    lentOffice (sends []) (sends []) where
  toLeft := ⟨[utf8 "OKAYOKAY", utf8 "00050.4.5"], none⟩
  toRight := ⟨[utf8 "000dauth:ABCD1234000d", utf8 "proxy:version"], none⟩
  toLeft_items := by decide +kernel
  toRight_items := by decide +kernel

theorem office_version :
    checkProxyCompat probeExchange.dial (some "ABCD1234") = .ok proxyVersion := by
  have henv : (ProxyEnv.undisturbed "").Undisturbed := ⟨rfl, fun _ _ _ => rfl, rfl⟩
  have hcode : validatePairCode "ABCD1234" = .ok () := by decide +kernel
  exact (paired_probe henv (fun _ _ _ => rfl) hcode hcode probeExchange).trans (if_pos rfl)

end AdbHub
