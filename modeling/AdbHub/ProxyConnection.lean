import AdbHub.HubConfig
import AdbHub.Lib.Effect
import AdbHub.Lib.Incoming
import AdbHub.Protocol
import AdbHub.Proxy

/-!
# One connection to adb-proxy

What adb-proxy does on one client connection: the pair code, the first service, and the
connection to the target (`lib.rs`, `proxy_connection`; `auth.rs`).

* `ProxyConn`, `Connection` — the two streams of a connection, and programs over them. The bytes
  arrive in pieces of any length, a stream ends or fails anywhere, and any write may fail half-way.
* `acceptAuth`, `serveService`, `proxyConnection` — as the source has them; what is done with a
  service is `proxyAction`.
* **`auth_gate`** — without the pair code in the first packet nothing but a refusal happens, and
  the refusal does not depend on the pair code.
* **`forwards_exactly_iff`** — what the target receives is the service of the client and
  everything behind it exactly if the service is valid UTF-8.
-/

namespace AdbHub

open Lib Protocol

/-! ## Streams of a connection -/

/-- An error of an I/O function, as far as the proxy distinguishes them. Source: `io::Error`. -/
inductive IoError
  | unexpectedEof
  /-- `BrokenPipe`, `ConnectionReset` or `ConnectionAborted`. -/
  | disconnected (text : String)
  | invalidData (text : String)
  | other (text : String)
  deriving DecidableEq

/-- Source: `lib.rs`, `is_benign_io`. -/
def IoError.isBenign : IoError → Bool
  | .unexpectedEof | .disconnected _ => true
  | .invalidData _ | .other _ => false

/-- The two ends the proxy is connected to. -/
inductive Peer
  | client
  | target
  deriving DecidableEq

/-- One connected stream: what the peer still sends, and what was written to it. -/
structure Duplex where
  incoming : Incoming UInt8 IoError
  written : Stream := []

/-- The state of `proxy_connection`. -/
structure ProxyConn where
  client : Duplex
  target : Duplex
  /-- The connection to the target was opened. -/
  connected : Bool := false
  /-- How many device lists were filtered. -/
  filtered : ℕ := 0

namespace ProxyConn

/-- The stream of one end. -/
def duplex (c : ProxyConn) : Peer → Duplex
  | .client => c.client
  | .target => c.target

/-- The connection with another stream for one end. -/
def setDuplex (c : ProxyConn) (d : Duplex) : Peer → ProxyConn
  | .client => { c with client := d }
  | .target => { c with target := d }

/-- The connection after something was written. -/
def put (c : ProxyConn) (peer : Peer) (bytes : Stream) : ProxyConn :=
  c.setDuplex { c.duplex peer with written := (c.duplex peer).written ++ bytes } peer

/-- The connection with something else still to come. -/
def setIncoming (c : ProxyConn) (peer : Peer) (s : Incoming UInt8 IoError) : ProxyConn :=
  c.setDuplex { c.duplex peer with incoming := s } peer

/-- What an end still sends. -/
def incoming (c : ProxyConn) (peer : Peer) : Incoming UInt8 IoError := (c.duplex peer).incoming

/-- A connection that was just accepted. -/
def start (client target : Incoming UInt8 IoError) : ProxyConn :=
  ⟨⟨client, []⟩, ⟨target, []⟩, false, 0⟩

end ProxyConn

/-- A program over the streams of a connection. -/
abbrev Connection := Effect IoError ProxyConn

/-- What a connection depends on besides the bytes that arrive. -/
structure ProxyEnv where
  /-- The pair code the proxy expects. -/
  pairCode : String
  /-- The policy in force when the first service is looked at.
  Source: `proxy_config.rs`, `ReloadableProxyPolicy::is_enabled`. -/
  policy : DevicePolicyTable
  /-- The policy in force when a device list is filtered; the file may change in between.
  Source: `proxy_config.rs`, `ReloadableProxyPolicy::refresh`. -/
  refresh : ℕ → DevicePolicyTable
  /-- Why the target cannot be connected to, if it cannot. -/
  connectError : Option IoError
  /-- Where a write fails: what was written before, and the bytes that are to be written. Some of
  these are out already. -/
  writeFault : Peer → Stream → Stream → Option (ℕ × IoError)
  /-- Where the copying breaks off: how many bytes of the client and of the target were passed
  on. -/
  copyFault : Option (ℕ × ℕ × IoError)

namespace ProxyConn

variable (c : ProxyConn) (peer : Peer)

@[simp] theorem incoming_setIncoming (s : Incoming UInt8 IoError) :
    (c.setIncoming peer s).incoming peer = s := by
  cases peer <;> rfl

@[simp] theorem setIncoming_setIncoming (s t : Incoming UInt8 IoError) :
    (c.setIncoming peer s).setIncoming peer t = c.setIncoming peer t := by
  cases peer <;> rfl

@[simp] theorem duplex_put (bytes : Stream) : (c.put peer bytes).duplex peer =
    { c.duplex peer with written := (c.duplex peer).written ++ bytes } := by
  cases peer <;> rfl

theorem put_put (a b : Stream) : (c.put peer a).put peer b = c.put peer (a ++ b) := by
  cases peer <;> simp [put, setDuplex, duplex]

end ProxyConn

/-! ## Reading and writing -/

/-- Source: `AsyncReadExt::read_exact`. -/
def recvExact (peer : Peer) (n : ℕ) : Connection Stream :=
  Effect.act fun c =>
    (((c.incoming peer).readExact .unexpectedEof n).1,
      c.setIncoming peer ((c.incoming peer).readExact .unexpectedEof n).2)

/-- Source: `protocol.rs`, `read_packet`, on a connection. -/
def recvPacket (peer : Peer) : Connection Stream := do
  let lenBuf ← recvExact peer 4
  match parseHex4 lenBuf with
  | .error msg => throw (.invalidData msg)
  | .ok len => if len > 0 then recvExact peer len else return []

/-- Source: `protocol.rs`, `read_okay_payload`, on a connection. -/
def recvOkayPayload (peer : Peer) : Connection Stream := do
  let status ← recvExact peer 4
  if status = okayStatus then recvPacket peer
  else if status = failStatus then do
    let reason ← recvPacket peer
    throw (.other (fromUtf8Lossy reason))
  else throw (.invalidData
    ("unexpected status: " ++ debugStr ((fromUtf8 status).getD "?")))

/-- Source: `AsyncWriteExt::write_all`. -/
def sendAll (env : ProxyEnv) (peer : Peer) (bytes : Stream) : Connection Unit :=
  Effect.act fun c =>
    match env.writeFault peer (c.duplex peer).written bytes with
    | some (n, e) => (.error e, c.put peer (bytes.take n))
    | none => (.ok (), c.put peer bytes)

/-- Source: `protocol.rs`, `write_packet`. -/
def sendPacket (env : ProxyEnv) (peer : Peer) (payload : Stream) : Connection Unit := do
  sendAll env peer (lowerHex4 payload.length)
  sendAll env peer payload

/-- Source: `protocol.rs`, `write_service`. -/
def sendService (env : ProxyEnv) (peer : Peer) (service : String) : Connection Unit :=
  sendPacket env peer (utf8 service)

/-- Source: `protocol.rs`, `write_okay`. -/
def sendOkay (env : ProxyEnv) (peer : Peer) : Connection Unit := sendAll env peer okayStatus

/-- Source: `protocol.rs`, `write_fail`. -/
def sendFail (env : ProxyEnv) (peer : Peer) (reason : String) : Connection Unit := do
  sendAll env peer failStatus
  sendPacket env peer (utf8 reason)

/-- Source: `protocol.rs`, `write_okay_payload`. -/
def sendOkayPayload (env : ProxyEnv) (peer : Peer) (payload : Stream) : Connection Unit := do
  sendOkay env peer
  sendPacket env peer payload

section streams

variable {env : ProxyEnv} {peer : Peer} {c c' : ProxyConn} {p r : Stream}

/-- Reading a packet changes nothing but what still comes. -/
theorem recvPacket_leaves (peer : Peer) (c : ProxyConn) :
    ∃ s, ((recvPacket peer).on c).2 = c.setIncoming peer s := by
  have hexact : ∀ (n : ℕ) (c : ProxyConn),
      ∃ s, ((recvExact peer n).on c).2 = c.setIncoming peer s := fun n c => ⟨_, rfl⟩
  unfold recvPacket
  rcases hhead : (recvExact peer 4).on c with ⟨e | h, c'⟩
  · rw [Effect.on_bind_error hhead]
    obtain ⟨s, hs⟩ := hexact 4 c
    rw [hhead] at hs
    exact ⟨s, hs⟩
  · rw [Effect.on_bind_ok hhead]
    obtain ⟨s, hs⟩ := hexact 4 c
    rw [hhead] at hs
    obtain rfl : c' = c.setIncoming peer s := hs
    rcases parseHex4 h with msg | len
    · exact ⟨s, rfl⟩
    · by_cases hpos : len > 0
      · obtain ⟨t, ht⟩ := hexact len (c.setIncoming peer s)
        refine ⟨t, ?_⟩
        simp only [if_pos hpos, ht, ProxyConn.setIncoming_setIncoming]
      · refine ⟨s, ?_⟩
        simp only [if_neg hpos, Effect.on_pure]

/-- **The pieces make no difference**: a packet is read off a connection as `read_packet` reads it
off the whole stream. -/
theorem recvPacket_ok (h : (recvPacket peer).on c = (.ok p, c')) :
    readPacket.on (c.incoming peer).items = (.ok p, (c'.incoming peer).items) := by
  unfold recvPacket at h
  rcases hhead : (recvExact peer 4).on c with ⟨e | head, c₁⟩
  · rw [Effect.on_bind_error hhead] at h
    simp at h
  · rw [Effect.on_bind_ok hhead] at h
    obtain ⟨hread, rfl⟩ := Prod.mk.inj hhead
    obtain ⟨hlen, hitems, -⟩ := Incoming.readExact_ok (Prod.ext hread rfl)
    rw [on_readPacket_eq_ok_iff]
    refine ⟨head, ?_, hlen, ?_⟩
    all_goals rcases hv : parseHex4 head with msg | len
    all_goals simp only [hv] at h
    · simp at h
    · by_cases hpos : len > 0
      · rw [if_pos hpos] at h
        obtain ⟨hbody, rfl⟩ := Prod.mk.inj h
        obtain ⟨-, hrest, -⟩ := Incoming.readExact_ok (Prod.ext hbody rfl)
        rw [ProxyConn.incoming_setIncoming] at hrest
        rw [hitems, hrest, List.append_assoc]
        simp
      · rw [if_neg hpos] at h
        obtain ⟨hp, rfl⟩ := Prod.mk.inj h
        obtain rfl := Except.ok.inj hp
        simpa using hitems
    · simp at h
    · by_cases hpos : len > 0
      · rw [if_pos hpos] at h
        obtain ⟨hbody, rfl⟩ := Prod.mk.inj h
        obtain ⟨hplen, -, -⟩ := Incoming.readExact_ok (Prod.ext hbody rfl)
        rw [hplen]
      · rw [if_neg hpos] at h
        obtain ⟨hp, rfl⟩ := Prod.mk.inj h
        obtain rfl := Except.ok.inj hp
        obtain rfl : len = 0 := by omega
        rfl

/-- A packet at the front of the stream is read. -/
theorem recvPacket_of_items (h : readPacket.on (c.incoming peer).items = (.ok p, r)) :
    ∃ s, (recvPacket peer).on c = (.ok p, c.setIncoming peer s) ∧ s.items = r := by
  obtain ⟨head, hitems, hlen, hv⟩ := on_readPacket_eq_ok_iff.mp h
  rw [List.append_assoc] at hitems
  obtain ⟨s, hs, hsitems⟩ := Incoming.readExact_of_items IoError.unexpectedEof hitems
  have hhead : (recvExact peer 4).on c = (.ok head, c.setIncoming peer s) := by
    rw [hlen] at hs
    show (_, _) = _
    rw [hs]
  obtain ⟨t, ht, htitems⟩ := Incoming.readExact_of_items IoError.unexpectedEof hsitems
  unfold recvPacket
  rw [Effect.on_bind_ok hhead]
  simp only [hv]
  by_cases hpos : p.length > 0
  · refine ⟨t, ?_, htitems⟩
    rw [if_pos hpos]
    show (_, _) = _
    rw [ProxyConn.incoming_setIncoming, ht, ProxyConn.setIncoming_setIncoming]
  · obtain rfl : p = [] := List.length_eq_zero_iff.mp (by omega)
    refine ⟨s, ?_, hsitems⟩
    rw [if_neg hpos]
    rfl

/-- The program writes `bytes` to an end, or the first of them if a write fails. -/
structure PutsOut (env : ProxyEnv) (peer : Peer) (bytes : Stream) (x : Connection Unit) : Prop where
  /-- Whatever fails, only a beginning is out. -/
  front : ∀ c, ∃ bs, bs <+: bytes ∧ (x.on c).2 = c.put peer bs
  /-- If it does not fail, all is out. -/
  whole : ∀ c, (x.on c).1 = .ok () → (x.on c).2 = c.put peer bytes
  /-- Without a failing write it does not fail. -/
  succeeds : (∀ peer written bytes, env.writeFault peer written bytes = none) →
    ∀ c, (x.on c).1 = .ok ()

theorem putsOut_sendAll (env : ProxyEnv) (peer : Peer) (bytes : Stream) :
    PutsOut env peer bytes (sendAll env peer bytes) := by
  refine ⟨fun c => ?_, fun c hok => ?_, fun hnone c => ?_⟩
  · unfold sendAll
    rw [Effect.on_act]
    rcases env.writeFault peer (c.duplex peer).written bytes with _ | ⟨n, e⟩
    · exact ⟨bytes, List.prefix_rfl, rfl⟩
    · exact ⟨bytes.take n, List.take_prefix n bytes, rfl⟩
  · unfold sendAll at hok ⊢
    rw [Effect.on_act] at hok ⊢
    rcases hf : env.writeFault peer (c.duplex peer).written bytes with _ | ⟨n, e⟩
    · rfl
    · rw [hf] at hok
      simp at hok
  · unfold sendAll
    rw [Effect.on_act, hnone]

theorem PutsOut.bind {a b : Stream} {x y : Connection Unit} (hx : PutsOut env peer a x)
    (hy : PutsOut env peer b y) : PutsOut env peer (a ++ b) (x >>= fun _ => y) := by
  refine ⟨fun c => ?_, fun c hok => ?_, fun hnone c => ?_⟩
  · rcases hr : x.on c with ⟨e | u, c'⟩
    · obtain ⟨bs, hbs, hput⟩ := hx.front c
      rw [Effect.on_bind_error hr]
      rw [hr] at hput
      exact ⟨bs, hbs.trans (List.prefix_append a b), hput⟩
    · have hput := hx.whole c (by rw [hr])
      rw [Effect.on_bind_ok hr]
      rw [hr] at hput
      obtain rfl : c' = c.put peer a := hput
      obtain ⟨bs, hbs, hput⟩ := hy.front (c.put peer a)
      exact ⟨a ++ bs, List.prefix_append_right_inj a |>.mpr hbs, by rw [hput, ProxyConn.put_put]⟩
  · rcases hr : x.on c with ⟨e | u, c'⟩
    · rw [Effect.on_bind_error hr] at hok
      simp at hok
    · have hput := hx.whole c (by rw [hr])
      rw [Effect.on_bind_ok hr] at hok ⊢
      rw [hr] at hput
      obtain rfl : c' = c.put peer a := hput
      rw [hy.whole _ hok, ProxyConn.put_put]
  · have hok := hx.succeeds hnone c
    rcases hr : x.on c with ⟨e | u, c'⟩
    · rw [hr] at hok
      simp at hok
    · rw [Effect.on_bind_ok hr]
      exact hy.succeeds hnone c'

theorem putsOut_sendPacket (env : ProxyEnv) (peer : Peer) (payload : Stream) :
    PutsOut env peer (packetBytes payload) (sendPacket env peer payload) :=
  (putsOut_sendAll env peer _).bind (putsOut_sendAll env peer payload)

theorem putsOut_sendFail (env : ProxyEnv) (peer : Peer) (reason : String) :
    PutsOut env peer (failStatus ++ packetBytes (utf8 reason)) (sendFail env peer reason) :=
  (putsOut_sendAll env peer _).bind (putsOut_sendPacket env peer _)

end streams

/-! ## The pair code -/

/-- The code of an `auth:` service, or an error reason. Source: `auth.rs`,
`parse_auth_service`. -/
def parseAuthService (service : String) : Except String String :=
  match stripPrefix service authPrefix with
  | none => .error "expected auth:<pair-code> as first packet"
  | some code => do
      validatePairCode code
      .ok code

/-- Source: `auth.rs`, `codes_match`. -/
def codesMatch (expected provided : String) : Bool := expected = provided

/-- Validate the first packet; answer `OKAY` or `FAIL`. Source: `auth.rs`, `accept_auth`. -/
def acceptAuth (env : ProxyEnv) : Connection Bool := do
  match ← (recvPacket .client).attempt with
  | .error err =>
      if err = .unexpectedEof then
        sendFail env .client "missing auth"
        return false
      else throw err
  | .ok payload =>
      match fromUtf8 payload with
      | none =>
          sendFail env .client "invalid auth utf8"
          return false
      | some service =>
          match parseAuthService service with
          | .ok code =>
              if codesMatch env.pairCode code then
                sendOkay env .client
                return true
              else
                sendFail env .client "unauthorized"
                return false
          | .error reason =>
              sendFail env .client reason
              return false

/-! ## The first service -/

/-- What is counted of a connection. Source: `lib.rs`, `ProxyStats`. -/
structure ProxyStats where
  bytesClientToServer : ℕ := 0
  bytesServerToClient : ℕ := 0
  deriving DecidableEq

/-- Source: `TcpStream::connect`, on the target. -/
def connectTarget (env : ProxyEnv) : Connection Unit :=
  Effect.act fun c =>
    match env.connectError with
    | some e => (.error e, c)
    | none => (.ok (), { c with connected := true })

/-- Pass on everything that still comes, both ways. Source: `copy_bidirectional`. -/
def copyBidirectional (env : ProxyEnv) : Connection ProxyStats :=
  Effect.act fun c =>
    match env.copyFault with
    | some (n, m, e) =>
        (.error e, (c.put .target ((c.incoming .client).items.take n)).put .client
          ((c.incoming .target).items.take m))
    | none =>
        (.ok ⟨(c.incoming .client).items.length, (c.incoming .target).items.length⟩,
          (c.put .target (c.incoming .client).items).put .client (c.incoming .target).items)

/-- The filtered form of a device list. Source: `lib.rs`, `proxy_connection`. -/
def filteredBody (env : ProxyEnv) (body : Stream) : Connection Stream :=
  Effect.act fun c =>
    (.ok (utf8 (filterDevicesBody (fromUtf8Lossy body) (env.refresh c.filtered).isEnabled)),
      { c with filtered := c.filtered + 1 })

/-- At most `fuel` lists of the target, filtered for the client. Source: `lib.rs`,
`proxy_connection`, the loop of `host:track-devices`. -/
def trackLists (env : ProxyEnv) : ℕ → Connection Unit
  | 0 => return
  | fuel + 1 => do
      match ← (recvPacket .target).attempt with
      | .error err => if err.isBenign then return else throw err
      | .ok body =>
          let filtered ← filteredBody env body
          match ← (sendPacket env .client filtered).attempt with
          | .error err => if err.isBenign then return else throw err
          | .ok () => trackLists env fuel

/-- A list takes at least its header off the stream, so more steps than there are bytes left make
no difference. -/
theorem trackLists_enough (env : ProxyEnv) {fuel₁ fuel₂ : ℕ} (c : ProxyConn)
    (h₁ : (c.incoming .target).items.length < fuel₁)
    (h₂ : (c.incoming .target).items.length < fuel₂) :
    (trackLists env fuel₁).on c = (trackLists env fuel₂).on c := by
  induction fuel₁ generalizing fuel₂ c with
  | zero => omega
  | succ fuel₁ ih =>
      obtain ⟨fuel₂, rfl⟩ : ∃ n, fuel₂ = n + 1 := ⟨fuel₂ - 1, by omega⟩
      unfold trackLists
      rw [Effect.on_bind_ok (Effect.on_attempt _ c), Effect.on_bind_ok (Effect.on_attempt _ c)]
      rcases hrecv : (recvPacket .target).on c with ⟨err | body, c₁⟩
      · rfl
      · obtain ⟨h, hitems, hfour, -⟩ := on_readPacket_eq_ok_iff.mp (recvPacket_ok hrecv)
        have hshorter : (c₁.incoming .target).items.length + 4 ≤
            (c.incoming .target).items.length := by
          rw [hitems, List.length_append, List.length_append, hfour]
          omega
        obtain ⟨list, hfiltered⟩ : ∃ list, (filteredBody env body).on c₁ =
            (.ok list, { c₁ with filtered := c₁.filtered + 1 }) := ⟨_, rfl⟩
        simp only
        rw [Effect.on_bind_ok hfiltered, Effect.on_bind_ok hfiltered,
          Effect.on_bind_ok (Effect.on_attempt _ _), Effect.on_bind_ok (Effect.on_attempt _ _)]
        obtain ⟨bs, -, hput⟩ :=
          (putsOut_sendPacket env .client list).front { c₁ with filtered := c₁.filtered + 1 }
        rw [hput]
        split
        · rfl
        · apply ih
          · show (c₁.incoming .target).items.length < fuel₁
            omega
          · show (c₁.incoming .target).items.length < fuel₂
            omega

/-- As many lists as the target sends. -/
def trackAllLists (env : ProxyEnv) : Connection Unit :=
  Effect.act fun c => (trackLists env ((c.incoming .target).items.length + 1)).on c

/-- What is done with the first service. Source: `lib.rs`, `proxy_connection`. -/
def serveService (env : ProxyEnv) (service : String) : Connection ProxyStats :=
  match proxyAction env.policy service with
  | .answer payload => do
      sendOkayPayload env .client (utf8 payload)
      return {}
  | .refuse reason => do
      sendFail env .client reason
      return {}
  | .filterList service => do
      connectTarget env
      sendService env .target service
      let body ← recvOkayPayload .target
      let filtered ← filteredBody env body
      sendOkayPayload env .client filtered
      return {}
  | .filterTrack service => do
      connectTarget env
      sendService env .target service
      let status ← recvExact .target 4
      if status = okayStatus then
        sendOkay env .client
        trackAllLists env
        return {}
      else
        sendAll env .client status
        if status = failStatus then
          let reason ← (recvPacket .target).attempt
          sendPacket env .client (reason.toOption.getD [])
        return {}
  | .forward service => do
      connectTarget env
      sendService env .target service
      copyBidirectional env

/-- One client connection; `none` if the client is not admitted. Source: `lib.rs`,
`proxy_connection`. -/
def proxyConnection (env : ProxyEnv) : Connection (Option ProxyStats) := do
  if ← acceptAuth env then
    match ← (recvPacket .client).attempt with
    | .error err => if err = .unexpectedEof then return some {} else throw err
    | .ok servicePayload =>
        let stats ← serveService env (fromUtf8Lossy servicePayload)
        return some stats
  else return none

/-- A whole connection of a client and a target that send what they send. -/
def ProxyEnv.outcome (env : ProxyEnv) (client target : Incoming UInt8 IoError) :
    Except IoError (Option ProxyStats) × ProxyConn :=
  (proxyConnection env).on (.start client target)

/-! ## Without the pair code -/

/-- The stream begins with a packet of which the payload is `auth:` and the code, exactly. -/
def CarriesCode (code : String) (s : Stream) : Prop :=
  ∃ h rest, s = h ++ utf8 (authService code) ++ rest ∧ h.length = 4 ∧
    parseHex4 h = .ok (utf8 (authService code)).length

/-- Nothing happened to the connection but a refusal, which may be cut short. -/
structure Rejected (o : Except IoError (Option ProxyStats) × ProxyConn) : Prop where
  not_served : ∀ stats, o.1 ≠ .ok (some stats)
  not_connected : o.2.connected = false
  target_untouched : o.2.target.written = []
  only_refusal : ∃ reason, o.2.client.written <+: failStatus ++ packetBytes (utf8 reason)

/-- The refusal of a first packet, if it is refused. -/
def refusal (code : String) (payload : Stream) : Option String :=
  match fromUtf8 payload with
  | none => some "invalid auth utf8"
  | some service =>
      match parseAuthService service with
      | .error reason => some reason
      | .ok provided => if codesMatch code provided then none else some "unauthorized"

/-- Answer `FAIL`. -/
def refuse (env : ProxyEnv) (reason : String) : Connection Bool := do
  sendFail env .client reason
  return false

/-- Answer `OKAY`. -/
def grant (env : ProxyEnv) : Connection Bool := do
  sendOkay env .client
  return true

section gate

variable {env : ProxyEnv} {c c' : ProxyConn} {code code₁ code₂ : String} {payload : Stream}

theorem carriesCode_iff {s : Stream} :
    CarriesCode code s ↔ ∃ rest, readPacket.on s = (.ok (utf8 (authService code)), rest) := by
  unfold CarriesCode
  simp only [on_readPacket_eq_ok_iff]
  exact exists_comm

theorem parseAuthService_ok {service provided : String}
    (h : parseAuthService service = .ok provided) : service = authService provided := by
  unfold parseAuthService at h
  rcases hp : stripPrefix service authPrefix with _ | code
  · rw [hp] at h
    simp at h
  · rw [hp] at h
    obtain ⟨_, -, h⟩ := bind_eq_ok h
    obtain rfl := Except.ok.inj h
    exact stripPrefix_eq_some_iff.mp hp

/-- Any other payload than the pair code's is refused. -/
theorem refusal_of_ne (h : payload ≠ utf8 (authService code)) :
    ∃ reason, refusal code payload = some reason := by
  unfold refusal
  rcases hs : fromUtf8 payload with _ | service
  · exact ⟨_, rfl⟩
  · rcases hp : parseAuthService service with reason | provided
    · exact ⟨reason, by simp only [hp]⟩
    · have hne : ¬ codesMatch code provided = true := by
        intro hmatch
        obtain rfl : code = provided := of_decide_eq_true hmatch
        rw [← fromUtf8_eq_some_iff.mp hs, parseAuthService_ok hp] at h
        exact h rfl
      exact ⟨"unauthorized", by simp only [hp, if_neg hne]⟩

/-- The refusal does not tell what was expected. -/
theorem refusal_congr (h₁ : payload ≠ utf8 (authService code₁))
    (h₂ : payload ≠ utf8 (authService code₂)) : refusal code₁ payload = refusal code₂ payload := by
  obtain ⟨reason₁, hr₁⟩ := refusal_of_ne h₁
  obtain ⟨reason₂, hr₂⟩ := refusal_of_ne h₂
  rw [hr₁, hr₂]
  unfold refusal at hr₁ hr₂
  rcases hs : fromUtf8 payload with _ | service
  · rw [hs] at hr₁ hr₂
    rw [← hr₁, ← hr₂]
  · rcases hp : parseAuthService service with reason | provided
    · simp only [hs, hp] at hr₁ hr₂
      rw [← hr₁, ← hr₂]
    · simp only [hs, hp] at hr₁ hr₂
      split_ifs at hr₁ hr₂
      rw [← hr₁, ← hr₂]

/-- **What is done with the first packet.** -/
theorem on_acceptAuth (env : ProxyEnv) (c : ProxyConn) :
    (acceptAuth env).on c =
      match (recvPacket .client).on c with
      | (.error err, c') =>
          if err = .unexpectedEof then (refuse env "missing auth").on c' else (.error err, c')
      | (.ok payload, c') =>
          match refusal env.pairCode payload with
          | some reason => (refuse env reason).on c'
          | none => (grant env).on c' := by
  unfold acceptAuth
  rw [Effect.on_bind_ok (Effect.on_attempt _ c)]
  rcases (recvPacket .client).on c with ⟨err | payload, c'⟩
  · simp only
    split_ifs
    · rfl
    · rfl
  · unfold refusal
    simp only
    rcases fromUtf8 payload with _ | service
    · rfl
    · rcases hp : parseAuthService service with reason | provided
      · simp only [hp]
        rfl
      · simp only [hp]
        split_ifs
        · rfl
        · rfl

/-- A refused client gets the refusal or a beginning of it, and nothing else changes. -/
theorem on_refuse (env : ProxyEnv) (reason : String) (c : ProxyConn) :
    ((refuse env reason).on c).1 ≠ .ok true ∧
      ∃ bs, bs <+: failStatus ++ packetBytes (utf8 reason) ∧
        ((refuse env reason).on c).2 = c.put .client bs := by
  obtain ⟨bs, hbs, hput⟩ := (putsOut_sendFail env .client reason).front c
  unfold refuse
  rcases hr : (sendFail env .client reason).on c with ⟨e | u, c'⟩
  · rw [Effect.on_bind_error hr]
    rw [hr] at hput
    exact ⟨by simp, bs, hbs, hput⟩
  · rw [Effect.on_bind_ok hr]
    rw [hr] at hput
    exact ⟨by simp, bs, hbs, hput⟩

/-- **Without the pair code** the client is not admitted, and is written a refusal at most. -/
theorem acceptAuth_refuses (env : ProxyEnv) (c : ProxyConn)
    (h : ¬ CarriesCode env.pairCode (c.incoming .client).items) :
    ((acceptAuth env).on c).1 ≠ .ok true ∧
      ∃ s bs reason, bs <+: failStatus ++ packetBytes (utf8 reason) ∧
        ((acceptAuth env).on c).2 = (c.setIncoming .client s).put .client bs := by
  obtain ⟨s, hs⟩ := recvPacket_leaves .client c
  rw [on_acceptAuth]
  rcases hrecv : (recvPacket .client).on c with ⟨err | payload, c'⟩
  · rw [hrecv] at hs
    obtain rfl : c' = c.setIncoming .client s := hs
    simp only
    split_ifs
    · obtain ⟨hne, bs, hbs, hput⟩ := on_refuse env "missing auth" (c.setIncoming .client s)
      exact ⟨hne, s, bs, _, hbs, hput⟩
    · refine ⟨by simp, s, [], "missing auth", List.nil_prefix, ?_⟩
      simp [ProxyConn.put, ProxyConn.setIncoming, ProxyConn.setDuplex, ProxyConn.duplex]
  · rw [hrecv] at hs
    obtain rfl : c' = c.setIncoming .client s := hs
    have hne : payload ≠ utf8 (authService env.pairCode) := by
      rintro rfl
      exact h (carriesCode_iff.mpr ⟨_, recvPacket_ok hrecv⟩)
    obtain ⟨reason, hreason⟩ := refusal_of_ne hne
    simp only [hreason]
    obtain ⟨hne, bs, hbs, hput⟩ := on_refuse env reason (c.setIncoming .client s)
    exact ⟨hne, s, bs, reason, hbs, hput⟩

/-- **The refusal is the same** for any two codes that the client does not send. -/
theorem acceptAuth_congr (h₁ : ¬ CarriesCode code₁ (c.incoming .client).items)
    (h₂ : ¬ CarriesCode code₂ (c.incoming .client).items) :
    (acceptAuth { env with pairCode := code₁ }).on c =
      (acceptAuth { env with pairCode := code₂ }).on c := by
  rw [on_acceptAuth, on_acceptAuth]
  rcases hrecv : (recvPacket .client).on c with ⟨err | payload, c'⟩
  · rfl
  · have hne : ∀ code, ¬ CarriesCode code (c.incoming .client).items →
        payload ≠ utf8 (authService code) := by
      intro code hno hpayload
      rw [hpayload] at hrecv
      exact hno (carriesCode_iff.mpr ⟨_, recvPacket_ok hrecv⟩)
    simp only [refusal_congr (hne code₁ h₁) (hne code₂ h₂)]
    obtain ⟨reason, hreason⟩ := refusal_of_ne (hne code₂ h₂)
    rw [hreason]
    rfl

/-- A client that is not admitted is left alone. -/
theorem on_proxyConnection (h : ((acceptAuth env).on c).1 ≠ .ok true) :
    (proxyConnection env).on c =
      (((acceptAuth env).on c).1.map fun _ => none, ((acceptAuth env).on c).2) := by
  unfold proxyConnection
  rcases hauth : (acceptAuth env).on c with ⟨e | admitted, c'⟩
  · rw [Effect.on_bind_error hauth]
    rfl
  · rw [Effect.on_bind_ok hauth]
    rw [hauth] at h
    rcases admitted with _ | _
    · rfl
    · simp at h

end gate

/-- **The gate of the pair code.** A client whose stream does not begin with the expected code, in
one packet and exactly, gets a refusal at most: the target is not connected to and no service is
answered. For any two codes that the stream does not begin with, all that happens is the same.
Source: `auth.rs`, `accept_auth`; `lib.rs`, `proxy_connection`. -/
theorem auth_gate (env : ProxyEnv) (client target : Incoming UInt8 IoError) :
    (¬ CarriesCode env.pairCode client.items → Rejected (env.outcome client target)) ∧
      ∀ code₁ code₂, ¬ CarriesCode code₁ client.items → ¬ CarriesCode code₂ client.items →
        ProxyEnv.outcome { env with pairCode := code₁ } client target =
          ProxyEnv.outcome { env with pairCode := code₂ } client target := by
  constructor
  · intro h
    obtain ⟨hne, s, bs, reason, hbs, hleft⟩ :=
      acceptAuth_refuses env (.start client target) h
    unfold ProxyEnv.outcome
    rw [on_proxyConnection hne]
    refine ⟨?_, ?_, ?_, ⟨reason, ?_⟩⟩
    · intro stats
      rcases ((acceptAuth env).on (.start client target)).1 with e | admitted <;> simp [Except.map]
    · rw [hleft]
      rfl
    · rw [hleft]
      rfl
    · rw [hleft]
      exact hbs
  · intro code₁ code₂ h₁ h₂
    have hne₁ := (acceptAuth_refuses { env with pairCode := code₁ } (.start client target) h₁).1
    have hne₂ := (acceptAuth_refuses { env with pairCode := code₂ } (.start client target) h₂).1
    unfold ProxyEnv.outcome
    rw [on_proxyConnection hne₁, on_proxyConnection hne₂, acceptAuth_congr h₁ h₂]

/-- A proxy that expects a code, knows no disabled device, and is disturbed by nothing. -/
def ProxyEnv.undisturbed (code : String) : ProxyEnv where
  pairCode := code
  policy := .empty
  refresh _ := .empty
  connectError := none
  writeFault _ _ _ := none
  copyFault := none

/-- A client that sends some bytes in one piece and then ends. -/
def sends (bytes : Stream) : Incoming UInt8 IoError := ⟨[bytes], none⟩

/-- A wrong code, of the right form, is refused without a trace of the right one. -/
theorem wrong_code_refused :
    Rejected ((ProxyEnv.undisturbed "ABCD1234").outcome
        ⟨[utf8 "00", utf8 "0dauth:AAAA", utf8 "0000000chost:version"], none⟩ (sends [])) ∧
      (ProxyEnv.undisturbed "ABCD1234").outcome
          ⟨[utf8 "00", utf8 "0dauth:AAAA", utf8 "0000000chost:version"], none⟩ (sends []) =
        (ProxyEnv.undisturbed "WXYZ6789").outcome
          ⟨[utf8 "00", utf8 "0dauth:AAAA", utf8 "0000000chost:version"], none⟩ (sends []) := by
  have hread : (readPacket.on (⟨[utf8 "00", utf8 "0dauth:AAAA", utf8 "0000000chost:version"],
      none⟩ : Incoming UInt8 IoError).items).1 = .ok (utf8 (authService "AAAA0000")) := by
    decide +kernel
  have hnot : ∀ code, utf8 (authService code) ≠ utf8 (authService "AAAA0000") →
      ¬ CarriesCode code (⟨[utf8 "00", utf8 "0dauth:AAAA", utf8 "0000000chost:version"], none⟩ :
        Incoming UInt8 IoError).items := by
    intro code hcode hcarries
    obtain ⟨rest, hrest⟩ := carriesCode_iff.mp hcarries
    rw [hrest] at hread
    exact hcode (Except.ok.inj hread)
  have hright : ¬ CarriesCode "ABCD1234" _ := hnot "ABCD1234" (by decide +kernel)
  have hgate := auth_gate (.undisturbed "ABCD1234")
    ⟨[utf8 "00", utf8 "0dauth:AAAA", utf8 "0000000chost:version"], none⟩ (sends [])
  exact ⟨hgate.1 hright, hgate.2 "ABCD1234" "WXYZ6789" hright (hnot _ (by decide +kernel))⟩

/-! ## What the target receives -/

/-- The target can be connected to, no write fails, and the copying runs to the end. -/
structure ProxyEnv.Undisturbed (env : ProxyEnv) : Prop where
  connects : env.connectError = none
  writes : ∀ peer written bytes, env.writeFault peer written bytes = none
  copies : env.copyFault = none

/-- A first service that the proxy has no business with: no device list, no version probe, and no
transport to a disabled device. -/
structure OtherService (policy : DevicePolicyTable) (payload : Stream) : Prop where
  not_list : ∀ service ∈ ["host:devices", "host:devices-l", "host:track-devices",
    "host:track-devices-l", proxyVersionService], utf8 service ≠ payload
  not_disabled : ∀ service serial, utf8 service = payload → transportSerial service = some serial →
    policy.isEnabled serial = true

/-- The target receives the service and everything behind it, byte by byte, as a stream it can
decode. -/
structure ForwardsExactly (payload rest : Stream) (c : ProxyConn) : Prop where
  sent : c.target.written = packetBytes payload ++ rest
  decodes : readPacket.on c.target.written = (.ok payload, rest)

section forwarding

variable {env : ProxyEnv} {c c' : ProxyConn} {payload after rest : Stream} {service : String}

theorem putsOut_sendOkayPayload (env : ProxyEnv) (peer : Peer) (payload : Stream) :
    PutsOut env peer (okayStatus ++ packetBytes payload) (sendOkayPayload env peer payload) :=
  (putsOut_sendAll env peer _).bind (putsOut_sendPacket env peer _)

/-- What is written to the client is not written to the target. -/
theorem PutsOut.keeps {bytes : Stream} {x : Connection Unit} (h : PutsOut env .client bytes x) :
    x.Keeps fun c => c.target.written := by
  intro c
  obtain ⟨bs, -, hput⟩ := h.front c
  rw [hput]
  rfl

theorem recvExact_keeps (peer : Peer) (n : ℕ) :
    (recvExact peer n).Keeps fun c => c.target.written := by
  intro c
  cases peer <;> rfl

theorem recvPacket_keeps (peer : Peer) : (recvPacket peer).Keeps fun c => c.target.written := by
  intro c
  obtain ⟨s, hs⟩ := recvPacket_leaves peer c
  rw [hs]
  cases peer <;> rfl

theorem recvOkayPayload_keeps (peer : Peer) :
    (recvOkayPayload peer).Keeps fun c => c.target.written := by
  unfold recvOkayPayload
  apply (recvExact_keeps peer 4).bind
  intro status
  split_ifs
  · exact recvPacket_keeps peer
  · exact (recvPacket_keeps peer).bind fun _ => Effect.keeps_throw _
  · exact Effect.keeps_throw _

theorem filteredBody_keeps (env : ProxyEnv) (body : Stream) :
    (filteredBody env body).Keeps fun c => c.target.written := fun _ => rfl

theorem trackLists_keeps (env : ProxyEnv) (fuel : ℕ) :
    (trackLists env fuel).Keeps fun c => c.target.written := by
  induction fuel with
  | zero => exact Effect.keeps_pure ()
  | succ fuel ih =>
      unfold trackLists
      apply (recvPacket_keeps .target).attempt.bind
      rintro (err | body)
      · simp only
        split_ifs
        · exact Effect.keeps_pure ()
        · exact Effect.keeps_throw err
      · apply (filteredBody_keeps env body).bind
        intro filtered
        apply (putsOut_sendPacket env .client filtered).keeps.attempt.bind
        rintro (err | u)
        · simp only
          split_ifs
          · exact Effect.keeps_pure ()
          · exact Effect.keeps_throw err
        · exact ih

theorem trackAllLists_keeps (env : ProxyEnv) :
    (trackAllLists env).Keeps fun c => c.target.written :=
  fun c => trackLists_keeps env _ c

/-- The connection to the target and the service on it. -/
theorem on_connect_send {α : Type} (henv : env.Undisturbed) (k : Connection α) (c : ProxyConn) :
    ((do connectTarget env; sendService env .target service; k) : Connection α).on c =
      k.on (({ c with connected := true } : ProxyConn).put .target
        (packetBytes (utf8 service))) := by
  have hconnect : (connectTarget env).on c = (.ok (), { c with connected := true }) := by
    unfold connectTarget
    rw [Effect.on_act, henv.connects]
  have hsend : (sendService env .target service).on { c with connected := true } =
      (.ok (), ({ c with connected := true } : ProxyConn).put .target
        (packetBytes (utf8 service))) := by
    have hputs := putsOut_sendPacket env .target (utf8 service)
    have hok := hputs.succeeds henv.writes { c with connected := true }
    exact Prod.ext hok (hputs.whole _ hok)
  rw [Effect.on_bind_ok hconnect, Effect.on_bind_ok hsend]

/-- A forwarded service is followed by everything the client still sends. -/
theorem written_of_forward (henv : env.Undisturbed)
    (h : proxyAction env.policy service = .forward service) (c : ProxyConn) :
    ((serveService env service).on c).2.target.written =
      c.target.written ++ packetBytes (utf8 service) ++ (c.incoming .client).items := by
  unfold serveService
  rw [h]
  show (((do connectTarget env; sendService env .target service; copyBidirectional env) :
    Connection ProxyStats).on c).2.target.written = _
  rw [on_connect_send henv]
  unfold copyBidirectional
  rw [Effect.on_act, henv.copies]
  rfl

/-- **The target receives the service in one packet**, if it receives anything. -/
theorem written_of_serve (henv : env.Undisturbed) (service : String) (c : ProxyConn) :
    ((serveService env service).on c).2.target.written = c.target.written ∨
      ∃ tail, ((serveService env service).on c).2.target.written =
        c.target.written ++ packetBytes (utf8 service) ++ tail := by
  have hsame : ∀ t, (proxyAction env.policy service).forwarded = some t → t = service :=
    fun t ht => (proxyAction_forwarded_iff.mp ht).1
  rcases haction : proxyAction env.policy service with payload | reason | s | s | s
  · left
    unfold serveService
    rw [haction]
    exact ((putsOut_sendOkayPayload env .client _).keeps.bind fun _ => Effect.keeps_pure _) c
  · left
    unfold serveService
    rw [haction]
    exact ((putsOut_sendFail env .client reason).keeps.bind fun _ => Effect.keeps_pure _) c
  · right
    obtain rfl : s = service := hsame s (by rw [haction]; rfl)
    refine ⟨[], ?_⟩
    unfold serveService
    rw [haction, List.append_nil]
    simp only
    rw [on_connect_send henv]
    refine Eq.trans (Effect.Keeps.bind (recvOkayPayload_keeps .target) (fun body => ?_) _) rfl
    apply (filteredBody_keeps env body).bind
    intro filtered
    exact (putsOut_sendOkayPayload env .client filtered).keeps.bind fun _ => Effect.keeps_pure _
  · right
    obtain rfl : s = service := hsame s (by rw [haction]; rfl)
    refine ⟨[], ?_⟩
    unfold serveService
    rw [haction, List.append_nil]
    simp only
    rw [on_connect_send henv]
    refine Eq.trans (Effect.Keeps.bind (recvExact_keeps .target 4) (fun status => ?_) _) rfl
    split_ifs
    · apply (putsOut_sendAll env .client okayStatus).keeps.bind
      intro _
      exact (trackAllLists_keeps env).bind fun _ => Effect.keeps_pure _
    · apply (putsOut_sendAll env .client status).keeps.bind
      intro _
      apply (recvPacket_keeps .target).attempt.bind
      intro reason
      exact (putsOut_sendPacket env .client _).keeps.bind fun _ => Effect.keeps_pure _
    · apply (putsOut_sendAll env .client status).keeps.bind
      intro _
      exact Effect.keeps_pure _
  · right
    obtain rfl : s = service := hsame s (by rw [haction]; rfl)
    exact ⟨_, written_of_forward henv haction c⟩

/-- A service the proxy has no business with is forwarded. -/
theorem proxyAction_of_other {policy : DevicePolicyTable} (h : OtherService policy (utf8 service)) :
    proxyAction policy service = .forward service := by
  have hne : ∀ s ∈ ["host:devices", "host:devices-l", "host:track-devices",
      "host:track-devices-l", proxyVersionService], service ≠ s := by
    rintro s hs rfl
    exact h.not_list service hs rfl
  simp only [List.forall_mem_cons] at hne
  obtain ⟨hd, hdl, ht, htl, hv, -⟩ := hne
  have hforward : proxyForward service = .forward service := by
    unfold proxyForward
    simp [hd, hdl, ht, htl]
  unfold proxyAction
  rw [if_neg hv, hforward]
  rcases hs : transportSerial service with _ | serial
  · rfl
  · simp only [h.not_disabled service serial rfl hs, if_true]

/-- The client that sends the pair code is admitted. -/
theorem acceptAuth_admits (henv : env.Undisturbed) (hcode : validatePairCode env.pairCode = .ok ())
    (h : readPacket.on (c.incoming .client).items =
      (.ok (utf8 (authService env.pairCode)), after)) :
    ∃ s, s.items = after ∧
      (acceptAuth env).on c = (.ok true, (c.setIncoming .client s).put .client okayStatus) := by
  obtain ⟨s, hs, hitems⟩ := recvPacket_of_items h
  have hparse : parseAuthService (authService env.pairCode) = .ok env.pairCode := by
    unfold parseAuthService
    rw [stripPrefix_eq_some_iff.mpr (rfl : authService env.pairCode = authPrefix ++ env.pairCode)]
    simp only [hcode, bind, Except.bind]
  have hrefusal : refusal env.pairCode (utf8 (authService env.pairCode)) = none := by
    unfold refusal
    simp [fromUtf8_utf8, hparse, codesMatch]
  refine ⟨s, hitems, ?_⟩
  rw [on_acceptAuth, hs]
  simp only [hrefusal]
  have hputs := putsOut_sendAll env .client okayStatus
  have hok := hputs.succeeds henv.writes (c.setIncoming .client s)
  exact Effect.on_bind_ok (Prod.ext hok (hputs.whole _ hok))

/-- What the connection of an admitted client does with the first service. -/
theorem written_of_outcome (henv : env.Undisturbed)
    (hcode : validatePairCode env.pairCode = .ok ()) {client : Incoming UInt8 IoError}
    (target : Incoming UInt8 IoError)
    (hauth : readPacket.on client.items = (.ok (utf8 (authService env.pairCode)), after))
    (hservice : readPacket.on after = (.ok payload, rest)) :
    ∃ c : ProxyConn, c.target.written = [] ∧ (c.incoming .client).items = rest ∧
      (env.outcome client target).2.target.written =
        ((serveService env (fromUtf8Lossy payload)).on c).2.target.written := by
  obtain ⟨s, rfl, hgranted⟩ := acceptAuth_admits (c := .start client target) henv hcode hauth
  have hafter : readPacket.on (((((ProxyConn.start client target).setIncoming .client s).put .client
      okayStatus)).incoming .client).items = (.ok payload, rest) := hservice
  obtain ⟨t, ht, hitems⟩ := recvPacket_of_items hafter
  refine ⟨(((ProxyConn.start client target).setIncoming .client s).put .client
    okayStatus).setIncoming .client t, rfl, ?_, ?_⟩
  · rw [ProxyConn.incoming_setIncoming]
    exact hitems
  · unfold ProxyEnv.outcome proxyConnection
    rw [Effect.on_bind_ok hgranted]
    simp only [if_true]
    rw [Effect.on_bind_ok (Effect.on_attempt _ _), ht]
    simp only
    rw [Effect.snd_on_bind_pure]

end forwarding

/-- **Transparent for text, exactly.** What the target receives of an admitted client's connection
is one packet with the client's own service and every byte behind it, which decodes, iff the
service is valid UTF-8: a service passes through `from_utf8_lossy` on its way.
Source: `lib.rs`, `proxy_connection`. -/
theorem forwards_exactly_iff {env : ProxyEnv} (henv : env.Undisturbed)
    (hcode : validatePairCode env.pairCode = .ok ()) (client target : Incoming UInt8 IoError)
    {after payload rest : Stream}
    (hauth : readPacket.on client.items = (.ok (utf8 (authService env.pairCode)), after))
    (hservice : readPacket.on after = (.ok payload, rest))
    (hother : OtherService env.policy payload) :
    ForwardsExactly payload rest (env.outcome client target).2 ↔
      ∃ service, utf8 service = payload := by
  obtain ⟨c, hempty, hrest, hwritten⟩ :=
    written_of_outcome henv hcode target hauth hservice
  constructor
  · rintro ⟨-, hdecodes⟩
    refine ⟨fromUtf8Lossy payload, ?_⟩
    rw [hwritten] at hdecodes
    rcases written_of_serve henv (fromUtf8Lossy payload) c with hnone | ⟨tail, hsome⟩
    · rw [hnone, hempty] at hdecodes
      have : readPacket.on [] = (.error .unexpectedEof, []) := by decide +kernel
      rw [this] at hdecodes
      simp at hdecodes
    · rw [hsome, hempty, List.nil_append] at hdecodes
      by_cases hlen : (utf8 (fromUtf8Lossy payload)).length ≤ maxPayload
      · rw [on_readPacket_packetBytes hlen] at hdecodes
        exact Except.ok.inj (Prod.mk.inj hdecodes).1
      · -- a header of more than four digits announces a fraction of the service at most
        have hlong : maxPayload < (utf8 (fromUtf8Lossy payload)).length := by omega
        obtain ⟨q, r, hread, hq⟩ := on_readPacket_long hlong tail
        rw [hdecodes] at hread
        obtain rfl := Except.ok.inj (Prod.mk.inj hread).1
        have hle := length_fromUtf8Lossy_le payload
        unfold maxPayload at hlen
        omega
  · rintro ⟨service, rfl⟩
    have hlen : (utf8 service).length ≤ maxPayload := by
      obtain ⟨h, -, hfour, hv⟩ := on_readPacket_eq_ok_iff.mp hservice
      have hlt := parseHex4_lt hfour hv
      unfold maxPayload
      omega
    rw [fromUtf8Lossy_utf8, written_of_forward henv (proxyAction_of_other hother), hempty, hrest,
      List.nil_append] at hwritten
    refine ⟨hwritten, ?_⟩
    rw [hwritten]
    exact on_readPacket_packetBytes hlen rest

/-- A client asks for the version of the adb server, and sends more. -/
theorem version_request_forwarded :
    ForwardsExactly (utf8 "host:version") (utf8 "more")
        ((ProxyEnv.undisturbed "ABCD1234").outcome
          (sends (utf8 "000dauth:ABCD1234000chost:versionmore")) (sends [])).2 ↔
      ∃ service, utf8 service = utf8 "host:version" := by
  have hother : OtherService .empty (utf8 "host:version") := by
    refine ⟨by decide +kernel, fun service serial _ _ => ?_⟩
    rw [DevicePolicyTable.isEnabled_empty]
  have hauth : readPacket.on (sends (utf8 "000dauth:ABCD1234000chost:versionmore")).items =
      (.ok (utf8 (authService "ABCD1234")), utf8 "000chost:versionmore") := by decide +kernel
  exact forwards_exactly_iff ⟨rfl, fun _ _ _ => rfl, rfl⟩ (by decide +kernel) _ _ hauth
    (by decide +kernel) hother

/-- The service `shell:` and a byte that is no character arrives two bytes longer, with U+FFFD in
place of the byte. -/
theorem binary_service_changed :
    ¬ ForwardsExactly (utf8 "shell:" ++ [0xff]) []
        ((ProxyEnv.undisturbed "ABCD1234").outcome
          (sends (utf8 "000dauth:ABCD12340007shell:" ++ [0xff])) (sends [])).2 ∧
      readPacket.on (utf8 "0007shell:" ++ [0xff]) = (.ok (utf8 "shell:" ++ [0xff]), []) ∧
      OtherService .empty (utf8 "shell:" ++ [0xff]) := by
  have hwritten : ((ProxyEnv.undisturbed "ABCD1234").outcome
      (sends (utf8 "000dauth:ABCD12340007shell:" ++ [0xff])) (sends [])).2.target.written =
      utf8 "0009shell:\uFFFD" := by decide +kernel
  refine ⟨?_, by decide +kernel, by decide +kernel, fun service serial _ _ => ?_⟩
  · rintro ⟨hsent, -⟩
    rw [hwritten] at hsent
    revert hsent
    decide +kernel
  · rw [DevicePolicyTable.isEnabled_empty]

end AdbHub
