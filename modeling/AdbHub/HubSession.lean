import AdbHub.ProxyConnection
import AdbHub.SocketText
import AdbHub.Tunnel.Requests

/-!
# One connection to the hub

What the single-user hub does on one client connection, with the connection to a backend that it
opens for it (`session.rs`, `handle_client` and `forward_session`; `tunnel.rs`, `transport`;
`auth.rs`, `authenticate_stream`). What is done with a service is `handleClient`, what is done with
the request behind a transport is `transportRequest`.

* `HubEnv` — what a session depends on besides the bytes that arrive.
* `authenticate`, `forwardSession`, `transport`, `hubSession` — as the source has them, on streams
  that deliver pieces of any length, end or fail anywhere, and refuse any write.
* `Wires` — what is still to be read from both ends, and what was written to them.
* **`transport_agrees_iff`** — a session with tunnel requests intercepted writes what a plain one
  does, if the device is selected, no tunnel is asked for, and the length of the request is spelled
  as the hub spells it.
-/

namespace AdbHub

open Lib Protocol

/-- The text of an error. Source: `Display` of `io::Error`. -/
def IoError.text : IoError → String
  | .unexpectedEof => "early eof"
  | .disconnected text | .invalidData text | .other text => text

/-- What a session of the hub depends on besides the bytes that arrive. -/
structure HubEnv where
  /-- The devices that are shown when the first service is looked at.
  Source: `session.rs`, `client_snapshot`. -/
  snap : DeviceSnapshot
  order : List String
  defaultBackend : SocketAddr
  defaultPairCode : Option String
  /-- The devices that are shown at the changes of the list, until there are no more, and whether
  changes were missed before. Source: `session.rs`, `track_devices`. -/
  views : List (Bool × DeviceSnapshot)
  /-- What becomes of a listener that is asked for. Source: `tunnel.rs`, `TunnelManager::add`. -/
  add : AddCall → Except String UInt16
  /-- Whether there is a listener to be removed. Source: `tunnel.rs`, `TunnelManager::remove`. -/
  removes : UInt16 → Bool
  /-- Why the backend cannot be connected to, if it cannot. -/
  connectError : Option IoError
  /-- Where a write fails, as for the proxy; the target is the backend. -/
  writeFault : Peer → Stream → Stream → Option (ℕ × IoError)
  /-- Where the copying breaks off. -/
  copyFault : Option (ℕ × ℕ × IoError)

/-- The part of the environment that the functions for two streams look at. -/
def HubEnv.streams (env : HubEnv) : ProxyEnv where
  pairCode := ""
  policy := .empty
  refresh _ := .empty
  connectError := env.connectError
  writeFault := env.writeFault
  copyFault := env.copyFault

/-! ## Sessions with a backend -/

/-- Send the pair code to the backend and require `OKAY`. Source: `auth.rs`,
`authenticate_stream`. -/
def authenticate (env : ProxyEnv) (code : String) : Connection Unit := do
  sendService env .target (authService code)
  let status ← recvExact .target 4
  if status = okayStatus then return
  else if status = failStatus then do
    let reason ← recvPacket .target
    throw (.other (fromUtf8Lossy reason))
  else throw (.invalidData
    ("unexpected auth status: " ++ debugStr ((fromUtf8 status).getD "?")))

/-- A backend without pair code is not told one. -/
def authenticateIfPaired (env : ProxyEnv) : Option String → Connection Unit
  | none => return
  | some code => authenticate env code

/-- Source: `session.rs`, `forward_session`. -/
def forwardSession (env : ProxyEnv) (addr : SocketAddr) (pairCode : Option String)
    (service : String) : Connection Unit := do
  match ← (connectTarget env).attempt with
  | .error err => sendFail env .client ("backend " ++ addr.display ++ ": " ++ err.text)
  | .ok () =>
      match ← (authenticateIfPaired env pairCode).attempt with
      | .error err => sendFail env .client ("backend " ++ addr.display ++ " auth: " ++ err.text)
      | .ok () => do
          sendService env .target service
          match ← (copyBidirectional env).attempt with
          | .error err => if err.isBenign then return else throw err
          | .ok _ => return

/-- Source: `tunnel.rs`, `connect_backend`. -/
def connectTunnelBackend (env : ProxyEnv) (pairCode : Option String) (service : String) :
    Connection Unit := do
  connectTarget env
  authenticateIfPaired env pairCode
  sendService env .target service

/-- The request of the client behind a transport. Source: `tunnel.rs`, `transport`, from
`read_packet(client)` on. -/
def followUp (env : HubEnv) (serial : String) (owner : Option Uid) : Connection Unit := do
  let request ← recvPacket .client
  match transportRequest serial owner env.removes request with
  | .refuse reason => sendFail env.streams .client reason
  | .add call =>
      match env.add call with
      | .error err => sendFail env.streams .client err
      | .ok actual => do
          sendOkay env.streams .client
          sendOkay env.streams .client
          if call.port = 0 then
            sendPacket env.streams .client (utf8 (toString actual.toNat))
  | .removed _ => do
      sendOkay env.streams .client
      sendOkay env.streams .client
  | .forward => do
      sendPacket env.streams .target request
      let _ ← copyBidirectional env.streams

/-- The answer of the backend to a transport; what comes behind an `OKAY` is `rest`.
Source: `tunnel.rs`, `transport`, up to `read_packet(client)`. -/
def selectDevice (env : ProxyEnv) (service : String) (rest : Connection Unit) :
    Connection Unit := do
  let status ← recvExact .target 4
  sendAll env .client status
  if status = okayStatus then
    if startsWith service "host:tport:" then
      let id ← recvExact .target 8
      sendAll env .client id
    rest
  else if status = failStatus then
    let reason ← recvPacket .target
    sendPacket env .client reason

/-- Source: `tunnel.rs`, `transport`. -/
def transport (env : HubEnv) (service serial : String) (owner : Option Uid) : Connection Unit :=
  selectDevice env.streams service (followUp env serial owner)

/-- The packets with the device list, one after the other. Source: `session.rs`,
`track_devices`. -/
def sendViews (env : ProxyEnv) (long : Bool) : List (Bool × DeviceSnapshot) → Connection Unit
  | [] => return
  | (lagged, view) :: views => do
      match ← (sendPacket env .client (utf8 (view.formatDevices long))).attempt with
      -- behind a `Lagged` every error ends the session with an error
      | .error err => if err.isBenign && !lagged then return else throw err
      | .ok () => sendViews env long views

/-- What is done for the first service. Source: `session.rs`, `handle_client`. -/
def serveHubClient (env : HubEnv) : HubAction → Connection Unit
  | .answer body => sendOkayPayload env.streams .client body
  | .refuse reason => sendFail env.streams .client reason
  | .trackDevices long => do
      sendOkay env.streams .client
      sendPacket env.streams .client (utf8 (env.snap.formatDevices long))
      sendViews env.streams long env.views
  | .okayKill => sendOkay env.streams .client
  | .forward addr pairCode upstream => forwardSession env.streams addr pairCode upstream
  | .transport addr pairCode upstream publicSerial _ => do
      match ← (connectTunnelBackend env.streams pairCode upstream).attempt with
      | .error err =>
          sendFail env.streams .client ("backend " ++ addr.display ++ ": " ++ err.text)
      | .ok () => transport env upstream publicSerial none

/-- A whole session. Source: `session.rs`, `handle_client`. -/
def hubSession (env : HubEnv) : Connection Unit := do
  match ← (recvPacket .client).attempt with
  | .error err => if err = .unexpectedEof then return else throw err
  | .ok payload =>
      match fromUtf8 payload with
      | none => sendFail env.streams .client "invalid utf8 service"
      | some service =>
          serveHubClient env
            (handleClient env.snap env.order env.defaultBackend env.defaultPairCode service)

/-! ## What there is to read, and what was written -/

/-- What is still to be read from both ends, and what was written to them. -/
@[ext] structure Wires where
  clientIn : Stream
  clientOut : Stream
  targetIn : Stream
  targetOut : Stream

namespace Wires

/-- What is still to be read from an end. -/
def ins (w : Wires) : Peer → Stream
  | .client => w.clientIn
  | .target => w.targetIn

/-- Something else is still to be read. -/
def setIns (w : Wires) (bytes : Stream) : Peer → Wires
  | .client => { w with clientIn := bytes }
  | .target => { w with targetIn := bytes }

/-- Something was written. -/
def put (w : Wires) (bytes : Stream) : Peer → Wires
  | .client => { w with clientOut := w.clientOut ++ bytes }
  | .target => { w with targetOut := w.targetOut ++ bytes }

end Wires

namespace ProxyConn

/-- The wires of a connection. -/
def wires (c : ProxyConn) : Wires :=
  ⟨(c.incoming .client).items, c.client.written, (c.incoming .target).items, c.target.written⟩

variable (c : ProxyConn) (peer : Peer)

@[simp] theorem wires_put (bytes : Stream) : (c.put peer bytes).wires = c.wires.put bytes peer := by
  cases peer <;> rfl

@[simp] theorem wires_setIncoming (s : Incoming UInt8 IoError) :
    (c.setIncoming peer s).wires = c.wires.setIns s.items peer := by
  cases peer <;> rfl

theorem ins_wires : c.wires.ins peer = (c.incoming peer).items := by
  cases peer <;> rfl

end ProxyConn

section undisturbed

variable {env : ProxyEnv} {c : ProxyConn} {peer : Peer} {front rest p : Stream}

/-- Without a failing write everything is written. -/
theorem PutsOut.on_eq {bytes : Stream} {x : Connection Unit} (h : PutsOut env peer bytes x)
    (hwrites : ∀ peer written bytes, env.writeFault peer written bytes = none) (c : ProxyConn) :
    x.on c = (.ok (), c.put peer bytes) :=
  Prod.ext (h.succeeds hwrites c) (h.whole c (h.succeeds hwrites c))

/-- What the stream begins with is read. -/
theorem recvExact_front {n : ℕ} (hlen : front.length = n) (h : c.wires.ins peer = front ++ rest) :
    ∃ c', (recvExact peer n).on c = (.ok front, c') ∧ c'.wires = c.wires.setIns rest peer := by
  rw [ProxyConn.ins_wires] at h
  rw [← hlen]
  obtain ⟨s, hs, rfl⟩ := Incoming.readExact_of_items IoError.unexpectedEof h
  refine ⟨c.setIncoming peer s, ?_, c.wires_setIncoming peer s⟩
  show (_, _) = _
  rw [hs]

/-- What is read was at the front of the stream. -/
theorem recvExact_ok {n : ℕ} {c' : ProxyConn} (h : (recvExact peer n).on c = (.ok p, c')) :
    p.length = n ∧ c.wires.ins peer = p ++ c'.wires.ins peer := by
  obtain ⟨hread, rfl⟩ := Prod.mk.inj h
  obtain ⟨hlen, hitems, -⟩ := Incoming.readExact_ok (Prod.ext hread rfl)
  rw [ProxyConn.ins_wires, ProxyConn.ins_wires, ProxyConn.incoming_setIncoming]
  exact ⟨hlen, hitems⟩

/-- A packet at the front of the stream is read. -/
theorem recvPacket_front (h : readPacket.on (c.wires.ins peer) = (.ok p, rest)) :
    ∃ c', (recvPacket peer).on c = (.ok p, c') ∧ c'.wires = c.wires.setIns rest peer := by
  rw [ProxyConn.ins_wires] at h
  obtain ⟨s, hs, rfl⟩ := recvPacket_of_items h
  exact ⟨c.setIncoming peer s, hs, c.wires_setIncoming peer s⟩

theorem on_connectTarget (h : env.connectError = none) (c : ProxyConn) :
    ∃ c', (connectTarget env).on c = (.ok (), c') ∧ c'.wires = c.wires := by
  refine ⟨{ c with connected := true }, ?_, rfl⟩
  unfold connectTarget
  rw [Effect.on_act, h]

/-- Everything is passed on. -/
theorem on_copyBidirectional (h : env.copyFault = none) (c : ProxyConn) :
    ∃ stats c', (copyBidirectional env).on c = (.ok stats, c') ∧
      c'.client.written = c.wires.clientOut ++ c.wires.targetIn ∧
      c'.target.written = c.wires.targetOut ++ c.wires.clientIn := by
  have hcopy : (copyBidirectional env).on c =
      (.ok ⟨(c.incoming .client).items.length, (c.incoming .target).items.length⟩,
        (c.put .target (c.incoming .client).items).put .client (c.incoming .target).items) := by
    unfold copyBidirectional
    rw [Effect.on_act, h]
  exact ⟨_, _, hcopy, rfl, rfl⟩

/-- A service is sent. -/
theorem on_sendService (henv : env.Undisturbed) (service : String) (c : ProxyConn) :
    (sendService env peer service).on c = (.ok (), c.put peer (packetBytes (utf8 service))) :=
  (putsOut_sendPacket env peer _).on_eq henv.writes c

/-- A backend that answers `OKAY` to the pair code has admitted the hub. -/
theorem on_authenticate_okay (henv : env.Undisturbed) (code : String)
    (h : c.wires.targetIn = okayStatus ++ rest) :
    ∃ c', (authenticate env code).on c = (.ok (), c') ∧
      c'.wires = (c.wires.put (packetBytes (utf8 (authService code))) .target).setIns rest
        .target := by
  have hstatus : (c.put .target (packetBytes (utf8 (authService code)))).wires.ins .target =
      okayStatus ++ rest := by
    rw [ProxyConn.wires_put]
    exact h
  obtain ⟨c', hread, hwires⟩ := recvExact_front (by decide : okayStatus.length = 4) hstatus
  unfold authenticate
  rw [Effect.on_bind_ok (on_sendService henv _ c), Effect.on_bind_ok hread]
  refine ⟨c', rfl, ?_⟩
  rw [hwires, ProxyConn.wires_put]

/-- One that answers `FAIL` has not. -/
theorem on_authenticate_fail (henv : env.Undisturbed) (code reason : String)
    (hfit : (utf8 reason).length ≤ maxPayload)
    (h : c.wires.targetIn = failStatus ++ packetBytes (utf8 reason) ++ rest) :
    ∃ c', (authenticate env code).on c = (.error (.other reason), c') ∧
      c'.wires = (c.wires.put (packetBytes (utf8 (authService code))) .target).setIns rest
        .target := by
  have hstatus : (c.put .target (packetBytes (utf8 (authService code)))).wires.ins .target =
      failStatus ++ (packetBytes (utf8 reason) ++ rest) := by
    rw [ProxyConn.wires_put, ← List.append_assoc]
    exact h
  obtain ⟨c₁, hread, hwires⟩ := recvExact_front (by decide : failStatus.length = 4) hstatus
  have hpacket : readPacket.on (c₁.wires.ins .target) = (.ok (utf8 reason), rest) := by
    rw [hwires]
    exact on_readPacket_packetBytes hfit rest
  obtain ⟨c₂, hreason, hwires₂⟩ := recvPacket_front hpacket
  have hne : failStatus ≠ okayStatus := by decide
  unfold authenticate
  rw [Effect.on_bind_ok (on_sendService henv _ c), Effect.on_bind_ok hread]
  simp only [if_neg hne, if_true]
  rw [Effect.on_bind_ok hreason, fromUtf8Lossy_utf8]
  refine ⟨c₂, rfl, ?_⟩
  rw [hwires₂, hwires, ProxyConn.wires_put]
  rfl

end undisturbed

/-! ## Sessions in which tunnel requests are intercepted -/

/-- Both ends are written the same. -/
def SameWritten (c c' : ProxyConn) : Prop :=
  c.client.written = c'.client.written ∧ c.target.written = c'.target.written

/-- The backend selects the device: it answers `OKAY`, and the transport id if one is asked for. -/
def Selected (service : String) (answer : Stream) : Prop :=
  ∃ id more, answer = okayStatus ++ id ++ more ∧
    id.length = if startsWith service "host:tport:" then 8 else 0

section transport

variable {env : HubEnv} {c : ProxyConn} {service serial : String} {owner : Option Uid}
  {request rest : Stream}

/-- The answer for a device that is selected is passed on, and the session goes on. -/
theorem on_selectDevice {env : ProxyEnv} (henv : env.Undisturbed)
    (h : Selected service c.wires.targetIn) (k : Connection Unit) :
    ∃ answer more c', c.wires.targetIn = answer ++ more ∧
      (selectDevice env service k).on c = k.on c' ∧
      c'.wires = (c.wires.setIns more .target).put answer .client := by
  obtain ⟨id, more, hanswer, hid⟩ := h
  have hitems : c.wires.ins .target = okayStatus ++ (id ++ more) := by
    rw [← List.append_assoc]
    exact hanswer
  obtain ⟨c₁, hstatus, hw₁⟩ := recvExact_front (by decide : okayStatus.length = 4) hitems
  have hpass := (putsOut_sendAll env .client okayStatus).on_eq henv.writes c₁
  refine ⟨okayStatus ++ id, more, ?_⟩
  unfold selectDevice
  rw [Effect.on_bind_ok hstatus, Effect.on_bind_ok hpass, if_pos rfl]
  by_cases htport : startsWith service "host:tport:" = true
  · rw [if_pos htport] at hid ⊢
    have hnext : (c₁.put .client okayStatus).wires.ins .target = id ++ more := by
      rw [ProxyConn.wires_put, hw₁]
      rfl
    obtain ⟨c₂, hread, hw₂⟩ := recvExact_front hid hnext
    have hpass₂ := (putsOut_sendAll env .client id).on_eq henv.writes c₂
    refine ⟨c₂.put .client id, hanswer, ?_, ?_⟩
    · rw [Effect.on_bind_ok hread, Effect.on_bind_ok hpass₂]
    · rw [ProxyConn.wires_put, hw₂, ProxyConn.wires_put, hw₁]
      simp [Wires.put, Wires.setIns]
  · rw [if_neg htport] at hid ⊢
    obtain rfl := List.length_eq_zero_iff.mp hid
    refine ⟨c₁.put .client okayStatus, by simpa using hanswer, rfl, ?_⟩
    rw [ProxyConn.wires_put, hw₁, List.append_nil]
    rfl

/-- A device that is selected, and a request that is none for a tunnel: the answer is passed on, and
the request with everything behind it, its length spelled anew. -/
theorem on_transport_forward (henv : env.streams.Undisturbed)
    (hselected : Selected service c.wires.targetIn)
    (hrequest : readPacket.on c.wires.clientIn = (.ok request, rest))
    (hforward : transportRequest serial owner env.removes request = .forward) :
    ((transport env service serial owner).on c).2.client.written =
        c.wires.clientOut ++ c.wires.targetIn ∧
      ((transport env service serial owner).on c).2.target.written =
        c.wires.targetOut ++ (packetBytes request ++ rest) := by
  obtain ⟨answer, more, c₁, hanswer, hselect, hw₁⟩ :=
    on_selectDevice henv hselected (followUp env serial owner)
  have hpacket : readPacket.on (c₁.wires.ins .client) = (.ok request, rest) := by
    rw [hw₁]
    exact hrequest
  obtain ⟨c₂, hread, hw₂⟩ := recvPacket_front hpacket
  have hsend := (putsOut_sendPacket env.streams .target request).on_eq henv.writes c₂
  obtain ⟨stats, c₃, hcopy, hclient, htarget⟩ := on_copyBidirectional henv.copies
    (c₂.put .target (packetBytes request))
  have hrun : (transport env service serial owner).on c = (.ok (), c₃) := by
    unfold transport
    rw [hselect]
    unfold followUp
    rw [Effect.on_bind_ok hread, hforward]
    simp only
    rw [Effect.on_bind_ok hsend, Effect.on_bind_ok hcopy]
    rfl
  rw [hrun]
  constructor
  · rw [hclient, ProxyConn.wires_put, hw₂, hw₁, hanswer]
    simp [Wires.put, Wires.setIns]
  · rw [htarget, ProxyConn.wires_put, hw₂, hw₁]
    simp [Wires.put, Wires.setIns]

/-- A device that is not selected: nothing more is sent to the backend. -/
theorem target_written_of_not_selected {env : ProxyEnv} (henv : env.Undisturbed)
    (h : ¬ Selected service c.wires.targetIn) (k : Connection Unit) :
    ((selectDevice env service k).on c).2.target.written = c.target.written := by
  unfold selectDevice
  rcases hstatus : (recvExact .target 4).on c with ⟨e | status, c₁⟩
  · have := recvExact_keeps .target 4 c
    rw [hstatus] at this
    rw [Effect.on_bind_error hstatus]
    exact this
  · have hsame₁ := recvExact_keeps .target 4 c
    rw [hstatus] at hsame₁
    have hpass := (putsOut_sendAll env .client status).on_eq henv.writes c₁
    rw [Effect.on_bind_ok hstatus, Effect.on_bind_ok hpass]
    obtain ⟨-, hitems⟩ := recvExact_ok hstatus
    by_cases hokay : status = okayStatus
    · subst hokay
      rw [if_pos rfl]
      by_cases htport : startsWith service "host:tport:" = true
      · rw [if_pos htport]
        rcases hid : (recvExact .target 8).on (c₁.put .client okayStatus) with ⟨e | id, c₂⟩
        · have := recvExact_keeps .target 8 (c₁.put .client okayStatus)
          rw [hid] at this
          rw [Effect.on_bind_error hid]
          exact this.trans hsame₁
        · obtain ⟨hlen, hnext⟩ := recvExact_ok hid
          refine absurd ⟨id, c₂.wires.ins .target, ?_, ?_⟩ h
          · rw [List.append_assoc, ← hnext, ProxyConn.wires_put]
            exact hitems
          · rw [if_pos htport]
            exact hlen
      · refine absurd ⟨[], c₁.wires.ins .target, ?_, ?_⟩ h
        · rw [List.append_nil]
          exact hitems
        · rw [if_neg htport]
          rfl
    · rw [if_neg hokay]
      split_ifs
      · refine Eq.trans (Effect.Keeps.bind (recvPacket_keeps .target) (fun reason => ?_) _) hsame₁
        exact (putsOut_sendPacket env .client reason).keeps
      · exact hsame₁

/-- A request for a tunnel is not passed on. -/
theorem target_written_of_intercepted
    (hrequest : readPacket.on c.wires.clientIn = (.ok request, rest))
    (h : transportRequest serial owner env.removes request ≠ .forward) :
    ((followUp env serial owner).on c).2.target.written = c.target.written := by
  have hfront : readPacket.on (c.wires.ins .client) = (.ok request, rest) := hrequest
  obtain ⟨c₁, hread, -⟩ := recvPacket_front hfront
  have hsame : ((recvPacket .client).on c).2.target.written = c.target.written :=
    recvPacket_keeps .client c
  rw [hread] at hsame
  rw [← hsame]
  have hokay := (putsOut_sendAll env.streams .client okayStatus).keeps
  unfold followUp
  rw [Effect.on_bind_ok hread]
  rcases hrest : transportRequest serial owner env.removes request with reason | call | port | _
  · exact (putsOut_sendFail env.streams .client reason).keeps c₁
  · rcases hadd : env.add call with err | actual
    · simp only [hadd]
      exact (putsOut_sendFail env.streams .client err).keeps c₁
    · simp only [hadd]
      refine Effect.Keeps.bind hokay (fun _ => Effect.Keeps.bind hokay fun _ => ?_) c₁
      split_ifs
      · exact (putsOut_sendPacket env.streams .client _).keeps
      · exact Effect.keeps_pure ()
  · exact Effect.Keeps.bind hokay (fun _ => hokay) c₁
  · exact absurd hrest h

/-- **Intercepting changes nothing else, exactly.** Once the service was sent to the backend, a
session in which tunnel requests are intercepted writes to both ends what a plain one does iff the
device is selected, the request that is read from the client is passed on, and the client has spelled
its length as the hub does.
Source: `tunnel.rs`, `transport`; `session.rs`, `forward_session`. -/
theorem transport_agrees_iff (henv : env.streams.Undisturbed)
    (hrequest : readPacket.on c.wires.clientIn = (.ok request, rest)) :
    SameWritten ((transport env service serial owner).on c).2
        ((copyBidirectional env.streams).on c).2 ↔
      Selected service c.wires.targetIn ∧
        transportRequest serial owner env.removes request = .forward ∧
          c.wires.clientIn = packetBytes request ++ rest := by
  obtain ⟨stats, cp, hplain, hclient, htarget⟩ := on_copyBidirectional henv.copies c
  rw [hplain]
  constructor
  · rintro ⟨-, hsame⟩
    rw [htarget] at hsame
    -- the client's request takes up at least its header
    have hmore : ((transport env service serial owner).on c).2.target.written ≠
        c.target.written := by
      intro hnothing
      rw [hnothing] at hsame
      obtain ⟨header, hin, hlen, -⟩ := on_readPacket_eq_ok_iff.mp hrequest
      have hwritten : c.wires.targetOut.length = c.target.written.length := rfl
      have hlengths := congrArg List.length hsame
      rw [hin] at hlengths
      simp only [List.length_append] at hlengths
      omega
    by_cases hselected : Selected service c.wires.targetIn
    · refine ⟨hselected, ?_⟩
      by_cases hforward : transportRequest serial owner env.removes request = .forward
      · refine ⟨hforward, ?_⟩
        have hpassed := (on_transport_forward henv hselected hrequest hforward).2
        exact (List.append_cancel_left (hpassed.symm.trans hsame)).symm
      · obtain ⟨answer, more, c₁, -, hselect, hw₁⟩ :=
          on_selectDevice henv hselected (followUp env serial owner)
        have hin : readPacket.on c₁.wires.clientIn = (.ok request, rest) := by
          rw [hw₁]
          exact hrequest
        refine absurd ?_ hmore
        unfold transport
        rw [hselect, target_written_of_intercepted hin hforward]
        exact congrArg Wires.targetOut hw₁
    · exact absurd (target_written_of_not_selected henv hselected _) hmore
  · rintro ⟨hselected, hforward, hspelled⟩
    obtain ⟨hclient', htarget'⟩ := on_transport_forward henv hselected hrequest hforward
    exact ⟨hclient'.trans hclient.symm, by rw [htarget', htarget, hspelled]⟩

end transport

/-- A hub with no devices and no listeners, which nothing disturbs. -/
def HubEnv.quiet : HubEnv where
  snap := ⟨[]⟩
  order := []
  defaultBackend := .loopback 5039
  defaultPairCode := none
  views := []
  add call := .ok call.port
  removes _ := false
  connectError := none
  writeFault _ _ _ := none
  copyFault := none

/-- A client asks for something on a device that is selected. -/
def onPhone (request : Stream) : ProxyConn := .start (sends request) (sends okayStatus)

/-- Both kinds of session write the same for a shell, but not if its length is in upper case, and not
for a forward for scrcpy. -/
theorem shell_passed_forward_intercepted :
    let agree request := SameWritten
      ((transport .quiet "host:transport:B0002YY" "office:B0002YY" none).on (onPhone request)).2
      ((copyBidirectional HubEnv.quiet.streams).on (onPhone request)).2
    agree (utf8 "000cshell:ls -la") ∧ ¬ agree (utf8 "000Cshell:ls -la") ∧
      ¬ agree (packetBytes (utf8 "host:forward:tcp:27183;localabstract:scrcpy_1")) := by
  have henv : HubEnv.quiet.streams.Undisturbed := ⟨rfl, fun _ _ _ => rfl, rfl⟩
  have hselected : ∀ request,
      Selected "host:transport:B0002YY" (onPhone request).wires.targetIn := fun _ =>
    ⟨[], [], rfl, by decide +kernel⟩
  have hshell : readPacket.on (onPhone (utf8 "000cshell:ls -la")).wires.clientIn =
      (.ok (utf8 "shell:ls -la"), []) := by decide +kernel
  have hupper : readPacket.on (onPhone (utf8 "000Cshell:ls -la")).wires.clientIn =
      (.ok (utf8 "shell:ls -la"), []) := by decide +kernel
  have hscrcpy : readPacket.on (onPhone
      (packetBytes (utf8 "host:forward:tcp:27183;localabstract:scrcpy_1"))).wires.clientIn =
        (.ok (utf8 "host:forward:tcp:27183;localabstract:scrcpy_1"), []) := by decide +kernel
  refine ⟨(transport_agrees_iff henv hshell).mpr ⟨hselected _, by decide +kernel, by decide +kernel⟩,
    fun h => ?_, fun h => ?_⟩
  · exact absurd ((transport_agrees_iff henv hupper).mp h).2.2 (by decide +kernel)
  · exact absurd ((transport_agrees_iff henv hscrcpy).mp h).2.1 (by decide +kernel)

end AdbHub
