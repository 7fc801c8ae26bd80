import AdbHub.Daemon.Routing
import AdbHub.PeerUid

/-!
# Who a client of the daemon is

The whole lookup of the user of a TCP client (`peercred.rs`, `tcp_peer_uid` and
`query_inet_diag_uid`): the request to the kernel, what the kernel makes of it, and what is read
from its answer. The kernel is not code of the daemon; what it does is `AnswersDump`.

* `diagRequest` — the request as it lies in memory; `dumpRequest_ofBytes` is what is asked with it.
* `TcpSocket`, `DumpRequest.Selects` — the sockets of the machine, and those that are asked for.
* `tcpPeerUid`, `acceptAdbClient` — the lookup, and what the daemon does for the client.
* **`client_served_as_owner`** — a client is served as the user of the socket at its end, if this
  socket is among those that the first datagram lists, and refused otherwise.
-/

namespace AdbHub.PeerCred

open Lib

/-! ## The request -/

/-- Source: `peercred.rs`, `SOCK_DIAG_BY_FAMILY`. -/
def sockDiagByFamily : UInt16 := 20

/-- Source: `libc::NLM_F_REQUEST | libc::NLM_F_DUMP`. -/
def requestFlags : UInt16 := 0x1 ||| 0x300

/-- Source: `libc::IPPROTO_TCP`. -/
def ipprotoTcp : UInt8 := 6

/-- Source: `peercred.rs`, `INET_DIAG_INFO`. -/
def inetDiagInfo : UInt8 := 2

/-- ESTABLISHED, SYN_SENT and SYN_RECV. Source: `query_inet_diag_uid`, `idiag_states`. -/
def idiagStates : UInt32 := (1 : UInt32) <<< 1 ||| (1 : UInt32) <<< 2 ||| (1 : UInt32) <<< 3

/-- A `[u32; 4]` in memory. -/
def wordBytes (o : ByteOrder) (words : Vector UInt32 4) : List UInt8 :=
  words.toList.flatMap fun w => o.bytes 4 w.toNat

/-- The payload of the request, with no interface and no cookie. Source: `query_inet_diag_uid`,
`InetDiagReqV2` and `InetDiagSockId`. -/
def requestPayload (o : ByteOrder) (q : DiagQuery) : List UInt8 :=
  [q.family, ipprotoTcp, inetDiagInfo, 0] ++ (o.bytes 4 idiagStates.toNat ++
    (o.bytes 2 q.sport.toNat ++ (o.bytes 2 q.dport.toNat ++
      (wordBytes o q.src ++ (wordBytes o q.dst ++ o.bytes 4 0)))) ++
        (o.bytes 4 0xffffffff ++ o.bytes 4 0xffffffff))

@[simp] theorem length_wordBytes (o : ByteOrder) (words : Vector UInt32 4) :
    (wordBytes o words).length = 16 := by
  simp [wordBytes]

/-- Source: `mem::size_of::<InetDiagReqV2>()`. -/
@[simp] theorem length_requestPayload (o : ByteOrder) (q : DiagQuery) :
    (requestPayload o q).length = 56 := by
  simp [requestPayload]

/-- The request. Source: `query_inet_diag_uid`, `hdr` and `msg`. -/
def diagRequest (o : ByteOrder) (q : DiagQuery) : NetlinkMessage where
  type := sockDiagByFamily
  flags := requestFlags
  seq := 1
  pid := 0
  payload := requestPayload o q
  fits := by simp [NlMsgHdr.size]

/-- Source: `peercred.rs`, `query_inet_diag_uid`; `ask` sends the request and receives one
datagram. -/
def queryInetDiagUid (o : ByteOrder) (ask : List UInt8 → Except LookupError (List UInt8))
    (src dst : SocketAddr) : Except Fault (Except LookupError UInt32) :=
  match connectionQuery o src dst with
  | .error e => .ok (.error e)
  | .ok q =>
      match ask ((diagRequest o q).bytes o) with
      | .error e => .ok (.error e)
      | .ok buf => parseInetDiagUid o (buf.length + 1) buf q

/-- Source: `peercred.rs`, `tcp_peer_uid`. -/
def tcpPeerUid (o : ByteOrder) (ask : List UInt8 → Except LookupError (List UInt8))
    (loc peer : SocketAddr) : Except Fault (Except LookupError UInt32) :=
  queryInetDiagUid o ask peer loc

/-! ## The kernel -/

/-- A dump request as the kernel reads it; the ports are in network order. -/
structure DumpRequest where
  family : UInt8
  protocol : UInt8
  states : UInt32
  sport : List UInt8
  dport : List UInt8

/-- What the kernel reads of a request for a dump by family. -/
def DumpRequest.ofBytes (o : ByteOrder) (bytes : List UInt8) : Option DumpRequest :=
  if (u32At o bytes 0).toNat = bytes.length ∧ u16At o bytes 4 = sockDiagByFamily ∧
      u16At o bytes 6 = requestFlags ∧ bytes.length = NlMsgHdr.size + 56 then
    some { family := (bytes.drop 16).headD 0
           protocol := (bytes.drop 17).headD 0
           states := u32At o bytes 20
           sport := (bytes.drop 24).take 2
           dport := (bytes.drop 26).take 2 }
  else none

end AdbHub.PeerCred

namespace AdbHub

/-- The address family. -/
def SocketAddr.family : SocketAddr → UInt8
  | .v4 .. => PeerCred.afInet
  | .v6 .. => PeerCred.afInet6

/-- An IPv4 address in `127.0.0.0/8`. Source: `Ipv4Addr::is_loopback`. -/
def ipv4Loopback (ip : BitVec 32) : Bool := ip.extractLsb' 24 8 = 127#8

/-- Source: `peercred.rs`, `is_loopback`. -/
def SocketAddr.isLoopback : SocketAddr → Bool
  | .v4 ip _ => ipv4Loopback ip
  | .v6 ip _ _ _ =>
      ip = 1#128 || (ip.extractLsb' 32 96 = 0xffff#96 && ipv4Loopback (ip.extractLsb' 0 32))

end AdbHub

namespace AdbHub.PeerCred

open Lib

/-- A TCP socket of the machine. -/
structure TcpSocket where
  src : SocketAddr
  dst : SocketAddr
  /-- The number of the TCP state; ESTABLISHED is 1. -/
  state : ℕ
  uid : UInt32
  family_eq : src.family = dst.family

namespace TcpSocket

/-- The socket has these ends; flow and scope of an address are not compared. -/
def HasEnds (s : TcpSocket) (src dst : SocketAddr) : Prop :=
  s.src.family = src.family ∧ portBytes s.src = portBytes src ∧ portBytes s.dst = portBytes dst ∧
    ipBytes s.src = ipBytes src ∧ ipBytes s.dst = ipBytes dst

instance (s : TcpSocket) (src dst : SocketAddr) : Decidable (s.HasEnds src dst) :=
  inferInstanceAs (Decidable (_ ∧ _))

end TcpSocket

/-- The kernel lists the socket in the dump; a port that is zero is any. -/
def DumpRequest.Selects (r : DumpRequest) (s : TcpSocket) : Prop :=
  r.protocol = ipprotoTcp ∧ s.src.family = r.family ∧ r.states.toNat.testBit s.state ∧
    (r.sport = [0, 0] ∨ portBytes s.src = r.sport) ∧ (r.dport = [0, 0] ∨ portBytes s.dst = r.dport)

instance (r : DumpRequest) : DecidablePred r.Selects :=
  fun _ => inferInstanceAs (Decidable (_ ∧ _))

/-- What a message says of a socket. Source: `struct inet_diag_msg`. -/
structure Describes (o : ByteOrder) (m : NetlinkMessage) (s : TcpSocket) : Prop where
  type : m.type = sockDiagByFamily
  size : InetDiagMsg.size ≤ m.payload.length
  family : m.payload.headD 0 = s.src.family
  sport : (m.payload.drop 4).take 2 = portBytes s.src
  dport : (m.payload.drop 6).take 2 = portBytes s.dst
  src : (m.payload.drop 8).take (ipBytes s.src).length = ipBytes s.src
  dst : (m.payload.drop 24).take (ipBytes s.dst).length = ipBytes s.dst
  uid : u32At o m.payload 64 = s.uid

/-- How the kernel answers a dump request: with one message for each socket that is asked for, of
which the first datagram has the first `room`. -/
def AnswersDump (o : ByteOrder) (ask : List UInt8 → Except LookupError (List UInt8))
    (sockets : List TcpSocket) (room : ℕ) : Prop :=
  ∀ bytes r, DumpRequest.ofBytes o bytes = some r →
    ∃ ms buf, ask bytes = .ok buf ∧ LaidOut o ms buf ∧
      List.Forall₂ (Describes o) (beforeEnd ms) ((sockets.filter r.Selects).take room)

/-- What is asked for about a connection. -/
def dumpRequest (src dst : SocketAddr) : DumpRequest where
  family := src.family
  protocol := ipprotoTcp
  states := idiagStates
  sport := portBytes src
  dport := portBytes dst

/-! ## What the kernel reads -/

variable {o : ByteOrder} {q : DiagQuery} {src dst : SocketAddr} {s : TcpSocket}
  {m : NetlinkMessage}

/-- A field behind others. -/
theorem slice_of_split {bytes pre field post : List UInt8} {i n : ℕ}
    (h : bytes = pre ++ (field ++ post)) (hi : pre.length = i) (hn : field.length = n) :
    (bytes.drop i).take n = field := by
  subst hi
  subst hn
  rw [h, List.drop_left, List.take_left]

theorem u32At_of_slice {bytes : List UInt8} {i : ℕ} {n : UInt32}
    (h : (bytes.drop i).take 4 = o.bytes 4 n.toNat) : u32At o bytes i = n := by
  have hlt := n.toNat_lt
  refine UInt32.toNat_inj.mp ?_
  rw [u32At, h, ByteOrder.value_bytes, UInt32.toNat_ofNat']
  omega

theorem u16At_of_slice {bytes : List UInt8} {i : ℕ} {n : UInt16}
    (h : (bytes.drop i).take 2 = o.bytes 2 n.toNat) : u16At o bytes i = n := by
  have hlt := n.toNat_lt
  refine UInt16.toNat_inj.mp ?_
  rw [u16At, h, ByteOrder.value_bytes, UInt16.toNat_ofNat']
  omega

/-- A port in network order lies in memory as it goes over the network. -/
theorem bytes_toBe (o : ByteOrder) (addr : SocketAddr) :
    o.bytes 2 (toBe o addr.port).toNat = portBytes addr := by
  have hlen : (ByteOrder.big.bytes 2 addr.port.toNat).length = 2 := ByteOrder.length_bytes _ _ _
  have hlt : o.value (ByteOrder.big.bytes 2 addr.port.toNat) < 65536 := by
    have hvalue := o.value_lt (ByteOrder.big.bytes 2 addr.port.toNat)
    rw [hlen] at hvalue
    exact hvalue
  have hback := o.bytes_value (ByteOrder.big.bytes 2 addr.port.toNat)
  rw [hlen] at hback
  rw [toBe, UInt16.toNat_ofNat', Nat.mod_eq_of_lt hlt, hback]
  rfl

/-- The query of a connection has its family and its ports. -/
theorem connectionQuery_ok (hq : connectionQuery o src dst = .ok q) :
    q.family = src.family ∧ src.family = dst.family ∧ q.sport = toBe o src.port ∧
      q.dport = toBe o dst.port := by
  rcases src with ⟨sip, sport⟩ | ⟨sip, sport, sflow, sscope⟩ <;>
    rcases dst with ⟨dip, dport⟩ | ⟨dip, dport, dflow, dscope⟩
  · obtain rfl := Except.ok.inj hq
    exact ⟨rfl, rfl, rfl, rfl⟩
  · cases hq
  · cases hq
  · obtain rfl := Except.ok.inj hq
    exact ⟨rfl, rfl, rfl, rfl⟩

/-- **What is asked for** is what the kernel reads in the request: the TCP sockets of the family in
one of three states, with the ports of the connection. -/
theorem dumpRequest_ofBytes (hq : connectionQuery o src dst = .ok q) :
    DumpRequest.ofBytes o ((diagRequest o q).bytes o) = some (dumpRequest src dst) := by
  obtain ⟨hfamily, -, hsport, hdport⟩ := connectionQuery_ok hq
  have hbytes : (diagRequest o q).bytes o = o.bytes 4 72 ++ (o.bytes 2 sockDiagByFamily.toNat ++
      (o.bytes 2 requestFlags.toNat ++ ((o.bytes 4 1 ++ o.bytes 4 0) ++
        ([q.family, ipprotoTcp, inetDiagInfo, 0] ++ (o.bytes 4 idiagStates.toNat ++
          (o.bytes 2 q.sport.toNat ++ (o.bytes 2 q.dport.toNat ++
            ((wordBytes o q.src ++ (wordBytes o q.dst ++ o.bytes 4 0)) ++
              (o.bytes 4 0xffffffff ++ o.bytes 4 0xffffffff))))))))) := by
    rw [NetlinkMessage.bytes, NetlinkMessage.header]
    simp [diagRequest, requestPayload, NlMsgHdr.size]
  have hlen : ((diagRequest o q).bytes o).length = 72 := by
    simp [NetlinkMessage.length_bytes, diagRequest, NlMsgHdr.size]
  generalize (diagRequest o q).bytes o = bytes at hbytes hlen ⊢
  -- the fields one after the other, each behind all before it
  have hlength : (u32At o bytes 0).toNat = 72 := by
    have hslice : (bytes.drop 0).take 4 = o.bytes 4 (72 : UInt32).toNat :=
      slice_of_split (show bytes = [] ++ _ from hbytes) rfl (by simp)
    rw [u32At_of_slice hslice]
    rfl
  have htype : u16At o bytes 4 = sockDiagByFamily :=
    u16At_of_slice (slice_of_split hbytes (by simp) (by simp))
  rw [← List.append_assoc] at hbytes
  have hflags : u16At o bytes 6 = requestFlags :=
    u16At_of_slice (slice_of_split hbytes (by simp) (by simp))
  rw [← List.append_assoc, ← List.append_assoc] at hbytes
  have hfour : (bytes.drop 16).take 4 = [q.family, ipprotoTcp, inetDiagInfo, 0] :=
    slice_of_split hbytes (by simp) (by simp)
  rw [← List.append_assoc] at hbytes
  have hstates : u32At o bytes 20 = idiagStates :=
    u32At_of_slice (slice_of_split hbytes (by simp) (by simp))
  rw [← List.append_assoc] at hbytes
  have hsrc : (bytes.drop 24).take 2 = o.bytes 2 q.sport.toNat :=
    slice_of_split hbytes (by simp) (by simp)
  rw [← List.append_assoc] at hbytes
  have hdst : (bytes.drop 26).take 2 = o.bytes 2 q.dport.toNat :=
    slice_of_split hbytes (by simp) (by simp)
  have hhead : (bytes.drop 16).headD 0 = q.family ∧ (bytes.drop 17).headD 0 = ipprotoTcp := by
    rw [show 17 = 16 + 1 from rfl, ← List.drop_drop]
    rcases hdrop : bytes.drop 16 with _ | ⟨a, _ | ⟨b, rest⟩⟩
    all_goals
      rw [hdrop] at hfour
      simp_all
  rw [DumpRequest.ofBytes, if_pos ⟨hlength.trans hlen.symm, htype, hflags, hlen⟩, hhead.1, hhead.2,
    hstates, hsrc, hdst, hfamily, hsport, hdport, bytes_toBe, bytes_toBe]
  rfl

/-! ## What the lookup reads -/

theorem slice_take {bytes : List UInt8} {i n k : ℕ} (h : i + n ≤ k) :
    ((bytes.take k).drop i).take n = (bytes.drop i).take n := by
  rw [List.drop_take, List.take_take, Nat.min_eq_left (by omega)]

/-- The length of an address tells its family. -/
theorem length_ipBytes_iff {a b : SocketAddr} :
    (ipBytes a).length = (ipBytes b).length ↔ a.family = b.family := by
  rcases a with ⟨aip, aport⟩ | ⟨aip, aport, aflow, ascope⟩ <;>
    rcases b with ⟨bip, bport⟩ | ⟨bip, bport, bflow, bscope⟩ <;>
    simp [ipBytes, SocketAddr.family, afInet, afInet6]

theorem length_ipBytes_le (a : SocketAddr) : (ipBytes a).length ≤ 16 := by
  rcases a with ⟨ip, port⟩ | ⟨ip, port, flow, scope⟩ <;> simp [ipBytes]

/-- A message that describes a socket matches the query of a connection if the socket has its
ends. -/
theorem carriedUid_of_describes (hq : connectionQuery o src dst = .ok q) (hm : Describes o m s) :
    m.carriedUid o q = if s.HasEnds src dst then some s.uid else none := by
  obtain ⟨hfamily, hsame, -, -⟩ := connectionQuery_ok hq
  have hsize : InetDiagMsg.size = 72 := rfl
  have hhead : (m.payload.take InetDiagMsg.size).headD 0 = m.payload.headD 0 := by
    rcases m.payload with _ | ⟨b, rest⟩
    · rfl
    · rfl
  have hmatch : (InetDiagMsg.ofBytes o (m.payload.take InetDiagMsg.size)).isMatch q = true ↔
      s.HasEnds src dst := by
    have hshort := length_ipBytes_le src
    have hshort' := length_ipBytes_le dst
    rw [isMatch_connectionQuery_iff hq (List.length_take_of_le hm.size), hhead,
      slice_take (by omega), slice_take (by omega), slice_take (by omega), slice_take (by omega),
      hm.family, hm.sport, hm.dport, hfamily, TcpSocket.HasEnds]
    refine and_congr_right fun hsocket => ?_
    have hsrc := hm.src
    have hdst := hm.dst
    rw [length_ipBytes_iff.mpr hsocket] at hsrc
    rw [length_ipBytes_iff.mpr (s.family_eq.symm.trans (hsocket.trans hsame))] at hdst
    rw [hsrc, hdst]
  have huid : (InetDiagMsg.ofBytes o (m.payload.take InetDiagMsg.size)).idiagUid = s.uid := by
    rw [InetDiagMsg.ofBytes, ← hm.uid, u32At, slice_take (by omega), ← u32At]
  simp only [NetlinkMessage.carriedUid, hm.size, true_and, hmatch, huid]

/-- What is found in messages that describe sockets. -/
theorem filterMap_carriedUid (hq : connectionQuery o src dst = .ok q) {ms : List NetlinkMessage}
    {sockets : List TcpSocket} (h : List.Forall₂ (Describes o) ms sockets) :
    ms.filterMap (NetlinkMessage.carriedUid o q) =
      (sockets.filter fun s => s.HasEnds src dst).map TcpSocket.uid := by
  induction h with
  | nil => rfl
  | @cons m s ms sockets hm _ ih =>
      have hfirst := carriedUid_of_describes hq hm
      split_ifs at hfirst with hends
      · rw [List.filterMap_cons_some hfirst, ih, List.filter_cons_of_pos (by simpa using hends),
          List.map_cons]
      · rw [List.filterMap_cons_none hfirst, ih, List.filter_cons_of_neg (by simpa using hends)]

theorem no_error_of_describes {ms : List NetlinkMessage} {sockets : List TcpSocket}
    (h : List.Forall₂ (Describes o) ms sockets) : ¬ ∃ m ∈ ms, m.type = nlmsgError := by
  induction h with
  | nil => simp
  | @cons m s ms sockets hm _ ih =>
      have htype : m.type ≠ nlmsgError := by
        rw [hm.type]
        decide
      simpa [htype] using ih

variable {ask : List UInt8 → Except LookupError (List UInt8)} {sockets : List TcpSocket}
  {room : ℕ} {loc peer : SocketAddr}

/-- **The lookup on an answer of the kernel**: the user of the one socket with the ends of the
connection in the first datagram. -/
theorem tcpPeerUid_of_answers (hk : AnswersDump o ask sockets room)
    (hq : connectionQuery o peer loc = .ok q) :
    tcpPeerUid o ask loc peer = .ok (soleUid ((((sockets.filter (dumpRequest peer loc).Selects).take
      room).filter fun s => s.HasEnds peer loc).map TcpSocket.uid)) := by
  obtain ⟨ms, buf, hask, hlaid, hlisted⟩ := hk _ _ (dumpRequest_ofBytes hq)
  have hscan : scan o buf q (buf.length + 1) 0 [] = .ok ((collect o q ms).map ([] ++ ·)) :=
    scan_laidOut hlaid [] [] (Nat.lt_succ_self _)
  rw [tcpPeerUid, queryInetDiagUid, hq]
  simp only [hask]
  rw [parseInetDiagUid, hscan, collect_eq, if_neg (no_error_of_describes hlisted),
    filterMap_carriedUid hq hlisted]
  rfl

/-- No socket has ends of two families. -/
theorem not_hasEnds_of_family (h : src.family ≠ dst.family) : ¬ s.HasEnds src dst := by
  rintro ⟨hfamily, -, -, -, hdst⟩
  have hother : s.dst.family = dst.family := length_ipBytes_iff.mp (congrArg List.length hdst)
  exact h (hfamily.symm.trans (s.family_eq.trans hother))

/-- A connection within a family has a query. -/
theorem connectionQuery_of_family (h : src.family = dst.family) :
    ∃ q, connectionQuery o src dst = .ok q := by
  rcases src with ⟨sip, sport⟩ | ⟨sip, sport, sflow, sscope⟩ <;>
    rcases dst with ⟨dip, dport⟩ | ⟨dip, dport, dflow, dscope⟩
  · exact ⟨_, rfl⟩
  · simp [SocketAddr.family, afInet, afInet6] at h
  · simp [SocketAddr.family, afInet, afInet6] at h
  · exact ⟨_, rfl⟩

/-- A connection between families is not looked up. -/
theorem tcpPeerUid_of_family (h : peer.family ≠ loc.family) :
    ∃ e, tcpPeerUid o ask loc peer = .ok (.error e) := by
  rcases peer with ⟨sip, sport⟩ | ⟨sip, sport, sflow, sscope⟩ <;>
    rcases loc with ⟨dip, dport⟩ | ⟨dip, dport, dflow, dscope⟩
  · exact absurd rfl h
  · exact ⟨_, rfl⟩
  · exact ⟨_, rfl⟩
  · exact absurd rfl h

/-- A user is found only where a socket with the ends of the connection is that user's. -/
theorem owner_of_tcpPeerUid (hk : AnswersDump o ask sockets room) {uid : UInt32}
    (h : tcpPeerUid o ask loc peer = .ok (.ok uid)) :
    ∃ s ∈ sockets, s.HasEnds peer loc ∧ s.uid = uid := by
  by_cases hfamily : peer.family = loc.family
  · obtain ⟨q, hq⟩ : ∃ q, connectionQuery o peer loc = .ok q := connectionQuery_of_family hfamily
    rw [tcpPeerUid_of_answers hk hq] at h
    have hsole := soleUid_eq_ok_iff.mp (Except.ok.inj h)
    have hmem : uid ∈ [uid] := List.mem_singleton_self uid
    rw [← hsole] at hmem
    obtain ⟨s, hs, huid⟩ := List.mem_map.mp hmem
    obtain ⟨hlisted, hends⟩ := List.mem_filter.mp hs
    exact ⟨s, (List.mem_filter.mp (List.mem_of_mem_take hlisted)).1, by simpa using hends, huid⟩
  · obtain ⟨e, he⟩ : ∃ e, tcpPeerUid o ask loc peer = .ok (.error e) :=
      tcpPeerUid_of_family hfamily
    rw [he] at h
    cases h

end AdbHub.PeerCred

namespace AdbHub

open Lib PeerCred

/-! ## The client -/

/-- What the daemon does for a TCP client whose first packet is `payload`; a client that is not
local is dropped. Source: `daemon.rs`, `run_daemon_with_shutdown`, `listener.accept`, and
`handle_adb_client`. -/
def acceptAdbClient (o : ByteOrder) (ask : List UInt8 → Except LookupError (List UInt8))
    (tenants : TenantRegistry) (localBackend : Option BackendConfig) (adbVersion : UInt32)
    (loc peer : SocketAddr) (payload : List UInt8) : Except Fault (Option ClientAction) :=
  if peer.isLoopback then
    (tcpPeerUid o ask loc peer).map fun found =>
      some (handleAdbClient tenants localBackend adbVersion found.toOption payload)
  else .ok none

/-- The sockets that the first datagram lists for a connection. -/
def listed (sockets : List TcpSocket) (room : ℕ) (loc peer : SocketAddr) : List TcpSocket :=
  (sockets.filter (dumpRequest peer loc).Selects).take room

/-- No two sockets have the same ends. -/
def EndsDistinct (sockets : List TcpSocket) : Prop :=
  sockets.Pairwise fun s t => ∀ src dst, s.HasEnds src dst → ¬ t.HasEnds src dst

variable {o : ByteOrder} {ask : List UInt8 → Except LookupError (List UInt8)}
  {sockets : List TcpSocket} {room : ℕ} {loc peer : SocketAddr} {s : TcpSocket}

theorem EndsDistinct.listed (h : EndsDistinct sockets) (room : ℕ) (loc peer : SocketAddr) :
    EndsDistinct (listed sockets room loc peer) :=
  h.sublist ((List.take_sublist _ _).trans List.filter_sublist)

/-- With distinct ends, one socket at most has given ones. -/
theorem filter_hasEnds (h : EndsDistinct sockets) (hs : s ∈ sockets) {src dst : SocketAddr}
    (hends : s.HasEnds src dst) : (sockets.filter fun t => t.HasEnds src dst) = [s] := by
  induction sockets with
  | nil => cases hs
  | cons t sockets ih =>
      obtain ⟨hfirst, hrest⟩ := List.pairwise_cons.mp h
      rcases List.mem_cons.mp hs with rfl | hs
      · have hnone : (sockets.filter fun t => t.HasEnds src dst) = [] :=
          List.filter_eq_nil_iff.mpr fun u hu => by simpa using hfirst u hu src dst hends
        rw [List.filter_cons_of_pos (by simpa using hends), hnone]
      · have hno : ¬ t.HasEnds src dst := fun ht => hfirst s hs src dst ht hends
        rw [List.filter_cons_of_neg (by simpa using hno)]
        exact ih hrest hs

/-- The three states that are asked for. -/
theorem testBit_idiagStates (n : ℕ) :
    idiagStates.toNat.testBit n = true ↔ 1 ≤ n ∧ n ≤ 3 := by
  have hvalue : idiagStates.toNat = 14 := by decide
  rw [hvalue]
  rcases Nat.lt_or_ge n 4 with hn | hn
  · interval_cases n <;> decide
  · have hpow : 2 ^ 4 ≤ 2 ^ n := Nat.pow_le_pow_right (by decide) hn
    rw [Nat.testBit_eq_false_of_lt (by omega)]
    exact iff_of_false (by decide) (by omega)

/-- **Which sockets are listed** at the end of a connection, where the answer fits: those that are
open. -/
theorem mem_listed_iff (hroom : (sockets.filter (dumpRequest peer loc).Selects).length ≤ room)
    (hends : s.HasEnds peer loc) :
    s ∈ listed sockets room loc peer ↔ s ∈ sockets ∧ 1 ≤ s.state ∧ s.state ≤ 3 := by
  obtain ⟨hfamily, hsport, hdport, -, -⟩ := hends
  have hselects : (dumpRequest peer loc).Selects s ↔ 1 ≤ s.state ∧ s.state ≤ 3 := by
    rw [← testBit_idiagStates]
    constructor
    · rintro ⟨-, -, hstate, -⟩
      exact hstate
    · intro hstate
      exact ⟨rfl, hfamily, hstate, .inr hsport, .inr hdport⟩
  rw [listed, List.take_of_length_le hroom, List.mem_filter, decide_eq_true_eq, hselects]

/-- **Who a client is.** A local client is served as the user who owns the socket at its end, if the
first datagram of the kernel lists it; otherwise it is told that it cannot be identified, and
nothing of any user is used. Where the answer fits one datagram, the sockets listed are the open
ones. Source: `daemon.rs`, "Fail closed: never fall back to another tenant" -/
theorem client_served_as_owner (hk : AnswersDump o ask sockets room)
    (hdistinct : EndsDistinct sockets) (loc peer : SocketAddr) (tenants : TenantRegistry)
    (localBackend : Option BackendConfig) (adbVersion : UInt32) (payload : List UInt8) :
    (∀ s ∈ listed sockets room loc peer, s.HasEnds peer loc →
      acceptAdbClient o ask tenants localBackend adbVersion loc peer payload =
        .ok (if peer.isLoopback then
          some (handleAdbClient tenants localBackend adbVersion (some s.uid) payload) else none)) ∧
    ((∀ s ∈ listed sockets room loc peer, ¬ s.HasEnds peer loc) →
      acceptAdbClient o ask tenants localBackend adbVersion loc peer payload =
        .ok (if peer.isLoopback then some (.refuse "unable to identify client user") else none)) ∧
    ((sockets.filter (dumpRequest peer loc).Selects).length ≤ room →
      ∀ s, s.HasEnds peer loc →
        (s ∈ listed sockets room loc peer ↔ s ∈ sockets ∧ 1 ≤ s.state ∧ s.state ≤ 3)) := by
  refine ⟨fun s hs hends => ?_, fun hnone => ?_, fun hroom s => mem_listed_iff hroom⟩
  · by_cases hfamily : peer.family = loc.family
    · obtain ⟨q, hq⟩ : ∃ q, connectionQuery o peer loc = .ok q := connectionQuery_of_family hfamily
      have hsole := filter_hasEnds (hdistinct.listed room loc peer) hs hends
      have hlookup := tcpPeerUid_of_answers hk hq
      rw [← listed, hsole] at hlookup
      rw [acceptAdbClient, hlookup]
      split_ifs
      · rfl
      · rfl
    · exact absurd hends (not_hasEnds_of_family hfamily)
  · have hlookup : ∃ e, tcpPeerUid o ask loc peer = .ok (.error e) := by
      by_cases hfamily : peer.family = loc.family
      · obtain ⟨q, hq⟩ : ∃ q, connectionQuery o peer loc = .ok q :=
          connectionQuery_of_family hfamily
        have hempty : ((listed sockets room loc peer).filter fun s => s.HasEnds peer loc) = [] :=
          List.filter_eq_nil_iff.mpr fun s hs => by simpa using hnone s hs
        have hlookup := tcpPeerUid_of_answers hk hq
        rw [← listed, hempty] at hlookup
        exact ⟨_, hlookup⟩
      · exact tcpPeerUid_of_family hfamily
    obtain ⟨e, hlookup⟩ := hlookup
    rw [acceptAdbClient, hlookup]
    split_ifs
    · rfl
    · rfl

/-! ## A kernel that answers -/

/-- A socket in the answer: ends and user, and zeros elsewhere. Source: `struct inet_diag_msg`. -/
def socketPayload (o : ByteOrder) (s : TcpSocket) : List UInt8 :=
  [s.src.family, UInt8.ofNat s.state, 0, 0] ++ (portBytes s.src ++ (portBytes s.dst ++
    ((ipBytes s.src ++ List.replicate (16 - (ipBytes s.src).length) 0) ++
      ((ipBytes s.dst ++ List.replicate (16 - (ipBytes s.dst).length) 0) ++
        (List.replicate 24 0 ++ (o.bytes 4 s.uid.toNat ++ List.replicate 4 0))))))

theorem length_socketPayload (o : ByteOrder) (s : TcpSocket) :
    (socketPayload o s).length = InetDiagMsg.size := by
  have hsrc := length_ipBytes_le s.src
  have hdst := length_ipBytes_le s.dst
  simp only [socketPayload, portBytes, List.length_append, List.length_cons, List.length_nil,
    List.length_replicate, ByteOrder.length_bytes, InetDiagMsg.size]
  omega

/-- The message about a socket. -/
def socketMessage (o : ByteOrder) (s : TcpSocket) : NetlinkMessage where
  type := sockDiagByFamily
  flags := 2
  seq := 1
  pid := 0
  payload := socketPayload o s
  fits := by
    rw [length_socketPayload]
    decide

/-- Source: `libc::NLMSG_DONE`, with the four bytes behind its header. -/
def donePayload : List UInt8 := [0, 0, 0, 0]

theorem donePayload_fits : NlMsgHdr.size + donePayload.length < 2 ^ 32 := by
  decide

/-- The end marker. -/
def doneMessage : NetlinkMessage where
  type := nlmsgDone
  flags := 2
  seq := 1
  pid := 0
  payload := donePayload
  fits := donePayload_fits

/-- A kernel with these sockets, whose answers fit one datagram. -/
def kernel (o : ByteOrder) (sockets : List TcpSocket) (bytes : List UInt8) :
    Except LookupError (List UInt8) :=
  match DumpRequest.ofBytes o bytes with
  | none => .error (.other "Invalid argument (os error 22)")
  | some r =>
      .ok (((sockets.filter r.Selects).map (socketMessage o) ++ [doneMessage]).flatMap
        (NetlinkMessage.bytes o))

theorem describes_socketMessage (o : ByteOrder) (s : TcpSocket) :
    Describes o (socketMessage o s) s := by
  have hsrc := length_ipBytes_le s.src
  have hdst := length_ipBytes_le s.dst
  have hsport : (portBytes s.src).length = 2 := ByteOrder.length_bytes _ _ _
  have hdport : (portBytes s.dst).length = 2 := ByteOrder.length_bytes _ _ _
  have hsize := length_socketPayload o s
  obtain ⟨payload, hp⟩ : ∃ payload, socketPayload o s = payload := ⟨_, rfl⟩
  have hmessage : (socketMessage o s).payload = payload := hp
  have hsplit := hp.symm
  rw [socketPayload] at hsplit
  rw [hp] at hsize
  refine ⟨rfl, hmessage ▸ hsize.ge, by rw [hmessage, hsplit]; rfl, ?_, ?_, ?_, ?_, ?_⟩
  all_goals rw [hmessage]
  all_goals clear hp hmessage
  · exact slice_of_split hsplit rfl hsport
  all_goals rw [← List.append_assoc] at hsplit
  · exact slice_of_split hsplit (by simp [hsport]) hdport
  all_goals rw [← List.append_assoc] at hsplit
  · rw [List.append_assoc (ipBytes s.src)] at hsplit
    exact slice_of_split hsplit (by simp [hsport, hdport]) rfl
  all_goals rw [← List.append_assoc] at hsplit
  · rw [List.append_assoc (ipBytes s.dst)] at hsplit
    exact slice_of_split hsplit (by simp [hsport, hdport, hsrc]) rfl
  · rw [← List.append_assoc, ← List.append_assoc] at hsplit
    exact u32At_of_slice (slice_of_split hsplit (by simp; omega) (by simp))

/-- The messages of an answer, one after the other. -/
theorem laidOut_answer (o : ByteOrder) (sockets : List TcpSocket) :
    LaidOut o (sockets.map (socketMessage o) ++ [doneMessage])
      ((sockets.map (socketMessage o) ++ [doneMessage]).flatMap (NetlinkMessage.bytes o)) := by
  induction sockets with
  | nil =>
      rw [List.map_nil, List.nil_append, List.flatMap_singleton]
      exact .last doneMessage
  | cons s sockets ih =>
      have hlen : ((socketMessage o s).bytes o ++ []).length =
          (((socketMessage o s).bytes o).length + 3) / 4 * 4 := by
        rw [List.append_nil, NetlinkMessage.length_bytes]
        have hpayload : (socketMessage o s).payload.length = 72 := length_socketPayload o s
        rw [hpayload]
        rfl
      exact .cons (socketMessage o s) [] hlen ih

theorem beforeEnd_answer (o : ByteOrder) (sockets : List TcpSocket) :
    beforeEnd (sockets.map (socketMessage o) ++ [doneMessage]) =
      sockets.map (socketMessage o) := by
  have hall : ∀ m ∈ sockets.map (socketMessage o), decide (m.type ≠ nlmsgDone) = true := by
    rintro m hm
    obtain ⟨s, -, rfl⟩ := List.mem_map.mp hm
    rfl
  rw [beforeEnd, List.takeWhile_append_of_pos hall]
  exact List.append_nil _

/-- **There is such a kernel**, for any sockets. -/
theorem answers_kernel (o : ByteOrder) {sockets : List TcpSocket} {room : ℕ}
    (hroom : sockets.length ≤ room) : AnswersDump o (kernel o sockets) sockets room := by
  intro bytes r hr
  have hfits : (sockets.filter r.Selects).length ≤ room :=
    (List.length_filter_le _ _).trans hroom
  refine ⟨_, _, by rw [kernel, hr], laidOut_answer o _, ?_⟩
  rw [beforeEnd_answer, List.take_of_length_le hfits, List.forall₂_map_left_iff]
  exact List.forall₂_same.mpr fun s _ => describes_socketMessage o s

/-- A client of user 1000. -/
def aliceSocket : TcpSocket := ⟨.loopback 40000, .loopback 5037, 1, 1000, rfl⟩

/-- The client, the daemon's end of its connection, and a client of user 1001. -/
def threeSockets : List TcpSocket :=
  [aliceSocket, ⟨.loopback 5037, .loopback 40000, 1, 0, rfl⟩,
    ⟨.loopback 40001, .loopback 5037, 1, 1001, rfl⟩]

theorem threeSockets_distinct : EndsDistinct threeSockets := by
  have hports : threeSockets.Pairwise fun s t => portBytes s.src ≠ portBytes t.src := by
    decide +kernel
  refine hports.imp fun {s t} hne src dst hs ht => ?_
  exact hne (hs.2.1.trans ht.2.1.symm)

/-- The client is served as user 1000; at another port nobody is. -/
theorem alice_served :
    acceptAdbClient .little (kernel .little threeSockets) {} none 41 (.loopback 5037)
        (.loopback 40000) (utf8 "host:devices") =
      .ok (some (handleAdbClient {} none 41 (some 1000) (utf8 "host:devices"))) ∧
    acceptAdbClient .little (kernel .little threeSockets) {} none 41 (.loopback 5037)
        (.loopback 40002) (utf8 "host:devices") =
      .ok (some (.refuse "unable to identify client user")) := by
  have hk := answers_kernel .little (le_refl threeSockets.length)
  constructor
  · exact (client_served_as_owner hk threeSockets_distinct (.loopback 5037) (.loopback 40000) {} none
      41 (utf8 "host:devices")).1 aliceSocket
        ((mem_listed_iff (by decide +kernel) (by decide +kernel)).mpr ⟨.head _, by decide⟩)
        (by decide +kernel)
  · exact (client_served_as_owner hk threeSockets_distinct (.loopback 5037) (.loopback 40002) {} none
      41 (utf8 "host:devices")).2.1 (by decide +kernel)

end AdbHub
