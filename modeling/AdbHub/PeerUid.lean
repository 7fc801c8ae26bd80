import AdbHub.HubConfig
import AdbHub.Lib.RawBytes

/-!
# Whose connection it is

How the user of a local TCP connection is read from the answer of the kernel (`peercred.rs`).

* `connectionQuery` — ports and addresses as the kernel has them in memory;
  `isMatch_connectionQuery_iff` says which bytes match them.
* `parseInetDiagUid` — the loop over the messages. A read outside the buffer is a fault.
* `LaidOut` — messages one after the other, aligned to four bytes.
* `scan_laidOut` and `scan_any` — what the loop finds in such a buffer, and in any buffer.
* **`parseInetDiagUid_outcome`** — the user of the one message that matches, and an error otherwise.
-/

namespace AdbHub.PeerCred

open Lib

/-! ## Memory -/

/-- The errors of the lookup, with their texts. Source: `io::Error`. -/
inductive LookupError
  | invalidInput (text : String)
  | notFound (text : String)
  | other (text : String)
  deriving DecidableEq

/-- What a program does not come back from. -/
inductive Fault
  | outOfBounds
  | outOfFuel
  deriving DecidableEq

/-- Source: `libc::NLMSG_ERROR`. -/
def nlmsgError : UInt16 := 2

/-- Source: `libc::NLMSG_DONE`. -/
def nlmsgDone : UInt16 := 3

/-- Source: `libc::AF_INET`. -/
def afInet : UInt8 := 2

/-- Source: `libc::AF_INET6`. -/
def afInet6 : UInt8 := 10

/-- A `u16` in memory. -/
def u16At (o : ByteOrder) (bytes : List UInt8) (offset : ℕ) : UInt16 :=
  UInt16.ofNat (o.value ((bytes.drop offset).take 2))

/-- A `u32` in memory. -/
def u32At (o : ByteOrder) (bytes : List UInt8) (offset : ℕ) : UInt32 :=
  UInt32.ofNat (o.value ((bytes.drop offset).take 4))

/-- A `[u32; 4]` in memory. -/
def wordsAt (o : ByteOrder) (bytes : List UInt8) (offset : ℕ) : Vector UInt32 4 :=
  Vector.ofFn fun i => u32At o bytes (offset + 4 * i)

/-- The header of a message. Source: `parse_inet_diag_uid`, `NlMsgHdr`. -/
structure NlMsgHdr where
  nlmsgLen : UInt32
  nlmsgType : UInt16

namespace NlMsgHdr

/-- Source: `mem::size_of::<NlMsgHdr>()`. -/
def size : ℕ := 16

/-- The fields of a `#[repr(C)]` header. -/
def ofBytes (o : ByteOrder) (bytes : List UInt8) : NlMsgHdr where
  nlmsgLen := u32At o bytes 0
  nlmsgType := u16At o bytes 4

end NlMsgHdr

/-- A socket of the answer. Source: `parse_inet_diag_uid`, `InetDiagMsg` and `InetDiagSockId`. -/
structure InetDiagMsg where
  idiagFamily : UInt8
  idiagSport : UInt16
  idiagDport : UInt16
  idiagSrc : Vector UInt32 4
  idiagDst : Vector UInt32 4
  idiagUid : UInt32

namespace InetDiagMsg

/-- Source: `mem::size_of::<InetDiagMsg>()`. -/
def size : ℕ := 72

/-- The fields of a `#[repr(C)]` message: four bytes, the socket id of 48 bytes, and five words. -/
def ofBytes (o : ByteOrder) (bytes : List UInt8) : InetDiagMsg where
  idiagFamily := bytes.headD 0
  idiagSport := u16At o bytes 4
  idiagDport := u16At o bytes 6
  idiagSrc := wordsAt o bytes 8
  idiagDst := wordsAt o bytes 24
  idiagUid := u32At o bytes 64

end InetDiagMsg

/-! ## The query -/

/-- The socket that is asked for. Source: `parse_inet_diag_uid`, its arguments. -/
structure DiagQuery where
  sport : UInt16
  dport : UInt16
  src : Vector UInt32 4
  dst : Vector UInt32 4
  family : UInt8

/-- Source: `u16::to_be`. -/
def toBe (o : ByteOrder) (port : UInt16) : UInt16 :=
  UInt16.ofNat (o.value (ByteOrder.big.bytes 2 port.toNat))

/-- Source: `peercred.rs`, `fill_addrs`, on arrays of zeros. -/
def fillAddrs (o : ByteOrder) :
    SocketAddr → SocketAddr →
      Except LookupError (UInt16 × UInt16 × Vector UInt32 4 × Vector UInt32 4)
  | .v4 sip sport, .v4 dip dport =>
      .ok (toBe o sport, toBe o dport,
        #v[u32At o (ByteOrder.big.bytes 4 sip.toNat) 0, 0, 0, 0],
        #v[u32At o (ByteOrder.big.bytes 4 dip.toNat) 0, 0, 0, 0])
  | .v6 sip sport _ _, .v6 dip dport _ _ =>
      .ok (toBe o sport, toBe o dport, wordsAt o (ByteOrder.big.bytes 16 sip.toNat) 0,
        wordsAt o (ByteOrder.big.bytes 16 dip.toNat) 0)
  | _, _ => .error (.invalidInput "address family mismatch")

/-- The query for a connection. Source: `peercred.rs`, `query_inet_diag_uid`, `family`
and `fill_addrs`. -/
def connectionQuery (o : ByteOrder) (src dst : SocketAddr) : Except LookupError DiagQuery := do
  let family ← match src, dst with
    | .v4 .., .v4 .. => .ok afInet
    | .v6 .., .v6 .. => .ok afInet6
    | _, _ => .error (.invalidInput "src/dst address family mismatch")
  let (sport, dport, src, dst) ← fillAddrs o src dst
  .ok ⟨sport, dport, src, dst, family⟩

/-- Source: `peercred.rs`, `addrs_equal`. -/
def addrsEqual (a b : Vector UInt32 4) (family : UInt8) : Bool :=
  if family = afInet then a[0] = b[0] else a = b

/-- Source: `parse_inet_diag_uid`, the condition on `msg`. -/
def InetDiagMsg.isMatch (msg : InetDiagMsg) (q : DiagQuery) : Bool :=
  msg.idiagFamily = q.family && msg.idiagSport = q.sport && msg.idiagDport = q.dport &&
    addrsEqual msg.idiagSrc q.src q.family && addrsEqual msg.idiagDst q.dst q.family

/-! ## What matches -/

section

variable {o : ByteOrder} {as bs : List UInt8} {i j : ℕ}

theorem slice_length {size : ℕ} (h : i + size ≤ as.length) :
    ((as.drop i).take size).length = size := by
  rw [List.length_take, List.length_drop]
  omega

theorem u16At_eq_iff (ha : i + 2 ≤ as.length) (hb : j + 2 ≤ bs.length) :
    u16At o as i = u16At o bs j ↔ (as.drop i).take 2 = (bs.drop j).take 2 := by
  have hlt : ∀ l : List UInt8, l.length = 2 → o.value l < 2 ^ 16 := fun l hl => by
    have hvalue := o.value_lt l
    rw [hl] at hvalue
    exact hvalue
  unfold u16At
  rw [← ByteOrder.value_inj ((slice_length ha).trans (slice_length hb).symm),
    ← UInt16.toNat_inj, UInt16.toNat_ofNat', UInt16.toNat_ofNat',
    Nat.mod_eq_of_lt (hlt _ (slice_length ha)), Nat.mod_eq_of_lt (hlt _ (slice_length hb))]

theorem u32At_eq_iff (ha : i + 4 ≤ as.length) (hb : j + 4 ≤ bs.length) :
    u32At o as i = u32At o bs j ↔ (as.drop i).take 4 = (bs.drop j).take 4 := by
  have hlt : ∀ l : List UInt8, l.length = 4 → o.value l < 2 ^ 32 := fun l hl => by
    have hvalue := o.value_lt l
    rw [hl] at hvalue
    exact hvalue
  unfold u32At
  rw [← ByteOrder.value_inj ((slice_length ha).trans (slice_length hb).symm),
    ← UInt32.toNat_inj, UInt32.toNat_ofNat', UInt32.toNat_ofNat',
    Nat.mod_eq_of_lt (hlt _ (slice_length ha)), Nat.mod_eq_of_lt (hlt _ (slice_length hb))]

/-- Four words are sixteen bytes. -/
theorem wordsAt_eq_iff (ha : i + 16 ≤ as.length) (hb : j + 16 ≤ bs.length) :
    wordsAt o as i = wordsAt o bs j ↔ (as.drop i).take 16 = (bs.drop j).take 16 := by
  have hwords : wordsAt o as i = wordsAt o bs j ↔ ∀ k < 4,
      ((as.drop i).drop (4 * k)).take 4 = ((bs.drop j).drop (4 * k)).take 4 := by
    unfold wordsAt
    rw [Vector.ext_iff]
    refine forall_congr' fun k => forall_congr' fun hk => ?_
    rw [Vector.getElem_ofFn, Vector.getElem_ofFn, u32At_eq_iff (by omega) (by omega),
      List.drop_drop, List.drop_drop]
  have hpieces : ∀ l : List UInt8, l.take 16 = l.take 4 ++ ((l.drop 4).take 4 ++
      ((l.drop 8).take 4 ++ (l.drop 12).take 4)) := fun l => by
    rw [show (16 : ℕ) = 4 + (4 + (4 + 4)) from rfl, List.take_add, List.take_add, List.take_add,
      List.drop_drop, List.drop_drop]
  rw [hwords]
  constructor
  · intro h
    have h0 := h 0 (by decide)
    rw [Nat.mul_zero, List.drop_zero, List.drop_zero] at h0
    rw [hpieces, hpieces, h0, h 1 (by decide), h 2 (by decide), h 3 (by decide)]
  · intro h k hk
    have hsub : ∀ l : List UInt8, (l.drop (4 * k)).take 4 = ((l.take 16).drop (4 * k)).take 4 :=
      fun l => by
        rw [List.drop_take, List.take_take, Nat.min_eq_left (by omega)]
    rw [hsub, h, ← hsub]

end

/-- An address as it goes over the network. -/
def ipBytes : SocketAddr → List UInt8
  | .v4 ip _ => ByteOrder.big.bytes 4 ip.toNat
  | .v6 ip _ _ _ => ByteOrder.big.bytes 16 ip.toNat

/-- A port as it goes over the network. -/
def portBytes (addr : SocketAddr) : List UInt8 := ByteOrder.big.bytes 2 addr.port.toNat

theorem port_matches {o : ByteOrder} {bytes : List UInt8} {i : ℕ} (hi : i + 2 ≤ bytes.length)
    (addr : SocketAddr) :
    u16At o bytes i = toBe o addr.port ↔ (bytes.drop i).take 2 = portBytes addr := by
  have hlen : (portBytes addr).length = 2 := by simp [portBytes]
  have hfull : ((portBytes addr).drop 0).take 2 = portBytes addr := by
    rw [List.drop_zero]
    exact List.take_of_length_le hlen.le
  have hiff : u16At o bytes i = u16At o (portBytes addr) 0 ↔ _ := u16At_eq_iff hi (by omega)
  rw [hfull] at hiff
  rw [← hiff, u16At, u16At, hfull]
  rfl

theorem ipv4_matches {o : ByteOrder} {bytes : List UInt8} {i : ℕ} (hi : i + 16 ≤ bytes.length)
    (ip : BitVec 32) (port : UInt16) :
    addrsEqual (wordsAt o bytes i) #v[u32At o (ByteOrder.big.bytes 4 ip.toNat) 0, 0, 0, 0] afInet ↔
      (bytes.drop i).take (ipBytes (.v4 ip port)).length = ipBytes (.v4 ip port) := by
  have hlen : (ByteOrder.big.bytes 4 ip.toNat).length = 4 := by simp
  have hiff : u32At o bytes i = u32At o (ByteOrder.big.bytes 4 ip.toNat) 0 ↔ _ :=
    u32At_eq_iff (by omega) (by omega)
  rw [List.drop_zero, List.take_of_length_le hlen.le] at hiff
  rw [ipBytes, hlen, ← hiff]
  simp [addrsEqual, wordsAt]

theorem ipv6_matches {o : ByteOrder} {bytes : List UInt8} {i : ℕ} (hi : i + 16 ≤ bytes.length)
    (ip : BitVec 128) (port : UInt16) (flowinfo scopeId : UInt32) :
    addrsEqual (wordsAt o bytes i) (wordsAt o (ByteOrder.big.bytes 16 ip.toNat) 0) afInet6 ↔
      (bytes.drop i).take (ipBytes (.v6 ip port flowinfo scopeId)).length =
        ipBytes (.v6 ip port flowinfo scopeId) := by
  have hlen : (ByteOrder.big.bytes 16 ip.toNat).length = 16 := by simp
  have hiff : wordsAt o bytes i = wordsAt o (ByteOrder.big.bytes 16 ip.toNat) 0 ↔ _ :=
    wordsAt_eq_iff hi (by omega)
  rw [List.drop_zero, List.take_of_length_le hlen.le] at hiff
  have hfamily : afInet6 ≠ afInet := by decide
  rw [ipBytes, hlen, ← hiff]
  simp [addrsEqual, hfamily]

theorem isMatch_iff {msg : InetDiagMsg} {q : DiagQuery} :
    msg.isMatch q = true ↔ msg.idiagFamily = q.family ∧ msg.idiagSport = q.sport ∧
      msg.idiagDport = q.dport ∧ addrsEqual msg.idiagSrc q.src q.family = true ∧
        addrsEqual msg.idiagDst q.dst q.family = true := by
  simp only [InetDiagMsg.isMatch, Bool.and_eq_true, decide_eq_true_eq, and_assoc]

/-- **Which sockets match a connection**: those of its family, with its ports and addresses in
network order, whatever order the machine has. -/
theorem isMatch_connectionQuery_iff {o : ByteOrder} {src dst : SocketAddr} {q : DiagQuery}
    (hq : connectionQuery o src dst = .ok q) {bytes : List UInt8}
    (hlen : bytes.length = InetDiagMsg.size) :
    (InetDiagMsg.ofBytes o bytes).isMatch q = true ↔
      bytes.headD 0 = q.family ∧
        (bytes.drop 4).take 2 = portBytes src ∧ (bytes.drop 6).take 2 = portBytes dst ∧
        (bytes.drop 8).take (ipBytes src).length = ipBytes src ∧
        (bytes.drop 24).take (ipBytes dst).length = ipBytes dst := by
  unfold InetDiagMsg.size at hlen
  rw [← port_matches (o := o) (by omega) src, ← port_matches (o := o) (by omega) dst]
  rcases src with ⟨sip, sport⟩ | ⟨sip, sport, sflow, sscope⟩
  · rcases dst with ⟨dip, dport⟩ | ⟨dip, dport, dflow, dscope⟩
    · obtain rfl := Except.ok.inj hq
      rw [← ipv4_matches (o := o) (by omega) sip sport,
        ← ipv4_matches (o := o) (by omega) dip dport]
      exact isMatch_iff
    · cases hq
  · rcases dst with ⟨dip, dport⟩ | ⟨dip, dport, dflow, dscope⟩
    · cases hq
    · obtain rfl := Except.ok.inj hq
      rw [← ipv6_matches (o := o) (by omega) sip sport sflow sscope,
        ← ipv6_matches (o := o) (by omega) dip dport dflow dscope]
      exact isMatch_iff

/-! ## The loop -/

/-- The bytes behind a reference to a struct of this size. -/
def structAt (buf : List UInt8) (offset size : ℕ) : Except Fault (List UInt8) :=
  (region buf offset size).elim (.error .outOfBounds) .ok

/-- Source: `parse_inet_diag_uid`, `(len + 3) & !3`; a `usize` has 64 bits. -/
def nlmsgAlign (len : UInt32) : ℕ := ((len.toUInt64 + 3) &&& ~~~3).toNat

/-- The users of the messages that match, from an offset on. Source: `parse_inet_diag_uid`, the
loop. -/
def scan (o : ByteOrder) (buf : List UInt8) (q : DiagQuery) :
    ℕ → ℕ → List UInt32 → Except Fault (Except LookupError (List UInt32))
  | 0, _, _ => .error .outOfFuel
  | fuel + 1, offset, found =>
      if offset + NlMsgHdr.size ≤ buf.length then do
        let hdr := NlMsgHdr.ofBytes o (← structAt buf offset NlMsgHdr.size)
        let len := hdr.nlmsgLen.toNat
        if len < NlMsgHdr.size ∨ buf.length < offset + len then .ok (.ok found)
        else if hdr.nlmsgType = nlmsgDone then .ok (.ok found)
        else if hdr.nlmsgType = nlmsgError then .ok (.error (.other "netlink sock_diag error"))
        else if offset + NlMsgHdr.size + InetDiagMsg.size ≤ offset + len then do
          let msg := InetDiagMsg.ofBytes o
            (← structAt buf (offset + NlMsgHdr.size) InetDiagMsg.size)
          scan o buf q fuel (offset + nlmsgAlign hdr.nlmsgLen)
            (if msg.isMatch q then found ++ [msg.idiagUid] else found)
        else scan o buf q fuel (offset + nlmsgAlign hdr.nlmsgLen) found
      else .ok (.ok found)

/-- Source: `parse_inet_diag_uid`, the last `match`. -/
def soleUid : List UInt32 → Except LookupError UInt32
  | [uid] => .ok uid
  | [] => .error (.notFound "no matching TCP socket for peer UID lookup")
  | _ => .error (.other "ambiguous TCP peer UID (multiple matches)")

/-- Source: `peercred.rs`, `parse_inet_diag_uid`, with fuel for the loop. -/
def parseInetDiagUid (o : ByteOrder) (fuel : ℕ) (buf : List UInt8) (q : DiagQuery) :
    Except Fault (Except LookupError UInt32) :=
  (scan o buf q fuel 0 []).map fun found => found.bind soleUid

/-! ## Alignment -/

theorem nlmsgAlign_eq (len : UInt32) : nlmsgAlign len = (len.toNat + 3) / 4 * 4 := by
  have hlt := len.toNat_lt
  have hsum : (len.toUInt64 + 3).toNat = len.toNat + 3 := by
    rw [UInt64.toNat_add, UInt32.toNat_toUInt64]
    exact Nat.mod_eq_of_lt (by simp; omega)
  have hmask : (~~~3 : UInt64).toNat = 2 ^ 64 - (3 + 1) := by decide
  have hthree : ∀ i, Nat.testBit 3 i = decide (i < 2) := Nat.testBit_two_pow_sub_one 2
  rw [nlmsgAlign, UInt64.toNat_and, hsum, hmask]
  -- bit by bit: the lowest two are cleared
  refine Nat.eq_of_testBit_eq fun i => ?_
  rw [Nat.testBit_and, Nat.testBit_two_pow_sub_succ (by decide), hthree,
    show (len.toNat + 3) / 4 * 4 = (len.toNat + 3) / 2 ^ 2 * 2 ^ 2 from rfl,
    ← Nat.shiftRight_eq_div_pow, ← Nat.shiftLeft_eq, Nat.testBit_shiftLeft, Nat.testBit_shiftRight]
  by_cases hi : 2 ≤ i
  · have hback : i - 2 + 2 = i := by omega
    by_cases hbig : i < 64
    · have hnot : ¬ i < 2 := by omega
      simp [hi, hbig, hnot, Nat.add_comm 2, hback]
    · have hpow : 2 ^ 64 ≤ 2 ^ i := Nat.pow_le_pow_right (by decide) (by omega)
      have hzero : Nat.testBit (len.toNat + 3) i = false :=
        Nat.testBit_eq_false_of_lt (by omega)
      simp [hi, hzero, Nat.add_comm 2, hback]
  · have hlow : i < 2 := by omega
    simp [hi, hlow]

/-- The next offset is behind the message. -/
theorem le_nlmsgAlign (len : UInt32) : len.toNat ≤ nlmsgAlign len := by
  rw [nlmsgAlign_eq]
  omega

theorem structAt_of_le {buf : List UInt8} {offset size : ℕ} (h : offset + size ≤ buf.length) :
    structAt buf offset size = .ok ((buf.drop offset).take size) := by
  rw [structAt, region_of_le h]
  rfl

/-! ## Any buffer -/

variable {o : ByteOrder} {q : DiagQuery} {buf : List UInt8} {fuel offset : ℕ}

/-- A complete message with a socket that matches stands at the offset of the buffer. -/
structure HoldsMatch (o : ByteOrder) (q : DiagQuery) (buf : List UInt8) (uid : UInt32)
    (offset : ℕ) : Prop where
  header : ∃ bytes, region buf offset NlMsgHdr.size = some bytes ∧
    NlMsgHdr.size + InetDiagMsg.size ≤ (NlMsgHdr.ofBytes o bytes).nlmsgLen.toNat ∧
    offset + (NlMsgHdr.ofBytes o bytes).nlmsgLen.toNat ≤ buf.length ∧
    (NlMsgHdr.ofBytes o bytes).nlmsgType ≠ nlmsgDone ∧
    (NlMsgHdr.ofBytes o bytes).nlmsgType ≠ nlmsgError
  socket : ∃ bytes, region buf (offset + NlMsgHdr.size) InetDiagMsg.size = some bytes ∧
    (InetDiagMsg.ofBytes o bytes).isMatch q = true ∧ (InetDiagMsg.ofBytes o bytes).idiagUid = uid

/-- **The loop on any buffer** ends without leaving the buffer, and finds users of complete
messages that match. -/
theorem scan_any (found : List UInt32) (hfuel : buf.length - offset < fuel) :
    ∃ result, scan o buf q fuel offset found = .ok result ∧
      ∀ uids, result = .ok uids → ∃ new, uids = found ++ new ∧
        ∀ uid ∈ new, ∃ offset, HoldsMatch o q buf uid offset := by
  induction fuel generalizing offset found with
  | zero => omega
  | succ fuel ih =>
      have hstop : ∀ uids, (.ok found : Except LookupError (List UInt32)) = .ok uids →
          ∃ new, uids = found ++ new ∧ ∀ uid ∈ new, ∃ offset, HoldsMatch o q buf uid offset := by
        intro uids huids
        obtain rfl := Except.ok.inj huids
        exact ⟨[], by simp, by simp⟩
      unfold scan
      split_ifs with hroom
      · have hheader := region_of_le hroom
        rw [structAt_of_le hroom]
        simp only [bind, Except.bind]
        generalize (buf.drop offset).take NlMsgHdr.size = header at hheader ⊢
        split_ifs with hbounds hdone herror hsocket
        · exact ⟨_, rfl, hstop⟩
        · exact ⟨_, rfl, hstop⟩
        · exact ⟨_, rfl, fun uids huids => by cases huids⟩
        all_goals
          have hle := le_nlmsgAlign (NlMsgHdr.ofBytes o header).nlmsgLen
          have hlen : NlMsgHdr.size ≤ (NlMsgHdr.ofBytes o header).nlmsgLen.toNat ∧
              offset + (NlMsgHdr.ofBytes o header).nlmsgLen.toNat ≤ buf.length := by omega
          have hnext : buf.length - (offset + nlmsgAlign (NlMsgHdr.ofBytes o header).nlmsgLen) <
              fuel := by
            unfold NlMsgHdr.size at hroom hlen
            omega
        · have hregion : offset + NlMsgHdr.size + InetDiagMsg.size ≤ buf.length := by omega
          have hsock := region_of_le hregion
          rw [structAt_of_le hregion]
          dsimp only
          generalize (buf.drop (offset + NlMsgHdr.size)).take InetDiagMsg.size = socket
            at hsock ⊢
          obtain ⟨result, hscan, hfound⟩ := ih (if (InetDiagMsg.ofBytes o socket).isMatch q then
            found ++ [(InetDiagMsg.ofBytes o socket).idiagUid] else found) hnext
          refine ⟨result, hscan, fun uids huids => ?_⟩
          obtain ⟨new, hnew, hall⟩ := hfound uids huids
          split_ifs at hnew with hmatch
          · refine ⟨_ :: new, by rw [hnew, List.append_assoc]; rfl, ?_⟩
            intro uid huid
            rcases List.mem_cons.mp huid with rfl | huid
            · exact ⟨offset, ⟨header, hheader, by omega, hlen.2, hdone, herror⟩,
                ⟨socket, hsock, hmatch, rfl⟩⟩
            · exact hall uid huid
          · exact ⟨new, hnew, hall⟩
        · exact ih found hnext
      · exact ⟨_, rfl, hstop⟩

/-! ## Messages -/

/-- A message of the kernel. -/
structure NetlinkMessage where
  type : UInt16
  flags : UInt16
  seq : UInt32
  pid : UInt32
  payload : List UInt8
  /-- The length of the message fits its header. -/
  fits : NlMsgHdr.size + payload.length < 2 ^ 32

namespace NetlinkMessage

variable {m : NetlinkMessage} {ms : List NetlinkMessage}

/-- The header as it is in memory. -/
def header (o : ByteOrder) (m : NetlinkMessage) : List UInt8 :=
  o.bytes 4 (NlMsgHdr.size + m.payload.length) ++ (o.bytes 2 m.type.toNat ++
    (o.bytes 2 m.flags.toNat ++ (o.bytes 4 m.seq.toNat ++ o.bytes 4 m.pid.toNat)))

/-- The message as it is in memory. -/
def bytes (o : ByteOrder) (m : NetlinkMessage) : List UInt8 := m.header o ++ m.payload

/-- The user of the message, if it carries the socket that is asked for. -/
def carriedUid (o : ByteOrder) (q : DiagQuery) (m : NetlinkMessage) : Option UInt32 :=
  if InetDiagMsg.size ≤ m.payload.length ∧
      (InetDiagMsg.ofBytes o (m.payload.take InetDiagMsg.size)).isMatch q then
    some (InetDiagMsg.ofBytes o (m.payload.take InetDiagMsg.size)).idiagUid
  else none

@[simp] theorem length_header (o : ByteOrder) (m : NetlinkMessage) :
    (m.header o).length = NlMsgHdr.size := by
  simp [header, NlMsgHdr.size]

theorem length_bytes (o : ByteOrder) (m : NetlinkMessage) :
    (m.bytes o).length = NlMsgHdr.size + m.payload.length := by
  simp [bytes]

/-- What is read of a header is what the message says. -/
theorem ofBytes_header (o : ByteOrder) (m : NetlinkMessage) :
    (NlMsgHdr.ofBytes o (m.header o)).nlmsgLen.toNat = NlMsgHdr.size + m.payload.length ∧
      (NlMsgHdr.ofBytes o (m.header o)).nlmsgType = m.type := by
  have hfits := m.fits
  have hlen : ((m.header o).drop 0).take 4 = o.bytes 4 (NlMsgHdr.size + m.payload.length) := by
    rw [header, List.drop_zero]
    exact List.take_left' (by simp)
  have htype : ((m.header o).drop 4).take 2 = o.bytes 2 m.type.toNat := by
    rw [header, List.drop_left' (by simp)]
    exact List.take_left' (by simp)
  constructor
  · rw [NlMsgHdr.ofBytes, u32At, hlen, ByteOrder.value_bytes, UInt32.toNat_ofNat']
    omega
  · rw [NlMsgHdr.ofBytes, u16At, htype, ByteOrder.value_bytes]
    refine UInt16.toNat_inj.mp ?_
    have hlt := m.type.toNat_lt
    rw [UInt16.toNat_ofNat']
    omega

end NetlinkMessage

/-- The messages one after the other in a buffer, each padded to a multiple of four bytes; the
padding of the last one may be missing. -/
inductive LaidOut (o : ByteOrder) : List NetlinkMessage → List UInt8 → Prop
  | nil : LaidOut o [] []
  | last (m : NetlinkMessage) : LaidOut o [m] (m.bytes o)
  | cons (m : NetlinkMessage) (padding : List UInt8) {ms : List NetlinkMessage} {buf : List UInt8} :
      (m.bytes o ++ padding).length = ((m.bytes o).length + 3) / 4 * 4 → LaidOut o ms buf →
        LaidOut o (m :: ms) (m.bytes o ++ (padding ++ buf))

/-- The messages before the end marker. -/
def beforeEnd (ms : List NetlinkMessage) : List NetlinkMessage :=
  ms.takeWhile fun m => m.type ≠ nlmsgDone

/-- What the loop finds in messages. -/
def collect (o : ByteOrder) (q : DiagQuery) : List NetlinkMessage →
    Except LookupError (List UInt32)
  | [] => .ok []
  | m :: ms =>
      if m.type = nlmsgDone then .ok []
      else if m.type = nlmsgError then .error (.other "netlink sock_diag error")
      else (collect o q ms).map ((m.carriedUid o q).toList ++ ·)

/-- The next round of the loop at a message. -/
theorem scan_message {pre rest found : List _} (m : NetlinkMessage) :
    scan o (pre ++ (m.bytes o ++ rest)) q (fuel + 1) pre.length found =
      if m.type = nlmsgDone then .ok (.ok found)
      else if m.type = nlmsgError then .ok (.error (.other "netlink sock_diag error"))
      else scan o (pre ++ (m.bytes o ++ rest)) q fuel
        (pre.length + ((m.bytes o).length + 3) / 4 * 4) (found ++ (m.carriedUid o q).toList) := by
  obtain ⟨hlen, htype⟩ := m.ofBytes_header o
  have hbytes := m.length_bytes o
  have hheader : structAt (pre ++ (m.bytes o ++ rest)) pre.length NlMsgHdr.size =
      .ok (m.header o) := by
    have hregion := region_append pre (m.header o) (m.payload ++ rest)
    rw [NetlinkMessage.length_header] at hregion
    rw [structAt, NetlinkMessage.bytes, List.append_assoc, hregion]
    rfl
  have htotal : (pre ++ (m.bytes o ++ rest)).length =
      pre.length + (NlMsgHdr.size + m.payload.length) + rest.length := by
    rw [List.length_append, List.length_append, hbytes]
    omega
  have hroom : pre.length + NlMsgHdr.size ≤ (pre ++ (m.bytes o ++ rest)).length := by omega
  have hbounds : ¬ (NlMsgHdr.size + m.payload.length < NlMsgHdr.size ∨
      (pre ++ (m.bytes o ++ rest)).length < pre.length + (NlMsgHdr.size + m.payload.length)) := by
    omega
  have halign : nlmsgAlign (NlMsgHdr.ofBytes o (m.header o)).nlmsgLen =
      ((m.bytes o).length + 3) / 4 * 4 := by
    rw [nlmsgAlign_eq, hlen, hbytes]
  rw [scan, if_pos hroom, hheader]
  simp only [bind, Except.bind, hlen, htype, halign, if_neg hbounds]
  split_ifs with hdone herror hsocket
  · rfl
  · rfl
  · have hsize : InetDiagMsg.size ≤ m.payload.length := by omega
    have hsock : structAt (pre ++ (m.bytes o ++ rest)) (pre.length + NlMsgHdr.size)
        InetDiagMsg.size = .ok (m.payload.take InetDiagMsg.size) := by
      have hregion := region_append (pre ++ m.header o) (m.payload.take InetDiagMsg.size)
        (m.payload.drop InetDiagMsg.size ++ rest)
      rw [← List.append_assoc (m.payload.take InetDiagMsg.size), List.take_append_drop,
        List.length_append, NetlinkMessage.length_header, List.length_take_of_le hsize,
        List.append_assoc] at hregion
      rw [structAt, NetlinkMessage.bytes, List.append_assoc, hregion]
      rfl
    rw [hsock]
    unfold NetlinkMessage.carriedUid
    split_ifs <;> simp_all
  · have hsize : ¬ InetDiagMsg.size ≤ m.payload.length := by omega
    simp [NetlinkMessage.carriedUid, hsize]

/-- The loop ends where no header has room. -/
theorem scan_end {found : List UInt32} (hfuel : 0 < fuel)
    (hend : buf.length < offset + NlMsgHdr.size) :
    scan o buf q fuel offset found = .ok (.ok found) := by
  obtain ⟨fuel, rfl⟩ := Nat.exists_eq_succ_of_ne_zero hfuel.ne'
  rw [scan, if_neg (by omega)]

/-- **The loop on messages** finds what is in the messages. -/
theorem scan_laidOut {ms : List NetlinkMessage} (h : LaidOut o ms buf) (pre : List UInt8)
    (found : List UInt32) (hfuel : buf.length < fuel) :
    scan o (pre ++ buf) q fuel pre.length found = .ok ((collect o q ms).map (found ++ ·)) := by
  induction h generalizing pre found fuel with
  | nil =>
      rw [scan_end (by omega) (by simp [NlMsgHdr.size])]
      simp [collect, Except.map]
  | last m =>
      have hlen := m.length_bytes o
      obtain ⟨fuel, rfl⟩ := Nat.exists_eq_succ_of_ne_zero (by omega : fuel ≠ 0)
      have hround : scan o (pre ++ (m.bytes o ++ [])) q (fuel + 1) pre.length found = _ :=
        scan_message m
      rw [List.append_nil] at hround
      rw [hround, collect]
      split_ifs with hdone herror
      · simp [Except.map]
      · simp [Except.map]
      · have hend : (pre ++ m.bytes o).length <
            pre.length + ((m.bytes o).length + 3) / 4 * 4 + NlMsgHdr.size := by
          rw [List.length_append]
          unfold NlMsgHdr.size
          omega
        rw [scan_end (by unfold NlMsgHdr.size at hlen; omega) hend]
        simp [collect, Except.map]
  | @cons m padding ms buf hpad _ ih =>
      have hlen := m.length_bytes o
      obtain ⟨fuel, rfl⟩ := Nat.exists_eq_succ_of_ne_zero (by omega : fuel ≠ 0)
      rw [scan_message, collect]
      split_ifs with hdone herror
      · simp [Except.map]
      · simp [Except.map]
      · have hless : buf.length < fuel := by
          simp only [List.length_append] at hfuel
          unfold NlMsgHdr.size at hlen
          omega
        have hrest := ih (pre ++ (m.bytes o ++ padding)) (found ++ (m.carriedUid o q).toList) hless
        rw [List.length_append, hpad, List.append_assoc, List.append_assoc] at hrest
        rw [hrest]
        rcases collect o q ms with e | uids
        · rfl
        · simp [Except.map]

/-- What is found are the sockets before the end marker, if no error stands there. -/
theorem collect_eq (o : ByteOrder) (q : DiagQuery) (ms : List NetlinkMessage) :
    collect o q ms =
      if ∃ m ∈ beforeEnd ms, m.type = nlmsgError then .error (.other "netlink sock_diag error")
      else .ok ((beforeEnd ms).filterMap (NetlinkMessage.carriedUid o q)) := by
  induction ms with
  | nil => simp [collect, beforeEnd]
  | cons m ms ih =>
      unfold beforeEnd at ih ⊢
      rw [collect, ih]
      by_cases hdone : m.type = nlmsgDone
      · simp [hdone]
      · rw [if_neg hdone, List.takeWhile_cons_of_pos (by simpa using hdone)]
        by_cases herror : m.type = nlmsgError
        · rw [if_pos herror, if_pos ⟨m, List.mem_cons_self, herror⟩]
        · rw [if_neg herror]
          have hiff : (∃ m' ∈ m :: ms.takeWhile fun m => m.type ≠ nlmsgDone,
              m'.type = nlmsgError) ↔
              ∃ m' ∈ ms.takeWhile fun m => m.type ≠ nlmsgDone, m'.type = nlmsgError := by
            simp [herror]
          simp only [hiff]
          split_ifs
          · rfl
          · rcases huid : m.carriedUid o q with _ | uid
            · simp [Except.map, huid]
            · simp [Except.map, huid]

/-- The only user of a list, or the error that there is none or more than one. -/
theorem soleUid_eq_ok_iff {found : List UInt32} {uid : UInt32} :
    soleUid found = .ok uid ↔ found = [uid] := by
  rcases found with _ | ⟨u, _ | ⟨v, rest⟩⟩
  · exact iff_of_false (fun h => nomatch h) (List.cons_ne_nil _ _).symm
  · constructor
    · intro h
      obtain rfl : u = uid := Except.ok.inj h
      exact rfl
    · intro h
      obtain rfl : u = uid := (List.cons.inj h).1
      exact rfl
  · exact iff_of_false (fun h => nomatch h) fun h => List.cons_ne_nil v rest (List.cons.inj h).2

/-- **Whose connection it is.** In a buffer of messages, the lookup gives a user exactly if no error
message stands before the end marker and one message there carries the socket, with this user; the
errors tell an error message, no such message and several of them apart. In any buffer it comes to
an end without reading beyond the buffer, and gives only a user of a complete message that matches.
And a message matches the query for a connection exactly if it has its family, and its ports and
addresses in network order.
Source: `peercred.rs`, `parse_inet_diag_uid`; `multi-user-design.md`, "failure or ambiguity must
fail closed" -/
theorem parseInetDiagUid_outcome (o : ByteOrder) (q : DiagQuery) :
    (∀ ms buf, LaidOut o ms buf → ∀ fuel, buf.length < fuel →
      ∃ result, parseInetDiagUid o fuel buf q = .ok result ∧
        (∀ uid, result = .ok uid ↔
          (∀ m ∈ beforeEnd ms, m.type ≠ nlmsgError) ∧
            (beforeEnd ms).filterMap (NetlinkMessage.carriedUid o q) = [uid]) ∧
        ((∃ m ∈ beforeEnd ms, m.type = nlmsgError) →
          result = .error (.other "netlink sock_diag error")) ∧
        ((∀ m ∈ beforeEnd ms, m.type ≠ nlmsgError) →
          (beforeEnd ms).filterMap (NetlinkMessage.carriedUid o q) = [] →
            result = .error (.notFound "no matching TCP socket for peer UID lookup")) ∧
        ((∀ m ∈ beforeEnd ms, m.type ≠ nlmsgError) →
          1 < ((beforeEnd ms).filterMap (NetlinkMessage.carriedUid o q)).length →
            result = .error (.other "ambiguous TCP peer UID (multiple matches)"))) ∧
    (∀ buf fuel, buf.length < fuel →
      ∃ result, parseInetDiagUid o fuel buf q = .ok result ∧
        ∀ uid, result = .ok uid → ∃ offset, HoldsMatch o q buf uid offset) ∧
    ∀ src dst, connectionQuery o src dst = .ok q → ∀ bytes, bytes.length = InetDiagMsg.size →
      ((InetDiagMsg.ofBytes o bytes).isMatch q = true ↔
        bytes.headD 0 = q.family ∧
          (bytes.drop 4).take 2 = portBytes src ∧ (bytes.drop 6).take 2 = portBytes dst ∧
          (bytes.drop 8).take (ipBytes src).length = ipBytes src ∧
          (bytes.drop 24).take (ipBytes dst).length = ipBytes dst) := by
  refine ⟨?_, ?_, fun _ _ hq _ hlen => isMatch_connectionQuery_iff hq hlen⟩
  · intro ms buf hlaid fuel hfuel
    have hscan : scan o buf q fuel 0 [] = .ok ((collect o q ms).map ([] ++ ·)) :=
      scan_laidOut hlaid [] [] hfuel
    refine ⟨(collect o q ms).bind soleUid, ?_, ?_⟩
    · rw [parseInetDiagUid, hscan]
      rcases collect o q ms with e | uids
      · rfl
      · rfl
    · rw [collect_eq]
      by_cases herror : ∃ m ∈ beforeEnd ms, m.type = nlmsgError
      · rw [if_pos herror]
        obtain ⟨m, hm, htype⟩ := herror
        refine ⟨fun uid => ?_, fun _ => rfl, fun hnone => ?_, fun hnone => ?_⟩
        · constructor
          · intro h
            cases h
          · rintro ⟨hnone, -⟩
            exact absurd htype (hnone m hm)
        · exact absurd htype (hnone m hm)
        · exact absurd htype (hnone m hm)
      · rw [if_neg herror]
        have hnone : ∀ m ∈ beforeEnd ms, m.type ≠ nlmsgError := fun m hm htype =>
          herror ⟨m, hm, htype⟩
        refine ⟨fun uid => ?_, fun h => absurd h herror, fun _ hnil => ?_, fun _ hmany => ?_⟩
        · exact soleUid_eq_ok_iff.trans (and_iff_right hnone).symm
        · rw [hnil]
          rfl
        · rcases huids : (beforeEnd ms).filterMap (NetlinkMessage.carriedUid o q) with
            _ | ⟨u, _ | ⟨v, rest⟩⟩
          · rw [huids] at hmany
            exact absurd hmany (by decide)
          · rw [huids] at hmany
            exact absurd hmany (lt_irrefl 1)
          · rfl
  · intro buf fuel hfuel
    have hroom : buf.length - 0 < fuel := hfuel
    obtain ⟨result, hscan, hfound⟩ := scan_any (o := o) (q := q) [] hroom
    refine ⟨result.bind soleUid, ?_, fun uid huid => ?_⟩
    · rw [parseInetDiagUid, hscan]
      rfl
    · rcases result with e | uids
      · cases huid
      · obtain rfl := soleUid_eq_ok_iff.mp huid
        obtain ⟨new, hnew, hall⟩ := hfound _ rfl
        rw [List.nil_append] at hnew
        exact hall uid (by rw [← hnew]; exact List.mem_singleton_self uid)

/-- The answer with one socket, of user 1000, and the end marker. -/
def oneSocket : List NetlinkMessage :=
  [{ type := 20, flags := 2, seq := 1, pid := 0, fits := by decide
     payload := [2, 1, 0, 0] ++ ByteOrder.big.bytes 2 40000 ++ ByteOrder.big.bytes 2 5037 ++
       [127, 0, 0, 1] ++ List.replicate 12 0 ++ [127, 0, 0, 1] ++ List.replicate 36 0 ++
       ByteOrder.little.bytes 4 1000 ++ List.replicate 4 0 },
   { type := 3, flags := 2, seq := 1, pid := 0, payload := [0, 0, 0, 0], fits := by decide }]

/-- The user of a client of the hub. -/
theorem oneSocket_uid :
    ∃ q buf, connectionQuery .little (.loopback 40000) (.loopback 5037) = .ok q ∧
      LaidOut .little oneSocket buf ∧ parseInetDiagUid .little 109 buf q = .ok (.ok 1000) := by
  obtain ⟨q, hq⟩ : ∃ q, connectionQuery .little (.loopback 40000) (.loopback 5037) = .ok q :=
    ⟨_, rfl⟩
  have hlaid : LaidOut .little oneSocket _ := .cons _ [] (by decide +kernel) (.last _)
  refine ⟨q, _, hq, hlaid, ?_⟩
  obtain ⟨result, hparse, hiff, -⟩ :=
    (parseInetDiagUid_outcome .little q).1 _ _ hlaid 109 (by decide +kernel)
  rw [hparse, (hiff 1000).mpr ⟨by decide, ?_⟩]
  obtain rfl := Except.ok.inj hq
  decide +kernel

end AdbHub.PeerCred
