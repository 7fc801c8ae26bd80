import AdbHub.Lib.Framing
import AdbHub.PairedBackend

/-!
# Following the list of a proxy

The long-lived query by which the hub follows the devices of a backend, with a proxy at the other
end (`backend.rs`, `watch_track_devices`; `lib.rs`, `proxy_connection`, `host:track-devices`).

* `watchTrackDevices` — the lists that are stored, one after the other, and what ends it.
* `shownLists` — lists as the proxy shows them, each under the policy of its time.
* `client_written_trackLists` and `on_storeLists` — the two loops, list by list.
* **`paired_tracking`** — the hub stores the lists of the adb server, one for one and in order, each
  filtered by the policy in force when it passed the proxy.
-/

namespace AdbHub

open Lib Protocol

/-! ## The two loops -/

/-- One packet, if there is a whole one. -/
def parsePacket (s : Stream) : Option (Stream × Stream) :=
  match readPacket.on s with
  | (.ok p, rest) => some (p, rest)
  | (.error _, _) => none

/-- The packets a stream begins with, as many as there are. -/
def packetsOf (s : Stream) : List Stream := (parseMany parsePacket (s.length + 1) s).1

/-- At most `fuel` lists are stored, until an error ends the tracking. Source: `backend.rs`, the
loop of `watch_track_devices`. -/
def storeLists : ℕ → Connection (List String × Option IoError)
  | 0 => return ([], none)
  | fuel + 1 => do
      match ← (recvPacket .target).attempt with
      | .error err => return ([], some err)
      | .ok body => do
          let (stored, ended) ← storeLists fuel
          return (fromUtf8Lossy body :: stored, ended)

/-- As many lists as the backend sends. -/
def storeAllLists : Connection (List String × Option IoError) :=
  Effect.act fun c => (storeLists ((c.incoming .target).items.length + 1)).on c

/-- The error of a backend that does not track devices. Source: `backend.rs`,
`watch_track_devices`. -/
def trackStatusError (status reason : Stream) : IoError :=
  .other ("track-devices-l status " ++ fromUtf8Lossy status ++ ": " ++ fromUtf8Lossy reason)

/-- What is read of a backend that was asked to track. Source: `backend.rs`,
`watch_track_devices`. -/
def readTracking : Connection (List String × Option IoError) := do
  let status ← recvExact .target 4
  if status = okayStatus then storeAllLists
  else if status = failStatus then do
    let reason ← (recvPacket .target).attempt
    throw (trackStatusError status (reason.toOption.getD []))
  else throw (trackStatusError status status)

/-- The lists that are stored for a backend. Source: `backend.rs`, `watch_track_devices`. -/
def watchTrackDevices (env : ProxyEnv) (pairCode : Option String) :
    Connection (List String × Option IoError) :=
  askBackend env pairCode "host:track-devices-l" readTracking

/-- Lists as the proxy shows them, if it has filtered `k` before. -/
def shownLists (proxy : ProxyEnv) (k : ℕ) (bodies : List Stream) : List String :=
  (bodies.zipIdx k).map fun (body, i) =>
    filterDevicesBody (fromUtf8Lossy body) (proxy.refresh i).isEnabled

section loops

variable {proxy : ProxyEnv} {c : ProxyConn} {s : Stream}

theorem shownLists_cons (proxy : ProxyEnv) (k : ℕ) (body : Stream) (bodies : List Stream) :
    shownLists proxy k (body :: bodies) =
      filterDevicesBody (fromUtf8Lossy body) (proxy.refresh k).isEnabled ::
        shownLists proxy (k + 1) bodies := by
  unfold shownLists
  rw [List.zipIdx_cons, List.map_cons]

/-- Without a whole packet at the front, reading one fails. -/
theorem recvPacket_error (h : parsePacket (c.wires.ins .target) = none) :
    ∃ err c', (recvPacket .target).on c = (.error err, c') := by
  rcases hrecv : (recvPacket .target).on c with ⟨err | body, c'⟩
  · exact ⟨err, c', rfl⟩
  · have hread := recvPacket_ok hrecv
    rw [← ProxyConn.ins_wires] at hread
    unfold parsePacket at h
    rw [hread] at h
    simp at h

/-- A whole packet at the front is read. -/
theorem recvPacket_parsed {body rest : Stream}
    (h : parsePacket (c.wires.ins .target) = some (body, rest)) :
    ∃ t, (recvPacket .target).on c = (.ok body, c.setIncoming .target t) ∧ t.items = rest := by
  unfold parsePacket at h
  rcases hread : readPacket.on (c.wires.ins .target) with ⟨err | p, r⟩
  · rw [hread] at h
    simp at h
  · rw [hread] at h
    obtain ⟨rfl, rfl⟩ := Prod.mk.inj (Option.some.inj h)
    rw [ProxyConn.ins_wires] at hread
    exact recvPacket_of_items hread

/-- **The loop of the proxy**: every packet of the adb server makes one for the client. -/
theorem client_written_trackLists
    (hwrites : ∀ peer written bytes, proxy.writeFault peer written bytes = none) (fuel : ℕ)
    (c : ProxyConn) :
    ((trackLists proxy fuel).on c).2.client.written = c.client.written ++
      ((shownLists proxy c.filtered (parseMany parsePacket fuel (c.wires.ins .target)).1).map
        fun text => packetBytes (utf8 text)).flatten := by
  induction fuel generalizing c with
  | zero => exact (List.append_nil _).symm
  | succ fuel ih =>
      unfold trackLists
      rw [Effect.on_bind_ok (Effect.on_attempt _ c)]
      rcases hparse : parsePacket (c.wires.ins .target) with _ | ⟨body, rest⟩
      · obtain ⟨err, c', hrecv⟩ := recvPacket_error hparse
        obtain ⟨t, ht⟩ := recvPacket_leaves .target c
        rw [hrecv] at ht ⊢
        obtain rfl : c' = c.setIncoming .target t := ht
        simp only [parseMany, hparse]
        split_ifs
        all_goals exact (List.append_nil _).symm
      · obtain ⟨t, hrecv, rfl⟩ := recvPacket_parsed hparse
        have hlist : (filteredBody proxy body).on (c.setIncoming .target t) =
            (.ok (utf8 (filterDevicesBody (fromUtf8Lossy body) (proxy.refresh c.filtered).isEnabled)),
              { c.setIncoming .target t with filtered := c.filtered + 1 }) := rfl
        have hput := (putsOut_sendPacket proxy .client (utf8 (filterDevicesBody (fromUtf8Lossy body)
          (proxy.refresh c.filtered).isEnabled))).on_eq hwrites
          { c.setIncoming .target t with filtered := c.filtered + 1 }
        have hattempt := Effect.on_attempt (sendPacket proxy .client (utf8 (filterDevicesBody
          (fromUtf8Lossy body) (proxy.refresh c.filtered).isEnabled)))
          { c.setIncoming .target t with filtered := c.filtered + 1 }
        rw [hput] at hattempt
        rw [hrecv]
        simp only
        rw [Effect.on_bind_ok hlist, Effect.on_bind_ok hattempt]
        simp only
        rw [ih]
        simp only [parseMany, hparse, shownLists_cons, List.map_cons, List.flatten_cons]
        rw [← List.append_assoc]
        rfl

/-- **The loop of the hub**: every packet is stored as text. -/
theorem on_storeLists (fuel : ℕ) (c : ProxyConn) :
    ∃ ended c', (storeLists fuel).on c =
      (.ok ((parseMany parsePacket fuel (c.wires.ins .target)).1.map fromUtf8Lossy, ended), c') := by
  induction fuel generalizing c with
  | zero => exact ⟨none, c, rfl⟩
  | succ fuel ih =>
      unfold storeLists
      rw [Effect.on_bind_ok (Effect.on_attempt _ c)]
      rcases hparse : parsePacket (c.wires.ins .target) with _ | ⟨body, rest⟩
      · obtain ⟨err, c', hrecv⟩ := recvPacket_error hparse
        rw [hrecv]
        simp only [parseMany, hparse]
        exact ⟨some err, c', rfl⟩
      · obtain ⟨t, hrecv, rfl⟩ := recvPacket_parsed hparse
        obtain ⟨ended, c', hrest⟩ := ih (c.setIncoming .target t)
        have hin : (c.setIncoming .target t).wires.ins .target = t.items := by
          rw [ProxyConn.wires_setIncoming]
          rfl
        rw [hin] at hrest
        rw [hrecv]
        simp only [parseMany, hparse]
        rw [Effect.on_bind_ok hrest]
        exact ⟨ended, c', rfl⟩

theorem storeLists_keeps (fuel : ℕ) : (storeLists fuel).Keeps fun c => c.target.written := by
  induction fuel with
  | zero => exact Effect.keeps_pure _
  | succ fuel ih =>
      unfold storeLists
      apply (recvPacket_keeps .target).attempt.bind
      rintro (err | body)
      · exact Effect.keeps_pure _
      · exact ih.bind fun _ => Effect.keeps_pure _

theorem readTracking_keeps : readTracking.Keeps fun c => c.target.written := by
  apply (recvExact_keeps .target 4).bind
  intro status
  split_ifs
  · exact fun c => storeLists_keeps _ c
  · exact (recvPacket_keeps .target).attempt.bind fun _ => Effect.keeps_throw _
  · exact Effect.keeps_throw _

/-- Packets come out of a stream as they went in. -/
theorem parsePacket_packetBytes {p : Stream} (hp : p.length ≤ maxPayload) (r : Stream) :
    parsePacket (packetBytes p ++ r) = some (p, r) := by
  unfold parsePacket
  rw [on_readPacket_packetBytes hp]

/-- As many packets as there are come out of a stream, one after the other. -/
theorem packets_of_packetBytes {ps : List Stream} (hps : ∀ p ∈ ps, p.length ≤ maxPayload) {fuel : ℕ}
    (hfuel : ps.length ≤ fuel) :
    (parseMany parsePacket fuel (ps.map packetBytes).flatten).1 = ps := by
  have hframes : ((ps.map fun p => (p, packetBytes p)).map Prod.snd) = ps.map packetBytes := by
    rw [List.map_map]
    rfl
  have hmessages : ((ps.map fun p => (p, packetBytes p)).map Prod.fst) = ps := by
    rw [List.map_map]
    exact List.map_id ps
  have hlength : (ps.map fun p => (p, packetBytes p)).length ≤ fuel := by rwa [List.length_map]
  have hparse := parseMany_flatten (show parsePacket [] = none by decide +kernel)
    (ps.map fun p => (p, packetBytes p)) (fun f hf r => by
      obtain ⟨p, hp, rfl⟩ := List.mem_map.mp hf
      exact parsePacket_packetBytes (hps p hp) r) hlength
  rw [hframes, hmessages, List.append_nil] at hparse
  rw [hparse]

/-- No more packets than bytes. -/
theorem length_le_packets (ps : List Stream) : ps.length ≤ (ps.map packetBytes).flatten.length := by
  induction ps with
  | nil => exact Nat.le_refl 0
  | cons p ps ih =>
      have hfour := four_le_length_lowerHex4 p.length
      have hpacket : (packetBytes p).length = (lowerHex4 p.length).length + p.length :=
        List.length_append
      rw [List.map_cons, List.flatten_cons, List.length_append, List.length_cons, hpacket]
      omega

end loops

/-! ## From the adb server to the hub -/

section tracking

variable {env proxy : ProxyEnv} {client adb : Incoming UInt8 IoError} {s : Stream}

/-- The proxy follows the list of its adb server. -/
theorem served_track (hwrites : ∀ peer written bytes, proxy.writeFault peer written bytes = none)
    (hconnects : proxy.connectError = none) (h : adb.items = okayStatus ++ s) :
    served proxy "host:track-devices-l" adb = okayStatus ++
      ((shownLists proxy 0 (packetsOf s)).map fun text => packetBytes (utf8 text)).flatten := by
  have haction : proxyAction proxy.policy "host:track-devices-l" =
      .filterTrack "host:track-devices-l" := by
    have hserial : transportSerial "host:track-devices-l" = none := by decide +kernel
    unfold proxyAction
    rw [if_neg (by decide +kernel), hserial]
    rfl
  set c₀ : ProxyConn := { ProxyConn.start ⟨[], none⟩ adb with connected := true } with hc₀
  have hconnect : (connectTarget proxy).on (.start ⟨[], none⟩ adb) = (.ok (), c₀) := by
    unfold connectTarget
    rw [Effect.on_act, hconnects]
  have hsend : (sendService proxy .target "host:track-devices-l").on c₀ =
      (.ok (), c₀.put .target (packetBytes (utf8 "host:track-devices-l"))) :=
    (putsOut_sendPacket proxy .target _).on_eq hwrites c₀
  have hin : (c₀.put .target (packetBytes (utf8 "host:track-devices-l"))).wires.ins .target =
      okayStatus ++ s := by
    rw [ProxyConn.wires_put]
    exact h
  obtain ⟨t, hstatus, hrest⟩ : ∃ t, (recvExact .target 4).on
      (c₀.put .target (packetBytes (utf8 "host:track-devices-l"))) = (.ok okayStatus,
        (c₀.put .target (packetBytes (utf8 "host:track-devices-l"))).setIncoming .target t) ∧
      t.items = s := by
    rw [ProxyConn.ins_wires] at hin
    obtain ⟨t, ht, hitems⟩ := Incoming.readExact_of_items IoError.unexpectedEof hin
    refine ⟨t, ?_, hitems⟩
    show (_, _) = _
    rw [show (4 : ℕ) = okayStatus.length by decide, ht]
  have hokay := (putsOut_sendAll proxy .client okayStatus).on_eq hwrites
    ((c₀.put .target (packetBytes (utf8 "host:track-devices-l"))).setIncoming .target t)
  unfold served serveService
  rw [haction]
  simp only
  rw [Effect.on_bind_ok hconnect, Effect.on_bind_ok hsend, Effect.on_bind_ok hstatus, if_pos rfl]
  rw [Effect.on_bind_ok (show (sendOkay proxy .client).on _ = _ from hokay), Effect.snd_on_bind_pure]
  unfold trackAllLists
  rw [Effect.on_act, client_written_trackLists hwrites]
  have hlists : ((((c₀.put .target (packetBytes (utf8 "host:track-devices-l"))).setIncoming
      .target t).put .client okayStatus).wires.ins .target) = s := by
    rw [ProxyConn.wires_put, ProxyConn.wires_setIncoming, ← hrest]
    rfl
  rw [hlists, show ((((c₀.put .target (packetBytes (utf8 "host:track-devices-l"))).setIncoming
      .target t).put .client okayStatus).incoming .target).items = s from hrest]
  rfl

/-- **The lists through both.** In every exchange of the hub's tracking with a proxy, in pieces of
any length and whatever ends it, the hub stores the lists that the adb server sends, one for one and
in order, each filtered by the policy in force when it passed the proxy; each has to fit into a
packet.
Source: `backend.rs`, `watch_track_devices`; `lib.rs`, `proxy_connection`. -/
theorem paired_tracking (henv : env.Undisturbed)
    (hwrites : ∀ peer written bytes, proxy.writeFault peer written bytes = none)
    (hconnects : proxy.connectError = none) (hproxy : validatePairCode proxy.pairCode = .ok ())
    (e : Paired (watchTrackDevices env (some proxy.pairCode)) proxy client adb)
    (h : adb.items = okayStatus ++ s)
    (hfits : ∀ text ∈ shownLists proxy 0 (packetsOf s), (utf8 text).length ≤ maxPayload) :
    ∃ ended, e.hub.1 = .ok (shownLists proxy 0 (packetsOf s), ended) := by
  have hheard := heard_of_paired readTracking_keeps henv hwrites hproxy (by decide +kernel) e
  rw [served_track hwrites hconnects h] at hheard
  obtain ⟨c, hrun, hwires⟩ := on_askBackend_okay henv hheard proxy.pairCode
    "host:track-devices-l" client readTracking
  have hin := congrArg Wires.targetIn hwires
  obtain ⟨c₁, hstatus, hw₁⟩ := recvExact_front (by decide : okayStatus.length = 4)
    (show c.wires.ins .target = _ from hin)
  have hlists : c₁.wires.ins .target =
      (((shownLists proxy 0 (packetsOf s)).map utf8).map packetBytes).flatten := by
    rw [hw₁, List.map_map]
    rfl
  obtain ⟨ended, c₂, hstored⟩ := on_storeLists ((c₁.incoming .target).items.length + 1) c₁
  have hfuel : ((shownLists proxy 0 (packetsOf s)).map utf8).length ≤
      (c₁.incoming .target).items.length + 1 := by
    rw [← ProxyConn.ins_wires, hlists]
    exact (length_le_packets _).trans (Nat.le_succ _)
  rw [hlists, packets_of_packetBytes (by simpa using hfits) hfuel, List.map_map] at hstored
  have htexts : fromUtf8Lossy ∘ utf8 = id := funext fromUtf8Lossy_utf8
  rw [htexts, List.map_id] at hstored
  have htracked : readTracking.on c = (.ok (shownLists proxy 0 (packetsOf s), ended), c₂) := by
    unfold readTracking
    rw [Effect.on_bind_ok hstatus, if_pos rfl]
    exact hstored
  refine ⟨ended, ?_⟩
  show ((watchTrackDevices env (some proxy.pairCode)).on (.start client e.toLeft)).1 = _
  unfold watchTrackDevices
  rw [hrun, htracked]

end tracking

/-- A proxy that lends everything out at first, and no `A0001XX` afterwards. -/
def closingOffice : ProxyEnv :=
  { ProxyEnv.undisturbed "ABCD1234" with
    refresh := fun k => if k = 0 then .empty else DevicePolicyTable.empty.setEnabled "A0001XX" false }

/-- The hub follows its list, which the adb server sends twice before it is gone. -/
def trackingExchange : Paired (watchTrackDevices (.undisturbed "") (some "ABCD1234"))
    closingOffice (sends [])
    (sends (okayStatus ++ (packetBytes (utf8 "A0001XX\tdevice\n") ++
      packetBytes (utf8 "A0001XX\tdevice\nB0002YY\tdevice\n")))) where
  toLeft := ⟨[utf8 "OKA", utf8 "YOKAY00", utf8 "0fA0001XX\tdevice\n000fB00",
    utf8 "02YY\tdevice\n"], none⟩
  toRight := ⟨[utf8 "000dauth:ABCD1", utf8 "2340014host:track-devices-l"], none⟩
  toLeft_items := by decide +kernel
  toRight_items := by decide +kernel

theorem office_followed : ∃ ended, trackingExchange.hub.1 =
    .ok (shownLists closingOffice 0 (packetsOf (packetBytes (utf8 "A0001XX\tdevice\n") ++
      packetBytes (utf8 "A0001XX\tdevice\nB0002YY\tdevice\n"))), ended) := by
  have henv : (ProxyEnv.undisturbed "").Undisturbed := ⟨rfl, fun _ _ _ => rfl, rfl⟩
  have hwrites : ∀ peer written bytes, closingOffice.writeFault peer written bytes = none :=
    fun _ _ _ => rfl
  have hcode : validatePairCode closingOffice.pairCode = .ok () := by decide +kernel
  have hfits : ∀ text ∈ shownLists closingOffice 0 (packetsOf (packetBytes (utf8
      "A0001XX\tdevice\n") ++ packetBytes (utf8 "A0001XX\tdevice\nB0002YY\tdevice\n"))),
      (utf8 text).length ≤ maxPayload := by decide +kernel
  exact paired_tracking henv hwrites rfl hcode trackingExchange rfl hfits

end AdbHub
