import AdbHub.Link.Sound

/-!
# The sessions of an agent connection as sessions of the library

* `Link.mux` — daemon and agent are the library's sessions and workers.
* `muxStep_daemon` — what the sessions do is what the library's sessions do, or nothing it sees.
* `muxStep_toDaemon`, `muxStep_toAgent` — a message that is taken up is to the library what its
  packet is.
-/

namespace AdbHub

open Lib

/-! ## Sessions and workers -/

/-- A message as a packet. -/
def IpcMessage.packet : IpcMessage → Option (Packet UInt32 UInt8)
  | .openPrivateStream m => some (.request m.streamId)
  | .openResult m => some (.result m.streamId m.ok)
  | .streamData id data => some (.data id data)
  | .streamClose m => some (.close m.streamId)
  | _ => none

/-- A session as one of the library, given whether its request was sent. -/
def ForwardPrivate.phase (asked : Bool) : ForwardPrivate → SessionPhase
  | .absent => .absent
  | .insertTx => .named
  | .insertWaiter | .openWrite => .registered
  | .abortWaiter | .abortTx => if asked then .asked else .registered
  | .done => .gone
  | _ => .asked

/-- A stream task as a worker. -/
def StreamTask.phase : StreamTask → WorkerPhase
  | .absent => .absent
  | .done => .gone
  | _ => .live

/-- The stream task among the writers. -/
def Writer.worker : Writer → Option ℕ
  | .task j => some j
  | _ => none

namespace Link

variable {json : SerdeJson} {token : String} {s t : Link} {e : StreamEvent} {d : ConnStreams}
  {k : ℕ} {q : ForwardPrivate}

/-- What the library sees of daemon and agent. -/
def mux (s : Link) : Mux UInt32 UInt8 where
  phase k := (s.daemon.task k).phase (s.request k ≠ .unsent)
  id := s.daemon.streamId
  table := s.daemon.streamTx
  waiters := s.daemon.openWaiters
  granted k := (s.daemon.outcome k).map OpenOutcome.ok
  sent := s.client.sent
  got := s.client.got
  up := s.toAgent.filterMap fun p => p.2.packet.map (p.1, ·)
  request := s.request
  serving := s.serving
  worker j := (s.agent.task j).phase
  workerId := s.agent.streamId
  workerTable := s.agent.streams
  workerSent := s.upstream.sent
  workerGot := s.upstream.got
  down := s.toDaemon.filterMap fun p => p.2.packet.map (p.1.worker, ·)

theorem mux_init : (machine json token).init.mux = Mux.start 0 := rfl

/-- What a step of the daemon is to the library. -/
def daemonAction (d : ConnStreams) : StreamEvent → Option (MuxAction UInt32 UInt8)
  | .openSession k _ _ => some (.take k d.nextStreamId)
  | .insertTx k => some (.register k)
  | .insertWaiter k => some (.wait k)
  | .openWritten k true => some (.ask k)
  | .dropWaiter k => some (.unwait k)
  | .dropTx k => some (.unregister k (d.task k = .abortTx))
  | .failWritten k _ => some (.leave k)
  | .clientError k false => some (.leave k)
  | .upWritten k true =>
      match d.task k with
      | .sendingUp data => some (.send k data)
      | _ => none
  | .upWritten k false => some (.leave k)
  | .downFailed k false => some (.leave k)
  | .closeWritten k true => some (.close k)
  | .closeWritten k false => some (.leave k)
  | _ => none

/-- A step of the daemon that moves a session, and changes the tables. -/
theorem mux_move {table waiters : UInt32 → Option ℕ}
    (htask : t.daemon.task = Function.update s.daemon.task k q)
    (hid : t.daemon.streamId = s.daemon.streamId)
    (htable : t.daemon.streamTx = table) (hwaiters : t.daemon.openWaiters = waiters)
    (houtcome : t.daemon.outcome = s.daemon.outcome) (hup : t.toAgent = s.toAgent)
    (hrequest : t.request = s.request) (hserving : t.serving = s.serving)
    (hclient : t.client.sent = s.client.sent ∧ t.client.got = s.client.got)
    (hagent : t.agent = s.agent) (hupstream : t.upstream = s.upstream)
    (hdown : t.toDaemon = s.toDaemon) :
    t.mux = { s.mux with
      phase := Function.update s.mux.phase k (q.phase (s.request k ≠ .unsent))
      table := table
      waiters := waiters } := by
  ext1
  · funext i
    by_cases hi : i = k
    · subst hi
      simp [mux, htask, hrequest]
    · simp [mux, htask, hrequest, hi]
  all_goals simp [mux, *]

/-- The library mirrors a step. -/
def MuxStep (act : Option (MuxAction UInt32 UInt8)) (s t : Link) : Prop :=
  (Mux.machine UInt8 (0 : UInt32)).Mirrors act s.mux t.mux

/-- A step of the daemon that moves session `k` and writes nothing. -/
theorem mux_afterDaemon {table waiters : UInt32 → Option ℕ}
    (htask : d.task = Function.update s.daemon.task k q)
    (hid : d.streamId = s.daemon.streamId) (htable : d.streamTx = table)
    (hwaiters : d.openWaiters = waiters) (houtcome : d.outcome = s.daemon.outcome)
    (hup : d.toAgent = s.daemon.toAgent) (hrequest : (s.afterDaemon e d).request = s.request)
    (hsent : (s.afterDaemon e d).client.sent = s.client.sent)
    (hgot : (s.afterDaemon e d).client.got = s.client.got) :
    (s.afterDaemon e d).mux = { s.mux with
      phase := Function.update s.mux.phase k (q.phase (s.request k ≠ .unsent))
      table := table
      waiters := waiters } :=
  mux_move htask hid htable hwaiters houtcome (toAgent_afterDaemon hup) hrequest rfl ⟨hsent, hgot⟩
    rfl rfl rfl

/-- A step of the daemon that the library does not see. -/
theorem muxStep_still (he : daemonAction s.daemon e = none)
    (htask : d.task = Function.update s.daemon.task k q)
    (hid : d.streamId = s.daemon.streamId) (htable : d.streamTx = s.daemon.streamTx)
    (hwaiters : d.openWaiters = s.daemon.openWaiters) (houtcome : d.outcome = s.daemon.outcome)
    (hup : d.toAgent = s.daemon.toAgent) (hrequest : (s.afterDaemon e d).request = s.request)
    (hsent : (s.afterDaemon e d).client.sent = s.client.sent)
    (hgot : (s.afterDaemon e d).client.got = s.client.got)
    (hpc : q.phase (s.request k ≠ .unsent) = (s.daemon.task k).phase (s.request k ≠ .unsent)) :
    MuxStep (daemonAction s.daemon e) s (s.afterDaemon e d) := by
  refine .inl ⟨he, ?_⟩
  rw [mux_afterDaemon htask hid htable hwaiters houtcome hup hrequest hsent hgot, hpc]
  simp [mux]

/-- A step of the daemon that moves session `k`, writes nothing and may change the tables. -/
theorem muxStep_move {table waiters : UInt32 → Option ℕ} {b : MuxAction UInt32 UInt8}
    (he : daemonAction s.daemon e = some b)
    (htask : d.task = Function.update s.daemon.task k q)
    (hid : d.streamId = s.daemon.streamId) (htable : d.streamTx = table)
    (hwaiters : d.openWaiters = waiters) (houtcome : d.outcome = s.daemon.outcome)
    (hup : d.toAgent = s.daemon.toAgent) (hrequest : (s.afterDaemon e d).request = s.request)
    (hsent : (s.afterDaemon e d).client.sent = s.client.sent)
    (hgot : (s.afterDaemon e d).client.got = s.client.got)
    (hb : s.mux.step b = some { s.mux with
      phase := Function.update s.mux.phase k (q.phase (s.request k ≠ .unsent))
      table := table
      waiters := waiters }) :
    MuxStep (daemonAction s.daemon e) s (s.afterDaemon e d) := by
  refine .inr ⟨b, he, ?_⟩
  rw [mux_afterDaemon htask hid htable hwaiters houtcome hup hrequest hsent hgot]
  exact hb

/-- A session returns. -/
theorem step_leave (hk : s.mux.Live k) :
    s.mux.step (.leave k) = some { s.mux with
      phase := Function.update s.mux.phase k (ForwardPrivate.done.phase (s.request k ≠ .unsent))
      table := s.daemon.streamTx
      waiters := s.daemon.openWaiters } := by
  simp only [Mux.step, if_pos hk]
  rfl

theorem live_of_asked (hk : (s.daemon.task k).Asked) : s.mux.Live k := by
  unfold ForwardPrivate.Asked at hk
  constructor <;> simp only [mux, ForwardPrivate.phase] <;> split <;> simp_all

/-- A step of the daemon that moves session `k` and writes a packet. -/
theorem muxStep_written {b : MuxAction UInt32 UInt8} {msg : IpcMessage}
    {packet : Packet UInt32 UInt8} (he : daemonAction s.daemon e = some b)
    (htask : d.task = Function.update s.daemon.task k q)
    (hid : d.streamId = s.daemon.streamId) (htable : d.streamTx = s.daemon.streamTx)
    (hwaiters : d.openWaiters = s.daemon.openWaiters) (houtcome : d.outcome = s.daemon.outcome)
    (hup : d.toAgent = s.daemon.toAgent ++ [msg]) (hpacket : msg.packet = some packet)
    (hrequest : ∀ i ≠ k, (s.afterDaemon e d).request i = s.request i)
    (hgot : (s.afterDaemon e d).client.got = s.client.got)
    (hb : s.mux.step b = some { s.mux with
      phase := Function.update s.mux.phase k
        (q.phase ((s.afterDaemon e d).request k ≠ .unsent))
      sent := (s.afterDaemon e d).client.sent
      up := s.mux.up ++ [(e.session, packet)]
      request := (s.afterDaemon e d).request }) :
    MuxStep (daemonAction s.daemon e) s (s.afterDaemon e d) := by
  refine .inr ⟨b, he, hb.trans (congrArg some ?_)⟩
  symm
  ext1
  · funext i
    show (d.task i).phase ((s.afterDaemon e d).request i ≠ .unsent) =
      Function.update s.mux.phase k (q.phase ((s.afterDaemon e d).request k ≠ .unsent)) i
    rw [htask]
    by_cases hi : i = k
    · rw [hi, Function.update_self, Function.update_self]
    · rw [Function.update_of_ne hi, Function.update_of_ne hi, hrequest i hi]
      rfl
  · exact hid
  · exact htable
  · exact hwaiters
  · show (fun i => (d.outcome i).map OpenOutcome.ok) = _
    rw [houtcome]
    rfl
  · rfl
  · exact hgot
  · show (s.afterDaemon e d).toAgent.filterMap _ = _
    rw [toAgent_afterDaemon_write hup, List.filterMap_append]
    simp [mux, hpacket]
  all_goals rfl

theorem muxStep_daemon (hs : s.Sound) (he : e.IsReceive = false) (h : s.daemon.step e = some d) :
    MuxStep (daemonAction s.daemon e) s (s.afterDaemon e d) := by
  cases ConnStreams.moves_of_step h with
  | openElsewhere | roomClosed | room | pongFailed | hangUp =>
      exact muxStep_still (k := 0) (q := s.daemon.task 0) rfl (Function.update_eq_self _ _).symm
        rfl rfl rfl rfl rfl rfl rfl rfl rfl
  | @openSession k routeId service htask =>
      refine .inr ⟨.take k s.daemon.nextStreamId, rfl, ?_⟩
      have hk : s.mux.phase k = .absent := by simp [mux, htask, ForwardPrivate.phase]
      simp only [Mux.machine, Mux.step, if_pos hk, Option.some.injEq]
      ext1
      · funext i
        by_cases hi : i = k
        · subst hi
          simp [mux, afterDaemon, ConnStreams.goto, ForwardPrivate.phase]
        · simp [mux, afterDaemon, ConnStreams.goto, hi]
      all_goals simp [mux, afterDaemon, ConnStreams.goto, ConnStreams.traffic, Traffic.note]
  | @insertTx k htask =>
      refine muxStep_move (k := k) (q := .insertWaiter) rfl rfl rfl rfl rfl rfl rfl rfl rfl rfl ?_
      have hk : s.mux.phase k = .named := by simp [mux, htask, ForwardPrivate.phase]
      simp only [Mux.step, if_pos hk]
      rfl
  | @insertWaiter k htask =>
      have hnone := hs.answered.early k (.inr (.inr htask))
      refine muxStep_move (k := k) (q := .openWrite) rfl rfl rfl rfl rfl rfl rfl rfl rfl rfl ?_
      have hk : s.mux.phase k = .registered := by simp [mux, htask, ForwardPrivate.phase]
      have hgranted : s.mux.granted k = none := by simp [mux, hnone]
      rw [show ForwardPrivate.openWrite.phase (s.request k ≠ .unsent) = s.mux.phase k from hk.symm,
        Function.update_eq_self]
      simp only [Mux.step, if_pos (And.intro hk hgranted)]
      rfl
  | @openWritten k htask =>
      refine muxStep_written (k := k) (q := .waiting) rfl rfl rfl rfl rfl rfl rfl rfl
        (fun i hi => Function.update_of_ne hi ..) rfl ?_
      have hk : s.mux.phase k = .registered := by simp [mux, htask, ForwardPrivate.phase]
      simp only [Mux.step, if_pos hk]
      rfl
  | @openFailed k htask =>
      have hunsent : s.request k = .unsent :=
        hs.asked.unsent k (by simp [htask, ForwardPrivate.Unasked])
      exact muxStep_still (k := k) (q := .abortWaiter) rfl rfl rfl rfl rfl rfl rfl rfl rfl rfl
        (by simp [htask, hunsent, ForwardPrivate.phase])
  | @opened k o htask =>
      refine muxStep_still (k := k) (q := if o.ok then .relay else .refused)
        rfl rfl rfl rfl rfl rfl rfl rfl rfl rfl ?_
      split_ifs <;> simp [htask, ForwardPrivate.phase]
  | @timeout k htask =>
      have hasked : s.request k ≠ .unsent :=
        hs.asked.asked k (by simp [htask, ForwardPrivate.Asked])
      exact muxStep_still (k := k) (q := .abortWaiter) rfl rfl rfl rfl rfl rfl rfl rfl rfl rfl
        (by simp [htask, hasked, ForwardPrivate.phase])
  | @dropWaiter k htask =>
      refine muxStep_move (k := k) (q := .abortTx) rfl rfl rfl rfl rfl rfl rfl rfl rfl rfl ?_
      have hk : s.mux.phase k = ForwardPrivate.abortTx.phase (s.request k ≠ .unsent) := by
        simp [mux, htask, ForwardPrivate.phase]
      have hlive : s.mux.Live k := by
        unfold Mux.Live
        rw [hk]
        unfold ForwardPrivate.phase
        split_ifs <;> simp
      rw [← hk, Function.update_eq_self]
      simp only [Mux.step, if_pos hlive]
      rfl
  | @dropAborted k hfree htask =>
      have hact : daemonAction s.daemon (.dropTx k) = some (.unregister k true) := by
        simp [daemonAction, htask]
      refine muxStep_move (k := k) (q := .done) hact rfl rfl rfl rfl rfl rfl rfl rfl rfl ?_
      have hk : s.mux.phase k = .registered ∨ s.mux.phase k = .asked := by
        simp only [mux, htask, ForwardPrivate.phase]
        split_ifs <;> simp
      simp only [Mux.step, if_pos hk]
      rfl
  | @dropRefused k hfree htask =>
      have hact : daemonAction s.daemon (.dropTx k) = some (.unregister k false) := by
        simp [daemonAction, htask]
      refine muxStep_move (k := k) (q := .failWrite) hact rfl rfl rfl rfl rfl rfl rfl rfl rfl ?_
      have hk : s.mux.phase k = .asked := by simp [mux, htask, ForwardPrivate.phase]
      rw [show ForwardPrivate.failWrite.phase (s.request k ≠ .unsent) = s.mux.phase k from hk.symm,
        Function.update_eq_self]
      simp only [Mux.step, if_pos (Or.inr hk)]
      rfl
  | @dropClosing k hfree htask =>
      have hact : daemonAction s.daemon (.dropTx k) = some (.unregister k false) := by
        simp [daemonAction, htask]
      refine muxStep_move (k := k) (q := .closeWrite) hact rfl rfl rfl rfl rfl rfl rfl rfl rfl ?_
      have hk : s.mux.phase k = .asked := by simp [mux, htask, ForwardPrivate.phase]
      rw [show ForwardPrivate.closeWrite.phase (s.request k ≠ .unsent) = s.mux.phase k from hk.symm,
        Function.update_eq_self]
      simp only [Mux.step, if_pos (Or.inr hk)]
      rfl
  | @failWritten k htask | @failFailed k htask | @closeFailed k htask =>
      exact muxStep_move (k := k) (q := .done) rfl rfl rfl rfl rfl rfl rfl rfl rfl rfl
        (step_leave (live_of_asked (by simp [htask, ForwardPrivate.Asked])))
  | @clientError k htask =>
      exact muxStep_move (k := k) (q := .done) rfl rfl rfl rfl rfl rfl rfl rfl rfl rfl
        (step_leave (live_of_asked (by simp [htask, ForwardPrivate.Asked])))
  | @upFailed k data htask | @downFailed k data htask =>
      exact muxStep_move (k := k) (q := .done) rfl rfl rfl rfl rfl rfl rfl rfl rfl rfl
        (step_leave (live_of_asked (by simp [htask, ForwardPrivate.Asked])))
  | @clientData k data htask =>
      exact muxStep_still (k := k) (q := .sendingUp data) rfl rfl rfl rfl rfl rfl rfl rfl rfl rfl
        (by simp [htask, ForwardPrivate.phase])
  | @clientEof k htask | @clientGone k htask | @recvClosed k htask =>
      exact muxStep_still (k := k) (q := .closing) rfl rfl rfl rfl rfl rfl rfl rfl rfl rfl
        (by simp [htask, ForwardPrivate.phase])
  | @upWritten k data htask =>
      obtain ⟨o, ho, hok⟩ := hs.answered.accepted k (by simp [htask, ForwardPrivate.Relays])
      have hk : s.mux.phase k = .asked := by simp [mux, htask, ForwardPrivate.phase]
      have hgranted : s.mux.granted k = some true := by simp [mux, ho, hok]
      have hact : daemonAction s.daemon (.upWritten k true) = some (.send k data) := by
        simp [daemonAction, htask]
      have htraffic : s.daemon.traffic (.upWritten k true) = some (.sent k data) := by
        simp [ConnStreams.traffic, htask]
      refine muxStep_written (k := k) (q := .relay) hact rfl rfl rfl rfl rfl rfl rfl
        (fun _ _ => rfl) ?_ ?_
      · simp [afterDaemon, htraffic, Traffic.note]
      · have hsent : s.client.note (s.daemon.traffic (.upWritten k true)) =
            { s.client with
              sent := Function.update s.client.sent k (s.client.sent k ++ data) } := by
          rw [htraffic]
          rfl
        rw [show ForwardPrivate.relay.phase _ = s.mux.phase k from hk.symm,
          Function.update_eq_self]
        simp only [Mux.step, if_pos (And.intro hk hgranted), afterDaemon, hsent]
        rfl
  | @recv k data rest htask =>
      exact muxStep_still (k := k) (q := .sendingDown data) rfl rfl rfl rfl rfl rfl rfl rfl rfl rfl
        (by simp [htask, ForwardPrivate.phase])
  | @downWritten k data htask =>
      have htraffic : s.daemon.traffic (.downWritten k) = some (.wrote k data) := by
        simp [ConnStreams.traffic, htask]
      refine muxStep_still (k := k) (q := .relay) rfl rfl rfl rfl rfl rfl rfl rfl ?_ ?_
        (by simp [htask, ForwardPrivate.phase])
      · simp [afterDaemon, htraffic, Traffic.note]
      · simp [afterDaemon, htraffic, Traffic.note]
  | @downGone k data htask =>
      exact muxStep_still (k := k) (q := .closing) rfl rfl rfl rfl rfl rfl rfl rfl rfl rfl
        (by simp [htask, ForwardPrivate.phase])
  | @closeWritten k htask =>
      refine muxStep_written (k := k) (q := .done) rfl rfl rfl rfl rfl rfl rfl rfl
        (fun _ _ => rfl) rfl ?_
      have hk : s.mux.phase k = .asked := by simp [mux, htask, ForwardPrivate.phase]
      simp only [Mux.step, if_pos hk]
      rfl
  | receive => simp [StreamEvent.IsReceive] at he
  | pongWritten =>
      refine .inl ⟨rfl, ?_⟩
      simp [mux, afterDaemon, ConnStreams.writeAgent, ConnStreams.traffic, Traffic.note,
        IpcMessage.packet]

/-! ## Taking up messages -/

/-- An answer is handed over. -/
theorem mux_resolve {t : Link} {id : UInt32} {o : OpenOutcome}
    (hdaemon : t.daemon = s.daemon.resolve id o) (hup : t.toAgent = s.toAgent)
    (hrequest : t.request = s.request) (hserving : t.serving = s.serving)
    (hclient : t.client = s.client) (hagent : t.agent = s.agent)
    (hupstream : t.upstream = s.upstream) (hdown : t.toDaemon = s.toDaemon) :
    t.mux = s.mux.resolve id o.ok := by
  unfold ConnStreams.resolve at hdaemon
  unfold Mux.resolve
  rcases hw : s.daemon.openWaiters id with _ | k
  · rw [hw] at hdaemon
    have hnone : s.mux.waiters id = none := hw
    rw [hnone]
    simp [mux, *]
  · rw [hw] at hdaemon
    have hsome : s.mux.waiters id = some k := hw
    rw [hsome]
    ext1 <;> simp only [mux, hdaemon, hup, hrequest, hserving, hclient, hagent, hupstream, hdown]
    funext i
    by_cases hi : i = k
    · subst hi
      simp
    · simp [hi]

/-- What the library sees of the tables and of the data handed over. -/
theorem mux_tables (htask : t.daemon.task = s.daemon.task)
    (hid : t.daemon.streamId = s.daemon.streamId) (houtcome : t.daemon.outcome = s.daemon.outcome)
    (hup : t.toAgent = s.toAgent) (hrequest : t.request = s.request)
    (hserving : t.serving = s.serving) (hsent : t.client.sent = s.client.sent)
    (hagent : t.agent = s.agent) (hupstream : t.upstream = s.upstream)
    (hdown : t.toDaemon = s.toDaemon) :
    t.mux = { s.mux with
      table := t.daemon.streamTx
      waiters := t.daemon.openWaiters
      got := t.client.got } := by
  ext1 <;> simp [mux, *]

/-- Offering data touches the read loop and the queue only. -/
theorem offer_frame (d : ConnStreams) (k : ℕ) (data : Bytes) :
    ∃ loop queue, d.offer k data = { d with loop := loop, queue := queue } := by
  unfold ConnStreams.offer
  split_ifs
  · exact ⟨d.loop, d.queue, rfl⟩
  · exact ⟨_, d.queue, rfl⟩
  · exact ⟨d.loop, _, rfl⟩

/-- A message that arrives at the daemon is to the library what its packet is. -/
theorem mux_received {msg : IpcMessage} {p : Packet UInt32 UInt8} (hp : msg.packet = some p) :
    (s.afterDaemon (.receive msg) (s.daemon.receive msg)).mux = s.mux.arriveDown p := by
  obtain ⟨hup, hid, htask⟩ := s.daemon.receive_frame msg
  have hup := toAgent_afterDaemon (s := s) (e := .receive msg) hup
  cases msg with
  | openPrivateStream m =>
      obtain rfl := Option.some.inj hp
      exact mux_tables rfl rfl rfl hup rfl rfl rfl rfl rfl rfl
  | openResult m =>
      obtain rfl := Option.some.inj hp
      exact mux_resolve (o := ⟨m.ok, m.failReason⟩) rfl hup rfl rfl rfl rfl rfl rfl
  | streamData id data =>
      obtain rfl := Option.some.inj hp
      rcases htx : s.daemon.streamTx id with _ | k
      · have htraffic : s.daemon.traffic (.receive (.streamData id data)) = none := by
          simp [ConnStreams.traffic, htx]
        have hrec : s.daemon.receive (.streamData id data) = s.daemon := by
          simp [ConnStreams.receive, htx]
        have htable : s.mux.table id = none := htx
        rw [Mux.arriveDown_data_of_none htable]
        simp only [hrec] at hup ⊢
        rw [mux_tables (t := s.afterDaemon _ s.daemon) (s := s) rfl rfl rfl hup rfl rfl]
        all_goals simp [afterDaemon, htraffic, Traffic.note, mux]
      · have htraffic : s.daemon.traffic (.receive (.streamData id data)) = some (.got k data) := by
          simp [ConnStreams.traffic, htx]
        obtain ⟨loop, queue, hoffer⟩ := offer_frame s.daemon k data
        have hrec : s.daemon.receive (.streamData id data) =
            { s.daemon with loop := loop, queue := queue } := by
          simp [ConnStreams.receive, htx, hoffer]
        have htable : s.mux.table id = some k := htx
        rw [Mux.arriveDown_data htable]
        simp only [hrec] at hup ⊢
        rw [mux_tables (t := s.afterDaemon _ { s.daemon with loop := loop, queue := queue }) (s := s)
          rfl rfl rfl hup rfl rfl]
        all_goals simp [afterDaemon, htraffic, Traffic.note, mux]
  | streamClose m =>
      obtain rfl := Option.some.inj hp
      exact mux_resolve (s := { s with daemon := { s.daemon with
        streamTx := Function.update s.daemon.streamTx m.streamId none } }) (o := ⟨false, some m.reason⟩)
        rfl hup rfl rfl rfl rfl rfl rfl
  | registerAgent | deviceSnapshot | deviceSnapshotChanged | ping | pong => simp [IpcMessage.packet] at hp

/-- A message that is no packet changes nothing the library sees. -/
theorem mux_ignored {msg : IpcMessage} (hp : msg.packet = none) :
    (s.afterDaemon (.receive msg) (s.daemon.receive msg)).mux = s.mux := by
  obtain ⟨hup, hid, htask⟩ := s.daemon.receive_frame msg
  have hup := toAgent_afterDaemon (s := s) (e := .receive msg) hup
  cases msg with
  | registerAgent | deviceSnapshot | deviceSnapshotChanged | pong | ping =>
      exact mux_tables rfl rfl rfl hup rfl rfl rfl rfl rfl rfl
  | openPrivateStream | openResult | streamData | streamClose => simp [IpcMessage.packet] at hp

/-- The read loop takes up a message. -/
theorem muxStep_toDaemon {w : Writer} {msg : IpcMessage} {rest : List (Writer × IpcMessage)}
    (hdown : s.toDaemon = (w, msg) :: rest) :
    MuxStep (msg.packet.map fun _ => .takeDown) s
      ({ s with toDaemon := rest }.afterDaemon (.receive msg) (s.daemon.receive msg)) := by
  rcases hp : msg.packet with _ | p
  · refine .inl ⟨rfl, ?_⟩
    rw [mux_ignored (s := { s with toDaemon := rest }) hp]
    simp [mux, hdown, hp]
  · refine .inr ⟨.takeDown, rfl, ?_⟩
    have hpop : s.mux.down = (w.worker, p) :: { s with toDaemon := rest }.mux.down := by
      simp [mux, hdown, hp]
    rw [mux_received (s := { s with toDaemon := rest }) hp]
    simp only [Mux.machine, Mux.step, hpop]
    rfl

/-- What the library sees of a step that concerns the agent and the requests. -/
theorem mux_agent (hdaemon : t.daemon = s.daemon) (hclient : t.client = s.client)
    (hup : t.toAgent = s.toAgent)
    (hasked : ∀ k, t.request k = .unsent ↔ s.request k = .unsent) :
    t.mux = { s.mux with
      request := t.request
      serving := t.serving
      worker := t.mux.worker
      workerId := t.agent.streamId
      workerTable := t.agent.streams
      workerSent := t.upstream.sent
      workerGot := t.upstream.got
      down := t.mux.down } := by
  ext1
  case phase =>
    funext k
    simp [mux, hdaemon, hasked]
  all_goals simp [mux, *]

/-- Offering data touches the main loop and the queue only. -/
theorem agent_offer_frame (a : AgentState) (j : ℕ) (data : Bytes) :
    ∃ main queue, a.offer j data = { a with main := main, queue := queue } := by
  unfold AgentState.offer
  split_ifs
  · exact ⟨a.main, a.queue, rfl⟩
  · exact ⟨_, a.queue, rfl⟩
  · exact ⟨a.main, _, rfl⟩

/-- A message that arrives at the agent is to the library what its packet is. -/
theorem mux_taken {msg : IpcMessage} {p : Packet UInt32 UInt8} (hp : msg.packet = some p)
    (hk : s.request k ≠ .unsent) :
    (s.afterTaken k msg (s.agent.receive msg)).mux = s.mux.arriveUp k p := by
  cases msg with
  | openPrivateStream m =>
      obtain rfl := Option.some.inj hp
      have hrec : ∃ main, s.agent.receive (.openPrivateStream m) = { s.agent with main := main } := by
        unfold AgentState.receive
        simp only
        split <;> exact ⟨_, rfl⟩
      obtain ⟨main, hrec⟩ := hrec
      rw [hrec, mux_agent (t := s.afterTaken k _ _) (s := s) rfl rfl rfl]
      · rfl
      · intro i
        show Function.update s.request k .taken i = .unsent ↔ _
        by_cases hi : i = k
        · subst hi
          simp [hk]
        · simp [hi]
  | openResult m =>
      obtain rfl := Option.some.inj hp
      rfl
  | streamData id data =>
      obtain rfl := Option.some.inj hp
      rcases htx : s.agent.streams id with _ | j
      · have htraffic : s.agent.traffic (.receive (.streamData id data)) = none := by
          simp [AgentState.traffic, htx]
        have hrec : s.agent.receive (.streamData id data) = s.agent := by
          simp [AgentState.receive, htx]
        have htable : s.mux.workerTable id = none := htx
        rw [Mux.arriveUp_data_of_none htable, hrec,
            mux_agent (t := s.afterTaken k _ _) (s := s) rfl rfl rfl (fun _ => Iff.rfl)]
        simp [afterTaken, htraffic, Traffic.note, mux]
      · have htraffic : s.agent.traffic (.receive (.streamData id data)) = some (.got j data) := by
          simp [AgentState.traffic, htx]
        obtain ⟨main, queue, hoffer⟩ := agent_offer_frame s.agent j data
        have hrec : s.agent.receive (.streamData id data) =
            { s.agent with main := main, queue := queue } := by
          simp [AgentState.receive, htx, hoffer]
        have htable : s.mux.workerTable id = some j := htx
        rw [Mux.arriveUp_data htable, hrec,
            mux_agent (t := s.afterTaken k _ _) (s := s) rfl rfl rfl (fun _ => Iff.rfl)]
        simp [afterTaken, htraffic, Traffic.note, mux]
  | streamClose m =>
      obtain rfl := Option.some.inj hp
      rfl
  | registerAgent | deviceSnapshot | deviceSnapshotChanged | ping | pong =>
      simp [IpcMessage.packet] at hp

/-- The main loop takes up a message. -/
theorem muxStep_toAgent {msg : IpcMessage} {rest : List (ℕ × IpcMessage)} (hs : s.Sound)
    (hup : s.toAgent = (k, msg) :: rest) (hmain : s.agent.main = .idle) :
    MuxStep (msg.packet.map fun _ => .takeUp) s
      ({ s with toAgent := rest }.afterTaken k msg (s.agent.receive msg)) := by
  have hidle : s.mux.Idle := by
    have hserves := hs.steady.2
    rw [hmain] at hserves
    exact hserves
  rcases hp : msg.packet with _ | p
  · refine .inl ⟨rfl, ?_⟩
    have hsame : { s with toAgent := rest }.mux = s.mux := by
      simp [mux, hup, hp]
    rw [← hsame]
    cases msg with
    | registerAgent | deviceSnapshot | deviceSnapshotChanged | pong | ping => rfl
    | openPrivateStream | openResult | streamData | streamClose => simp [IpcMessage.packet] at hp
  · refine .inr ⟨.takeUp, rfl, ?_⟩
    have hpop : s.mux.up = (k, p) :: { s with toAgent := rest }.mux.up := by
      simp [mux, hup, hp]
    have hsent : s.request k ≠ .unsent := by
      have hid : ∃ id, msg.streamId? = some id := by
        cases msg <;> simp [IpcMessage.packet] at hp <;> exact ⟨_, rfl⟩
      obtain ⟨id, hid⟩ := hid
      exact (hs.asked.up k msg id (by simp [hup]) hid).2
    rw [mux_taken (s := { s with toAgent := rest }) hp hsent]
    simp only [Mux.machine, Mux.step, hpop, if_pos hidle]
    rfl

end Link

end AdbHub
