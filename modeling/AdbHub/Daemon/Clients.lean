import AdbHub.Daemon.Agents
import AdbHub.Daemon.Identity
import AdbHub.Daemon.Isolation
import AdbHub.Daemon.Traffic
import AdbHub.Lib.Component

/-!
# The daemon with its clients

The whole multi-user daemon (`daemon.rs`): any number of agents, each with its streams, and any
number of ADB clients, in any order of their steps. `DaemonState` are the agents and the devices,
`ConnStreams` the streams of one agent, `handleAdbClient` is what is done for a client.

* `Daemon.step`, `Daemon.Moves` — the steps of all tasks, and what each requires.
* `agentsPart`, `streamsPart` — the agents, and the streams of each, are parts of the daemon.
* `Attributed` — what holds of clients and streams in every run.
* **`streams_within_user`** — whatever is written to an agent or comes from it is for clients whose
  sockets belong to the user of the agent's process, and concerns devices which that user's agents
  have reported.
-/

namespace AdbHub

open Lib PeerCred RegistryEvent

/-! ## State -/

/-- Where the task of an ADB client stands. Source: `daemon.rs`, `handle_adb_client`. -/
inductive AdbClient
  /-- Not accepted yet. -/
  | absent
  /-- Dropped, or told that it cannot be identified. -/
  | rejected
  /-- Its first packet is being read. -/
  | identified (uid : Uid)
  /-- The action is what is done for its service. -/
  | serving (uid : Uid) (action : ClientAction)

/-- As whom a client is served. -/
def AdbClient.user : AdbClient → Option Uid
  | .identified uid | .serving uid _ => some uid
  | .absent | .rejected => none

/-- The user of a TCP client is looked up. Source: `daemon.rs`, `run_daemon_with_shutdown` and
`handle_adb_client`. -/
def identifyClient (o : ByteOrder) (ask : List UInt8 → Except LookupError (List UInt8))
    (loc peer : SocketAddr) : AdbClient :=
  if peer.isLoopback then
    match tcpPeerUid o ask loc peer with
    | .ok (.ok uid) => .identified uid
    | _ => .rejected
  else .rejected

/-- Route and service of the streams that are opened for a client: what it asked for, and for the
connections of its tunnels the selector. Source: `daemon.rs`, `handle_adb_client`. -/
def ClientAction.opens : ClientAction → List (String × String)
  | .forwardPrivate routeId upstream => [(routeId, upstream)]
  | .transport routeId upstream _ selector => [(routeId, upstream), (routeId, selector)]
  | _ => []

/-- The agents, the streams of each, and the clients, numbered as they come. -/
structure Daemon where
  state : DaemonState := {}
  streams : ConnId → ConnStreams := fun _ => {}
  client : ℕ → AdbClient := fun _ => .absent
  /-- The client for whom a stream of an agent was opened. -/
  openedFor : ConnId → ℕ → Option ℕ := fun _ _ => none
  /-- History: the device lists received from the agents of a user. -/
  reported : Uid → List DeviceSnapshot := fun _ => []

/-- What happens next. -/
inductive DaemonEvent
  /-- A step of the agents' tasks that their streams take no part in. -/
  | agent (e : AgentEvent)
  /-- The local adb server is polled. -/
  | poll (body : String)
  /-- A TCP client is accepted. -/
  | accept (x : ℕ) (ask : List UInt8 → Except LookupError (List UInt8)) (loc peer : SocketAddr)
  /-- The first packet of a client arrives. -/
  | request (x : ℕ) (adbVersion : UInt32) (payload : List UInt8)
  /-- A stream `k` is opened for a client on the registered connection of its user. -/
  | openStream (x : ℕ) (c : ConnId) (k : ℕ) (request : String × String)
  /-- A step of the streams of an agent that the other tasks take no part in. -/
  | stream (c : ConnId) (e : StreamEvent)
  /-- A message of a registered agent arrives. -/
  | receive (c : ConnId) (msg : IpcMessage)
  /-- A registered agent hangs up, or reading from it fails. -/
  | hangUp (c : ConnId)
  /-- Answering a ping fails, which ends the read loop. -/
  | pongFailed (c : ConnId)

/-- The streams take no part in the step. -/
def AgentEvent.alone (s : DaemonState) : AgentEvent → Bool
  | .receive .. | .pollShared _ => false
  | .disconnect c => s.task c = .connected
  | _ => true

/-- The other tasks take no part in the step. -/
def StreamEvent.alone : StreamEvent → Bool
  | .openElsewhere | .openSession .. | .receive _ | .hangUp => false
  | .pongWritten ok => ok
  | _ => true

namespace Daemon

/-- Move a client. -/
def setClient (s : Daemon) (x : ℕ) (client : AdbClient) : Daemon :=
  { s with client := Function.update s.client x client }

/-- Move the streams of an agent. -/
def setStreams (s : Daemon) (c : ConnId) (m : ConnStreams) : Daemon :=
  { s with streams := Function.update s.streams c m }

/-- A stream is opened for a client. The stream ids of all connections come from one counter.
Source: `daemon.rs`, `forward_private`. -/
def opened (s : Daemon) (x : ℕ) (c : ConnId) (k : ℕ) (m : ConnStreams) : Daemon :=
  { s with
    streams := fun d =>
      if d = c then m
      else { s.streams d with nextStreamId := (s.streams d).nextStreamId + 1 }
    openedFor := Function.update s.openedFor c (Function.update (s.openedFor c) k (some x)) }

/-- A device list is noted. -/
def note (s : Daemon) (c : ConnId) (msg : IpcMessage) : Daemon :=
  match msg.reported with
  | some l =>
      { s with
        reported := Function.update s.reported (s.state.conn c).uid
          (s.reported (s.state.conn c).uid ++ [l]) }
  | none => s

/-- The read loop of an agent ends: of its streams by `e`. -/
def ended (s : Daemon) (c : ConnId) (e : StreamEvent) : Option Daemon :=
  if s.state.task c = .serving then
    (s.state.step (.disconnect c)).bind fun st =>
      ((s.streams c).step e).map fun m => { s.setStreams c m with state := st }
  else none

/-- One step. Source: `daemon.rs`. -/
def step (o : ByteOrder) (localAddr : Option SocketAddr) (s : Daemon) :
    DaemonEvent → Option Daemon
  | .agent e =>
      if e.alone s.state then (s.state.step e).map fun st => { s with state := st } else none
  | .poll body =>
      localAddr.bind fun addr =>
        (s.state.step (.pollShared [(localBackendAt addr, body)])).map fun st =>
          { s with state := st }
  | .accept x ask loc peer =>
      match s.client x with
      | .absent => some (s.setClient x (identifyClient o ask loc peer))
      | _ => none
  | .request x adbVersion payload =>
      match s.client x with
      | .identified uid =>
          some (s.setClient x (.serving uid (handleAdbClient s.state.tenants
            (localAddr.map localBackendAt) adbVersion (some uid) payload)))
      | _ => none
  | .openStream x c k request =>
      match s.client x with
      | .serving uid action =>
          if s.state.guard = none ∧ s.state.agents uid = some c ∧ request ∈ action.opens then
            ((s.streams c).step (.openSession k request.1 request.2)).map (s.opened x c k)
          else none
      | _ => none
  | .stream c e => if e.alone then ((s.streams c).step e).map (s.setStreams c) else none
  | .receive c msg =>
      (s.state.step (.receive c msg)).bind fun st =>
        ((s.streams c).step (.receive msg)).map fun m =>
          { (s.note c msg).setStreams c m with state := st }
  | .hangUp c => s.ended c .hangUp
  | .pongFailed c => s.ended c (.pongWritten false)

/-- The daemon as a machine. -/
def machine (o : ByteOrder) (localAddr : Option SocketAddr) : Machine Daemon DaemonEvent :=
  ⟨{}, step o localAddr⟩

/-! ## What a step requires -/

/-- The steps of the daemon, each with what it requires and where it leads. -/
inductive Moves (o : ByteOrder) (localAddr : Option SocketAddr) (s : Daemon) :
    DaemonEvent → Daemon → Prop
  | agent {e st} (halone : e.alone s.state = true) (h : s.state.step e = some st) :
      Moves o localAddr s (.agent e) { s with state := st }
  | poll {body addr st} (haddr : localAddr = some addr)
      (h : s.state.step (.pollShared [(localBackendAt addr, body)]) = some st) :
      Moves o localAddr s (.poll body) { s with state := st }
  | accept {x ask loc peer} (hx : s.client x = .absent) :
      Moves o localAddr s (.accept x ask loc peer) (s.setClient x (identifyClient o ask loc peer))
  | request {x adbVersion payload uid} (hx : s.client x = .identified uid) :
      Moves o localAddr s (.request x adbVersion payload)
        (s.setClient x (.serving uid (handleAdbClient s.state.tenants
          (localAddr.map localBackendAt) adbVersion (some uid) payload)))
  | openStream {x c k request uid action m} (hx : s.client x = .serving uid action)
      (hagent : s.state.agents uid = some c) (hrequest : request ∈ action.opens)
      (h : (s.streams c).step (.openSession k request.1 request.2) = some m) :
      Moves o localAddr s (.openStream x c k request) (s.opened x c k m)
  | stream {c e m} (halone : e.alone = true) (h : (s.streams c).step e = some m) :
      Moves o localAddr s (.stream c e) (s.setStreams c m)
  | receive {c msg st m} (hst : s.state.step (.receive c msg) = some st)
      (hm : (s.streams c).step (.receive msg) = some m) :
      Moves o localAddr s (.receive c msg) { (s.note c msg).setStreams c m with state := st }
  | hangUp {c st m} (hst : s.state.step (.disconnect c) = some st)
      (hm : (s.streams c).step .hangUp = some m) :
      Moves o localAddr s (.hangUp c) { s.setStreams c m with state := st }
  | pongFailed {c st m} (hst : s.state.step (.disconnect c) = some st)
      (hm : (s.streams c).step (.pongWritten false) = some m) :
      Moves o localAddr s (.pongFailed c) { s.setStreams c m with state := st }

variable {o : ByteOrder} {localAddr : Option SocketAddr} {s t : Daemon} {e : DaemonEvent}
  {events : List DaemonEvent} {c : ConnId} {k x : ℕ} {uid : Uid}

theorem ended_eq_some {f : StreamEvent} (h : s.ended c f = some t) :
    ∃ st m, s.state.step (.disconnect c) = some st ∧ (s.streams c).step f = some m ∧
      t = { s.setStreams c m with state := st } := by
  unfold ended at h
  split_ifs at h
  obtain ⟨st, hst, h⟩ := Option.bind_eq_some_iff.mp h
  obtain ⟨m, hm, rfl⟩ := Option.map_eq_some_iff.mp h
  exact ⟨st, m, hst, hm, rfl⟩

/-- Every step is one of them. -/
theorem moves_of_step (h : s.step o localAddr e = some t) : s.Moves o localAddr e t := by
  cases e with
  | agent e =>
      simp only [step] at h
      split_ifs at h with halone
      obtain ⟨st, hst, rfl⟩ := Option.map_eq_some_iff.mp h
      exact .agent halone hst
  | poll body =>
      obtain ⟨addr, haddr, h⟩ := Option.bind_eq_some_iff.mp h
      obtain ⟨st, hst, rfl⟩ := Option.map_eq_some_iff.mp h
      exact .poll haddr hst
  | accept x ask loc peer =>
      simp only [step] at h
      split at h
      · rename_i hx
        obtain rfl := Option.some.inj h
        exact .accept hx
      · cases h
  | request x adbVersion payload =>
      simp only [step] at h
      split at h
      · rename_i uid hx
        obtain rfl := Option.some.inj h
        exact .request hx
      · cases h
  | openStream x c k request =>
      simp only [step] at h
      split at h
      · rename_i uid action hx
        split_ifs at h with hopen
        obtain ⟨m, hm, rfl⟩ := Option.map_eq_some_iff.mp h
        exact .openStream hx hopen.2.1 hopen.2.2 hm
      · cases h
  | stream c e =>
      simp only [step] at h
      split_ifs at h with halone
      obtain ⟨m, hm, rfl⟩ := Option.map_eq_some_iff.mp h
      exact .stream halone hm
  | receive c msg =>
      obtain ⟨st, hst, h⟩ := Option.bind_eq_some_iff.mp h
      obtain ⟨m, hm, rfl⟩ := Option.map_eq_some_iff.mp h
      exact .receive hst hm
  | hangUp c =>
      obtain ⟨st, m, hst, hm, rfl⟩ := ended_eq_some h
      exact .hangUp hst hm
  | pongFailed c =>
      obtain ⟨st, m, hst, hm, rfl⟩ := ended_eq_some h
      exact .pongFailed hst hm

/-! ## Parts -/

/-- Noting a list changes nothing else. -/
theorem note_frame (s : Daemon) (c : ConnId) (msg : IpcMessage) :
    (s.note c msg).state = s.state ∧ (s.note c msg).streams = s.streams ∧
      (s.note c msg).client = s.client ∧ (s.note c msg).openedFor = s.openedFor := by
  unfold note
  split
  · exact ⟨rfl, rfl, rfl, rfl⟩
  · exact ⟨rfl, rfl, rfl, rfl⟩

/-- What an event is for the agents and the devices. -/
def agentEvent (localAddr : Option SocketAddr) : DaemonEvent → Option AgentEvent
  | .agent e => some e
  | .poll body => localAddr.map fun addr => .pollShared [(localBackendAt addr, body)]
  | .receive c msg => some (.receive c msg)
  | .hangUp c | .pongFailed c => some (.disconnect c)
  | .accept .. | .request .. | .openStream .. | .stream .. => none

/-- What an event is for the streams of an agent. -/
def streamEvent (c : ConnId) : DaemonEvent → Option StreamEvent
  | .stream d e => if d = c ∧ e.alone then some e else none
  | .openStream _ d k request =>
      some (if d = c then .openSession k request.1 request.2 else .openElsewhere)
  | .receive d msg => if d = c then some (.receive msg) else none
  | .hangUp d => if d = c then some .hangUp else none
  | .pongFailed d => if d = c then some (.pongWritten false) else none
  | .agent _ | .poll _ | .accept .. | .request .. => none

/-- A message reaches the streams of an agent only by being received. -/
theorem receive_of_streamEvent {msg : IpcMessage} (h : streamEvent c e = some (.receive msg)) :
    e = .receive c msg := by
  cases e with
  | receive d m =>
      simp only [streamEvent] at h
      split_ifs at h with hd
      obtain rfl := hd
      obtain rfl := StreamEvent.receive.inj (Option.some.inj h)
      rfl
  | stream d f =>
      simp only [streamEvent] at h
      split_ifs at h with hd
      obtain rfl := Option.some.inj h
      cases hd.2
  | openStream | hangUp | pongFailed =>
      simp only [streamEvent] at h
      split_ifs at h
      all_goals cases h
  | _ => cases h

/-- **The agents** within the daemon. -/
def agentsPart (o : ByteOrder) (localAddr : Option SocketAddr) :
    Component (machine o localAddr) DaemonState.machine where
  part := Daemon.state
  act := agentEvent localAddr
  part_init := rfl
  part_step := by
    intro s e t h
    cases moves_of_step h with
    | agent _ hst | receive hst _ | hangUp hst _ | pongFailed hst _ => exact .inr ⟨_, rfl, hst⟩
    | poll haddr hst =>
        exact .inr ⟨.pollShared _, by rw [agentEvent, haddr, Option.map_some], hst⟩
    | accept | request | openStream | stream => exact .inl ⟨rfl, rfl⟩

/-- **The streams of an agent** within the daemon. -/
def streamsPart (o : ByteOrder) (localAddr : Option SocketAddr) (c : ConnId) :
    Component (machine o localAddr) ConnStreams.machine where
  part s := s.streams c
  act := streamEvent c
  part_init := rfl
  part_step := by
    intro s e t h
    have hset : ∀ (d : ConnId) (f : StreamEvent) (m : ConnStreams),
        (s.streams d).step f = some m → ConnStreams.machine.Mirrors (if d = c then some f else none)
          (s.streams c) (Function.update s.streams d m c) := by
      intro d f m hm
      by_cases hd : d = c
      · subst hd
        rw [if_pos rfl, Function.update_self]
        exact .inr ⟨f, rfl, hm⟩
      · rw [if_neg hd, Function.update_of_ne (Ne.symm hd)]
        exact .inl ⟨rfl, rfl⟩
    cases moves_of_step h with
    | agent | poll | accept | request => exact .inl ⟨rfl, rfl⟩
    | stream halone hm =>
        simp only [streamEvent, halone, and_true]
        exact hset _ _ _ hm
    | hangUp _ hm | pongFailed _ hm => exact hset _ _ _ hm
    | @receive d msg st m _ hm =>
        have hmirrors := hset d _ m hm
        rw [← (s.note_frame d msg).2.1] at hmirrors ⊢
        exact hmirrors
    | @openStream x d k request uid action m _ _ _ hm =>
        refine .inr ⟨_, rfl, ?_⟩
        by_cases hd : c = d
        · subst hd
          simpa [opened, ConnStreams.machine] using hm
        · rw [if_neg (Ne.symm hd)]
          simp [opened, hd, ConnStreams.machine, ConnStreams.step]

/-! ## Clients and their streams -/

/-- The client was accepted, and the user was found for its connection. -/
def Identified (o : ByteOrder) (events : List DaemonEvent) (x : ℕ) (uid : Uid) : Prop :=
  ∃ ask loc peer, .accept x ask loc peer ∈ events ∧ peer.isLoopback ∧
    tcpPeerUid o ask loc peer = .ok (.ok uid)

/-- The route is one of a device that an agent of the user has reported. -/
def Reported (s : Daemon) (uid : Uid) (routeId : String) : Prop :=
  ∃ l ∈ s.reported uid, ∃ d ∈ l.devices, d.routeId = some routeId

/-- The stream is one that was opened for a client of the agent's user. -/
def OpenedForUser (s : Daemon) (c : ConnId) (k : ℕ) : Prop :=
  s.state.task c ≠ .absent ∧ ∃ x action, s.openedFor c k = some x ∧
    s.client x = .serving (s.state.conn c).uid action ∧ (s.streams c).request k ∈ action.opens

/-- Clients are served as who they are, by what their agents have reported, and streams run on
connections of their users. -/
structure Attributed (o : ByteOrder) (localAddr : Option SocketAddr) (events : List DaemonEvent)
    (s : Daemon) : Prop where
  clients : ∀ x uid, (s.client x).user = some uid → Identified o events x uid
  routes : ∀ x uid action, s.client x = .serving uid action →
    ∀ request ∈ action.opens, s.Reported uid request.1
  confined : s.state.tenants.Confined localAddr
  stored : ∀ uid l, s.state.tenants.priv uid = some l → l ∈ s.reported uid
  streams : ∀ c k, (s.streams c).task k ≠ .absent → s.OpenedForUser c k

/-- What is opened for a client is a route of a device in the list of its user. -/
theorem opens_confined {tenants : TenantRegistry} (h : tenants.Confined localAddr)
    {adbVersion : UInt32} {payload : List UInt8} {request : String × String}
    (hrequest : request ∈ (handleAdbClient tenants (localAddr.map localBackendAt) adbVersion
      (some uid) payload).opens) :
    ∃ l, tenants.priv uid = some l ∧ ∃ d ∈ l.devices, d.routeId = some request.1 := by
  unfold handleAdbClient at hrequest
  rcases hservice : fromUtf8 payload with _ | service
  · simp [hservice, ClientAction.opens] at hrequest
  · simp only [hservice] at hrequest
    obtain ⟨upstream, hroute⟩ : ∃ upstream, (serveClient (tenants.snapshotFor uid)
        (localAddr.map localBackendAt) adbVersion service).route =
          some (.priv request.1 upstream) := by
      generalize serveClient _ _ _ _ = action at hrequest
      cases action with
      | forwardPrivate routeId upstream =>
          rw [ClientAction.opens, List.mem_singleton] at hrequest
          exact ⟨upstream, by rw [hrequest]; rfl⟩
      | transport routeId upstream serial selector =>
          have hfirst : request.1 = routeId := by
            rcases List.mem_cons.mp hrequest with rfl | hrequest
            · rfl
            · rw [List.mem_singleton.mp hrequest]
          exact ⟨upstream, by rw [hfirst]; rfl⟩
      | _ => cases hrequest
    exact h.routeMulti (routeMulti_of_route hroute).2

/-! ## One step -/

theorem Attributed.later (h : s.Attributed o localAddr events) (e : DaemonEvent) :
    s.Attributed o localAddr (events ++ [e]) where
  clients x uid hx := by
    obtain ⟨ask, loc, peer, haccept, hrest⟩ := h.clients x uid hx
    exact ⟨ask, loc, peer, List.mem_append_left _ haccept, hrest⟩
  routes := h.routes
  confined := h.confined
  stored := h.stored
  streams := h.streams

/-- A stream goes on running for its client where connection, client and request stay. -/
theorem OpenedForUser.keep (h : s.OpenedForUser c k)
    (hconn : (t.state.conn c).uid = (s.state.conn c).uid ∧ t.state.task c ≠ .absent)
    (hopened : t.openedFor c k = s.openedFor c k)
    (hclient : ∀ x action, s.client x = .serving (s.state.conn c).uid action →
      t.client x = .serving (s.state.conn c).uid action)
    (hrequest : (t.streams c).request k = (s.streams c).request k) : t.OpenedForUser c k := by
  obtain ⟨-, x, action, hx, hserving, hopens⟩ := h
  refine ⟨hconn.2, x, action, hopened.trans hx, ?_, hrequest ▸ hopens⟩
  rw [hconn.1]
  exact hclient x action hserving

/-- The agents' tasks take a step. -/
theorem Attributed.moveState (h : s.Attributed o localAddr events) {f : AgentEvent}
    {st : DaemonState} (heffect : s.state.Effect f st) (hconfined : st.tenants.Confined localAddr)
    (hstored : ∀ uid l, st.tenants.priv uid = some l → l ∈ s.reported uid) :
    Attributed o localAddr events { s with state := st } where
  clients := h.clients
  routes := h.routes
  confined := hconfined
  stored := hstored
  streams c k hk := (h.streams c k hk).keep
    (DaemonState.uid_step heffect (h.streams c k hk).1) rfl (fun _ _ hx => hx) rfl

/-- The streams of an agent take a step by which none is opened. -/
theorem Attributed.moveStreams (h : s.Attributed o localAddr events) {f : StreamEvent}
    {m : ConnStreams} (hm : (s.streams c).step f = some m) (hf : ∀ k r v, f ≠ .openSession k r v) :
    (s.setStreams c m).Attributed o localAddr events where
  clients := h.clients
  routes := h.routes
  confined := h.confined
  stored := h.stored
  streams d k hk := by
    by_cases hd : d = c
    · subst hd
      have hmoved : (s.setStreams d m).streams d = m := Function.update_self ..
      rw [hmoved] at hk
      rcases ConnStreams.begun_step hm hk with hbegun | ⟨r, v, rfl, -⟩
      · have hkeeps := ConnStreams.keeps_step hm hbegun
        have hold := h.streams d k hbegun
        exact hold.keep ⟨rfl, hold.1⟩ rfl (fun _ _ hx => hx) (by rw [hmoved]; exact hkeeps.request)
      · exact absurd rfl (hf k r v)
    · have hsame : (s.setStreams c m).streams d = s.streams d := Function.update_of_ne hd _ _
      rw [hsame] at hk
      have hold := h.streams d k hk
      exact hold.keep ⟨rfl, hold.1⟩ rfl (fun _ _ hx => hx) (by rw [hsame])

/-- A client that is not being served yet moves on. -/
theorem Attributed.moveClient (h : s.Attributed o localAddr events) {client : AdbClient}
    (hx : ∀ uid action, s.client x ≠ .serving uid action)
    (hid : ∀ uid, client.user = some uid → Identified o events x uid)
    (hroutes : ∀ uid action, client = .serving uid action →
      ∀ request ∈ action.opens, s.Reported uid request.1) :
    (s.setClient x client).Attributed o localAddr events where
  clients y uid hy := by
    by_cases hyx : y = x
    · subst hyx
      simp only [setClient, Function.update_self] at hy
      exact hid uid hy
    · simp only [setClient, Function.update_of_ne hyx] at hy
      exact h.clients y uid hy
  routes y uid action hy := by
    by_cases hyx : y = x
    · subst hyx
      simp only [setClient, Function.update_self] at hy
      exact hroutes uid action hy
    · simp only [setClient, Function.update_of_ne hyx] at hy
      exact h.routes y uid action hy
  confined := h.confined
  stored := h.stored
  streams c k hk := by
    have hold := h.streams c k hk
    refine hold.keep ⟨rfl, hold.1⟩ rfl (fun y action hy => ?_) rfl
    have hyx : y ≠ x := by
      rintro rfl
      exact hx _ _ hy
    simpa only [setClient, Function.update_of_ne hyx] using hy

/-- A list is noted. -/
theorem Attributed.note (h : s.Attributed o localAddr events) (uid : Uid) (l : DeviceSnapshot) :
    Attributed o localAddr events
      { s with reported := Function.update s.reported uid (s.reported uid ++ [l]) } := by
  have hgrows : ∀ v, ∀ l' ∈ s.reported v,
      l' ∈ Function.update s.reported uid (s.reported uid ++ [l]) v := by
    intro v l' hl'
    by_cases hv : v = uid
    · subst hv
      rw [Function.update_self]
      exact List.mem_append_left _ hl'
    · rwa [Function.update_of_ne hv]
  refine ⟨h.clients, ?_, h.confined, fun v l' hl' => hgrows v l' (h.stored v l' hl'), h.streams⟩
  intro x v action hx request hrequest
  obtain ⟨l', hl', hd⟩ := h.routes x v action hx request hrequest
  exact ⟨l', hgrows v l' hl', hd⟩

/-- A stream is opened for a client. -/
theorem Attributed.opened (h : s.Attributed o localAddr events) (hcons : s.state.Consistent)
    {request : String × String} {action : ClientAction} {m : ConnStreams}
    (hx : s.client x = .serving uid action) (hagent : s.state.agents uid = some c)
    (hrequest : request ∈ action.opens)
    (hm : (s.streams c).step (.openSession k request.1 request.2) = some m) :
    (s.opened x c k m).Attributed o localAddr events := by
  obtain ⟨huid, hlive⟩ := hcons.agents_live uid c hagent
  have hconn : s.state.task c ≠ .absent := by
    rcases hlive with hlive | hlive
    · simp [hlive]
    · simp [hlive]
  have hfresh : (s.streams c).task k = .absent := by
    cases ConnStreams.moves_of_step hm with
    | openSession htask => exact htask
  refine ⟨h.clients, h.routes, h.confined, h.stored, fun d j hj => ?_⟩
  by_cases hd : d = c
  · subst hd
    have hmoved : (s.opened x d k m).streams d = m := if_pos rfl
    rw [hmoved] at hj
    rcases ConnStreams.begun_step hm hj with hbegun | ⟨r, v, hopen, hasked⟩
    · have hkeeps := ConnStreams.keeps_step hm hbegun
      have hold := h.streams d j hbegun
      have hjk : j ≠ k := by
        rintro rfl
        exact hbegun hfresh
      exact hold.keep ⟨rfl, hold.1⟩ (by simp [Daemon.opened, hjk]) (fun _ _ hx => hx)
        (by rw [hmoved]; exact hkeeps.request)
    · obtain ⟨rfl, rfl, rfl⟩ := StreamEvent.openSession.inj hopen
      refine ⟨hconn, x, action, by simp [Daemon.opened], ?_, ?_⟩
      · exact hx.trans (by rw [show (s.opened x d k m).state = s.state from rfl, huid])
      · rw [hmoved, hasked]
        exact hrequest
  · have hsame : (s.opened x c k m).streams d =
        { s.streams d with nextStreamId := (s.streams d).nextStreamId + 1 } := if_neg hd
    rw [hsame] at hj
    have hold := h.streams d j hj
    exact hold.keep ⟨rfl, hold.1⟩ (by simp [Daemon.opened, hd]) (fun _ _ hx => hx) (by rw [hsame])

/-- Without the streams, the agents' tasks bring no device lists. -/
theorem priv_of_alone {st st' : DaemonState} {f : AgentEvent} (h : st.Effect f st')
    (halone : f.alone st = true) :
    st'.tenants.shared = st.tenants.shared ∧
      ∀ uid l, st'.tenants.priv uid = some l → st.tenants.priv uid = some l := by
  cases h with
  | report | ignore | pollShared => cases halone
  | removeDevices =>
      refine ⟨rfl, fun uid l hl => ?_⟩
      rw [TenantRegistry.priv_removeAgent, Function.update_apply] at hl
      split_ifs at hl
      exact hl
  | _ => exact ⟨rfl, fun _ _ hl => hl⟩

/-- A reported list is what was made of a message. -/
theorem exists_sanitized {msg : IpcMessage} {l : DeviceSnapshot} (h : msg.reported = some l) :
    ∃ sent, l = sanitizedToSnapshot sent := by
  cases msg with
  | deviceSnapshot m | deviceSnapshotChanged m => exact ⟨m.devices, (Option.some.inj h).symm⟩
  | _ => cases h

/-- A confined registry stays so when lists are taken out. -/
theorem confined_of_priv {r r' : TenantRegistry} (h : r.Confined localAddr)
    (hshared : r'.shared = r.shared)
    (hpriv : ∀ uid l, r'.priv uid = some l → r.priv uid = some l) : r'.Confined localAddr :=
  ⟨hshared ▸ h.shared, fun uid l hl => h.priv uid l (hpriv uid l hl)⟩

/-- **One step.** -/
theorem attributed_step (h : s.Attributed o localAddr events) (hcons : s.state.Consistent)
    (hs : s.step o localAddr e = some t) : t.Attributed o localAddr (events ++ [e]) := by
  have h := h.later e
  have he : e ∈ events ++ [e] := List.mem_append_right _ (List.mem_singleton_self e)
  generalize events ++ [e] = past at h he
  cases moves_of_step hs with
  | agent halone hst =>
      have heffect := DaemonState.effect_of_step hst
      obtain ⟨hshared, hpriv⟩ := priv_of_alone heffect halone
      exact h.moveState heffect (confined_of_priv h.confined hshared hpriv)
        fun uid l hl => h.stored uid l (hpriv uid l hl)
  | @poll body addr st haddr hst =>
      have heffect := DaemonState.effect_of_step hst
      obtain rfl := Option.some.inj hst
      have hupdate : (RegistryEvent.updateShared _).FromDaemon localAddr := ⟨addr, body, haddr, rfl⟩
      exact h.moveState heffect (h.confined.step hupdate rfl) h.stored
  | @accept x ask loc peer hx =>
      have hnone : ∀ uid action, s.client x ≠ .serving uid action := by simp [hx]
      refine h.moveClient hnone (fun uid huid => ?_) fun uid action hserving => ?_
      · unfold identifyClient at huid
        split_ifs at huid with hlocal
        split at huid
        · rename_i found hfound
          obtain rfl := Option.some.inj huid
          exact ⟨ask, loc, peer, he, hlocal, hfound⟩
        · cases huid
        · cases huid
      · unfold identifyClient at hserving
        split_ifs at hserving
        split at hserving <;> cases hserving
  | @request x adbVersion payload uid hx =>
      have hnone : ∀ uid action, s.client x ≠ .serving uid action := by simp [hx]
      refine h.moveClient hnone (fun v hv => ?_) fun v action hserving request hrequest => ?_
      · exact h.clients x v (by rw [hx]; exact hv)
      · obtain ⟨rfl, rfl⟩ := AdbClient.serving.inj hserving
        obtain ⟨l, hl, hd⟩ := opens_confined h.confined hrequest
        exact ⟨l, h.stored _ l hl, hd⟩
  | openStream hx hagent hrequest hm => exact h.opened hcons hx hagent hrequest hm
  | stream halone hm =>
      refine h.moveStreams hm ?_
      rintro k r v rfl
      cases halone
  | @receive c msg st m hst hm =>
      have heffect := DaemonState.effect_of_step hst
      cases heffect with
      | @report _ _ l hserving hl =>
          have hnote : s.note c msg = { s with
              reported := Function.update s.reported (s.state.conn c).uid
                (s.reported (s.state.conn c).uid ++ [l]) } := by
            rw [Daemon.note, hl]
          have hmoved := (h.note (s.state.conn c).uid l).moveStreams (c := c) hm (by simp)
          rw [hnote]
          refine hmoved.moveState (.report hserving hl) ?_ fun v l' hl' => ?_
          · have hupdate : (RegistryEvent.updateAgentDevices (s.state.conn c).uid l).FromDaemon
                localAddr := exists_sanitized hl
            exact h.confined.step hupdate rfl
          · by_cases hv : v = (s.state.conn c).uid
            · subst hv
              obtain rfl : l = l' := by simpa [DaemonState.report] using hl'
              simp [setStreams]
            · have hold : s.state.tenants.priv v = some l' := by
                simpa [DaemonState.report, hv] using hl'
              simpa [setStreams, hv] using h.stored v l' hold
      | ignore hserving hl =>
          have hsame : s.note c msg = s := by rw [Daemon.note, hl]
          rw [hsame]
          exact h.moveStreams hm (by simp)
  | hangUp hst hm | pongFailed hst hm =>
      have heffect := DaemonState.effect_of_step hst
      have hmoved := h.moveStreams hm (by simp)
      cases heffect with
      | hangUp => exact hmoved.moveState (DaemonState.effect_of_step hst) h.confined h.stored
      | leave => exact hmoved.moveState (DaemonState.effect_of_step hst) h.confined h.stored

theorem attributed_of_run (h : (machine o localAddr).Reaches events s) :
    s.Attributed o localAddr events := by
  unfold Machine.Reaches at h
  induction h with
  | init =>
      refine ⟨by rintro x uid ⟨⟩, by rintro x uid action ⟨⟩, ⟨by rintro d ⟨⟩, by rintro uid l ⟨⟩⟩,
        by rintro uid l ⟨⟩, fun c k hk => absurd rfl hk⟩
  | snoc hr _ hs ih =>
      exact attributed_step ih
        (DaemonState.consistent_of_run ((agentsPart o localAddr).reaches hr)) hs

/-! ## Whose streams they are -/

/-- A connection was accepted with the user that it has. -/
theorem connect_of_run {past : List AgentEvent} {st : DaemonState}
    (h : DaemonState.machine.Reaches past st) (hc : st.task c ≠ .absent) :
    .connect c (st.conn c).uid ∈ past := by
  unfold Machine.Reaches at h
  induction h with
  | init => exact absurd rfl hc
  | @snoc past st st' f _ _ hs ih =>
      have heffect := DaemonState.effect_of_step hs
      by_cases hold : st.task c = .absent
      · refine List.mem_append_right _ (List.mem_singleton.mpr ?_)
        cases heffect with
        | @connect d uid hd =>
            by_cases hdc : c = d
            · subst hdc
              simp
            · simp [DaemonState.goto, hdc, hold] at hc
        | report | ignore | addTunnel | pollShared => exact absurd hold hc
        | @reject d _ hd | @register d _ hd | @hangUp d hd | @leave d hd | @takeOut d _ hd
        | @replaced d hd | @removeDevices d _ hd | @removeTunnels d hd =>
            have hdc : c ≠ d := by
              rintro rfl
              rw [hold] at hd
              cases hd
            simp [DaemonState.goto, DaemonState.register, DaemonState.takeOut, hdc, hold] at hc
      · rw [(DaemonState.uid_step heffect hold).1]
        exact List.mem_append_left _ (ih hold)

/-- A stream of an agent is for a client who is that agent's user: the process at the other end of
the control connection and the process whose socket is at the other end of the client's connection
have the same user, and an agent of this user has reported the device. -/
structure WithinUser (o : ByteOrder) (events : List DaemonEvent) (s : Daemon) (c : ConnId) (k : ℕ) :
    Prop where
  /-- Source: `daemon.rs`, `handle_agent`, `peer_cred_unix`. -/
  agent : .agent (.connect c (s.state.conn c).uid) ∈ events
  client : ∃ x ask loc peer action, s.openedFor c k = some x ∧
    .accept x ask loc peer ∈ events ∧ peer.isLoopback ∧
    (∀ sockets room, AnswersDump o ask sockets room →
      ∃ t ∈ sockets, t.HasEnds peer loc ∧ t.uid = (s.state.conn c).uid) ∧
    s.client x = .serving (s.state.conn c).uid action ∧ (s.streams c).request k ∈ action.opens
  route : s.Reported (s.state.conn c).uid ((s.streams c).request k).1

/-- **Streams stay within a user.** In every run of the daemon, for every agent: each of its streams
is for a client that is the same user; the agent is told of nothing but such streams and of what
their clients sent; and these clients get nothing but data that this agent has sent.
Source: `daemon.rs`, `forward_private`; `multi-user-design.md` -/
theorem streams_within_user (h : (machine o localAddr).Reaches events s) (c : ConnId) :
    (∀ k, (s.streams c).task k ≠ .absent → s.WithinUser o events c k) ∧
    (∀ msg ∈ (s.streams c).toAgent,
      (s.streams c).Tells (events.filterMap (streamEvent c)) msg) ∧
    (∀ k, ∀ data ∈ (s.streams c).toClient k, ∃ id, .receive c (.streamData id data) ∈ events) := by
  have hattributed := attributed_of_run h
  have hcarried := ConnStreams.carried_of_run ((streamsPart o localAddr c).reaches h)
  refine ⟨fun k hk => ?_, hcarried.told, fun k data hdata => ?_⟩
  · obtain ⟨hlive, x, action, hx, hserving, hopens⟩ := hattributed.streams c k hk
    obtain ⟨ask, loc, peer, haccept, hlocal, hfound⟩ := hattributed.clients x (s.state.conn c).uid
      (by rw [hserving]; rfl)
    refine ⟨?_, ⟨x, ask, loc, peer, action, hx, haccept, hlocal, ?_, hserving, hopens⟩,
      hattributed.routes x _ action hserving _ hopens⟩
    · have hconnect := connect_of_run ((agentsPart o localAddr).reaches h) hlive
      obtain ⟨e, he, hact⟩ := List.mem_filterMap.mp hconnect
      cases e with
      | agent e =>
          obtain rfl := Option.some.inj hact
          exact he
      | poll body =>
          obtain ⟨addr, -, hpoll⟩ := Option.map_eq_some_iff.mp hact
          cases hpoll
      | _ => cases hact
    · intro sockets room hk
      exact owner_of_tcpPeerUid hk hfound
  · obtain ⟨id, hid⟩ := hcarried.given k data hdata
    obtain ⟨e, he, hact⟩ := List.mem_filterMap.mp hid
    exact ⟨id, by rwa [← receive_of_streamEvent hact]⟩

/-- The agent of user 1000 reports a device, and a client of that user asks for it. -/
def aliceEvents : List DaemonEvent :=
  [.agent (.connect 0 1000), .agent (.first 0 (DaemonState.registration "t")),
    .receive 0 DaemonState.reportAbc,
    .accept 0 (kernel .little threeSockets) (.loopback 5037) (.loopback 40000),
    .request 0 41 (utf8 "host-serial:ABC:get-state"),
    .openStream 0 0 0 ("office:ABC", "host-serial:ABC:get-state"), .stream 0 (.insertTx 0),
    .stream 0 (.insertWaiter 0), .stream 0 (.openWritten 0 true)]

/-- The stream that is opened is within the user. -/
theorem alice_within_user : ∃ s, (machine .little none).Reaches aliceEvents s ∧
    (s.streams 0).task 0 = .waiting ∧ s.WithinUser .little aliceEvents 0 0 := by
  have hrun : ((machine .little none).exec (machine .little none).init aliceEvents).any
      (fun s => decide ((s.streams 0).task 0 = .waiting)) = true := by decide +kernel
  obtain ⟨s, hs, htask⟩ := (Option.any_eq_true _ _).mp hrun
  have hreach := Machine.reaches_of_exec hs
  have hbegun : (s.streams 0).task 0 ≠ .absent := by
    rw [of_decide_eq_true htask]
    decide
  exact ⟨s, hreach, of_decide_eq_true htask, (streams_within_user hreach 0).1 0 hbegun⟩

end Daemon

end AdbHub
