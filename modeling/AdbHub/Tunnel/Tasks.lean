import AdbHub.Protocol
import AdbHub.Tunnel

/-!
# The tasks of the tunnel manager

The listeners of the tunnel manager with their accept tasks, and a task for every connection they
accept (`tunnel.rs`, `TunnelManager`).

* `Tunnels` — the map of listeners, where each task stands, and the operation that holds the lock of
  the map.
* `Tunnels.step` — the operations `add`, `remove` and `remove_owner`, step by step, with the accept
  tasks and the connections running in between. The operating system hands out no port that a
  running listener holds.
* `Tunnels.Moves` — what each step requires and where it leads; **`moves_of_step`**.
* `manager_bound`, `manager_removeOwner` — the map as the `TunnelManager` of listeners by port.
-/

namespace AdbHub

open Lib Protocol

/-! ## Tasks -/

/-- Where an accept task stands. Source: `TunnelManager::add`, `task`. -/
inductive AcceptTask
  | absent
  | accepting
  /-- It was told to stop and takes what is queued. -/
  | draining
  /-- It has returned; the listening socket is closed. -/
  | ended
  deriving DecidableEq

/-- Where the task of an accepted connection stands. Source: `TunnelManager::add`, the task spawned
for a connection. -/
inductive TunnelTask
  | absent
  /-- It waits for the previous connection. -/
  | waiting
  /-- It has called `open`. -/
  | opening
  /-- It reads the status of the device transport. -/
  | transportStatus
  /-- It writes the service. -/
  | service
  /-- It reads the status of the device socket. -/
  | socketStatus
  /-- It copies in both directions. -/
  | relaying
  | ended
  deriving DecidableEq

/-- What the task of a connection meets. -/
inductive Handshake
  | opened (ok : Bool)
  /-- Four bytes were read, or reading failed. -/
  | status (bytes : Option Stream)
  | serviceWritten (ok : Bool)
  /-- Ten seconds have passed. -/
  | timeout
  | relayEnds

namespace TunnelTask

/-- One step of a connection after it was opened. Source: `TunnelManager::add`, `connected`. -/
def next : TunnelTask → Handshake → Option TunnelTask
  | .opening, .opened ok => some (if ok then .transportStatus else .ended)
  | .transportStatus, .status bytes => some (if bytes = some okayStatus then .service else .ended)
  | .service, .serviceWritten ok => some (if ok then .socketStatus else .ended)
  | .socketStatus, .status bytes => some (if bytes = some okayStatus then .relaying else .ended)
  | .opening, .timeout | .transportStatus, .timeout | .service, .timeout
  | .socketStatus, .timeout => some .ended
  | .relaying, .relayEnds => some .ended
  | _, _ => none

/-- The handshake is going on. -/
def Connecting (c : TunnelTask) : Prop :=
  c = .opening ∨ c = .transportStatus ∨ c = .service ∨ c = .socketStatus

/-- The handshake has succeeded, failed or timed out. -/
def Settled (c : TunnelTask) : Prop := c = .relaying ∨ c = .ended

instance (c : TunnelTask) : Decidable c.Settled :=
  inferInstanceAs (Decidable (c = .relaying ∨ c = .ended))

/-- `open` was called. -/
def Begun (c : TunnelTask) : Prop := c.Connecting ∨ c.Settled

/-- A handshake goes on or is settled; once it is settled it stays so. -/
theorem next_cases {c d : TunnelTask} {e : Handshake} (h : c.next e = some d) :
    c.Connecting ∧ (d.Connecting ∨ d.Settled) ∨ c.Settled ∧ d.Settled := by
  unfold Connecting Settled
  cases c <;> cases e <;> simp only [next, reduceCtorEq, Option.some.injEq] at h <;> subst h
  all_goals first
    | (split_ifs <;> simp)
    | simp

/-- Any handshake may time out. -/
theorem Connecting.timeout {c : TunnelTask} (h : c.Connecting) :
    c.next .timeout = some .ended := by
  rcases h with rfl | rfl | rfl | rfl <;> rfl

end TunnelTask

/-! ## Operations -/

/-- The arguments of an `add`. Source: `TunnelManager::add`. -/
structure AddCall where
  port : UInt16
  serial : String
  /-- The service that is sent to the device. -/
  socket : String
  owner : Option Uid
  deriving DecidableEq

/-- The listener that is asked for. -/
def AddCall.listener (call : AddCall) : Listener := ⟨call.owner, call.serial⟩

/-- The operation that holds the lock of the map. -/
inductive ManagerOp
  | free
  /-- `add` waits for the task of the listener it replaces. -/
  | replacing (call : AddCall) (l : ℕ)
  /-- `add` binds the port. -/
  | binding (call : AddCall)
  /-- `remove` waits for the task of the listener. -/
  | removing (l : ℕ)
  deriving DecidableEq

/-- Listeners and connections are numbered as they come. Source: `TunnelManager`. -/
structure Tunnels where
  op : ManagerOp := .free
  /-- Source: `TunnelManager`, `listeners`. -/
  listeners : UInt16 → Option ℕ := fun _ => none
  /-- How many listeners there were. -/
  count : ℕ := 0
  /-- Owner and serial of a listener. -/
  listener : ℕ → Listener := fun _ => ⟨none, ""⟩
  /-- The port a listener is bound to. -/
  port : ℕ → UInt16 := fun _ => 0
  socket : ℕ → String := fun _ => ""
  accept : ℕ → AcceptTask := fun _ => .absent
  /-- The `stop` signal of a listener was sent. -/
  stopped : ℕ → Bool := fun _ => false
  /-- The connection that a listener accepted last. Source: `TunnelManager::add`, `previous`. -/
  previous : ℕ → Option ℕ := fun _ => none
  /-- The listeners of the connections. -/
  accepted : List ℕ := []
  /-- The user of the peer, where it can be told. -/
  peer : ℕ → Option Uid := fun _ => none
  /-- The connection a task waits for. Source: `TunnelManager::add`, `wait_for_previous`. -/
  waitFor : ℕ → Option ℕ := fun _ => none
  task : ℕ → TunnelTask := fun _ => .absent
  /-- The service that was sent on a connection. -/
  sent : ℕ → Option String := fun _ => none
  /-- The connections whose tasks have called `open`, in order. -/
  opens : List ℕ := []

/-- What happens next. -/
inductive TunnelEvent
  | add (call : AddCall)
  /-- The task of the replaced listener has returned. -/
  | replaced
  /-- The port is bound. -/
  | bound (port : UInt16)
  | bindFails
  | remove (port : UInt16) (serial : String) (owner : Option Uid)
  /-- The task of the removed listener has returned. -/
  | removed
  | removeOwner (owner : Uid)
  /-- Listener `l` accepts a connection of a peer. -/
  | accept (l : ℕ) (peer : Option Uid)
  | acceptFails (l : ℕ)
  /-- The accept task sees its `stop` signal. -/
  | stopSeen (l : ℕ)
  /-- Nothing is queued any more. -/
  | drained (l : ℕ)
  /-- The task of connection `c` calls `open`. -/
  | begin (c : ℕ)
  | handshake (c : ℕ) (e : Handshake)

namespace Tunnels

/-- The listening socket of a listener is open. -/
def Running (s : Tunnels) (l : ℕ) : Prop := s.accept l = .accepting ∨ s.accept l = .draining

instance (s : Tunnels) (l : ℕ) : Decidable (s.Running l) :=
  inferInstanceAs (Decidable (s.accept l = .accepting ∨ s.accept l = .draining))

/-- Take a listener out of the map and send its `stop` signal. Source: `TunnelManager::add` and
`remove`, `listeners.remove` and `Listener::stop`. -/
def release (s : Tunnels) (port : UInt16) (l : ℕ) : Tunnels :=
  { s with
    listeners := Function.update s.listeners port none
    stopped := Function.update s.stopped l true }

/-- A new listener, bound to a port. An entry it replaces is dropped, which sends its `stop`
signal. Source: `TunnelManager::add`, `tokio::spawn` and `listeners.insert`. -/
def listen (s : Tunnels) (call : AddCall) (port : UInt16) : Tunnels :=
  { s with
    listeners := Function.update s.listeners port (some s.count)
    count := s.count + 1
    listener := Function.update s.listener s.count call.listener
    port := Function.update s.port s.count port
    socket := Function.update s.socket s.count call.socket
    accept := Function.update s.accept s.count .accepting
    stopped := match s.listeners port with
      | some l => Function.update s.stopped l true
      | none => s.stopped }

/-- A peer may connect: the listener has no owner, or the peer is its owner. Source:
`TunnelManager::add`, `allowed`. -/
def Allowed (s : Tunnels) (l : ℕ) (peer : Option Uid) : Prop :=
  ∀ uid, (s.listener l).owner = some uid → peer = some uid

instance (s : Tunnels) (l : ℕ) (peer : Option Uid) : Decidable (s.Allowed l peer) :=
  decidable_of_iff ((s.listener l).owner.all (fun uid => peer = some uid) = true) <| by
    unfold Allowed
    rcases (s.listener l).owner with _ | uid
    · simp
    · simp

/-- An accepted connection is dropped, or its task spawned. Source: `TunnelManager::add`. -/
def connect (s : Tunnels) (l : ℕ) (peer : Option Uid) : Tunnels :=
  if s.Allowed l peer then
    { s with
      previous := Function.update s.previous l (some s.accepted.length)
      accepted := s.accepted ++ [l]
      peer := Function.update s.peer s.accepted.length peer
      waitFor := Function.update s.waitFor s.accepted.length (s.previous l)
      task := Function.update s.task s.accepted.length .waiting }
  else s

/-- The connection that a task waits for has settled, or there is none. -/
def Ready (s : Tunnels) (c : ℕ) : Prop := ∀ b ∈ s.waitFor c, (s.task b).Settled

instance (s : Tunnels) (c : ℕ) : Decidable (s.Ready c) :=
  inferInstanceAs (Decidable (∀ b ∈ s.waitFor c, (s.task b).Settled))

/-- What the operating system may bind when a port is asked for: this port, or any for port 0, but
none that a running listener holds. -/
def MayBind (s : Tunnels) (asked port : UInt16) : Prop :=
  port ≠ 0 ∧ (asked ≠ 0 → port = asked) ∧ ∀ l < s.count, s.Running l → s.port l ≠ port

instance (s : Tunnels) (asked port : UInt16) : Decidable (s.MayBind asked port) :=
  inferInstanceAs (Decidable (_ ∧ _ ∧ ∀ l < s.count, s.Running l → s.port l ≠ port))

/-- One step. Source: `tunnel.rs`, `TunnelManager`. -/
def step (s : Tunnels) : TunnelEvent → Option Tunnels
  | .add call =>
      if s.op = .free then
        match s.listeners call.port with
        | some l =>
            if s.listener l = call.listener then
              some { s.release call.port l with op := .replacing call l }
            else some s
        | none => some { s with op := .binding call }
      else none
  | .replaced =>
      match s.op with
      | .replacing call l =>
          if s.accept l = .ended then some { s with op := .binding call } else none
      | _ => none
  | .bound port =>
      match s.op with
      | .binding call =>
          if s.MayBind call.port port then some { s.listen call port with op := .free } else none
      | _ => none
  | .bindFails =>
      match s.op with
      | .binding _ => some { s with op := .free }
      | _ => none
  | .remove port serial owner =>
      if s.op = .free then
        match s.listeners port with
        | some l =>
            if s.listener l = ⟨owner, serial⟩ then
              some { s.release port l with op := .removing l }
            else some s
        | none => some s
      else none
  | .removed =>
      match s.op with
      | .removing l => if s.accept l = .ended then some { s with op := .free } else none
      | _ => none
  | .removeOwner owner =>
      if s.op = .free then
        some { s with
          listeners := fun port =>
            (s.listeners port).filter fun l => (s.listener l).owner ≠ some owner
          -- what leaves the map is dropped
          stopped := fun l => s.stopped l ||
            decide (s.listeners (s.port l) = some l ∧ (s.listener l).owner = some owner) }
      else none
  | .accept l peer => if s.Running l then some (s.connect l peer) else none
  | .acceptFails l =>
      if s.Running l then some { s with accept := Function.update s.accept l .ended } else none
  | .stopSeen l =>
      if s.accept l = .accepting ∧ s.stopped l = true then
        some { s with accept := Function.update s.accept l .draining }
      else none
  | .drained l =>
      if s.accept l = .draining then some { s with accept := Function.update s.accept l .ended }
      else none
  | .begin c =>
      if s.task c = .waiting ∧ s.Ready c then
        some { s with task := Function.update s.task c .opening, opens := s.opens ++ [c] }
      else none
  | .handshake c e =>
      match (s.task c).next e, s.accepted[c]? with
      | some task, some l =>
          some { s with
            task := Function.update s.task c task
            sent := if task = .socketStatus then Function.update s.sent c (some (s.socket l))
              else s.sent }
      | _, _ => none

/-- The tunnel manager as a machine. -/
def machine : Machine Tunnels TunnelEvent := ⟨{}, step⟩

/-! ## What a step does -/

/-- The steps of the tunnel manager, each with what it requires and where it leads. -/
inductive Moves (s : Tunnels) : TunnelEvent → Tunnels → Prop
  | replace {call l} (hop : s.op = .free) (hl : s.listeners call.port = some l)
      (hsame : s.listener l = call.listener) :
      Moves s (.add call) { s.release call.port l with op := .replacing call l }
  | inUse {call l} (hop : s.op = .free) (hl : s.listeners call.port = some l)
      (hother : s.listener l ≠ call.listener) : Moves s (.add call) s
  | add {call} (hop : s.op = .free) (hnone : s.listeners call.port = none) :
      Moves s (.add call) { s with op := .binding call }
  | replaced {call l} (hop : s.op = .replacing call l) (hended : s.accept l = .ended) :
      Moves s .replaced { s with op := .binding call }
  | bound {call port} (hop : s.op = .binding call) (hbind : s.MayBind call.port port) :
      Moves s (.bound port) { s.listen call port with op := .free }
  | bindFails {call} (hop : s.op = .binding call) : Moves s .bindFails { s with op := .free }
  | remove {port serial owner l} (hop : s.op = .free) (hl : s.listeners port = some l)
      (hsame : s.listener l = ⟨owner, serial⟩) :
      Moves s (.remove port serial owner) { s.release port l with op := .removing l }
  | notRemoved {port serial owner} (hop : s.op = .free)
      (hother : ∀ l, s.listeners port = some l → s.listener l ≠ ⟨owner, serial⟩) :
      Moves s (.remove port serial owner) s
  | removed {l} (hop : s.op = .removing l) (hended : s.accept l = .ended) :
      Moves s .removed { s with op := .free }
  | removeOwner {owner} (hop : s.op = .free) :
      Moves s (.removeOwner owner) { s with
        listeners := fun port =>
          (s.listeners port).filter fun l => (s.listener l).owner ≠ some owner
        stopped := fun l => s.stopped l ||
          decide (s.listeners (s.port l) = some l ∧ (s.listener l).owner = some owner) }
  | accept {l peer} (hrunning : s.Running l) : Moves s (.accept l peer) (s.connect l peer)
  | acceptFails {l} (hrunning : s.Running l) :
      Moves s (.acceptFails l) { s with accept := Function.update s.accept l .ended }
  | stopSeen {l} (haccept : s.accept l = .accepting) (hstop : s.stopped l = true) :
      Moves s (.stopSeen l) { s with accept := Function.update s.accept l .draining }
  | drained {l} (haccept : s.accept l = .draining) :
      Moves s (.drained l) { s with accept := Function.update s.accept l .ended }
  | begin {c} (htask : s.task c = .waiting) (hready : s.Ready c) :
      Moves s (.begin c)
        { s with task := Function.update s.task c .opening, opens := s.opens ++ [c] }
  | handshake {c e task l} (hnext : (s.task c).next e = some task)
      (hl : s.accepted[c]? = some l) :
      Moves s (.handshake c e)
        { s with
          task := Function.update s.task c task
          sent := if task = .socketStatus then Function.update s.sent c (some (s.socket l))
            else s.sent }

variable {s t : Tunnels} {e : TunnelEvent}

/-- **What a step does.** -/
theorem moves_of_step (h : s.step e = some t) : s.Moves e t := by
  cases e with
  | add call =>
      simp only [step] at h
      split_ifs at h with hop
      rcases hl : s.listeners call.port with _ | l
      · rw [hl] at h
        obtain rfl := Option.some.inj h
        exact .add hop hl
      · rw [hl] at h
        dsimp only at h
        split_ifs at h with hsame
        · obtain rfl := Option.some.inj h
          exact .replace hop hl hsame
        · obtain rfl := Option.some.inj h
          exact .inUse hop hl hsame
  | replaced =>
      simp only [step] at h
      split at h
      · rename_i call l hop
        split_ifs at h with hended
        obtain rfl := Option.some.inj h
        exact .replaced hop hended
      · cases h
  | bound port =>
      simp only [step] at h
      split at h
      · rename_i call hop
        split_ifs at h with hbind
        obtain rfl := Option.some.inj h
        exact .bound hop hbind
      · cases h
  | bindFails =>
      simp only [step] at h
      split at h
      · rename_i call hop
        obtain rfl := Option.some.inj h
        exact .bindFails hop
      · cases h
  | remove port serial owner =>
      simp only [step] at h
      split_ifs at h with hop
      rcases hl : s.listeners port with _ | l
      · rw [hl] at h
        obtain rfl := Option.some.inj h
        refine .notRemoved hop fun l hl' => ?_
        rw [hl] at hl'
        cases hl'
      · rw [hl] at h
        dsimp only at h
        split_ifs at h with hsame
        · obtain rfl := Option.some.inj h
          exact .remove hop hl hsame
        · obtain rfl := Option.some.inj h
          refine .notRemoved hop fun l' hl' => ?_
          rw [hl] at hl'
          rwa [← Option.some.inj hl']
  | removed =>
      simp only [step] at h
      split at h
      · rename_i l hop
        split_ifs at h with hended
        obtain rfl := Option.some.inj h
        exact .removed hop hended
      · cases h
  | removeOwner owner =>
      simp only [step] at h
      split_ifs at h with hop
      obtain rfl := Option.some.inj h
      exact .removeOwner hop
  | accept l peer =>
      simp only [step] at h
      split_ifs at h with hrunning
      obtain rfl := Option.some.inj h
      exact .accept hrunning
  | acceptFails l =>
      simp only [step] at h
      split_ifs at h with hrunning
      obtain rfl := Option.some.inj h
      exact .acceptFails hrunning
  | stopSeen l =>
      simp only [step] at h
      split_ifs at h with hstop
      obtain rfl := Option.some.inj h
      exact .stopSeen hstop.1 hstop.2
  | drained l =>
      simp only [step] at h
      split_ifs at h with haccept
      obtain rfl := Option.some.inj h
      exact .drained haccept
  | begin c =>
      simp only [step] at h
      split_ifs at h with hready
      obtain rfl := Option.some.inj h
      exact .begin hready.1 hready.2
  | handshake c e =>
      simp only [step] at h
      split at h
      · rename_i task l hnext hl
        obtain rfl := Option.some.inj h
        exact .handshake hnext hl
      · cases h

/-! ## The map by port -/

/-- The listeners by port. -/
def manager (s : Tunnels) : TunnelManager := ⟨fun port => (s.listeners port).map s.listener⟩

/-- The entries of the map are listeners that were created, on their own ports. -/
structure Mapped (s : Tunnels) : Prop where
  port : ∀ port l, s.listeners port = some l → s.port l = port
  lt_count : ∀ port l, s.listeners port = some l → l < s.count
  running_lt : ∀ l, s.Running l → l < s.count
  stopped_lt : ∀ l, s.stopped l = true → l < s.count

/-- What does not touch the listeners keeps this. -/
theorem Mapped.keep (h : s.Mapped) (hmap : ∀ port l, t.listeners port = some l →
      s.listeners port = some l) (hport : t.port = s.port) (hcount : t.count = s.count)
    (hrunning : ∀ l, t.Running l → s.Running l)
    (hstopped : ∀ l, t.stopped l = true → s.stopped l = true ∨ ∃ port, s.listeners port = some l) :
    t.Mapped := by
  constructor
  · intro port l hl
    rw [hport]
    exact h.port port l (hmap port l hl)
  · intro port l hl
    rw [hcount]
    exact h.lt_count port l (hmap port l hl)
  · intro l hl
    rw [hcount]
    exact h.running_lt l (hrunning l hl)
  · intro l hl
    rw [hcount]
    rcases hstopped l hl with hl | ⟨port, hl⟩
    · exact h.stopped_lt l hl
    · exact h.lt_count port l hl

theorem Mapped.listen (h : s.Mapped) (call : AddCall) (port : UInt16) :
    (s.listen call port).Mapped := by
  have hne : ∀ p l, s.listeners p = some l → l ≠ s.count := fun p l hl => (h.lt_count p l hl).ne
  constructor
  · intro p l hl
    by_cases hp : p = port
    · have hcount : s.count = l := by simpa [Tunnels.listen, hp] using hl
      simp [Tunnels.listen, ← hcount, hp]
    · have hold : s.listeners p = some l := by simpa [Tunnels.listen, hp] using hl
      simp [Tunnels.listen, hne p l hold, h.port p l hold]
  · intro p l hl
    show l < s.count + 1
    by_cases hp : p = port
    · have hcount : s.count = l := by simpa [Tunnels.listen, hp] using hl
      omega
    · have hold : s.listeners p = some l := by simpa [Tunnels.listen, hp] using hl
      exact (h.lt_count p l hold).trans (Nat.lt_succ_self _)
  · intro l hl
    show l < s.count + 1
    by_cases hcount : l = s.count
    · omega
    · have hold : s.Running l := by simpa [Running, Tunnels.listen, hcount] using hl
      exact (h.running_lt l hold).trans (Nat.lt_succ_self _)
  · intro l hl
    refine Nat.lt_succ_of_lt ?_
    rcases hold : s.listeners port with _ | l'
    · have hl' : s.stopped l = true := by simpa [Tunnels.listen, hold] using hl
      exact h.stopped_lt l hl'
    · by_cases hll : l = l'
      · rw [hll]
        exact h.lt_count port l' hold
      · have hl' : s.stopped l = true := by simpa [Tunnels.listen, hold, hll] using hl
        exact h.stopped_lt l hl'

theorem Mapped.release (h : s.Mapped) {port : UInt16} {l : ℕ} (hl : s.listeners port = some l) :
    (s.release port l).Mapped := by
  refine h.keep (fun p l' hp => ?_) rfl rfl (fun _ hr => hr) fun l' hs => ?_
  · by_cases hpp : p = port
    · simp [Tunnels.release, hpp] at hp
    · simpa [Tunnels.release, hpp] using hp
  · by_cases hll : l' = l
    · exact .inr ⟨port, hll ▸ hl⟩
    · exact .inl (by simpa [Tunnels.release, hll] using hs)

theorem mapped_step (hm : s.Mapped) (h : s.Moves e t) : t.Mapped := by
  cases h with
  | replace _ hl _ | remove _ hl _ =>
      exact (hm.release hl).keep (fun _ _ hp => hp) rfl rfl (fun _ hr => hr) fun _ hs => .inl hs
  | @bound call port _ _ =>
      exact (hm.listen call port).keep (fun _ _ hp => hp) rfl rfl (fun _ hr => hr) fun _ hs => .inl hs
  | inUse | notRemoved => exact hm
  | add | replaced | bindFails | removed | begin | handshake =>
      exact hm.keep (fun _ _ hp => hp) rfl rfl (fun _ hr => hr) fun _ hs => .inl hs
  | removeOwner _ =>
      refine hm.keep (fun _ l hp => ?_) rfl rfl (fun _ hr => hr) fun l hs => ?_
      · exact (Option.filter_eq_some_iff.mp hp).1
      · rcases Bool.or_eq_true_iff.mp hs with hs | hs
        · exact .inl hs
        · exact .inr ⟨s.port l, (of_decide_eq_true hs).1⟩
  | @accept l peer _ =>
      unfold connect
      split_ifs
      · exact hm.keep (fun _ _ hp => hp) rfl rfl (fun _ hr => hr) fun _ hs => .inl hs
      · exact hm
  | @acceptFails l _ | @drained l _ =>
      refine hm.keep (fun _ _ hp => hp) rfl rfl (fun l' hr => ?_) fun _ hs => .inl hs
      by_cases hl : l' = l
      · simp [Running, hl] at hr
      · simpa [Running, hl] using hr
  | @stopSeen l haccept _ =>
      refine hm.keep (fun _ _ hp => hp) rfl rfl (fun l' hr => ?_) fun _ hs => .inl hs
      by_cases hl : l' = l
      · exact .inl (hl ▸ haccept)
      · simpa [Running, hl] using hr

theorem mapped_of_run {C : Tunnels → TunnelEvent → Prop} {events : List TunnelEvent}
    (h : machine.Run C events s) : s.Mapped := by
  refine h.invariant ⟨?_, ?_, ?_, ?_⟩ fun _ _ _ hm _ hs => mapped_step hm (moves_of_step hs)
  all_goals simp [machine, Running]

/-- A new listener is inserted into the map. -/
theorem manager_bound (hm : s.Mapped) {port : UInt16} (h : s.Moves (.bound port) t) :
    ∃ call, s.op = .binding call ∧ t.manager = s.manager.insert port call.listener := by
  cases h with
  | @bound call _ hop _ =>
      refine ⟨call, hop, ?_⟩
      unfold manager TunnelManager.insert
      congr 1
      funext p
      by_cases hp : p = port
      · simp [listen, hp]
      · simp only [listen, Function.update_of_ne hp]
        refine Option.map_congr fun l hl => ?_
        rw [Function.update_of_ne (hm.lt_count p l hl).ne]

/-- The listeners of an owner are removed from the map. -/
theorem manager_removeOwner {owner : Uid} (h : s.Moves (.removeOwner owner) t) :
    t.manager = s.manager.removeOwner owner := by
  cases h with
  | removeOwner _ =>
      unfold manager TunnelManager.removeOwner
      congr 1
      funext p
      show ((s.listeners p).filter fun l => (s.listener l).owner ≠ some owner).map s.listener =
        ((s.listeners p).map s.listener).filter fun l => l.owner ≠ some owner
      rcases s.listeners p with _ | l
      · rfl
      · by_cases howner : (s.listener l).owner = some owner
        · simp [Option.filter, howner]
        · simp [Option.filter, howner]

end Tunnels

end AdbHub
