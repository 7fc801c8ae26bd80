import AdbHub.Tunnel.Tasks

/-!
# Whose tunnels they are

What the users of one tunnel manager can do to each other's listeners, and what is left of a
listener when it cannot be replaced (`tunnel.rs`, `TunnelManager`).

* `Tunnels.ByOwnersOnly`, **`listeners_by_owners_only`** — a listener is stopped only for its own
  owner and serial, and connects only peers of its owner.
* `Tunnels.add` — an `add` as a whole; `exec_add`: it is what the manager does step by step.
* **`add_atomic_iff`** — an `add` that fails leaves everything as it was, unless it had a listener
  to replace.
-/

namespace AdbHub

open Lib

namespace TunnelEvent

/-- The event is an operation for the owner and serial of a listener on its port, or for all
listeners of its owner. -/
def StopsFor (e : TunnelEvent) (port : UInt16) (l : Listener) : Prop :=
  match e with
  | .add call => call.port = port ∧ call.listener = l
  | .remove p serial owner => p = port ∧ ⟨owner, serial⟩ = l
  | .removeOwner owner => l.owner = some owner
  | _ => False

end TunnelEvent

namespace Tunnels

variable {s t : Tunnels} {e : TunnelEvent} {l : ℕ}

/-! ## Owners -/

/-- A listener accepts connections and was not told to stop. -/
def Live (s : Tunnels) (l : ℕ) : Prop := s.accept l = .accepting ∧ s.stopped l = false

/-- Every accepted connection was allowed. -/
def PeersAllowed (s : Tunnels) : Prop :=
  ∀ c l, s.accepted[c]? = some l → l < s.count ∧ s.Allowed l (s.peer c)

/-- What the operations of one owner do to the listeners of the others, and to whom listeners
connect. -/
structure ByOwnersOnly (s : Tunnels) : Prop where
  /-- A live listener is stopped only for its owner and serial, or ends when accepting fails. -/
  stops : ∀ e t l, s.step e = some t → s.Live l → ¬ t.Live l →
    e.StopsFor (s.port l) (s.listener l) ∨ e = .acceptFails l
  /-- Afterwards no listener of the owner is in the map, and the others are as before. -/
  removeOwner : ∀ owner t, s.step (.removeOwner owner) = some t →
    (∀ port l, t.listeners port = some l → (t.listener l).owner ≠ some owner) ∧
      ∀ l, (s.listener l).owner ≠ some owner → t.listener l = s.listener l ∧ t.port l = s.port l ∧
        t.stopped l = s.stopped l ∧ t.accept l = s.accept l ∧
          ∀ port, t.listeners port = some l ↔ s.listeners port = some l
  /-- A listener with an owner opens connections only for peers of this owner. -/
  peers : ∀ c l uid, c ∈ s.opens → s.accepted[c]? = some l → (s.listener l).owner = some uid →
    s.peer c = some uid

/-- A live listener is stopped only for its owner and serial. -/
theorem stopsFor_of_moves (hm : s.Mapped) (h : s.Moves e t) (hl : s.Live l) (ht : ¬ t.Live l) :
    e.StopsFor (s.port l) (s.listener l) ∨ e = .acceptFails l := by
  have hrelease : ∀ {port : UInt16} {l' : ℕ}, s.listeners port = some l' →
      ¬ (s.release port l').Live l → port = s.port l ∧ s.listener l' = s.listener l := by
    intro port l' hl' hnot
    by_cases hll : l = l'
    · rw [hll]
      exact ⟨(hm.port port l' hl').symm, rfl⟩
    · exact absurd (by simpa [Live, release, hll] using hl) hnot
  cases h with
  | @replace call l' _ hl' hsame =>
      obtain ⟨hport, hlistener⟩ := hrelease hl' ht
      exact .inl ⟨hport, hsame.symm.trans hlistener⟩
  | @remove port serial owner l' _ hl' hsame =>
      obtain ⟨hport, hlistener⟩ := hrelease hl' ht
      exact .inl ⟨hport, hsame.symm.trans hlistener⟩
  | inUse | notRemoved => exact absurd hl ht
  | add | replaced | bindFails | removed | begin | handshake => exact absurd hl ht
  | @bound call port _ hbind =>
      have hlt := hm.running_lt l (.inl hl.1)
      refine absurd ?_ ht
      refine ⟨?_, ?_⟩
      · simpa [listen, hlt.ne] using hl.1
      · rcases hold : s.listeners port with _ | l'
        · simpa [listen, hold] using hl.2
        · -- the port of a running listener is not handed out
          have hll : l ≠ l' := by
            rintro rfl
            exact hbind.2.2 l hlt (.inl hl.1) (hm.port port l hold)
          simpa [listen, hold, hll] using hl.2
  | @removeOwner owner _ =>
      left
      by_contra howner
      refine ht ⟨hl.1, ?_⟩
      show (s.stopped l || decide _) = false
      rw [hl.2, Bool.false_or, decide_eq_false]
      exact fun h => howner h.2
  | @accept l' peer _ =>
      refine absurd ?_ ht
      unfold connect
      split_ifs
      · exact hl
      · exact hl
  | @acceptFails l' _ =>
      by_cases hll : l' = l
      · exact .inr (by rw [hll])
      · exact absurd (by simpa [Live, Ne.symm hll] using hl) ht
  | @stopSeen l' _ hstop =>
      have hll : l ≠ l' := by
        rintro rfl
        rw [hl.2] at hstop
        cases hstop
      exact absurd (by simpa [Live, hll] using hl) ht
  | @drained l' haccept =>
      have hll : l ≠ l' := by
        rintro rfl
        rw [hl.1] at haccept
        cases haccept
      exact absurd (by simpa [Live, hll] using hl) ht

/-- Listeners keep their owner, and so do connections their peer. -/
theorem PeersAllowed.keep (hp : s.PeersAllowed) (haccepted : t.accepted = s.accepted)
    (hpeer : t.peer = s.peer) (hcount : s.count ≤ t.count)
    (hlistener : ∀ l < s.count, t.listener l = s.listener l) : t.PeersAllowed := by
  intro c l hl
  rw [haccepted] at hl
  obtain ⟨hlt, hallowed⟩ := hp c l hl
  refine ⟨hlt.trans_le hcount, ?_⟩
  unfold Allowed at hallowed ⊢
  rwa [hlistener l hlt, hpeer]

theorem peersAllowed_step (hm : s.Mapped) (hp : s.PeersAllowed) (h : s.Moves e t) :
    t.PeersAllowed := by
  cases h with
  | replace | inUse | add | replaced | bindFails | remove | notRemoved | removed | removeOwner
  | acceptFails | stopSeen | drained | begin | handshake =>
      exact hp.keep rfl rfl le_rfl fun _ _ => rfl
  | bound _ _ =>
      refine hp.keep rfl rfl (Nat.le_succ _) fun l hl => ?_
      exact Function.update_of_ne hl.ne _ _
  | @accept l peer hrunning =>
      unfold connect
      split_ifs with hallowed
      · intro c l' hl'
        rcases Nat.lt_trichotomy c s.accepted.length with hlt | rfl | hgt
        · have hold : s.accepted[c]? = some l' := by
            simpa [List.getElem?_append_left hlt] using hl'
          obtain ⟨hcount, hpeer⟩ := hp c l' hold
          refine ⟨hcount, ?_⟩
          simpa [Allowed, hlt.ne] using hpeer
        · obtain rfl : l = l' := by simpa using hl'
          refine ⟨hm.running_lt l hrunning, ?_⟩
          simpa [Allowed] using hallowed
        · simp [List.getElem?_append_right hgt.le, Nat.sub_ne_zero_of_lt hgt] at hl'
      · exact hp

theorem peersAllowed_of_reaches {events : List TunnelEvent} (h : machine.Reaches events s) :
    s.PeersAllowed := by
  have hboth : s.Mapped ∧ s.PeersAllowed := by
    refine Machine.Run.invariant (I := fun s => s.Mapped ∧ s.PeersAllowed) h
      ⟨mapped_of_run (C := fun _ _ => True) .init, ?_⟩ fun s e t hi _ hs => ?_
    · intro c l hl
      simp [machine] at hl
    · have hmoves := moves_of_step hs
      exact ⟨mapped_step hi.1 hmoves, peersAllowed_step hi.1 hi.2 hmoves⟩
  exact hboth.2

/-- **Listeners are their owners'.** In every run a live listener is stopped only by an operation
for its owner and serial on its port, or by one for all listeners of its owner; such an operation
leaves no listener of the owner in the map and the others as they are; and a listener with an owner
opens connections only for peers that are this user.
Source: `tunnel.rs`, `TunnelManager` -/
theorem listeners_by_owners_only {events : List TunnelEvent} (h : machine.Reaches events s) :
    s.ByOwnersOnly := by
  have hm : s.Mapped := mapped_of_run h
  have hp : s.PeersAllowed := peersAllowed_of_reaches h
  constructor
  · intro e t l hs hl ht
    exact stopsFor_of_moves hm (moves_of_step hs) hl ht
  · intro owner t hs
    cases moves_of_step hs with
    | removeOwner _ =>
        refine ⟨fun port l hl => ?_, fun l hl => ⟨rfl, rfl, ?_, rfl, fun port => ?_⟩⟩
        · simpa using (Option.filter_eq_some_iff.mp hl).2
        · show (s.stopped l || decide _) = s.stopped l
          rw [decide_eq_false fun h => hl h.2, Bool.or_false]
        · show (s.listeners port).filter _ = some l ↔ _
          rw [Option.filter_eq_some_iff]
          simp [hl]
  · intro c l uid _ hl huid
    exact (hp c l hl).2 uid huid

/-- A forward of user 1000, which user 1001 cannot remove; user 1001 leaves. -/
def foreignRemove : List TunnelEvent :=
  [.add ⟨5000, "office:ABC", "localabstract:scrcpy_1", some 1000⟩, .bound 5000,
    .remove 5000 "office:ABC" (some 1001), .accept 0 (some 1001), .accept 0 (some 1000),
    .removeOwner 1001, .begin 0]

/-- The forward stays, and connects its owner only. -/
theorem foreign_remove_ignored :
    ∃ s, machine.Reaches foreignRemove s ∧ s.listeners 5000 = some 0 ∧ s.accepted = [0] ∧
      s.peer 0 = some 1000 ∧ s.ByOwnersOnly := by
  have hrun : (machine.exec machine.init foreignRemove).map
      (fun s => (s.listeners 5000, s.accepted, s.peer 0)) = some (some 0, [0], some 1000) := by
    decide +kernel
  obtain ⟨s, hs, hstate⟩ := Option.map_eq_some_iff.mp hrun
  obtain ⟨hmap, haccepted, hpeer⟩ : s.listeners 5000 = some 0 ∧ s.accepted = [0] ∧
      s.peer 0 = some 1000 := by simpa using hstate
  have hreach := Machine.reaches_of_exec hs
  exact ⟨s, hreach, hmap, haccepted, hpeer, listeners_by_owners_only hreach⟩

/-! ## An `add` as a whole -/

/-- The accept task takes what is queued and returns, if it has not returned before. -/
def drain (s : Tunnels) (l : ℕ) (queued : List (Option Uid)) : Tunnels :=
  if s.accept l = .ended then s
  else
    { queued.foldl (fun s peer => s.connect l peer) s with
      accept := Function.update s.accept l .ended }

/-- Bind the port, and listen. Source: `TunnelManager::add`, from `TcpListener::bind` on. -/
def bindListener (s : Tunnels) (call : AddCall) (bind : Except String UInt16) :
    Except String UInt16 × Tunnels :=
  match bind with
  | .ok port => (.ok port, s.listen call port)
  | .error e => (.error e, s)

/-- Source: `TunnelManager::add`; `queued` are the peers of the connections that the replaced
listener still takes, and `bind` is what the operating system answers. -/
def add (s : Tunnels) (call : AddCall) (queued : List (Option Uid)) (bind : Except String UInt16) :
    Except String UInt16 × Tunnels :=
  match s.listeners call.port with
  | some l =>
      if s.listener l = call.listener then
        ((s.release call.port l).drain l queued).bindListener call bind
      else (.error "port already used by another device", s)
  | none => s.bindListener call bind

/-- The map and the running listeners are the same. -/
def SameListeners (s t : Tunnels) : Prop :=
  t.listeners = s.listeners ∧ ∀ l, t.Running l ↔ s.Running l

/-- The port has a listener for the same owner and serial. -/
def Replaces (s : Tunnels) (call : AddCall) : Prop :=
  ∃ l, s.listeners call.port = some l ∧ s.listener l = call.listener

theorem listeners_connect (s : Tunnels) (l : ℕ) (peer : Option Uid) :
    (s.connect l peer).listeners = s.listeners := by
  unfold connect
  split_ifs
  · rfl
  · rfl

theorem foldl_connect_listeners (s : Tunnels) (l : ℕ) (queued : List (Option Uid)) :
    (queued.foldl (fun s peer => s.connect l peer) s).listeners = s.listeners := by
  induction queued generalizing s with
  | nil => rfl
  | cons peer queued ih =>
      rw [List.foldl_cons, ih, listeners_connect]

theorem listeners_drain (s : Tunnels) (l : ℕ) (queued : List (Option Uid)) :
    (s.drain l queued).listeners = s.listeners := by
  unfold drain
  split_ifs
  · rfl
  · exact foldl_connect_listeners s l queued

/-- **An `add` that fails, exactly.** Whatever the state of the manager, an `add` that returns an
error leaves the map and the running listeners as they were iff it has no listener to replace or
its bind succeeds.
Source: `tunnel.rs`, `TunnelManager::add` -/
theorem add_atomic_iff (s : Tunnels) (call : AddCall) (queued : List (Option Uid))
    (bind : Except String UInt16) :
    ((∃ e, (s.add call queued bind).1 = .error e) → s.SameListeners (s.add call queued bind).2) ↔
      (s.Replaces call → ∃ port, bind = .ok port) := by
  unfold add Replaces
  rcases hl : s.listeners call.port with _ | l
  · refine iff_of_true (fun herror => ?_) (by simp)
    obtain ⟨e, he⟩ := herror
    rcases bind with err | port
    · exact ⟨rfl, fun _ => Iff.rfl⟩
    · cases he
  · dsimp only
    split_ifs with hsame
    · rcases bind with err | port
      · refine iff_of_false (fun h => ?_) fun h => ?_
        · have hmap := (h ⟨err, rfl⟩).1
          have hport : ((s.release call.port l).drain l queued).listeners call.port = none := by
            rw [listeners_drain]
            exact Function.update_self ..
          have hsome : ((s.release call.port l).drain l queued).listeners call.port = some l := by
            rw [← hl]
            exact congrFun hmap call.port
          rw [hport] at hsome
          cases hsome
        · obtain ⟨port, hport⟩ := h ⟨l, rfl, hsame⟩
          cases hport
      · refine iff_of_true (fun herror => ?_) fun _ => ⟨port, rfl⟩
        obtain ⟨e, he⟩ := herror
        cases he
    · refine iff_of_true (fun _ => ⟨rfl, fun _ => Iff.rfl⟩) ?_
      rintro ⟨l', hl', hsame'⟩
      obtain rfl := Option.some.inj hl'
      exact absurd hsame' hsame

/-- A manager with one listener, for user 1000 on port 5000. -/
def oneListener : Tunnels :=
  ({} : Tunnels).listen ⟨5000, "office:ABC", "localabstract:scrcpy_1", some 1000⟩ 5000

/-- The forward is added again, and its port was taken by another process: it is gone. -/
theorem add_again_fails :
    ¬ ∀ (s : Tunnels) (call : AddCall) (queued : List (Option Uid)) (bind : Except String UInt16),
      (∃ e, (s.add call queued bind).1 = .error e) →
        s.SameListeners (s.add call queued bind).2 := by
  intro h
  have hsame := h oneListener ⟨5000, "office:ABC", "localabstract:scrcpy_1", some 1000⟩ []
    (.error "Address already in use (os error 98)") ⟨_, by rfl⟩
  have hmap : (none : Option ℕ) = some 0 := congrFun hsame.1 5000
  cases hmap

/-! ## The `add` step by step -/

/-- What the accept task does from its stop signal until it has returned. -/
def stopEvents (s : Tunnels) (l : ℕ) (queued : List (Option Uid)) : List TunnelEvent :=
  match s.accept l with
  | .absent | .ended => []
  | .accepting => .stopSeen l :: (queued.map (.accept l) ++ [.drained l])
  | .draining => queued.map (.accept l) ++ [.drained l]

/-- What the operating system answers. -/
def bindEvent : Except String UInt16 → TunnelEvent
  | .ok port => .bound port
  | .error _ => .bindFails

/-- What an `add` does. -/
def addEvents (s : Tunnels) (call : AddCall) (queued : List (Option Uid))
    (bind : Except String UInt16) : List TunnelEvent :=
  match s.listeners call.port with
  | some l =>
      if s.listener l = call.listener then
        .add call :: (s.stopEvents l queued ++ [.replaced, bindEvent bind])
      else [.add call]
  | none => [.add call, bindEvent bind]

theorem accept_connect (s : Tunnels) (l : ℕ) (peer : Option Uid) :
    (s.connect l peer).accept = s.accept := by
  unfold connect
  split_ifs
  · rfl
  · rfl

theorem exec_accepts (l : ℕ) (queued : List (Option Uid)) (hl : s.Running l) :
    machine.exec s (queued.map (.accept l)) =
      some (queued.foldl (fun s peer => s.connect l peer) s) := by
  induction queued generalizing s with
  | nil => rfl
  | cons peer queued ih =>
      have hstep : machine.step s (.accept l peer) = some (s.connect l peer) := if_pos hl
      rw [List.map_cons, Machine.exec, hstep, Option.bind_some, List.foldl_cons]
      refine ih ?_
      unfold Running
      rwa [accept_connect]

theorem foldl_connect_accept (s : Tunnels) (l : ℕ) (queued : List (Option Uid)) :
    (queued.foldl (fun s peer => s.connect l peer) s).accept = s.accept := by
  induction queued generalizing s with
  | nil => rfl
  | cons peer queued ih =>
      rw [List.foldl_cons, ih, accept_connect]

/-- A listener that is told to stop takes what is queued and returns. -/
theorem exec_drain (l : ℕ) (queued : List (Option Uid)) (hl : s.accept l = .draining) :
    machine.exec s (queued.map (.accept l) ++ [.drained l]) = some (s.drain l queued) := by
  have haccept : (queued.foldl (fun s peer => s.connect l peer) s).accept l = .draining := by
    rw [foldl_connect_accept, hl]
  rw [Machine.exec_append, exec_accepts l queued (.inr hl), Option.bind_some, Machine.exec]
  show (if _ then _ else _ : Option Tunnels).bind _ = _
  rw [if_pos haccept, Option.bind_some]
  unfold drain
  rw [if_neg (by simp [hl]), foldl_connect_accept]
  rfl

/-- A connection neither reads nor writes the operation. -/
theorem connect_op (s : Tunnels) (l : ℕ) (peer : Option Uid) (op : ManagerOp) :
    ({ s with op := op } : Tunnels).connect l peer = { s.connect l peer with op := op } := by
  unfold connect
  show (if s.Allowed l peer then _ else _) = _
  split_ifs
  · rfl
  · rfl

/-- Nor does it read or write the accept tasks. -/
theorem connect_setAccept (s : Tunnels) (l : ℕ) (peer : Option Uid) (accept : ℕ → AcceptTask) :
    ({ s with accept := accept } : Tunnels).connect l peer =
      { s.connect l peer with accept := accept } := by
  unfold connect
  show (if s.Allowed l peer then _ else _) = _
  split_ifs
  · rfl
  · rfl

theorem foldl_connect_op (s : Tunnels) (l : ℕ) (queued : List (Option Uid)) (op : ManagerOp) :
    queued.foldl (fun s peer => s.connect l peer) { s with op := op } =
      { queued.foldl (fun s peer => s.connect l peer) s with op := op } :=
  List.foldl_hom (fun s : Tunnels => { s with op := op }) fun s peer => connect_op s l peer op

theorem foldl_connect_setAccept (s : Tunnels) (l : ℕ) (queued : List (Option Uid))
    (accept : ℕ → AcceptTask) :
    queued.foldl (fun s peer => s.connect l peer) { s with accept := accept } =
      { queued.foldl (fun s peer => s.connect l peer) s with accept := accept } :=
  List.foldl_hom (fun s : Tunnels => { s with accept := accept })
    fun s peer => connect_setAccept s l peer accept

theorem drain_op (s : Tunnels) (l : ℕ) (queued : List (Option Uid)) (op : ManagerOp) :
    ({ s with op := op } : Tunnels).drain l queued = { s.drain l queued with op := op } := by
  unfold drain
  show (if s.accept l = .ended then _ else _) = _
  split_ifs
  · rfl
  · rw [foldl_connect_op]

theorem drain_ended (s : Tunnels) (l : ℕ) (queued : List (Option Uid)) :
    (s.drain l queued).accept l = .ended := by
  unfold drain
  split_ifs with hended
  · exact hended
  · exact Function.update_self ..

/-- The accept task of a listener that was told to stop. -/
theorem exec_stopEvents (l : ℕ) (queued : List (Option Uid)) (hcreated : s.accept l ≠ .absent)
    (hstop : s.stopped l = true) :
    machine.exec s (s.stopEvents l queued) = some (s.drain l queued) := by
  unfold stopEvents
  rcases haccept : s.accept l with _ | _ | _ | _
  · exact absurd haccept hcreated
  · have hstep : machine.step s (.stopSeen l) =
        some { s with accept := Function.update s.accept l .draining } := if_pos ⟨haccept, hstop⟩
    dsimp only
    rw [Machine.exec, hstep, Option.bind_some, exec_drain l queued (Function.update_self ..)]
    unfold drain
    rw [if_neg (by simp), if_neg (by simp [haccept]),
      foldl_connect_setAccept]
    simp only [Function.update_idem]
  · exact exec_drain l queued haccept
  · show some s = _
    unfold drain
    rw [if_pos haccept]

theorem op_drain (s : Tunnels) (l : ℕ) (queued : List (Option Uid)) :
    (s.drain l queued).op = s.op := by
  have h : s.drain l queued = { s.drain l queued with op := s.op } := drain_op s l queued s.op
  rw [h]

/-- The last step of an `add`. -/
theorem exec_bind {call : AddCall} (bind : Except String UInt16) (hop : s.op = .free)
    (hbind : ∀ port, bind = .ok port → s.MayBind call.port port) :
    machine.exec { s with op := .binding call } [bindEvent bind] =
      some (s.bindListener call bind).2 := by
  rcases bind with e | port
  · simp [Machine.exec, machine, step, bindListener, bindEvent, ← hop]
  · have hmay : ({ s with op := .binding call } : Tunnels).MayBind call.port port := hbind port rfl
    simp [Machine.exec, machine, step, bindListener, bindEvent, hmay, listen, ← hop]

/-- **An `add` is what the manager does step by step**, if the operating system hands out no port
that a running listener holds. -/
theorem exec_add {call : AddCall} (queued : List (Option Uid)) (bind : Except String UInt16)
    (hop : s.op = .free) (hcreated : ∀ l, s.listeners call.port = some l → s.accept l ≠ .absent)
    (hbind : ∀ port, bind = .ok port → (s.listeners call.port = none → s.MayBind call.port port) ∧
      ∀ l, s.listeners call.port = some l →
        ((s.release call.port l).drain l queued).MayBind call.port port) :
    machine.exec s (s.addEvents call queued bind) = some (s.add call queued bind).2 := by
  unfold addEvents add
  rcases hl : s.listeners call.port with _ | l
  · have hstep : machine.step s (.add call) = some { s with op := .binding call } := by
      simp [machine, step, hop, hl]
    dsimp only
    rw [Machine.exec, hstep, Option.bind_some]
    exact exec_bind bind hop fun port h => (hbind port h).1 hl
  · dsimp only
    split_ifs with hsame
    · have hstep : machine.step s (.add call) =
          some { s.release call.port l with op := .replacing call l } := by
        simp [machine, step, hop, hl, hsame]
      have hstop : machine.exec { s.release call.port l with op := .replacing call l }
          (s.stopEvents l queued) =
            some { (s.release call.port l).drain l queued with op := .replacing call l } := by
        rw [← drain_op]
        exact exec_stopEvents l queued (hcreated l hl) (Function.update_self ..)
      have hreplaced : machine.step
          { (s.release call.port l).drain l queued with op := .replacing call l } .replaced =
            some { (s.release call.port l).drain l queued with op := .binding call } :=
        if_pos (drain_ended _ l queued)
      rw [Machine.exec, hstep, Option.bind_some, Machine.exec_append, hstop, Option.bind_some,
        Machine.exec, hreplaced, Option.bind_some]
      exact exec_bind bind ((op_drain _ l queued).trans hop) fun port h => (hbind port h).2 l hl
    · have hstep : machine.step s (.add call) = some s := by
        simp [machine, step, hop, hl, hsame]
      rw [Machine.exec, hstep]
      rfl

end Tunnels

end AdbHub
