import AdbHub.Lib.Machine

/-!
# Streams multiplexed over one connection

Sessions on one end of a connection open streams to workers on the other end. Every packet carries
the id of its stream, both ends look ids up in tables, and an id may be used again. Each direction
of the connection is a reliable queue of packets.

* `Mux` — the tables and queues of both ends, what every session and every worker has sent and got,
  and how far the request of each session has come.
* `Mux.Moves` — what each step requires and where it leads.
* `Mux.Unused` — neither end holds the id, and no packet that carries it is on its way.
-/

namespace AdbHub.Lib

/-! ## Sessions, workers and packets -/

/-- What is sent over the connection. -/
inductive Packet (ι β : Type*)
  | request (id : ι)
  | result (id : ι) (ok : Bool)
  | data (id : ι) (chunk : List β)
  | close (id : ι)

/-- The stream a packet belongs to. -/
def Packet.id {ι β : Type*} : Packet ι β → ι
  | .request x | .result x _ | .data x _ | .close x => x

/-- The data in a packet. -/
def Packet.chunk {ι β : Type*} : Packet ι β → List β
  | .data _ c => c
  | _ => []

/-- Where a session stands. -/
inductive SessionPhase
  | absent
  /-- It has taken an id. -/
  | named
  /-- It has entered itself in the table of its end. -/
  | registered
  /-- Its request is sent. -/
  | asked
  | gone
  deriving DecidableEq

/-- Where a worker stands. -/
inductive WorkerPhase
  | absent
  | live
  | gone
  deriving DecidableEq

/-- How far the request of a session has come. -/
inductive Request
  | unsent
  | sent
  /-- The other end has taken it up. -/
  | taken
  /-- The other end has answered that it accepts. -/
  | accepted
  | served (worker : ℕ)
  | refused
  deriving DecidableEq

/-- Both ends of a connection and what is on its way between them. -/
@[ext]
structure Mux (ι β : Type*) where
  phase : ℕ → SessionPhase
  id : ℕ → ι
  /-- id → the session that gets the data. -/
  table : ι → Option ℕ
  /-- id → the session that waits for the answer to its request. -/
  waiters : ι → Option ℕ
  /-- The answer a session got. -/
  granted : ℕ → Option Bool
  sent : ℕ → List β
  got : ℕ → List β
  /-- Packets on their way to the workers, with the session that sent them. -/
  up : List (ℕ × Packet ι β)
  request : ℕ → Request
  /-- The session whose request was taken up last. -/
  serving : ℕ
  worker : ℕ → WorkerPhase
  workerId : ℕ → ι
  /-- id → the worker that gets the data. -/
  workerTable : ι → Option ℕ
  workerSent : ℕ → List β
  workerGot : ℕ → List β
  /-- Packets on their way to the sessions, with the worker that sent them. -/
  down : List (Option ℕ × Packet ι β)

/-- What can happen on a connection. -/
inductive MuxAction (ι β : Type*)
  /-- Session `k` takes an id. -/
  | take (k : ℕ) (x : ι)
  | register (k : ℕ)
  | wait (k : ℕ)
  | unwait (k : ℕ)
  | ask (k : ℕ)
  | send (k : ℕ) (chunk : List β)
  /-- Session `k` removes itself from the table, and may return with that. -/
  | unregister (k : ℕ) (returns : Bool)
  /-- Session `k` sends the end of its stream and returns. -/
  | close (k : ℕ)
  | leave (k : ℕ)
  /-- The next packet for the workers is taken up. -/
  | takeUp
  /-- The request that was taken up is dropped without an answer. -/
  | drop
  | refuse
  | accept
  /-- Worker `j` starts serving the accepted request. -/
  | spawn (j : ℕ)
  | workerSend (j : ℕ) (chunk : List β)
  | workerUnregister (j : ℕ)
  | workerClose (j : ℕ)
  | workerLeave (j : ℕ)
  /-- The next packet for the sessions is taken up. -/
  | takeDown

namespace Mux

variable {ι β : Type*}

/-! ## Steps -/

/-- Nothing has happened yet. -/
def start (x : ι) : Mux ι β where
  phase _ := .absent
  id _ := x
  table _ := none
  waiters _ := none
  granted _ := none
  sent _ := []
  got _ := []
  up := []
  request _ := .unsent
  serving := 0
  worker _ := .absent
  workerId _ := x
  workerTable _ := none
  workerSent _ := []
  workerGot _ := []
  down := []

/-- Session `k` takes part. -/
def Live (s : Mux ι β) (k : ℕ) : Prop := s.phase k ≠ .absent ∧ s.phase k ≠ .gone

instance (s : Mux ι β) (k : ℕ) : Decidable (s.Live k) := inferInstanceAs (Decidable (_ ∧ _))

/-- The workers' end is not occupied with a request. -/
def Idle (s : Mux ι β) : Prop := s.request s.serving ≠ .taken ∧ s.request s.serving ≠ .accepted

instance (s : Mux ι β) : Decidable s.Idle := inferInstanceAs (Decidable (_ ∧ _))

section Steps

variable [DecidableEq ι]

/-- Hand an answer to the session that waits for it. -/
def resolve (s : Mux ι β) (x : ι) (ok : Bool) : Mux ι β :=
  match s.waiters x with
  | none => s
  | some k =>
      { s with
        waiters := Function.update s.waiters x none
        granted := Function.update s.granted k (some ok) }

/-- A packet arrives at the sessions' end. -/
def arriveDown (s : Mux ι β) : Packet ι β → Mux ι β
  | .result x ok => s.resolve x ok
  | .data x c =>
      match s.table x with
      | some k => { s with got := Function.update s.got k (s.got k ++ c) }
      | none => s
  | .close x => { s with table := Function.update s.table x none }.resolve x false
  | .request _ => s

/-- A packet of session `k` arrives at the workers' end. -/
def arriveUp (s : Mux ι β) (k : ℕ) : Packet ι β → Mux ι β
  | .request _ => { s with request := Function.update s.request k .taken, serving := k }
  | .data x c =>
      match s.workerTable x with
      | some j => { s with workerGot := Function.update s.workerGot j (s.workerGot j ++ c) }
      | none => s
  | .close x => { s with workerTable := Function.update s.workerTable x none }
  | .result _ _ => s

/-- One step. -/
def step (s : Mux ι β) : MuxAction ι β → Option (Mux ι β)
  | .take k x =>
      if s.phase k = .absent then
        some { s with phase := Function.update s.phase k .named, id := Function.update s.id k x }
      else none
  | .register k =>
      if s.phase k = .named then
        some { s with
          phase := Function.update s.phase k .registered
          table := Function.update s.table (s.id k) (some k) }
      else none
  | .wait k =>
      if s.phase k = .registered ∧ s.granted k = none then
        some { s with waiters := Function.update s.waiters (s.id k) (some k) }
      else none
  | .unwait k =>
      if s.Live k then some { s with waiters := Function.update s.waiters (s.id k) none } else none
  | .ask k =>
      if s.phase k = .registered then
        some { s with
          phase := Function.update s.phase k .asked
          request := Function.update s.request k .sent
          up := s.up ++ [(k, .request (s.id k))] }
      else none
  | .send k chunk =>
      if s.phase k = .asked ∧ s.granted k = some true then
        some { s with
          sent := Function.update s.sent k (s.sent k ++ chunk)
          up := s.up ++ [(k, .data (s.id k) chunk)] }
      else none
  | .unregister k returns =>
      if s.phase k = .registered ∨ s.phase k = .asked then
        some { s with
          phase := if returns then Function.update s.phase k .gone else s.phase
          table := Function.update s.table (s.id k) none }
      else none
  | .close k =>
      if s.phase k = .asked then
        some { s with
          phase := Function.update s.phase k .gone
          up := s.up ++ [(k, .close (s.id k))] }
      else none
  | .leave k =>
      if s.Live k then some { s with phase := Function.update s.phase k .gone } else none
  | .takeUp =>
      match s.up with
      | [] => none
      | (k, p) :: rest => if s.Idle then some ({ s with up := rest }.arriveUp k p) else none
  | .drop =>
      if s.request s.serving = .taken then
        some { s with request := Function.update s.request s.serving .refused }
      else none
  | .refuse =>
      if s.request s.serving = .taken then
        some { s with
          request := Function.update s.request s.serving .refused
          down := s.down ++ [(none, .result (s.id s.serving) false)] }
      else none
  | .accept =>
      if s.request s.serving = .taken then
        some { s with
          request := Function.update s.request s.serving .accepted
          down := s.down ++ [(none, .result (s.id s.serving) true)] }
      else none
  | .spawn j =>
      if s.request s.serving = .accepted ∧ s.worker j = .absent then
        some { s with
          request := Function.update s.request s.serving (.served j)
          worker := Function.update s.worker j .live
          workerId := Function.update s.workerId j (s.id s.serving)
          workerTable := Function.update s.workerTable (s.id s.serving) (some j) }
      else none
  | .workerSend j chunk =>
      if s.worker j = .live then
        some { s with
          workerSent := Function.update s.workerSent j (s.workerSent j ++ chunk)
          down := s.down ++ [(some j, .data (s.workerId j) chunk)] }
      else none
  | .workerUnregister j =>
      if s.worker j = .live then
        some { s with workerTable := Function.update s.workerTable (s.workerId j) none }
      else none
  | .workerClose j =>
      if s.worker j = .live then
        some { s with
          worker := Function.update s.worker j .gone
          down := s.down ++ [(some j, .close (s.workerId j))] }
      else none
  | .workerLeave j =>
      if s.worker j = .live then some { s with worker := Function.update s.worker j .gone }
      else none
  | .takeDown =>
      match s.down with
      | [] => none
      | (_, p) :: rest => some ({ s with down := rest }.arriveDown p)

/-- The connection as a machine. -/
def machine (β : Type*) (x : ι) : Machine (Mux ι β) (MuxAction ι β) := ⟨start x, step⟩

/-- The steps, each with what it requires and where it leads. -/
inductive Moves (s : Mux ι β) : MuxAction ι β → Mux ι β → Prop
  | take {k x} (hk : s.phase k = .absent) :
      Moves s (.take k x)
        { s with phase := Function.update s.phase k .named, id := Function.update s.id k x }
  | register {k} (hk : s.phase k = .named) :
      Moves s (.register k)
        { s with
          phase := Function.update s.phase k .registered
          table := Function.update s.table (s.id k) (some k) }
  | wait {k} (hk : s.phase k = .registered) (hgranted : s.granted k = none) :
      Moves s (.wait k) { s with waiters := Function.update s.waiters (s.id k) (some k) }
  | unwait {k} (hk : s.Live k) :
      Moves s (.unwait k) { s with waiters := Function.update s.waiters (s.id k) none }
  | ask {k} (hk : s.phase k = .registered) :
      Moves s (.ask k)
        { s with
          phase := Function.update s.phase k .asked
          request := Function.update s.request k .sent
          up := s.up ++ [(k, .request (s.id k))] }
  | send {k chunk} (hk : s.phase k = .asked) (hgranted : s.granted k = some true) :
      Moves s (.send k chunk)
        { s with
          sent := Function.update s.sent k (s.sent k ++ chunk)
          up := s.up ++ [(k, .data (s.id k) chunk)] }
  | unregister {k} (hk : s.phase k = .registered ∨ s.phase k = .asked) :
      Moves s (.unregister k false) { s with table := Function.update s.table (s.id k) none }
  | unregisterLast {k} (hk : s.phase k = .registered ∨ s.phase k = .asked) :
      Moves s (.unregister k true)
        { s with
          phase := Function.update s.phase k .gone
          table := Function.update s.table (s.id k) none }
  | close {k} (hk : s.phase k = .asked) :
      Moves s (.close k)
        { s with
          phase := Function.update s.phase k .gone
          up := s.up ++ [(k, .close (s.id k))] }
  | leave {k} (hk : s.Live k) :
      Moves s (.leave k) { s with phase := Function.update s.phase k .gone }
  | takeUp {k p rest} (hup : s.up = (k, p) :: rest) (hidle : s.Idle) :
      Moves s .takeUp ({ s with up := rest }.arriveUp k p)
  | drop (hs : s.request s.serving = .taken) :
      Moves s .drop { s with request := Function.update s.request s.serving .refused }
  | refuse (hs : s.request s.serving = .taken) :
      Moves s .refuse
        { s with
          request := Function.update s.request s.serving .refused
          down := s.down ++ [(none, .result (s.id s.serving) false)] }
  | accept (hs : s.request s.serving = .taken) :
      Moves s .accept
        { s with
          request := Function.update s.request s.serving .accepted
          down := s.down ++ [(none, .result (s.id s.serving) true)] }
  | spawn {j} (hs : s.request s.serving = .accepted) (hj : s.worker j = .absent) :
      Moves s (.spawn j)
        { s with
          request := Function.update s.request s.serving (.served j)
          worker := Function.update s.worker j .live
          workerId := Function.update s.workerId j (s.id s.serving)
          workerTable := Function.update s.workerTable (s.id s.serving) (some j) }
  | workerSend {j chunk} (hj : s.worker j = .live) :
      Moves s (.workerSend j chunk)
        { s with
          workerSent := Function.update s.workerSent j (s.workerSent j ++ chunk)
          down := s.down ++ [(some j, .data (s.workerId j) chunk)] }
  | workerUnregister {j} (hj : s.worker j = .live) :
      Moves s (.workerUnregister j)
        { s with workerTable := Function.update s.workerTable (s.workerId j) none }
  | workerClose {j} (hj : s.worker j = .live) :
      Moves s (.workerClose j)
        { s with
          worker := Function.update s.worker j .gone
          down := s.down ++ [(some j, .close (s.workerId j))] }
  | workerLeave {j} (hj : s.worker j = .live) :
      Moves s (.workerLeave j) { s with worker := Function.update s.worker j .gone }
  | takeDown {w p rest} (hdown : s.down = (w, p) :: rest) :
      Moves s .takeDown ({ s with down := rest }.arriveDown p)

/-- Every step is one of them. -/
theorem moves_of_step {s t : Mux ι β} {a : MuxAction ι β} (h : s.step a = some t) : s.Moves a t := by
  cases a <;> simp only [step] at h
  case takeUp =>
    split at h
    · simp at h
    · rename_i hup
      split_ifs at h with hidle
      obtain rfl := Option.some.inj h
      exact .takeUp hup hidle
  case takeDown =>
    split at h
    · simp at h
    · rename_i hdown
      obtain rfl := Option.some.inj h
      exact .takeDown hdown
  case unregister k returns =>
    split_ifs at h with hk hreturns
    · obtain rfl := Option.some.inj h
      obtain rfl := hreturns
      exact .unregisterLast hk
    · obtain rfl := Option.some.inj h
      obtain rfl := Bool.eq_false_iff.mpr hreturns
      exact .unregister hk
  all_goals
    split_ifs at h with hguard
    obtain rfl := Option.some.inj h
  · exact .take hguard
  · exact .register hguard
  · exact .wait hguard.1 hguard.2
  · exact .unwait hguard
  · exact .ask hguard
  · exact .send hguard.1 hguard.2
  · exact .close hguard
  · exact .leave hguard
  · exact .drop hguard
  · exact .refuse hguard
  · exact .accept hguard
  · exact .spawn hguard.1 hguard.2
  · exact .workerSend hguard
  · exact .workerUnregister hguard
  · exact .workerClose hguard
  · exact .workerLeave hguard

variable {s : Mux ι β} {x : ι} {c : List β} {j k : ℕ}

theorem arriveDown_data (h : s.table x = some k) :
    s.arriveDown (.data x c) = { s with got := Function.update s.got k (s.got k ++ c) } := by
  simp only [arriveDown, h]

theorem arriveDown_data_of_none (h : s.table x = none) : s.arriveDown (.data x c) = s := by
  simp only [arriveDown, h]

theorem arriveUp_data (h : s.workerTable x = some j) :
    s.arriveUp k (.data x c) =
      { s with workerGot := Function.update s.workerGot j (s.workerGot j ++ c) } := by
  simp only [arriveUp, h]

theorem arriveUp_data_of_none (h : s.workerTable x = none) : s.arriveUp k (.data x c) = s := by
  simp only [arriveUp, h]

/-- A packet that arrives at the sessions' end moves nobody. -/
theorem arriveDown_eq (s : Mux ι β) (p : Packet ι β) :
    ∃ table waiters granted got, s.arriveDown p =
      { s with table := table, waiters := waiters, granted := granted, got := got } := by
  have hresolve : ∀ (s : Mux ι β) (x : ι) (ok : Bool), ∃ waiters granted,
      s.resolve x ok = { s with waiters := waiters, granted := granted } := by
    intro s x ok
    unfold resolve
    split <;> exact ⟨_, _, rfl⟩
  cases p with
  | request x => exact ⟨_, _, _, _, rfl⟩
  | result x ok =>
      obtain ⟨waiters, granted, h⟩ := hresolve s x ok
      exact ⟨_, _, _, _, h⟩
  | data x c =>
      unfold arriveDown
      simp only
      split <;> exact ⟨_, _, _, _, rfl⟩
  | close x =>
      obtain ⟨waiters, granted, h⟩ :=
        hresolve { s with table := Function.update s.table x none } x false
      exact ⟨_, _, _, _, h⟩

/-- A packet that arrives at the workers' end moves nobody. -/
theorem arriveUp_eq (s : Mux ι β) (k : ℕ) (p : Packet ι β) :
    ∃ request serving workerTable workerGot, s.arriveUp k p =
      { s with
        request := request
        serving := serving
        workerTable := workerTable
        workerGot := workerGot } := by
  cases p with
  | request x | result x ok | close x => exact ⟨_, _, _, _, rfl⟩
  | data x c =>
      unfold arriveUp
      simp only
      split <;> exact ⟨_, _, _, _, rfl⟩

end Steps

/-- An end holds the id, or a packet that carries it is on its way. -/
structure Unused (s : Mux ι β) (x : ι) : Prop where
  session : ∀ k, s.Live k → s.id k ≠ x
  table : s.table x = none
  waiters : s.waiters x = none
  busy : ¬ s.Idle → s.id s.serving ≠ x
  worker : ∀ j, s.worker j = .live → s.workerId j ≠ x
  workerTable : s.workerTable x = none
  up : ∀ p ∈ s.up, p.2.id ≠ x
  down : ∀ p ∈ s.down, p.2.id ≠ x

/-- Ids are taken only while they are unused. -/
def TakesUnused (s : Mux ι β) : MuxAction ι β → Prop
  | .take _ x => s.Unused x
  | _ => True

end Mux

end AdbHub.Lib
