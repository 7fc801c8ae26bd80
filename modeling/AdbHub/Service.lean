import AdbHub.Agent.Shutdown
import AdbHub.Config

/-!
# The service of a user

`adb-hub` on Linux (`service.rs`, `run_shared_service`): the first one to find the listen port free
starts a daemon and an agent and supervises both, the others are agents only.

* `Service` — where the service stands, the two tasks with what they were told and how they have
  ended, and the shutdown that it was given.
* `Service.step` — a `select!` takes any branch that is ready.
* `Service.Supervises` — nobody is waited for who was not told to stop, no handle is asked twice,
  nothing is left behind, and the result is a reason that there is.
* **`service_supervises`** — in every run.
* **`service_can_return_iff`** — with the agent it runs, the service can return exactly if the main
  loop of the agent is not wedged; a shutdown does not help.
-/

namespace AdbHub

open Lib

/-! ## Tasks and results -/

/-- Source: `daemon.rs`, `DaemonError`; `inUse` is the kind of the error of a failed bind. -/
inductive DaemonError
  | io (text : String)
  | bind (addr : SocketAddr) (inUse : Bool) (text : String)
  | localAdb (text : String)
  | unsupportedPlatform
  deriving DecidableEq

/-- Source: `agent.rs`, `AgentError`. -/
inductive AgentError
  | io (text : String)
  | config (text : String)
  | unsupportedPlatform
  deriving DecidableEq

/-- Source: `service.rs`, `ServiceError`; the classic hub is not part of it. -/
inductive ServiceError
  | daemon (err : DaemonError)
  | agent (err : AgentError)
  | io (text : String)
  deriving DecidableEq

/-- What awaiting a task gives. Source: `tokio::task::JoinHandle`. -/
inductive TaskEnd (ε : Type)
  | finished
  | failed (err : ε)
  /-- The task has panicked; the text is that of the `JoinError`. -/
  | panicked (text : String)
  deriving DecidableEq

/-- A task of the service. -/
structure TaskState (ε : Type) where
  /-- Its stop channel was used. -/
  told : Bool := false
  ended : Option (TaskEnd ε) := none
  /-- Its handle was awaited to the end; it must not be polled again. -/
  joined : Bool := false
  deriving DecidableEq

/-- What the service returns for the end of its agent. -/
def TaskEnd.ofAgent : TaskEnd AgentError → Except ServiceError Unit
  | .finished => .ok ()
  | .failed err => .error (.agent err)
  | .panicked text => .error (.io text)

/-- What it returns for the end of its daemon. -/
def TaskEnd.ofDaemon : TaskEnd DaemonError → Except ServiceError Unit
  | .finished => .ok ()
  | .failed err => .error (.daemon err)
  | .panicked text => .error (.io text)

/-- Somebody else has the listen port. -/
def TaskEnd.LostPort : TaskEnd DaemonError → Prop
  | .failed (.bind _ inUse _) => inUse = true
  | _ => False

instance (r : TaskEnd DaemonError) : Decidable r.LostPort := by
  unfold TaskEnd.LostPort
  split <;> infer_instance

/-! ## The service -/

/-- Where the service stands. Source: `service.rs`, `run_shared_service`. -/
inductive ServicePhase
  /-- It tries to bind the listen port. -/
  | probing
  /-- It is an agent only. -/
  | agentOnly
  /-- The `select!` over shutdown and both tasks. -/
  | selecting
  /-- The `select!` over shutdown and the agent, after the daemon lost the port. -/
  | selectingAgent
  /-- It waits for the agent, then for the daemon if `both`. -/
  | awaitingAgent (both : Bool) (result : Except ServiceError Unit)
  | awaitingDaemon (result : Except ServiceError Unit)
  | returned (result : Except ServiceError Unit)
  /-- The agent that it runs itself has panicked, and the service with it. -/
  | panicked (text : String)
  deriving DecidableEq

/-- A running service. -/
structure Service where
  phase : ServicePhase := .probing
  /-- The shutdown future is ready. -/
  shutdown : Bool := false
  agent : Option (TaskState AgentError) := none
  daemon : Option (TaskState DaemonError) := none
  deriving DecidableEq

/-- What the probe of the listen port finds. -/
inductive Probe
  | free
  | inUse
  | failed (text : String)
  deriving DecidableEq

/-- What happens next. -/
inductive ServiceEvent
  | probe (found : Probe)
  /-- The shutdown future gets ready. -/
  | shutdown
  | agentEnds (r : TaskEnd AgentError)
  | daemonEnds (r : TaskEnd DaemonError)
  /-- A `select!` takes the branch of the shutdown. -/
  | takeShutdown
  /-- A `select!` takes the branch of the agent, or the wait for the agent is over. -/
  | joinAgent
  /-- The same of the daemon. -/
  | joinDaemon
  deriving DecidableEq

namespace Service

/-- Use the stop channel of the agent. -/
def tellAgent (s : Service) : Service :=
  { s with agent := s.agent.map fun task => { task with told := true } }

/-- Use the stop channel of the daemon. -/
def tellDaemon (s : Service) : Service :=
  { s with daemon := s.daemon.map fun task => { task with told := true } }

def goto (s : Service) (phase : ServicePhase) : Service := { s with phase := phase }

/-- After the probe. -/
def afterProbe (s : Service) : Probe → Service
  | .free => { s with phase := .selecting, agent := some {}, daemon := some {} }
  | .inUse => { s with phase := .agentOnly, agent := some {} }
  | .failed text => s.goto (.returned (.error (.io text)))

/-- The branches that wait for the agent. -/
def afterAgent (s : Service) (r : TaskEnd AgentError) : Option Service :=
  match s.phase with
  | .agentOnly =>
      -- no task of its own, so that a panic is not caught
      match r with
      | .panicked text => some (s.goto (.panicked text))
      | r => some (s.goto (.returned r.ofAgent))
  | .selectingAgent => some (s.goto (.returned r.ofAgent))
  | .selecting => some (s.tellDaemon.goto (.awaitingDaemon r.ofAgent))
  | .awaitingAgent true result => some (s.goto (.awaitingDaemon result))
  | .awaitingAgent false result => some (s.goto (.returned result))
  | _ => none

/-- The branches that wait for the daemon. -/
def afterDaemon (s : Service) (r : TaskEnd DaemonError) : Option Service :=
  match s.phase with
  | .selecting =>
      if r.LostPort then some (s.goto .selectingAgent)
      else some (s.tellAgent.goto (.awaitingAgent false r.ofDaemon))
  | .awaitingDaemon result => some (s.goto (.returned result))
  | _ => none

/-- One step. Source: `service.rs`, `run_shared_service`. -/
def step (s : Service) : ServiceEvent → Option Service
  | .probe found => if s.phase = .probing then some (s.afterProbe found) else none
  | .shutdown => some { s with shutdown := true }
  | .agentEnds r =>
      match s.agent with
      | some task => if task.ended = none then some { s with agent := some { task with ended := some r } }
          else none
      | none => none
  | .daemonEnds r =>
      match s.daemon with
      | some task =>
          if task.ended = none then some { s with daemon := some { task with ended := some r } }
          else none
      | none => none
  | .takeShutdown =>
      if s.shutdown then
        match s.phase with
        | .selecting => some (s.tellAgent.tellDaemon.goto (.awaitingAgent true (.ok ())))
        | .selectingAgent => some (s.tellAgent.goto (.awaitingAgent false (.ok ())))
        | _ => none
      else none
  | .joinAgent =>
      match s.agent with
      | some task =>
          match task.ended with
          | some r => { s with agent := some { task with joined := true } }.afterAgent r
          | none => none
      | none => none
  | .joinDaemon =>
      match s.daemon with
      | some task =>
          match task.ended with
          | some r => { s with daemon := some { task with joined := true } }.afterDaemon r
          | none => none
      | none => none

def machine : Machine Service ServiceEvent := ⟨{}, step⟩

/-! ## What the service is sure of -/

/-- How the agent has ended, if it was started and has. -/
def agentEnd (s : Service) : Option (TaskEnd AgentError) := s.agent.bind TaskState.ended

def daemonEnd (s : Service) : Option (TaskEnd DaemonError) := s.daemon.bind TaskState.ended

/-- There is a reason for the result. -/
def Justifies (s : Service) : Except ServiceError Unit → Prop
  | .ok () => s.shutdown = true ∨ s.agentEnd = some .finished ∨ s.daemonEnd = some .finished
  | .error (.agent err) => s.agentEnd = some (.failed err)
  | .error (.daemon err) => s.daemonEnd = some (.failed err) ∧ ¬ (TaskEnd.failed err).LostPort
  | .error (.io text) => s.agentEnd = some (.panicked text) ∨ s.daemonEnd = some (.panicked text) ∨
      (s.agent = none ∧ s.daemon = none)

section tasks

variable {ε : Type}

/-- The handle of the task was not awaited to the end yet. -/
def Waited (task : Option (TaskState ε)) : Prop := ∃ t, task = some t ∧ t.joined = false

/-- The task was told to stop, too. -/
def Told (task : Option (TaskState ε)) : Prop :=
  ∃ t, task = some t ∧ t.joined = false ∧ t.told = true

/-- The task has ended, if it was started. -/
def Over (task : Option (TaskState ε)) : Prop := ∀ t, task = some t → t.ended ≠ none

end tasks

/-- What is known wherever the service stands. -/
def Ordered (s : Service) : Prop :=
  match s.phase with
  | .probing => s.agent = none ∧ s.daemon = none
  | .agentOnly => Waited s.agent ∧ s.daemon = none
  | .selecting => Waited s.agent ∧ Waited s.daemon
  | .selectingAgent => Waited s.agent ∧ Over s.daemon
  | .awaitingAgent true result => Told s.agent ∧ Told s.daemon ∧ s.Justifies result
  | .awaitingAgent false result => Told s.agent ∧ Over s.daemon ∧ s.Justifies result
  | .awaitingDaemon result => Over s.agent ∧ Told s.daemon ∧ s.Justifies result
  | .returned result => Over s.agent ∧ Over s.daemon ∧ s.Justifies result
  | .panicked text => s.agentEnd = some (.panicked text) ∧ s.daemon = none

/-- Nobody is waited for who was not told to stop, no handle is polled after its end, nothing is left
running, and the result has a reason. -/
structure Supervises (s : Service) : Prop where
  told : (∀ both result, s.phase = .awaitingAgent both result → Told s.agent) ∧
    ∀ result, s.phase = .awaitingDaemon result → Told s.daemon
  once : ∀ e t, s.step e = some t → (e = .joinAgent → Waited s.agent) ∧
    (e = .joinDaemon → Waited s.daemon)
  alone : ∀ result, s.phase = .returned result → Over s.agent ∧ Over s.daemon
  reason : ∀ result, s.phase = .returned result → s.Justifies result
  /-- It panics with an agent that it runs itself, where it has no daemon. -/
  panic : ∀ text, s.phase = .panicked text → s.agentEnd = some (.panicked text) ∧ s.daemon = none

/-! ## Tasks that end -/

section tasks

variable {ε : Type} {x y : Option (TaskState ε)}

/-- Nothing has happened to the task, or it has ended. -/
def MayEnd (x y : Option (TaskState ε)) : Prop :=
  y = x ∨ ∃ task r, x = some task ∧ task.ended = none ∧ y = some { task with ended := some r }

theorem Waited.mayEnd (h : Waited x) (hxy : MayEnd x y) : Waited y := by
  obtain ⟨task, rfl, hjoined⟩ := h
  rcases hxy with rfl | ⟨task', r, htask, -, rfl⟩
  · exact ⟨task, rfl, hjoined⟩
  · obtain rfl := Option.some.inj htask
    exact ⟨_, rfl, hjoined⟩

theorem Told.mayEnd (h : Told x) (hxy : MayEnd x y) : Told y := by
  obtain ⟨task, rfl, hjoined, htold⟩ := h
  rcases hxy with rfl | ⟨task', r, htask, -, rfl⟩
  · exact ⟨task, rfl, hjoined, htold⟩
  · obtain rfl := Option.some.inj htask
    exact ⟨_, rfl, hjoined, htold⟩

theorem Over.mayEnd (h : Over x) (hxy : MayEnd x y) : Over y := by
  rcases hxy with rfl | ⟨task, r, rfl, -, rfl⟩
  · exact h
  · rintro t ht
    obtain rfl := Option.some.inj ht
    simp

theorem MayEnd.ended (hxy : MayEnd x y) {r : TaskEnd ε} (h : x.bind TaskState.ended = some r) :
    y.bind TaskState.ended = some r := by
  rcases hxy with rfl | ⟨task, r', rfl, hnone, rfl⟩
  · exact h
  · rw [Option.bind_some, hnone] at h
    cases h

theorem MayEnd.eq_none (hxy : MayEnd x y) (h : x = none) : y = none := by
  rcases hxy with rfl | ⟨task, r, rfl, -, rfl⟩
  · exact h
  · cases h

/-- A task that is told to stop is waited for as before. -/
theorem Waited.tell (h : Waited x) : Told (x.map fun task => { task with told := true }) := by
  obtain ⟨task, rfl, hjoined⟩ := h
  exact ⟨_, rfl, hjoined, rfl⟩

theorem Told.waited (h : Told x) : Waited x := by
  obtain ⟨task, rfl, hjoined, -⟩ := h
  exact ⟨task, rfl, hjoined⟩

/-- A task whose handle was awaited has ended. -/
theorem over_joined {task : TaskState ε} {r : TaskEnd ε} (h : task.ended = some r) :
    Over (some { task with joined := true }) := by
  rintro t ht
  obtain rfl := Option.some.inj ht
  simp [h]

/-- Awaiting the handle does not change how the task has ended. -/
theorem ended_joined {task : TaskState ε} (h : x = some task) {r : TaskEnd ε}
    (hr : x.bind TaskState.ended = some r) :
    (some { task with joined := true }).bind TaskState.ended = some r := by
  rw [h] at hr
  exact hr

end tasks

variable {s t : Service} {e : ServiceEvent} {result : Except ServiceError Unit}

/-- A reason stays one. -/
theorem Justifies.still (h : s.Justifies result)
    (hagent : ∀ r, s.agentEnd = some r → t.agentEnd = some r)
    (hdaemon : ∀ r, s.daemonEnd = some r → t.daemonEnd = some r)
    (hshutdown : s.shutdown = true → t.shutdown = true)
    (hnone : s.agent = none → s.daemon = none → t.agent = none ∧ t.daemon = none) :
    t.Justifies result := by
  rcases result with (err | err | text) | ⟨⟩
  · exact ⟨hdaemon _ h.1, h.2⟩
  · exact hagent _ h
  · rcases h with h | h | ⟨ha, hd⟩
    · exact .inl (hagent _ h)
    · exact .inr (.inl (hdaemon _ h))
    · exact .inr (.inr (hnone ha hd))
  · rcases h with h | h | h
    · exact .inl (hshutdown h)
    · exact .inr (.inl (hagent _ h))
    · exact .inr (.inr (hdaemon _ h))

theorem Justifies.mayEnd (h : s.Justifies result) (hagent : MayEnd s.agent t.agent)
    (hdaemon : MayEnd s.daemon t.daemon) (hshutdown : s.shutdown = true → t.shutdown = true) :
    t.Justifies result :=
  h.still (fun _ => hagent.ended) (fun _ => hdaemon.ended) hshutdown fun ha hd =>
    ⟨hagent.eq_none ha, hdaemon.eq_none hd⟩

/-- The end of the agent is a reason for what is made of it. -/
theorem justifies_ofAgent {r : TaskEnd AgentError} (h : s.agentEnd = some r) :
    s.Justifies r.ofAgent := by
  rcases r with _ | err | text
  · exact .inr (.inl h)
  · exact h
  · exact .inl h

/-- So is the end of the daemon, unless it has lost the port. -/
theorem justifies_ofDaemon {r : TaskEnd DaemonError} (h : s.daemonEnd = some r)
    (hport : ¬ r.LostPort) : s.Justifies r.ofDaemon := by
  rcases r with _ | err | text
  · exact .inr (.inr h)
  · exact ⟨h, hport⟩
  · exact .inr (.inl h)

/-- What happens to the tasks and to the shutdown leaves the service in order. -/
theorem Ordered.mayEnd (h : s.Ordered) (hphase : t.phase = s.phase)
    (hagent : MayEnd s.agent t.agent) (hdaemon : MayEnd s.daemon t.daemon)
    (hshutdown : s.shutdown = true → t.shutdown = true) : t.Ordered := by
  unfold Ordered at h ⊢
  rw [hphase]
  generalize s.phase = phase at h ⊢
  rcases phase with _ | _ | _ | _ | ⟨_ | _, result⟩ | result | result | text
  · exact ⟨hagent.eq_none h.1, hdaemon.eq_none h.2⟩
  · exact ⟨h.1.mayEnd hagent, hdaemon.eq_none h.2⟩
  · exact ⟨h.1.mayEnd hagent, h.2.mayEnd hdaemon⟩
  · exact ⟨h.1.mayEnd hagent, h.2.mayEnd hdaemon⟩
  · exact ⟨h.1.mayEnd hagent, h.2.1.mayEnd hdaemon, h.2.2.mayEnd hagent hdaemon hshutdown⟩
  · exact ⟨h.1.mayEnd hagent, h.2.1.mayEnd hdaemon, h.2.2.mayEnd hagent hdaemon hshutdown⟩
  · exact ⟨h.1.mayEnd hagent, h.2.1.mayEnd hdaemon, h.2.2.mayEnd hagent hdaemon hshutdown⟩
  · exact ⟨h.1.mayEnd hagent, h.2.1.mayEnd hdaemon, h.2.2.mayEnd hagent hdaemon hshutdown⟩
  · exact ⟨hagent.ended h.1, hdaemon.eq_none h.2⟩

/-! ## One step -/

theorem ordered_probe (found : Probe) (h : s.Ordered) (hphase : s.phase = .probing) :
    (s.afterProbe found).Ordered := by
  unfold Ordered at h
  rw [hphase] at h
  rcases found with _ | _ | text
  · exact ⟨⟨_, rfl, rfl⟩, ⟨_, rfl, rfl⟩⟩
  · exact ⟨⟨_, rfl, rfl⟩, h.2⟩
  · refine ⟨?_, ?_, .inr (.inr h)⟩
    · rintro t ht
      rw [show s.agent = some t from ht] at h
      cases h.1
    · rintro t ht
      rw [show s.daemon = some t from ht] at h
      cases h.2

theorem ordered_takeShutdown (h : s.Ordered) (hs : s.step .takeShutdown = some t) : t.Ordered := by
  simp only [step] at hs
  split_ifs at hs with hshutdown
  unfold Ordered at h
  rcases hphase : s.phase with _ | _ | _ | _ | ⟨both, result⟩ | result | result | text
  all_goals rw [hphase] at h hs
  all_goals simp only [Option.some.injEq, reduceCtorEq] at hs
  · subst hs
    exact ⟨h.1.tell, h.2.tell, .inl hshutdown⟩
  · subst hs
    exact ⟨h.1.tell, h.2, .inl hshutdown⟩

theorem step_joinAgent (hs : s.step .joinAgent = some t) :
    ∃ task r, s.agent = some task ∧ task.ended = some r ∧
      { s with agent := some { task with joined := true } }.afterAgent r = some t := by
  simp only [step] at hs
  split at hs
  · rename_i task hagent
    split at hs
    · rename_i r hended
      exact ⟨task, r, hagent, hended, hs⟩
    · cases hs
  · cases hs

theorem step_joinDaemon (hs : s.step .joinDaemon = some t) :
    ∃ task r, s.daemon = some task ∧ task.ended = some r ∧
      { s with daemon := some { task with joined := true } }.afterDaemon r = some t := by
  simp only [step] at hs
  split at hs
  · rename_i task hdaemon
    split at hs
    · rename_i r hended
      exact ⟨task, r, hdaemon, hended, hs⟩
    · cases hs
  · cases hs

/-- A wait for the agent is over. -/
theorem ordered_joinAgent (h : s.Ordered) (hs : s.step .joinAgent = some t) : t.Ordered := by
  obtain ⟨task, r, hagent, hended, hs⟩ := step_joinAgent hs
  obtain ⟨phase, shutdown, agent, daemon⟩ := s
  obtain rfl : agent = some task := hagent
  have hover : Over (some { task with joined := true }) := over_joined hended
  have hstill : ∀ {result} {p q : ServicePhase},
      (⟨p, shutdown, some task, daemon⟩ : Service).Justifies result →
        (⟨q, shutdown, some { task with joined := true }, daemon⟩ : Service).Justifies result := by
    intro result p q hresult
    exact hresult.still (fun _ => ended_joined rfl) (fun _ => id) id fun hnone => by cases hnone
  rcases phase with _ | _ | _ | _ | ⟨_ | _, result⟩ | result | result | text
  · cases hs
  · obtain ⟨-, hnone⟩ := h
    obtain rfl : daemon = none := hnone
    rcases r with _ | err | text
    · obtain rfl := Option.some.inj hs
      exact ⟨hover, fun t ht => (by cases ht), justifies_ofAgent hended⟩
    · obtain rfl := Option.some.inj hs
      exact ⟨hover, fun t ht => (by cases ht), justifies_ofAgent hended⟩
    · obtain rfl := Option.some.inj hs
      exact ⟨hended, rfl⟩
  · obtain rfl := Option.some.inj hs
    exact ⟨hover, h.2.tell, justifies_ofAgent hended⟩
  · obtain rfl := Option.some.inj hs
    exact ⟨hover, h.2, justifies_ofAgent hended⟩
  · obtain rfl := Option.some.inj hs
    exact ⟨hover, h.2.1, hstill h.2.2⟩
  · obtain rfl := Option.some.inj hs
    exact ⟨hover, h.2.1, hstill h.2.2⟩
  · cases hs
  · cases hs
  · cases hs

/-- A wait for the daemon is over. -/
theorem ordered_joinDaemon (h : s.Ordered) (hs : s.step .joinDaemon = some t) : t.Ordered := by
  obtain ⟨task, r, hdaemon, hended, hs⟩ := step_joinDaemon hs
  obtain ⟨phase, shutdown, agent, daemon⟩ := s
  obtain rfl : daemon = some task := hdaemon
  have hover : Over (some { task with joined := true }) := over_joined hended
  rcases phase with _ | _ | _ | _ | ⟨_ | _, result⟩ | result | result | text
  · cases hs
  · cases hs
  · unfold afterDaemon at hs
    simp only at hs
    split_ifs at hs with hport
    · obtain rfl := Option.some.inj hs
      exact ⟨h.1, hover⟩
    · obtain rfl := Option.some.inj hs
      exact ⟨h.1.tell, hover, justifies_ofDaemon hended hport⟩
  · cases hs
  · cases hs
  · cases hs
  · obtain rfl := Option.some.inj hs
    refine ⟨h.1, hover, h.2.2.still (fun _ => id) (fun _ => ended_joined rfl) id ?_⟩
    rintro - hnone
    cases hnone
  · cases hs
  · cases hs

theorem ordered_step (h : s.Ordered) (hs : s.step e = some t) : t.Ordered := by
  cases e with
  | probe found =>
      simp only [step] at hs
      split_ifs at hs with hphase
      obtain rfl := Option.some.inj hs
      exact ordered_probe found h hphase
  | shutdown =>
      obtain rfl := Option.some.inj hs
      exact h.mayEnd rfl (.inl rfl) (.inl rfl) fun _ => rfl
  | agentEnds r =>
      simp only [step] at hs
      rcases hagent : s.agent with _ | task
      all_goals rw [hagent] at hs
      · cases hs
      · simp only at hs
        split_ifs at hs with hnone
        obtain rfl := Option.some.inj hs
        exact h.mayEnd rfl (.inr ⟨task, r, hagent, hnone, rfl⟩) (.inl rfl) id
  | daemonEnds r =>
      simp only [step] at hs
      rcases hdaemon : s.daemon with _ | task
      all_goals rw [hdaemon] at hs
      · cases hs
      · simp only at hs
        split_ifs at hs with hnone
        obtain rfl := Option.some.inj hs
        exact h.mayEnd rfl (.inl rfl) (.inr ⟨task, r, hdaemon, hnone, rfl⟩) id
  | takeShutdown => exact ordered_takeShutdown h hs
  | joinAgent => exact ordered_joinAgent h hs
  | joinDaemon => exact ordered_joinDaemon h hs

/-! ## Every run -/

theorem ordered_of_reaches {events : List ServiceEvent} (h : machine.Reaches events s) :
    s.Ordered :=
  h.invariant ⟨rfl, rfl⟩ fun _ _ _ hs _ hstep => ordered_step hs hstep

/-- Only an agent whose handle is still good is waited for. -/
theorem waited_of_joinAgent (h : s.Ordered) (hs : s.step .joinAgent = some t) : Waited s.agent := by
  obtain ⟨task, r, hagent, -, hs⟩ := step_joinAgent hs
  obtain ⟨phase, shutdown, agent, daemon⟩ := s
  rcases phase with _ | _ | _ | _ | ⟨_ | _, result⟩ | result | result | text
  · cases hs
  · exact h.1
  · exact h.1
  · exact h.1
  · exact h.1.waited
  · exact h.1.waited
  · cases hs
  · cases hs
  · cases hs

theorem waited_of_joinDaemon (h : s.Ordered) (hs : s.step .joinDaemon = some t) :
    Waited s.daemon := by
  obtain ⟨task, r, hdaemon, -, hs⟩ := step_joinDaemon hs
  obtain ⟨phase, shutdown, agent, daemon⟩ := s
  rcases phase with _ | _ | _ | _ | ⟨_ | _, result⟩ | result | result | text
  · cases hs
  · cases hs
  · exact h.2
  · cases hs
  · cases hs
  · cases hs
  · exact h.2.1.waited
  · cases hs
  · cases hs

theorem Ordered.told (h : s.Ordered) :
    (∀ both result, s.phase = .awaitingAgent both result → Told s.agent) ∧
      ∀ result, s.phase = .awaitingDaemon result → Told s.daemon := by
  obtain ⟨phase, shutdown, agent, daemon⟩ := s
  constructor
  · rintro (_ | _) result rfl
    · exact h.1
    · exact h.1
  · rintro result rfl
    exact h.2.1

theorem Ordered.over (h : s.Ordered) (hphase : s.phase = .returned result) :
    Over s.agent ∧ Over s.daemon ∧ s.Justifies result := by
  obtain ⟨phase, shutdown, agent, daemon⟩ := s
  obtain rfl : phase = .returned result := hphase
  exact h

theorem Ordered.panicked {text : String} (h : s.Ordered) (hphase : s.phase = .panicked text) :
    s.agentEnd = some (.panicked text) ∧ s.daemon = none := by
  obtain ⟨phase, shutdown, agent, daemon⟩ := s
  obtain rfl : phase = .panicked text := hphase
  exact h

/-- The service has returned, or has panicked with its agent. -/
def IsOver (s : Service) : Prop :=
  (∃ result, s.phase = .returned result) ∨ ∃ text, s.phase = .panicked text

theorem IsOver.agent_over (hover : s.IsOver) (h : s.Ordered) : Over s.agent := by
  rcases hover with ⟨result, hphase⟩ | ⟨text, hphase⟩
  · exact (h.over hphase).1
  · intro task htask hnone
    have hended := (h.panicked hphase).1
    unfold agentEnd at hended
    rw [htask, Option.bind_some, hnone] at hended
    cases hended

end Service

/-- **What the service is trusted with.** In every run, in any order of its tasks, of the shutdown and
of the branches of its `select!`s: a task that is waited for was told to stop, no handle is polled
after its end, no task is left running when the service returns, and its result is the end of a task,
the lost probe, or the shutdown. It panics with an agent only that it runs without a daemon.
Source: `service.rs`, `run_shared_service`. -/
theorem service_supervises {s : Service} {events : List ServiceEvent}
    (h : Service.machine.Reaches events s) : s.Supervises := by
  have hordered := Service.ordered_of_reaches h
  refine ⟨hordered.told, fun e t hs => ⟨?_, ?_⟩, fun result hphase => ?_, fun result hphase => ?_,
    fun text hphase => hordered.panicked hphase⟩
  · rintro rfl
    exact Service.waited_of_joinAgent hordered hs
  · rintro rfl
    exact Service.waited_of_joinDaemon hordered hs
  · obtain ⟨hagent, hdaemon, -⟩ := hordered.over hphase
    exact ⟨hagent, hdaemon⟩
  · exact (hordered.over hphase).2.2

/-- The daemon loses the port; the agent goes on until a shutdown. -/
def loserRun : List ServiceEvent :=
  [.probe .free, .daemonEnds (.failed (.bind (.loopback 5037) true "Address already in use")),
    .joinDaemon, .shutdown, .takeShutdown, .agentEnds .finished, .joinAgent]

theorem loser_supervised : Service.Supervises
    { phase := .returned (.ok ()), shutdown := true, agent := some ⟨true, some .finished, true⟩,
      daemon := some ⟨false, some (.failed (.bind (.loopback 5037) true "Address already in use")),
        true⟩ } := by
  have hrun : Service.machine.exec Service.machine.init loserRun = some
      { phase := .returned (.ok ()), shutdown := true, agent := some ⟨true, some .finished, true⟩,
        daemon := some ⟨false, some (.failed (.bind (.loopback 5037) true "Address already in use")),
          true⟩ } := by
    decide +kernel
  exact service_supervises (Machine.reaches_of_exec hrun)

/-! ## With the agent it runs -/

/-- A service and its agent, once that is connected to a daemon. -/
structure SharedService where
  service : Service := {}
  agent : Option AgentState := none

/-- What happens next: to the service, or to the agent in it. -/
inductive SharedEvent
  | service (e : ServiceEvent)
  /-- The agent is connected to the control socket and has drawn a token. -/
  | connected (token : String)
  | agent (e : AgentTaskEvent)

namespace SharedService

/-- The task of the agent is running. -/
def Runs (task : Option (TaskState AgentError)) : Prop := ∃ t, task = some t ∧ t.ended = none

instance (task : Option (TaskState AgentError)) : Decidable (Runs task) :=
  match task with
  | none => isFalse fun ⟨t, ht, _⟩ => by cases ht
  | some t =>
      decidable_of_iff (t.ended = none)
        ⟨fun h => ⟨t, rfl, h⟩, fun ⟨_, ht, h⟩ => Option.some.inj ht ▸ h⟩

/-- The agent was never connected, or its main loop has returned. -/
def AgentReturned (s : SharedService) : Prop := ∀ a ∈ s.agent, a.main = .stopped

instance (s : SharedService) : Decidable s.AgentReturned :=
  inferInstanceAs (Decidable (∀ a ∈ s.agent, a.main = .stopped))

/-- One step. The task of the agent ends when its main loop has returned, or when it cannot connect.
Source: `service.rs`, `run_shared_service`; `agent.rs`, `run_agent_with_shutdown`. -/
def step (json : SerdeJson) (s : SharedService) : SharedEvent → Option SharedService
  | .service (.agentEnds r) =>
      if s.AgentReturned then
        (s.service.step (.agentEnds r)).map fun service => { s with service := service }
      else none
  | .service e => (s.service.step e).map fun service => { s with service := service }
  | .connected token =>
      if s.agent.isNone ∧ Runs s.service.agent then
        some { s with agent := some (AgentState.machine json token).init }
      else none
  | .agent e =>
      match s.agent with
      | some a => (a.step json e).map fun a => { s with agent := some a }
      | none => none

def machine (json : SerdeJson) : Machine SharedService SharedEvent := ⟨{}, step json⟩

/-- The main loop of the agent is wedged. -/
def Wedged (s : SharedService) : Prop := ∃ a, s.agent = some a ∧ a.MainLoopWedged

/-- The service has returned, or has panicked with its agent. -/
def Returned (s : SharedService) : Prop := s.service.IsOver

/-! ## A service whose agent is over can return -/

/-- Not the end of the agent. -/
def Aside (e : ServiceEvent) : Prop := ∀ r, e ≠ .agentEnds r

/-- It waits for its daemon, which was told to stop. -/
theorem canReturn_awaitingDaemon {s : Service} {result : Except ServiceError Unit}
    (hs : s.phase = .awaitingDaemon result) (hdaemon : Service.Told s.daemon) :
    Service.machine.CanReach Aside s Service.IsOver := by
  have hjoin : ∀ {u : Service} {task : TaskState DaemonError} {r : TaskEnd DaemonError},
      u.phase = .awaitingDaemon result → u.daemon = some task → task.ended = some r →
        Service.machine.CanReach Aside u Service.IsOver := by
    intro u task r hphase htask hended
    have hstep : Service.machine.step u .joinDaemon =
        some { u with daemon := some { task with joined := true }, phase := .returned result } := by
      show u.step .joinDaemon = _
      simp [Service.step, htask, hended, Service.afterDaemon, hphase, Service.goto]
    exact .one (a := .joinDaemon) (by simp [Aside]) hstep (.inl ⟨result, rfl⟩)
  obtain ⟨task, htask, -, -⟩ := hdaemon
  rcases hended : task.ended with _ | r
  · have hstep : Service.machine.step s (.daemonEnds .finished) =
        some { s with daemon := some { task with ended := some .finished } } := by
      show s.step (.daemonEnds .finished) = _
      simp [Service.step, htask, hended]
    exact .step (a := .daemonEnds .finished) (by simp [Aside]) hstep (hjoin hs rfl rfl)
  · exact hjoin hs htask hended

/-- A service whose agent has ended, or was never started, can return. -/
theorem canReturn_of_over {s : Service} (hs : s.Ordered) (hover : Service.Over s.agent) :
    Service.machine.CanReach Aside s Service.IsOver := by
  obtain ⟨phase, shutdown, agent, daemon⟩ := s
  -- wherever the agent is waited for, its end is there
  have hend : Service.Waited agent → ∃ told r joined, agent = some ⟨told, some r, joined⟩ := by
    rintro ⟨⟨told, ended, joined⟩, htask, -⟩
    obtain ⟨r, hr⟩ := Option.ne_none_iff_exists'.mp (hover _ htask)
    obtain rfl : ended = some r := hr
    exact ⟨told, r, joined, htask⟩
  have hjoin : ∀ {t : Service}, (⟨phase, shutdown, agent, daemon⟩ : Service).step .joinAgent = some t →
      (Service.machine.CanReach Aside t Service.IsOver) →
        Service.machine.CanReach Aside ⟨phase, shutdown, agent, daemon⟩
          Service.IsOver :=
    fun hs' hrest => .step (a := .joinAgent) (by simp [Aside]) hs' hrest
  rcases phase with _ | _ | _ | _ | ⟨_ | _, result⟩ | result | result | text
  · exact .one (a := .probe (.failed "")) (by simp [Aside]) rfl (.inl ⟨_, rfl⟩)
  · obtain ⟨told, r, joined, rfl⟩ := hend hs.1
    rcases r with _ | err | text
    · exact hjoin rfl (.here (.inl ⟨.ok (), rfl⟩))
    · exact hjoin rfl (.here (.inl ⟨.error (.agent err), rfl⟩))
    · exact hjoin rfl (.here (.inr ⟨text, rfl⟩))
  · obtain ⟨told, r, joined, rfl⟩ := hend hs.1
    exact hjoin rfl (canReturn_awaitingDaemon rfl hs.2.tell)
  · obtain ⟨told, r, joined, rfl⟩ := hend hs.1
    exact hjoin rfl (.here (.inl ⟨r.ofAgent, rfl⟩))
  · obtain ⟨told, r, joined, rfl⟩ := hend hs.1.waited
    exact hjoin rfl (.here (.inl ⟨result, rfl⟩))
  · obtain ⟨told, r, joined, rfl⟩ := hend hs.1.waited
    exact hjoin rfl (canReturn_awaitingDaemon rfl hs.2.1)
  · exact canReturn_awaitingDaemon rfl hs.2.1
  · exact .here (.inl ⟨result, rfl⟩)
  · exact .here (.inr ⟨text, rfl⟩)

/-! ## The service and its agent -/

variable {json : SerdeJson} {s t : SharedService} {e : SharedEvent}

/-- What is known of the service and of its agent, in every run. -/
structure Known (s : SharedService) : Prop where
  ordered : s.service.Ordered
  agent : ∀ a ∈ s.agent, a.Linked ∧ a.Composed
  /-- An agent that has not returned has not ended. -/
  runs : ∀ a ∈ s.agent, a.main ≠ .stopped → Runs s.service.agent

/-- Nothing but its end ends the agent. -/
theorem runs_step {u v : Service} {e : ServiceEvent} (h : Runs u.agent) (hordered : u.Ordered)
    (he : Aside e) (hs : u.step e = some v) : Runs v.agent := by
  obtain ⟨task, htask, hnone⟩ := h
  cases e with
  | probe found =>
      simp only [Service.step] at hs
      split_ifs at hs with hphase
      unfold Service.Ordered at hordered
      rw [hphase, htask] at hordered
      cases hordered.1
  | shutdown =>
      obtain rfl := Option.some.inj hs
      exact ⟨task, htask, hnone⟩
  | agentEnds r => exact absurd rfl (he r)
  | daemonEnds r =>
      simp only [Service.step] at hs
      split at hs
      · split_ifs at hs
        obtain rfl := Option.some.inj hs
        exact ⟨task, htask, hnone⟩
      · cases hs
  | takeShutdown =>
      simp only [Service.step] at hs
      split_ifs at hs
      split at hs
      · obtain rfl := Option.some.inj hs
        refine ⟨{ task with told := true }, ?_, hnone⟩
        show u.agent.map _ = _
        rw [htask]
        rfl
      · obtain rfl := Option.some.inj hs
        refine ⟨{ task with told := true }, ?_, hnone⟩
        show u.agent.map _ = _
        rw [htask]
        rfl
      · cases hs
  | joinAgent =>
      obtain ⟨task', r, htask', hended, -⟩ := Service.step_joinAgent hs
      rw [htask] at htask'
      obtain rfl := Option.some.inj htask'
      rw [hnone] at hended
      cases hended
  | joinDaemon =>
      obtain ⟨task', r, -, -, hs⟩ := Service.step_joinDaemon hs
      unfold Service.afterDaemon at hs
      split at hs
      · split_ifs at hs
        · obtain rfl := Option.some.inj hs
          exact ⟨task, htask, hnone⟩
        · obtain rfl := Option.some.inj hs
          refine ⟨{ task with told := true }, ?_, hnone⟩
          show u.agent.map _ = _
          rw [htask]
          rfl
      · obtain rfl := Option.some.inj hs
        exact ⟨task, htask, hnone⟩
      · cases hs

/-- A step of the service. -/
theorem step_service {e : ServiceEvent} (h : s.step json (.service e) = some t) :
    t.agent = s.agent ∧ s.service.step e = some t.service ∧
      (∀ r, e = .agentEnds r → s.AgentReturned) := by
  cases e with
  | agentEnds r =>
      simp only [step] at h
      split_ifs at h with hreturned
      obtain ⟨service, hservice, rfl⟩ := Option.map_eq_some_iff.mp h
      exact ⟨rfl, hservice, fun _ _ => hreturned⟩
  | _ =>
      simp only [step] at h
      obtain ⟨service, hservice, rfl⟩ := Option.map_eq_some_iff.mp h
      exact ⟨rfl, hservice, by simp⟩

theorem known_step (hk : s.Known) (h : s.step json e = some t) : t.Known := by
  cases e with
  | service e =>
      obtain ⟨hagent, hservice, hends⟩ := step_service h
      refine ⟨Service.ordered_step hk.ordered hservice, ?_, ?_⟩
      · rw [hagent]
        exact hk.agent
      · rw [hagent]
        intro a ha hmain
        by_cases he : Aside e
        · exact runs_step (hk.runs a ha hmain) hk.ordered he hservice
        · obtain ⟨r, hr⟩ := not_forall.mp he
          exact absurd (hends r (not_not.mp hr) a ha) hmain
  | connected token =>
      simp only [step] at h
      split_ifs at h with hfree
      obtain rfl := Option.some.inj h
      refine ⟨hk.ordered, ?_, fun _ _ _ => hfree.2⟩
      rintro a ha
      obtain rfl := Option.some.inj ha
      exact ⟨(AgentState.routerSimulation json token).inv_init, AgentState.composed_init json token⟩
  | agent e =>
      simp only [step] at h
      split at h
      · rename_i a hagent
        obtain ⟨a', hstep, rfl⟩ := Option.map_eq_some_iff.mp h
        obtain ⟨hlinked, hcomposed⟩ := hk.agent a hagent
        refine ⟨hk.ordered, ?_, ?_⟩
        · rintro b hb
          obtain rfl := Option.some.inj hb
          exact ⟨AgentState.linked_step hlinked hstep, AgentState.composed_step hcomposed hstep⟩
        · rintro b hb hmain
          obtain rfl := Option.some.inj hb
          exact hk.runs a hagent fun hstopped => hmain (AgentState.stopped_step hstopped hstep)
      · cases h

theorem known_of_reaches {events : List SharedEvent} (h : (machine json).Reaches events s) :
    s.Known :=
  h.invariant ⟨⟨rfl, rfl⟩, fun _ ha => (by cases ha), fun _ ha => (by cases ha)⟩
    fun _ _ _ hk _ hs => known_step hk hs

/-- A wedged agent stays wedged, and with it the service goes on. -/
theorem wedged_step (hk : s.Known) (hw : s.Wedged) (h : s.step json e = some t) : t.Wedged := by
  obtain ⟨a, hagent, hwedged⟩ := hw
  cases e with
  | service e =>
      obtain ⟨hsame, -, -⟩ := step_service h
      exact ⟨a, hsame.trans hagent, hwedged⟩
  | connected token =>
      simp only [step] at h
      split_ifs at h with hfree
      rw [hagent] at hfree
      simp at hfree
  | agent e =>
      simp only [step, hagent] at h
      obtain ⟨a', hstep, rfl⟩ := Option.map_eq_some_iff.mp h
      exact ⟨a', rfl, AgentState.wedged_step (hk.agent a hagent).1 hwedged hstep⟩

/-- The service of a wedged agent has not returned. -/
theorem not_returned_of_wedged (hk : s.Known) (hw : s.Wedged) : ¬ s.Returned := by
  intro hreturned
  obtain ⟨a, hagent, k, data, hmain, -⟩ := hw
  obtain ⟨task, htask, hnone⟩ := hk.runs a hagent (by simp [hmain])
  exact hreturned.agent_over hk.ordered task htask hnone

/-- The task of an agent that has returned ends. -/
theorem canReach_ended (hk : s.Known) (hreturned : s.AgentReturned) :
    (machine json).CanReach (fun _ => True) s fun t => t.Known ∧ Service.Over t.service.agent := by
  by_cases hover : Service.Over s.service.agent
  · exact .here ⟨hk, hover⟩
  · obtain ⟨task, htask⟩ := not_forall.mp hover
    obtain ⟨htask, hnone⟩ := Classical.not_imp.mp htask
    have hstep : s.step json (.service (.agentEnds .finished)) =
        some { s with service :=
          { s.service with agent := some { task with ended := some .finished } } } := by
      simp [step, hreturned, Service.step, htask, not_not.mp hnone]
    refine .one (a := .service (.agentEnds .finished)) trivial hstep ⟨known_step hk hstep, ?_⟩
    rintro u hu
    obtain rfl := Option.some.inj hu
    simp

/-- An agent that is not wedged stops. -/
theorem canReach_agentReturned (hk : s.Known) (hw : ¬ s.Wedged) :
    (machine json).CanReach (fun _ => True) s AgentReturned := by
  obtain ⟨service, agent⟩ := s
  rcases agent with _ | a
  · exact .here fun a ha => by cases ha
  · obtain ⟨hlinked, hcomposed⟩ := hk.agent a rfl
    have hstop : a.CanStop json "" :=
      AgentState.canStop_of_not_wedged hcomposed hlinked fun h => hw ⟨a, rfl, h⟩
    apply hstop.lift (fun a => (⟨service, some a⟩ : SharedService)) SharedEvent.agent
    · intro u e v _ hs
      have hs : u.step json e = some v := hs
      show step json ⟨service, some u⟩ (.agent e) = _
      simp only [step, hs]
      rfl
    · exact fun _ _ => trivial
    · rintro u hu b hb
      obtain rfl := Option.some.inj hb
      exact hu

/-- A service whose agent has ended returns. -/
theorem canReach_returned (hk : s.Known) (hover : Service.Over s.service.agent) :
    (machine json).CanReach (fun _ => True) s Returned := by
  apply (canReturn_of_over hk.ordered hover).lift
    (fun service => (⟨service, s.agent⟩ : SharedService)) SharedEvent.service
  · intro u e v he hs
    have hs : u.step e = some v := hs
    show step json ⟨u, s.agent⟩ (.service e) = _
    cases e with
    | agentEnds r => exact absurd rfl (he r)
    | _ =>
        simp only [step, hs]
        rfl
  · exact fun _ _ => trivial
  · exact fun _ hu => hu

end SharedService

/-- **What keeps a service from returning.** In every run of a service and its agent, whose daemon can
read what it is written: the service can return (or panic with an agent that it runs alone), whatever
else it waits for, exactly if the main loop of the agent is not wedged. Once it is, neither a shutdown
nor the end of the daemon makes the service return.
Source: `service.rs`, `run_shared_service`; `agent.rs`, `run_agent_with_shutdown` and
`handle_daemon_message`. -/
theorem service_can_return_iff {json : SerdeJson} {s : SharedService} {events : List SharedEvent}
    (h : (SharedService.machine json).Reaches events s) :
    (SharedService.machine json).CanReach (fun _ => True) s SharedService.Returned ↔
      ¬ s.Wedged := by
  have hk := SharedService.known_of_reaches h
  constructor
  · intro hcan hw
    refine Machine.not_canReach (I := fun s => s.Known ∧ s.Wedged) ⟨hk, hw⟩ ?_ ?_ hcan
    · rintro s e t ⟨hk, hw⟩ hs
      exact ⟨SharedService.known_step hk hs, SharedService.wedged_step hk hw hs⟩
    · rintro t ⟨hk, hw⟩
      exact SharedService.not_returned_of_wedged hk hw
  · intro hw
    have hstep : ∀ s e t, s.Known → (SharedService.machine json).step s e = some t → t.Known :=
      fun _ _ _ => SharedService.known_step
    apply ((SharedService.canReach_agentReturned hk hw).keeping hk hstep).trans
    rintro t ⟨hk, hreturned⟩
    apply (SharedService.canReach_ended hk hreturned).trans
    rintro t ⟨hk, hover⟩
    exact SharedService.canReach_returned hk hover

/-- The upstream of a stream stops reading and fails while data keeps coming; then comes the
shutdown. -/
def shutdownOfWedged : List SharedEvent :=
  [.service (.probe .free), .connected "t0"] ++ AgentState.upstreamStalls.map .agent ++
    [.service .shutdown, .service .takeShutdown]

theorem wedged_service_hangs :
    ∃ s, (SharedService.machine AgentState.officeJson).Reaches shutdownOfWedged s ∧
      s.service.phase = .awaitingAgent true (.ok ()) ∧
      ¬ (SharedService.machine AgentState.officeJson).CanReach (fun _ => True) s
        SharedService.Returned := by
  have hrun : ((SharedService.machine AgentState.officeJson).exec
      (SharedService.machine AgentState.officeJson).init shutdownOfWedged).map
      (fun s => (s.service.phase, s.agent.map fun a => (a.main, (a.queue 0).length, a.task 0))) =
        some (.awaitingAgent true (.ok ()),
          some (.sending 0 [0x61], agentStreamCapacity, .left)) := by decide +kernel
  obtain ⟨s, hs, hstate⟩ := Option.map_eq_some_iff.mp hrun
  obtain ⟨hphase, hagent⟩ := Prod.mk.inj hstate
  obtain ⟨a, ha, hstate⟩ := Option.map_eq_some_iff.mp hagent
  simp only [Prod.mk.injEq] at hstate
  obtain ⟨hmain, hqueue, htask⟩ := hstate
  have hreaches := Machine.reaches_of_exec hs
  refine ⟨s, hreaches, hphase, fun hcan => ?_⟩
  exact (service_can_return_iff hreaches).mp hcan ⟨a, ha, 0, _, hmain, hqueue.ge, htask⟩

end AdbHub
