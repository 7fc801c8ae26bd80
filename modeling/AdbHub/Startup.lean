import AdbHub.Lib.Machine
import AdbHub.Lib.Utf8

/-!
# Two services that start at once

The startup of a shared service (`service.rs`, `run_shared_service`) and of the daemon in it
(`daemon.rs`, `run_daemon_with_shutdown`, `bind_control`; `local.rs`, `LocalAdb`), twice, in any
interleaving, on one machine. The shutdown of a service is not part of it.

* `Startup` — where the two stand, what they own, and what is shared: the listen port, the control
  endpoint and the adb server on the side port.
* `startupMachine` — one step of one of the two; a daemon that cannot have the listen port drops
  its control socket and kills the adb server it started.
* `agentReaches` — the daemon that an agent connects to.
* **`winner_intact_iff`** — a daemon that loses the port leaves the other one intact exactly if it
  has not replaced the other's control socket and has not started the adb server the other uses.
-/

namespace AdbHub

open Lib

/-! ## The two services and the machine they run on -/

/-- The two services. -/
inductive Proc
  | first
  | second
  deriving DecidableEq

/-- The one that is not this one. -/
def Proc.other : Proc → Proc
  | .first => .second
  | .second => .first

@[simp] theorem Proc.other_ne (p : Proc) : p.other ≠ p := by cases p <;> simp [Proc.other]

@[simp] theorem Proc.other_other (p : Proc) : p.other.other = p := by cases p <;> rfl

theorem Proc.eq_other {p q : Proc} (h : q ≠ p) : q = p.other := by
  revert h
  cases p <;> cases q <;> simp [Proc.other]

/-- What the two are configured with: the listen address is the same, and all of this but the
flag. Source: `service.rs`, `ServiceConfig`. -/
structure SharedConfig where
  includeLocal : Proc → Bool
  localAdbPort : UInt16
  controlAbstract : String
  controlPath : Option String

/-- The default port of adb, where `adb kill-server` goes. -/
def defaultAdbPort : UInt16 := 5037

/-- Whether the name fits into a `sockaddr_un`. Source: `daemon.rs`, `abstract_bind`; `agent.rs`,
`abstract_connect`. -/
def SharedConfig.nameUsable (cfg : SharedConfig) : Bool := (utf8 cfg.controlAbstract).length + 1 < 108

/-- Where a daemon serves its agents: under the abstract name, or through a socket in the file
system, which is the configured path or `/tmp/adb-hubd.sock`. -/
inductive Endpoint
  | abstract
  | file
  deriving DecidableEq

/-- Where a service stands. -/
inductive Stage
  /-- About to try the listen port. -/
  | probe
  /-- It has the listen port, and is about to drop it. -/
  | probing
  /-- About to stop the adb server on the default port. -/
  | prepare
  /-- About to look for an adb server on the side port. -/
  | checkLocal
  /-- There was none, and it is about to start one. -/
  | startLocal
  | bindControl
  | removeFile
  | bindFile
  | bindListen
  | running
  /-- It could not have the listen port; whether a daemon has it. -/
  | rollback (taken : Bool)
  | failed (taken : Bool)
  /-- The port was in use from the start: it only runs an agent. -/
  | agentOnly
  /-- The daemon ended with another error. -/
  | aborted
  deriving DecidableEq

/-- The two services, and what they share. -/
structure Startup where
  stage : Proc → Stage := fun _ => .probe
  /-- Source: `local.rs`, `LocalAdb`, `started_by_us`. -/
  startedByUs : Proc → Bool := fun _ => false
  /-- The control socket a daemon holds. -/
  control : Proc → Option Endpoint := fun _ => none
  /-- Who has the listen port. -/
  listening : Option Proc := none
  /-- Who has the abstract name. -/
  abstractName : Option Proc := none
  /-- Whose socket the path in the file system leads to; the socket may be closed. -/
  controlFile : Option Proc := none
  /-- An adb server runs on the side port. -/
  adbRunning : Bool

namespace Startup

/-- A service goes on. -/
def goto (s : Startup) (p : Proc) (stage : Stage) : Startup :=
  { s with stage := Function.update s.stage p stage }

/-- The adb server is killed by the service that started it. Source: `local.rs`,
`LocalAdb::drop`. -/
def dropLocal (s : Startup) (p : Proc) : Startup :=
  { s with adbRunning := if s.startedByUs p then false else s.adbRunning }

/-- The control socket is closed; a path stays where it is. -/
def dropControl (s : Startup) (p : Proc) : Startup :=
  { s with
    control := Function.update s.control p none
    abstractName := if s.abstractName = some p then none else s.abstractName }

/-- Some daemon has the listen port. -/
def taken (s : Startup) : Bool :=
  match s.listening with
  | some q => s.stage q = .running
  | none => false

end Startup

/-- One step of a service. -/
inductive StartupAction
  /-- Source: `run_shared_service`, `we_start_daemon`. -/
  | tryPort
  | dropProbe
  /-- Source: `LocalAdb::prepare`, `kill-server`. -/
  | stopDefault
  /-- Source: `LocalAdb::prepare`, `tcp_ready`. -/
  | checkLocal
  /-- Source: `LocalAdb::prepare`, `start-server`. -/
  | startLocal
  /-- Source: `bind_control`, and `abstract_bind` if no path is configured. -/
  | bindControl
  /-- Source: `bind_control`, `remove_file`. -/
  | removeFile
  /-- Source: `bind_control`, `UnixListener::bind`. -/
  | bindFile
  /-- Source: `run_daemon_with_shutdown`, `TcpListener::bind`. -/
  | bindListen
  /-- Source: `LocalAdb::drop`. -/
  | killLocal
  /-- Any other error before the daemon runs. -/
  | abort
  deriving DecidableEq

namespace Startup

variable (cfg : SharedConfig)

/-- One step of `p`. -/
def step (s : Startup) (p : Proc) : StartupAction → Option Startup
  | .tryPort =>
      if s.stage p = .probe then
        some (if s.listening = none then { s.goto p .probing with listening := some p }
          else s.goto p .agentOnly)
      else none
  | .dropProbe =>
      if s.stage p = .probing then
        some { s.goto p (if cfg.includeLocal p then .prepare else .bindControl) with
          listening := none }
      else none
  | .stopDefault =>
      if s.stage p = .prepare then
        some { s.goto p .checkLocal with
          adbRunning := if cfg.localAdbPort = defaultAdbPort then false else s.adbRunning }
      else none
  | .checkLocal =>
      if s.stage p = .checkLocal then
        some (if s.adbRunning then s.goto p .bindControl else s.goto p .startLocal)
      else none
  | .startLocal =>
      if s.stage p = .startLocal then
        some { s.goto p .bindControl with
          adbRunning := true, startedByUs := Function.update s.startedByUs p true }
      else none
  | .bindControl =>
      if s.stage p = .bindControl then
        some (if cfg.controlPath = none ∧ cfg.nameUsable = true ∧ s.abstractName = none then
            { s.goto p .bindListen with
              abstractName := some p, control := Function.update s.control p (some .abstract) }
          else s.goto p .removeFile)
      else none
  | .removeFile =>
      if s.stage p = .removeFile then some { s.goto p .bindFile with controlFile := none } else none
  | .bindFile =>
      if s.stage p = .bindFile then
        some (if s.controlFile = none then
            { s.goto p .bindListen with
              controlFile := some p, control := Function.update s.control p (some .file) }
          else (s.dropLocal p).goto p .aborted)
      else none
  | .bindListen =>
      if s.stage p = .bindListen then
        some (if s.listening = none then { s.goto p .running with listening := some p }
          else (s.dropControl p).goto p (.rollback s.taken))
      else none
  | .killLocal =>
      match s.stage p with
      | .rollback taken => some ((s.dropLocal p).goto p (.failed taken))
      | _ => none
  | .abort =>
      match s.stage p with
      | .probe | .prepare | .checkLocal | .startLocal => some (s.goto p .aborted)
      | .bindControl | .removeFile | .bindFile | .bindListen =>
          some (((s.dropControl p).dropLocal p).goto p .aborted)
      | _ => none

/-- The daemon that an agent connects to. Source: `agent.rs`, `connect_control`. -/
def agentReaches (s : Startup) : Option Proc :=
  let viaFile := s.controlFile.filter fun q => s.control q = some .file
  if cfg.controlPath ≠ none then viaFile
  else if cfg.nameUsable ∧ s.abstractName ≠ none then s.abstractName
  else viaFile

/-- A daemon that lost the port to the other one has left it intact: agents reach it, and the adb
server it uses is running. A daemon that finds the path of the control socket in use, because the
other one has bound it after its own `remove_file`, fails before it tries the port: it counts as
aborted. -/
def WinnerIntact (s : Startup) : Prop :=
  ∀ l, s.stage l = .failed true →
    s.agentReaches cfg = some l.other ∧ (cfg.includeLocal l.other = true → s.adbRunning = true)

/-- A daemon that lost the port spares the other one: the path still leads to the socket of the
other, if it serves through one, and the adb server that the other uses is not its own. -/
def SparesWinner (s : Startup) (a : Proc × StartupAction) : Prop :=
  a.2 = .killLocal → s.stage a.1 = .rollback true →
    (s.control a.1.other = some .file → s.controlFile = some a.1.other) ∧
      ¬ (s.startedByUs a.1 = true ∧ cfg.includeLocal a.1.other = true)

instance (s : Startup) (a : Proc × StartupAction) : Decidable (SparesWinner cfg s a) :=
  inferInstanceAs (Decidable (_ → _ → _ ∧ _))

end Startup

/-- The two services as a machine. -/
def startupMachine (cfg : SharedConfig) (adbRunning : Bool) :
    Machine Startup (Proc × StartupAction) where
  init := { adbRunning := adbRunning }
  step s a := s.step cfg a.1 a.2

namespace Startup

variable {cfg : SharedConfig} {s t : Startup} {p : Proc} {a : StartupAction}

/-- Everything one step can do. -/
inductive Moves (cfg : SharedConfig) (s : Startup) (p : Proc) : StartupAction → Startup → Prop
  | probeFree : s.stage p = .probe → s.listening = none →
      Moves cfg s p .tryPort { s.goto p .probing with listening := some p }
  | probeUsed : s.stage p = .probe → Moves cfg s p .tryPort (s.goto p .agentOnly)
  | dropToLocal : s.stage p = .probing →
      Moves cfg s p .dropProbe { s.goto p .prepare with listening := none }
  | dropToControl : s.stage p = .probing → cfg.includeLocal p = false →
      Moves cfg s p .dropProbe { s.goto p .bindControl with listening := none }
  | stopDefault (running : Bool) : s.stage p = .prepare →
      Moves cfg s p .stopDefault { s.goto p .checkLocal with adbRunning := running }
  | reuse : s.stage p = .checkLocal → s.adbRunning = true →
      Moves cfg s p .checkLocal (s.goto p .bindControl)
  | noneReady : s.stage p = .checkLocal → Moves cfg s p .checkLocal (s.goto p .startLocal)
  | startLocal : s.stage p = .startLocal →
      Moves cfg s p .startLocal { s.goto p .bindControl with
        adbRunning := true, startedByUs := Function.update s.startedByUs p true }
  | bindName : s.stage p = .bindControl → cfg.controlPath = none → cfg.nameUsable = true →
      s.abstractName = none →
      Moves cfg s p .bindControl { s.goto p .bindListen with
        abstractName := some p, control := Function.update s.control p (some .abstract) }
  | useFile : s.stage p = .bindControl → Moves cfg s p .bindControl (s.goto p .removeFile)
  | removeFile : s.stage p = .removeFile →
      Moves cfg s p .removeFile { s.goto p .bindFile with controlFile := none }
  | bindFile : s.stage p = .bindFile → s.controlFile = none →
      Moves cfg s p .bindFile { s.goto p .bindListen with
        controlFile := some p, control := Function.update s.control p (some .file) }
  | fileUsed : s.stage p = .bindFile →
      Moves cfg s p .bindFile ((s.dropLocal p).goto p .aborted)
  | listen : s.stage p = .bindListen → s.listening = none →
      Moves cfg s p .bindListen { s.goto p .running with listening := some p }
  | lose : s.stage p = .bindListen → s.listening ≠ none →
      Moves cfg s p .bindListen ((s.dropControl p).goto p (.rollback s.taken))
  | killLocal (taken : Bool) : s.stage p = .rollback taken →
      Moves cfg s p .killLocal ((s.dropLocal p).goto p (.failed taken))
  | abortEarly : s.stage p ∈ [.probe, .prepare, .checkLocal, .startLocal] →
      Moves cfg s p .abort (s.goto p .aborted)
  | abortLate : s.stage p ∈ [.bindControl, .removeFile, .bindFile, .bindListen] →
      Moves cfg s p .abort (((s.dropControl p).dropLocal p).goto p .aborted)

theorem moves_of_step (h : s.step cfg p a = some t) : s.Moves cfg p a t := by
  cases a with
  | tryPort =>
      simp only [step] at h
      split_ifs at h with hp hfree
      · obtain rfl := Option.some.inj h
        exact .probeFree hp hfree
      · obtain rfl := Option.some.inj h
        exact .probeUsed hp
  | dropProbe =>
      simp only [step] at h
      split_ifs at h with hp hlocal
      · obtain rfl := Option.some.inj h
        exact .dropToLocal hp
      · obtain rfl := Option.some.inj h
        exact .dropToControl hp (by simpa using hlocal)
  | stopDefault =>
      simp only [step] at h
      split_ifs at h with hp hdefault
      · obtain rfl := Option.some.inj h
        exact .stopDefault false hp
      · obtain rfl := Option.some.inj h
        exact .stopDefault s.adbRunning hp
  | checkLocal =>
      simp only [step] at h
      split_ifs at h with hp hready
      · obtain rfl := Option.some.inj h
        exact .reuse hp hready
      · obtain rfl := Option.some.inj h
        exact .noneReady hp
  | startLocal =>
      simp only [step] at h
      split_ifs at h with hp
      obtain rfl := Option.some.inj h
      exact .startLocal hp
  | bindControl =>
      simp only [step] at h
      split_ifs at h with hp hname
      · obtain rfl := Option.some.inj h
        exact .bindName hp hname.1 hname.2.1 hname.2.2
      · obtain rfl := Option.some.inj h
        exact .useFile hp
  | removeFile =>
      simp only [step] at h
      split_ifs at h with hp
      obtain rfl := Option.some.inj h
      exact .removeFile hp
  | bindFile =>
      simp only [step] at h
      split_ifs at h with hp hnone
      · obtain rfl := Option.some.inj h
        exact .bindFile hp hnone
      · obtain rfl := Option.some.inj h
        exact .fileUsed hp
  | bindListen =>
      simp only [step] at h
      split_ifs at h with hp hfree
      · obtain rfl := Option.some.inj h
        exact .listen hp hfree
      · obtain rfl := Option.some.inj h
        exact .lose hp hfree
  | killLocal =>
      simp only [step] at h
      split at h
      · rename_i taken hp
        obtain rfl := Option.some.inj h
        exact .killLocal taken hp
      · cases h
  | abort =>
      simp only [step] at h
      rcases hp : s.stage p with _ | _ | _ | _ | _ | _ | _ | _ | _ | _ | _ | _ | _ | _ <;>
        simp only [hp] at h <;> cases h
      all_goals first
        | exact .abortEarly (by simp [hp])
        | exact .abortLate (by simp [hp])

end Startup

/-! ## What is known of the two -/

namespace Stage

/-- A service that stands here has the listen port. -/
def HasPort (st : Stage) : Prop := st = .probing ∨ st = .running

/-- A daemon that stands here has a control socket. -/
def Serves (st : Stage) : Prop := st = .bindListen ∨ st = .running

/-- A daemon that stands here uses the adb server, if it is configured to. -/
def UsesLocal (st : Stage) : Prop :=
  st ∈ [.bindControl, .removeFile, .bindFile, .bindListen, .running]

/-- A daemon that stands here may have stopped the adb server. -/
def MayStop (st : Stage) : Prop :=
  st ∈ [.checkLocal, .startLocal, .failed true, .failed false, .aborted]

end Stage

namespace Startup

/-- What is known of the two. -/
structure Ordered (cfg : SharedConfig) (s : Startup) : Prop where
  listening_iff : ∀ p, s.listening = some p ↔ (s.stage p).HasPort
  serves_iff : ∀ p, s.control p ≠ none ↔ (s.stage p).Serves
  named_iff : ∀ p, s.abstractName = some p ↔ s.control p = some .abstract
  usable : s.abstractName ≠ none → cfg.controlPath = none ∧ cfg.nameUsable = true
  lost : ∀ p, s.stage p = .rollback true ∨ s.stage p = .failed true → s.stage p.other = .running
  adb : ∀ p, cfg.includeLocal p = true → (s.stage p).UsesLocal →
    s.adbRunning = true ∨ (s.stage p.other).MayStop

variable {cfg : SharedConfig} {s t : Startup} {p : Proc} {a : StartupAction}

/-- The other service stays where it stands. -/
theorem Moves.stage_of_ne (h : s.Moves cfg p a t) {q : Proc} (hq : q ≠ p) :
    t.stage q = s.stage q := by
  cases h <;> exact Function.update_of_ne hq _ _

/-- The other daemon keeps its control socket. -/
theorem Moves.control_of_ne (h : s.Moves cfg p a t) {q : Proc} (hq : q ≠ p) :
    t.control q = s.control q := by
  cases h <;> first | rfl | exact Function.update_of_ne hq _ _

theorem listening_step (hs : s.Ordered cfg) (h : s.Moves cfg p a t) (q : Proc) :
    t.listening = some q ↔ (t.stage q).HasPort := by
  have hp := hs.listening_iff p
  rcases eq_or_ne q p with rfl | hqp
  · cases h <;> simp_all [goto, dropLocal, dropControl, Stage.HasPort]
    all_goals rename_i hlist; rcases hlist with hst | hst | hst | hst <;> simp [hst]
  · rw [h.stage_of_ne hqp, ← hs.listening_iff q]
    have hpq := Ne.symm hqp
    cases h <;> simp_all [goto, dropLocal, dropControl, Stage.HasPort]

theorem serves_step (hs : s.Ordered cfg) (h : s.Moves cfg p a t) (q : Proc) :
    t.control q ≠ none ↔ (t.stage q).Serves := by
  have hp := hs.serves_iff p
  rcases eq_or_ne q p with rfl | hqp
  · cases h <;> simp_all [goto, dropLocal, dropControl, Stage.Serves]
    all_goals rename_i hlist; rcases hlist with hst | hst | hst | hst <;> simp [hst]
  · rw [h.stage_of_ne hqp, h.control_of_ne hqp]
    exact hs.serves_iff q

theorem named_step (hs : s.Ordered cfg) (h : s.Moves cfg p a t) (q : Proc) :
    t.abstractName = some q ↔ t.control q = some .abstract := by
  have hp := hs.named_iff p
  have hserves := hs.serves_iff p
  rcases eq_or_ne q p with rfl | hqp
  · cases h <;> simp_all [goto, dropLocal, dropControl, Stage.Serves]
  · rw [h.control_of_ne hqp, ← hs.named_iff q]
    have hpq := Ne.symm hqp
    cases h <;> simp_all [goto, dropLocal, dropControl]
    all_goals
      intro hname
      rw [← hp, hname]
      simpa using hqp

theorem usable_step (hs : s.Ordered cfg) (h : s.Moves cfg p a t) (ht : t.abstractName ≠ none) :
    cfg.controlPath = none ∧ cfg.nameUsable = true := by
  have husable := hs.usable
  cases h <;> simp_all [goto, dropLocal, dropControl]

/-- A daemon that cannot have the listen port because a daemon has it is not alone. -/
theorem taken_other (hp : s.stage p = .bindListen) (h : s.taken = true) :
    s.stage p.other = .running := by
  unfold taken at h
  split at h
  · rename_i q hq
    have hrunning : s.stage q = .running := of_decide_eq_true h
    have hne : q ≠ p := by
      rintro rfl
      rw [hp] at hrunning
      cases hrunning
    rwa [Proc.eq_other hne] at hrunning
  · cases h

theorem lost_step (hs : s.Ordered cfg) (h : s.Moves cfg p a t) (q : Proc)
    (hq : t.stage q = .rollback true ∨ t.stage q = .failed true) :
    t.stage q.other = .running := by
  rcases eq_or_ne q p with rfl | hqp
  · rw [h.stage_of_ne q.other_ne]
    have hq' := hs.lost q
    have htaken := taken_other (s := s) (p := q)
    cases h <;> simp_all [goto, dropLocal, dropControl]
  · rw [h.stage_of_ne hqp] at hq
    obtain rfl : p = q.other := Proc.eq_other (Ne.symm hqp)
    have hrunning := hs.lost q hq
    -- the daemon that runs makes no step
    cases h <;> simp_all

theorem adb_step (hs : s.Ordered cfg) (h : s.Moves cfg p a t) (q : Proc)
    (hl : cfg.includeLocal q = true) (hq : (t.stage q).UsesLocal) :
    t.adbRunning = true ∨ (t.stage q.other).MayStop := by
  have hadb := hs.adb q hl
  rcases eq_or_ne q p with rfl | hqp
  · rw [h.stage_of_ne q.other_ne]
    cases h <;> simp_all [goto, dropLocal, dropControl, Stage.UsesLocal]
  · rw [h.stage_of_ne hqp] at hq
    obtain rfl : p = q.other := Proc.eq_other (Ne.symm hqp)
    have hold := hadb hq
    unfold Stage.MayStop at hold ⊢
    cases h <;> simp_all [goto, dropLocal, dropControl]

theorem ordered_step (hs : s.Ordered cfg) (h : s.Moves cfg p a t) : t.Ordered cfg where
  listening_iff := listening_step hs h
  serves_iff := serves_step hs h
  named_iff := named_step hs h
  usable := usable_step hs h
  lost := lost_step hs h
  adb := adb_step hs h

theorem ordered_init (cfg : SharedConfig) (adbRunning : Bool) :
    (startupMachine cfg adbRunning).init.Ordered cfg := by
  constructor <;> simp [startupMachine, Stage.HasPort, Stage.Serves, Stage.UsesLocal]

theorem ordered_of_reaches {adbRunning : Bool} {events : List (Proc × StartupAction)}
    (h : (startupMachine cfg adbRunning).Reaches events s) : s.Ordered cfg := by
  refine Machine.Run.invariant h (ordered_init cfg adbRunning) ?_
  rintro s ⟨p, a⟩ t hs - hstep
  exact ordered_step hs (moves_of_step hstep)

/-! ## The daemon that has the port -/

/-- Once a daemon has lost the port to the other one, nothing more happens. -/
theorem no_step_of_failed (hs : s.Ordered cfg) {l : Proc} (hl : s.stage l = .failed true) :
    ¬ s.Moves cfg p a t := by
  intro h
  have hrunning := hs.lost l (.inr hl)
  rcases eq_or_ne p l with rfl | hp
  · cases h <;> simp_all
  · obtain rfl := Proc.eq_other hp
    cases h <;> simp_all

/-- Only the last step of a daemon that lost the port to the other makes it one that lost. -/
theorem failed_of_moves (h : s.Moves cfg p a t) {l : Proc} (hl : t.stage l = .failed true) :
    s.stage l = .failed true ∨ (p = l ∧ a = .killLocal ∧ s.stage l = .rollback true) := by
  rcases eq_or_ne l p with rfl | hlp
  · right
    cases h <;> simp_all [goto, dropLocal, dropControl]
  · left
    rwa [h.stage_of_ne hlp] at hl

/-- Agents reach the daemon that has the port iff its control socket is where they look. -/
theorem agentReaches_iff (hs : s.Ordered cfg) {l : Proc} (hl : s.control l = none)
    (hrunning : s.stage l.other = .running) :
    s.agentReaches cfg = some l.other ↔
      (s.control l.other = some .file → s.controlFile = some l.other) := by
  have hserves : s.control l.other ≠ none := (hs.serves_iff l.other).mpr (.inr hrunning)
  rcases hc : s.control l.other with _ | _ | _
  · exact absurd hc hserves
  · have hname := (hs.named_iff l.other).mpr hc
    obtain ⟨hpath, husable⟩ := hs.usable (by rw [hname]; simp)
    refine iff_of_true ?_ (by simp)
    unfold agentReaches
    rw [if_neg (by simp [hpath]), if_pos ⟨husable, by simp [hname]⟩, hname]
  · -- nobody has the abstract name, and the only open socket in the file system is the winner's
    have hname : s.abstractName = none := by
      rcases hn : s.abstractName with _ | q
      · rfl
      · have habstract := (hs.named_iff q).mp hn
        rcases eq_or_ne q l with rfl | hq
        · rw [hl] at habstract
          cases habstract
        · rw [Proc.eq_other hq, hc] at habstract
          cases habstract
    have hfile : (s.controlFile.filter fun q => s.control q = some .file) = some l.other ↔
        s.controlFile = some l.other := by
      rw [Option.filter_eq_some_iff]
      simp [hc]
    unfold agentReaches
    simp [hname, hfile]

/-- What the last step of a daemon that loses leaves. -/
theorem killLocal_eq (h : s.Moves cfg p .killLocal t) :
    ∃ taken, s.stage p = .rollback taken ∧ t = (s.dropLocal p).goto p (.failed taken) := by
  cases h with
  | killLocal taken hp => exact ⟨taken, hp, rfl⟩

/-- A daemon that lost leaves the other one intact iff it spared it. -/
theorem intact_of_killLocal_iff (hs : s.Ordered cfg) (h : s.Moves cfg p .killLocal t)
    (hp : s.stage p = .rollback true) :
    (t.agentReaches cfg = some p.other ∧
        (cfg.includeLocal p.other = true → t.adbRunning = true)) ↔
      s.SparesWinner cfg (p, .killLocal) := by
  have ht := ordered_step hs h
  obtain ⟨taken, hp', rfl⟩ := killLocal_eq h
  obtain rfl : true = taken := by
    rw [hp] at hp'
    exact Stage.rollback.inj hp'
  have hrunning := hs.lost p (.inl hp)
  have hclosed : s.control p = none := by
    by_contra hopen
    rcases (hs.serves_iff p).mp hopen with hst | hst <;> rw [hp] at hst <;> cases hst
  have hreach := agentReaches_iff (l := p) ht hclosed
    (by rw [h.stage_of_ne p.other_ne]; exact hrunning)
  have hadb : cfg.includeLocal p.other = true → s.adbRunning = true := by
    intro hlocal
    rcases hs.adb p.other hlocal (by simp [hrunning, Stage.UsesLocal]) with hadb | hstop
    · exact hadb
    · rw [Proc.other_other, hp] at hstop
      simp [Stage.MayStop] at hstop
  have hrunningIff : (cfg.includeLocal p.other = true →
      ((s.dropLocal p).goto p (.failed true)).adbRunning = true) ↔
        ¬ (s.startedByUs p = true ∧ cfg.includeLocal p.other = true) := by
    show (cfg.includeLocal p.other = true → (if s.startedByUs p then false else s.adbRunning) = true)
      ↔ _
    rcases s.startedByUs p with _ | _
    · simpa using hadb
    · simp
  unfold SparesWinner
  rw [hreach, hrunningIff]
  exact ⟨fun hboth _ _ => hboth, fun hspare => hspare rfl hp⟩

/-- **Exactly the sparing steps.** -/
theorem winnerIntact_step_iff (hs : s.Ordered cfg) (h : s.Moves cfg p a t) :
    t.WinnerIntact cfg ↔ s.SparesWinner cfg (p, a) := by
  constructor
  · intro ht ha hp
    obtain rfl : a = .killLocal := ha
    obtain ⟨taken, hp', rfl⟩ := killLocal_eq h
    obtain rfl : true = taken := by
      rw [hp] at hp'
      exact Stage.rollback.inj hp'
    exact (intact_of_killLocal_iff hs h hp).mp (ht p (Function.update_self ..)) rfl hp
  · intro hspare l hl
    rcases failed_of_moves h hl with hfailed | ⟨rfl, rfl, hp⟩
    · exact absurd h (no_step_of_failed hs hfailed)
    · exact (intact_of_killLocal_iff hs h hp).mpr hspare

/-- **The winner stays intact, exactly.** In every state of a run, a daemon that lost the listen
port to the other one has left it intact, iff every daemon that loses spares the other: it has not
replaced the control socket of the other, and has not started the adb server the other uses.
Source: `service.rs`, `run_shared_service` ("another hub took the listen port"). -/
theorem winner_intact_iff {adbRunning : Bool} {events : List (Proc × StartupAction)}
    (h : (startupMachine cfg adbRunning).Reaches events s) :
    (startupMachine cfg adbRunning).Always (WinnerIntact cfg) events ↔
      (startupMachine cfg adbRunning).Run (SparesWinner cfg) events s := by
  refine Machine.always_iff_run (I := Ordered cfg) (H := fun _ => True) ?_ ?_ ?_ h
    (fun _ _ _ _ => trivial)
  · intro events s hrun
    exact ordered_of_reaches hrun.reaches
  · intro l hl
    cases hl
  · rintro s ⟨p, a⟩ t - - hs - hstep
    exact winnerIntact_step_iff hs (moves_of_step hstep)

/-- Two services with the default endpoint. -/
def defaultConfig : SharedConfig := ⟨fun _ => true, 5039, "adb-hubd", none⟩

/-- Two services without local devices, and with a path for the control socket. -/
def pathConfig : SharedConfig := ⟨fun _ => false, 5039, "adb-hubd", some "/run/adb-hubd.sock"⟩

/-- A daemon comes from the probe of the port to the adb server on the side port. -/
def untilLocal (p : Proc) : List (Proc × StartupAction) :=
  [(p, .tryPort), (p, .dropProbe), (p, .stopDefault), (p, .checkLocal)]

/-- The first daemon takes the abstract name and the port, the second one a socket in the file
system and no port. -/
def firstWins : List (Proc × StartupAction) :=
  [(.first, .bindControl), (.first, .bindListen), (.second, .bindControl), (.second, .removeFile),
    (.second, .bindFile), (.second, .bindListen), (.second, .killLocal)]

/-- With an adb server that runs from before, the daemon that loses leaves the other intact. -/
theorem reused_server_survives :
    (startupMachine defaultConfig true).Always (WinnerIntact defaultConfig)
      (untilLocal .first ++ untilLocal .second ++ firstWins) := by
  have hchecks : (startupMachine defaultConfig true).checks (SparesWinner defaultConfig)
      (startupMachine defaultConfig true).init
      (untilLocal .first ++ untilLocal .second ++ firstWins) = true := by decide +kernel
  obtain ⟨s, hs⟩ := Machine.exists_run_of_checks hchecks
  exact (winner_intact_iff hs.reaches).mpr hs

/-- The daemon that loses has started the adb server, and kills it under the other one; or it has
put its control socket in the place of the other's, and agents find a closed one there. -/
theorem loser_takes_down_winner :
    (∃ s, (startupMachine defaultConfig false).Reaches
        (untilLocal .second ++ [(.second, .startLocal)] ++ untilLocal .first ++ firstWins) s ∧
        s.stage .first = .running ∧ s.stage .second = .failed true ∧ s.adbRunning = false ∧
        ¬ s.WinnerIntact defaultConfig) ∧
    (∃ s, (startupMachine pathConfig false).Reaches
        [(.first, .tryPort), (.first, .dropProbe), (.second, .tryPort), (.second, .dropProbe),
          (.first, .bindControl), (.first, .removeFile), (.first, .bindFile),
          (.second, .bindControl), (.second, .removeFile), (.second, .bindFile),
          (.first, .bindListen), (.second, .bindListen), (.second, .killLocal)] s ∧
        s.stage .first = .running ∧ s.stage .second = .failed true ∧
        s.agentReaches pathConfig = none ∧ ¬ s.WinnerIntact pathConfig) := by
  constructor
  · have hexec : (((startupMachine defaultConfig false).exec
        (startupMachine defaultConfig false).init
        (untilLocal .second ++ [(.second, .startLocal)] ++ untilLocal .first ++ firstWins)).map
        fun s => (s.stage .first, s.stage .second, s.adbRunning)) =
          some (.running, .failed true, false) := by decide +kernel
    obtain ⟨s, hs, hend⟩ := Option.map_eq_some_iff.mp hexec
    simp only [Prod.mk.injEq] at hend
    obtain ⟨hfirst, hsecond, hadb⟩ := hend
    refine ⟨s, Machine.reaches_of_exec hs, hfirst, hsecond, hadb, fun hintact => ?_⟩
    have hrunning := (hintact .second hsecond).2 rfl
    rw [hadb] at hrunning
    cases hrunning
  · have hexec : (((startupMachine pathConfig false).exec (startupMachine pathConfig false).init
        [(.first, .tryPort), (.first, .dropProbe), (.second, .tryPort), (.second, .dropProbe),
          (.first, .bindControl), (.first, .removeFile), (.first, .bindFile),
          (.second, .bindControl), (.second, .removeFile), (.second, .bindFile),
          (.first, .bindListen), (.second, .bindListen), (.second, .killLocal)]).map
        fun s => (s.stage .first, s.stage .second, s.agentReaches pathConfig)) =
          some (.running, .failed true, none) := by decide +kernel
    obtain ⟨s, hs, hend⟩ := Option.map_eq_some_iff.mp hexec
    simp only [Prod.mk.injEq] at hend
    obtain ⟨hfirst, hsecond, hreach⟩ := hend
    refine ⟨s, Machine.reaches_of_exec hs, hfirst, hsecond, hreach, fun hintact => ?_⟩
    have hreaches := (hintact .second hsecond).1
    rw [hreach] at hreaches
    cases hreaches

end Startup

end AdbHub
