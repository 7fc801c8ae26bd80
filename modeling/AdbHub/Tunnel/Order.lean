import AdbHub.Lib.Turns
import AdbHub.Tunnel.Owners

/-!
# The order of tunnel connections

scrcpy tells its sockets apart by the order in which they connect. The connections of a listener
keep that order on the way to the device (`tunnel.rs`, `TunnelManager::add`).

* `Handshake.Over` — both `OKAY`s were received, or the handshake has failed or timed out.
* `Tunnels.Recorded` — where a task stands goes by what its connection has met.
* `turnsSimulation` — the connections of a listener take turns in the sense of the library.
* `Tunnels.TakesTurns` — order, no overlap, and no connection that blocks those behind it.
* **`connections_take_turns`** — in every run.
-/

namespace AdbHub

open Lib Protocol

/-! ## What a connection meets -/

namespace Handshake

/-- This ends a handshake without success. -/
def Fails : Handshake → Prop
  | .opened ok | .serviceWritten ok => ok = false
  | .status bytes => bytes ≠ some okayStatus
  | .timeout => True
  | .relayEnds => False

/-- A handshake that succeeds: both statuses are `OKAY`, and the service is written in between. -/
def okays : List Handshake :=
  [.opened true, .status (some okayStatus), .serviceWritten true, .status (some okayStatus)]

/-- Both `OKAY`s were received, or the handshake has failed or timed out. -/
def Over (met : List Handshake) : Prop := okays <+: met ∨ ∃ e ∈ met, e.Fails

end Handshake

namespace TunnelTask

/-- How much of a handshake that succeeds is done. -/
def done : TunnelTask → ℕ
  | .absent | .waiting | .opening => 0
  | .transportStatus => 1
  | .service => 2
  | .socketStatus => 3
  | .relaying | .ended => 4

/-- What a connection has met where its task stands here. -/
def Met (c : TunnelTask) (met : List Handshake) : Prop :=
  if c = .ended then Handshake.Over met else met = Handshake.okays.take c.done

variable {c d : TunnelTask} {e : Handshake} {met : List Handshake}

theorem met_of_ne (hc : c ≠ .ended) : c.Met met ↔ met = Handshake.okays.take c.done := by
  unfold Met
  rw [if_neg hc]

theorem met_ended : TunnelTask.ended.Met met ↔ Handshake.Over met := by
  unfold Met
  rw [if_pos rfl]

/-- What fails comes last. -/
theorem met_of_fails (he : e.Fails) : TunnelTask.ended.Met (met ++ [e]) :=
  met_ended.mpr (.inr ⟨e, by simp, he⟩)

/-- One step of a handshake. -/
theorem Met.next (h : c.Met met) (hnext : c.next e = some d) : d.Met (met ++ [e]) := by
  have hc : c ≠ .ended := by
    rintro rfl
    cases e <;> cases hnext
  rw [met_of_ne hc] at h
  subst h
  unfold next at hnext
  split at hnext
  · rename_i ok
    obtain rfl := Option.some.inj hnext
    rcases ok with _ | _
    · exact met_of_fails rfl
    · rfl
  · rename_i bytes
    obtain rfl := Option.some.inj hnext
    by_cases hokay : bytes = some okayStatus
    · subst hokay
      rfl
    · rw [if_neg hokay]
      exact met_of_fails hokay
  · rename_i ok
    obtain rfl := Option.some.inj hnext
    rcases ok with _ | _
    · exact met_of_fails rfl
    · rfl
  · rename_i bytes
    obtain rfl := Option.some.inj hnext
    by_cases hokay : bytes = some okayStatus
    · subst hokay
      rfl
    · rw [if_neg hokay]
      exact met_of_fails hokay
  iterate 4
    · obtain rfl := Option.some.inj hnext
      exact met_of_fails trivial
  · obtain rfl := Option.some.inj hnext
    exact met_ended.mpr (.inl (List.prefix_append _ _))
  · cases hnext

/-- Nothing is met before `open` has returned. -/
theorem Met.of_done (h : c.Met met) (hc : c ≠ .ended) (hd : d ≠ .ended) (hdone : d.done = c.done) :
    d.Met met := by
  rw [met_of_ne hd, hdone]
  exact (met_of_ne hc).mp h

/-- A connection relays after the second status. -/
theorem socketStatus_of_next (h : c.next e = some .relaying) : c = .socketStatus := by
  unfold next at h
  split at h
  iterate 3
    · split_ifs at h
      all_goals cases h
  · rfl
  all_goals cases h

/-- A handshake is settled when it has succeeded, failed or timed out. -/
theorem Met.settled_iff (h : c.Met met) : c.Settled ↔ Handshake.Over met := by
  by_cases hc : c = .ended
  · subst hc
    exact iff_of_true (.inr rfl) (met_ended.mp h)
  · rw [met_of_ne hc] at h
    subst h
    cases c <;> simp [Settled, Handshake.Over, Handshake.okays, Handshake.Fails, done] at hc ⊢

end TunnelTask

namespace TunnelTask

/-- Where a connection stands as a job that takes its turn. -/
def turn : TunnelTask → Turn
  | .absent | .waiting => .waiting
  | .opening | .transportStatus | .service | .socketStatus => .running
  | .relaying | .ended => .over

theorem turn_eq_over {c : TunnelTask} : c.turn = .over ↔ c.Settled := by
  cases c <;> simp [turn, Settled]

theorem turn_eq_running {c : TunnelTask} : c.turn = .running ↔ c.Connecting := by
  cases c <;> simp [turn, Connecting]

theorem turn_ne_waiting {c : TunnelTask} : c.turn ≠ .waiting ↔ c.Begun := by
  cases c <;> simp [turn, Begun, Connecting, Settled]

end TunnelTask

namespace Tunnels

variable {s t : Tunnels} {e : TunnelEvent}

/-- Two connections of the same listener. -/
def SameListener (s : Tunnels) (b c : ℕ) : Prop :=
  ∃ l, s.accepted[b]? = some l ∧ s.accepted[c]? = some l

/-- What connection `c` has met in a run: whether `open` succeeded, the statuses it has read, and
whether the service was written. -/
def handshakesOf (c : ℕ) (events : List TunnelEvent) : List Handshake :=
  events.filterMap fun
    | .handshake b e => if b = c then some e else none
    | _ => none

/-- The connections of every listener take turns. Connections are numbered as they are accepted. -/
structure TakesTurns (events : List TunnelEvent) (s : Tunnels) : Prop where
  /-- Their handshakes start in the order in which they were accepted. -/
  inOrder : s.opens.Pairwise fun b c => s.SameListener b c → b < c
  /-- Those that have called `open` are in this order. -/
  begun_iff : ∀ c, c ∈ s.opens ↔ (s.task c).Begun
  /-- A handshake starts after all earlier ones have received both `OKAY`s, failed or timed out. -/
  apart : ∀ b c, b < c → s.SameListener b c → (s.task c).Begun →
    Handshake.Over (handshakesOf b events)
  /-- A handshake is settled when both `OKAY`s were received, or it has failed or timed out. -/
  settled_iff : ∀ c, (s.task c).Settled ↔ Handshake.Over (handshakesOf c events)
  /-- A connection that relays has received both `OKAY`s, and the service of its listener was written
  in between. -/
  okays : ∀ c, s.task c = .relaying → handshakesOf c events = Handshake.okays ∧
    ∀ l, s.accepted[c]? = some l → s.sent c = some (s.socket l)
  /-- A connection that waits may start as soon as all earlier ones are settled. -/
  unblocked : ∀ c, s.task c = .waiting →
    ((s.step (.begin c)).isSome ↔
      ∀ b, b < c → s.SameListener b c → Handshake.Over (handshakesOf b events))
  /-- A connection that waits does so for a handshake that may time out, or one that may start. -/
  progress : ∀ c, s.task c = .waiting → ∃ b, (b = c ∨ b < c ∧ s.SameListener b c) ∧
    ((s.step (.handshake b .timeout)).isSome ∨ (s.step (.begin b)).isSome)

/-- The connections as jobs, with the listeners as lanes. -/
def turns (s : Tunnels) : Turns ℕ where
  lanes := s.accepted
  before := s.waitFor
  last := s.previous
  turn c := (s.task c).turn
  started := s.opens

/-- What a step is to the connections. -/
def turnAction (s : Tunnels) : TunnelEvent → Option (TurnAction ℕ)
  | .accept l peer => if s.Allowed l peer then some (.enter l) else none
  | .begin c => some (.start c)
  | .handshake c e =>
      if (s.task c).turn = .running ∧ ((s.task c).next e).map TunnelTask.turn = some .over then
        some (.finish c)
      else none
  | _ => none

/-- Only accepted connections have tasks. -/
def TasksAccepted (s : Tunnels) : Prop := ∀ c, s.task c ≠ .absent ↔ c < s.accepted.length

theorem ready_turns (c : ℕ) : s.turns.Ready c ↔ s.Ready c := by
  unfold Turns.Ready Ready
  simp only [turns, TunnelTask.turn_eq_over]

theorem tasksAccepted_step (hs : s.TasksAccepted) (h : s.Moves e t) : t.TasksAccepted := by
  cases h with
  | replace | inUse | add | replaced | bound | bindFails | remove | notRemoved | removed
  | removeOwner | acceptFails | stopSeen | drained => exact hs
  | @accept l peer _ =>
      unfold connect
      split_ifs
      · intro c
        show Function.update s.task s.accepted.length _ c ≠ _ ↔ c < (s.accepted ++ [l]).length
        rw [List.length_append, List.length_singleton]
        by_cases hc : c = s.accepted.length
        · simp [hc]
        · rw [Function.update_of_ne hc, hs c]
          omega
      · exact hs
  | @begin c htask _ =>
      intro d
      by_cases hd : d = c
      · have := (hs c).mp (by rw [htask]; decide)
        simpa [hd] using this
      · simpa [hd] using hs d
  | @handshake c e task l hnext hl =>
      intro d
      by_cases hd : d = c
      · have hlt := (List.getElem?_eq_some_iff.mp hl).1
        have htask : task ≠ .absent := by
          rintro rfl
          rcases TunnelTask.next_cases hnext with ⟨-, hc | hc⟩ | ⟨-, hc⟩ <;>
            simp [TunnelTask.Connecting, TunnelTask.Settled] at hc
        simpa [hd, htask] using hlt
      · simpa [hd] using hs d

theorem handshakesOf_snoc (c : ℕ) (past : List TunnelEvent) (e : TunnelEvent) :
    handshakesOf c (past ++ [e]) = handshakesOf c past ++ handshakesOf c [e] :=
  List.filterMap_append

/-- The tasks stand where their connections have come to. -/
structure Recorded (events : List TunnelEvent) (s : Tunnels) : Prop where
  met : ∀ c, (s.task c).Met (handshakesOf c events)
  sent : ∀ c l, s.accepted[c]? = some l → s.task c = .socketStatus ∨ s.task c = .relaying →
    s.sent c = some (s.socket l)

/-- What is no handshake, and touches no connection, keeps the record. -/
theorem Recorded.keep {past : List TunnelEvent} (h : s.Recorded past)
    (he : ∀ c, handshakesOf c [e] = []) (htask : t.task = s.task) (haccepted : t.accepted = s.accepted)
    (hsent : t.sent = s.sent)
    (hsocket : ∀ c l : ℕ, s.accepted[c]? = some l → t.socket l = s.socket l) :
    t.Recorded (past ++ [e]) := by
  constructor
  · intro c
    rw [handshakesOf_snoc, he, List.append_nil, htask]
    exact h.met c
  · intro c l hl hc
    rw [haccepted] at hl
    rw [htask] at hc
    rw [hsent, hsocket c l hl]
    exact h.sent c l hl hc

/-- A connection that comes has met nothing. -/
theorem Recorded.connect {past : List TunnelEvent} (h : s.Recorded past) (htasks : s.TasksAccepted)
    {l : ℕ} {peer : Option Uid} (hallowed : s.Allowed l peer) :
    (s.connect l peer).Recorded (past ++ [.accept l peer]) := by
  have hnew : s.task s.accepted.length = .absent := by
    by_contra hne
    exact absurd ((htasks _).mp hne) (by omega)
  unfold Tunnels.connect
  rw [if_pos hallowed]
  constructor
  · intro c
    rw [handshakesOf_snoc, show handshakesOf c [.accept l peer] = [] from rfl, List.append_nil]
    have hmet := h.met c
    by_cases hc : c = s.accepted.length
    · subst hc
      rw [hnew] at hmet
      simpa using hmet.of_done (d := .waiting) (by decide) (by decide) rfl
    · simpa [hc] using hmet
  · intro c l' hl' hc
    by_cases hlast : c = s.accepted.length
    · simp [hlast] at hc
    · have hlt : c < s.accepted.length := by
        have hlt' := (List.getElem?_eq_some_iff.mp hl').1
        simp only [List.length_append, List.length_singleton] at hlt'
        omega
      have hold : s.accepted[c]? = some l' := (List.getElem?_append_left hlt).symm.trans hl'
      exact h.sent c l' hold (by simpa [hlast] using hc)

/-- A connection that waits calls `open`. -/
theorem Recorded.begin {past : List TunnelEvent} (h : s.Recorded past) {c : ℕ}
    (htask : s.task c = .waiting) :
    Recorded (past ++ [.begin c])
      { s with
        task := Function.update s.task c .opening
        opens := s.opens ++ [c] } := by
  constructor
  · intro d
    rw [handshakesOf_snoc, show handshakesOf d [.begin c] = [] from rfl, List.append_nil]
    have hmet := h.met d
    by_cases hd : d = c
    · subst hd
      rw [htask] at hmet
      simpa using hmet.of_done (d := .opening) (by decide) (by decide) rfl
    · simpa [hd] using hmet
  · intro d l hl hd
    by_cases hdc : d = c
    · simp [hdc] at hd
    · exact h.sent d l hl (by simpa [hdc] using hd)

/-- One step of the handshake of connection `c`. -/
theorem Recorded.handshake {past : List TunnelEvent} (h : s.Recorded past) {c l : ℕ} {e : Handshake}
    {task : TunnelTask} (hnext : (s.task c).next e = some task) (hl : s.accepted[c]? = some l) :
    Recorded (past ++ [.handshake c e])
      { s with
        task := Function.update s.task c task
        sent := if task = .socketStatus then Function.update s.sent c (some (s.socket l))
          else s.sent } := by
  constructor
  · intro d
    rw [handshakesOf_snoc]
    by_cases hd : d = c
    · subst hd
      rw [show handshakesOf d [.handshake d e] = [e] by simp [handshakesOf]]
      simpa using (h.met d).next hnext
    · rw [show handshakesOf d [.handshake c e] = [] by simp [handshakesOf, Ne.symm hd],
        List.append_nil]
      simpa [hd] using h.met d
  · intro d l' hl' hd
    by_cases hdc : d = c
    · subst hdc
      obtain rfl : l' = l := Option.some.inj (hl'.symm.trans hl)
      by_cases htask : task = .socketStatus
      · simp [htask]
      · have hrelays : task = .relaying := by simpa [htask] using hd
        -- the second status is read after the service was written
        have hbefore := TunnelTask.socketStatus_of_next (hrelays ▸ hnext)
        simpa [htask] using h.sent d l' hl (.inl hbefore)
    · have hsent := h.sent d l' hl' (by simpa [hdc] using hd)
      dsimp only
      split_ifs
      · simpa [hdc] using hsent
      · exact hsent

theorem recorded_step {past : List TunnelEvent} (h : s.Recorded past) (htasks : s.TasksAccepted)
    (hpeers : s.PeersAllowed) (hs : s.Moves e t) : t.Recorded (past ++ [e]) := by
  cases hs with
  | replace | inUse | add | replaced | bindFails | remove | notRemoved | removed
  | removeOwner | acceptFails | stopSeen | drained =>
      exact h.keep (fun _ => rfl) rfl rfl rfl fun _ _ _ => rfl
  | bound =>
      refine h.keep (fun _ => rfl) rfl rfl rfl fun c l hl => ?_
      exact Function.update_of_ne (hpeers c l hl).1.ne _ _
  | @accept l peer _ =>
      by_cases hallowed : s.Allowed l peer
      · exact h.connect htasks hallowed
      · unfold Tunnels.connect
        rw [if_neg hallowed]
        exact h.keep (fun _ => rfl) rfl rfl rfl fun _ _ _ => rfl
  | begin htask _ => exact h.begin htask
  | handshake hnext hl => exact h.handshake hnext hl

/-- A step of the tunnel manager is one of the connections, or none. -/
theorem turns_step (hs : s.TasksAccepted) (h : s.Moves e t) :
    (Turns.machine ℕ).Mirrors (s.turnAction e) s.turns t.turns := by
  cases h with
  | replace | inUse | add | replaced | bound | bindFails | remove | notRemoved | removed
  | removeOwner | acceptFails | stopSeen | drained => exact .inl ⟨rfl, rfl⟩
  | @accept l peer _ =>
      unfold connect
      split_ifs with hallowed
      · have hact : s.turnAction (.accept l peer) = some (.enter l) := by
          simp [turnAction, hallowed]
        refine .inr ⟨TurnAction.enter l, hact, ?_⟩
        rw [Turns.machine_step, Turns.step]
        have hturn : (fun c => (Function.update s.task s.accepted.length .waiting c).turn) =
            fun c => (s.task c).turn := by
          funext c
          by_cases hc : c = s.accepted.length
          · have habsent : s.task c = .absent := by
              by_contra hne
              exact absurd ((hs c).mp hne) (by omega)
            rw [habsent, hc, Function.update_self]
            rfl
          · rw [Function.update_of_ne hc]
        unfold turns
        rw [hturn]
        rfl
      · exact .inl ⟨by simp [turnAction, hallowed], rfl⟩
  | @begin c htask hready =>
      have hact : s.turnAction (.begin c) = some (.start c) := rfl
      refine .inr ⟨TurnAction.start c, hact, ?_⟩
      have hlt : c < s.accepted.length := (hs c).mp (by rw [htask]; decide)
      have hturn : s.turns.turn c = .waiting := by simp [turns, htask, TunnelTask.turn]
      rw [Turns.machine_step, Turns.step]
      rw [if_pos ⟨hlt, hturn, (ready_turns c).mpr hready⟩]
      congr 1
      unfold turns
      congr 1
      funext d
      by_cases hd : d = c
      · simp [hd, TunnelTask.turn]
      · simp [hd]
  | @handshake c e task l hnext hl =>
      have hcases := TunnelTask.next_cases hnext
      simp only [← TunnelTask.turn_eq_over, ← TunnelTask.turn_eq_running] at hcases
      by_cases hfinish : (s.task c).turn = .running ∧ task.turn = .over
      · have hact : s.turnAction (.handshake c e) = some (.finish c) := by
          simp [turnAction, hnext, hfinish.1, hfinish.2]
        refine .inr ⟨TurnAction.finish c, hact, ?_⟩
        rw [Turns.machine_step, Turns.step, if_pos (show s.turns.turn c = .running from hfinish.1)]
        congr 1
        unfold turns
        congr 1
        funext d
        by_cases hd : d = c
        · simp [hd, hfinish.2]
        · simp [hd]
      · have hact : s.turnAction (.handshake c e) = none := by
          unfold turnAction
          dsimp only
          rw [hnext, if_neg (by simpa using hfinish)]
        refine .inl ⟨hact, ?_⟩
        have hsame : task.turn = (s.task c).turn := by
          rcases hcases with ⟨hc, hd | hd⟩ | ⟨hc, hd⟩
          · rw [hc, hd]
          · exact absurd ⟨hc, hd⟩ hfinish
          · rw [hc, hd]
        unfold turns
        congr 1
        funext d
        by_cases hd : d = c
        · simp [hd, hsame]
        · simp [hd]

/-- The tunnel manager refines jobs that take turns. -/
def turnsSimulation : Simulation machine (Turns.machine ℕ) where
  abs := turns
  act := turnAction
  inv := TasksAccepted
  inv_init c := by simp [machine]
  inv_step hs h := tasksAccepted_step hs (moves_of_step h)
  abs_init := rfl
  mirrors hs h := turns_step hs (moves_of_step h)

theorem recorded_of_reaches {events : List TunnelEvent} (h : machine.Reaches events s) :
    s.Recorded events := by
  unfold Machine.Reaches at h
  induction h with
  | init =>
      refine ⟨fun c => ?_, fun c l hl => by simp [machine] at hl⟩
      rw [TunnelTask.met_of_ne (by simp [machine])]
      rfl
  | snoc hr _ hs ih =>
      exact recorded_step ih (turnsSimulation.inv_of_run hr) (peersAllowed_of_reaches hr)
        (moves_of_step hs)

/-- **Connections keep their order.** In every run the handshakes of the connections that a
listener accepts start in the order in which they were accepted and never overlap: each one starts
after those before it have received both `OKAY`s, failed or timed out. None that failed, or takes
long, keeps those behind it from starting.
Source: `tunnel.rs`, `preserves_scrcpy_connection_order_when_first_handshake_is_slow` -/
theorem connections_take_turns {events : List TunnelEvent} (h : machine.Reaches events s) :
    s.TakesTurns events := by
  obtain ⟨actions, hrun⟩ := turnsSimulation.run (D := fun _ _ => True) (fun _ _ _ _ _ _ => trivial) h
  have hinv : s.turns.Inv := Turns.inv_of_run hrun
  have htasks : s.TasksAccepted := turnsSimulation.inv_of_run h
  have hrecorded := recorded_of_reaches h
  have hover : ∀ c, (s.task c).turn = .over ↔ Handshake.Over (handshakesOf c events) := fun c =>
    TunnelTask.turn_eq_over.trans (hrecorded.met c).settled_iff
  have hbegin : ∀ c, s.task c = .waiting → s.Ready c → (s.step (.begin c)).isSome := by
    intro c hc hready
    simp only [step]
    rw [if_pos ⟨hc, hready⟩]
    rfl
  constructor
  · exact hinv.inOrder
  · intro c
    rw [← TunnelTask.turn_ne_waiting]
    exact hinv.begun.started_iff c
  · intro b c hbc hsame hc
    rw [← hover]
    exact hinv.inTurn b c hbc hsame (TunnelTask.turn_ne_waiting.mpr hc)
  · exact fun c => (hrecorded.met c).settled_iff
  · intro c hc
    have hmet := hrecorded.met c
    rw [hc, TunnelTask.met_of_ne (by decide)] at hmet
    exact ⟨hmet, fun l hl => hrecorded.sent c l hl (.inr hc)⟩
  · intro c hc
    constructor
    · intro hsome b hbc hsame
      simp only [step] at hsome
      split_ifs at hsome with hready
      · rw [← hover]
        exact Turns.over_of_ready hinv.chained hinv.inTurn ((ready_turns c).mpr hready.2) hbc hsame
      · cases hsome
    · intro hall
      refine hbegin c hc fun b hb => ?_
      obtain ⟨hbc, hsame⟩ := hinv.chained.before_lane c b hb
      rw [← TunnelTask.turn_eq_over, hover]
      exact hall b hbc hsame
  · intro c hc
    have hturn : s.turns.turn c = .waiting := by simp [turns, hc, TunnelTask.turn]
    obtain ⟨b, hb, hrunning | ⟨hwaits, hready⟩⟩ :=
      Turns.exists_running_or_ready hinv.chained hturn
    · have hconn : (s.task b).Connecting := TunnelTask.turn_eq_running.mp hrunning
      refine ⟨b, hb, .inl ?_⟩
      have hlt : b < s.accepted.length := hinv.begun.came b (by rw [hrunning]; decide)
      simp only [step]
      rw [hconn.timeout, List.getElem?_eq_getElem hlt]
      rfl
    · refine ⟨b, hb, .inr (hbegin b ?_ ((ready_turns b).mp hready))⟩
      have hb' : s.task b ≠ .absent := by
        rcases hb with rfl | ⟨hbc, l, hl, -⟩
        · rw [hc]
          decide
        · exact (htasks b).mpr (List.getElem?_eq_some_iff.mp hl).1
      have hwaits' : (s.task b).turn = .waiting := hwaits
      revert hb' hwaits'
      cases s.task b <;> simp [TunnelTask.turn]

/-- Three connections are queued when the forward is removed. The first one succeeds slowly, the
handshake of the second one times out. -/
def slowFirst : List TunnelEvent :=
  [.add ⟨0, "serial", "localabstract:scrcpy_test", none⟩, .bound 40000, .accept 0 none,
    .begin 0, .handshake 0 (.opened true), .remove 40000 "serial" none, .stopSeen 0,
    .accept 0 none, .accept 0 none, .drained 0, .removed,
    .handshake 0 (.status (some okayStatus)), .handshake 0 (.serviceWritten true),
    .handshake 0 (.status (some okayStatus)), .begin 1, .handshake 1 .timeout, .begin 2,
    .handshake 2 (.opened true)]

/-- The other connections follow the first one. -/
theorem slow_first_takes_turns :
    ∃ s, machine.Reaches slowFirst s ∧ s.opens = [0, 1, 2] ∧ s.task 0 = .relaying ∧
      s.TakesTurns slowFirst := by
  have hrun : (machine.exec machine.init slowFirst).map (fun s => (s.opens, s.task 0)) =
      some ([0, 1, 2], .relaying) := by
    decide +kernel
  obtain ⟨s, hs, hstate⟩ := Option.map_eq_some_iff.mp hrun
  obtain ⟨hopens, htask⟩ := Prod.mk.inj hstate
  have hreach := Machine.reaches_of_exec hs
  exact ⟨s, hreach, hopens, htask, connections_take_turns hreach⟩

end Tunnels

end AdbHub
