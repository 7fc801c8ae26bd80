import AdbHub.Relay.Delivery
import AdbHub.Lib.Lane.Filling

/-!
# The circular wait of a private stream

While `forward_private` writes to the agent, it does not receive. If the upstream does not read
then, the client's data fills every buffer on the way up, and the upstream's data every buffer on
the way down, up to a client that would read it.

* `PrivateRelay.Jammed` — each of the five waits for the next one.
* **`jammed_forever`** — only the upstream can end it, by reading.
* **`private_relay_jams_iff`** — how much both ends have to send for it to happen, exactly.
-/

namespace AdbHub

open Lib

namespace PrivateRelay

variable {r : RelaySetting} {s t : PrivateRelay} {e : RelayEvent} {as : List RelayEvent}

/-- The circular wait. -/
structure Jammed (r : RelaySetting) (s : PrivateRelay) : Prop where
  session : s.session = .relaying
  task : s.task = .relaying
  /-- `forward_private` is writing `StreamData` to the agent, and the control socket is full; the
  main loop of the agent waits for room in the full queue of the stream task. -/
  up : s.up.Stuck r.up
  /-- `to_up` is writing to the upstream, and the socket is full. -/
  toUp : s.up.hand ≠ [] ∧ r.up.sink ≤ s.up.sink.length
  /-- `from_up` is writing `StreamData` to the daemon, and the control socket is full;
  `agent_read_loop` waits for room in the full queue of the session. -/
  down : s.down.Stuck r.down

/-- The upstream is writing to the agent, and its socket is full. -/
def UpstreamBlocked (r : RelaySetting) (s : PrivateRelay) : Prop :=
  s.down.todo ≠ [] ∧ r.down.source ≤ s.down.source.length

/-! ## There is no way out -/

theorem Jammed.not_selecting (hj : s.Jammed r) : ¬ s.Selecting :=
  fun hselect => hj.up.putting_ne_none hselect.2.1

/-- **Every step** but the upstream's reading leaves all five waiting, and the queue of the client
as it is. -/
theorem Jammed.step (hj : s.Jammed r) (hs : s.Intact r) (he : ∀ n, e ≠ .up (.collect n))
    (h : s.step r e = some t) : t.Jammed r ∧ t.down.queue = s.down.queue := by
  cases moves_of_step h with
  | @up a l hmay hstep =>
      have halive : s.up.alive = true := by
        by_contra hgone
        have hleft := hs.up.dropped (Bool.eq_false_of_not_eq_true hgone)
        rw [hj.task] at hleft
        cases hleft
      have hrecv : a ≠ .recv := by
        rintro rfl
        cases Lane.moves_of_step hstep with
        | recv hnil => exact hj.toUp.1 hnil
      have hwrite : ∀ n, a ≠ .write n := by
        rintro n rfl
        cases Lane.moves_of_step hstep with
        | write hpos hn hroom =>
            have hfull := hj.toUp.2
            omega
      have hcollect : ∀ n, a ≠ .collect n := by
        rintro n rfl
        exact he n rfl
      obtain ⟨hhand, hsink⟩ := Lane.hand_sink_step hrecv hwrite hcollect hstep
      obtain ⟨hup, -⟩ := hj.up.step halive (brings_of_mayUp hmay) hrecv hstep
      refine ⟨{ hj with up := hup, toUp := ?_ }, rfl⟩
      rw [hhand, hsink]
      exact hj.toUp
  | @down a l hmay hstep =>
      have halive : s.down.alive = true := by
        by_contra hgone
        have hleft := hs.down.dropped (Bool.eq_false_of_not_eq_true hgone)
        rw [hj.session] at hleft
        cases hleft
      have hrecv : a ≠ .recv := by
        rintro rfl
        exact hj.not_selecting hmay
      obtain ⟨hdown, hqueue⟩ := hj.down.step halive (brings_of_mayDown hmay) hrecv hstep
      exact ⟨{ hj with down := hdown }, hqueue⟩
  | clientShuts | upstreamShuts => exact ⟨{ hj with }, rfl⟩
  | clientEof hselect | queueEnded hselect => exact absurd hselect hj.not_selecting
  | upstreamEof htask hput => exact absurd hput hj.down.putting_ne_none
  | streamEnded htask hopen hqueue hnil => exact absurd hnil hj.toUp.1
  | sessionRemoves hphase | sessionCloses hphase | sessionReturns hphase =>
      rw [hj.session] at hphase
      cases hphase
  | taskRemoves hphase | taskCloses hphase | taskReturns hphase =>
      rw [hj.task] at hphase
      cases hphase

/-- A jammed relay completes what it does: it reads no end. -/
theorem Jammed.completes (hj : s.Jammed r) (h : s.step r e = some t) : s.Completes e := by
  cases moves_of_step h with
  | clientEof hselecting => exact absurd hselecting hj.not_selecting
  | upstreamEof htask hput => exact absurd hput hj.down.putting_ne_none
  | _ => exact trivial

/-- **As long as the upstream does not read**, nothing of what is queued for the client is drained,
whatever else happens. -/
theorem jammed_forever (hs : s.Intact r) (hj : s.Jammed r)
    (has : ∀ e ∈ as, ∀ n, e ≠ .up (.collect n)) (h : (machine r).exec s as = some t) :
    t.Jammed r ∧ t.down.queue = s.down.queue := by
  suffices t.Intact r ∧ t.Jammed r ∧ t.down.queue = s.down.queue from this.2
  refine Machine.exec_invariant (I := fun u : PrivateRelay => u.Intact r ∧ u.Jammed r ∧
    u.down.queue = s.down.queue) h ⟨hs, hj, rfl⟩ ?_
  rintro e he u v ⟨hu, hju, hqueue⟩ (hstep : u.step r e = some v)
  obtain ⟨hjv, hsame⟩ := hju.step hu (has e he) hstep
  exact ⟨hu.step (hju.completes hstep) hstep, hjv, hsame.trans hqueue⟩

/-! ## How much it takes -/

/-- What the client sends at least when the relay jams: what fills everything up to the upstream. -/
def jamUp (r : RelaySetting) : ℕ := r.up.fullQueue + r.up.sink + 1

/-- What the upstream sends at least when the relay jams: what fills everything up to the session. -/
def jamDown (r : RelaySetting) : ℕ := r.down.fullQueue

theorem jamUp_eq (r : RelaySetting) :
    jamUp r = r.agentToUpstream + 35 + r.daemonToAgent / 10 := by
  simp only [jamUp, LaneSizes.fullQueue, LaneSizes.fullPipe, RelaySetting.up, streamDataHeader,
    agentStreamCapacity]
  omega

theorem jamDown_eq (r : RelaySetting) : jamDown r = 34 + r.agentToDaemon / 10 := by
  simp only [jamDown, LaneSizes.fullQueue, LaneSizes.fullPipe, RelaySetting.down, streamDataHeader,
    streamCapacity]
  omega

/-- **A relay that jams** has been sent that much. -/
theorem Jammed.le_length (hj : s.Jammed r) (hs : s.Intact r) :
    jamUp r ≤ r.fromClient.length ∧
      jamDown r + s.down.source.length + s.down.todo.length ≤ r.fromUpstream.length := by
  have hup := hs.up
  have hdown := hs.down
  rw [hj.session, hj.task] at hup hdown
  have hlenUp := hj.up.length_le hup.well (hup.noClose rfl)
  have hlenDown := hj.down.length_le hdown.well (hdown.noClose rfl)
  rw [hup.content] at hlenUp
  rw [hdown.content] at hlenDown
  have hhand := List.length_pos_iff.mpr hj.toUp.1
  have hsink := hj.toUp.2
  unfold jamUp jamDown
  constructor <;> omega

/-- The client's data is brought up, one byte at a time, and the upstream does not read. -/
theorem exists_stuck_up (hlen : jamUp r ≤ r.fromClient.length) :
    ∃ as s, (machine r).Reaches as s ∧ s.Intact r ∧ s.session = .relaying ∧ s.task = .relaying ∧
      s.up.Stuck r.up ∧ (s.up.hand ≠ [] ∧ r.up.sink ≤ s.up.sink.length) ∧
      s.down = { todo := r.fromUpstream } := by
  obtain ⟨as, s, has, hexec, hstands⟩ := (machine r).exists_standing
    (A := fun e => ∃ a : LaneAction, e = .up a ∧ a.Fills true)
    (fun _ _ _ _ hstep => work_step hstep) (start r)
  obtain ⟨hs, hones, hdown, hsession, htask⟩ : s.Intact r ∧ s.up.OneByOne r.up ∧
      s.down = { todo := r.fromUpstream } ∧ s.session = .relaying ∧ s.task = .relaying := by
    refine Machine.exec_invariant (I := fun s : PrivateRelay => s.Intact r ∧ s.up.OneByOne r.up ∧
      s.down = { todo := r.fromUpstream } ∧ s.session = .relaying ∧ s.task = .relaying) hexec
      ⟨intact_start, Lane.oneByOne_start _, rfl, rfl, rfl⟩ ?_
    rintro e he u v ⟨hu, hones, hsame⟩ (hstep : u.step r e = some v)
    obtain ⟨a, rfl, ha⟩ := has e he
    refine ⟨hu.step (e := .up a) trivial hstep, ?_⟩
    cases moves_of_step hstep with
    | up hmay hmoves => exact ⟨hones.step ha hmoves, hsame⟩
  have hnone : ∀ a : LaneAction, a.Fills true → s.up.step r.up a = none := by
    intro a ha
    have h : s.step r (.up a) = none := hstands _ ⟨a, rfl, ha⟩
    cases a with
    | read n => exact read_eq_none h hsession (by rw [hdown])
    | recv | write n => exact up_eq_none h htask
    | close | collect | cut | unregister | drop => exact ha.elim
    | send n | put n | take n | room => exact up_eq_none h trivial
  have hstuck : s.up.Stuck r.up := by
    refine hones.stuck (fun a ha => hnone a ha.mono) ?_
    have hhand := hones.hand
    have hsink := hones.sink
    rw [hs.up.content]
    unfold jamUp at hlen
    omega
  have hhand : s.up.hand ≠ [] := by
    refine (Lane.queue_of_no_recv (hnone .recv rfl)).resolve_right fun hqueue => ?_
    have hfull := hstuck.queue
    rw [hqueue] at hfull
    exact absurd r.up.queue_pos (Nat.not_lt.mpr hfull)
  have hsink := (Lane.hand_of_no_write fun n => hnone (.write n) rfl).resolve_left hhand
  exact ⟨as, s, Machine.reaches_of_exec hexec, hs, hsession, htask, hstuck, ⟨hhand, hsink⟩, hdown⟩

/-- **There is a run that jams**, if both ends send that much; the upstream is blocked in it, if it
sends what fills its socket to the agent in addition. -/
theorem exists_jammed (hup : jamUp r ≤ r.fromClient.length)
    (hdown : jamDown r ≤ r.fromUpstream.length) :
    ∃ as s, (machine r).Reaches as s ∧ s.Jammed r ∧
      (jamDown r + r.down.source < r.fromUpstream.length → s.UpstreamBlocked r) := by
  obtain ⟨bs, u, hreach, hu, hsession, htask, hstuck, htoUp, hfresh⟩ := exists_stuck_up hup
  obtain ⟨as, s, has, hexec, hstands⟩ := (machine r).exists_standing
    (A := fun e => ∃ a : LaneAction, e = .down a ∧ a.Fills false)
    (fun _ _ _ _ hstep => work_step hstep) u
  obtain ⟨hs, hones, hends, hsame, hsession, htask⟩ : s.Intact r ∧ s.down.OneByOne r.down ∧
      (s.down.hand = [] ∧ s.down.sink = []) ∧ s.up = u.up ∧ s.session = .relaying ∧
        s.task = .relaying := by
    refine Machine.exec_invariant (I := fun s : PrivateRelay => s.Intact r ∧
      s.down.OneByOne r.down ∧ (s.down.hand = [] ∧ s.down.sink = []) ∧ s.up = u.up ∧
        s.session = .relaying ∧ s.task = .relaying) hexec ?_ ?_
    · rw [hfresh]
      exact ⟨hu, Lane.oneByOne_start _, ⟨rfl, rfl⟩, rfl, hsession, htask⟩
    · rintro e he v w ⟨hv, hones, hends, hrest⟩ (hstep : v.step r e = some w)
      obtain ⟨a, rfl, ha⟩ := has e he
      refine ⟨hv.step (e := .down a) trivial hstep, ?_⟩
      cases moves_of_step hstep with
      | down hmay hmoves =>
          obtain ⟨hhand, hsink⟩ := Lane.hand_sink_step (by rintro rfl; cases ha)
            (by rintro n rfl; cases ha) (by rintro n rfl; exact ha) hmoves
          refine ⟨hones.step ha hmoves, ?_, hrest⟩
          rw [hhand, hsink]
          exact hends
  have hnone : ∀ a : LaneAction, a.Fills false → s.down.step r.down a = none := by
    intro a ha
    have h : s.step r (.down a) = none := hstands _ ⟨a, rfl, ha⟩
    cases a with
    | read n => exact down_eq_none h htask
    | recv | write n => cases ha
    | close | collect | cut | unregister | drop => exact ha.elim
    | send n | put n | take n | room => exact down_eq_none h trivial
  have hdownStuck : s.down.Stuck r.down := by
    refine hones.stuck hnone ?_
    rw [hs.down.content, hends.1, hends.2]
    exact hdown
  refine ⟨bs ++ as, s, hreach.append hexec fun _ _ _ => trivial, ?_, fun hlen => ?_⟩
  · exact ⟨hsession, htask, hsame ▸ hstuck, hsame ▸ htoUp, hdownStuck⟩
  · refine hones.blocked hdownStuck.waiting (fun n => hnone (.send n) trivial) ?_
    rw [hs.down.content, hends.1, hends.2]
    exact hlen

end PrivateRelay

open PrivateRelay

/-- **When the relay can jam.** Where no end closes, the circular wait is out of reach exactly if the
client sends less than what fills everything up to the upstream, or the upstream less than what
fills everything up to the session: a byte in each frame and in each place of a queue. An upstream
that reads unless it is blocked itself has to send in addition what fills its socket. -/
theorem private_relay_jams_iff (r : RelaySetting) (hclient : r.clientShuts = false)
    (hupstream : r.upstreamShuts = false) :
    ((∀ as s, (PrivateRelay.machine r).Reaches as s → ¬ s.Jammed r) ↔
      r.fromClient.length < r.agentToUpstream + 35 + r.daemonToAgent / 10 ∨
        r.fromUpstream.length < 34 + r.agentToDaemon / 10) ∧
    ((∀ as s, (PrivateRelay.machine r).Reaches as s → ¬ (s.Jammed r ∧ s.UpstreamBlocked r)) ↔
      r.fromClient.length < r.agentToUpstream + 35 + r.daemonToAgent / 10 ∨
        r.fromUpstream.length < 35 + r.agentToDaemon / 10 + r.upstreamToAgent) := by
  have hintact : ∀ as s, (PrivateRelay.machine r).Reaches as s → s.Intact r := by
    intro as s hreach
    refine intact_of_run (run_of_reaches (fun hshuts => ?_) (fun hshuts => ?_) hreach)
    · rw [hclient] at hshuts
      cases hshuts
    · rw [hupstream] at hshuts
      cases hshuts
  have hup := jamUp_eq r
  have hdown := jamDown_eq r
  have hsource : r.down.source = r.upstreamToAgent := rfl
  constructor
  · constructor
    · intro hnever
      by_contra hlen
      obtain ⟨as, s, hreach, hjammed, -⟩ := exists_jammed (r := r) (by omega) (by omega)
      exact hnever as s hreach hjammed
    · intro hlen as s hreach hjammed
      have hle := hjammed.le_length (hintact as s hreach)
      omega
  · constructor
    · intro hnever
      by_contra hlen
      obtain ⟨as, s, hreach, hjammed, hblocked⟩ := exists_jammed (r := r) (by omega) (by omega)
      exact hnever as s hreach ⟨hjammed, hblocked (by omega)⟩
    · rintro hlen as s hreach ⟨hjammed, htodo, hfull⟩
      have hle := hjammed.le_length (hintact as s hreach)
      have hpos := List.length_pos_iff.mpr htodo
      omega

/-- A client and an upstream that send each other a request and an answer. -/
def requestAndAnswer : RelaySetting := .usual [115, 121, 110, 99] [79, 75, 65, 89] false false

/-- They do not jam. -/
theorem requestAndAnswer_never_jams :
    ¬ ∃ as s, (PrivateRelay.machine requestAndAnswer).Reaches as s ∧ s.Jammed requestAndAnswer := by
  rintro ⟨as, s, hreach, hjammed⟩
  obtain ⟨hnever, -⟩ := private_relay_jams_iff requestAndAnswer rfl rfl
  exact hnever.mpr (.inl (by decide)) as s hreach hjammed

/-- A megabyte each way. -/
def bulkBothWays : RelaySetting :=
  .usual (List.replicate 1000000 97) (List.replicate 1000000 97) false false

/-- They can jam for good. -/
theorem bulkBothWays_jams :
    ∃ as s, (PrivateRelay.machine bulkBothWays).Reaches as s ∧ s.Jammed bulkBothWays ∧
      s.UpstreamBlocked bulkBothWays := by
  have hup : jamUp bulkBothWays ≤ bulkBothWays.fromClient.length := by
    rw [jamUp_eq, bulkBothWays, RelaySetting.usual, List.length_replicate]
    norm_num
  have hdown : jamDown bulkBothWays + bulkBothWays.down.source <
      bulkBothWays.fromUpstream.length := by
    rw [jamDown_eq, RelaySetting.down, bulkBothWays, RelaySetting.usual, List.length_replicate]
    norm_num
  obtain ⟨as, s, hreach, hjammed, hblocked⟩ :=
    exists_jammed hup ((Nat.le_add_right _ _).trans hdown.le)
  exact ⟨as, s, hreach, hjammed, hblocked hdown⟩

end AdbHub
