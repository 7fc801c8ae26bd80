import AdbHub.Relay.Shared

/-!
# What the relay of a private stream delivers

`forward_private` ends at the first end it reads, and so does the stream task; either tears down the
other direction with it.

* `PrivateRelay.Completes` — an end is read only when everything of the other direction is written.
* `PrivateRelay.Intact` — nothing is lost; **`Intact.step`**: every step that completes keeps it.
* `PrivateRelay.Lost` — something never arrives; **`run_or_lost`**: in every run one of the two.
* **`private_relay_delivers_iff`** — the private relay delivers what the shared one does exactly in
  the runs all of whose steps complete, and in all its runs exactly if no end shuts down its sending
  side while the other has anything to send.
-/

namespace AdbHub

open Lib

namespace PrivateRelay

variable {r : RelaySetting} {s t : PrivateRelay} {e : RelayEvent} {as : List RelayEvent}

/-- An end is read only when everything that goes the other way has been written. -/
def Completes (s : PrivateRelay) : RelayEvent → Prop
  | .clientEof => s.down.rest = []
  | .upstreamEof => s.up.rest = []
  | _ => True

/-! ## Nothing is lost -/

/-- Both lanes are intact. -/
structure Intact (r : RelaySetting) (s : PrivateRelay) : Prop where
  up : s.up.Intact r.up r.fromClient s.session.isRelaying s.session.hasClosed s.task.isRelaying
  down : s.down.Intact r.down r.fromUpstream s.task.isRelaying s.task.hasClosed
    s.session.isRelaying
  clientShut : s.clientShut = true → r.clientShuts = true ∧ s.up.todo = []
  upstreamShut : s.upstreamShut = true → r.upstreamShuts = true ∧ s.down.todo = []

theorem intact_start : (start r).Intact r where
  up := Lane.intact_start r.fromClient
  down := Lane.intact_start r.fromUpstream
  clientShut h := nomatch h
  upstreamShut h := nomatch h

/-- The source has sent everything of which nothing is left. -/
theorem source_of_rest {l : Lane UInt8} (h : l.rest = []) : l.source = [] ∧ l.todo = [] := by
  unfold Lane.rest at h
  rw [List.append_eq_nil_iff, List.append_eq_nil_iff] at h
  exact ⟨h.1.2, h.2⟩

/-- **Every step** that completes loses nothing. -/
theorem Intact.step (hs : s.Intact r) (hc : s.Completes e) (h : s.step r e = some t) :
    t.Intact r := by
  have hup := hs.up
  have hdown := hs.down
  cases moves_of_step h with
  | @up a l hmay hstep =>
      refine { hs with up := hup.step (brings_of_mayUp hmay) ?_ hstep, clientShut := ?_ }
      · rintro n rfl
        have hsession : s.session = .relaying := hmay.1
        rw [hsession]
        rfl
      · exact fun hshut => (hs.clientShut hshut).imp_right (Lane.todo_eq_nil_step hstep)
  | @down a l hmay hstep =>
      refine { hs with down := hdown.step (brings_of_mayDown hmay) ?_ hstep, upstreamShut := ?_ }
      · rintro n rfl
        have htask : s.task = .relaying := hmay
        rw [htask]
        rfl
      · exact fun hshut => (hs.upstreamShut hshut).imp_right (Lane.todo_eq_nil_step hstep)
  | clientShuts hshuts hshut htodo => exact { hs with clientShut := fun _ => ⟨hshuts, htodo⟩ }
  | upstreamShuts hshuts hshut htodo => exact { hs with upstreamShut := fun _ => ⟨hshuts, htodo⟩ }
  | clientEof hselect hshut hsource =>
      rw [hselect.1] at hup hdown
      exact { hs with
        up := hup.leaveWriter ⟨hsource, (hs.clientShut hshut).2⟩
        down := hdown.leaveReader hc }
  | queueEnded hselect hopen hqueue =>
      rw [hselect.1] at hup hdown
      -- the queue was given up, so the stream task has left and has written everything
      obtain ⟨hbehind, hleft⟩ := hdown.ended hopen
      have hrest : s.down.rest = [] := by
        rw [Lane.rest_eq, hselect.2.2, hqueue, hbehind]
        rfl
      exact { hs with
        up := hup.leaveWriter (source_of_rest (hup.received (hleft.resolve_right (by decide))))
        down := hdown.leaveReader hrest }
  | sessionRemoves hsession hwait =>
      rw [hsession] at hup hdown
      exact { hs with up := hup, down := hdown.unregister }
  | sessionCloses hsession hstep =>
      rw [hsession] at hup hdown
      refine { hs with up := hup.close hstep, down := hdown, clientShut := ?_ }
      exact fun hshut => (hs.clientShut hshut).imp_right (Lane.todo_eq_nil_step hstep)
  | sessionReturns hsession hput =>
      rw [hsession] at hup hdown
      exact { hs with up := hup, down := hdown.drop }
  | upstreamEof htask hput hshut hsource =>
      rw [htask] at hup hdown
      exact { hs with
        up := hup.leaveReader hc
        down := hdown.leaveWriter ⟨hsource, (hs.upstreamShut hshut).2⟩ }
  | streamEnded htask hopen hqueue hhand hstep =>
      rw [htask] at hup hdown
      obtain ⟨hbehind, hleft⟩ := hup.ended hopen
      have hrest : s.up.rest = [] := by
        rw [Lane.rest_eq, hhand, hqueue, hbehind]
        rfl
      -- the session has left and has written everything, so `from_up` writes nothing
      have hnone : s.down.rest = [] := hdown.received (hleft.resolve_right (by decide))
      cases Lane.moves_of_step hstep with
      | cut hput =>
          rw [hdown.putting_eq_none hnone] at hput
          cases hput
      | cutNone hput =>
          exact { hs with
            up := hup.leaveReader hrest
            down := hdown.leaveWriter (source_of_rest hnone) }
  | taskRemoves htask hwait =>
      rw [htask] at hup hdown
      exact { hs with up := hup.unregister, down := hdown }
  | taskCloses htask hstep =>
      rw [htask] at hup hdown
      refine { hs with up := hup, down := hdown.close hstep, upstreamShut := ?_ }
      exact fun hshut => (hs.upstreamShut hshut).imp_right (Lane.todo_eq_nil_step hstep)
  | taskReturns htask hput =>
      rw [htask] at hup hdown
      exact { hs with up := hup.drop, down := hdown }

theorem intact_of_run (h : (machine r).Run Completes as s) : s.Intact r :=
  h.invariant intact_start fun _ _ _ hs hc hstep => hs.step hc hstep

/-! ## At rest -/

theorem up_eq_none {a : LaneAction} (h : s.step r (.up a) = none) (hmay : s.MayUp a) :
    s.up.step r.up a = none := by
  rw [step, if_pos hmay] at h
  exact Option.map_eq_none_iff.mp h

theorem down_eq_none {a : LaneAction} (h : s.step r (.down a) = none) (hmay : s.MayDown a) :
    s.down.step r.down a = none := by
  rw [step, if_pos hmay] at h
  exact Option.map_eq_none_iff.mp h

/-- A session that cannot read has nothing to read, or writes to the agent. -/
theorem read_eq_none {n : ℕ} (h : s.step r (.up (.read n)) = none) (hsession : s.session = .relaying)
    (hhand : s.down.hand = []) : s.up.step r.up (.read n) = none := by
  by_cases hput : s.up.putting = none
  · exact up_eq_none h ⟨hsession, hput, hhand⟩
  · rw [Lane.step, if_neg]
    rintro ⟨hisNone, -⟩
    exact hput (Option.isNone_iff_eq_none.mp hisNone)

theorem eq_relaying {phase : RelayPhase} (h : phase.isRelaying = true) : phase = .relaying := by
  cases phase with
  | relaying => rfl
  | leaving | removed | closing | done => cases h

/-- Nothing is left to go up where nothing goes up any more, if the session is not kept from
reading by what it writes to the client. -/
theorem up_rest_of_stands (hs : s.Intact r) (hstands : ∀ a, s.step r (.up a) = none)
    (htask : s.task = .relaying) (hhand : s.session = .relaying → s.down.hand = []) :
    s.up.rest = [] ∧ s.up.sink = [] := by
  refine hs.up.rest_eq_nil (fun a ha hread => up_eq_none (hstands a) ?_) fun hsession n => ?_
  · cases a with
    | close | cut | unregister | drop => exact ha.elim
    | read n => exact absurd rfl (hread n)
    | recv | write n => exact htask
    | _ => exact trivial
  · have hsession := eq_relaying hsession
    exact read_eq_none (hstands (.read n)) hsession (hhand hsession)

/-- Nothing is left to come down where nothing comes down any more, if the session is not kept from
receiving by what it writes to the agent. -/
theorem down_rest_of_stands (hs : s.Intact r) (hstands : ∀ a, s.step r (.down a) = none)
    (hsession : s.session = .relaying) (hput : s.up.putting = none) :
    s.down.rest = [] ∧ s.down.sink = [] := by
  refine hs.down.rest_eq_nil (fun a ha hread => ?_) fun htask n =>
    down_eq_none (hstands (.read n)) (eq_relaying htask)
  cases a with
  | close | cut | unregister | drop => exact ha.elim
  | read n => exact absurd rfl (hread n)
  | write n => exact down_eq_none (hstands (.write n)) hsession
  | recv =>
      rcases hhand : s.down.hand with _ | ⟨b, hand⟩
      · exact down_eq_none (hstands .recv) ⟨hsession, hput, hhand⟩
      · simp [Lane.step, hhand]
  | send n | put n | take n | room | collect n => exact down_eq_none (hstands _) trivial

theorem up_rest_eq_nil (hs : s.Intact r) (hrest : s.AtRest r) :
    s.up.rest = [] ∧ s.up.sink = [] := by
  have hdown := fun a => hrest (.down a)
  have hsink : s.down.sink = [] := Lane.sink_eq_nil fun n => down_eq_none (hdown _) trivial
  rcases htask : s.task.isRelaying with _ | _
  · have hleft := hs.up
    rw [htask] at hleft
    exact ⟨hleft.received rfl, Lane.sink_eq_nil fun n => up_eq_none (hrest _) trivial⟩
  · refine up_rest_of_stands hs (fun a => hrest (.up a)) (eq_relaying htask) fun hsession => ?_
    -- the client reads
    refine (Lane.hand_of_no_write fun n => down_eq_none (hdown (.write n)) hsession).resolve_right ?_
    rw [hsink]
    exact Nat.not_le.mpr r.down.sink_pos

theorem down_rest_eq_nil (hs : s.Intact r) (hrest : s.AtRest r) :
    s.down.rest = [] ∧ s.down.sink = [] := by
  have hdown := fun a => hrest (.down a)
  rcases hsession : s.session.isRelaying with _ | _
  · have hleft := hs.down
    rw [hsession] at hleft
    exact ⟨hleft.received rfl, Lane.sink_eq_nil fun n => down_eq_none (hdown _) trivial⟩
  · have hphase := eq_relaying hsession
    -- everything has gone up, so the session writes nothing
    have hup := hs.up
    rw [hphase] at hup
    exact down_rest_of_stands hs hdown hphase (hup.putting_eq_none (up_rest_eq_nil hs hrest).1)

/-- **At rest** an intact relay has delivered everything, both ways. -/
theorem Intact.delivers (hs : s.Intact r) (hrest : s.AtRest r) :
    s.up.got = r.fromClient ∧ s.down.got = r.fromUpstream := by
  obtain ⟨hup, hupSink⟩ := up_rest_eq_nil hs hrest
  obtain ⟨hdown, hdownSink⟩ := down_rest_eq_nil hs hrest
  refine ⟨?_, ?_⟩
  · rw [← hs.up.content, Lane.content, hup, hupSink, List.append_nil, List.append_nil]
  · rw [← hs.down.content, Lane.content, hdown, hdownSink, List.append_nil, List.append_nil]

/-! ## Something is lost -/

/-- An end has left its relay loop and has not written everything. -/
def Lost (r : RelaySetting) (s : PrivateRelay) : Prop :=
  (s.session.isRelaying = false ∧ s.down.delivered.length < r.fromUpstream.length) ∨
    (s.task.isRelaying = false ∧ s.up.delivered.length < r.fromClient.length)

/-- A session that has left its relay loop has left it for good, and writes nothing. -/
theorem session_left_step (hleft : s.session.isRelaying = false) (h : s.step r e = some t) :
    t.session.isRelaying = false ∧ t.down.delivered = s.down.delivered := by
  cases moves_of_step h with
  | @down a l hmay hstep =>
      refine ⟨hleft, Lane.delivered_step hstep ?_⟩
      rintro n rfl
      have hsession : s.session = .relaying := hmay
      rw [hsession] at hleft
      cases hleft
  | taskCloses htask hstep | streamEnded htask hopen hqueue hhand hstep =>
      exact ⟨hleft, Lane.delivered_step hstep (by simp)⟩
  | clientEof | queueEnded | sessionRemoves | sessionCloses | sessionReturns => exact ⟨rfl, rfl⟩
  | up | clientShuts | upstreamShuts | upstreamEof | taskRemoves | taskReturns => exact ⟨hleft, rfl⟩

theorem task_left_step (hleft : s.task.isRelaying = false) (h : s.step r e = some t) :
    t.task.isRelaying = false ∧ t.up.delivered = s.up.delivered := by
  cases moves_of_step h with
  | @up a l hmay hstep =>
      refine ⟨hleft, Lane.delivered_step hstep ?_⟩
      rintro n rfl
      have htask : s.task = .relaying := hmay
      rw [htask] at hleft
      cases hleft
  | sessionCloses hsession hstep => exact ⟨hleft, Lane.delivered_step hstep (by simp)⟩
  | upstreamEof | streamEnded | taskRemoves | taskCloses | taskReturns => exact ⟨rfl, rfl⟩
  | down | clientShuts | upstreamShuts | clientEof | queueEnded | sessionRemoves
  | sessionReturns => exact ⟨hleft, rfl⟩

/-- **What is lost** stays lost. -/
theorem Lost.step (hs : s.Lost r) (h : s.step r e = some t) : t.Lost r := by
  rcases hs with ⟨hleft, hlost⟩ | ⟨hleft, hlost⟩
  · obtain ⟨hleft', hsame⟩ := session_left_step hleft h
    exact .inl ⟨hleft', hsame ▸ hlost⟩
  · obtain ⟨hleft', hsame⟩ := task_left_step hleft h
    exact .inr ⟨hleft', hsame ▸ hlost⟩

theorem delivered_lt {l : Lane UInt8} {all : Bytes} (hcontent : l.content = all)
    (hrest : l.rest ≠ []) : l.delivered.length < all.length := by
  have hpos := List.length_pos_iff.mpr hrest
  rw [← hcontent, Lane.content_eq, List.length_append]
  omega

/-- A step that does not complete loses something. -/
theorem lost_of_not_completes (hs : s.Intact r) (hc : ¬ s.Completes e) (h : s.step r e = some t) :
    t.Lost r := by
  cases moves_of_step h with
  | clientEof => exact .inl ⟨rfl, delivered_lt hs.down.content hc⟩
  | upstreamEof => exact .inr ⟨rfl, delivered_lt hs.up.content hc⟩
  | _ => exact absurd trivial hc

/-- **In every run** all steps complete, or something is lost. -/
theorem run_or_lost (h : (machine r).Reaches as s) :
    (machine r).Run Completes as s ∨ s.Lost r := by
  unfold Machine.Reaches at h
  induction h with
  | init => exact .inl .init
  | @snoc as s t e hr hc hs ih =>
      rcases ih with hrun | hlost
      · by_cases hcompletes : s.Completes e
        · exact .inl (.snoc hrun hcompletes hs)
        · exact .inr (lost_of_not_completes (intact_of_run hrun) hcompletes hs)
      · exact .inr (hlost.step hs)

/-- What is lost has not arrived. -/
theorem Lost.not_delivered (hs : s.Lost r) :
    ¬ (s.up.got = r.fromClient ∧ s.down.got = r.fromUpstream) := by
  rintro ⟨hup, hdown⟩
  rcases hs with ⟨-, hlost⟩ | ⟨-, hlost⟩
  · rw [Lane.delivered, List.length_append, hdown] at hlost
    omega
  · rw [Lane.delivered, List.length_append, hup] at hlost
    omega

/-- A run at rest has delivered everything exactly if all its steps complete. -/
theorem delivered_iff_run (h : (machine r).Reaches as s) (hrest : s.AtRest r) :
    s.up.got = r.fromClient ∧ s.down.got = r.fromUpstream ↔ (machine r).Run Completes as s := by
  constructor
  · intro hgot
    exact (run_or_lost h).resolve_right fun hlost => hlost.not_delivered hgot
  · intro hrun
    exact (intact_of_run hrun).delivers hrest

/-! ## Exactly the settings in which nothing is ever lost -/

/-- Where no end shuts down its sending side while the other has anything to send, every step
completes. -/
theorem run_of_reaches (hclient : r.clientShuts = true → r.fromUpstream = [])
    (hupstream : r.upstreamShuts = true → r.fromClient = []) (h : (machine r).Reaches as s) :
    (machine r).Run Completes as s := by
  refine (Machine.run_iff_run fun bs u e v hrun hstep => ?_).mp h
  have hs := intact_of_run hrun
  refine iff_of_true trivial ?_
  cases moves_of_step hstep with
  | clientEof hselect hshut hsource =>
      have hcontent := hs.down.content
      rw [hclient (hs.clientShut hshut).1, Lane.content] at hcontent
      exact (List.append_eq_nil_iff.mp hcontent).2
  | upstreamEof htask hput hshut hsource =>
      have hcontent := hs.up.content
      rw [hupstream (hs.upstreamShut hshut).1, Lane.content] at hcontent
      exact (List.append_eq_nil_iff.mp hcontent).2
  | _ => trivial

/-- What is lost in one state is lost in a run that has come to rest. -/
theorem exists_lost_atRest (h : (machine r).Reaches as s) (hs : s.Lost r) :
    ∃ bs t, (machine r).Reaches bs t ∧ t.AtRest r ∧ t.Lost r := by
  obtain ⟨bs, t, hexec, hrest⟩ := exists_atRest r s
  refine ⟨as ++ bs, t, h.append hexec fun _ _ _ => trivial, hrest, ?_⟩
  exact Machine.exec_invariant hexec hs fun _ _ _ _ hs hstep => hs.step hstep

/-- The end of a client that sends first may be read before anything comes down. -/
theorem exists_lost_down (hshuts : r.clientShuts = true) (hne : r.fromUpstream ≠ []) :
    ∃ as s, (machine r).Reaches as s ∧ s.AtRest r ∧ s.Lost r := by
  obtain ⟨as, s, has, hexec, hstands⟩ := (machine r).exists_standing
    (A := fun e => (∃ a, e = .up a) ∨ e = .clientShuts) (fun _ _ _ _ hstep => work_step hstep)
    (start r)
  obtain ⟨hs, hdown, hsession, htask⟩ : s.Intact r ∧ s.down = { todo := r.fromUpstream } ∧
      s.session = .relaying ∧ s.task = .relaying := by
    refine Machine.exec_invariant (I := fun s : PrivateRelay => s.Intact r ∧
      s.down = { todo := r.fromUpstream } ∧ s.session = .relaying ∧ s.task = .relaying) hexec
      ⟨intact_start, rfl, rfl, rfl⟩ ?_
    rintro e he u v ⟨hu, hsame⟩ (hstep : u.step r e = some v)
    rcases has e he with ⟨a, rfl⟩ | rfl
    · refine ⟨hu.step (e := .up a) trivial hstep, ?_⟩
      cases moves_of_step hstep with
      | up => exact hsame
    · refine ⟨hu.step (e := .clientShuts) trivial hstep, ?_⟩
      cases moves_of_step hstep with
      | clientShuts => exact hsame
  have hhand : s.down.hand = [] := by rw [hdown]
  obtain ⟨hrest, -⟩ := up_rest_of_stands hs (fun a => hstands _ (.inl ⟨a, rfl⟩)) htask fun _ => hhand
  obtain ⟨hsource, htodo⟩ := source_of_rest hrest
  have hput : s.up.putting = none := by
    have hup := hs.up
    rw [hsession] at hup
    exact hup.putting_eq_none hrest
  have hshut : s.clientShut = true := by
    by_contra hshut
    have h : s.step r .clientShuts = none := hstands _ (.inr rfl)
    rw [step, if_pos ⟨hshuts, Bool.eq_false_of_not_eq_true hshut, htodo⟩] at h
    cases h
  have hstep : s.step r .clientEof = some { s with session := .leaving } := by
    rw [step, if_pos ⟨⟨hsession, hput, hhand⟩, hshut, hsource⟩]
  have hlost : ¬ s.Completes .clientEof := by
    intro hnil
    have hnil : s.down.rest = [] := hnil
    rw [hdown] at hnil
    exact hne (source_of_rest hnil).2
  have hreach : (machine r).Reaches (as ++ [.clientEof]) _ :=
    .snoc (Machine.reaches_of_exec hexec) trivial hstep
  exact exists_lost_atRest hreach (lost_of_not_completes hs hlost hstep)

/-- The end of an upstream that sends first may be read before anything goes up. -/
theorem exists_lost_up (hshuts : r.upstreamShuts = true) (hne : r.fromClient ≠ []) :
    ∃ as s, (machine r).Reaches as s ∧ s.AtRest r ∧ s.Lost r := by
  obtain ⟨as, s, has, hexec, hstands⟩ := (machine r).exists_standing
    (A := fun e => (∃ a, e = .down a) ∨ e = .upstreamShuts) (fun _ _ _ _ hstep => work_step hstep)
    (start r)
  obtain ⟨hs, hup, hsession, htask⟩ : s.Intact r ∧ s.up = { todo := r.fromClient } ∧
      s.session = .relaying ∧ s.task = .relaying := by
    refine Machine.exec_invariant (I := fun s : PrivateRelay => s.Intact r ∧
      s.up = { todo := r.fromClient } ∧ s.session = .relaying ∧ s.task = .relaying) hexec
      ⟨intact_start, rfl, rfl, rfl⟩ ?_
    rintro e he u v ⟨hu, hsame⟩ (hstep : u.step r e = some v)
    rcases has e he with ⟨a, rfl⟩ | rfl
    · refine ⟨hu.step (e := .down a) trivial hstep, ?_⟩
      cases moves_of_step hstep with
      | down => exact hsame
    · refine ⟨hu.step (e := .upstreamShuts) trivial hstep, ?_⟩
      cases moves_of_step hstep with
      | upstreamShuts => exact hsame
  have hnone : s.up.putting = none := by rw [hup]
  obtain ⟨hrest, -⟩ := down_rest_of_stands hs (fun a => hstands _ (.inl ⟨a, rfl⟩)) hsession hnone
  obtain ⟨hsource, htodo⟩ := source_of_rest hrest
  have hput : s.down.putting = none := by
    have hdown := hs.down
    rw [htask] at hdown
    exact hdown.putting_eq_none hrest
  have hshut : s.upstreamShut = true := by
    by_contra hshut
    have h : s.step r .upstreamShuts = none := hstands _ (.inr rfl)
    rw [step, if_pos ⟨hshuts, Bool.eq_false_of_not_eq_true hshut, htodo⟩] at h
    cases h
  have hstep : s.step r .upstreamEof = some { s with task := .leaving } := by
    rw [step, if_pos ⟨htask, hput, hshut, hsource⟩]
  have hlost : ¬ s.Completes .upstreamEof := by
    intro hnil
    have hnil : s.up.rest = [] := hnil
    rw [hup] at hnil
    exact hne (source_of_rest hnil).2
  have hreach : (machine r).Reaches (as ++ [.upstreamEof]) _ :=
    .snoc (Machine.reaches_of_exec hexec) trivial hstep
  exact exists_lost_atRest hreach (lost_of_not_completes hs hlost hstep)

end PrivateRelay

open PrivateRelay

/-- **What arrives.** A shared relay that has come to rest has delivered everything. No private relay
goes on forever; one that has come to rest has delivered everything exactly if no end was read before
everything that goes the other way had been written. That is so in all its runs exactly if neither
end shuts down its sending side while the other has anything to send. -/
theorem private_relay_delivers_iff (r : RelaySetting) :
    (∀ as s, (SharedRelay.machine r).Reaches as s → (∀ e, s.step r e = none) →
      s.up.got = r.fromClient ∧ s.down.got = r.fromUpstream) ∧
    (∃ n, ∀ as s, (PrivateRelay.machine r).Reaches as s → as.length ≤ n) ∧
    (∀ as s, (PrivateRelay.machine r).Reaches as s → s.AtRest r →
      (s.up.got = r.fromClient ∧ s.down.got = r.fromUpstream ↔
        (PrivateRelay.machine r).Run Completes as s)) ∧
    ((∀ as s, (PrivateRelay.machine r).Reaches as s → s.AtRest r →
      s.up.got = r.fromClient ∧ s.down.got = r.fromUpstream) ↔
        (r.clientShuts = true → r.fromUpstream = []) ∧
          (r.upstreamShuts = true → r.fromClient = [])) := by
  refine ⟨fun as s => SharedRelay.delivers, ⟨_, fun as s => length_le⟩,
    fun as s => delivered_iff_run, ?_⟩
  constructor
  · intro hall
    constructor
    · intro hshuts
      by_contra hne
      obtain ⟨as, s, hreach, hrest, hlost⟩ := exists_lost_down hshuts hne
      exact hlost.not_delivered (hall as s hreach hrest)
    · intro hshuts
      by_contra hne
      obtain ⟨as, s, hreach, hrest, hlost⟩ := exists_lost_up hshuts hne
      exact hlost.not_delivered (hall as s hreach hrest)
  · rintro ⟨hclient, hupstream⟩ as s hreach hrest
    exact (delivered_iff_run hreach hrest).mpr (run_of_reaches hclient hupstream hreach)

/-- A client that shuts down its sending side after the request, and the answer to it. -/
def shutAfterRequest : RelaySetting := .usual [] [79, 75, 65, 89] true false

/-- The end of the client is read first, and nothing of the answer arrives any more. -/
theorem answer_never_arrives :
    ∃ as s, (PrivateRelay.machine shutAfterRequest).Reaches ([.clientShuts, .clientEof] ++ as) s ∧
      s.AtRest shutAfterRequest ∧ s.down.got = [] ∧ shutAfterRequest.fromUpstream ≠ [] := by
  obtain ⟨as, s, hexec, hrest⟩ := exists_atRest shutAfterRequest
    { start shutAfterRequest with clientShut := true, session := .leaving }
  have hreach : (PrivateRelay.machine shutAfterRequest).Reaches [.clientShuts, .clientEof]
      { start shutAfterRequest with clientShut := true, session := .leaving } :=
    Machine.reaches_of_exec rfl
  obtain ⟨-, hdelivered⟩ : s.session.isRelaying = false ∧ s.down.delivered = [] := by
    refine Machine.exec_invariant (I := fun s : PrivateRelay => s.session.isRelaying = false ∧
      s.down.delivered = []) hexec ⟨rfl, rfl⟩ ?_
    rintro e - u v ⟨hleft, hnil⟩ (hstep : u.step shutAfterRequest e = some v)
    exact (session_left_step hleft hstep).imp_right fun hsame => hsame.trans hnil
  exact ⟨as, s, hreach.append hexec fun _ _ _ => trivial, hrest,
    (List.append_eq_nil_iff.mp hdelivered).1, by decide⟩

end AdbHub
