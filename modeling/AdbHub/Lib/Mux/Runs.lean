import AdbHub.Lib.Mux.Invariant

/-!
# Runs of multiplexed streams

* `Mux.Inv.step` — the invariant is kept by every step that takes no id in use.
* **`Mux.got_prefix_sent`** — if ids are taken only while they are unused, what a session got is a
  prefix of what its worker sent, and the other way round.
-/

namespace AdbHub.Lib

namespace Mux

variable {ι β : Type*} [DecidableEq ι] {s t : Mux ι β} {a : MuxAction ι β} {latest : ι → ℕ}
  {k j : ℕ} {x : ι}

/-! ## What a step keeps -/

/-- A step keeps what is in use with the sessions it belongs to. -/
theorem Owned.step (ho : s.Owned latest) (hr : s.Requested) (hc : s.TakesUnused a)
    (h : s.step a = some t) : ∃ latest, t.Owned latest := by
  cases moves_of_step h with
  | take hk => exact ⟨_, ho.take hr hc hk⟩
  | @register k hk =>
      have hlive : s.Live k := by simp [Live, hk]
      have hmoved := ho.setPhase (p := .registered) hlive (by decide)
      refine ⟨latest, hmoved.setTable ?_ ?_⟩ <;> simp [Live]
  | wait hk hgranted => exact ⟨latest, ho.setWaiter (by simp [Live, hk]) (by simp [hk]) hgranted⟩
  | unwait => exact ⟨latest, ho.clearWaiter _⟩
  | @ask k hk =>
      have hlive : s.Live k := by simp [Live, hk]
      have hmoved := ho.setPhase (p := .asked) hlive (by decide)
      have hasked := hmoved.setRequest (r := .sent) (.inl (hr.early _ (.inr (.inr hk))))
        (.inr (by decide))
      refine ⟨latest, hasked.pushUp ?_ rfl⟩
      simp [Live]
  | @send k chunk hk =>
      have hpushed := ho.pushUp (p := .data (s.id k) chunk) (by simp [Live, hk]) rfl
      exact ⟨latest, { hpushed with }⟩
  | unregister => exact ⟨latest, ho.clearTable _⟩
  | @unregisterLast k hk =>
      have hlive : s.Live k := by rcases hk with hk | hk <;> simp [Live, hk]
      exact ⟨latest, (ho.setPhase hlive (by decide)).clearTable _⟩
  | @close k hk =>
      have hlive : s.Live k := by simp [Live, hk]
      exact ⟨latest, (ho.pushUp hlive rfl).setPhase hlive (by decide)⟩
  | leave hk => exact ⟨latest, ho.setPhase hk (by decide)⟩
  | @takeUp k p rest hup hidle =>
      have hmem : (k, p) ∈ s.up := by simp [hup]
      have hpop := ho.popUp hup
      unfold arriveUp
      split
      · rename_i x
        have hsent : s.request k = .sent := hr.sent k x hmem
        obtain ⟨hid, hlast, -⟩ := ho.up k _ hmem
        have hk : latest (s.id k) = k := by rw [← hid, hlast]
        exact ⟨latest, (hpop.setRequest (.inr (.inl hsent)) (.inl hk)).setServing hk⟩
      · split
        · exact ⟨latest, { hpop with }⟩
        · exact ⟨latest, hpop⟩
      · exact ⟨latest, hpop.clearWorkerTable _⟩
      · exact ⟨latest, hpop⟩
  | drop hs => exact ⟨latest, ho.setRequest (.inr (.inr hs)) (.inr (by decide))⟩
  | refuse hs =>
      have hlast := ho.busy (by simp [Idle, hs])
      have hrefused := ho.setRequest (r := .refused) (.inr (.inr hs)) (.inr (by decide))
      refine ⟨latest, hrefused.pushResult (k := s.serving) hlast ?_ ?_⟩ <;> simp
  | accept hs =>
      have hlast := ho.busy (by simp [Idle, hs])
      have haccepted := ho.setRequest (r := .accepted) (.inr (.inr hs)) (.inl hlast)
      refine ⟨latest, haccepted.pushResult (k := s.serving) hlast ?_ ?_⟩ <;> simp
  | spawn hs hj => exact ⟨latest, ho.spawn hr hs hj⟩
  | @workerSend j chunk hj =>
      have hpushed := ho.pushDown (p := .data (s.workerId j) chunk) hj rfl (by simp)
      exact ⟨latest, { hpushed with }⟩
  | workerUnregister => exact ⟨latest, ho.clearWorkerTable _⟩
  | workerClose hj => exact ⟨latest, (ho.pushDown hj rfl (by simp)).endWorker _⟩
  | workerLeave => exact ⟨latest, ho.endWorker _⟩
  | takeDown hdown =>
      have hpop := ho.popDown hdown
      unfold arriveDown
      split
      · exact ⟨latest, hpop.resolve _ _⟩
      · split
        · exact ⟨latest, { hpop with }⟩
        · exact ⟨latest, hpop⟩
      · exact ⟨latest, (hpop.clearTable _).resolve _ _⟩
      · exact ⟨latest, hpop⟩

/-- A step keeps count of how far the requests have come. -/
theorem Requested.step (hr : s.Requested) (ho : s.Owned latest) (ha : s.Announced)
    (h : s.step a = some t) : t.Requested := by
  cases moves_of_step h with
  | @take k x hk =>
      have hunsent : s.request k = .unsent := hr.early k (.inl hk)
      exact
        { hr with
          early := by
            have := hr.early
            grind [Function.update_apply]
          absent := by
            have := hr.absent
            grind [Function.update_apply]
          served := by
            have := hr.served
            grind [Function.update_apply] }
  | @register k hk =>
      have hmoved := hr.setPhase (k := k) (p := .registered) (by simp [hk]) (by simp [hk])
      exact { hmoved with }
  | wait | unwait | unregister | workerUnregister => exact { hr with }
  | ask hk => exact hr.ask hk
  | @send k chunk hk hgranted =>
      have hpushed := hr.pushUp (k := k) (p := .data (s.id k) chunk) (by simp) (by simp [hgranted])
      exact { hpushed with }
  | @unregisterLast k hk =>
      have hmoved := hr.setPhase (k := k) (p := .gone) (by rcases hk with hk | hk <;> simp [hk])
        (by simp)
      exact { hmoved with }
  | @close k hk =>
      have hpushed := hr.pushUp (k := k) (p := .close (s.id k)) (by simp) (by simp)
      exact hpushed.setPhase (by simp [hk]) (by simp)
  | leave hk => exact hr.setPhase hk.1 (by simp)
  | @takeUp k p rest hup hidle =>
      have hpop := hr.popUp hup
      unfold arriveUp
      split
      · exact hr.takeRequest hup hidle
      · split
        · exact { hpop with }
        · exact hpop
      · exact { hpop with }
      · exact hpop
  | drop hs => exact hr.settle hs (.inr rfl)
  | refuse hs => exact { hr.settle hs (.inr rfl) with }
  | accept hs => exact { hr.settle hs (.inl rfl) with }
  | spawn hs hj => exact hr.spawn hs hj
  | workerSend => exact { hr with }
  | @workerClose j => exact { hr.setWorker (j := j) (p := .gone) (by decide) with }
  | @workerLeave j => exact hr.setWorker (by decide)
  | @takeDown w p rest hdown =>
      have hpop : Requested { s with down := rest } := { hr with }
      have hwaiter : ∀ x k, s.waiters x = some k → s.granted k = none ∧ s.phase k ≠ .absent := by
        intro x k hw
        obtain ⟨-, -, hgranted, hk, -⟩ := ho.waiter x k hw
        exact ⟨hgranted, hk⟩
      unfold arriveDown
      split
      · rename_i x ok
        obtain rfl := ho.eq_result hdown
        obtain ⟨ok', hok, hyes, hno⟩ := ho.result (.result x ok) (by simp [hdown])
        obtain rfl : ok = ok' := by injection hok
        apply hpop.resolve
        · exact hwaiter x
        · intro k hw htrue
          rw [← (ho.waiter x k hw).2.1]
          exact hyes htrue
        · intro k hw hfalse
          rw [← (ho.waiter x k hw).2.1]
          exact hno hfalse
      · split
        · exact { hpop with }
        · exact hpop
      · rename_i x
        obtain ⟨j, rfl⟩ := ho.exists_worker hdown (by simp)
        have hnone : s.waiters x = none := ha.waiters_eq_none ho hdown
        have hclear : Requested { s with
          down := rest, table := Function.update s.table x none } := { hpop with }
        apply hclear.resolve <;> simp [hnone]
      · exact hpop

/-- A step keeps the answers ahead. -/
theorem Announced.step (ha : s.Announced) (ho : s.Owned latest) (hr : s.Requested)
    (h : s.step a = some t) : t.Announced := by
  cases moves_of_step h with
  | @take k x hk =>
      have hunsent : s.request k = .unsent := hr.early k (.inl hk)
      constructor
      · have := ha.accepted
        grind [Function.update_apply]
      · have := ha.served
        grind [Function.update_apply]
  | @wait k hk =>
      have hunsent : s.request k = .unsent := hr.early k (.inr (.inr hk))
      constructor
      · have := ha.accepted
        grind [Function.update_apply]
      · have := ha.served
        grind [Function.update_apply]
  | register | send | unregister | unregisterLast | close | leave | workerUnregister
    | workerLeave => exact { ha with }
  | unwait => exact ha.clearWaiter _
  | @ask k => exact { ha.setRequest (k := k) (r := .sent) (by simp) with }
  | @takeUp k p rest hup =>
      unfold arriveUp
      split
      · exact { ha.setRequest (k := k) (r := .taken) (by simp) with }
      · split <;> exact { ha with }
      · exact { ha with }
      · exact { ha with }
  | drop => exact ha.setRequest (by simp)
  | refuse => exact (ha.setRequest (k := s.serving) (r := .refused) (by simp)).pushDown _
  | accept hs =>
      constructor
      · have := ha.accepted
        grind [Function.update_apply]
      · have := (ha.pushDown (none, .result (s.id s.serving) true)).served
        grind [Function.update_apply]
  | @spawn j hs hj =>
      have hnew : ∀ p ∈ s.down, p.1 ≠ some j := by
        rintro ⟨w, p⟩ hp rfl
        obtain ⟨-, hserved, -⟩ := ho.output j p hp
        exact (hr.served _ j hserved).2 hj
      constructor
      · have := ha.accepted
        have := hr.busy
        grind [Function.update_apply]
      · intro k i hserved hw
        by_cases hk : k = s.serving
        · subst hk
          obtain rfl : j = i := by simpa using hserved
          obtain ⟨before, after, hsplit⟩ := List.append_of_mem (ha.accepted _ hs hw)
          refine ⟨before, after, hsplit, fun p hp => hnew p ?_⟩
          rw [hsplit]
          exact List.mem_append_left _ hp
        · exact ha.served k i (by simpa [hk] using hserved) hw
  | workerSend => exact { ha.pushDown _ with }
  | workerClose => exact { ha.pushDown _ with }
  | @takeDown w p rest hdown =>
      unfold arriveDown
      split
      · rename_i x ok
        unfold Mux.resolve
        split
        · exact ha.popDown hdown fun _ _ => by assumption
        · exact { (ha.clearWaiter x).popDown hdown fun _ _ => by simp [Packet.id] with }
      · have hpop := ha.popDown hdown (by simp)
        split
        · exact { hpop with }
        · exact hpop
      · rename_i x
        have hpop := ha.popDown hdown (by simp)
        unfold Mux.resolve
        split
        · exact { hpop with }
        · exact { hpop.clearWaiter x with }
      · exact ha.popDown hdown (by simp)

/-- A step loses nothing and mixes nothing up. -/
theorem Lines.step (hl : s.Lines) (ho : s.Owned latest) (hr : s.Requested)
    (h : s.step a = some t) : t.Lines := by
  cases moves_of_step h with
  | @take k x hk =>
      have hunsent : s.request k = .unsent := hr.early k (.inl hk)
      exact
        { hl with
          down := by
            have := hl.down
            grind [Function.update_apply] }
  | @register k hk =>
      have hunsent : s.request k = .unsent := hr.early k (.inr (.inl hk))
      exact
        { hl with
          down := by
            have := hl.down
            have := hr.served
            grind [Function.update_apply] }
  | wait | unwait | leave => exact { hl with }
  | unregister => exact hl.clearTable _
  | unregisterLast => exact { hl.clearTable _ with }
  | workerUnregister => exact hl.clearWorkerTable _
  | @ask k hk =>
      have hunsent : s.request k = .unsent := hr.early k (.inr (.inr hk))
      have hasked := hl.setRequest (k := k) (r := .sent) (by simp [hunsent]) (by simp)
      exact { hasked.pushUp (k := k) (p := .request (s.id k)) rfl with }
  | @send k chunk hk hgranted =>
      exact
        { hl with
          workerGot := by
            intro k' j hserved
            have := hl.workerGot k' j hserved
            by_cases hk' : k' = k
            · subst hk'
              simpa using this.trans (List.prefix_append _ _)
            · simpa [hk'] using this
          up := by
            have := hl.up
            grind [dataOf_append, dataOf_cons, dataOf_nil, Function.update_apply, Packet.chunk]
          pending := by
            have := hl.pending
            grind [dataOf_append, dataOf_cons, dataOf_nil, Function.update_apply, Packet.chunk] }
  | close => exact { hl.pushUp rfl with }
  | @takeUp k p rest hup hidle =>
      cases p with
      | request x =>
          have hsent : s.request k = .sent := hr.sent k x (by simp [hup])
          have hpop := hl.popUp hup rfl
          exact { hpop.setRequest (k := k) (r := .taken) (by simp [hsent]) (by simp) with }
      | data x c => exact hl.arriveData_up ho hr hup hidle
      | close x => exact (hl.popUp hup rfl).clearWorkerTable x
      | result x ok => exact hl.popUp hup rfl
  | drop hs => exact hl.setRequest (by simp [hs]) (by simp)
  | refuse hs =>
      have hrefused := hl.setRequest (k := s.serving) (r := .refused) (by simp [hs]) (by simp)
      exact hrefused.pushDown rfl
  | accept hs =>
      have haccepted := hl.setRequest (k := s.serving) (r := .accepted) (by simp [hs]) (by simp)
      exact haccepted.pushDown rfl
  | @spawn j hs hj =>
      have hnew : ∀ k, s.request k ≠ .served j := fun k hk => (hr.served k j hk).2 hj
      have hdown : dataOf (some j) s.down = [] := by
        apply dataOf_eq_nil
        rintro ⟨w, p⟩ hp rfl
        exact hnew _ (ho.output j p hp).2.1
      obtain ⟨hsent, hgot⟩ := hl.absent j hj
      have hnothing := hl.nothing s.serving (by simp [hs])
      have hpending := hl.pending s.serving (by simp [hs])
      exact
        { hl with
          got := by
            have := hl.got
            grind [Function.update_apply]
          down := by
            have := hl.down
            grind [Function.update_apply]
          nothing := by
            have := hl.nothing
            grind [Function.update_apply]
          workerGot := by
            have := hl.workerGot
            grind [Function.update_apply]
          up := by
            have := hl.up
            grind [Function.update_apply]
          pending := by
            have := hl.pending
            grind [Function.update_apply]
          absent := by
            have := hl.absent
            grind [Function.update_apply] }
  | @workerSend j chunk hj =>
      exact
        { hl with
          got := by
            intro k i hserved
            have := hl.got k i hserved
            by_cases hi : i = j
            · subst hi
              simpa using this.trans (List.prefix_append _ _)
            · simpa [hi] using this
          down := by
            have := hl.down
            grind [dataOf_append, dataOf_cons, dataOf_nil, Function.update_apply, Packet.chunk]
          absent := by
            have := hl.absent
            grind [Function.update_apply] }
  | workerClose => exact { (hl.pushDown rfl).endWorker _ with }
  | workerLeave => exact hl.endWorker _
  | @takeDown w p rest hdown =>
      cases p with
      | request x => exact hl.popDown hdown rfl
      | data x c => exact hl.arriveData_down ho hr hdown
      | close x => exact ((hl.popDown hdown rfl).clearTable x).resolve x false
      | result x ok => exact (hl.popDown hdown rfl).resolve x ok

/-! ## Runs -/

theorem Inv.step (hi : s.Inv) (hc : s.TakesUnused a) (h : s.step a = some t) : t.Inv := by
  obtain ⟨latest, ho⟩ := hi.owned
  exact
    { owned := ho.step hi.requested hc h
      requested := hi.requested.step ho hi.announced h
      announced := hi.announced.step ho hi.requested h
      lines := hi.lines.step ho hi.requested h }

theorem inv_of_run {actions : List (MuxAction ι β)}
    (h : (machine β x).Run TakesUnused actions s) : s.Inv :=
  h.invariant (inv_start x) fun _ _ _ hi hc hs => hi.step hc hs

/-- **Nothing is reordered, repeated or delivered to another stream.** If ids are taken only while
they are unused, what a session got is a prefix of what its worker sent, and what a worker got is a
prefix of what its session sent; a session without a worker got nothing, and no worker serves a
session that was refused. -/
theorem got_prefix_sent {actions : List (MuxAction ι β)}
    (h : (machine β x).Run TakesUnused actions s) (k : ℕ) :
    (∀ j, s.request k = .served j → s.got k <+: s.workerSent j ∧ s.workerGot j <+: s.sent k ∧
        s.granted k ≠ some false) ∧
      ((∀ j, s.request k ≠ .served j) → s.got k = []) := by
  have hi := inv_of_run h
  refine ⟨fun j hj => ⟨hi.lines.got k j hj, hi.lines.workerGot k j hj, fun hno => ?_⟩,
    hi.lines.nothing k⟩
  have := hi.requested.no k hno
  rw [hj] at this
  simp at this

/-! ## Sessions and workers that are not there -/

theorem absent_update {α : Type*} [DecidableEq α] {f : ℕ → α} {absent p : α} {i : ℕ}
    (hk : f k = absent) (hi : f i ≠ absent) : Function.update f i p k = absent := by
  rwa [Function.update_of_ne]
  rintro rfl
  exact hi hk

/-- Only by taking an id does a session come about. -/
theorem phase_absent (h : s.step a = some t) (hk : s.phase k = .absent)
    (ha : ∀ x, a ≠ .take k x) : t.phase k = .absent := by
  cases moves_of_step h with
  | @take i x hi =>
      have hne : k ≠ i := by
        rintro rfl
        exact ha x rfl
      simpa [hne] using hk
  | register hi | ask hi | close hi => exact absent_update hk (by simp [hi])
  | unregisterLast hi => exact absent_update hk (by rcases hi with hi | hi <;> simp [hi])
  | leave hi => exact absent_update hk hi.1
  | @takeUp i p rest =>
      obtain ⟨_, _, _, _, heq⟩ := arriveUp_eq { s with up := rest } i p
      rwa [heq]
  | @takeDown w p rest =>
      obtain ⟨_, _, _, _, heq⟩ := arriveDown_eq { s with down := rest } p
      rwa [heq]
  | _ => exact hk

/-- Only by a request that is accepted does a worker come about. -/
theorem worker_absent (h : s.step a = some t) (hj : s.worker j = .absent) (ha : a ≠ .spawn j) :
    t.worker j = .absent := by
  cases moves_of_step h with
  | @spawn i hs hi =>
      have hne : j ≠ i := by
        rintro rfl
        exact ha rfl
      simpa [hne] using hj
  | workerClose hi | workerLeave hi => exact absent_update hj (by simp [hi])
  | @takeUp i p rest =>
      obtain ⟨_, _, _, _, heq⟩ := arriveUp_eq { s with up := rest } i p
      rwa [heq]
  | @takeDown w p rest =>
      obtain ⟨_, _, _, _, heq⟩ := arriveDown_eq { s with down := rest } p
      rwa [heq]
  | _ => exact hj

end Mux

end AdbHub.Lib
