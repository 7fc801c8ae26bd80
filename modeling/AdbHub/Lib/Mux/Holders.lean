import AdbHub.Lib.Mux.Machine

/-!
# Who holds an id

* `Mux.Traced` — what is in use under an id goes back to a session that took the id, however often
  ids are taken again.
* `Mux.Holds` — what is left of the stream of a session.
* **`Mux.held_iff`** — an id is held iff something is left of the stream of a session that took it.
-/

namespace AdbHub.Lib

namespace Mux

variable {ι β : Type*}

/-! ## Where the entries come from -/

/-- The session whose request a packet is. -/
def asker (p : ℕ × Packet ι β) : Option ℕ :=
  match p.2 with
  | .request _ => some p.1
  | _ => none

/-- The sessions whose requests are on their way. -/
def asking (s : Mux ι β) : List ℕ := s.up.filterMap asker

/-- A session has not sent its request. -/
def Unasked (s : Mux ι β) (k : ℕ) : Prop :=
  s.phase k = .absent ∨ s.phase k = .named ∨ s.phase k = .registered

/-- Everything in use under an id goes back to a session that took it. -/
structure Traced (s : Mux ι β) : Prop where
  unasked : ∀ k, s.Unasked k → s.request k = .unsent
  sent : ∀ k ∈ s.asking, s.request k = .sent
  once : s.asking.Nodup
  table : ∀ x k, s.table x = some k → s.id k = x ∧ s.phase k ≠ .absent
  waiter : ∀ x k, s.waiters x = some k → s.id k = x ∧ s.phase k ≠ .absent
  served : ∀ k j, s.request k = .served j → s.workerId j = s.id k ∧ s.worker j ≠ .absent
  worker : ∀ j, s.worker j ≠ .absent → ∃ k, s.request k = .served j
  workerTable : ∀ x j, s.workerTable x = some j → s.workerId j = x ∧ s.worker j ≠ .absent

variable {s t : Mux ι β} {a : MuxAction ι β} {k j : ℕ} {x : ι}

theorem traced_start (x : ι) : (start x : Mux ι β).Traced := by
  constructor <;> simp [start, asking]

/-- Who is not there has sent nothing. -/
theorem Traced.there (ht : s.Traced) (hk : s.request k ≠ .unsent) : s.phase k ≠ .absent := by
  intro habsent
  exact hk (ht.unasked k (.inl habsent))

/-- A step that takes no id, sends, takes up or answers no request, and enters nobody. -/
theorem Traced.keep (ht : s.Traced) (hunasked : ∀ k, t.Unasked k → s.Unasked k)
    (habsent : ∀ k, t.phase k = .absent → s.phase k = .absent) (hid : t.id = s.id)
    (hasking : t.asking.Sublist s.asking) (hrequest : t.request = s.request)
    (htable : ∀ x k, t.table x = some k → s.table x = some k)
    (hwaiter : ∀ x k, t.waiters x = some k → s.waiters x = some k)
    (hworker : ∀ j, t.worker j = .absent ↔ s.worker j = .absent)
    (hworkerId : t.workerId = s.workerId)
    (hworkerTable : ∀ x j, t.workerTable x = some j → s.workerTable x = some j) : t.Traced where
  unasked k hk := by
    rw [hrequest]
    exact ht.unasked k (hunasked k hk)
  sent k hk := by
    rw [hrequest]
    exact ht.sent k (hasking.subset hk)
  once := ht.once.sublist hasking
  table x k hk := by
    obtain ⟨hx, hthere⟩ := ht.table x k (htable x k hk)
    exact ⟨hid ▸ hx, fun hgone => hthere (habsent k hgone)⟩
  waiter x k hk := by
    obtain ⟨hx, hthere⟩ := ht.waiter x k (hwaiter x k hk)
    exact ⟨hid ▸ hx, fun hgone => hthere (habsent k hgone)⟩
  served k j hk := by
    rw [hrequest] at hk
    obtain ⟨hx, hthere⟩ := ht.served k j hk
    exact ⟨hworkerId ▸ hid ▸ hx, fun hgone => hthere ((hworker j).mp hgone)⟩
  worker j hj := by
    rw [hrequest]
    exact ht.worker j fun hgone => hj ((hworker j).mpr hgone)
  workerTable x j hj := by
    obtain ⟨hx, hthere⟩ := ht.workerTable x j (hworkerTable x j hj)
    exact ⟨hworkerId ▸ hx, fun hgone => hthere ((hworker j).mp hgone)⟩

/-- A session takes an id. -/
theorem Traced.take [DecidableEq ι] (ht : s.Traced) (hk : s.phase k = .absent) (x : ι) :
    Traced { s with
      phase := Function.update s.phase k .named
      id := Function.update s.id k x } := by
  have hother : ∀ i, s.phase i ≠ .absent → i ≠ k := by
    rintro i hi rfl
    exact hi hk
  have hmoved : ∀ {i y}, s.id i = y → s.phase i ≠ .absent →
      Function.update s.id k x i = y ∧ Function.update s.phase k .named i ≠ .absent := by
    intro i y hy hi
    rw [Function.update_of_ne (hother i hi), Function.update_of_ne (hother i hi)]
    exact ⟨hy, hi⟩
  refine { ht with unasked := ?_, table := ?_, waiter := ?_, served := ?_ }
  · intro i hi
    by_cases hik : i = k
    · rw [hik]
      exact ht.unasked k (.inl hk)
    · refine ht.unasked i ?_
      simpa [Unasked, hik] using hi
  · intro y i hi
    obtain ⟨hy, hthere⟩ := ht.table y i hi
    exact hmoved hy hthere
  · intro y i hi
    obtain ⟨hy, hthere⟩ := ht.waiter y i hi
    exact hmoved hy hthere
  · intro i j hi
    obtain ⟨hy, hthere⟩ := ht.served i j hi
    have hne : s.request i ≠ .unsent := by
      rw [show s.request i = .served j from hi]
      exact Request.noConfusion
    exact ⟨hy.trans (hmoved rfl (ht.there hne)).1.symm, hthere⟩

/-- A session enters itself under its id. -/
theorem Traced.setTable [DecidableEq ι] (ht : s.Traced) (hk : s.phase k ≠ .absent) :
    Traced { s with table := Function.update s.table (s.id k) (some k) } := by
  refine { ht with table := ?_ }
  intro y i hi
  have hi : Function.update s.table (s.id k) (some k) y = some i := hi
  by_cases hy : y = s.id k
  · rw [hy, Function.update_self] at hi
    obtain rfl := Option.some.inj hi
    exact ⟨hy.symm, hk⟩
  · rw [Function.update_of_ne hy] at hi
    exact ht.table y i hi

@[inherit_doc Traced.setTable]
theorem Traced.setWaiter [DecidableEq ι] (ht : s.Traced) (hk : s.phase k ≠ .absent) :
    Traced { s with waiters := Function.update s.waiters (s.id k) (some k) } := by
  refine { ht with waiter := ?_ }
  intro y i hi
  have hi : Function.update s.waiters (s.id k) (some k) y = some i := hi
  by_cases hy : y = s.id k
  · rw [hy, Function.update_self] at hi
    obtain rfl := Option.some.inj hi
    exact ⟨hy.symm, hk⟩
  · rw [Function.update_of_ne hy] at hi
    exact ht.waiter y i hi

/-- A request that nobody serves moves on. -/
theorem Traced.setRequest (ht : s.Traced) (hk : ¬ s.Unasked k) {r : Request}
    (hold : ∀ j, s.request k ≠ .served j) (hnew : ∀ j, r ≠ .served j)
    (hway : k ∈ s.asking → r = .sent) :
    Traced { s with request := Function.update s.request k r } := by
  have hother : ∀ {i j}, Function.update s.request k r i = .served j → i ≠ k := by
    rintro i j hi rfl
    rw [Function.update_self] at hi
    exact hnew j hi
  refine { ht with unasked := ?_, sent := ?_, served := ?_, worker := ?_ }
  · intro i hi
    have hne : i ≠ k := by
      rintro rfl
      exact hk hi
    exact (Function.update_of_ne hne _ _).trans (ht.unasked i hi)
  · intro i hi
    by_cases hik : i = k
    · rw [hik]
      exact (Function.update_self ..).trans (hway (hik ▸ hi))
    · exact (Function.update_of_ne hik _ _).trans (ht.sent i hi)
  · intro i j hi
    refine ht.served i j ?_
    rwa [← Function.update_of_ne (hother hi) r s.request]
  · intro j hj
    obtain ⟨i, hi⟩ := ht.worker j hj
    have hne : i ≠ k := by
      rintro rfl
      exact hold j hi
    exact ⟨i, (Function.update_of_ne hne _ _).trans hi⟩

/-- A session sends its request. -/
theorem Traced.ask (ht : s.Traced) (hk : s.phase k = .registered) : Traced { s with
    phase := Function.update s.phase k .asked
    request := Function.update s.request k .sent
    up := s.up ++ [(k, .request (s.id k))] } := by
  have hunsent : s.request k = .unsent := ht.unasked k (.inr (.inr hk))
  have hnot : k ∉ s.asking := by
    intro hmem
    have hsent := ht.sent k hmem
    rw [hunsent] at hsent
    cases hsent
  -- the session has moved before its request does
  have hmoved : Traced { s with phase := Function.update s.phase k .asked } := by
    refine ht.keep (fun i hi => ?_) (fun i hi => ?_) rfl (List.Sublist.refl _) rfl
      (fun _ _ h => h) (fun _ _ h => h) (fun _ => Iff.rfl) rfl fun _ _ h => h
    · by_cases hik : i = k
      · subst hik
        simp [Unasked] at hi
      · simpa [Unasked, hik] using hi
    · by_cases hik : i = k
      · subst hik
        simp at hi
      · simpa [hik] using hi
  have hasked := hmoved.setRequest (k := k) (r := .sent) (by simp [Unasked])
    (fun j hj => by
      rw [show s.request k = .served j from hj] at hunsent
      cases hunsent)
    (fun _ => Request.noConfusion) fun _ => rfl
  have hasking : (asking { s with up := s.up ++ [(k, .request (s.id k))] }) = s.asking ++ [k] := by
    simp [asking, asker]
  refine { hasked with sent := ?_, once := ?_ }
  · intro i hi
    have hi : i ∈ s.asking ++ [k] := hasking ▸ hi
    rcases List.mem_append.mp hi with hold | hnew
    · exact hasked.sent i hold
    · rw [List.mem_singleton.mp hnew]
      exact Function.update_self ..
  · have honce : (s.asking ++ [k]).Nodup := by
      rw [List.nodup_append]
      refine ⟨ht.once, List.nodup_singleton k, ?_⟩
      rintro i hi _ hj rfl
      rw [List.mem_singleton.mp hj] at hi
      exact hnot hi
    rwa [← hasking] at honce

/-- The request of a session is taken up. -/
theorem Traced.takeRequest (ht : s.Traced) {rest : List (ℕ × Packet ι β)}
    (hup : s.up = (k, .request x) :: rest) : Traced { s with
    up := rest, request := Function.update s.request k .taken, serving := k } := by
  have hasking : s.asking = k :: asking { s with up := rest } := by
    simp [asking, hup, asker]
  have hsent : s.request k = .sent := ht.sent k (by rw [hasking]; exact List.mem_cons_self)
  have honce := ht.once
  rw [hasking, List.nodup_cons] at honce
  have hpopped : Traced { s with up := rest, serving := k } := by
    refine ht.keep (fun _ h => h) (fun _ h => h) rfl ?_ rfl (fun _ _ h => h) (fun _ _ h => h)
      (fun _ => Iff.rfl) rfl fun _ _ h => h
    rw [hasking]
    exact List.sublist_cons_self ..
  refine hpopped.setRequest (k := k) (fun hunasked => ?_) (fun j hj => ?_)
    (fun _ => Request.noConfusion) fun hmem => absurd hmem honce.1
  · rw [ht.unasked k hunasked] at hsent
    cases hsent
  · rw [show s.request k = .served j from hj] at hsent
    cases hsent

/-- The request that was taken up is answered or dropped. -/
theorem Traced.settle (ht : s.Traced) (hs : s.request s.serving = .taken) {r : Request}
    (hr : ∀ j, r ≠ .served j) :
    Traced { s with request := Function.update s.request s.serving r } := by
  refine ht.setRequest (fun hunasked => ?_) (fun j hj => ?_) hr fun hmem => ?_
  · rw [ht.unasked _ hunasked] at hs
    cases hs
  · rw [hj] at hs
    cases hs
  · rw [ht.sent _ hmem] at hs
    cases hs

/-- An accepted request is served. -/
theorem Traced.spawn [DecidableEq ι] (ht : s.Traced) (hs : s.request s.serving = .accepted)
    (hj : s.worker j = .absent) : Traced { s with
      request := Function.update s.request s.serving (.served j)
      worker := Function.update s.worker j .live
      workerId := Function.update s.workerId j (s.id s.serving)
      workerTable := Function.update s.workerTable (s.id s.serving) (some j) } := by
  -- the workers that were there stay what they were
  have hother : ∀ {i y}, s.workerId i = y → s.worker i ≠ .absent →
      Function.update s.workerId j (s.id s.serving) i = y ∧
        Function.update s.worker j .live i ≠ .absent := by
    intro i y hy hi
    have hne : i ≠ j := by
      rintro rfl
      exact hi hj
    rw [Function.update_of_ne hne, Function.update_of_ne hne]
    exact ⟨hy, hi⟩
  have hnew : Function.update s.workerId j (s.id s.serving) j = s.id s.serving ∧
      Function.update s.worker j .live j ≠ .absent := by
    simp
  have hserving : ∀ {i r}, s.request i = r → r ≠ .accepted →
      Function.update s.request s.serving (.served j) i = r := by
    intro i r hi hr
    refine (Function.update_of_ne ?_ _ _).trans hi
    rintro rfl
    exact hr (hi.symm.trans hs)
  refine { ht with unasked := ?_, sent := ?_, served := ?_, worker := ?_, workerTable := ?_ }
  · intro i hi
    exact hserving (ht.unasked i hi) Request.noConfusion
  · intro i hi
    exact hserving (ht.sent i hi) Request.noConfusion
  · intro i j' hi
    by_cases his : i = s.serving
    · have hi : Function.update s.request s.serving (.served j) i = .served j' := hi
      rw [his, Function.update_self] at hi
      obtain rfl := Request.served.inj hi
      rw [his]
      exact hnew
    · obtain ⟨hid, hthere⟩ := ht.served i j' ((Function.update_of_ne his _ _).symm.trans hi)
      exact hother hid hthere
  · intro i hi
    by_cases hij : i = j
    · exact ⟨s.serving, hij ▸ Function.update_self ..⟩
    · obtain ⟨k, hk⟩ := ht.worker i fun hgone => hi ((Function.update_of_ne hij _ _).trans hgone)
      exact ⟨k, hserving hk Request.noConfusion⟩
  · intro y i hi
    have hi : Function.update s.workerTable (s.id s.serving) (some j) y = some i := hi
    by_cases hy : y = s.id s.serving
    · rw [hy, Function.update_self] at hi
      obtain rfl := Option.some.inj hi
      rw [hy]
      exact hnew
    · rw [Function.update_of_ne hy] at hi
      obtain ⟨hid, hthere⟩ := ht.workerTable y i hi
      exact hother hid hthere

/-! ## Runs -/

theorem update_none [DecidableEq ι] {f : ι → Option ℕ} {y : ι}
    (h : Function.update f x none y = some k) : f y = some k := by
  by_cases hy : y = x
  · rw [hy, Function.update_self] at h
    cases h
  · rwa [Function.update_of_ne hy] at h

/-- A session that has sent its request or returned, and moves on. -/
theorem Traced.move (ht : s.Traced) {p : SessionPhase} (hk : s.phase k ≠ .absent)
    (hp : p = .gone ∨ p = .registered ∧ s.phase k = .named) :
    Traced { s with phase := Function.update s.phase k p } := by
  refine ht.keep (fun i hi => ?_) (fun i hi => ?_) rfl (List.Sublist.refl _) rfl (fun _ _ h => h)
    (fun _ _ h => h) (fun _ => Iff.rfl) rfl fun _ _ h => h
  · by_cases hik : i = k
    · subst hik
      rcases hp with rfl | ⟨rfl, hnamed⟩
      · simp [Unasked] at hi
      · exact .inr (.inl hnamed)
    · simpa [Unasked, hik] using hi
  · by_cases hik : i = k
    · subst hik
      rcases hp with rfl | ⟨rfl, -⟩ <;> simp at hi
    · simpa [hik] using hi

/-- A session or worker sends something other than a request, or something is taken up. -/
theorem Traced.packets (ht : s.Traced) {up : List (ℕ × Packet ι β)}
    (hup : (up.filterMap asker).Sublist s.asking) : Traced { s with up := up } :=
  ht.keep (fun _ h => h) (fun _ h => h) rfl hup rfl (fun _ _ h => h) (fun _ _ h => h)
    (fun _ => Iff.rfl) rfl fun _ _ h => h

theorem Traced.endWorker (ht : s.Traced) (hj : s.worker j ≠ .absent) :
    Traced { s with worker := Function.update s.worker j .gone } := by
  refine ht.keep (fun _ h => h) (fun _ h => h) rfl (List.Sublist.refl _) rfl (fun _ _ h => h)
    (fun _ _ h => h) (fun i => ?_) rfl fun _ _ h => h
  by_cases hij : i = j
  · subst hij
    simp [hj]
  · simp [hij]

theorem Traced.clearTable [DecidableEq ι] (ht : s.Traced) (x : ι) :
    Traced { s with table := Function.update s.table x none } :=
  ht.keep (fun _ h => h) (fun _ h => h) rfl (List.Sublist.refl _) rfl (fun _ _ => update_none)
    (fun _ _ h => h) (fun _ => Iff.rfl) rfl fun _ _ h => h

theorem Traced.clearWaiter [DecidableEq ι] (ht : s.Traced) (x : ι) :
    Traced { s with waiters := Function.update s.waiters x none } :=
  ht.keep (fun _ h => h) (fun _ h => h) rfl (List.Sublist.refl _) rfl (fun _ _ h => h)
    (fun _ _ => update_none) (fun _ => Iff.rfl) rfl fun _ _ h => h

theorem Traced.clearWorkerTable [DecidableEq ι] (ht : s.Traced) (x : ι) :
    Traced { s with workerTable := Function.update s.workerTable x none } :=
  ht.keep (fun _ h => h) (fun _ h => h) rfl (List.Sublist.refl _) rfl (fun _ _ h => h)
    (fun _ _ h => h) (fun _ => Iff.rfl) rfl fun _ _ => update_none

theorem Traced.resolve [DecidableEq ι] (ht : s.Traced) (x : ι) (ok : Bool) :
    (s.resolve x ok).Traced := by
  unfold Mux.resolve
  split
  · exact ht
  · exact { ht.clearWaiter x with }

section Steps

variable [DecidableEq ι]

/-- A step keeps what is in use with the sessions it goes back to. -/
theorem Traced.step (ht : s.Traced) (h : s.step a = some t) : t.Traced := by
  cases moves_of_step h with
  | @take k x hk => exact ht.take hk x
  | @register k hk =>
      have hmoved := ht.move (k := k) (p := .registered) (by simp [hk]) (.inr ⟨rfl, hk⟩)
      exact hmoved.setTable (k := k) (by simp)
  | wait hk => exact ht.setWaiter (by simp [hk])
  | unwait => exact ht.clearWaiter _
  | ask hk => exact ht.ask hk
  | send => exact { ht.packets (by simp [asking, asker]) with }
  | unregister => exact ht.clearTable _
  | unregisterLast hk =>
      exact (ht.move (by rcases hk with hk | hk <;> simp [hk]) (.inl rfl)).clearTable _
  | @close k hk =>
      have hpushed : Traced { s with up := s.up ++ [(k, .close (s.id k))] } :=
        ht.packets (by simp [asking, asker])
      exact hpushed.move (k := k) (by simp [hk]) (.inl rfl)
  | leave hk => exact ht.move hk.1 (.inl rfl)
  | @takeUp k p rest hup =>
      have hpop : Traced { s with up := rest } := by
        refine ht.packets ?_
        unfold asking
        rw [hup]
        exact (List.sublist_cons_self (k, p) rest).filterMap _
      unfold arriveUp
      split
      · exact ht.takeRequest hup
      · split
        · exact { hpop with }
        · exact hpop
      · exact hpop.clearWorkerTable _
      · exact hpop
  | drop hs => exact ht.settle hs fun _ => Request.noConfusion
  | refuse hs =>
      have hsettled := ht.settle (r := .refused) hs fun _ => Request.noConfusion
      exact { hsettled with }
  | accept hs =>
      have hsettled := ht.settle (r := .accepted) hs fun _ => Request.noConfusion
      exact { hsettled with }
  | spawn hs hj => exact ht.spawn hs hj
  | workerSend => exact { ht with }
  | workerUnregister => exact ht.clearWorkerTable _
  | workerClose hj =>
      have hended := ht.endWorker (by rw [hj]; decide)
      exact { hended with }
  | workerLeave hj => exact ht.endWorker (by rw [hj]; decide)
  | @takeDown w p rest =>
      have hpop : Traced { s with down := rest } := { ht with }
      unfold arriveDown
      split
      · exact hpop.resolve _ _
      · split
        · exact { hpop with }
        · exact hpop
      · exact (hpop.clearTable _).resolve _ _
      · exact hpop

/-- What is in use goes back to sessions in every run. -/
theorem traced_of_reaches {actions : List (MuxAction ι β)}
    (h : (machine β x).Reaches actions s) : s.Traced :=
  Machine.Run.invariant h (traced_start x) fun _ _ _ hs _ ht => hs.step ht

end Steps

/-! ## Holders -/

/-- An end holds the id. -/
def Held (s : Mux ι β) (x : ι) : Prop :=
  (∃ k, s.Live k ∧ s.id k = x) ∨ s.table x ≠ none ∨ s.waiters x ≠ none ∨
    (¬ s.Idle ∧ s.id s.serving = x) ∨ (∃ j, s.worker j = .live ∧ s.workerId j = x) ∨
    s.workerTable x ≠ none

/-- Something is left of the stream of a session: it takes part, it is in a table, its request is
looked at, or the worker that serves it takes part or is in the table. -/
def Holds (s : Mux ι β) (k : ℕ) : Prop :=
  s.Live k ∨ s.table (s.id k) = some k ∨ s.waiters (s.id k) = some k ∨
    (s.serving = k ∧ ¬ s.Idle) ∨
    ∃ j, s.request k = .served j ∧ (s.worker j = .live ∨ s.workerTable (s.id k) = some j)

/-- **Who holds an id.** An id is held iff something is left of the stream of a session that took
it. -/
theorem held_iff (ht : s.Traced) :
    s.Held x ↔ ∃ k, s.phase k ≠ .absent ∧ s.id k = x ∧ s.Holds k := by
  constructor
  · rintro (⟨k, hlive, hid⟩ | htable | hwaiters | ⟨hbusy, hid⟩ | ⟨j, hj, hid⟩ | htable)
    · exact ⟨k, hlive.1, hid, .inl hlive⟩
    · obtain ⟨k, hk⟩ := Option.ne_none_iff_exists'.mp htable
      obtain ⟨hid, hthere⟩ := ht.table x k hk
      exact ⟨k, hthere, hid, .inr (.inl (hid ▸ hk))⟩
    · obtain ⟨k, hk⟩ := Option.ne_none_iff_exists'.mp hwaiters
      obtain ⟨hid, hthere⟩ := ht.waiter x k hk
      exact ⟨k, hthere, hid, .inr (.inr (.inl (hid ▸ hk)))⟩
    · refine ⟨s.serving, ht.there fun hunsent => hbusy ?_, hid,
        .inr (.inr (.inr (.inl ⟨rfl, hbusy⟩)))⟩
      rw [Idle, hunsent]
      exact ⟨Request.noConfusion, Request.noConfusion⟩
    · obtain ⟨k, hk⟩ := ht.worker j (by rw [hj]; decide)
      have hwid := (ht.served k j hk).1
      exact ⟨k, ht.there (by rw [hk]; exact Request.noConfusion), hwid.symm.trans hid,
        .inr (.inr (.inr (.inr ⟨j, hk, .inl hj⟩)))⟩
    · obtain ⟨j, hj⟩ := Option.ne_none_iff_exists'.mp htable
      obtain ⟨hid, hthere⟩ := ht.workerTable x j hj
      obtain ⟨k, hk⟩ := ht.worker j hthere
      have hkid : s.id k = x := (ht.served k j hk).1.symm.trans hid
      exact ⟨k, ht.there (by rw [hk]; exact Request.noConfusion), hkid,
        .inr (.inr (.inr (.inr ⟨j, hk, .inr (hkid ▸ hj)⟩)))⟩
  · rintro ⟨k, -, rfl, hholds⟩
    rcases hholds with hlive | hk | hk | ⟨rfl, hbusy⟩ | ⟨j, hk, hj | hj⟩
    · exact .inl ⟨k, hlive, rfl⟩
    · exact .inr (.inl (by rw [hk]; exact Option.some_ne_none k))
    · exact .inr (.inr (.inl (by rw [hk]; exact Option.some_ne_none k)))
    · exact .inr (.inr (.inr (.inl ⟨hbusy, rfl⟩)))
    · exact .inr (.inr (.inr (.inr (.inl ⟨j, hj, (ht.served k j hk).1⟩))))
    · exact .inr (.inr (.inr (.inr (.inr (by rw [hj]; exact Option.some_ne_none j)))))

end Mux

end AdbHub.Lib
