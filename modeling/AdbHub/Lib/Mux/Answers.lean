import AdbHub.Lib.Mux.Holders

/-!
# Requests that are answered

A session that has asked waits under its id until an answer arrives.

* `Mux.Decided` — the other end is done with the request of a session.
* `Mux.Answered` — as long as a session waits whose request is decided, an answer to it is on its
  way.
* **`Mux.Answered.step`** — every step keeps that, but for dropping a request without an answer.
-/

namespace AdbHub.Lib

namespace Mux

variable {ι β : Type*}

/-- The other end is done with the request of a session. -/
def Decided (s : Mux ι β) (k : ℕ) : Prop :=
  s.request k ≠ .unsent ∧ s.request k ≠ .sent ∧ s.request k ≠ .taken

/-- An answer under the id is on its way. -/
def ResultOnWay (s : Mux ι β) (x : ι) : Prop :=
  ∃ w ok, (w, Packet.result x ok) ∈ s.down

/-- Every session that waits, with its request decided, has its answer on the way. -/
def Answered (s : Mux ι β) : Prop :=
  ∀ k, s.Decided k → s.waiters (s.id k) = some k → s.ResultOnWay (s.id k)

variable {s t : Mux ι β} {a : MuxAction ι β} {k j : ℕ} {x : ι}

theorem answered_start (x : ι) : (start x : Mux ι β).Answered := by
  intro k hk
  exact absurd rfl hk.1

/-- A step after which fewer sessions wait, and that takes up no answer to those that do. -/
theorem Answered.keep (hs : s.Answered) (hid : t.id = s.id)
    (hrequest : ∀ k, t.Decided k → s.Decided k)
    (hwaiters : ∀ x k, t.waiters x = some k → s.waiters x = some k)
    (hdown : ∀ x, t.waiters x ≠ none → s.ResultOnWay x → t.ResultOnWay x) : t.Answered := by
  intro k hk hwaits
  rw [hid] at hwaits ⊢
  have hway := hs k (hrequest k hk) (hwaiters _ k hwaits)
  exact hdown _ (by rw [hwaits]; exact Option.some_ne_none k) hway

/-- A session whose request changes to one that is not decided. -/
theorem decided_of_update {r : Request} (hr : r = .sent ∨ r = .taken) {i : ℕ}
    (h : Decided { s with request := Function.update s.request k r } i) : s.Decided i := by
  have hne : i ≠ k := by
    rintro rfl
    simp only [Decided, Function.update_self] at h
    rcases hr with rfl | rfl
    · exact h.2.1 rfl
    · exact h.2.2 rfl
  simpa [Decided, hne] using h

/-- A packet is sent to the sessions. -/
theorem Answered.push (hs : s.Answered) (p : Option ℕ × Packet ι β) :
    Answered { s with down := s.down ++ [p] } := by
  refine hs.keep rfl (fun _ h => h) (fun _ _ h => h) fun x _ hway => ?_
  obtain ⟨w, ok, hmem⟩ := hway
  exact ⟨w, ok, List.mem_append_left _ hmem⟩

/-- The request that was taken up is answered. -/
theorem Answered.settle (hs : s.Answered) (r : Request) (ok : Bool) : Answered { s with
    request := Function.update s.request s.serving r
    down := s.down ++ [(none, .result (s.id s.serving) ok)] } := by
  intro i hi hwaits
  by_cases his : i = s.serving
  · rw [his]
    exact ⟨none, ok, List.mem_append_right _ (List.mem_singleton.mpr rfl)⟩
  · have hdecided : s.Decided i := by simpa [Decided, his] using hi
    obtain ⟨w, ok', hmem⟩ := hs i hdecided hwaits
    exact ⟨w, ok', List.mem_append_left _ hmem⟩

section Steps

variable [DecidableEq ι]

theorem waiters_of_resolve {ok : Bool} {y : ι} (h : (s.resolve x ok).waiters y = some k) :
    s.waiters y = some k ∧ y ≠ x := by
  unfold resolve at h
  split at h
  · rename_i hnone
    refine ⟨h, ?_⟩
    rintro rfl
    rw [hnone] at h
    cases h
  · refine ⟨update_none h, ?_⟩
    rintro rfl
    have h : Function.update s.waiters y none y = some k := h
    rw [Function.update_self] at h
    cases h

/-- An answer arrives, and with it nobody waits under its id. -/
theorem Answered.resolve {ok : Bool} (hs : ∀ k, s.Decided k → s.waiters (s.id k) = some k →
    s.id k ≠ x → s.ResultOnWay (s.id k)) : (s.resolve x ok).Answered := by
  have hsame : (s.resolve x ok).id = s.id ∧ (s.resolve x ok).request = s.request ∧
      (s.resolve x ok).down = s.down := by
    unfold Mux.resolve
    split <;> exact ⟨rfl, rfl, rfl⟩
  intro k hk hwaits
  rw [hsame.1] at hwaits ⊢
  obtain ⟨hold, hne⟩ := waiters_of_resolve hwaits
  have hdecided : s.Decided k := by
    rw [Decided, hsame.2.1] at hk
    exact hk
  obtain ⟨w, ok', hmem⟩ := hs k hdecided hold hne
  exact ⟨w, ok', hsame.2.2 ▸ hmem⟩

/-- A packet is taken up. -/
theorem Answered.takeDown {w : Option ℕ} {p : Packet ι β} {rest : List (Option ℕ × Packet ι β)}
    (hs : s.Answered) (hdown : s.down = (w, p) :: rest) :
    ({ s with down := rest }.arriveDown p).Answered := by
  -- what is no answer under the id stays on its way
  have hrest : ∀ {y}, (∀ ok, p ≠ .result y ok) → s.ResultOnWay y →
      ResultOnWay { s with down := rest } y := by
    rintro y hp ⟨w', ok, hmem⟩
    rw [hdown] at hmem
    rcases List.mem_cons.mp hmem with heq | hmem
    · exact absurd (Prod.mk.inj heq).2.symm (hp ok)
    · exact ⟨w', ok, hmem⟩
  cases p with
  | result x ok =>
      refine Answered.resolve fun k hk hwaits hne => hrest (fun ok' heq => hne ?_) (hs k hk hwaits)
      exact (Packet.result.inj heq).1.symm
  | data x c =>
      have hpop : Answered { s with down := rest } :=
        hs.keep rfl (fun _ h => h) (fun _ _ h => h) fun _ _ => hrest (by simp)
      unfold arriveDown
      dsimp only
      split
      · exact hpop
      · exact hpop
  | close x =>
      refine Answered.resolve fun k hk hwaits _ => ?_
      obtain ⟨w', ok, hmem⟩ := hrest (by simp) (hs k hk hwaits)
      exact ⟨w', ok, hmem⟩
  | request x =>
      exact hs.keep rfl (fun _ h => h) (fun _ _ h => h) fun _ _ => hrest (by simp)

/-- **Answers.** A step that drops no request keeps the answers on their way. -/
theorem Answered.step (hs : s.Answered) (ht : s.Traced) (h : s.step a = some t) (ha : a ≠ .drop) :
    t.Answered := by
  cases moves_of_step h with
  | @take k x hk =>
      intro i hi hwaits
      have hne : i ≠ k := by
        rintro rfl
        exact hi.1 (ht.unasked i (.inl hk))
      have hid : Function.update s.id k x i = s.id i := Function.update_of_ne hne _ _
      have hwaits : s.waiters (Function.update s.id k x i) = some i := hwaits
      show s.ResultOnWay (Function.update s.id k x i)
      rw [hid] at hwaits ⊢
      exact hs i hi hwaits
  | @wait k hk =>
      intro i hi hwaits
      have hne : i ≠ k := by
        rintro rfl
        exact hi.1 (ht.unasked i (.inr (.inr hk)))
      have hwaits : Function.update s.waiters (s.id k) (some k) (s.id i) = some i := hwaits
      by_cases hid : s.id i = s.id k
      · rw [hid, Function.update_self] at hwaits
        exact absurd (Option.some.inj hwaits).symm hne
      · rw [Function.update_of_ne hid] at hwaits
        exact hs i hi hwaits
  | unwait =>
      exact hs.keep rfl (fun _ h => h) (fun _ _ => update_none) fun _ _ h => h
  | ask => exact hs.keep rfl (fun _ => decided_of_update (.inl rfl)) (fun _ _ h => h) fun _ _ h => h
  | register | send | unregister | unregisterLast | close | leave | workerUnregister
  | workerLeave => exact hs.keep rfl (fun _ h => h) (fun _ _ h => h) fun _ _ h => h
  | @takeUp k p rest =>
      unfold arriveUp
      split
      · exact hs.keep rfl (fun _ => decided_of_update (.inr rfl)) (fun _ _ h => h) fun _ _ h => h
      · split
        · exact hs.keep rfl (fun _ h => h) (fun _ _ h => h) fun _ _ h => h
        · exact hs.keep rfl (fun _ h => h) (fun _ _ h => h) fun _ _ h => h
      · exact hs.keep rfl (fun _ h => h) (fun _ _ h => h) fun _ _ h => h
      · exact hs.keep rfl (fun _ h => h) (fun _ _ h => h) fun _ _ h => h
  | drop => exact absurd rfl ha
  | refuse => exact hs.settle .refused false
  | accept => exact hs.settle .accepted true
  | @spawn j hserving =>
      refine hs.keep rfl (fun i hi => ?_) (fun _ _ h => h) fun _ _ h => h
      by_cases his : i = s.serving
      · rw [his, Decided, hserving]
        exact ⟨Request.noConfusion, Request.noConfusion, Request.noConfusion⟩
      · simpa [Decided, his] using hi
  | @workerSend j chunk => exact hs.push (some j, .data (s.workerId j) chunk)
  | @workerClose j => exact hs.push (some j, .close (s.workerId j))
  | takeDown hdown => exact hs.takeDown hdown

end Steps

end Mux

end AdbHub.Lib
