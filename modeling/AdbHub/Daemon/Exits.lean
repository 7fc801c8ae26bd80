import AdbHub.Daemon.Streams

/-!
# How the sessions of a connection return

What is left of a private stream (`daemon.rs`, `forward_private`) when its session returns.

* `CleanReturn` — the two maps have no entry for the stream, and `StreamClose` is written, or writing
  it fails, unless the agent knows.
* `Tidy` — what the maps hold for the sessions that have not returned, as long as stream ids are
  fresh; **`tidy_step`**.
* **`returns_clean_iff`** — all returns of a run are clean, exactly when no session gives up on an
  agent that goes on: after the timeout, after an error of the client that is not benign, or after
  a failed write of data.
-/

namespace AdbHub

open Lib

namespace ConnStreams

variable {s t : ConnStreams} {e : StreamEvent} {k : ℕ}

/-! ## The exits of a session -/

/-- Session `k` returns. -/
def Returns (s : ConnStreams) (k : ℕ) (t : ConnStreams) : Prop :=
  s.task k ≠ .done ∧ t.task k = .done

/-- The agent closes the stream. -/
def ClosesStream (id : UInt32) : StreamEvent → Prop
  | .receive (.streamClose c) => c.streamId = id
  | _ => False

/-- The agent refuses the stream, or closes it. -/
def EndsStream (id : UInt32) : StreamEvent → Prop
  | .receive (.openResult r) => r.streamId = id ∧ r.ok = false
  | .receive (.streamClose c) => c.streamId = id
  | _ => False

/-- Since session `k` put its queue into `stream_tx` there was an event of a kind. -/
def Since (k : ℕ) (P : StreamEvent → Prop) (past : List StreamEvent) : Prop :=
  ∃ before after e, past = before ++ .insertTx k :: after ∧ e ∈ after ∧ P e

/-- A session that returns leaves neither a queue nor a waiter of its stream; and if it has sent
`OpenPrivateStream`, and the agent has neither refused nor closed the stream, `StreamClose` is
written now, or writing it fails. -/
def CleanReturn (past : List StreamEvent) (s : ConnStreams) (e : StreamEvent) (t : ConnStreams) :
    Prop :=
  ∀ k, s.Returns k t →
    t.streamTx (t.streamId k) = none ∧ t.openWaiters (t.streamId k) = none ∧
      (.openWritten k true ∈ past → ¬ Since k (EndsStream (t.streamId k)) past →
        ∃ ok, e = .closeWritten k ok)

/-- No session gives up on an agent that goes on: an error of the client that is not benign, or a
failed write of data, comes only after the agent has closed the stream; and a session that got no
answer in time returns only after the agent has refused or closed the stream. -/
def CleanExit (past : List StreamEvent) (s : ConnStreams) (e : StreamEvent) (_ : ConnStreams) :
    Prop :=
  match e with
  | .clientError k false | .upWritten k false | .downFailed k false =>
      Since k (ClosesStream (s.streamId k)) past
  | .dropTx k =>
      s.task k = .abortTx → .openWritten k true ∈ past → Since k (EndsStream (s.streamId k)) past
  | _ => True

/-- No session is given a stream id that a session still uses. Ids repeat after 2³² sessions. -/
def FreshId (s : ConnStreams) : StreamEvent → Prop
  | .openSession _ _ _ =>
      ∀ j, s.task j ≠ .absent → s.task j ≠ .done → s.streamId j ≠ s.nextStreamId
  | _ => True

section since

variable {past : List StreamEvent} {P : StreamEvent → Prop}

/-- What has happened since, one event later. -/
theorem since_snoc : Since k P (past ++ [e]) ↔ Since k P past ∨ (.insertTx k ∈ past ∧ P e) := by
  constructor
  · rintro ⟨before, after, e', hpast, he', hP⟩
    rcases List.eq_nil_or_concat after with rfl | ⟨after, x, rfl⟩
    · simp at he'
    · rw [List.concat_eq_append] at hpast he'
      rw [← List.cons_append, ← List.append_assoc] at hpast
      obtain ⟨hbefore, hx⟩ := List.append_inj' hpast rfl
      rcases List.mem_append.mp he' with he' | he'
      · exact .inl ⟨before, after, e', hbefore, he', hP⟩
      · obtain rfl := List.mem_singleton.mp he'
        obtain rfl := List.singleton_inj.mp hx
        exact .inr ⟨by simp [hbefore], hP⟩
  · rintro (⟨before, after, e', rfl, he', hP⟩ | ⟨hmem, hP⟩)
    · exact ⟨before, after ++ [e], e', by simp, List.mem_append_left _ he', hP⟩
    · obtain ⟨before, after, rfl⟩ := List.append_of_mem hmem
      exact ⟨before, after ++ [e], e, by simp, by simp, hP⟩

/-- An event of another kind adds nothing. -/
theorem since_snoc_of_not (he : ¬ P e) : Since k P (past ++ [e]) ↔ Since k P past := by
  rw [since_snoc, or_iff_left fun h => he h.2]

theorem Since.mem (h : Since k P past) : .insertTx k ∈ past := by
  obtain ⟨before, after, -, rfl, -, -⟩ := h
  simp

theorem Since.mono {Q : StreamEvent → Prop} (h : Since k P past) (hPQ : ∀ e, P e → Q e) :
    Since k Q past := by
  obtain ⟨before, after, e, hpast, he, hP⟩ := h
  exact ⟨before, after, e, hpast, he, hPQ e hP⟩

theorem ClosesStream.ends {id : UInt32} (h : ClosesStream id e) : EndsStream id e := by
  unfold ClosesStream at h
  split at h
  · exact h
  · exact h.elim

end since

/-! ## What the maps hold -/

end ConnStreams

namespace ForwardPrivate

/-- The session has begun and has not returned. -/
def Live (pc : ForwardPrivate) : Prop := pc ≠ .absent ∧ pc ≠ .done

/-- The session has put its queue into `stream_tx`. -/
def Begun (pc : ForwardPrivate) : Prop := pc ≠ .absent ∧ pc ≠ .insertTx

/-- The session has put its queue into `stream_tx`, and has neither removed it nor returned. -/
def HasTx : ForwardPrivate → Prop
  | .absent | .insertTx | .failWrite | .closeWrite | .done => False
  | _ => True

/-- The session has put its waiter into `open_waiters`, and has neither removed it nor got its
outcome. -/
def HasWaiter : ForwardPrivate → Prop
  | .openWrite | .waiting | .abortWaiter => True
  | _ => False

/-- The session has removed its queue and writes its last message. -/
def Dropped (pc : ForwardPrivate) : Prop := pc = .failWrite ∨ pc = .closeWrite

/-- The agent has refused the session. -/
def Refused (pc : ForwardPrivate) : Prop := pc = .refused ∨ pc = .failWrite

variable {pc : ForwardPrivate}

theorem HasTx.live (h : pc.HasTx) : pc.Live := by
  constructor <;> (rintro rfl; exact h)

theorem HasTx.begun (h : pc.HasTx) : pc.Begun := by
  constructor <;> (rintro rfl; exact h)

theorem Dropped.begun (h : pc.Dropped) : pc.Begun := by
  constructor <;> (rintro rfl; rcases h with h | h <;> cases h)

theorem Refused.begun (h : pc.Refused) : pc.Begun := by
  constructor <;> (rintro rfl; rcases h with h | h <;> cases h)

theorem Dropped.live (h : pc.Dropped) : pc.Live := by
  constructor <;> (rintro rfl; rcases h with h | h <;> cases h)

theorem HasWaiter.hasTx (h : pc.HasWaiter) : pc.HasTx := by
  cases pc <;> first | exact h | trivial

end ForwardPrivate

namespace ConnStreams

variable {s t : ConnStreams} {e : StreamEvent} {k : ℕ} {past : List StreamEvent}
  {pc : ForwardPrivate}

/-- Sessions that have not returned have different stream ids. -/
structure IdsTidy (past : List StreamEvent) (s : ConnStreams) : Prop where
  ids : ∀ j k, (s.task j).Live → (s.task k).Live → s.streamId j = s.streamId k → j = k
  begun : ∀ k, .insertTx k ∈ past ↔ (s.task k).Begun

/-- The queue of a session is in `stream_tx` until the session removes it or the agent closes the
stream. -/
structure TxTidy (past : List StreamEvent) (s : ConnStreams) : Prop where
  opened : ∀ k, (s.task k).HasTx → ¬ Since k (ClosesStream (s.streamId k)) past →
    s.streamTx (s.streamId k) = some k
  closed : ∀ k, (s.task k).HasTx → Since k (ClosesStream (s.streamId k)) past →
    s.streamTx (s.streamId k) = none
  dropped : ∀ k, (s.task k).Dropped → s.streamTx (s.streamId k) = none

/-- Sessions that wait for their outcome have a waiter, and refusals come from the agent. -/
structure WaitersTidy (past : List StreamEvent) (s : ConnStreams) : Prop where
  waiter : ∀ id k, s.openWaiters id = some k →
    s.streamId k = id ∧ (s.task k).HasWaiter ∧ s.outcome k = none
  refusal : ∀ k o, s.outcome k = some o → o.ok = false →
    Since k (EndsStream (s.streamId k)) past
  refused : ∀ k, (s.task k).Refused → ∃ o, s.outcome k = some o ∧ o.ok = false
  outcome : ∀ k o, s.outcome k = some o → (s.task k).Begun ∧ s.task k ≠ .insertWaiter

/-- What the two maps hold for the sessions that have not returned, if stream ids are fresh. -/
structure Tidy (past : List StreamEvent) (s : ConnStreams) : Prop where
  ids : s.IdsTidy past
  tx : s.TxTidy past
  waiters : s.WaitersTidy past

/-- An event that closes no stream. -/
def Quiet (e : StreamEvent) : Prop := ∀ id, ¬ ClosesStream id e

theorem Quiet.since_iff (hq : Quiet e) (id : UInt32) :
    Since k (ClosesStream id) (past ++ [e]) ↔ Since k (ClosesStream id) past :=
  since_snoc_of_not (hq id)

/-! ### Steps that leave a part of it alone -/

theorem IdsTidy.follow (h : s.IdsTidy past) (hid : t.streamId = s.streamId)
    (hlive : ∀ j, (t.task j).Live → (s.task j).Live)
    (hbegun : ∀ j, .insertTx j ∈ past ++ [e] ↔ (t.task j).Begun) : t.IdsTidy (past ++ [e]) where
  ids j k hj hk heq := by
    rw [hid] at heq
    exact h.ids j k (hlive j hj) (hlive k hk) heq
  begun := hbegun

theorem TxTidy.follow (h : s.TxTidy past) (hq : Quiet e) (htx : t.streamTx = s.streamTx)
    (hid : t.streamId = s.streamId) (hhas : ∀ j, (t.task j).HasTx → (s.task j).HasTx)
    (hdropped : ∀ j, (t.task j).Dropped → (s.task j).Dropped) : t.TxTidy (past ++ [e]) where
  opened k hk hc := by
    rw [hid, hq.since_iff] at hc
    rw [hid, htx]
    exact h.opened k (hhas k hk) hc
  closed k hk hc := by
    rw [hid, hq.since_iff] at hc
    rw [hid, htx]
    exact h.closed k (hhas k hk) hc
  dropped k hk := by
    rw [hid, htx]
    exact h.dropped k (hdropped k hk)

theorem WaitersTidy.follow (h : s.WaitersTidy past)
    (hwaiters : t.openWaiters = s.openWaiters) (hid : t.streamId = s.streamId)
    (hout : t.outcome = s.outcome)
    (hwait : ∀ j id, s.openWaiters id = some j → (s.task j).HasWaiter → s.outcome j = none →
      (t.task j).HasWaiter)
    (hrefused : ∀ j, (t.task j).Refused → ∃ o, s.outcome j = some o ∧ o.ok = false)
    (houtcome : ∀ j o, s.outcome j = some o → (t.task j).Begun ∧ t.task j ≠ .insertWaiter) :
    t.WaitersTidy (past ++ [e]) where
  waiter id k hk := by
    rw [hwaiters] at hk
    obtain ⟨hsid, hw, hnone⟩ := h.waiter id k hk
    rw [hid, hout]
    exact ⟨hsid, hwait k id hk hw hnone, hnone⟩
  refusal k o ho hok := by
    rw [hout] at ho
    rw [hid]
    exact since_snoc.mpr (.inl (h.refusal k o ho hok))
  refused k hk := by
    rw [hout]
    exact hrefused k hk
  outcome k o ho := by
    rw [hout] at ho
    exact houtcome k o ho

/-- Where a session can go without a change of the maps. -/
structure Follows (s : ConnStreams) (k : ℕ) (pc : ForwardPrivate) : Prop where
  live : pc.Live → (s.task k).Live
  begun : pc.Begun ↔ (s.task k).Begun
  hasTx : pc.HasTx → (s.task k).HasTx
  dropped : pc.Dropped → (s.task k).Dropped
  waiter : ∀ id, s.openWaiters id = some k → (s.task k).HasWaiter → s.outcome k = none →
    pc.HasWaiter
  refused : pc.Refused → ∃ o, s.outcome k = some o ∧ o.ok = false
  outcome : ∀ o, s.outcome k = some o → pc.Begun ∧ pc ≠ .insertWaiter

theorem Tidy.follows_self (h : s.Tidy past) (k : ℕ) : s.Follows k (s.task k) where
  live := id
  begun := Iff.rfl
  hasTx := id
  dropped := id
  waiter _ _ hw _ := hw
  refused := h.waiters.refused k
  outcome := h.waiters.outcome k

/-- One session moves and the maps stay: the others are where they were. -/
theorem Tidy.follows_update (h : s.Tidy past) (hf : s.Follows k pc)
    (ht : t.task = Function.update s.task k pc) (j : ℕ) : s.Follows j (t.task j) := by
  rw [ht]
  by_cases hj : j = k
  · subst hj
    rwa [Function.update_self]
  · rw [Function.update_of_ne hj]
    exact h.follows_self j

/-- Sessions that go where they can leave the maps tidy. -/
theorem Tidy.follow (h : s.Tidy past) (hq : Quiet e) (hins : ∀ j, e ≠ .insertTx j)
    (htx : t.streamTx = s.streamTx) (hwaiters : t.openWaiters = s.openWaiters)
    (hid : t.streamId = s.streamId) (hout : t.outcome = s.outcome)
    (hf : ∀ j, s.Follows j (t.task j)) : t.Tidy (past ++ [e]) := by
  refine ⟨h.ids.follow hid (fun j => (hf j).live) fun j => ?_,
    h.tx.follow hq htx hid (fun j => (hf j).hasTx) fun j => (hf j).dropped,
    h.waiters.follow hwaiters hid hout (fun j => (hf j).waiter) (fun j => (hf j).refused)
      fun j => (hf j).outcome⟩
  have hne : StreamEvent.insertTx j ≠ e := (hins j).symm
  rw [(hf j).begun, ← h.ids.begun]
  simp [hne]

/-! ### Steps that change the maps -/

/-- A session without a waiter has none under its id. -/
theorem Tidy.no_waiter (h : s.Tidy past) (hk : (s.task k).Live) (hw : ¬ (s.task k).HasWaiter) :
    s.openWaiters (s.streamId k) = none := by
  rcases hj : s.openWaiters (s.streamId k) with _ | j
  · rfl
  · obtain ⟨hid, hjw, -⟩ := h.waiters.waiter _ j hj
    obtain rfl := h.ids.ids j k hjw.hasTx.live hk hid
    exact absurd hjw hw

/-- A session takes an id that nobody uses. -/
theorem Tidy.openSession (h : s.Tidy past) (htask : s.task k = .absent)
    (hfresh : ∀ j, s.task j ≠ .absent → s.task j ≠ .done → s.streamId j ≠ s.nextStreamId)
    (hq : Quiet e) (hins : ∀ j, e ≠ .insertTx j) (htx : t.streamTx = s.streamTx)
    (hwaiters : t.openWaiters = s.openWaiters)
    (hid : t.streamId = Function.update s.streamId k s.nextStreamId)
    (hout : t.outcome = s.outcome) (ht : t.task = Function.update s.task k .insertTx) :
    t.Tidy (past ++ [e]) := by
  have hnew : t.task k = .insertTx ∧ t.streamId k = s.nextStreamId := by simp [ht, hid]
  have hold : ∀ j, j ≠ k → t.task j = s.task j ∧ t.streamId j = s.streamId j := by
    intro j hj
    simp [ht, hid, hj]
  have hne : ∀ {j}, (s.task j).Begun → j ≠ k := by
    rintro j hbegun rfl
    exact hbegun.1 htask
  have hne' : ∀ {j}, (t.task j).Begun → j ≠ k := by
    rintro j hbegun rfl
    exact hbegun.2 hnew.1
  constructor
  · constructor
    · intro i j hi hj heq
      by_cases hik : i = k
      · by_cases hjk : j = k
        · rw [hik, hjk]
        · obtain ⟨htj, hidj⟩ := hold j hjk
          rw [htj] at hj
          rw [hik, hnew.2, hidj] at heq
          exact absurd heq.symm (hfresh j hj.1 hj.2)
      · obtain ⟨hti, hidi⟩ := hold i hik
        rw [hti] at hi
        by_cases hjk : j = k
        · rw [hjk, hnew.2, hidi] at heq
          exact absurd heq (hfresh i hi.1 hi.2)
        · obtain ⟨htj, hidj⟩ := hold j hjk
          rw [htj] at hj
          rw [hidi, hidj] at heq
          exact h.ids.ids i j hi hj heq
    · intro j
      have hj : StreamEvent.insertTx j ≠ e := (hins j).symm
      have hmem : .insertTx j ∈ past ++ [e] ↔ (s.task j).Begun := by
        rw [← h.ids.begun]
        simp [hj]
      rw [hmem]
      by_cases hjk : j = k
      · subst hjk
        rw [htask, hnew.1]
        simp [ForwardPrivate.Begun]
      · rw [(hold j hjk).1]
  · constructor
    · intro j hj hc
      obtain ⟨htj, hidj⟩ := hold j (hne' hj.begun)
      rw [htj] at hj
      rw [hidj, hq.since_iff] at hc
      rw [hidj, htx]
      exact h.tx.opened j hj hc
    · intro j hj hc
      obtain ⟨htj, hidj⟩ := hold j (hne' hj.begun)
      rw [htj] at hj
      rw [hidj, hq.since_iff] at hc
      rw [hidj, htx]
      exact h.tx.closed j hj hc
    · intro j hj
      obtain ⟨htj, hidj⟩ := hold j (hne' hj.begun)
      rw [htj] at hj
      rw [hidj, htx]
      exact h.tx.dropped j hj
  · constructor
    · intro id j hj
      rw [hwaiters] at hj
      obtain ⟨hsid, hw, hnone⟩ := h.waiters.waiter id j hj
      obtain ⟨htj, hidj⟩ := hold j (hne hw.hasTx.begun)
      rw [htj, hidj, hout]
      exact ⟨hsid, hw, hnone⟩
    · intro j o ho hok
      rw [hout] at ho
      rw [(hold j (hne (h.waiters.outcome j o ho).1)).2]
      exact since_snoc.mpr (.inl (h.waiters.refusal j o ho hok))
    · intro j hj
      rw [(hold j (hne' hj.begun)).1] at hj
      rw [hout]
      exact h.waiters.refused j hj
    · intro j o ho
      rw [hout] at ho
      obtain ⟨hbegun, hinserting⟩ := h.waiters.outcome j o ho
      rw [(hold j (hne hbegun)).1]
      exact ⟨hbegun, hinserting⟩

/-- A session puts its queue into the map. -/
theorem Tidy.insertTx (h : s.Tidy past) (htask : s.task k = .insertTx)
    (htx : t.streamTx = Function.update s.streamTx (s.streamId k) (some k))
    (hwaiters : t.openWaiters = s.openWaiters) (hid : t.streamId = s.streamId)
    (hout : t.outcome = s.outcome) (ht : t.task = Function.update s.task k .insertWaiter) :
    t.Tidy (past ++ [.insertTx k]) := by
  have hq : Quiet (.insertTx k) := fun _ hc => hc
  have hnew : t.task k = .insertWaiter := by simp [ht]
  have hold : ∀ j, j ≠ k → t.task j = s.task j := by
    intro j hj
    simp [ht, hj]
  have hlive : (s.task k).Live := by
    rw [htask]
    simp [ForwardPrivate.Live]
  have hnone : s.outcome k = none := by
    rcases ho : s.outcome k with _ | o
    · rfl
    · exact absurd htask (h.waiters.outcome k o ho).1.2
  have hother : ∀ j, j ≠ k → (s.task j).Live →
      t.streamTx (t.streamId j) = s.streamTx (s.streamId j) := by
    intro j hjk hj
    rw [hid, htx]
    exact Function.update_of_ne (fun heq => hjk (h.ids.ids j k hj hlive heq)) _ _
  refine ⟨h.ids.follow hid ?_ ?_, ⟨?_, ?_, ?_⟩, h.waiters.follow hwaiters hid hout ?_ ?_ ?_⟩
  · intro j hj
    by_cases hjk : j = k
    · rwa [hjk]
    · rwa [hold j hjk] at hj
  · intro j
    by_cases hjk : j = k
    · subst hjk
      rw [hnew]
      simp [ForwardPrivate.Begun]
    · rw [hold j hjk, ← h.ids.begun]
      simp [hjk]
  · intro j hj hc
    rw [hid, hq.since_iff] at hc
    by_cases hjk : j = k
    · subst hjk
      rw [hid, htx]
      exact Function.update_self ..
    · rw [hold j hjk] at hj
      exact (hother j hjk hj.live).trans (h.tx.opened j hj hc)
  · intro j hj hc
    rw [hid, hq.since_iff] at hc
    by_cases hjk : j = k
    · subst hjk
      exact absurd htask ((h.ids.begun j).mp hc.mem).2
    · rw [hold j hjk] at hj
      exact (hother j hjk hj.live).trans (h.tx.closed j hj hc)
  · intro j hj
    have hjk : j ≠ k := by
      rintro rfl
      rw [hnew] at hj
      rcases hj with hj | hj <;> cases hj
    rw [hold j hjk] at hj
    exact (hother j hjk hj.live).trans (h.tx.dropped j hj)
  · intro j _ _ hj _
    have hjk : j ≠ k := by
      rintro rfl
      rw [htask] at hj
      exact hj
    rwa [hold j hjk]
  · intro j hj
    have hjk : j ≠ k := by
      rintro rfl
      rw [hnew] at hj
      rcases hj with hj | hj <;> cases hj
    rw [hold j hjk] at hj
    exact h.waiters.refused j hj
  · intro j o ho
    have hjk : j ≠ k := by
      rintro rfl
      rw [hnone] at ho
      cases ho
    rw [hold j hjk]
    exact h.waiters.outcome j o ho

/-- A session removes its queue from the map. -/
theorem Tidy.dropTx (h : s.Tidy past) (htx : (s.task k).HasTx) (hwaiter : ¬ (s.task k).HasWaiter)
    (hpc : ¬ pc.HasTx) (hbegun : pc.Begun) (hrefused : pc.Refused → (s.task k).Refused) :
    Tidy (past ++ [.dropTx k]) ((s.removeTx k).goto k pc) := by
  have hq : Quiet (.dropTx k) := fun _ hc => hc
  have hnew : ((s.removeTx k).goto k pc).task k = pc := Function.update_self ..
  have hold : ∀ j, j ≠ k → ((s.removeTx k).goto k pc).task j = s.task j :=
    fun j hj => Function.update_of_ne hj _ _
  have hother : ∀ j, j ≠ k → (s.task j).Live →
      ((s.removeTx k).goto k pc).streamTx (s.streamId j) = s.streamTx (s.streamId j) := by
    intro j hjk hj
    exact Function.update_of_ne (fun heq => hjk (h.ids.ids j k hj htx.live heq)) _ _
  refine ⟨h.ids.follow rfl ?_ ?_, ⟨?_, ?_, ?_⟩, h.waiters.follow rfl rfl rfl ?_ ?_ ?_⟩
  · intro j hj
    by_cases hjk : j = k
    · subst hjk
      exact htx.live
    · rwa [hold j hjk] at hj
  · intro j
    have hmem : .insertTx j ∈ past ++ [.dropTx k] ↔ (s.task j).Begun := by
      rw [← h.ids.begun]
      simp
    rw [hmem]
    by_cases hjk : j = k
    · subst hjk
      rw [hnew]
      exact iff_of_true htx.begun hbegun
    · rw [hold j hjk]
  · intro j hj hc
    rw [hq.since_iff] at hc
    have hjk : j ≠ k := by
      rintro rfl
      rw [hnew] at hj
      exact hpc hj
    rw [hold j hjk] at hj
    exact (hother j hjk hj.live).trans (h.tx.opened j hj hc)
  · intro j hj hc
    rw [hq.since_iff] at hc
    have hjk : j ≠ k := by
      rintro rfl
      rw [hnew] at hj
      exact hpc hj
    rw [hold j hjk] at hj
    exact (hother j hjk hj.live).trans (h.tx.closed j hj hc)
  · intro j hj
    by_cases hjk : j = k
    · subst hjk
      exact Function.update_self ..
    · rw [hold j hjk] at hj
      exact (hother j hjk hj.live).trans (h.tx.dropped j hj)
  · intro j _ _ hj _
    have hjk : j ≠ k := by
      rintro rfl
      exact hwaiter hj
    rwa [hold j hjk]
  · intro j hj
    by_cases hjk : j = k
    · subst hjk
      rw [hnew] at hj
      exact h.waiters.refused j (hrefused hj)
    · rw [hold j hjk] at hj
      exact h.waiters.refused j hj
  · intro j o ho
    by_cases hjk : j = k
    · subst hjk
      rw [hnew]
      refine ⟨hbegun, ?_⟩
      rintro rfl
      exact hpc trivial
    · rw [hold j hjk]
      exact h.waiters.outcome j o ho

/-- A session puts its waiter into the map. -/
theorem Tidy.insertWaiter (h : s.Tidy past) (htask : s.task k = .insertWaiter) :
    Tidy (past ++ [.insertWaiter k])
      { s.goto k .openWrite with
        openWaiters := Function.update s.openWaiters (s.streamId k) (some k) } := by
  have hf : s.Follows k .openWrite := by
    refine ⟨?_, ?_, ?_, ?_, fun _ _ _ _ => trivial, ?_, ?_⟩
    · simp [htask, ForwardPrivate.Live]
    · simp [htask, ForwardPrivate.Begun]
    · simp [htask, ForwardPrivate.HasTx]
    · simp [ForwardPrivate.Dropped]
    · simp [ForwardPrivate.Refused]
    · simp [ForwardPrivate.Begun]
  have hmoved : (s.goto k .openWrite).Tidy (past ++ [.insertWaiter k]) :=
    h.follow (fun _ hc => hc) (fun _ => StreamEvent.noConfusion) rfl rfl rfl rfl
      (h.follows_update hf rfl)
  refine ⟨⟨hmoved.ids.ids, hmoved.ids.begun⟩,
    ⟨hmoved.tx.opened, hmoved.tx.closed, hmoved.tx.dropped⟩,
    ⟨fun id j hj => ?_, hmoved.waiters.refusal, hmoved.waiters.refused, hmoved.waiters.outcome⟩⟩
  by_cases hid : id = s.streamId k
  · subst hid
    obtain rfl : k = j := by simpa using hj
    refine ⟨rfl, by simp [goto, ForwardPrivate.HasWaiter], ?_⟩
    rcases ho : s.outcome k with _ | o
    · exact ho
    · exact absurd htask (h.waiters.outcome k o ho).2
  · have hj' : s.openWaiters id = some j := by simpa [hid] using hj
    exact hmoved.waiters.waiter id j hj'

/-- Entries may leave `open_waiters`. -/
theorem Tidy.removeWaiter (h : s.Tidy past) (id : UInt32) :
    Tidy past { s with openWaiters := Function.update s.openWaiters id none } := by
  refine ⟨⟨h.ids.ids, h.ids.begun⟩, ⟨h.tx.opened, h.tx.closed, h.tx.dropped⟩,
    ⟨fun id' j hj => ?_, h.waiters.refusal, h.waiters.refused, h.waiters.outcome⟩⟩
  by_cases hid : id' = id
  · simp [hid] at hj
  · exact h.waiters.waiter id' j (by simpa [hid] using hj)

/-- A session removes its waiter from the map. -/
theorem Tidy.dropWaiter (h : s.Tidy past) (htask : s.task k = .abortWaiter) :
    Tidy (past ++ [.dropWaiter k])
      { s.goto k .abortTx with
        openWaiters := Function.update s.openWaiters (s.streamId k) none } := by
  have hremoved := h.removeWaiter (s.streamId k)
  suffices hf : Follows { s with
      openWaiters := Function.update s.openWaiters (s.streamId k) none } k .abortTx from
    hremoved.follow (fun _ hc => hc) (fun _ => StreamEvent.noConfusion) rfl rfl rfl rfl
      (hremoved.follows_update hf rfl)
  refine ⟨?_, ?_, ?_, ?_, ?_, ?_, ?_⟩
  · simp [htask, ForwardPrivate.Live]
  · simp [htask, ForwardPrivate.Begun]
  · simp [htask, ForwardPrivate.HasTx]
  · simp [ForwardPrivate.Dropped]
  · intro id hid _ _
    obtain ⟨hsid, -⟩ := hremoved.waiters.waiter id k hid
    subst hsid
    simp at hid
  · simp [ForwardPrivate.Refused]
  · simp [ForwardPrivate.Begun]

/-- An outcome reaches the session that waits for it; a refusal among the outcomes comes from the
agent. -/
theorem Tidy.resolve (h : s.Tidy (past ++ [e])) {id : UInt32} {outcome : OpenOutcome}
    (hins : ∀ j, e ≠ .insertTx j) (he : outcome.ok = false → EndsStream id e) :
    (s.resolve id outcome).Tidy (past ++ [e]) := by
  unfold ConnStreams.resolve
  rcases hk : s.openWaiters id with _ | k
  · exact h
  obtain ⟨hsid, hwaiter, hnone⟩ := h.waiters.waiter id k hk
  have hbegun := hwaiter.hasTx.begun
  have hremoved := h.removeWaiter id
  refine ⟨⟨hremoved.ids.ids, hremoved.ids.begun⟩,
    ⟨hremoved.tx.opened, hremoved.tx.closed, hremoved.tx.dropped⟩, ?_, ?_, ?_, ?_⟩
  · intro id' j hj
    obtain ⟨hsid', hw, ho⟩ := hremoved.waiters.waiter id' j hj
    have hjk : j ≠ k := by
      rintro rfl
      have hid' : id' = id := by rw [← hsid', ← hsid]
      simp [hid'] at hj
    exact ⟨hsid', hw, by simpa [hjk] using ho⟩
  · intro j o ho hok
    by_cases hjk : j = k
    · subst hjk
      obtain rfl : outcome = o := by simpa using ho
      have hne : StreamEvent.insertTx j ≠ e := (hins j).symm
      have hmem : .insertTx j ∈ past := by simpa [hne] using (h.ids.begun j).mpr hbegun
      rw [← hsid] at he
      exact since_snoc.mpr (.inr ⟨hmem, he hok⟩)
    · exact h.waiters.refusal j o (by simpa [hjk] using ho) hok
  · intro j hj
    obtain ⟨o, ho, hok⟩ := h.waiters.refused j hj
    have hjk : j ≠ k := by
      rintro rfl
      rw [hnone] at ho
      cases ho
    exact ⟨o, by simpa [hjk] using ho, hok⟩
  · intro j o ho
    by_cases hjk : j = k
    · subst hjk
      refine ⟨hbegun, fun hinserting => ?_⟩
      have hpc : s.task j = .insertWaiter := hinserting
      rw [hpc] at hwaiter
      exact hwaiter
    · exact h.waiters.outcome j o (by simpa [hjk] using ho)

/-- The agent closes a stream. -/
theorem Tidy.closeStream (h : s.Tidy past) (c : StreamClose) :
    Tidy (past ++ [.receive (.streamClose c)])
      { s with streamTx := Function.update s.streamTx c.streamId none } := by
  refine ⟨h.ids.follow rfl (fun _ hj => hj) fun j => ?_, ⟨?_, ?_, ?_⟩,
    h.waiters.follow rfl rfl rfl (fun _ _ _ hj _ => hj) h.waiters.refused h.waiters.outcome⟩
  · rw [← h.ids.begun]
    simp
  · intro j hj hc
    rw [since_snoc, not_or] at hc
    have hne : s.streamId j ≠ c.streamId := fun heq =>
      hc.2 ⟨(h.ids.begun j).mpr hj.begun, heq.symm⟩
    exact (Function.update_of_ne hne _ _).trans (h.tx.opened j hj hc.1)
  · intro j hj hc
    by_cases hid : s.streamId j = c.streamId
    · simp [hid]
    · rcases since_snoc.mp hc with hbefore | ⟨-, hnow⟩
      · exact (Function.update_of_ne hid _ _).trans (h.tx.closed j hj hbefore)
      · exact absurd hnow.symm hid
  · intro j hj
    by_cases hid : s.streamId j = c.streamId
    · simp [hid]
    · exact (Function.update_of_ne hid _ _).trans (h.tx.dropped j hj)

/-- Nothing changes for the sessions and the maps. -/
theorem Tidy.keep (h : s.Tidy past) (hq : Quiet e) (hins : ∀ j, e ≠ .insertTx j)
    (htx : t.streamTx = s.streamTx) (hwaiters : t.openWaiters = s.openWaiters)
    (hid : t.streamId = s.streamId) (hout : t.outcome = s.outcome) (htask : t.task = s.task) :
    t.Tidy (past ++ [e]) := by
  refine h.follow hq hins htx hwaiters hid hout fun j => ?_
  rw [htask]
  exact h.follows_self j

theorem Tidy.receive (h : s.Tidy past) (msg : IpcMessage) :
    (s.receive msg).Tidy (past ++ [.receive msg]) := by
  have hins : ∀ j, StreamEvent.receive msg ≠ .insertTx j := fun _ => StreamEvent.noConfusion
  cases msg with
  | openResult r =>
      have hkept : s.Tidy (past ++ [.receive (.openResult r)]) :=
        h.keep (fun _ hc => hc) hins rfl rfl rfl rfl rfl
      exact hkept.resolve hins fun hok => ⟨rfl, hok⟩
  | streamClose c => exact (h.closeStream c).resolve hins fun _ => rfl
  | streamData id data =>
      have hsame : ∀ {u : ConnStreams}, u = s.receive (.streamData id data) →
          u.streamTx = s.streamTx ∧ u.openWaiters = s.openWaiters ∧ u.streamId = s.streamId ∧
            u.outcome = s.outcome ∧ u.task = s.task := by
        rintro u rfl
        rcases htx : s.streamTx id with _ | k
        · simp [ConnStreams.receive, htx]
        · simp only [ConnStreams.receive, htx, offer]
          split_ifs <;> simp
      obtain ⟨htx, hwaiters, hid, hout, htask⟩ := hsame rfl
      exact h.keep (fun _ hc => hc) hins htx hwaiters hid hout htask
  | _ => exact h.keep (fun _ hc => hc) hins rfl rfl rfl rfl rfl

/-- A step on which session `k` goes to `pc` and the maps stay. -/
theorem Tidy.goto (h : s.Tidy past) (hq : Quiet e) (hins : ∀ j, e ≠ .insertTx j)
    (hf : s.Follows k pc) : (s.goto k pc).Tidy (past ++ [e]) :=
  h.follow hq hins rfl rfl rfl rfl (h.follows_update hf rfl)

/-- A session that keeps its queue in the map. -/
theorem Follows.of_hasTx (htask : (s.task k).HasTx) (hpc : pc.HasTx) (hne : pc ≠ .insertWaiter)
    (hwaiter : (s.task k).HasWaiter → s.outcome k = none → pc.HasWaiter)
    (hrefused : pc.Refused → ∃ o, s.outcome k = some o ∧ o.ok = false) : s.Follows k pc where
  live _ := htask.live
  begun := iff_of_true hpc.begun htask.begun
  hasTx _ := htask
  dropped hd := by
    rcases hd with rfl | rfl
    · exact hpc.elim
    · exact hpc.elim
  waiter _ _ := hwaiter
  refused := hrefused
  outcome _ _ := ⟨hpc.begun, hne⟩

/-- A session that returns. -/
theorem Follows.done (htask : (s.task k).Begun) (hwaiter : ¬ (s.task k).HasWaiter) :
    s.Follows k .done where
  live h := absurd rfl h.2
  begun := iff_of_true (by simp [ForwardPrivate.Begun]) htask
  hasTx h := h.elim
  dropped h := by rcases h with h | h <;> cases h
  waiter _ _ hw := absurd hw hwaiter
  refused h := by rcases h with h | h <;> cases h
  outcome _ _ := by simp [ForwardPrivate.Begun]

/-- A session that writes its last message, or gives up, returns. -/
theorem Tidy.done (h : s.Tidy past) (hq : Quiet e) (hins : ∀ j, e ≠ .insertTx j)
    (htask : (s.task k).Begun) (hwaiter : ¬ (s.task k).HasWaiter) :
    (s.goto k .done).Tidy (past ++ [e]) :=
  h.goto hq hins (.done htask hwaiter)

/-- A session in its relay loop stays there, or leaves it with its queue in the map. -/
theorem Follows.relaying (htask : (s.task k).HasTx) (hwaiter : ¬ (s.task k).HasWaiter)
    (hpc : pc.HasTx) (hne : pc ≠ .insertWaiter) (hrefused : ¬ pc.Refused) : s.Follows k pc :=
  .of_hasTx htask hpc hne (fun hw => absurd hw hwaiter) fun hr => absurd hr hrefused

/-- **The maps stay tidy** under steps with fresh stream ids. -/
theorem tidy_step (h : s.Tidy past) (hfresh : s.FreshId e) (hs : s.step e = some t) :
    t.Tidy (past ++ [e]) := by
  cases moves_of_step hs with
  | openElsewhere | roomClosed | room | pongWritten | pongFailed | hangUp =>
      exact h.keep (fun _ hc => hc) (fun _ => StreamEvent.noConfusion) rfl rfl rfl rfl rfl
  | openSession htask =>
      exact h.openSession htask hfresh (fun _ hc => hc) (fun _ => StreamEvent.noConfusion) rfl rfl
        rfl rfl rfl
  | insertTx htask => exact h.insertTx htask rfl rfl rfl rfl rfl
  | insertWaiter htask => exact h.insertWaiter htask
  | @openWritten k htask =>
      have hf : s.Follows k .waiting := by
        refine .of_hasTx ?_ trivial (by simp) (fun _ _ => trivial) (by simp [ForwardPrivate.Refused])
        simp [htask, ForwardPrivate.HasTx]
      exact h.follow (fun _ hc => hc) (fun _ => StreamEvent.noConfusion) rfl rfl rfl rfl
        (h.follows_update hf rfl)
  | openFailed htask | timeout htask =>
      refine h.goto (fun _ hc => hc) (fun _ => StreamEvent.noConfusion)
        (.of_hasTx ?_ trivial (by simp) (fun _ _ => trivial) (by simp [ForwardPrivate.Refused]))
      simp [htask, ForwardPrivate.HasTx]
  | @opened k o htask houtcome =>
      have hnone : s.outcome k ≠ none := by simp [houtcome]
      refine h.goto (fun _ hc => hc) (fun _ => StreamEvent.noConfusion)
        (.of_hasTx ?_ ?_ ?_ (fun _ hno => absurd hno hnone) ?_)
      · simp [htask, ForwardPrivate.HasTx]
      · split <;> trivial
      · split <;> simp
      · intro hr
        refine ⟨o, houtcome, ?_⟩
        by_contra hok
        rw [if_pos (by simpa using hok)] at hr
        rcases hr with hr | hr <;> cases hr
  | dropWaiter htask => exact h.dropWaiter htask
  | dropAborted _ htask | dropRefused _ htask | dropClosing _ htask =>
      refine h.dropTx ?_ ?_ ?_ ?_ ?_ <;>
        simp [htask, ForwardPrivate.HasTx, ForwardPrivate.HasWaiter, ForwardPrivate.Begun,
          ForwardPrivate.Refused]
  | @failWritten k htask | @closeWritten k htask =>
      have hf : s.Follows k .done := by
        refine .done ?_ ?_ <;> simp [htask, ForwardPrivate.Begun, ForwardPrivate.HasWaiter]
      exact h.follow (fun _ hc => hc) (fun _ => StreamEvent.noConfusion) rfl rfl rfl rfl
        (h.follows_update hf rfl)
  | failFailed htask | closeFailed htask | clientError htask | upFailed htask | downFailed htask =>
      refine h.done (fun _ hc => hc) (fun _ => StreamEvent.noConfusion) ?_ ?_ <;>
        simp [htask, ForwardPrivate.Begun, ForwardPrivate.HasWaiter]
  | clientData htask | clientEof htask | clientGone htask | downGone htask | recvClosed htask =>
      refine h.goto (fun _ hc => hc) (fun _ => StreamEvent.noConfusion)
        (.relaying ?_ ?_ trivial ?_ ?_) <;>
        simp [htask, ForwardPrivate.HasTx, ForwardPrivate.HasWaiter, ForwardPrivate.Refused]
  | @upWritten k data htask | @downWritten k data htask =>
      have hf : s.Follows k .relay := by
        refine .relaying ?_ ?_ trivial ?_ ?_ <;>
          simp [htask, ForwardPrivate.HasTx, ForwardPrivate.HasWaiter, ForwardPrivate.Refused]
      exact h.follow (fun _ hc => hc) (fun _ => StreamEvent.noConfusion) rfl rfl rfl rfl
        (h.follows_update hf rfl)
  | @recv k data rest htask hqueue =>
      have hf : s.Follows k (.sendingDown data) := by
        refine .relaying ?_ ?_ trivial ?_ ?_ <;>
          simp [htask, ForwardPrivate.HasTx, ForwardPrivate.HasWaiter, ForwardPrivate.Refused]
      exact h.follow (fun _ hc => hc) (fun _ => StreamEvent.noConfusion) rfl rfl rfl rfl
        (h.follows_update hf rfl)
  | receive => exact h.receive _

theorem tidy_of_run (h : machine.Run FreshId past s) : s.Tidy past := by
  induction h with
  | init =>
      refine ⟨⟨?_, ?_⟩, ⟨?_, ?_, ?_⟩, ⟨?_, ?_, ?_, ?_⟩⟩
      · rintro j k ⟨hj, -⟩
        exact absurd rfl hj
      · simp [machine, ForwardPrivate.Begun]
      · exact fun _ hj => hj.elim
      · exact fun _ hj => hj.elim
      · rintro j (hj | hj) <;> cases hj
      · rintro id j ⟨⟩
      · rintro j o ⟨⟩
      · rintro j (hj | hj) <;> cases hj
      · rintro j o ⟨⟩
  | snoc _ hc hs ih => exact tidy_step ih hc hs

/-! ### Which returns are clean -/

/-- The ways in which a session returns. -/
theorem returns_cases (hr : s.Returns k t) (hs : s.step e = some t) :
    (e = .dropTx k ∧ s.task k = .abortTx ∧ t = (s.removeTx k).goto k .done) ∨
      (((∃ ok, e = .failWritten k ok) ∧ s.task k = .failWrite ∨
          (∃ ok, e = .closeWritten k ok) ∧ s.task k = .closeWrite) ∧
        t.streamTx = s.streamTx ∧ t.openWaiters = s.openWaiters ∧ t.streamId = s.streamId) ∨
      ((e = .clientError k false ∨ e = .upWritten k false ∨ e = .downFailed k false) ∧
        (s.task k).HasTx ∧ ¬ (s.task k).HasWaiter ∧ t = s.goto k .done) := by
  have hmoved : ∀ {j pc}, t.task = Function.update s.task j pc → k = j ∧ pc = .done := by
    intro j pc htask
    have hdone := hr.2
    rw [htask] at hdone
    by_cases hkj : k = j
    · subst hkj
      rw [Function.update_self] at hdone
      exact ⟨rfl, hdone⟩
    · rw [Function.update_of_ne hkj] at hdone
      exact absurd hdone hr.1
  cases moves_of_step hs with
  | openElsewhere | roomClosed | room | pongWritten | pongFailed | hangUp =>
      exact absurd hr.2 hr.1
  | receive =>
      have hdone := hr.2
      rw [(receive_frame s _).2.2] at hdone
      exact absurd hdone hr.1
  | dropAborted _ htask =>
      obtain ⟨rfl, -⟩ := hmoved rfl
      exact .inl ⟨rfl, htask, rfl⟩
  | failWritten htask | failFailed htask =>
      obtain ⟨rfl, -⟩ := hmoved rfl
      exact .inr (.inl ⟨.inl ⟨⟨_, rfl⟩, htask⟩, rfl, rfl, rfl⟩)
  | closeWritten htask | closeFailed htask =>
      obtain ⟨rfl, -⟩ := hmoved rfl
      exact .inr (.inl ⟨.inr ⟨⟨_, rfl⟩, htask⟩, rfl, rfl, rfl⟩)
  | clientError htask =>
      obtain ⟨rfl, -⟩ := hmoved rfl
      refine .inr (.inr ⟨.inl rfl, ?_, ?_, rfl⟩) <;>
        simp [htask, ForwardPrivate.HasTx, ForwardPrivate.HasWaiter]
  | upFailed htask =>
      obtain ⟨rfl, -⟩ := hmoved rfl
      refine .inr (.inr ⟨.inr (.inl rfl), ?_, ?_, rfl⟩) <;>
        simp [htask, ForwardPrivate.HasTx, ForwardPrivate.HasWaiter]
  | downFailed htask =>
      obtain ⟨rfl, -⟩ := hmoved rfl
      refine .inr (.inr ⟨.inr (.inr rfl), ?_, ?_, rfl⟩) <;>
        simp [htask, ForwardPrivate.HasTx, ForwardPrivate.HasWaiter]
  | opened =>
      obtain ⟨-, hpc⟩ := hmoved rfl
      split at hpc <;> cases hpc
  | _ =>
      obtain ⟨-, hpc⟩ := hmoved rfl
      cases hpc

/-- An error with which a session returns from its relay loop leaves the map clean only if the agent
has closed the stream. -/
theorem Tidy.closed_of_clean (h : s.Tidy past) (htx : (s.task k).HasTx)
    (hclean : CleanReturn past s e (s.goto k .done)) : Since k (ClosesStream (s.streamId k)) past := by
  have hne : s.task k ≠ .done := htx.live.2
  have hdone : (s.goto k .done).task k = .done := Function.update_self ..
  have hnone : s.streamTx (s.streamId k) = none := (hclean k ⟨hne, hdone⟩).1
  by_contra hopen
  rw [h.tx.opened k htx hopen] at hnone
  cases hnone

/-- A return is clean exactly if the exit is. -/
theorem cleanReturn_iff (h : s.Tidy past) (hs : s.step e = some t) :
    CleanReturn past s e t ↔ CleanExit past s e t := by
  constructor
  · intro hclean
    unfold CleanExit
    split
    · cases moves_of_step hs with
      | clientError htask => exact h.closed_of_clean (by simp [htask, ForwardPrivate.HasTx]) hclean
    · cases moves_of_step hs with
      | upFailed htask => exact h.closed_of_clean (by simp [htask, ForwardPrivate.HasTx]) hclean
    · cases moves_of_step hs with
      | downFailed htask => exact h.closed_of_clean (by simp [htask, ForwardPrivate.HasTx]) hclean
    · rename_i k
      intro htask hsent
      cases moves_of_step hs with
      | dropAborted =>
          have hne : s.task k ≠ .done := by simp [htask]
          have hdone : ((s.removeTx k).goto k .done).task k = .done := Function.update_self ..
          by_contra hgoes
          obtain ⟨ok, hclose⟩ := (hclean k ⟨hne, hdone⟩).2.2 hsent hgoes
          cases hclose
      | dropRefused _ htask' | dropClosing _ htask' =>
          rw [htask] at htask'
          cases htask'
    · trivial
  · intro hexit k hr
    rcases returns_cases hr hs with ⟨rfl, htask, rfl⟩ | ⟨hlast, htx, hwaiters, hid⟩ |
      ⟨herror, htx, hwaiter, rfl⟩
    · have hlive : (s.task k).Live := by simp [htask, ForwardPrivate.Live]
      have hwaiter : ¬ (s.task k).HasWaiter := by simp [htask, ForwardPrivate.HasWaiter]
      refine ⟨Function.update_self .., h.no_waiter hlive hwaiter, fun hsent hgoes => ?_⟩
      exact absurd (hexit htask hsent) hgoes
    · have hdropped : (s.task k).Dropped := by
        rcases hlast with ⟨-, htask⟩ | ⟨-, htask⟩
        · exact .inl htask
        · exact .inr htask
      have hwaiter : ¬ (s.task k).HasWaiter := by
        rcases hdropped with htask | htask <;> simp [htask, ForwardPrivate.HasWaiter]
      rw [htx, hwaiters, hid]
      refine ⟨h.tx.dropped k hdropped, h.no_waiter hdropped.live hwaiter, fun _ hgoes => ?_⟩
      rcases hlast with ⟨-, htask⟩ | ⟨hclose, -⟩
      · -- a session that reports a refusal has got it from the agent
        obtain ⟨o, ho, hok⟩ := h.waiters.refused k (.inr htask)
        exact absurd (h.waiters.refusal k o ho hok) hgoes
      · exact hclose
    · have hclosed : Since k (ClosesStream (s.streamId k)) past := by
        rcases herror with rfl | rfl | rfl <;> exact hexit
      refine ⟨h.tx.closed k htx hclosed, h.no_waiter htx.live hwaiter, fun _ hgoes => ?_⟩
      exact absurd (hclosed.mono fun _ hc => hc.ends) hgoes

/-- **Clean returns, exactly.** In a run with fresh stream ids, every session that returns leaves
neither a queue nor a waiter of its stream in the maps, and has written `StreamClose` or failed in
writing it where the agent does not know better, iff every exit of the run is clean: a session
returns on an error of the client that is not benign, or on a failed write of data, only when the
agent has closed the stream before, and after the timeout only when the agent has refused or closed
it before.
Source: `daemon.rs`, `forward_private` -/
theorem returns_clean_iff {events : List StreamEvent} (h : machine.Run FreshId events s) :
    machine.EachStep CleanReturn events ↔ machine.EachStep CleanExit events :=
  h.eachStep_iff fun _ _ _ _ hr _ hs => cleanReturn_iff (tidy_of_run hr) hs

/-- The client of a session closes. -/
theorem closed_session_clean :
    machine.EachStep CleanReturn
      (openAccepted ++ [.clientEof 0, .dropTx 0, .closeWritten 0 true]) := by
  have hrun : ∃ s, machine.Run FreshId
      (openAccepted ++ [.clientEof 0, .dropTx 0, .closeWritten 0 true]) s := by
    refine ⟨_, .snoc (.snoc (.snoc (.snoc (.snoc (.snoc (.snoc (.snoc (.snoc .init ?_ rfl) trivial
      rfl) trivial rfl) trivial rfl) trivial rfl) trivial rfl) trivial rfl) trivial rfl) trivial
      rfl⟩
    intro j hj
    exact absurd rfl hj
  have hexits : machine.EachStep CleanExit
      (openAccepted ++ [.clientEof 0] ++ [.dropTx 0] ++ [.closeWritten 0 true]) := by
    have hopen : machine.EachStep CleanExit (openAccepted ++ [.clientEof 0]) := by
      change machine.EachStep CleanExit ([] ++ [_] ++ [_] ++ [_] ++ [_] ++ [_] ++ [_] ++ [_])
      exact (((((((Machine.eachStep_nil.snoc fun _ _ _ _ => trivial).snoc fun _ _ _ _ =>
        trivial).snoc fun _ _ _ _ => trivial).snoc fun _ _ _ _ => trivial).snoc fun _ _ _ _ =>
        trivial).snoc fun _ _ _ _ => trivial).snoc fun _ _ _ _ => trivial)
    refine (hopen.snoc fun s t hr hs => ?_).snoc fun _ _ _ _ => trivial
    intro htask
    obtain rfl := hr.unique (Machine.reaches_of_exec rfl)
    cases htask
  obtain ⟨s, hs⟩ := hrun
  exact (returns_clean_iff hs).mpr hexits

/-- A session is opened, and the agent does not answer in time. -/
def openUnanswered : List StreamEvent :=
  [.openSession 0 "office:ABC" "shell:ls", .insertTx 0, .insertWaiter 0, .openWritten 0 true,
    .timeout 0, .dropWaiter 0]

/-- Reading from the client fails: the queue of the session stays in the map, and the agent is not
told. After the timeout the agent is not told either, and may open the stream for nobody. -/
theorem unclean_returns :
    (∃ s t, machine.Reaches openAccepted s ∧ s.step (.clientError 0 false) = some t ∧
      s.Returns 0 t ∧ t.streamTx (t.streamId 0) = some 0 ∧
      ¬ CleanReturn openAccepted s (.clientError 0 false) t) ∧
    ∃ s t, machine.Reaches openUnanswered s ∧ s.step (.dropTx 0) = some t ∧
      s.Returns 0 t ∧ t.toAgent = [.openPrivateStream ⟨1, "office:ABC", "shell:ls"⟩] ∧
      ¬ CleanReturn openUnanswered s (.dropTx 0) t := by
  constructor
  · have hstate : ∃ s t, machine.Reaches openAccepted s ∧
        s.step (.clientError 0 false) = some t ∧ s.Returns 0 t ∧
        t.streamTx (t.streamId 0) = some 0 := by
      have hne : ForwardPrivate.relay ≠ .done := by simp
      exact ⟨_, _, Machine.reaches_of_exec rfl, rfl, ⟨hne, rfl⟩, rfl⟩
    obtain ⟨s, t, hr, hs, hret, htx⟩ := hstate
    refine ⟨s, t, hr, hs, hret, htx, fun hclean => ?_⟩
    have hnone := (hclean 0 hret).1
    rw [htx] at hnone
    cases hnone
  · have hstate : ∃ s t, machine.Reaches openUnanswered s ∧ s.step (.dropTx 0) = some t ∧
        s.Returns 0 t ∧ t.toAgent = [.openPrivateStream ⟨1, "office:ABC", "shell:ls"⟩] := by
      have hne : ForwardPrivate.abortTx ≠ .done := by simp
      exact ⟨_, _, Machine.reaches_of_exec rfl, rfl, ⟨hne, rfl⟩, rfl⟩
    obtain ⟨s, t, hr, hs, hret, hagent⟩ := hstate
    refine ⟨s, t, hr, hs, hret, hagent, fun hclean => ?_⟩
    have hsilent : ¬ Since 0 (EndsStream (t.streamId 0)) openUnanswered := by
      rintro ⟨before, after, e, hpast, he, hends⟩
      have hmem : e ∈ openUnanswered := by
        rw [hpast]
        simp [he]
      simp only [openUnanswered, List.mem_cons, List.not_mem_nil, or_false] at hmem
      rcases hmem with rfl | rfl | rfl | rfl | rfl | rfl <;> exact hends
    obtain ⟨ok, hclose⟩ := (hclean 0 hret).2.2 (by simp [openUnanswered]) hsilent
    cases hclose

end ConnStreams

end AdbHub
