import AdbHub.Link.Sound

/-!
# Between the sockets and the control socket

What each side reads from a socket it sends on in order, and what it gets from the other side it
writes to the socket in order.

* `Line` — the data of a stream that one side holds.
* `Traffic.Flows` — what was read is what was sent and what is held, and what was got is what was
  written and what is held; a stream that has ended sent and wrote prefixes.
* `Link.Flows` — both sides; **`flows_step`**.
-/

namespace AdbHub

open Lib

/-! ## The data of a stream on one side -/

/-- The data of a stream that one side holds. -/
structure Line where
  /-- Read from the socket and not sent on yet. -/
  inHand : Bytes := []
  /-- Being written to the socket. -/
  outHand : Bytes := []
  /-- Got from the other side and waiting to be written. -/
  queued : Bytes := []

namespace Traffic

/-- Streams that go on have sent and written all but what is held; those that have ended have sent
and written a part. -/
structure Flows (t : Traffic) (line : ℕ → Option Line) : Prop where
  up : ∀ k l, line k = some l → t.read k = t.sent k ++ l.inHand
  down : ∀ k l, line k = some l → t.got k = t.written k ++ l.outHand.drop (t.out k) ++ l.queued
  sent : ∀ k, t.sent k <+: t.read k
  written : ∀ k, t.written k <+: t.got k

variable {t : Traffic} {line line' : ℕ → Option Line} {k n : ℕ} {l l' : Line} {data : Bytes}

/-- Nothing is read, sent, got or written; streams go on or end. -/
theorem Flows.keep (hf : t.Flows line) (hline : ∀ i l, line' i = some l → line i = some l) :
    t.Flows line' where
  up i l hl := hf.up i l (hline i l hl)
  down i l hl := hf.down i l (hline i l hl)
  sent := hf.sent
  written := hf.written

/-- A stream takes data from its socket. -/
theorem Flows.read (hf : t.Flows line) (hk : line k = some l) (hempty : l.inHand = [])
    (hk' : line' k = some { l with inHand := data })
    (hline : ∀ i, i ≠ k → ∀ l, line' i = some l → line i = some l) :
    (t.note (some (.read k data))).Flows line' := by
  have hup := hf.up k l hk
  have hdown := hf.down k l hk
  refine ⟨fun i m hm => ?_, fun i m hm => ?_, fun i => ?_, hf.written⟩
  · by_cases hi : i = k
    · subst hi
      obtain rfl := Option.some.inj (hk'.symm.trans hm)
      simp [note, hup, hempty]
    · simpa [note, hi] using hf.up i m (hline i hi m hm)
  · by_cases hi : i = k
    · subst hi
      obtain rfl := Option.some.inj (hk'.symm.trans hm)
      exact hdown
    · exact hf.down i m (hline i hi m hm)
  · by_cases hi : i = k
    · subst hi
      simpa [note] using (hf.sent i).trans (List.prefix_append _ _)
    · simpa [note, hi] using hf.sent i

/-- The data in hand is sent. -/
theorem Flows.send (hf : t.Flows line) (hk : line k = some l) (hdata : l.inHand = data)
    (hk' : line' k = some { l with inHand := [] })
    (hline : ∀ i, i ≠ k → ∀ l, line' i = some l → line i = some l) :
    (t.note (some (.sent k data))).Flows line' := by
  have hup := hf.up k l hk
  have hdown := hf.down k l hk
  refine ⟨fun i m hm => ?_, fun i m hm => ?_, fun i => ?_, hf.written⟩
  · by_cases hi : i = k
    · subst hi
      obtain rfl := Option.some.inj (hk'.symm.trans hm)
      simp [note, hup, hdata]
    · simpa [note, hi] using hf.up i m (hline i hi m hm)
  · by_cases hi : i = k
    · subst hi
      obtain rfl := Option.some.inj (hk'.symm.trans hm)
      exact hdown
    · exact hf.down i m (hline i hi m hm)
  · by_cases hi : i = k
    · subst hi
      simp [note, hup, hdata]
    · simpa [note, hi] using hf.sent i

/-- Data of the other side is queued, or thrown away because the stream has ended. -/
theorem Flows.get (hf : t.Flows line)
    (hk' : ∀ l', line' k = some l' →
      ∃ l, line k = some l ∧ l' = { l with queued := l.queued ++ data })
    (hline : ∀ i, i ≠ k → ∀ l, line' i = some l → line i = some l) :
    (t.note (some (.got k data))).Flows line' := by
  refine ⟨fun i m hm => ?_, fun i m hm => ?_, hf.sent, fun i => ?_⟩
  · by_cases hi : i = k
    · subst hi
      obtain ⟨l, hl, rfl⟩ := hk' m hm
      exact hf.up i l hl
    · exact hf.up i m (hline i hi m hm)
  · by_cases hi : i = k
    · subst hi
      obtain ⟨l, hl, rfl⟩ := hk' m hm
      simp [note, hf.down i l hl]
    · simpa [note, hi] using hf.down i m (hline i hi m hm)
  · by_cases hi : i = k
    · subst hi
      simpa [note] using (hf.written i).trans (List.prefix_append _ _)
    · simpa [note, hi] using hf.written i

/-- The stream takes data out of its queue to write it. -/
theorem Flows.begins (hf : t.Flows line)
    (hk : ∀ l', line' k = some l' → ∃ l, line k = some l ∧ l.outHand = [] ∧
      l'.inHand = l.inHand ∧ l.queued = l'.outHand ++ l'.queued)
    (hline : ∀ i, i ≠ k → ∀ l, line' i = some l → line i = some l) :
    (t.note (some (.begins k))).Flows line' := by
  refine ⟨fun i m hm => ?_, fun i m hm => ?_, hf.sent, hf.written⟩
  · by_cases hi : i = k
    · subst hi
      obtain ⟨l, hl, -, hin, -⟩ := hk m hm
      rw [hin]
      exact hf.up i l hl
    · exact hf.up i m (hline i hi m hm)
  · by_cases hi : i = k
    · subst hi
      obtain ⟨l, hl, hempty, -, hqueued⟩ := hk m hm
      simp [note, hf.down i l hl, hempty, hqueued]
    · simpa [note, hi] using hf.down i m (hline i hi m hm)

/-- The rest of the data is written. -/
theorem Flows.wrote (hf : t.Flows line) (hk : line k = some l) (hdata : l.outHand = data)
    (hk' : ∀ l', line' k = some l' → l' = { l with outHand := [] })
    (hline : ∀ i, i ≠ k → ∀ l, line' i = some l → line i = some l) :
    (t.note (some (.wrote k data))).Flows line' := by
  have hup := hf.up k l hk
  have hdown := hf.down k l hk
  refine ⟨fun i m hm => ?_, fun i m hm => ?_, hf.sent, fun i => ?_⟩
  · by_cases hi : i = k
    · subst hi
      obtain rfl := hk' m hm
      exact hup
    · exact hf.up i m (hline i hi m hm)
  · by_cases hi : i = k
    · subst hi
      obtain rfl := hk' m hm
      simp [note, hdown, hdata]
    · simpa [note, hi] using hf.down i m (hline i hi m hm)
  · by_cases hi : i = k
    · subst hi
      simp [note, hdown, hdata]
    · simpa [note, hi] using hf.written i

/-- A part of the data is written. -/
theorem Flows.piece (hf : t.Flows line) (hk : line k = some l) (hdata : l.outHand = data) :
    (t.piece k data n).Flows line := by
  have hdown := hf.down k l hk
  have hsplit : data.drop (t.out k) =
      (data.drop (t.out k)).take n ++ data.drop (t.out k + n) := by
    rw [← List.drop_drop, List.take_append_drop]
  rw [hdata, hsplit] at hdown
  refine ⟨hf.up, fun i m hm => ?_, hf.sent, fun i => ?_⟩
  · by_cases hi : i = k
    · subst hi
      obtain rfl := Option.some.inj (hk.symm.trans hm)
      simp only [Traffic.piece, Function.update_self, hdata]
      rw [hdown]
      simp only [List.append_assoc]
    · simpa [Traffic.piece, hi] using hf.down i m hm
  · by_cases hi : i = k
    · subst hi
      simp only [Traffic.piece, Function.update_self]
      rw [hdown, ← List.append_assoc (t.written i), List.append_assoc _ _ l.queued]
      exact List.prefix_append _ _
    · simpa [Traffic.piece, hi] using hf.written i

end Traffic

/-! ## The sessions -/

/-- The data the read loop waits with for room in the queue of a session. -/
def ReadLoop.waitsWith (loop : ReadLoop) (k : ℕ) : Bytes :=
  match loop with
  | .sending i data => if i = k then data else []
  | _ => []

/-- The data a session holds, with `queued` in its queue; nothing is kept for a session that has
left its relay loop. -/
def ForwardPrivate.line (queued : Bytes) : ForwardPrivate → Option Line
  | .absent => some {}
  | .sendingUp data => some { inHand := data, queued := queued }
  | .sendingDown data => some { outHand := data, queued := queued }
  | .closing | .closeWrite | .done => none
  | _ => some { queued := queued }

/-- More data for a session that is there. -/
theorem ForwardPrivate.line_append {q : ForwardPrivate} {queued data : Bytes} {l' : Line}
    (hpc : q ≠ .absent) (h : q.line (queued ++ data) = some l') :
    ∃ l, q.line queued = some l ∧ l' = { l with queued := l.queued ++ data } := by
  cases q with
  | absent => exact absurd rfl hpc
  | closing | closeWrite | done => cases h
  | _ =>
      obtain rfl := Option.some.inj h
      exact ⟨_, rfl, rfl⟩

namespace ConnStreams

variable {d d' : ConnStreams} {e : StreamEvent} {k : ℕ} {q : ForwardPrivate} {t : Traffic}

/-- What waits to be written to the client of a session. -/
def queued (d : ConnStreams) (k : ℕ) : Bytes := (d.queue k).flatten ++ d.loop.waitsWith k

/-- The data each session holds. -/
def line (d : ConnStreams) (k : ℕ) : Option Line := (d.task k).line (d.queued k)

/-- The other sessions hold what they held. -/
theorem line_other (htask : ∀ i, i ≠ k → d'.task i = d.task i)
    (hqueue : ∀ i, i ≠ k → d'.queue i = d.queue i)
    (hloop : ∀ i, i ≠ k → d'.loop.waitsWith i = d.loop.waitsWith i) :
    ∀ i, i ≠ k → ∀ l, d'.line i = some l → d.line i = some l := by
  intro i hi l hl
  rwa [line, queued, htask i hi, hqueue i hi, hloop i hi] at hl

/-- Moving a session. -/
theorem line_moved (htask : d'.task = Function.update d.task k q) (hqueue : d'.queue = d.queue)
    (hloop : d'.loop = d.loop) :
    d'.line k = q.line (d.queued k) ∧
      ∀ i, i ≠ k → ∀ l, d'.line i = some l → d.line i = some l := by
  constructor
  · rw [line, queued, htask, hqueue, hloop, Function.update_self]
    rfl
  · apply line_other
    · intro i hi
      rw [htask, Function.update_of_ne hi]
    · intro i hi
      rw [hqueue]
    · intro i hi
      rw [hloop]

theorem line_goto (d : ConnStreams) (k : ℕ) (q : ForwardPrivate) :
    (d.goto k q).line k = q.line (d.queued k) ∧
      ∀ i, i ≠ k → ∀ l, (d.goto k q).line i = some l → d.line i = some l :=
  line_moved rfl rfl rfl

/-- A session moves and holds what it held, or ends. -/
theorem flows_moved (hf : t.Flows d.line) (htask : d'.task = Function.update d.task k q)
    (hqueue : d'.queue = d.queue) (hloop : d'.loop = d.loop)
    (hpc : ∀ queued l, q.line queued = some l → (d.task k).line queued = some l) :
    t.Flows d'.line := by
  obtain ⟨hk, hline⟩ := line_moved htask hqueue hloop
  apply hf.keep
  intro i l hl
  by_cases hi : i = k
  · subst hi
    exact hpc _ l (hk ▸ hl)
  · exact hline i hi l hl

/-- Nothing waits for a session that is not in the map. -/
theorem waitsWith_of_unlinked (hl : d.Linked) (hk : (d.task k).Unlinked) :
    d.loop.waitsWith k = [] := by
  unfold ReadLoop.waitsWith
  split
  · rename_i i data hloop
    rw [if_neg]
    rintro rfl
    exact hl.sending i data hloop hk
  · rfl

theorem waitsWith_of_free (h : d.loop.waiting = none) (k : ℕ) : d.loop.waitsWith k = [] := by
  cases hloop : d.loop with
  | sending i data =>
      rw [hloop] at h
      cases h
  | _ => rfl

/-- Data for a session in the map. -/
theorem flows_offer (hf : t.Flows d.line) (hfree : d.loop.waiting = none)
    (hk : d.task k ≠ .absent) (data : Bytes) :
    (t.note (some (.got k data))).Flows (d.offer k data).line := by
  have hnone := waitsWith_of_free hfree
  unfold offer
  split_ifs with hdone hfull
  · refine hf.get (fun l' hl' => ?_) fun i _ l hl => hl
    rw [line, hdone] at hl'
    cases hl'
  · refine hf.get (fun l' hl' => ?_) ?_
    · apply ForwardPrivate.line_append hk
      rw [queued, hnone k, List.append_nil]
      simpa [line, queued, ReadLoop.waitsWith] using hl'
    · apply line_other
      · exact fun _ _ => rfl
      · exact fun _ _ => rfl
      · intro i hi
        rw [hnone i]
        exact if_neg (Ne.symm hi)
  · refine hf.get (fun l' hl' => ?_) ?_
    · apply ForwardPrivate.line_append hk
      simpa [line, queued, hnone k] using hl'
    · apply line_other
      · exact fun _ _ => rfl
      · intro i hi
        exact Function.update_of_ne hi _ _
      · exact fun _ _ => rfl

/-- Taking up a message. -/
theorem flows_receive (hl : d.Linked) (hf : t.Flows d.line) (hfree : d.loop.waiting = none)
    (msg : IpcMessage) : (t.note (d.traffic (.receive msg))).Flows (d.receive msg).line := by
  have hresolve : ∀ (d : ConnStreams) id o, (d.resolve id o).line = d.line := by
    intro d id o
    unfold resolve
    split <;> rfl
  cases msg with
  | openResult r =>
      show t.Flows (d.resolve _ _).line
      rwa [hresolve]
  | streamClose c =>
      show t.Flows (ConnStreams.resolve _ _ _).line
      rw [hresolve]
      exact hf
  | streamData id data =>
      rcases htx : d.streamTx id with _ | k
      · simpa [traffic, receive, htx, Traffic.note] using hf
      · have hk : d.task k ≠ .absent := fun hk => (hl.table id k htx).2 (.inl hk)
        simpa [traffic, receive, htx] using flows_offer hf hfree hk data
  | ping =>
      refine hf.keep fun i l hl => ?_
      rw [line, queued, waitsWith_of_free hfree]
      exact hl
  | registerAgent | deviceSnapshot | deviceSnapshotChanged | openPrivateStream | pong => exact hf

/-- **The sessions keep the bytes in order.** -/
theorem flows_step (hl : d.Linked) (hf : t.Flows d.line) (h : d.step e = some d') :
    (t.note (d.traffic e)).Flows d'.line := by
  cases moves_of_step h with
  | openElsewhere => exact hf
  | @openSession k routeId service htask =>
      have hnone := waitsWith_of_unlinked hl (.inl htask)
      refine hf.keep fun i l hl' => ?_
      by_cases hi : i = k
      · subst hi
        simp only [line, queued, goto, Function.update_self] at hl'
        rw [line, htask]
        rw [hnone] at hl'
        exact hl'
      · simpa [line, queued, goto, hi] using hl'
  | insertTx htask | insertWaiter htask | openWritten htask | openFailed htask | timeout htask
  | dropWaiter htask | dropRefused _ htask =>
      refine flows_moved hf rfl rfl rfl fun queued l hl => ?_
      rw [htask]
      exact hl
  | dropAborted | dropClosing | failWritten | failFailed | clientEof | clientGone | clientError
  | upFailed | recvClosed | downGone | downFailed | closeWritten | closeFailed =>
      refine flows_moved hf rfl rfl rfl fun queued l hl => ?_
      cases hl
  | @opened k o htask =>
      refine flows_moved hf rfl rfl rfl fun queued l hl => ?_
      rw [htask]
      split at hl <;> exact hl
  | @clientData k data htask =>
      obtain ⟨hk, hline⟩ := line_goto d k (.sendingUp data)
      have hk0 : d.line k = some { queued := d.queued k } := by
        rw [line, htask]
        rfl
      exact hf.read hk0 rfl hk hline
  | @upWritten k data htask =>
      have htraffic : d.traffic (.upWritten k true) = some (.sent k data) := by
        simp [traffic, htask]
      obtain ⟨hk, hline⟩ := line_goto d k .relay
      have hk0 : d.line k = some { inHand := data, queued := d.queued k } := by
        rw [line, htask]
        rfl
      rw [htraffic]
      exact hf.send hk0 rfl hk hline
  | @recv k data rest htask hqueue =>
      have hk0 : d.line k = some { queued := d.queued k } := by
        rw [line, htask]
        rfl
      refine hf.begins (fun l' hl' => ⟨_, hk0, rfl, ?_⟩) (line_other ?_ ?_ fun _ _ => rfl)
      · simp only [line, queued, goto, Function.update_self, ForwardPrivate.line,
          Option.some.injEq] at hl'
        subst hl'
        simp [queued, hqueue]
      · intro i hi
        exact Function.update_of_ne hi _ _
      · intro i hi
        exact Function.update_of_ne hi _ _
  | @downWritten k data htask =>
      have htraffic : d.traffic (.downWritten k) = some (.wrote k data) := by
        simp [traffic, htask]
      obtain ⟨hk, hline⟩ := line_goto d k .relay
      have hk0 : d.line k = some { outHand := data, queued := d.queued k } := by
        rw [line, htask]
        rfl
      rw [htraffic]
      exact hf.wrote hk0 rfl (fun l' hl' => Option.some.inj (hl'.symm.trans hk)) hline
  | receive hloop => exact flows_receive hl hf (by rw [hloop]; rfl) _
  | @roomClosed k data hloop htask =>
      refine hf.keep fun i l hl' => ?_
      by_cases hi : i = k
      · subst hi
        rw [line, htask] at hl'
        cases hl'
      · have hnone : d.loop.waitsWith i = [] := by
          rw [hloop]
          exact if_neg (Ne.symm hi)
        rw [line, queued, hnone]
        exact hl'
  | @room k data hloop =>
      refine hf.keep fun i l hl' => ?_
      by_cases hi : i = k
      · subst hi
        simpa [line, queued, hloop, ReadLoop.waitsWith] using hl'
      · simpa [line, queued, hloop, ReadLoop.waitsWith, hi, Ne.symm hi] using hl'
  | pongWritten hloop | pongFailed hloop | hangUp hloop =>
      refine hf.keep fun i l hl' => ?_
      rw [line, queued, waitsWith_of_free (by rw [hloop]; rfl)]
      exact hl'

end ConnStreams

/-! ## The stream tasks -/

/-- The data the main loop waits with for room in the queue of a task. -/
def MainLoop.waitsWith (main : MainLoop) (j : ℕ) : Bytes :=
  match main with
  | .sending i data => if i = j then data else []
  | _ => []

/-- The data that is being written to the upstream. -/
def ToUp.data : ToUp → Bytes
  | .recv => []
  | .writing data => data

namespace AgentState

variable {json : SerdeJson} {a a' u : AgentState} {e : AgentTaskEvent} {w : Writer}
  {msg : IpcMessage} {j n : ℕ} {q : StreamTask} {t : Traffic} {ok : Bool}

/-- What waits to be written to the upstream of a task. -/
def queued (a : AgentState) (j : ℕ) : Bytes := (a.queue j).flatten ++ a.main.waitsWith j

/-- The data of the upstream that a task holds; none if it writes and the frame is not its own. -/
def inHand (a : AgentState) (j : ℕ) : FromUp → Option Bytes
  | .reading => some []
  | .want data => some data
  | .writing =>
      match a.wire.message with
      | some (.task i, .streamData _ data) => if i = j then some data else none
      | _ => none

/-- The data each task holds; nothing is kept for a task that has left its `select!`. -/
def line (a : AgentState) (j : ℕ) : Option Line :=
  match a.task j with
  | .absent => some {}
  | .relaying toUp fromUp => (a.inHand j fromUp).map fun data => ⟨data, toUp.data, a.queued j⟩
  | _ => none

/-- A task that writes data holds the writer lock. -/
def Writes (a : AgentState) : Prop :=
  ∀ j toUp, a.task j = .relaying toUp .writing →
    ∃ id data, a.wire.message = some (.task j, .streamData id data)

/-! ### Who writes -/

/-- Whoever goes on writing keeps its frame. -/
theorem Writes.keep (hw : a.Writes)
    (htask : ∀ j toUp, a'.task j = .relaying toUp .writing →
      ∃ toUp', a.task j = .relaying toUp' .writing)
    (hwire : ∀ j toUp, a'.task j = .relaying toUp .writing →
      ∀ m, a.wire.message = some (.task j, m) → a'.wire.message = a.wire.message) : a'.Writes := by
  intro j toUp hj
  obtain ⟨toUp', hj'⟩ := htask j toUp hj
  obtain ⟨id, data, hmsg⟩ := hw j toUp' hj'
  exact ⟨id, data, by rw [hwire j toUp hj _ hmsg, hmsg]⟩

/-- Moving a task that goes on writing, or does not write. -/
theorem Writes.moved (hw : a.Writes) (htask : a'.task = Function.update a.task j q)
    (hpc : ∀ toUp, q = .relaying toUp .writing → ∃ toUp', a.task j = .relaying toUp' .writing)
    (hwire : ∀ i toUp, a'.task i = .relaying toUp .writing →
      ∀ m, a.wire.message = some (.task i, m) → a'.wire.message = a.wire.message) : a'.Writes := by
  refine hw.keep (fun i toUp hi => ?_) hwire
  rw [htask] at hi
  by_cases hij : i = j
  · subst hij
    rw [Function.update_self] at hi
    exact hpc toUp hi
  · rw [Function.update_of_ne hij] at hi
    exact ⟨toUp, hi⟩

/-- With nothing being written, nobody writes. -/
theorem Writes.nobody (hw : a.Writes) (hfree : a.wire.message = none) (j : ℕ) (toUp : ToUp) :
    a.task j ≠ .relaying toUp .writing := by
  intro hj
  obtain ⟨id, data, hmsg⟩ := hw j toUp hj
  rw [hfree] at hmsg
  cases hmsg

/-- Whoever writes after a write was writing before, and it was not its write. -/
theorem writing_of_afterWrite {toUp : ToUp}
    (h : (a.afterWrite w ok).task j = .relaying toUp .writing) :
    a.task j = .relaying toUp .writing ∧ w ≠ .task j := by
  have hne : w ≠ .task j := by
    rintro rfl
    simp only [afterWrite] at h
    split at h
    · cases ok <;> simp [AgentState.goto] at h
    · simp [AgentState.goto] at h
    · rename_i hnot _
      exact hnot _ h
  refine ⟨?_, hne⟩
  unfold afterWrite at h
  split at h
  · split at h
    · unfold afterMain enterLoop at h
      split at h <;> exact h
    · exact h
  · split at h <;> exact h
  · rename_i k
    have hjk : j ≠ k := fun hjk => hne (by rw [hjk])
    split at h
    · simpa [AgentState.goto, hjk] using h
    · simpa [AgentState.goto, hjk] using h
    · exact h

/-- A write that is over leaves its writer, and nobody else was writing. -/
theorem Writes.over (hw : a.Writes) (hholder : a.holder = some w)
    (hu : ∃ wire, u = { a with wire := wire }) (ok : Bool) : (u.afterWrite w ok).Writes := by
  obtain ⟨wire, rfl⟩ := hu
  intro j toUp hj
  obtain ⟨hj', hne⟩ := writing_of_afterWrite hj
  obtain ⟨id, data, hmsg⟩ := hw j toUp hj'
  rw [holder_eq, hmsg] at hholder
  exact absurd (Option.some.inj hholder).symm hne

/-- A write that begins is the only one. -/
theorem Writes.begin (h : u.beginWrite json w msg = some a')
    (hnobody : ∀ j toUp, u.task j = .relaying toUp .writing →
      w = .task j ∧ ∃ id data, msg = .streamData id data) : a'.Writes := by
  rcases beginWrite_eq_some h with ⟨err, herr, rfl⟩ | ⟨frame, wire, hframe, hstart, rfl⟩
  · intro j toUp hj
    obtain ⟨hj', hne⟩ := writing_of_afterWrite hj
    exact absurd (hnobody j toUp hj').1 hne
  · obtain ⟨-, -, rfl⟩ := FrameWriter.start_eq_some hstart
    intro j toUp hj
    obtain ⟨rfl, id, data, rfl⟩ := hnobody j toUp hj
    exact ⟨id, data, rfl⟩

/-- Taking up a message touches neither a task nor the control socket. -/
theorem receive_eq (a : AgentState) (msg : IpcMessage) :
    ∃ main queue streams,
      a.receive msg = { a with main := main, queue := queue, streams := streams } := by
  unfold receive offer
  split
  · exact ⟨_, _, _, rfl⟩
  · split <;> exact ⟨_, _, _, rfl⟩
  · split
    · split_ifs <;> exact ⟨_, _, _, rfl⟩
    · exact ⟨_, _, _, rfl⟩
  · exact ⟨_, _, _, rfl⟩
  · exact ⟨_, _, _, rfl⟩

/-- A task that writes keeps its frame when the write of another one is dropped. -/
theorem message_dropWrite_of_ne (hw : w ≠ .task j) {m : IpcMessage}
    (hmsg : a.wire.message = some (.task j, m)) : (a.dropWrite w).wire.message = a.wire.message := by
  rw [message_dropWrite, if_neg]
  rw [holder_eq, hmsg]
  exact fun h => hw (Option.some.inj h).symm

theorem writes_step (hw : a.Writes) (h : a.step json e = some a') : a'.Writes := by
  cases moves_of_step h with
  | beginMain hmain hbegin | beginPoller hpoller hbegin =>
      have hfree := free_of_beginWrite hbegin
      exact Writes.begin hbegin fun j toUp hj => absurd hj (hw.nobody hfree j toUp)
  | @beginData k toUp data _ htask hbegin =>
      have hfree := free_of_beginWrite hbegin
      refine Writes.begin hbegin fun j toUp' hj => ?_
      by_cases hjk : j = k
      · exact ⟨by rw [hjk], _, _, rfl⟩
      · simp only [AgentState.goto, Function.update_of_ne hjk] at hj
        exact absurd hj (hw.nobody hfree j toUp')
  | @beginClose k _ htask hbegin =>
      have hfree := free_of_beginWrite hbegin
      refine Writes.begin hbegin fun j toUp' hj => ?_
      by_cases hjk : j = k
      · simp [AgentState.goto, hjk] at hj
      · simp only [AgentState.goto, Function.update_of_ne hjk] at hj
        exact absurd hj (hw.nobody hfree j toUp')
  | put | putLast =>
      obtain ⟨p, wire, hp, ⟨-, hsame, -, heq⟩ | ⟨-, hfree, -, heq⟩⟩ := put_cases h
      · rw [heq]
        exact hw.keep (fun j toUp hj => ⟨toUp, hj⟩) fun _ _ _ _ _ => hsame
      · rw [heq]
        exact hw.over (holder_of_current hp) ⟨wire, rfl⟩ true
  | @writeError w hholder => exact hw.over hholder (dropWrite_eq a w) false
  | publish | publishFails | poll | pollFails | connectFails | authFails | serviceFails
  | upstreamReady | roomClosed | room => exact hw
  | receive =>
      obtain ⟨main, queue, streams, heq⟩ := receive_eq a _
      rw [heq]
      exact hw
  | spawn htask =>
      exact hw.moved rfl (by simp) fun _ _ _ _ _ => rfl
  | stop =>
      obtain ⟨wire, hwire⟩ := dropWrite_eq a .poller
      refine hw.keep (fun j toUp hj => ⟨toUp, ?_⟩) fun j _ _ m hm =>
        message_dropWrite_of_ne (by simp) hm
      rwa [hwire] at hj
  | upstreamData htask | upstreamEnd htask =>
      exact hw.moved rfl (by simp) fun _ _ _ _ _ => rfl
  | recv htask | upWritten htask =>
      refine hw.moved rfl (fun toUp hpc => ?_) fun _ _ _ _ _ => rfl
      obtain ⟨rfl, rfl⟩ := StreamTask.relaying.inj hpc
      exact ⟨_, htask⟩
  | @upFailed k | @recvClosed k =>
      obtain ⟨wire, hwire⟩ := dropWrite_eq a (.task k)
      refine hw.moved (j := k) (q := .left) (by rw [hwire]; rfl) (by simp) fun i toUp hi m hm => ?_
      have hne : Writer.task k ≠ .task i := by
        rintro ⟨⟩
        simp [AgentState.goto] at hi
      exact message_dropWrite_of_ne hne hm
  | remove htask => exact hw.moved rfl (by simp) fun _ _ _ _ _ => rfl

/-! ### What the tasks hold -/

/-- A task that stays where it is holds what it held, if its frame is still the one being written. -/
theorem line_same {l : Line} (hl : a'.line j = some l) (htask : a'.task j = a.task j)
    (hqueue : a'.queue j = a.queue j) (hmain : a'.main.waitsWith j = a.main.waitsWith j)
    (hwire : ∀ m, a'.wire.message = some (.task j, m) → a.wire.message = a'.wire.message) :
    a.line j = some l := by
  unfold line at hl ⊢
  rw [htask] at hl
  cases hpc : a.task j with
  | relaying toUp fromUp =>
      rw [hpc] at hl
      obtain ⟨data, hdata, rfl⟩ := Option.map_eq_some_iff.mp hl
      refine Option.map_eq_some_iff.mpr ⟨data, ?_, by rw [queued, queued, hqueue, hmain]⟩
      cases fromUp with
      | reading | want => exact hdata
      | writing =>
          simp only [inHand] at hdata ⊢
          split at hdata
          · rename_i i id d hmsg
            split_ifs at hdata with hij
            subst hij
            rw [hwire _ hmsg, hmsg]
            simpa using hdata
          · cases hdata
  | _ =>
      rw [hpc] at hl
      exact hl

/-- Nothing is held for a task that has left its `select!`. -/
theorem line_of_ended (h : a.task j = .left ∨ a.task j = .wantClose ∨ a.task j = .writingClose ∨
    a.task j = .done) : a.line j = none := by
  unfold line
  rcases h with h | h | h | h <;> rw [h]

/-- A task moves and holds what it held, or ends. -/
theorem flows_moved (hf : t.Flows a.line) (htask : a'.task = Function.update a.task j q)
    (hqueue : a'.queue = a.queue) (hmain : a'.main = a.main)
    (hwire : ∀ i, i ≠ j → ∀ m, a'.wire.message = some (.task i, m) →
      a.wire.message = a'.wire.message)
    (hj : ∀ l, a'.line j = some l → a.line j = some l) : t.Flows a'.line := by
  refine hf.keep fun i l hl => ?_
  by_cases hi : i = j
  · subst hi
    exact hj l hl
  · exact line_same hl (by rw [htask, Function.update_of_ne hi]) (by rw [hqueue]) (by rw [hmain])
      (hwire i hi)

/-- The main loop moves, and waits for no task before or after. -/
theorem flows_main (hf : t.Flows a.line) (htask : a'.task = a.task) (hqueue : a'.queue = a.queue)
    (hmain : ∀ i, a.main.waitsWith i = []) (hmain' : ∀ i, a'.main.waitsWith i = [])
    (hwire : ∀ i m, a'.wire.message = some (.task i, m) → a.wire.message = a'.wire.message) :
    t.Flows a'.line :=
  hf.keep fun i l hl => line_same hl (by rw [htask]) (by rw [hqueue]) (by rw [hmain, hmain']) (hwire i)

theorem waitsWith_afterMain (a : AgentState) (after : MainAfter) (ok : Bool) (i : ℕ) :
    (a.afterMain after ok).main.waitsWith i = [] := by
  cases after <;> cases ok <;> rfl

theorem afterMain_eq (a : AgentState) (after : MainAfter) (ok : Bool) :
    ∃ main poller, a.afterMain after ok = { a with main := main, poller := poller } := by
  cases after <;> cases ok <;> exact ⟨_, _, rfl⟩

/-- A write of the main loop or of the poller is over. -/
theorem flows_otherWritten (hf : t.Flows a.line) (hu : ∃ wire, u = { a with wire := wire })
    (hfree : u.wire.message = none) (hstands : a.Stands msg w) (hw : ∀ j, w ≠ .task j) (ok : Bool) :
    t.Flows (u.afterWrite w ok).line := by
  obtain ⟨wire, rfl⟩ := hu
  cases w with
  | main =>
      obtain ⟨after, hmain⟩ := hstands
      have heq : AgentState.afterWrite { a with wire := wire } .main ok =
          AgentState.afterMain { a with wire := wire } after ok := by
        simp [afterWrite, hmain]
      obtain ⟨main, poller, hafter⟩ := afterMain_eq { a with wire := wire } after ok
      rw [heq]
      refine flows_main hf (by rw [hafter]) (by rw [hafter]) (fun i => by rw [hmain]; rfl)
        (waitsWith_afterMain _ after ok) fun i m hm => ?_
      rw [hafter] at hm
      rw [hfree] at hm
      cases hm
  | poller =>
      refine hf.keep fun i l hl => line_same hl ?_ ?_ ?_ fun m hm => ?_
      · unfold afterWrite
        simp only
        split <;> rfl
      · rw [afterWrite_queue]
      · rw [afterWrite_main (by simp)]
      · rw [afterWrite_wire, hfree] at hm
        cases hm
  | task j => exact absurd rfl (hw j)

/-- A write of a task is over. -/
theorem flows_taskWritten (hf : t.Flows a.line) (hmsg : a.wire.message = some (.task j, msg))
    (hu : ∃ wire, u = { a with wire := wire }) (hfree : u.wire.message = none)
    (hstands : a.Stands msg (.task j)) (ok : Bool) :
    (t.note (if ok then frameTraffic (.task j, msg) else none)).Flows (u.afterWrite (.task j) ok).line := by
  obtain ⟨wire, rfl⟩ := hu
  have hother : ∀ i, i ≠ j → ∀ l, (AgentState.afterWrite { a with wire := wire } (.task j) ok).line i =
      some l → a.line i = some l := by
    intro i hi l hl
    refine line_same hl ?_ ?_ ?_ fun m hm => ?_
    · unfold afterWrite
      simp only
      split <;> first | rfl | exact Function.update_of_ne hi _ _
    · rw [afterWrite_queue]
    · rw [afterWrite_main (by simp)]
    · rw [afterWrite_wire, hfree] at hm
      cases hm
  rcases hstands with ⟨toUp, data, htask, rfl⟩ | ⟨htask, rfl⟩
  · have hk : a.line j = some ⟨data, toUp.data, a.queued j⟩ := by
      simp [line, htask, inHand, hmsg]
    cases ok with
    | true =>
        refine hf.send hk rfl ?_ hother
        simp [afterWrite, htask, AgentState.goto, line, inHand, queued]
    | false =>
        refine hf.keep fun i l hl => ?_
        by_cases hi : i = j
        · subst hi
          rw [line_of_ended] at hl
          · cases hl
          · simp [afterWrite, htask, AgentState.goto]
        · exact hother i hi l hl
  · have hnone : (if ok then frameTraffic (.task j, .streamClose ⟨a.streamId j, "closed"⟩) else none) =
        none := ite_self _
    rw [hnone]
    refine hf.keep fun i l hl => ?_
    by_cases hi : i = j
    · subst hi
      rw [line_of_ended] at hl
      · cases hl
      · simp [afterWrite, htask, AgentState.goto]
    · exact hother i hi l hl

/-- A piece of a frame goes out, or the rest of it. -/
theorem flows_put (hfr : a.Framing) (hf : t.Flows a.line) (h : a.step json (.put n) = some a') :
    (t.note (a.traffic (.put n))).Flows a'.line := by
  obtain ⟨p, wire, hp, ⟨hn, hsame, -, rfl⟩ | ⟨rfl, hfree, -, rfl⟩⟩ := put_cases h
  · rw [traffic_put_part hp hn]
    exact hf.keep fun i l hl => line_same hl rfl rfl rfl fun _ _ => hsame.symm
  · have hmsg := message_of_current hp
    rw [traffic_put_last hp]
    obtain ⟨⟨w, msg⟩, done, todo, htodo⟩ := p
    have hstands := hfr.frame w msg hmsg
    cases w with
    | main | poller => exact flows_otherWritten hf ⟨wire, rfl⟩ hfree hstands (by simp) true
    | task j => exact flows_taskWritten hf hmsg ⟨wire, rfl⟩ hfree hstands true

/-- A write fails. -/
theorem flows_writeError (hfr : a.Framing) (hf : t.Flows a.line) (hw : a.holder = some w) :
    t.Flows ((a.dropWrite w).afterWrite w false).line := by
  have hfree : (a.dropWrite w).wire.message = none := by rw [message_dropWrite, if_pos hw]
  rw [holder_eq] at hw
  obtain ⟨⟨w, msg⟩, hmsg, rfl⟩ := Option.map_eq_some_iff.mp hw
  have hstands := hfr.frame w msg hmsg
  cases w with
  | main | poller => exact flows_otherWritten hf (dropWrite_eq a _) hfree hstands (by simp) false
  | task j => exact flows_taskWritten hf hmsg (dropWrite_eq a _) hfree hstands false

/-- A write of the main loop or of the poller begins, or fails at once. -/
theorem flows_beginOther (hf : t.Flows u.line) (h : u.beginWrite json w msg = some a')
    (hstands : u.Stands msg w) (hw : ∀ j, w ≠ .task j) : t.Flows a'.line := by
  have hfree := free_of_beginWrite h
  rcases beginWrite_eq_some h with ⟨err, herr, rfl⟩ | ⟨frame, wire, hframe, hstart, rfl⟩
  · exact flows_otherWritten hf ⟨u.wire, rfl⟩ hfree hstands hw false
  · obtain ⟨-, -, rfl⟩ := FrameWriter.start_eq_some hstart
    refine hf.keep fun i l hl => line_same hl rfl rfl rfl fun m hm => ?_
    simp only [ControlSocket.message, Option.map_some, Option.some.injEq, Prod.mk.injEq] at hm
    exact absurd hm.1 (hw i)

/-- Data for a task in the map. -/
theorem flows_offer (hf : t.Flows a.line) (hmain : a.main = .idle) (hj : a.task j ≠ .absent)
    (data : Bytes) : (t.note (some (.got j data))).Flows (a.offer j data).line := by
  have hgot : ∀ (u : AgentState) (l' : Line), u.line j = some l' → u.task = a.task → u.wire = a.wire →
      u.queued j = a.queued j ++ data →
      ∃ l, a.line j = some l ∧ l' = { l with queued := l.queued ++ data } := by
    intro u l' hl' htask hwire hqueued
    unfold line at hl' ⊢
    rw [htask] at hl'
    cases hpc : a.task j with
    | absent => exact absurd hpc hj
    | relaying toUp fromUp =>
        rw [hpc] at hl'
        obtain ⟨d, hd, rfl⟩ := Option.map_eq_some_iff.mp hl'
        have hd : a.inHand j fromUp = some d := by
          cases fromUp with
          | reading | want => exact hd
          | writing => rwa [inHand, hwire] at hd
        exact ⟨_, Option.map_eq_some_iff.mpr ⟨d, hd, rfl⟩, by rw [hqueued]⟩
    | _ =>
        rw [hpc] at hl'
        cases hl'
  unfold offer
  split_ifs with hdone hfull
  · refine hf.get (fun l' hl' => ?_) fun i _ l hl => hl
    rw [line_of_ended (by simp [hdone])] at hl'
    cases hl'
  · refine hf.get (fun l' hl' => hgot _ l' hl' rfl rfl ?_) fun i hi l hl =>
      line_same hl rfl rfl ?_ fun _ _ => rfl
    · simp [queued, hmain, MainLoop.waitsWith]
    · rw [hmain]
      exact if_neg (Ne.symm hi)
  · refine hf.get (fun l' hl' => hgot _ l' hl' rfl rfl ?_) fun i hi l hl =>
      line_same hl rfl (Function.update_of_ne hi _ _) rfl fun _ _ => rfl
    simp [queued, hmain, MainLoop.waitsWith]

/-- Taking up a message. -/
theorem flows_receive (hl : a.Linked) (hf : t.Flows a.line) (hmain : a.main = .idle)
    (msg : IpcMessage) : (t.note (a.traffic (.receive msg))).Flows (a.receive msg).line := by
  have hidle : ∀ i, a.main.waitsWith i = [] := by
    intro i
    rw [hmain]
    rfl
  cases msg with
  | openPrivateStream req =>
      unfold receive
      simp only
      split <;> exact flows_main hf rfl rfl hidle (fun _ => rfl) fun _ _ _ => rfl
  | streamData id data =>
      rcases hid : a.streams id with _ | j
      · simpa [traffic, receive, hid, Traffic.note] using hf
      · have hj : a.task j ≠ .absent := fun hj => (hl.table id j hid).2 (.inl hj)
        simpa [traffic, receive, hid] using flows_offer hf hmain hj data
  | ping => exact flows_main hf rfl rfl hidle (fun _ => rfl) fun _ _ _ => rfl
  | streamClose c => exact hf
  | registerAgent | deviceSnapshot | deviceSnapshotChanged | openResult | pong => exact hf

/-- A write of a task begins, or fails at once. -/
theorem flows_beginTask (hf : t.Flows a.line)
    (h : (a.goto j q).beginWrite json (.task j) msg = some a')
    (hstart : ∀ wire : ControlSocket, wire.message = some (.task j, msg) →
      ∀ l, AgentState.line { a.goto j q with wire := wire } j = some l → a.line j = some l)
    (hfail : ((a.goto j q).afterWrite (.task j) false).line j = none) : t.Flows a'.line := by
  have hfree : (a.goto j q).wire.message = none := free_of_beginWrite h
  change a.wire.message = none at hfree
  rcases beginWrite_eq_some h with ⟨err, herr, rfl⟩ | ⟨frame, wire, hframe, hput, rfl⟩
  · refine hf.keep fun i l hl => ?_
    by_cases hi : i = j
    · subst hi
      rw [hfail] at hl
      cases hl
    · refine line_same hl ?_ ?_ ?_ fun m hm => ?_
      · unfold afterWrite
        simp only
        split <;> simp [AgentState.goto, hi]
      · rw [afterWrite_queue]
        rfl
      · rw [afterWrite_main (by simp)]
        rfl
      · rw [afterWrite_wire]
        rfl
  · obtain ⟨-, hne, hwire⟩ := FrameWriter.start_eq_some hput
    have hmsg : ControlSocket.message wire = some (.task j, msg) := by
      rw [hwire]
      rfl
    refine hf.keep fun i l' hl => ?_
    by_cases hi : i = j
    · subst hi
      exact hstart wire hmsg l' hl
    · refine line_same hl (Function.update_of_ne hi _ _) rfl rfl fun m hm => ?_
      have hm : ControlSocket.message wire = some (Writer.task i, m) := hm
      rw [hmsg] at hm
      exact absurd (Writer.task.inj (Prod.mk.inj (Option.some.inj hm)).1).symm hi

/-- A task in its `select!` that writes to its upstream. -/
theorem exists_line {data : Bytes} {fromUp : FromUp} (hw : a.Writes)
    (htask : a.task j = .relaying (.writing data) fromUp) :
    ∃ hand, a.line j = some ⟨hand, data, a.queued j⟩ := by
  have hhand : ∃ hand, a.inHand j fromUp = some hand := by
    cases fromUp with
    | reading => exact ⟨[], rfl⟩
    | want hand => exact ⟨hand, rfl⟩
    | writing =>
        obtain ⟨id, hand, hmsg⟩ := hw j _ htask
        exact ⟨hand, by simp [inHand, hmsg]⟩
  obtain ⟨hand, hhand⟩ := hhand
  exact ⟨hand, by simp [line, htask, hhand, ToUp.data]⟩

/-- **The stream tasks keep the bytes in order.** -/
theorem flows_step (hl : a.Linked) (hfr : a.Framing) (hw : a.Writes) (hf : t.Flows a.line)
    (h : a.step json e = some a') : (t.note (a.traffic e)).Flows a'.line := by
  cases moves_of_step h with
  | @beginMain msg after _ hmain hbegin =>
      have hwaits : ∀ i, a.main.waitsWith i = [] := by
        intro i
        rw [hmain]
        rfl
      have hmoved : t.Flows (AgentState.line { a with main := .writing after }) :=
        flows_main hf rfl rfl hwaits (fun _ => rfl) fun _ _ _ => rfl
      exact flows_beginOther hmoved hbegin ⟨after, rfl⟩ (by simp)
  | @beginPoller msg _ hpoller hbegin =>
      have hmoved : t.Flows (AgentState.line { a with poller := .writing }) := hf
      exact flows_beginOther hmoved hbegin (hfr.wants msg hpoller) (by simp)
  | @beginData k toUp data _ htask hbegin =>
      refine flows_beginTask hf hbegin (fun wire hmsg l hl => ?_) (line_of_ended ?_)
      · simpa [line, htask, AgentState.goto, inHand, hmsg, queued] using hl
      · simp [afterWrite, AgentState.goto]
  | @beginClose k _ htask hbegin =>
      refine flows_beginTask hf hbegin (fun wire hmsg l hl => ?_) (line_of_ended ?_)
      · rw [line_of_ended (by simp [AgentState.goto])] at hl
        cases hl
      · simp [afterWrite, AgentState.goto]
  | put | putLast => exact flows_put hfr hf h
  | writeError hholder => exact flows_writeError hfr hf hholder
  | publish hmain | publishFails hmain | connectFails hmain | authFails hmain | serviceFails hmain
  | upstreamReady hmain =>
      refine flows_main hf rfl rfl (fun i => ?_) (fun _ => rfl) fun _ _ _ => rfl
      rw [hmain]
      rfl
  | poll | pollFails => exact hf
  | receive hmain => exact flows_receive hl hf hmain _
  | @spawn k id hmain htask =>
      refine hf.keep fun i l hl' => ?_
      by_cases hi : i = k
      · subst hi
        simpa [line, htask, AgentState.goto, inHand, queued, MainLoop.waitsWith, ToUp.data] using hl'
      · refine line_same hl' (Function.update_of_ne hi _ _) (Function.update_of_ne hi _ _) ?_
          fun _ _ => rfl
        rw [hmain]
        rfl
  | @roomClosed k data hmain htask =>
      refine hf.keep fun i l hl' => ?_
      by_cases hi : i = k
      · subst hi
        rw [line_of_ended (by simp [htask])] at hl'
        cases hl'
      · refine line_same hl' rfl rfl ?_ fun _ _ => rfl
        rw [hmain]
        exact (if_neg (Ne.symm hi)).symm
  | @room k data hmain =>
      refine hf.keep fun i l hl' => ?_
      by_cases hi : i = k
      · subst hi
        have hqueued : queued { a with
            main := .idle
            queue := Function.update a.queue i (a.queue i ++ [data]) } i = a.queued i := by
          simp [queued, hmain, MainLoop.waitsWith]
        unfold line at hl' ⊢
        rw [hqueued] at hl'
        exact hl'
      · refine line_same hl' rfl (Function.update_of_ne hi _ _) ?_ fun _ _ => rfl
        rw [hmain]
        exact (if_neg (Ne.symm hi)).symm
  | stop hmain =>
      obtain ⟨wire, hwire⟩ := dropWrite_eq a .poller
      refine flows_main hf (by rw [hwire]) (by rw [hwire]) (fun i => ?_) (fun _ => rfl)
        fun i m hm => ?_
      · rw [hmain]
        rfl
      · have hm : (a.dropWrite .poller).wire.message = some (.task i, m) := hm
        show a.wire.message = (a.dropWrite .poller).wire.message
        rw [message_dropWrite] at hm ⊢
        split_ifs at hm ⊢
        rfl
  | @upstreamData k toUp data htask =>
      have hk : a.line k = some ⟨[], toUp.data, a.queued k⟩ := by
        simp [line, htask, inHand]
      refine hf.read hk rfl ?_ fun i hi l hl' =>
        line_same hl' (Function.update_of_ne hi _ _) rfl rfl fun _ _ => rfl
      simp [line, AgentState.goto, inHand, queued]
  | @upstreamEnd k toUp htask =>
      refine flows_moved hf rfl rfl rfl (fun _ _ _ _ => rfl) fun l hl' => ?_
      rw [line_of_ended (by simp [AgentState.goto])] at hl'
      cases hl'
  | @recv k fromUp data rest htask hqueue =>
      refine hf.begins (fun l' hl' => ?_) fun i hi l hl' =>
        line_same hl' (Function.update_of_ne hi _ _) (Function.update_of_ne hi _ _) rfl fun _ _ => rfl
      simp only [line, AgentState.goto, Function.update_self] at hl'
      obtain ⟨hand, hhand, rfl⟩ := Option.map_eq_some_iff.mp hl'
      refine ⟨⟨hand, [], a.queued k⟩, ?_, rfl, rfl, ?_⟩
      · rw [line, htask]
        exact Option.map_eq_some_iff.mpr ⟨hand, hhand, rfl⟩
      · simp [queued, hqueue, ToUp.data]
  | @upWritten k data fromUp htask =>
      have htraffic : a.traffic (.upWritten k) = some (.wrote k data) := by
        simp [traffic, htask]
      obtain ⟨hand, hk⟩ := exists_line hw htask
      rw [htraffic]
      refine hf.wrote hk rfl (fun l' hl' => ?_) fun i hi l hl' =>
        line_same hl' (Function.update_of_ne hi _ _) rfl rfl fun _ _ => rfl
      rw [line, htask] at hk
      obtain ⟨hand', hhand, hk⟩ := Option.map_eq_some_iff.mp hk
      simp only [line, AgentState.goto, Function.update_self] at hl'
      obtain ⟨hand'', hhand', rfl⟩ := Option.map_eq_some_iff.mp hl'
      have hhand' : a.inHand k fromUp = some hand'' := hhand'
      obtain rfl := Option.some.inj (hhand.symm.trans hhand')
      rw [← (Line.mk.inj hk).1]
      rfl
  | @upFailed k _ _ htask | @recvClosed k _ htask =>
      obtain ⟨wire, hwire⟩ := dropWrite_eq a (.task k)
      refine flows_moved (j := k) (q := .left) hf (by rw [hwire]; rfl) (by rw [hwire]; rfl)
        (by rw [hwire]; rfl) (fun i hi m hm => ?_) fun l hl' => ?_
      · have hm : (a.dropWrite (.task k)).wire.message = some (.task i, m) := hm
        show a.wire.message = (a.dropWrite (.task k)).wire.message
        rw [message_dropWrite] at hm ⊢
        split_ifs at hm ⊢
        rfl
      · rw [line_of_ended (by simp [AgentState.goto])] at hl'
        cases hl'
  | @remove k htask =>
      refine flows_moved hf rfl rfl rfl (fun _ _ _ _ => rfl) fun l hl' => ?_
      rw [line_of_ended (by simp [AgentState.goto])] at hl'
      cases hl'

end AgentState

/-! ## Both sides -/

namespace Link

variable {json : SerdeJson} {token : String} {s t : Link} {e : LinkEvent}

/-- Both sides keep the bytes of every stream in order. -/
structure Flows (s : Link) : Prop where
  writes : s.agent.Writes
  client : s.client.Flows s.daemon.line
  upstream : s.upstream.Flows s.agent.line

/-- **Every step keeps the bytes in order.** -/
theorem flows_step (hs : s.Sound) (hf : s.Flows) (h : s.step json e = some t) : t.Flows := by
  cases e with
  | daemon e =>
      simp only [step] at h
      split_ifs at h
      obtain ⟨d, hd, rfl⟩ := Option.map_eq_some_iff.mp h
      exact ⟨hf.writes, ConnStreams.flows_step hs.linked hf.client hd, hf.upstream⟩
  | agent e =>
      simp only [step] at h
      split_ifs at h
      obtain ⟨a, ha, rfl⟩ := Option.map_eq_some_iff.mp h
      exact ⟨AgentState.writes_step hf.writes ha, hf.client,
        AgentState.flows_step hs.agentLinked hs.steady.1 hf.writes hf.upstream ha⟩
  | toDaemon =>
      simp only [step] at h
      split at h
      · simp at h
      · obtain ⟨d, hd, rfl⟩ := Option.map_eq_some_iff.mp h
        exact ⟨hf.writes, ConnStreams.flows_step hs.linked hf.client hd, hf.upstream⟩
  | toAgent =>
      simp only [step] at h
      split at h
      · simp at h
      · rename_i k msg rest hup
        obtain ⟨a, ha, rfl⟩ := Option.map_eq_some_iff.mp h
        have hupstream :=
          AgentState.flows_step hs.agentLinked hs.steady.1 hf.writes hf.upstream ha
        unfold afterTaken
        split <;> exact ⟨AgentState.writes_step hf.writes ha, hf.client, hupstream⟩
  | clientPiece k n =>
      simp only [step] at h
      split at h
      · rename_i data htask
        obtain rfl := Option.some.inj h
        have hk : s.daemon.line k = some { outHand := data, queued := s.daemon.queued k } := by
          rw [ConnStreams.line, htask]
          rfl
        exact ⟨hf.writes, hf.client.piece hk rfl, hf.upstream⟩
      · simp at h
  | upstreamPiece j n =>
      simp only [step] at h
      split at h
      · rename_i data fromUp htask
        obtain rfl := Option.some.inj h
        obtain ⟨hand, hk⟩ := AgentState.exists_line hf.writes htask
        exact ⟨hf.writes, hf.client, hf.upstream.piece hk rfl⟩
      · simp at h

theorem flows_init (json : SerdeJson) (token : String) : (machine json token).init.Flows := by
  have hempty : ∀ line : ℕ → Option Line, (∀ k, line k = some {}) →
      Traffic.Flows {} line := by
    intro line hline
    refine ⟨fun k l hl => ?_, fun k l hl => ?_, fun k => List.prefix_rfl, fun k => List.prefix_rfl⟩
    · obtain rfl := Option.some.inj ((hline k).symm.trans hl)
      rfl
    · obtain rfl := Option.some.inj ((hline k).symm.trans hl)
      rfl
  exact ⟨by rintro j toUp ⟨⟩, hempty _ fun _ => rfl, hempty _ fun _ => rfl⟩

theorem flows_of_reaches {events : List LinkEvent} (h : (machine json token).Reaches events s) :
    s.Sound ∧ s.Flows :=
  Machine.Run.invariant (I := fun s : Link => s.Sound ∧ s.Flows) h
    ⟨sound_init json token, flows_init json token⟩ fun _ _ _ hi _ hs =>
      ⟨sound_step hi.1 hs, flows_step hi.1 hi.2 hs⟩

end Link

end AdbHub
