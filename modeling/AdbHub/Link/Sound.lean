import AdbHub.Link

/-!
# What each side keeps

* `ConnStreams.Answered` — who waits for an `OpenResult`, and who has got one.
* `Link.Asked` — the requests sent, and what is on its way to the agent.
* `AgentState.Framing` — the frame on the control socket is the one its writer stands at.
* `MainLoop.Serves` — the main loop is busy with the request it took up last, or with none.
* `Link.Sound` — all of it; **`sound_step`**.
-/

namespace AdbHub

open Lib

/-! ## The sessions -/

/-- The session relays. -/
def ForwardPrivate.Relays : ForwardPrivate → Prop
  | .relay | .sendingUp _ | .sendingDown _ => True
  | _ => False

/-- The session has not put its waiter in yet. -/
def ForwardPrivate.Early (q : ForwardPrivate) : Prop :=
  q = .absent ∨ q = .insertTx ∨ q = .insertWaiter

/-- Who waits for an answer, and who has got one. -/
structure ConnStreams.Answered (d : ConnStreams) : Prop where
  early : ∀ k, (d.task k).Early → d.outcome k = none
  waiter : ∀ id k, d.openWaiters id = some k →
    d.outcome k = none ∧ d.streamId k = id ∧ ¬ (d.task k).Early
  accepted : ∀ k, (d.task k).Relays → ∃ o, d.outcome k = some o ∧ o.ok = true
  refused : ∀ k, d.task k = .refused ∨ d.task k = .failWrite ∨ d.failed k ≠ none →
    ∃ o, d.outcome k = some o ∧ o.ok = false

namespace ConnStreams

variable {d d' : ConnStreams} {e : StreamEvent} {k : ℕ} {q : ForwardPrivate}

theorem Answered.goto (ha : d.Answered) (hearly : q.Early → (d.task k).Early)
    (hrelays : q.Relays → ∃ o, d.outcome k = some o ∧ o.ok = true)
    (hrefused : q = .refused ∨ q = .failWrite → ∃ o, d.outcome k = some o ∧ o.ok = false) :
    (d.goto k q).Answered := by
  have h1 := ha.early
  have h2 := ha.waiter
  have h3 := ha.accepted
  have h4 := ha.refused
  constructor <;> simp only [ConnStreams.goto] <;> grind [Function.update_apply]

theorem Answered.setWaiter (ha : d.Answered) (hk : ¬ (d.task k).Early) (ho : d.outcome k = none) :
    Answered { d with openWaiters := Function.update d.openWaiters (d.streamId k) (some k) } :=
  { ha with
    waiter := by
      have := ha.waiter
      grind [Function.update_apply] }

theorem Answered.clearWaiter (ha : d.Answered) (id : UInt32) :
    Answered { d with openWaiters := Function.update d.openWaiters id none } :=
  { ha with
    waiter := by
      have := ha.waiter
      grind [Function.update_apply] }

/-- A session takes its stream id before it waits for anything. -/
theorem Answered.setId (ha : d.Answered) (hk : (d.task k).Early) (id : UInt32) :
    Answered { d with streamId := Function.update d.streamId k id } :=
  { ha with
    waiter := by
      have := ha.waiter
      grind [Function.update_apply] }

theorem Answered.setFailed (ha : d.Answered) (hk : ∃ o, d.outcome k = some o ∧ o.ok = false)
    (reason : Option String) :
    Answered { d with failed := Function.update d.failed k reason } :=
  { ha with
    refused := by
      have := ha.refused
      grind [Function.update_apply] }

theorem Answered.resolve (ha : d.Answered) (id : UInt32) (o : OpenOutcome) :
    (d.resolve id o).Answered := by
  unfold ConnStreams.resolve
  rcases hw : d.openWaiters id with _ | k
  · exact ha
  · have h1 := ha.early
    have h2 := ha.waiter
    have h3 := ha.accepted
    have h4 := ha.refused
    constructor <;> simp only <;> grind [Function.update_apply]

theorem Answered.receive (ha : d.Answered) (msg : IpcMessage) : (d.receive msg).Answered := by
  unfold ConnStreams.receive
  split
  · exact ha.resolve _ _
  · split
    · unfold offer
      split_ifs
      · exact ha
      · exact { ha with }
      · exact { ha with }
    · exact ha
  · rename_i c
    have hclear : Answered { d with
      streamTx := Function.update d.streamTx c.streamId none } := { ha with }
    exact hclear.resolve _ _
  · exact { ha with }
  · exact ha

/-- A step keeps the answers with the sessions they are for. -/
theorem answered_step (ha : d.Answered) (h : d.step e = some d') : d'.Answered := by
  cases moves_of_step h with
  | openElsewhere => exact { ha with }
  | @openSession k routeId service htask =>
      have hearly : ForwardPrivate.insertTx.Early := .inr (.inl rfl)
      have hgoto : (d.goto k .insertTx).Answered :=
        ha.goto (fun _ => .inl htask) (by simp [ForwardPrivate.Relays]) (by simp)
      have hid := hgoto.setId (k := k) (by simpa [ConnStreams.goto] using hearly) d.nextStreamId
      exact { hid with }
  | @insertTx k htask =>
      have hgoto : (d.goto k .insertWaiter).Answered :=
        ha.goto (fun _ => .inr (.inl htask)) (by simp [ForwardPrivate.Relays]) (by simp)
      exact { hgoto with }
  | @insertWaiter k htask =>
      have hnone := ha.early k (.inr (.inr htask))
      have hgoto : (d.goto k .openWrite).Answered :=
        ha.goto (by simp [ForwardPrivate.Early]) (by simp [ForwardPrivate.Relays]) (by simp)
      exact hgoto.setWaiter (by simp [ConnStreams.goto, ForwardPrivate.Early]) hnone
  | @openWritten k htask =>
      have hgoto : (d.goto k .waiting).Answered :=
        ha.goto (by simp [ForwardPrivate.Early]) (by simp [ForwardPrivate.Relays]) (by simp)
      exact { hgoto with }
  | @opened k o htask houtcome =>
      apply ha.goto
      · split_ifs <;> simp [ForwardPrivate.Early]
      · intro hrelays
        split_ifs at hrelays with hok
        · exact ⟨o, houtcome, hok⟩
        · simp [ForwardPrivate.Relays] at hrelays
      · intro hrefused
        split_ifs at hrefused with hok
        · simp at hrefused
        · exact ⟨o, houtcome, by simpa using hok⟩
  | openFailed | timeout =>
      exact ha.goto (by simp [ForwardPrivate.Early]) (by simp [ForwardPrivate.Relays]) (by simp)
  | @dropWaiter k htask =>
      have hgoto : (d.goto k .abortTx).Answered :=
        ha.goto (by simp [ForwardPrivate.Early]) (by simp [ForwardPrivate.Relays]) (by simp)
      exact hgoto.clearWaiter _
  | @dropAborted k =>
      have htx : (d.removeTx k).Answered := { ha with }
      exact htx.goto (by simp [ForwardPrivate.Early]) (by simp [ForwardPrivate.Relays]) (by simp)
  | @dropRefused k hfree htask =>
      have htx : (d.removeTx k).Answered := { ha with }
      exact htx.goto (by simp [ForwardPrivate.Early]) (by simp [ForwardPrivate.Relays])
        (fun _ => ha.refused k (.inl htask))
  | @dropClosing k =>
      have htx : (d.removeTx k).Answered := { ha with }
      exact htx.goto (by simp [ForwardPrivate.Early]) (by simp [ForwardPrivate.Relays]) (by simp)
  | @failWritten k htask =>
      have hno := ha.refused k (.inr (.inl htask))
      have hgoto : (d.goto k .done).Answered :=
        ha.goto (by simp [ForwardPrivate.Early]) (by simp [ForwardPrivate.Relays]) (by simp)
      exact hgoto.setFailed hno _
  | failFailed | clientEof | clientGone | clientError | upFailed | recvClosed | downGone
    | downFailed | closeFailed =>
      exact ha.goto (by simp [ForwardPrivate.Early]) (by simp [ForwardPrivate.Relays]) (by simp)
  | @clientData k data htask =>
      have hyes := ha.accepted k (by simp [htask, ForwardPrivate.Relays])
      exact ha.goto (by simp [ForwardPrivate.Early]) (fun _ => hyes) (by simp)
  | @upWritten k data htask =>
      have hyes := ha.accepted k (by simp [htask, ForwardPrivate.Relays])
      have hgoto : (d.goto k .relay).Answered :=
        ha.goto (by simp [ForwardPrivate.Early]) (fun _ => hyes) (by simp)
      exact { hgoto with }
  | @recv k data rest htask =>
      have hyes := ha.accepted k (by simp [htask, ForwardPrivate.Relays])
      have hgoto : (d.goto k (.sendingDown data)).Answered :=
        ha.goto (by simp [ForwardPrivate.Early]) (fun _ => hyes) (by simp)
      exact { hgoto with }
  | @downWritten k data htask =>
      have hyes := ha.accepted k (by simp [htask, ForwardPrivate.Relays])
      have hgoto : (d.goto k .relay).Answered :=
        ha.goto (by simp [ForwardPrivate.Early]) (fun _ => hyes) (by simp)
      exact { hgoto with }
  | @closeWritten k =>
      have hgoto : (d.goto k .done).Answered :=
        ha.goto (by simp [ForwardPrivate.Early]) (by simp [ForwardPrivate.Relays]) (by simp)
      exact { hgoto with }
  | receive => exact ha.receive _
  | roomClosed | room | pongWritten | pongFailed | hangUp => exact { ha with }

end ConnStreams

/-! ## The control socket and the main loop of the agent -/

/-- The other end is not occupied with the request. -/
def Lib.Request.Free (r : Request) : Prop := r ≠ .taken ∧ r ≠ .accepted

/-- The message answers the request, or has nothing to do with it. -/
def Answers (r : Request) (id : UInt32) : IpcMessage → MainAfter → Prop
  | .openResult m, after =>
      r = .taken ∧ m.streamId = id ∧ after = if m.ok then .insert m.streamId else .loop
  | msg, after => msg.streamId? = none ∧ (∀ x, after ≠ .insert x) ∧ r.Free

/-- The main loop is busy with a request, or with none. -/
def MainLoop.Serves (r : Request) (id : UInt32) (current : Option (Writer × IpcMessage)) :
    MainLoop → Prop
  | .want msg after => Answers r id msg after
  | .writing after => ∃ msg, current = some (.main, msg) ∧ Answers r id msg after
  | .opening req _ => r = .taken ∧ req.streamId = id
  | .inserting x => r = .accepted ∧ x = id
  | _ => r.Free

/-- The message that is being written, with its writer. -/
def ControlSocket.message (w : ControlSocket) : Option (Writer × IpcMessage) :=
  w.current.map fun p => p.message

/-- The writer stands at a message. -/
def AgentState.Stands (a : AgentState) (msg : IpcMessage) : Writer → Prop
  | .main => ∃ after, a.main = .writing after
  | .poller => msg.streamId? = none
  | .task j =>
      (∃ toUp data, a.task j = .relaying toUp .writing ∧ msg = .streamData (a.streamId j) data) ∨
        a.task j = .writingClose ∧ msg = .streamClose ⟨a.streamId j, "closed"⟩

/-- The frame in progress is the one its writer stands at. -/
structure AgentState.Framing (a : AgentState) : Prop where
  frame : ∀ w msg, a.wire.message = some (w, msg) → a.Stands msg w
  wants : ∀ msg, a.poller = .want msg → msg.streamId? = none

namespace AgentState

variable {json : SerdeJson} {a a' u : AgentState} {e : AgentTaskEvent} {w : Writer} {j n : ℕ}
  {r : Request} {id : UInt32} {msg : IpcMessage} {q : StreamTask} {ok : Bool}

/-- With nothing being written, only what the poller wants counts. -/
theorem framing_of_free (h : a.wire.message = none)
    (hwants : ∀ msg, a.poller = .want msg → msg.streamId? = none) : a.Framing := by
  refine ⟨?_, hwants⟩
  simp [h]

theorem Framing.goto (hf : a.Framing)
    (hdata : ∀ toUp, a.task j = .relaying toUp .writing → ∃ toUp', q = .relaying toUp' .writing)
    (hclose : a.task j ≠ .writingClose) : (a.goto j q).Framing := by
  refine ⟨fun w msg hmsg => ?_, hf.wants⟩
  have hstands := hf.frame w msg hmsg
  cases w with
  | main => exact hstands
  | poller => exact hstands
  | task i =>
      by_cases hi : i = j
      · subst hi
        rcases hstands with ⟨toUp, data, htask, rfl⟩ | ⟨htask, -⟩
        · obtain ⟨toUp', rfl⟩ := hdata toUp htask
          exact .inl ⟨toUp', data, by simp [AgentState.goto], rfl⟩
        · exact absurd htask hclose
      · simpa [Stands, AgentState.goto, hi] using hstands

theorem message_dropWrite :
    (a.dropWrite w).wire.message = if a.holder = some w then none else a.wire.message := by
  unfold dropWrite
  split_ifs <;> rfl

theorem holder_eq : a.holder = a.wire.message.map Prod.fst := by
  simp [holder, ControlSocket.message, Function.comp_def]

/-- A dropped write leaves the frames of the others. -/
theorem Framing.dropWrite (hf : a.Framing) (w : Writer) : (a.dropWrite w).Framing := by
  by_cases hw : a.holder = some w
  · apply framing_of_free
    · rw [message_dropWrite, if_pos hw]
    · obtain ⟨wire, h⟩ := dropWrite_eq a w
      rw [h]
      exact hf.wants
  · rwa [AgentState.dropWrite, if_neg hw]

theorem free_after (hr : r.Free) (e : AgentTaskEvent) (main : MainLoop) : r.after e main = r := by
  unfold Request.after
  split
  · exact absurd rfl hr.1
  · exact absurd rfl hr.2
  · rfl

/-- A main loop that stays where it is stays with its request. -/
theorem after_of_serves {main : MainLoop} {current} (hs : main.Serves r id current)
    (he : ∀ j, e ≠ .spawn j) : r.after e main = r := by
  cases r with
  | taken =>
      cases main with
      | inserting x => exact absurd hs.1 (by simp)
      | idle => exact absurd rfl hs.1
      | _ => rfl
  | accepted =>
      cases e with
      | spawn j => exact absurd rfl (he j)
      | _ => rfl
  | _ => rfl

theorem afterWrite_poller (h : (a.afterWrite w ok).poller = .want msg) : a.poller = .want msg := by
  unfold afterWrite at h
  split at h
  · split at h
    · unfold afterMain at h
      split at h <;> first | exact h | simp [enterLoop] at h
    · exact h
  · split at h
    · split_ifs at h
    · exact h
  · split at h <;> exact h

theorem afterWrite_main (hw : w ≠ .main) (ok : Bool) : (a.afterWrite w ok).main = a.main := by
  unfold afterWrite
  split
  · exact absurd rfl hw
  · split <;> rfl
  · split <;> rfl

/-- The main loop goes on with its request after a write. -/
theorem serves_afterWrite {after : MainAfter} (hmain : a.main = .writing after)
    (hans : Answers r id msg after) (e : AgentTaskEvent) (ok : Bool)
    (current : Option (Writer × IpcMessage)) :
    (a.afterWrite .main ok).main.Serves (r.after e (a.afterWrite .main ok).main) id current := by
  have hafter : (a.afterWrite .main ok).main = (a.afterMain after ok).main := by
    simp [afterWrite, hmain]
  rw [hafter]
  by_cases hr : r.Free
  · rw [free_after hr]
    unfold afterMain
    split
    · exact hr
    · exact hr
    · exact hr
    · exact hr
    · cases msg <;> simp_all [Answers, Request.Free]
    · exact hr
  · cases msg with
    | openResult m =>
        obtain ⟨rfl, rfl, rfl⟩ := hans
        rcases m.ok with _ | _ <;> rcases ok with _ | _
        · exact ⟨Request.noConfusion, Request.noConfusion⟩
        · exact ⟨Request.noConfusion, Request.noConfusion⟩
        · exact ⟨Request.noConfusion, Request.noConfusion⟩
        · exact ⟨rfl, rfl⟩
    | _ => exact absurd hans.2.2 hr

/-- A write that fails at once, or ends. -/
theorem Framing.afterWrite (hf : a.Framing) (h : a.wire.message = none) (w : Writer) (ok : Bool) :
    (a.afterWrite w ok).Framing := by
  apply framing_of_free
  · rw [afterWrite_wire, h]
  · intro msg hmsg
    exact hf.wants msg (afterWrite_poller hmsg)

/-- The frame in progress and the request stay where their writers are. -/
def Steady (a : AgentState) (r : Request) (id : UInt32) : Prop :=
  a.Framing ∧ a.main.Serves r id a.wire.message

/-- A step that leaves the main loop alone, and a message of the main loop with it. -/
theorem Steady.aside (hs : a.Steady r id) (hf : a'.Framing) (hmain : a'.main = a.main)
    (hcurrent : ∀ msg, a.wire.message = some (.main, msg) → a'.wire.message = a.wire.message)
    (he : ∀ j, e ≠ .spawn j) : a'.Steady (r.after e a'.main) id := by
  refine ⟨hf, ?_⟩
  rw [hmain, after_of_serves hs.2 he]
  have hserves := hs.2
  cases hm : a.main with
  | writing after =>
      rw [hm] at hserves
      obtain ⟨msg, hmsg, hans⟩ := hserves
      exact ⟨msg, by rw [hcurrent msg hmsg, hmsg], hans⟩
  | _ =>
      rw [hm] at hserves
      exact hserves

/-- A write of the main loop is over. -/
theorem steady_afterWrite_main {after : MainAfter} (hf : a.Framing) (hfree : a.wire.message = none)
    (hmain : a.main = .writing after) (hans : Answers r id msg after) (e : AgentTaskEvent)
    (ok : Bool) : (a.afterWrite .main ok).Steady (r.after e (a.afterWrite .main ok).main) id :=
  ⟨hf.afterWrite hfree .main ok, serves_afterWrite hmain hans e ok _⟩

/-- A write is over: it was put out, or it failed. -/
theorem Steady.afterWrite {u : AgentState} (hs : a.Steady r id) (hw : a.holder = some w)
    (hu : ∃ wire, u = { a with wire := wire }) (hfree : u.wire.message = none)
    (he : ∀ j, e ≠ .spawn j) (ok : Bool) :
    (u.afterWrite w ok).Steady (r.after e (u.afterWrite w ok).main) id := by
  obtain ⟨wire, rfl⟩ := hu
  have hf : AgentState.Framing { a with wire := wire } := framing_of_free hfree hs.1.wants
  by_cases hmain : w = .main
  · subst hmain
    rw [holder_eq] at hw
    obtain ⟨⟨w, msg⟩, hmsg, rfl⟩ := Option.map_eq_some_iff.mp hw
    obtain ⟨after, hafter⟩ := hs.1.frame .main msg hmsg
    have hserves := hs.2
    rw [hafter] at hserves
    obtain ⟨msg', hmsg', hans⟩ := hserves
    exact steady_afterWrite_main hf hfree hafter hans e ok
  · apply hs.aside (hf.afterWrite hfree w ok) (afterWrite_main hmain ok) ?_ he
    intro msg hmsg
    rw [holder_eq, hmsg] at hw
    exact absurd (Option.some.inj hw).symm hmain

/-- A write begins while nothing is being written. -/
theorem free_of_beginWrite (h : u.beginWrite json w msg = some a') : u.wire.message = none := by
  unfold beginWrite at h
  split_ifs at h with hlock
  simpa [ControlSocket.message] using hlock

/-- A write begins, or fails at once. -/
theorem steady_beginWrite (h : u.beginWrite json w msg = some a')
    (hwants : ∀ m, u.poller = .want m → m.streamId? = none)
    (hstart : u.wire.message = none → ∀ wire : ControlSocket, wire.message = some (w, msg) →
      AgentState.Steady { u with wire := wire } (r.after e u.main) id)
    (hfail : u.wire.message = none → u.Framing →
      (u.afterWrite w false).Steady (r.after e (u.afterWrite w false).main) id) :
    a'.Steady (r.after e a'.main) id := by
  rcases beginWrite_eq_some h with ⟨err, he, rfl⟩ | ⟨frame, wire, hframe, hwire, rfl⟩
  · have hfree := free_of_beginWrite h
    exact hfail hfree (framing_of_free hfree hwants)
  · obtain ⟨hfree, hne, rfl⟩ := FrameWriter.start_eq_some hwire
    exact hstart (by simp [ControlSocket.message, hfree]) _ rfl

/-- A write of the poller or of a task begins, or fails at once. -/
theorem Steady.beginAside (hs : a.Steady r id) (h : u.beginWrite json w msg = some a')
    (hw : w ≠ .main) (hmain : u.main = a.main) (hwire : u.wire = a.wire)
    (hwants : ∀ m, u.poller = .want m → m.streamId? = none) (hstands : u.Stands msg w)
    (he : ∀ j, e ≠ .spawn j) : a'.Steady (r.after e a'.main) id := by
  apply steady_beginWrite h hwants
  · intro hfree wire hmsg
    rw [hwire] at hfree
    refine hs.aside ⟨?_, hwants⟩ hmain (by simp [hfree]) he
    intro w' m hm
    obtain ⟨rfl, rfl⟩ : w = w' ∧ msg = m := by simpa [hmsg] using hm
    exact hstands
  · intro hfree hu
    rw [hwire] at hfree
    refine hs.aside (hu.afterWrite (by rw [hwire, hfree]) w false) ?_ (by simp [hfree]) he
    rw [afterWrite_main hw, hmain]

/-- The main loop moves while it is not writing. -/
theorem Framing.moveMain (hf : a.Framing) (hmain : ∀ after, a.main ≠ .writing after)
    (main : MainLoop) : AgentState.Framing { a with main := main } := by
  refine ⟨fun w msg hmsg => ?_, hf.wants⟩
  have hstands := hf.frame w msg hmsg
  cases w with
  | main =>
      obtain ⟨after, hafter⟩ := hstands
      exact absurd hafter (hmain after)
  | poller => exact hstands
  | task j => exact hstands

@[inherit_doc Framing.moveMain]
theorem Steady.moveMain (hs : a.Steady r id) (hmain : ∀ after, a.main ≠ .writing after)
    {m : MainLoop} (hserves : m.Serves (r.after e m) id a.wire.message) :
    AgentState.Steady { a with main := m } (r.after e m) id :=
  ⟨hs.1.moveMain hmain m, hserves⟩

/-- A step of a task that is not writing a `StreamClose`, and goes on writing data if it does. -/
theorem Steady.moveTask (hs : a.Steady r id)
    (hdata : ∀ toUp, a.task j = .relaying toUp .writing → ∃ toUp', q = .relaying toUp' .writing)
    (hclose : a.task j ≠ .writingClose) (he : ∀ j, e ≠ .spawn j) :
    (a.goto j q).Steady (r.after e a.main) id :=
  hs.aside (hs.1.goto hdata hclose) rfl (fun _ _ => rfl) he

/-- A task leaves its `select!`, and with it the write of `from_up`. -/
theorem Steady.leave (hs : a.Steady r id) {toUp : ToUp} {fromUp : FromUp}
    (htask : a.task j = .relaying toUp fromUp) (he : ∀ j, e ≠ .spawn j) :
    ((a.dropWrite (.task j)).goto j .left).Steady
      (r.after e ((a.dropWrite (.task j)).goto j .left).main) id := by
  obtain ⟨wire, hwire⟩ := dropWrite_eq a (.task j)
  have hmessage := message_dropWrite (a := a) (w := .task j)
  rw [holder_eq] at hmessage
  rw [hwire] at hmessage ⊢
  have hsame : ∀ w msg, wire.message = some (w, msg) →
      a.wire.message = some (w, msg) ∧ w ≠ .task j := by
    intro w msg hmsg
    simp only [hmsg] at hmessage
    split_ifs at hmessage with hw
    refine ⟨hmessage.symm, ?_⟩
    rintro rfl
    exact hw (by rw [← hmessage]; rfl)
  refine hs.aside ⟨?_, hs.1.wants⟩ rfl ?_ he
  · intro w msg hmsg
    obtain ⟨hmsg, hne⟩ := hsame w msg hmsg
    have hstands := hs.1.frame w msg hmsg
    cases w with
    | main => exact hstands
    | poller => exact hstands
    | task i =>
        have hi : i ≠ j := by
          rintro rfl
          exact hne rfl
        simpa [Stands, AgentState.goto, hi] using hstands
  · intro msg hmsg
    rw [if_neg (by simp [hmsg])] at hmessage
    exact hmessage

/-- A piece of the frame goes out, or the rest of it and the write is over. -/
theorem put_cases (h : a.step json (.put n) = some a') :
    ∃ (p : Pending (Writer × IpcMessage) UInt8) (wire : ControlSocket), a.wire.current = some p ∧
      (n ≠ p.todo.length ∧ wire.message = a.wire.message ∧ wire.sent = a.wire.sent ∧
          a' = { a with wire := wire } ∨
        n = p.todo.length ∧ wire.message = none ∧
          wire.sent = a.wire.sent ++ [(p.message, p.done ++ p.todo)] ∧
          a' = AgentState.afterWrite { a with wire := wire } p.message.1 true) := by
  simp only [step] at h
  split at h
  · rename_i w wire hw hput
    obtain ⟨p, hp, -, ⟨hne, hwire⟩ | ⟨rfl, hwire⟩⟩ := FrameWriter.put_eq_some hput
    · refine ⟨p, wire, hp, .inl ⟨?_, ?_, by rw [hwire], ?_⟩⟩
      · rintro rfl
        exact hne List.drop_length
      · simp [hwire, ControlSocket.message, hp]
      · rw [if_pos (by rw [hwire]; rfl)] at h
        exact (Option.some.inj h).symm
    · obtain rfl : p.message.1 = w := by simpa [holder, hp] using hw
      refine ⟨p, wire, hp, .inr ⟨rfl, by rw [hwire]; rfl, by rw [hwire], ?_⟩⟩
      rw [if_neg (by rw [hwire]; simp)] at h
      exact (Option.some.inj h).symm
  · simp at h

theorem message_of_current {p : Pending (Writer × IpcMessage) UInt8} (hp : a.wire.current = some p) :
    a.wire.message = some p.message := by
  simp [ControlSocket.message, hp]

theorem holder_of_current {p : Pending (Writer × IpcMessage) UInt8} (hp : a.wire.current = some p) :
    a.holder = some p.message.1 := by
  simp [holder, hp]

/-- Part of a frame is nothing to the history. -/
theorem traffic_put_part {p : Pending (Writer × IpcMessage) UInt8} (hp : a.wire.current = some p)
    (hn : n ≠ p.todo.length) : a.traffic (.put n) = none := by
  simp [traffic, hp, Option.filter, hn]

theorem traffic_put_last {p : Pending (Writer × IpcMessage) UInt8} (hp : a.wire.current = some p) :
    a.traffic (.put p.todo.length) = frameTraffic p.message := by
  simp [traffic, hp, Option.filter]

/-- A step of the agent keeps the frame and the request where their writers are. -/
theorem steady_step (hs : a.Steady r id) (h : a.step json e = some a')
    (he : ∀ msg, e ≠ .receive msg) : a'.Steady (r.after e a'.main) id := by
  have hf := hs.1
  have hserves := hs.2
  cases moves_of_step h with
  | @beginMain msg after _ hmain hbegin =>
      rw [hmain] at hserves
      apply steady_beginWrite hbegin hf.wants
      · intro hfree wire hwire
        have hnow : (MainLoop.writing after).Serves r id wire.message := ⟨msg, hwire, hserves⟩
        refine ⟨⟨?_, hf.wants⟩, ?_⟩
        · intro w m hm
          obtain ⟨rfl, rfl⟩ : Writer.main = w ∧ msg = m := by simpa [hwire] using hm
          exact ⟨after, rfl⟩
        · rwa [after_of_serves hnow (by simp)]
      · intro hfree hu
        exact steady_afterWrite_main hu hfree rfl hserves _ false
  | @beginPoller msg _ hpoller hbegin =>
      exact hs.beginAside hbegin (by simp) rfl rfl (by simp) (hf.wants msg hpoller) (by simp)
  | @beginData k toUp data _ htask hbegin =>
      refine hs.beginAside hbegin (by simp) rfl rfl hf.wants (.inl ⟨toUp, data, ?_, rfl⟩) (by simp)
      simp [AgentState.goto]
  | @beginClose k _ htask hbegin =>
      refine hs.beginAside hbegin (by simp) rfl rfl hf.wants (.inr ⟨?_, rfl⟩) (by simp)
      simp [AgentState.goto]
  | put | putLast =>
      obtain ⟨p, wire, hp, ⟨-, hsame, -, heq⟩ | ⟨-, hfree, -, heq⟩⟩ := put_cases h
      · rw [heq]
        exact hs.aside ⟨fun w m hm => hf.frame w m (hsame ▸ hm), hf.wants⟩ rfl (fun _ _ => hsame)
          (by simp)
      · rw [heq]
        exact hs.afterWrite (holder_of_current hp) ⟨wire, rfl⟩ hfree (by simp) true
  | @writeError w hw =>
      refine hs.afterWrite hw (dropWrite_eq a w) ?_ (by simp) false
      rw [message_dropWrite, if_pos hw]
  | @publish policy lists hmain =>
      rw [hmain] at hserves
      have hmoved := hs.moveMain (e := .publish policy lists) (by simp [hmain])
        (m := .want (.deviceSnapshot (a.refresh policy lists).2) .spawnPoller)
        (by rw [free_after hserves]; exact ⟨rfl, by simp, hserves⟩)
      exact ⟨{ hmoved.1 with }, hmoved.2⟩
  | publishFails hmain =>
      rw [hmain] at hserves
      have hmoved := hs.moveMain (e := .publishFails) (by simp [hmain]) (m := .idle)
        (by rw [free_after hserves]; exact hserves)
      exact ⟨⟨hmoved.1.frame, by simp [enterLoop]⟩, hmoved.2⟩
  | poll =>
      exact hs.aside ⟨hf.frame, by simp [IpcMessage.streamId?]⟩ rfl (fun _ _ => rfl) (by simp)
  | pollFails => exact hs.aside ⟨hf.frame, by simp⟩ rfl (fun _ _ => rfl) (by simp)
  | receive => exact absurd rfl (he _)
  | @connectFails err req route hmain =>
      rw [hmain] at hserves
      obtain ⟨rfl, hid⟩ := hserves
      exact hs.moveMain (by simp [hmain]) ⟨rfl, hid, by simp⟩
  | @authFails err req route hmain =>
      rw [hmain] at hserves
      obtain ⟨rfl, hid⟩ := hserves
      exact hs.moveMain (by simp [hmain]) ⟨rfl, hid, by simp⟩
  | serviceFails hmain =>
      rw [hmain] at hserves
      obtain ⟨rfl, -⟩ := hserves
      exact hs.moveMain (by simp [hmain]) ⟨Request.noConfusion, Request.noConfusion⟩
  | upstreamReady hmain =>
      rw [hmain] at hserves
      obtain ⟨rfl, hid⟩ := hserves
      exact hs.moveMain (by simp [hmain]) ⟨rfl, hid, by simp⟩
  | @spawn k id' hmain htask =>
      rw [hmain] at hserves
      obtain ⟨rfl, -⟩ := hserves
      refine ⟨⟨fun w msg hmsg => ?_, hf.wants⟩, Request.noConfusion, Request.noConfusion⟩
      have hstands := hf.frame w msg hmsg
      cases w with
      | main =>
          obtain ⟨after, hafter⟩ := hstands
          rw [hmain] at hafter
          simp at hafter
      | poller => exact hstands
      | task i =>
          have hi : i ≠ k := by
            rintro rfl
            simp [Stands, htask] at hstands
          simpa [Stands, AgentState.goto, hi] using hstands
  | roomClosed hmain | room hmain =>
      rw [hmain] at hserves
      have hmoved := hs.moveMain (e := .room) (by simp [hmain]) (m := .idle)
        (by rw [free_after hserves]; exact hserves)
      exact ⟨{ hmoved.1 with }, hmoved.2⟩
  | stop hmain =>
      rw [hmain] at hserves
      have hidle : (a.dropWrite .poller).main = .idle := by
        obtain ⟨wire, hwire⟩ := dropWrite_eq a .poller
        rw [hwire, ← hmain]
      have hdropped : (a.dropWrite .poller).Steady r id := by
        refine ⟨hf.dropWrite .poller, ?_⟩
        rw [hidle]
        exact hserves
      have hstopped := hdropped.moveMain (e := .stop) (by simp [hidle]) (m := .stopped)
        (by rw [free_after hserves]; exact hserves)
      exact ⟨⟨hstopped.1.frame, by simp⟩, hstopped.2⟩
  | upstreamData htask => exact hs.moveTask (by simp [htask]) (by simp [htask]) (by simp)
  | upstreamEnd htask => exact hs.moveTask (by simp [htask]) (by simp [htask]) (by simp)
  | @recv k fromUp data rest htask =>
      have hmoved := hs.moveTask (e := .recv k) (q := .relaying (.writing data) fromUp)
        (j := k) (by simp [htask]) (by simp [htask]) (by simp)
      exact ⟨{ hmoved.1 with }, hmoved.2⟩
  | @upWritten k data fromUp htask =>
      have hmoved := hs.moveTask (e := .upWritten k) (q := .relaying .recv fromUp)
        (j := k) (by simp [htask]) (by simp [htask]) (by simp)
      exact ⟨{ hmoved.1 with }, hmoved.2⟩
  | @upFailed k data fromUp htask => exact hs.leave (e := .upFailed k) htask (by simp)
  | @recvClosed k fromUp htask => exact hs.leave (e := .recvClosed k) htask (by simp)
  | @remove k htask =>
      have hmoved := hs.moveTask (e := .remove k) (q := .wantClose) (j := k)
        (by simp [htask]) (by simp [htask]) (by simp)
      exact ⟨{ hmoved.1 with }, hmoved.2⟩

/-- A main loop that is busy with no request is busy with none under any id. -/
theorem Steady.free {r' : Request} (hs : a.Steady r id) (hr : r.Free) (hr' : r'.Free)
    (id' : UInt32) : a.Steady r' id' := by
  have hanswers : ∀ msg after, Answers r id msg after → Answers r' id' msg after := by
    intro msg after hans
    cases msg with
    | openResult m => exact absurd hans.1 hr.1
    | _ => exact ⟨hans.1, hans.2.1, hr'⟩
  obtain ⟨hf, hserves⟩ := hs
  refine ⟨hf, ?_⟩
  cases hm : a.main <;> rw [hm] at hserves
  case want msg after => exact hanswers msg after hserves
  case writing after =>
    obtain ⟨msg, hmsg, hans⟩ := hserves
    exact ⟨msg, hmsg, hanswers msg after hans⟩
  case opening => exact absurd hserves.1 hr.1
  case inserting => exact absurd hserves.1 hr.2
  all_goals exact hr'

/-- The main loop takes up a request. -/
theorem steady_request (hf : a.Framing) (hmain : a.main = .idle) (req : OpenPrivateStream) :
    (a.receive (.openPrivateStream req)).Steady .taken req.streamId := by
  have hidle : ∀ after, a.main ≠ .writing after := by simp [hmain]
  unfold receive
  simp only
  split
  · exact ⟨hf.moveMain hidle _, rfl, rfl⟩
  · exact ⟨hf.moveMain hidle _, rfl, rfl, by simp⟩

/-- The main loop takes up any other message. -/
theorem Steady.receive (hs : a.Steady r id) (hmain : a.main = .idle)
    (hmsg : ∀ req, msg ≠ .openPrivateStream req) : (a.receive msg).Steady r id := by
  obtain ⟨hf, hserves⟩ := hs
  have hidle : ∀ after, a.main ≠ .writing after := by simp [hmain]
  have hfree : r.Free := by rwa [hmain] at hserves
  unfold AgentState.receive
  split
  · exact ⟨hf.moveMain hidle _, rfl, by simp, hfree⟩
  · exact absurd rfl (hmsg _)
  · split
    · unfold offer
      split_ifs
      · exact ⟨hf, hserves⟩
      · exact ⟨hf.moveMain hidle _, hfree⟩
      · exact ⟨⟨hf.frame, hf.wants⟩, hserves⟩
    · exact ⟨hf, hserves⟩
  · exact ⟨⟨hf.frame, hf.wants⟩, hserves⟩
  · exact ⟨hf, hserves⟩

end AgentState

/-! ## The requests sent -/

/-- The session has not sent its request. -/
def ForwardPrivate.Unasked : ForwardPrivate → Prop
  | .absent | .insertTx | .insertWaiter | .openWrite => True
  | _ => False

/-- The session has sent its request. -/
def ForwardPrivate.Asked : ForwardPrivate → Prop
  | .waiting | .refused | .failWrite | .relay | .sendingUp _ | .sendingDown _ | .closing
  | .closeWrite => True
  | _ => False

namespace Link

variable {json : SerdeJson} {s t : Link} {e : StreamEvent} {d : ConnStreams} {k : ℕ}
  {q : ForwardPrivate}

/-- Which sessions have sent a request, and what is on its way to the agent. -/
structure Asked (s : Link) : Prop where
  unsent : ∀ k, (s.daemon.task k).Unasked → s.request k = .unsent
  asked : ∀ k, (s.daemon.task k).Asked → s.request k ≠ .unsent
  up : ∀ k msg id, (k, msg) ∈ s.toAgent → msg.streamId? = some id →
    id = s.daemon.streamId k ∧ s.request k ≠ .unsent

theorem Asked.still (ha : s.Asked) (hrequest : t.request = s.request)
    (hup : ∀ k msg, (k, msg) ∈ t.toAgent → msg.streamId? ≠ none → (k, msg) ∈ s.toAgent)
    (hid : t.daemon.streamId = s.daemon.streamId) (htask : t.daemon.task = s.daemon.task) :
    t.Asked := by
  constructor
  · rw [hrequest, htask]
    exact ha.unsent
  · rw [hrequest, htask]
    exact ha.asked
  · intro k msg id hmem hmsg
    rw [hrequest, hid]
    exact ha.up k msg id (hup k msg hmem (by simp [hmsg])) hmsg

theorem Asked.move (ha : s.Asked) (hrequest : t.request = s.request)
    (hup : t.toAgent = s.toAgent) (hid : t.daemon.streamId = s.daemon.streamId)
    (htask : t.daemon.task = Function.update s.daemon.task k q)
    (hunasked : q.Unasked → (s.daemon.task k).Unasked)
    (hasked : q.Asked → (s.daemon.task k).Asked) : t.Asked := by
  have h1 := ha.unsent
  have h2 := ha.asked
  have h3 := ha.up
  constructor
  · rw [hrequest, htask]
    grind [Function.update_apply]
  · rw [hrequest, htask]
    grind [Function.update_apply]
  · rw [hrequest, hup, hid]
    exact h3

/-- A session sends a message with its own stream id. -/
theorem Asked.send (ha : s.Asked) {msg : IpcMessage} (hrequest : t.request = s.request)
    (hup : t.toAgent = s.toAgent ++ [(k, msg)]) (hid : t.daemon.streamId = s.daemon.streamId)
    (htask : t.daemon.task = Function.update s.daemon.task k q)
    (hk : (s.daemon.task k).Asked) (hunasked : ¬ q.Unasked)
    (hmsg : msg.streamId? = some (s.daemon.streamId k)) : t.Asked := by
  have h1 := ha.unsent
  have h2 := ha.asked
  have h3 := ha.up
  constructor
  · rw [hrequest, htask]
    grind [Function.update_apply]
  · rw [hrequest, htask]
    grind [Function.update_apply]
  · rw [hrequest, hup, hid]
    grind

theorem toAgent_afterDaemon (h : d.toAgent = s.daemon.toAgent) :
    (s.afterDaemon e d).toAgent = s.toAgent := by
  simp [afterDaemon, h]

theorem toAgent_afterDaemon_write {msg : IpcMessage} (h : d.toAgent = s.daemon.toAgent ++ [msg]) :
    (s.afterDaemon e d).toAgent = s.toAgent ++ [(e.session, msg)] := by
  simp [afterDaemon, h]

/-- A step of the daemon keeps count of the requests sent. -/
theorem asked_daemon (ha : s.Asked) (h : s.daemon.step e = some d) : (s.afterDaemon e d).Asked := by
  cases ConnStreams.moves_of_step h with
  | openElsewhere | roomClosed | room | pongFailed | hangUp =>
      refine ha.still rfl (fun k msg hmem _ => ?_) rfl rfl
      rwa [toAgent_afterDaemon (by rfl)] at hmem
  | @openSession k routeId service htask =>
      have hunsent : s.request k = .unsent := ha.unsent k (by simp [htask, ForwardPrivate.Unasked])
      have h1 := ha.unsent
      have h2 := ha.asked
      have h3 := ha.up
      constructor
      · simp only [afterDaemon, ConnStreams.goto]
        grind [Function.update_apply]
      · simp only [afterDaemon, ConnStreams.goto]
        have hnot : ¬ ForwardPrivate.insertTx.Asked := by simp [ForwardPrivate.Asked]
        grind [Function.update_apply]
      · rw [toAgent_afterDaemon (by rfl)]
        simp only [afterDaemon]
        grind [Function.update_apply]
  | insertTx htask | insertWaiter htask | timeout htask | dropWaiter htask
    | dropAborted hfree htask | dropRefused hfree htask | dropClosing hfree htask
    | failWritten htask | failFailed htask | clientData htask | clientEof htask | clientGone htask
    | clientError htask | upFailed htask | recv htask | recvClosed htask | downWritten htask
    | downGone htask | downFailed htask | closeFailed htask =>
      exact ha.move rfl (toAgent_afterDaemon rfl) rfl rfl
        (by simp [htask, ForwardPrivate.Unasked]) (by simp [htask, ForwardPrivate.Asked])
  | @openFailed k htask =>
      exact ha.move (q := .abortWaiter) rfl (toAgent_afterDaemon rfl) rfl rfl
        (by simp [ForwardPrivate.Unasked]) (by simp [ForwardPrivate.Asked])
  | @opened k o htask =>
      refine ha.move rfl (toAgent_afterDaemon rfl) rfl rfl ?_ ?_
      · split_ifs <;> simp [ForwardPrivate.Unasked]
      · simp [htask, ForwardPrivate.Asked]
  | @openWritten k htask =>
      have h1 := ha.unsent
      have h2 := ha.asked
      have h3 := ha.up
      have hup : (s.afterDaemon (.openWritten k true) _).toAgent = _ :=
        toAgent_afterDaemon_write (d := (s.daemon.goto k .waiting).writeAgent
          (.openPrivateStream ⟨s.daemon.streamId k, (s.daemon.request k).1, (s.daemon.request k).2⟩))
          rfl
      constructor
      · simp only [afterDaemon, ConnStreams.goto, ConnStreams.writeAgent]
        have hnot : ¬ ForwardPrivate.waiting.Unasked := by simp [ForwardPrivate.Unasked]
        grind [Function.update_apply]
      · simp only [afterDaemon, ConnStreams.goto, ConnStreams.writeAgent]
        grind [Function.update_apply]
      · rw [hup]
        simp only [afterDaemon, StreamEvent.session, ConnStreams.goto, ConnStreams.writeAgent]
        grind [Function.update_apply, IpcMessage.streamId?]
  | @upWritten k data htask =>
      exact ha.send (k := k) (q := .relay) rfl (toAgent_afterDaemon_write rfl) rfl rfl
        (by simp [htask, ForwardPrivate.Asked]) (by simp [ForwardPrivate.Unasked]) rfl
  | @closeWritten k htask =>
      exact ha.send (k := k) (q := .done) rfl (toAgent_afterDaemon_write rfl) rfl rfl
        (by simp [htask, ForwardPrivate.Asked]) (by simp [ForwardPrivate.Unasked]) rfl
  | receive =>
      obtain ⟨hup, hid, htask⟩ := s.daemon.receive_frame _
      refine ha.still rfl (fun k msg hmem _ => ?_) hid htask
      rwa [toAgent_afterDaemon hup] at hmem
  | pongWritten =>
      refine ha.still rfl (fun k msg hmem hmsg => ?_) rfl rfl
      rw [toAgent_afterDaemon_write (by rfl)] at hmem
      rcases List.mem_append.mp hmem with hmem | hmem
      · exact hmem
      · obtain ⟨-, rfl⟩ := Prod.mk.inj (List.mem_singleton.mp hmem)
        exact absurd rfl hmsg

/-! ## Both sides -/

/-- What the sides keep. -/
structure Sound (s : Link) : Prop where
  linked : s.daemon.Linked
  answered : s.daemon.Answered
  agentLinked : s.agent.Linked
  asked : s.Asked
  steady : s.agent.Steady (s.request s.serving) (s.daemon.streamId s.serving)

/-- A session that has sent its request keeps its stream id and sends no other. -/
theorem daemon_keeps (h : s.daemon.step e = some d) (hk : ¬ (s.daemon.task k).Unasked) :
    (s.afterDaemon e d).request k = s.request k ∧ d.streamId k = s.daemon.streamId k := by
  cases ConnStreams.moves_of_step h with
  | @openSession i _ _ htask =>
      have hne : k ≠ i := by
        rintro rfl
        exact hk (by simp [htask, ForwardPrivate.Unasked])
      exact ⟨rfl, Function.update_of_ne hne _ _⟩
  | @openWritten i htask =>
      have hne : k ≠ i := by
        rintro rfl
        exact hk (by simp [htask, ForwardPrivate.Unasked])
      exact ⟨Function.update_of_ne hne _ _, rfl⟩
  | receive => exact ⟨rfl, by rw [(s.daemon.receive_frame _).2.1]⟩
  | _ => exact ⟨rfl, rfl⟩

theorem sound_daemon (hs : s.Sound) (h : s.daemon.step e = some d) : (s.afterDaemon e d).Sound where
  linked := ConnStreams.linked_step hs.linked h
  answered := ConnStreams.answered_step hs.answered h
  agentLinked := hs.agentLinked
  asked := asked_daemon hs.asked h
  steady := by
    show s.agent.Steady ((s.afterDaemon e d).request s.serving) (d.streamId s.serving)
    by_cases hfree : (s.request s.serving).Free
    · refine hs.steady.free hfree ?_ _
      unfold afterDaemon
      split
      · rename_i k
        show (Function.update s.request k .sent s.serving).Free
        by_cases hk : s.serving = k
        · rw [hk, Function.update_self]
          exact ⟨Request.noConfusion, Request.noConfusion⟩
        · rwa [Function.update_of_ne hk]
      · exact hfree
    · have hasked : ¬ (s.daemon.task s.serving).Unasked := by
        intro hk
        rw [hs.asked.unsent _ hk] at hfree
        exact hfree ⟨Request.noConfusion, Request.noConfusion⟩
      obtain ⟨hrequest, hid⟩ := daemon_keeps h hasked
      rw [hrequest, hid]
      exact hs.steady

theorem after_eq_unsent {r : Request} {e : AgentTaskEvent} {main : MainLoop} :
    r.after e main = .unsent ↔ r = .unsent := by
  cases r with
  | taken =>
      refine iff_of_false ?_ Request.noConfusion
      show ¬ main.decided = .unsent
      cases main <;> exact Request.noConfusion
  | accepted =>
      refine iff_of_false ?_ Request.noConfusion
      show ¬ e.started = .unsent
      cases e <;> exact Request.noConfusion
  | _ => exact Iff.rfl

/-- The request of a session moves on, and is not unsent before or after. -/
theorem Asked.request (ha : s.Asked) {r : Request} (hr : r = .unsent ↔ s.request k = .unsent)
    (hrequest : t.request = Function.update s.request k r)
    (hup : ∀ k msg, (k, msg) ∈ t.toAgent → (k, msg) ∈ s.toAgent) (hdaemon : t.daemon = s.daemon) :
    t.Asked := by
  have hsame : ∀ i, t.request i = .unsent ↔ s.request i = .unsent := by
    intro i
    rw [hrequest]
    by_cases hi : i = k
    · rw [hi, Function.update_self, hr]
    · rw [Function.update_of_ne hi]
  constructor
  · intro i hi
    rw [hdaemon] at hi
    exact (hsame i).mpr (ha.unsent i hi)
  · intro i hi
    rw [hdaemon] at hi
    rw [Ne, hsame]
    exact ha.asked i hi
  · intro i msg id hmem hmsg
    rw [hdaemon, Ne, hsame]
    exact ha.up i msg id (hup i msg hmem) hmsg

theorem sound_agent {e : AgentTaskEvent} {a : AgentState} (hs : s.Sound)
    (he : e.IsReceive = false) (h : s.agent.step json e = some a) : (s.afterAgent e a).Sound where
  linked := hs.linked
  answered := hs.answered
  agentLinked := AgentState.linked_step hs.agentLinked h
  asked := hs.asked.request after_eq_unsent rfl (fun _ _ h => h) rfl
  steady := by
    have hnot : ∀ msg, e ≠ .receive msg := by
      rintro msg rfl
      simp [AgentTaskEvent.IsReceive] at he
    have := AgentState.steady_step hs.steady h hnot
    unfold afterAgent
    simpa using this

/-- The agent takes up a message. -/
theorem sound_taken {a : AgentState} {msg : IpcMessage} {rest : List (ℕ × IpcMessage)}
    (hs : s.Sound) (hup : s.toAgent = (k, msg) :: rest)
    (h : s.agent.step json (.receive msg) = some a) :
    ({ s with toAgent := rest }.afterTaken k msg a).Sound := by
  have hlinked := AgentState.linked_step hs.agentLinked h
  have hmem : (k, msg) ∈ s.toAgent := by simp [hup]
  have hrest : ∀ i m, (i, m) ∈ rest → (i, m) ∈ s.toAgent := by
    intro i m hm
    simp [hup, hm]
  simp only [AgentState.step] at h
  split_ifs at h with hmain
  obtain rfl := Option.some.inj h
  unfold afterTaken
  split
  · rename_i req
    obtain ⟨hid, hsent⟩ := hs.asked.up k _ req.streamId hmem rfl
    exact
      { linked := hs.linked
        answered := hs.answered
        agentLinked := hlinked
        asked := hs.asked.request (iff_of_false Request.noConfusion hsent) rfl hrest rfl
        steady := by
          show AgentState.Steady _ (Function.update s.request k .taken k) (s.daemon.streamId k)
          rw [Function.update_self, ← hid]
          exact AgentState.steady_request hs.steady.1 hmain req }
  · rename_i hother
    exact
      { linked := hs.linked
        answered := hs.answered
        agentLinked := hlinked
        asked := hs.asked.still rfl (fun i m hm _ => hrest i m hm) rfl rfl
        steady := hs.steady.receive hmain hother }

/-- **Every step keeps it.** -/
theorem sound_step {e : LinkEvent} (hs : s.Sound) (h : s.step json e = some t) : t.Sound := by
  cases e with
  | daemon e =>
      simp only [step] at h
      split_ifs at h
      obtain ⟨d, hd, rfl⟩ := Option.map_eq_some_iff.mp h
      exact sound_daemon hs hd
  | agent e =>
      simp only [step] at h
      split_ifs at h with he
      obtain ⟨a, ha, rfl⟩ := Option.map_eq_some_iff.mp h
      exact sound_agent hs (by simpa using he) ha
  | toDaemon =>
      simp only [step] at h
      split at h
      · simp at h
      · rename_i w msg rest hdown
        obtain ⟨d, hd, rfl⟩ := Option.map_eq_some_iff.mp h
        have hpop : Sound { s with toDaemon := rest } :=
          { hs with asked := ⟨hs.asked.unsent, hs.asked.asked, hs.asked.up⟩ }
        exact sound_daemon hpop hd
  | toAgent =>
      simp only [step] at h
      split at h
      · simp at h
      · rename_i k msg rest hup
        obtain ⟨a, ha, rfl⟩ := Option.map_eq_some_iff.mp h
        exact sound_taken hs hup ha
  | clientPiece _ n | upstreamPiece _ n =>
      simp only [step] at h
      split at h
      · obtain rfl := Option.some.inj h
        exact { hs with asked := ⟨hs.asked.unsent, hs.asked.asked, hs.asked.up⟩ }
      · simp at h

/-- It holds before anything has happened. -/
theorem sound_init (json : SerdeJson) (token : String) : (machine json token).init.Sound where
  linked := ⟨by simp [machine], by simp [machine]⟩
  answered := by constructor <;> simp [machine, ForwardPrivate.Relays]
  agentLinked := ⟨by simp [machine, AgentState.machine], by simp [machine, AgentState.machine]⟩
  asked := by constructor <;> simp [machine, ForwardPrivate.Asked]
  steady := by
    refine ⟨AgentState.framing_of_free rfl (by simp [machine, AgentState.machine]), ?_⟩
    exact ⟨rfl, by simp, Request.noConfusion, Request.noConfusion⟩

end Link

end AdbHub
