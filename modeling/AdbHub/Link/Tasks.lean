import AdbHub.Agent.Wire
import AdbHub.Link.Streams

/-!
# The stream tasks of an agent as workers of the library

* `Link.agentAction` — a write that ends, a stream that is accepted or dropped, and a task that is
  spawned or leaves.
* `muxStep_agent` — every step of the agent is a step of the library's workers, or none.
-/

namespace AdbHub

open Lib

namespace Link

variable {json : SerdeJson} {s t : Link}

/-! ## Steps of the agent -/

/-- What the end of a write is to the library. -/
def writeAction (ok : Bool) : Writer × IpcMessage → Option (MuxAction UInt32 UInt8)
  | (.main, .openResult m) => some (if ok then (if m.ok then .accept else .refuse) else .drop)
  | (.task j, .streamData _ data) => if ok then some (.workerSend j data) else none
  | (.task j, .streamClose _) => some (if ok then .workerClose j else .workerLeave j)
  | _ => none

/-- What a step of the agent is to the library. -/
def agentAction (json : SerdeJson) (a : AgentState) :
    AgentTaskEvent → Option (MuxAction UInt32 UInt8)
  | .begin w =>
      (a.wanted w).bind fun msg =>
        match frameOf json msg with
        | .error _ => writeAction false (w, msg)
        | .ok _ => none
  | .put n =>
      (a.wire.current.filter fun p => n = p.todo.length).bind fun p => writeAction true p.message
  | .writeError => a.wire.message.bind (writeAction false)
  | .serviceFails => some .drop
  | .spawn j => some (.spawn j)
  | .remove j => some (.workerUnregister j)
  | _ => none

section AgentSteps

variable {e : AgentTaskEvent} {a : AgentState} {w : Writer} {msg : IpcMessage} {j : ℕ}
  {q : StreamTask}

/-- The frames a step completes, as packets. -/
def completed (s : Link) (a : AgentState) : List (Option ℕ × Packet UInt32 UInt8) :=
  ((a.wire.sent.drop s.agent.wire.sent.length).map Prod.fst).filterMap fun p =>
    p.2.packet.map (p.1.worker, ·)

/-- What the library sees of a step of the agent. -/
theorem mux_afterAgent :
    (s.afterAgent e a).mux = { s.mux with
      request := Function.update s.request s.serving ((s.request s.serving).after e a.main)
      worker := fun j => (a.task j).phase
      workerId := a.streamId
      workerTable := a.streams
      workerSent := (s.afterAgent e a).upstream.sent
      workerGot := (s.afterAgent e a).upstream.got
      down := s.mux.down ++ s.completed a } := by
  rw [mux_agent (t := s.afterAgent e a) (s := s) rfl rfl rfl]
  · have hdown : (s.afterAgent e a).mux.down = s.mux.down ++ s.completed a := by
      simp only [mux, afterAgent, completed, List.filterMap_append]
    rw [hdown]
    rfl
  · intro k
    show Function.update s.request s.serving _ k = .unsent ↔ _
    by_cases hk : k = s.serving
    · subst hk
      rw [Function.update_self, after_eq_unsent]
    · rw [Function.update_of_ne hk]

/-- A step of the agent that the library does not see. -/
theorem mux_agentStill (hphase : ∀ j, (a.task j).phase = (s.agent.task j).phase)
    (hid : a.streamId = s.agent.streamId) (htable : a.streams = s.agent.streams)
    (hsent : (s.afterAgent e a).upstream.sent = s.upstream.sent)
    (hgot : (s.afterAgent e a).upstream.got = s.upstream.got) (hcompleted : s.completed a = [])
    (hrequest : (s.request s.serving).after e a.main = s.request s.serving) :
    (s.afterAgent e a).mux = s.mux := by
  have hphase : (fun j => (a.task j).phase) = fun j => (s.agent.task j).phase := funext hphase
  rw [mux_afterAgent, hphase, hid, htable, hsent, hgot, hcompleted, hrequest,
    Function.update_eq_self, List.append_nil]
  rfl

theorem packet_eq_none {msg : IpcMessage} (h : msg.streamId? = none) : msg.packet = none := by
  cases msg <;> simp [IpcMessage.streamId?] at h <;> rfl

/-- A write of the main loop is over. -/
theorem muxStep_mainWritten {b : Bool} (after : MainAfter)
    (hans : Answers (s.request s.serving) (s.daemon.streamId s.serving) msg after)
    (hmain : a.main = (s.agent.afterMain after b).main) (htask : a.task = s.agent.task)
    (hid : a.streamId = s.agent.streamId) (htable : a.streams = s.agent.streams)
    (hsent : (s.afterAgent e a).upstream.sent = s.upstream.sent)
    (hgot : (s.afterAgent e a).upstream.got = s.upstream.got)
    (hcompleted : s.completed a = if b then (msg.packet.map fun p => (none, p)).toList else []) :
    MuxStep (writeAction b (.main, msg)) s (s.afterAgent e a) := by
  have hother : msg.streamId? = none → (s.request s.serving).Free →
      (s.afterAgent e a).mux = s.mux := by
    intro hnone hfree
    apply mux_agentStill (fun j => by rw [htask]) hid htable hsent hgot ?_ (AgentState.free_after hfree _ _)
    rw [hcompleted, packet_eq_none hnone]
    simp
  have hworker : (fun j => (a.task j).phase) = s.mux.worker := by
    rw [htask]
    rfl
  cases msg with
  | openResult m =>
      obtain ⟨htaken, hmid, rfl⟩ := hans
      have hs : s.mux.request s.mux.serving = .taken := htaken
      have hidle : ∀ m : OpenResult,
          (s.agent.afterMain (if m.ok then .insert m.streamId else .loop) false).main = .idle := by
        intro m
        split <;> rfl
      refine .inr ⟨_, rfl, ?_⟩
      rw [mux_afterAgent, hmain, htaken, hworker, hid, htable, hsent, hgot, hcompleted]
      cases b with
      | false =>
          rw [hidle]
          simp only [Mux.machine, Mux.step, if_pos hs, Bool.false_eq_true, if_false, List.append_nil]
          rfl
      | true =>
          rcases hok : m.ok with _ | _
          · simp only [Mux.machine, Mux.step, if_pos hs, Bool.false_eq_true, if_false, if_true]
            show _ = some { s.mux with
              request := Function.update s.request s.serving .refused
              down := s.mux.down ++ [(none, Packet.result m.streamId m.ok)] }
            rw [hmid, hok]
            rfl
          · simp only [Mux.machine, Mux.step, if_pos hs, if_true]
            show _ = some { s.mux with
              request := Function.update s.request s.serving .accepted
              down := s.mux.down ++ [(none, Packet.result m.streamId m.ok)] }
            rw [hmid, hok]
            rfl
  | _ => exact .inl ⟨rfl, hother hans.1 hans.2.2⟩

/-- A task has moved, and may have sent data. -/
theorem mux_taskStep (htask : a.task = Function.update s.agent.task j q)
    (hid : a.streamId = s.agent.streamId)
    (hgot : (s.afterAgent e a).upstream.got = s.upstream.got)
    (hrequest : (s.request s.serving).after e a.main = s.request s.serving) :
    (s.afterAgent e a).mux = { s.mux with
      worker := Function.update s.mux.worker j q.phase
      workerTable := a.streams
      workerSent := (s.afterAgent e a).upstream.sent
      down := s.mux.down ++ s.completed a } := by
  have hworker : (fun i => (a.task i).phase) = Function.update s.mux.worker j q.phase := by
    funext i
    rw [htask]
    by_cases hi : i = j
    · rw [hi, Function.update_self, Function.update_self]
    · rw [Function.update_of_ne hi, Function.update_of_ne hi]
      rfl
  rw [mux_afterAgent, hworker, hid, hgot, hrequest, Function.update_eq_self]
  rfl

/-- A write of the data of an upstream is over. -/
theorem muxStep_dataWritten {data : Bytes} {b : Bool} (hlive : (s.agent.task j).phase = .live)
    (htask : a.task = Function.update s.agent.task j q) (hpc : q.phase = .live)
    (hid : a.streamId = s.agent.streamId) (htable : a.streams = s.agent.streams)
    (hgot : (s.afterAgent e a).upstream.got = s.upstream.got)
    (hrequest : (s.request s.serving).after e a.main = s.request s.serving)
    (hsent : (s.afterAgent e a).upstream.sent =
      if b then Function.update s.upstream.sent j (s.upstream.sent j ++ data) else s.upstream.sent)
    (hcompleted : s.completed a =
      if b then [(some j, .data (s.agent.streamId j) data)] else []) :
    MuxStep (writeAction b (.task j, .streamData (s.agent.streamId j) data)) s
      (s.afterAgent e a) := by
  have hsame : Function.update s.mux.worker j .live = s.mux.worker :=
    Function.update_eq_self_iff.mpr hlive.symm
  have hmux := mux_taskStep (e := e) htask hid hgot hrequest
  rw [hpc, hsame, htable, hsent, hcompleted] at hmux
  cases b with
  | false =>
      refine .inl ⟨rfl, ?_⟩
      rw [hmux, if_neg Bool.false_ne_true, if_neg Bool.false_ne_true, List.append_nil]
      rfl
  | true =>
      refine .inr ⟨.workerSend j data, rfl, ?_⟩
      have hj : s.mux.worker j = .live := hlive
      rw [hmux, if_pos rfl, if_pos rfl]
      simp only [Mux.machine, Mux.step, if_pos hj]
      rfl

/-- A write of `StreamClose` is over, and with it the task. -/
theorem muxStep_closeWritten {reason : String} {b : Bool}
    (hlive : (s.agent.task j).phase = .live)
    (htask : a.task = Function.update s.agent.task j .done)
    (hid : a.streamId = s.agent.streamId) (htable : a.streams = s.agent.streams)
    (hsent : (s.afterAgent e a).upstream.sent = s.upstream.sent)
    (hgot : (s.afterAgent e a).upstream.got = s.upstream.got)
    (hrequest : (s.request s.serving).after e a.main = s.request s.serving)
    (hcompleted : s.completed a = if b then [(some j, .close (s.agent.streamId j))] else []) :
    MuxStep (writeAction b (.task j, .streamClose ⟨s.agent.streamId j, reason⟩)) s
      (s.afterAgent e a) := by
  have hj : s.mux.worker j = .live := hlive
  have hmux := mux_taskStep (e := e) htask hid hgot hrequest
  rw [htable, hsent, hcompleted] at hmux
  refine .inr ⟨_, rfl, ?_⟩
  rw [hmux]
  cases b with
  | false =>
      rw [if_neg Bool.false_ne_true, if_neg Bool.false_ne_true, List.append_nil]
      simp only [Mux.machine, Mux.step, if_pos hj]
      rfl
  | true =>
      rw [if_pos rfl, if_pos rfl]
      simp only [Mux.machine, Mux.step, if_pos hj]
      rfl

/-- A step that leaves the main loop alone leaves the request alone. -/
theorem after_aside (hs : s.Sound) (hmain : a.main = s.agent.main) (he : ∀ j, e ≠ .spawn j) :
    (s.request s.serving).after e a.main = s.request s.serving := by
  rw [hmain]
  exact AgentState.after_of_serves hs.steady.2 he

/-- A write is over: it was put out, or it failed. -/
theorem muxStep_over {u : AgentState} {ok : Bool} (hs : s.Sound)
    (hmsg : s.agent.wire.message = some (w, msg)) (hu : ∃ wire, u = { s.agent with wire := wire })
    (ha : a = u.afterWrite w ok) (he : ∀ j, e ≠ .spawn j)
    (hsent : (s.afterAgent e a).upstream.sent =
      if ok then (s.upstream.note (frameTraffic (w, msg))).sent else s.upstream.sent)
    (hgot : (s.afterAgent e a).upstream.got = s.upstream.got)
    (hcompleted : s.completed a =
      if ok then (msg.packet.map fun p => (w.worker, p)).toList else []) :
    MuxStep (writeAction ok (w, msg)) s (s.afterAgent e a) := by
  obtain ⟨wire, rfl⟩ := hu
  have hstands := hs.steady.1.frame w msg hmsg
  have hid : a.streamId = s.agent.streamId := by rw [ha, AgentState.afterWrite_streamId]
  have htable : a.streams = s.agent.streams := by rw [ha, AgentState.afterWrite_streams]
  cases w with
  | main =>
      obtain ⟨after, hmain⟩ := hstands
      have hserves := hs.steady.2
      rw [hmain] at hserves
      obtain ⟨msg', hmsg', hans⟩ := hserves
      obtain rfl : msg = msg' := by
        rw [hmsg] at hmsg'
        exact (Prod.mk.inj (Option.some.inj hmsg')).2
      have hsent : (s.afterAgent e a).upstream.sent = s.upstream.sent := by
        rw [hsent]
        exact ite_self _
      apply muxStep_mainWritten after hans ?_ ?_ hid htable hsent hgot hcompleted
      · rw [ha]
        simp only [AgentState.afterWrite, hmain]
        cases after <;> cases ok <;> rfl
      · rw [ha]
        simp only [AgentState.afterWrite, hmain]
        cases after <;> cases ok <;> rfl
  | poller =>
      have hsent : (s.afterAgent e a).upstream.sent = s.upstream.sent := by
        rw [hsent]
        exact ite_self _
      have hmain : a.main = s.agent.main := by
        rw [ha]
        exact AgentState.afterWrite_main (by simp) ok
      refine .inl ⟨rfl, mux_agentStill (fun i => ?_) hid htable hsent hgot ?_ (after_aside hs hmain he)⟩
      · rw [ha]
        simp only [AgentState.afterWrite]
        split <;> rfl
      · rw [hcompleted, packet_eq_none hstands]
        exact ite_self _
  | task j =>
      have hmain : a.main = s.agent.main := by
        rw [ha]
        exact AgentState.afterWrite_main (by simp) ok
      have hrequest := after_aside hs hmain he
      rcases hstands with ⟨toUp, data, htask, rfl⟩ | ⟨htask, rfl⟩
      · have hlive : (s.agent.task j).phase = .live := by rw [htask]; rfl
        refine muxStep_dataWritten (q := if ok then .relaying toUp .reading else .left) hlive ?_ ?_
          hid htable hgot hrequest ?_ ?_
        · rw [ha]
          simp only [AgentState.afterWrite, htask]
          rfl
        · split_ifs <;> rfl
        · rw [hsent]
          rfl
        · rw [hcompleted]
          rfl
      · have hlive : (s.agent.task j).phase = .live := by rw [htask]; rfl
        have hsent : (s.afterAgent e a).upstream.sent = s.upstream.sent := by
          rw [hsent]
          exact ite_self _
        refine muxStep_closeWritten hlive ?_ hid htable hsent hgot hrequest ?_
        · rw [ha]
          simp only [AgentState.afterWrite, htask]
          rfl
        · rw [hcompleted]
          rfl

theorem completed_of_sent (h : a.wire.sent = s.agent.wire.sent) : s.completed a = [] := by
  simp [completed, h]

/-- A piece of a frame goes out, or the rest of it. -/
theorem muxStep_put {n : ℕ} (hs : s.Sound) (h : s.agent.step json (.put n) = some a) :
    MuxStep (agentAction json s.agent (.put n)) s (s.afterAgent (.put n) a) := by
  obtain ⟨p, wire, hp, ⟨hn, -, hsame, rfl⟩ | ⟨rfl, -, hmore, ha⟩⟩ := AgentState.put_cases h
  · have hact : agentAction json s.agent (.put n) = none := by
      simp [agentAction, hp, Option.filter, hn]
    have hnote : (s.afterAgent (.put n) { s.agent with wire := wire }).upstream = s.upstream := by
      simp only [afterAgent, AgentState.traffic_put_part hp hn]
      rfl
    rw [hact]
    exact .inl ⟨rfl, mux_agentStill (fun _ => rfl) rfl rfl (by rw [hnote]) (by rw [hnote])
      (completed_of_sent hsame) (after_aside hs rfl (by simp))⟩
  · have hact : agentAction json s.agent (.put p.todo.length) = writeAction true p.message := by
      simp [agentAction, hp, Option.filter]
    have hnote : (s.afterAgent (.put p.todo.length) a).upstream =
        s.upstream.note (frameTraffic p.message) := by
      simp only [afterAgent, AgentState.traffic_put_last hp]
    rw [hact]
    apply muxStep_over hs (AgentState.message_of_current hp) ⟨wire, rfl⟩ ha (by simp)
    · rw [hnote]
      rfl
    · rw [hnote]
      unfold frameTraffic
      split <;> rfl
    · have hsent : a.wire.sent.drop s.agent.wire.sent.length =
          [(p.message, p.done ++ p.todo)] := by
        rw [ha, AgentState.afterWrite_wire, hmore]
        exact List.drop_left
      rw [completed, hsent, if_pos rfl]
      rcases hq : p.message.2.packet with _ | q <;> simp [hq]

/-- A step that completes no frame. -/
theorem mux_quiet (h : a.wire.sent = s.agent.wire.sent) :
    (s.afterAgent e a).mux = { s.mux with
      request := Function.update s.request s.serving ((s.request s.serving).after e a.main)
      worker := fun j => (a.task j).phase
      workerId := a.streamId
      workerTable := a.streams
      workerSent := (s.afterAgent e a).upstream.sent
      workerGot := (s.afterAgent e a).upstream.got } := by
  rw [mux_afterAgent, completed_of_sent h, List.append_nil]

theorem dropWrite_sent (a : AgentState) (w : Writer) : (a.dropWrite w).wire.sent = a.wire.sent := by
  unfold AgentState.dropWrite
  split_ifs <;> rfl

/-- A write fails. -/
theorem muxStep_writeError (hs : s.Sound) (hw : s.agent.holder = some w) :
    MuxStep (agentAction json s.agent .writeError) s
      (s.afterAgent .writeError ((s.agent.dropWrite w).afterWrite w false)) := by
  rw [AgentState.holder_eq] at hw
  obtain ⟨⟨w, msg⟩, hmsg, rfl⟩ := Option.map_eq_some_iff.mp hw
  have hact : agentAction json s.agent .writeError = writeAction false (w, msg) := by
    simp [agentAction, hmsg]
  rw [hact]
  apply muxStep_over hs hmsg (AgentState.dropWrite_eq s.agent w) rfl (by simp) rfl rfl
  apply completed_of_sent
  rw [AgentState.afterWrite_wire, dropWrite_sent]

/-- A task moves and goes on living, or not. -/
theorem phase_move (htask : a.task = Function.update s.agent.task j q)
    (hpc : q.phase = (s.agent.task j).phase) (i : ℕ) :
    (a.task i).phase = (s.agent.task i).phase := by
  rw [htask]
  by_cases hi : i = j
  · rw [hi, Function.update_self, hpc]
  · rw [Function.update_of_ne hi]

/-- A write begins, or fails at once. -/
theorem muxStep_begin {u : AgentState} (hwants : s.agent.wanted w = some msg)
    (h : u.beginWrite json w msg = some a) (hwire : u.wire = s.agent.wire)
    (hphase : ∀ j, (u.task j).phase = (s.agent.task j).phase)
    (hid : u.streamId = s.agent.streamId) (htable : u.streams = s.agent.streams)
    (hrequest : (s.request s.serving).after (.begin w) u.main = s.request s.serving)
    (hfail : a = u.afterWrite w false →
      MuxStep (writeAction false (w, msg)) s (s.afterAgent (.begin w) a)) :
    MuxStep (agentAction json s.agent (.begin w)) s (s.afterAgent (.begin w) a) := by
  rcases AgentState.beginWrite_eq_some h with ⟨err, herr, ha⟩ | ⟨frame, wire, hframe, hstart, rfl⟩
  · have hact : agentAction json s.agent (.begin w) = writeAction false (w, msg) := by
      simp [agentAction, hwants, herr]
    rw [hact]
    exact hfail ha
  · have hact : agentAction json s.agent (.begin w) = none := by
      simp [agentAction, hwants, hframe]
    obtain ⟨-, -, rfl⟩ := FrameWriter.start_eq_some hstart
    rw [hact]
    refine .inl ⟨rfl, mux_agentStill hphase hid htable rfl rfl (completed_of_sent ?_) hrequest⟩
    rw [← hwire]

/-- Every step of the agent that takes up no message. -/
theorem muxStep_agent (hs : s.Sound) (he : e.IsReceive = false)
    (h : s.agent.step json e = some a) : MuxStep (agentAction json s.agent e) s (s.afterAgent e a) := by
  have hserves := hs.steady.2
  cases AgentState.moves_of_step h with
  | @beginMain msg after _ hmain hbegin =>
      rw [hmain] at hserves
      refine muxStep_begin (by simp [AgentState.wanted, hmain]) hbegin rfl (fun _ => rfl) rfl rfl ?_ ?_
      · have hnow : (MainLoop.writing after).Serves (s.request s.serving)
            (s.daemon.streamId s.serving) (some (.main, msg)) := ⟨msg, rfl, hserves⟩
        exact AgentState.after_of_serves hnow (by simp)
      · rintro rfl
        apply muxStep_mainWritten (b := false) after hserves
        · cases after <;> rfl
        · cases after <;> rfl
        · rw [AgentState.afterWrite_streamId]
        · rw [AgentState.afterWrite_streams]
        · rfl
        · rfl
        · exact completed_of_sent (by rw [AgentState.afterWrite_wire])
  | @beginPoller msg _ hpoller hbegin =>
      refine muxStep_begin (by simp [AgentState.wanted, hpoller]) hbegin rfl (fun _ => rfl) rfl rfl
        (after_aside (e := .begin .poller) hs rfl (by simp)) ?_
      rintro rfl
      refine .inl ⟨rfl, mux_agentStill (fun _ => rfl) rfl rfl rfl rfl (completed_of_sent rfl) ?_⟩
      exact after_aside hs rfl (by simp)
  | @beginData k toUp data _ htask hbegin =>
      have hlive : (s.agent.task k).phase = .live := by rw [htask]; rfl
      refine muxStep_begin (by simp [AgentState.wanted, htask]) hbegin rfl (fun i => ?_) rfl rfl
        (after_aside (e := .begin (.task k)) hs rfl (by simp)) ?_
      · by_cases hi : i = k
        · rw [hi, hlive]
          simp [AgentState.goto, StreamTask.phase]
        · simp [AgentState.goto, hi]
      · rintro rfl
        have htask' : (AgentState.afterWrite (s.agent.goto k (.relaying toUp .writing)) (.task k)
            false).task = Function.update s.agent.task k .left := by
          simp [AgentState.afterWrite, AgentState.goto]
        refine muxStep_dataWritten (b := false) hlive htask' rfl ?_ ?_ rfl ?_ rfl ?_
        · rw [AgentState.afterWrite_streamId]
          rfl
        · rw [AgentState.afterWrite_streams]
          rfl
        · exact after_aside hs (AgentState.afterWrite_main (by simp) false) (by simp)
        · exact completed_of_sent (by rw [AgentState.afterWrite_wire]; rfl)
  | @beginClose k _ htask hbegin =>
      have hlive : (s.agent.task k).phase = .live := by rw [htask]; rfl
      refine muxStep_begin (by simp [AgentState.wanted, htask]) hbegin rfl (fun i => ?_) rfl rfl
        (after_aside (e := .begin (.task k)) hs rfl (by simp)) ?_
      · by_cases hi : i = k
        · rw [hi, hlive]
          simp [AgentState.goto, StreamTask.phase]
        · simp [AgentState.goto, hi]
      · rintro rfl
        have htask' : (AgentState.afterWrite (s.agent.goto k .writingClose) (.task k)
            false).task = Function.update s.agent.task k .done := by
          simp [AgentState.afterWrite, AgentState.goto]
        refine muxStep_closeWritten (b := false) hlive htask' ?_ ?_ rfl rfl ?_ ?_
        · rw [AgentState.afterWrite_streamId]
          rfl
        · rw [AgentState.afterWrite_streams]
          rfl
        · exact after_aside hs (AgentState.afterWrite_main (by simp) false) (by simp)
        · exact completed_of_sent (by rw [AgentState.afterWrite_wire]; rfl)
  | put | putLast => exact muxStep_put hs h
  | writeError hw => exact muxStep_writeError hs hw
  | @publish policy lists hmain =>
      rw [hmain] at hserves
      exact .inl ⟨rfl, mux_agentStill (fun _ => rfl) rfl rfl rfl rfl (completed_of_sent rfl)
        (AgentState.free_after hserves _ _)⟩
  | publishFails hmain | roomClosed hmain | room hmain =>
      rw [hmain] at hserves
      exact .inl ⟨rfl, mux_agentStill (fun _ => rfl) rfl rfl rfl rfl (completed_of_sent rfl)
        (AgentState.free_after hserves _ _)⟩
  | poll | pollFails =>
      exact .inl ⟨rfl, mux_agentStill (fun _ => rfl) rfl rfl rfl rfl (completed_of_sent rfl)
        (after_aside hs rfl (by simp))⟩
  | receive => simp [AgentTaskEvent.IsReceive] at he
  | connectFails hmain | authFails hmain | upstreamReady hmain =>
      rw [hmain] at hserves
      refine .inl ⟨rfl, mux_agentStill (fun _ => rfl) rfl rfl rfl rfl (completed_of_sent rfl) ?_⟩
      rw [hserves.1]
      rfl
  | serviceFails hmain =>
      rw [hmain] at hserves
      refine .inr ⟨.drop, rfl, ?_⟩
      have htaken : s.mux.request s.mux.serving = .taken := hserves.1
      simp only [Mux.machine, Mux.step, if_pos htaken]
      rw [mux_quiet, hserves.1]
      · rfl
      · rfl
  | @spawn k id hmain htask =>
      rw [hmain] at hserves
      obtain ⟨haccepted, rfl⟩ := hserves
      refine .inr ⟨.spawn k, rfl, ?_⟩
      have hstep : s.mux.request s.mux.serving = .accepted ∧ s.mux.worker k = .absent := by
        refine ⟨haccepted, ?_⟩
        show (s.agent.task k).phase = .absent
        rw [htask]
        rfl
      simp only [Mux.machine, Mux.step, if_pos hstep]
      have hworker : (fun i => ((Function.update s.agent.task k (.relaying .recv .reading)) i).phase) =
          Function.update s.mux.worker k .live := by
        funext i
        by_cases hi : i = k
        · rw [hi, Function.update_self, Function.update_self]
          rfl
        · rw [Function.update_of_ne hi, Function.update_of_ne hi]
          rfl
      rw [mux_quiet, haccepted]
      · show _ = some { s.mux with
          request := Function.update s.request s.serving (.served k)
          worker := fun i => ((Function.update s.agent.task k (.relaying .recv .reading)) i).phase
          workerId := Function.update s.agent.streamId k (s.daemon.streamId s.serving)
          workerTable := Function.update s.agent.streams (s.daemon.streamId s.serving) (some k) }
        rw [hworker]
        rfl
      · rfl
  | stop hmain =>
      rw [hmain] at hserves
      obtain ⟨wire, hwire⟩ := AgentState.dropWrite_eq s.agent .poller
      refine .inl ⟨rfl, mux_agentStill (fun _ => ?_) ?_ ?_ rfl rfl
        (completed_of_sent (dropWrite_sent _ _)) (AgentState.free_after hserves _ _)⟩
      · rw [hwire]
      · rw [hwire]
      · rw [hwire]
  | upstreamData htask | upstreamEnd htask | recv htask =>
      exact .inl ⟨rfl, mux_agentStill (phase_move rfl (by rw [htask]; rfl)) rfl rfl rfl rfl
        (completed_of_sent rfl) (after_aside hs rfl (by simp))⟩
  | @upWritten k data fromUp htask =>
      have htraffic : s.agent.traffic (.upWritten k) = some (.wrote k data) := by
        simp [AgentState.traffic, htask]
      refine .inl ⟨rfl, mux_agentStill (phase_move rfl (by rw [htask]; rfl)) rfl rfl ?_ ?_
        (completed_of_sent rfl) (after_aside hs rfl (by simp))⟩
      · simp [afterAgent, htraffic, Traffic.note]
      · simp [afterAgent, htraffic, Traffic.note]
  | @upFailed k _ _ htask | @recvClosed k _ htask =>
      obtain ⟨wire, hwire⟩ := AgentState.dropWrite_eq s.agent (.task k)
      have htask' : ((s.agent.dropWrite (.task k)).goto k .left).task =
          Function.update s.agent.task k .left := by
        rw [hwire]
        rfl
      refine .inl ⟨rfl, mux_agentStill (phase_move htask' (by rw [htask]; rfl)) ?_ ?_ rfl rfl
        (completed_of_sent (dropWrite_sent _ _)) (after_aside hs ?_ (by simp))⟩
      · rw [hwire]
        rfl
      · rw [hwire]
        rfl
      · rw [hwire]
        rfl
  | @remove k htask =>
      refine .inr ⟨.workerUnregister k, rfl, ?_⟩
      have hlive : s.mux.worker k = .live := by
        show (s.agent.task k).phase = .live
        rw [htask]
        rfl
      have hsame : Function.update s.mux.worker k .live = s.mux.worker :=
        Function.update_eq_self_iff.mpr hlive.symm
      simp only [Mux.machine, Mux.step, if_pos hlive]
      rw [mux_taskStep (q := .wantClose) (j := k), completed_of_sent, List.append_nil]
      · show _ = some { s.mux with
          worker := Function.update s.mux.worker k .live
          workerTable := Function.update s.agent.streams (s.agent.streamId k) none }
        rw [hsame]
        rfl
      · rfl
      · rfl
      · rfl
      · rfl
      · exact after_aside hs rfl (by simp)

end AgentSteps

end Link

end AdbHub
