import AdbHub.Lib.Machine

/-!
# Chunks through bounded stages

One direction of a relayed stream. A source puts elements into a socket; a writer reads chunks from
it and puts them into a pipe, frame by frame and piece by piece; a dispatcher takes the frames out
and hands their chunks to a queue, where it may have to wait for room; a reader receives them and
writes them into the socket of a sink. Every stage holds a bounded number of elements or chunks.

* `Lane` — what is in each stage; `Lane.step` — the moves of source, writer, dispatcher, reader and
  sink, `Lane.Moves` what each of them requires.
* `Lane.content` — what the sink has, what is under way and what is still to come, in this order;
  **`content_step`** — no move loses or reorders any of it while the dispatcher finds the queue.
* `Lane.WellFormed` — what is put in and taken out is part of a frame; every move keeps it.
-/

namespace AdbHub.Lib

variable {β : Type*}

/-! ## The stages -/

/-- What the pipe carries. -/
inductive Frame (β : Type*)
  | data (chunk : List β)
  /-- The end of the stream. -/
  | close

/-- The elements in a frame. -/
def Frame.chunk : Frame β → List β
  | .data chunk => chunk
  | .close => []

/-- How much each stage holds. -/
structure LaneSizes where
  /-- Elements in the socket of the source. -/
  source : ℕ
  /-- Elements of a chunk. -/
  chunk : ℕ
  /-- Elements in the pipe, those of the frames' headers included. -/
  pipe : ℕ
  /-- What a frame with data is longer than its chunk. -/
  header : ℕ
  /-- The length of a frame that closes. -/
  close : ℕ
  /-- Chunks in the queue. -/
  queue : ℕ
  /-- Elements in the socket of the sink. -/
  sink : ℕ
  source_pos : 0 < source
  chunk_pos : 0 < chunk
  pipe_pos : 0 < pipe
  header_pos : 0 < header
  close_pos : 0 < close
  queue_pos : 0 < queue
  sink_pos : 0 < sink

/-- The length of a frame. -/
def LaneSizes.frame (z : LaneSizes) : Frame β → ℕ
  | .data chunk => z.header + chunk.length
  | .close => z.close

/-- One direction of a stream. -/
structure Lane (β : Type*) where
  /-- What the source has still to send. -/
  todo : List β
  /-- The socket of the source. -/
  source : List β := []
  /-- The frames that are in the pipe whole. -/
  frames : List (Frame β) := []
  /-- The frame the writer is putting in, and how much of it is in. -/
  putting : Option (Frame β × ℕ) := none
  /-- How much of the first frame the dispatcher has taken out. -/
  taken : ℕ := 0
  /-- The chunk for which the dispatcher waits for room in the queue. -/
  waiting : Option (List β) := none
  queue : List (List β) := []
  /-- What the reader has still to write of the chunk it has received. -/
  hand : List β := []
  /-- The socket of the sink. -/
  sink : List β := []
  /-- What the sink has read. -/
  got : List β := []
  /-- The dispatcher finds the queue. -/
  isOpen : Bool := true
  /-- The reader has not dropped the queue. -/
  alive : Bool := true
  /-- A frame was dropped that was partly in the pipe; what follows it cannot be read. -/
  torn : Bool := false

/-- What moves. -/
inductive LaneAction
  /-- The source sends `n` elements. -/
  | send (n : ℕ)
  /-- The writer reads a chunk of `n` elements and begins its frame. -/
  | read (n : ℕ)
  /-- The writer begins the frame that closes. -/
  | close
  /-- The writer puts `n` elements of its frame into the pipe. -/
  | put (n : ℕ)
  /-- The dispatcher takes `n` elements out of the pipe. -/
  | take (n : ℕ)
  /-- The dispatcher finds room in the queue, or the queue dropped. -/
  | room
  /-- The reader receives a chunk. -/
  | recv
  /-- The reader writes `n` elements. -/
  | write (n : ℕ)
  /-- The sink reads `n` elements. -/
  | collect (n : ℕ)
  /-- The writer drops its frame. -/
  | cut
  /-- The dispatcher no longer finds the queue. -/
  | unregister
  /-- The reader drops the queue. -/
  | drop

namespace Lane

/-- How many elements are in the pipe. -/
def used (z : LaneSizes) (l : Lane β) : ℕ :=
  (l.frames.map z.frame).sum + (l.putting.elim 0 Prod.snd) - l.taken

/-- A frame has come out of the pipe. -/
def deliver (z : LaneSizes) (l : Lane β) : Frame β → Lane β
  | .data chunk =>
      if l.isOpen && l.alive then
        if l.queue.length < z.queue then { l with queue := l.queue ++ [chunk] }
        else { l with waiting := some chunk }
      else l
  | .close => { l with isOpen := false }

/-- One move. -/
def step (z : LaneSizes) (l : Lane β) : LaneAction → Option (Lane β)
  | .send n =>
      if 0 < n ∧ n ≤ l.todo.length ∧ l.source.length + n ≤ z.source then
        some { l with todo := l.todo.drop n, source := l.source ++ l.todo.take n }
      else none
  | .read n =>
      if l.putting.isNone ∧ l.torn = false ∧ 0 < n ∧ n ≤ l.source.length ∧ n ≤ z.chunk then
        some { l with
          source := l.source.drop n
          putting := some (.data (l.source.take n), 0) }
      else none
  | .close =>
      if l.putting.isNone ∧ l.torn = false then some { l with putting := some (.close, 0) }
      else none
  | .put n =>
      match l.putting with
      | none => none
      | some (f, k) =>
          if 0 < n ∧ k + n ≤ z.frame f ∧ l.used z + n ≤ z.pipe then
            if k + n = z.frame f then some { l with frames := l.frames ++ [f], putting := none }
            else some { l with putting := some (f, k + n) }
          else none
  | .take n =>
      if l.waiting.isNone ∧ 0 < n ∧ n ≤ l.used z then
        match l.frames with
        | [] => some { l with taken := l.taken + n }
        | f :: rest =>
            if l.taken + n < z.frame f then some { l with taken := l.taken + n }
            else if l.taken + n = z.frame f then
              some ({ l with frames := rest, taken := 0 }.deliver z f)
            else none
      else none
  | .room =>
      match l.waiting with
      | none => none
      | some chunk =>
          if l.alive = false then some { l with waiting := none }
          else if l.queue.length < z.queue then
            some { l with waiting := none, queue := l.queue ++ [chunk] }
          else none
  | .recv =>
      match l.hand, l.queue with
      | [], chunk :: rest => some { l with hand := chunk, queue := rest }
      | _, _ => none
  | .write n =>
      if 0 < n ∧ n ≤ l.hand.length ∧ l.sink.length + n ≤ z.sink then
        some { l with hand := l.hand.drop n, sink := l.sink ++ l.hand.take n }
      else none
  | .collect n =>
      if 0 < n ∧ n ≤ l.sink.length then
        some { l with sink := l.sink.drop n, got := l.got ++ l.sink.take n }
      else none
  | .cut =>
      match l.putting with
      | none => some l
      | some (_, k) => some { l with putting := none, torn := l.torn || k != 0 }
  | .unregister => some { l with isOpen := false }
  | .drop => some { l with alive := false }

/-- The moves of a lane, each with what it requires and where it leads. -/
inductive Moves (z : LaneSizes) (l : Lane β) : LaneAction → Lane β → Prop
  | send {n} (hpos : 0 < n) (hn : n ≤ l.todo.length) (hroom : l.source.length + n ≤ z.source) :
      Moves z l (.send n) { l with todo := l.todo.drop n, source := l.source ++ l.todo.take n }
  | read {n} (hput : l.putting = none) (htorn : l.torn = false) (hpos : 0 < n)
      (hn : n ≤ l.source.length) (hchunk : n ≤ z.chunk) :
      Moves z l (.read n)
        { l with
          source := l.source.drop n
          putting := some (.data (l.source.take n), 0) }
  | close (hput : l.putting = none) (htorn : l.torn = false) :
      Moves z l .close { l with putting := some (.close, 0) }
  | putPart {n f k} (hput : l.putting = some (f, k)) (hpos : 0 < n) (hn : k + n < z.frame f)
      (hroom : l.used z + n ≤ z.pipe) :
      Moves z l (.put n) { l with putting := some (f, k + n) }
  | putLast {n f k} (hput : l.putting = some (f, k)) (hpos : 0 < n) (hn : k + n = z.frame f)
      (hroom : l.used z + n ≤ z.pipe) :
      Moves z l (.put n) { l with frames := l.frames ++ [f], putting := none }
  | takePart {n} (hwait : l.waiting = none) (hpos : 0 < n) (hn : n ≤ l.used z)
      (hlt : ∀ f ∈ l.frames.head?, l.taken + n < z.frame f) :
      Moves z l (.take n) { l with taken := l.taken + n }
  | takeLast {n f rest} (hwait : l.waiting = none) (hpos : 0 < n) (hn : n ≤ l.used z)
      (hframes : l.frames = f :: rest) (heq : l.taken + n = z.frame f) :
      Moves z l (.take n) ({ l with frames := rest, taken := 0 }.deliver z f)
  | roomGone {chunk} (hwait : l.waiting = some chunk) (halive : l.alive = false) :
      Moves z l .room { l with waiting := none }
  | room {chunk} (hwait : l.waiting = some chunk) (halive : l.alive = true)
      (hroom : l.queue.length < z.queue) :
      Moves z l .room { l with waiting := none, queue := l.queue ++ [chunk] }
  | recv {chunk rest} (hhand : l.hand = []) (hqueue : l.queue = chunk :: rest) :
      Moves z l .recv { l with hand := chunk, queue := rest }
  | write {n} (hpos : 0 < n) (hn : n ≤ l.hand.length) (hroom : l.sink.length + n ≤ z.sink) :
      Moves z l (.write n) { l with hand := l.hand.drop n, sink := l.sink ++ l.hand.take n }
  | collect {n} (hpos : 0 < n) (hn : n ≤ l.sink.length) :
      Moves z l (.collect n) { l with sink := l.sink.drop n, got := l.got ++ l.sink.take n }
  | cutNone (hput : l.putting = none) : Moves z l .cut l
  | cut {f k} (hput : l.putting = some (f, k)) :
      Moves z l .cut { l with putting := none, torn := l.torn || k != 0 }
  | unregister : Moves z l .unregister { l with isOpen := false }
  | drop : Moves z l .drop { l with alive := false }

variable {z : LaneSizes} {l l' : Lane β} {a : LaneAction}

/-- Every move is one of them. -/
theorem moves_of_step (h : l.step z a = some l') : l.Moves z a l' := by
  cases a with
  | send n =>
      simp only [step] at h
      split_ifs at h with hif
      obtain rfl := Option.some.inj h
      exact .send hif.1 hif.2.1 hif.2.2
  | read n =>
      simp only [step] at h
      split_ifs at h with hif
      obtain rfl := Option.some.inj h
      exact .read (Option.isNone_iff_eq_none.mp hif.1) hif.2.1 hif.2.2.1 hif.2.2.2.1 hif.2.2.2.2
  | close =>
      simp only [step] at h
      split_ifs at h with hif
      obtain rfl := Option.some.inj h
      exact .close (Option.isNone_iff_eq_none.mp hif.1) hif.2
  | put n =>
      simp only [step] at h
      split at h
      · cases h
      · rename_i f k hput
        split_ifs at h with hif heq
        · obtain rfl := Option.some.inj h
          exact .putLast hput hif.1 heq hif.2.2
        · obtain rfl := Option.some.inj h
          exact .putPart hput hif.1 (lt_of_le_of_ne hif.2.1 heq) hif.2.2
  | take n =>
      simp only [step] at h
      split_ifs at h with hif
      have hwait := Option.isNone_iff_eq_none.mp hif.1
      split at h
      · rename_i hframes
        obtain rfl := Option.some.inj h
        exact .takePart hwait hif.2.1 hif.2.2 (by simp [hframes])
      · rename_i f rest hframes
        split_ifs at h with hlt heq
        · obtain rfl := Option.some.inj h
          exact .takePart hwait hif.2.1 hif.2.2 (by simpa [hframes] using hlt)
        · obtain rfl := Option.some.inj h
          exact .takeLast hwait hif.2.1 hif.2.2 hframes heq
  | room =>
      simp only [step] at h
      split at h
      · cases h
      · rename_i chunk hwait
        split_ifs at h with halive hroom
        · obtain rfl := Option.some.inj h
          exact .roomGone hwait halive
        · obtain rfl := Option.some.inj h
          exact .room hwait (Bool.eq_true_of_not_eq_false halive) hroom
  | recv =>
      simp only [step] at h
      split at h
      · rename_i chunk rest hhand hqueue
        obtain rfl := Option.some.inj h
        exact .recv hhand hqueue
      · cases h
  | write n =>
      simp only [step] at h
      split_ifs at h with hif
      obtain rfl := Option.some.inj h
      exact .write hif.1 hif.2.1 hif.2.2
  | collect n =>
      simp only [step] at h
      split_ifs at h with hif
      obtain rfl := Option.some.inj h
      exact .collect hif.1 hif.2
  | cut =>
      simp only [step] at h
      split at h
      · rename_i hput
        obtain rfl := Option.some.inj h
        exact .cutNone hput
      · rename_i f k hput
        obtain rfl := Option.some.inj h
        exact .cut hput
  | unregister =>
      obtain rfl := Option.some.inj h
      exact .unregister
  | drop =>
      obtain rfl := Option.some.inj h
      exact .drop

/-! ## What is under way -/

/-- What has left the socket of the source and is not yet in the socket of the sink. -/
def afloat (l : Lane β) : List β :=
  l.hand ++ l.queue.flatten ++ l.waiting.getD [] ++ l.frames.flatMap Frame.chunk ++
    l.putting.elim [] fun p => p.1.chunk

/-- What is not yet in the socket of the sink. -/
def rest (l : Lane β) : List β := l.afloat ++ l.source ++ l.todo

/-- Everything there is, from what the sink has read to what the source has still to send. -/
def content (l : Lane β) : List β := l.got ++ l.sink ++ l.rest

/-- No data would be dropped by the dispatcher. -/
def Keeps (l : Lane β) : Prop :=
  (l.isOpen = true ∧ l.alive = true) ∨
    ((∀ f ∈ l.frames, f.chunk = []) ∧ l.waiting.getD [] = [])

/-- What is delivered is added to what is under way. -/
theorem content_deliver {f : Frame β} (hopen : (l.isOpen = true ∧ l.alive = true) ∨ f.chunk = [])
    (hwait : l.waiting = none) :
    (l.deliver z f).content = l.got ++ l.sink ++ (l.hand ++ l.queue.flatten ++ f.chunk ++
      l.frames.flatMap Frame.chunk ++ (l.putting.elim [] fun p => p.1.chunk) ++ l.source ++
        l.todo) := by
  cases f with
  | close => simp [deliver, content, rest, afloat, hwait, Frame.chunk]
  | data chunk =>
      rcases hopen with ⟨hisOpen, halive⟩ | hnil
      · simp only [deliver, hisOpen, halive, Bool.and_self, if_true]
        split_ifs <;> simp [content, rest, afloat, hwait, Frame.chunk]
      · obtain rfl : chunk = [] := hnil
        unfold deliver
        simp only
        split_ifs <;> simp [content, rest, afloat, hwait, Frame.chunk]

/-- **Nothing is lost or reordered** by a move, unless the writer drops its frame, or the dispatcher
hands data to a queue it does not find or that was dropped. -/
theorem content_step (hkeeps : l.Keeps) (ha : a ≠ .cut) (h : l.step z a = some l') :
    l'.content = l.content := by
  cases moves_of_step h with
  | send hpos hn hroom => simp [content, rest, afloat]
  | read hput htorn hpos hn hchunk => simp [content, rest, afloat, hput, Frame.chunk]
  | close hput htorn => simp [content, rest, afloat, hput, Frame.chunk]
  | putPart hput => simp [content, rest, afloat, hput]
  | putLast hput => simp [content, rest, afloat, hput]
  | takePart => rfl
  | @takeLast n f frames hwait hpos hn hframes heq =>
      have hopen : (l.isOpen = true ∧ l.alive = true) ∨ f.chunk = [] := by
        refine hkeeps.imp id fun hnil => hnil.1 f ?_
        rw [hframes]
        exact List.mem_cons_self
      rw [content_deliver (l := { l with frames := frames, taken := 0 }) hopen hwait]
      simp [content, rest, afloat, hwait, hframes]
  | @roomGone chunk hwait halive =>
      have hnil : chunk = [] := by
        rcases hkeeps with ⟨-, htrue⟩ | ⟨-, hnone⟩
        · rw [halive] at htrue
          cases htrue
        · rwa [hwait] at hnone
      simp [content, rest, afloat, hwait, hnil]
  | room hwait halive hroom => simp [content, rest, afloat, hwait]
  | recv hhand hqueue => simp [content, rest, afloat, hhand, hqueue]
  | write hpos hn hroom =>
      simp only [content, rest, afloat, List.append_assoc]
      rw [← List.append_assoc (List.take _ _) (List.drop _ _), List.take_append_drop]
  | collect hpos hn =>
      simp only [content, List.append_assoc]
      rw [← List.append_assoc (List.take _ _) (List.drop _ _), List.take_append_drop]
      rfl
  | cutNone | cut => exact absurd rfl ha
  | unregister | drop => rfl

/-! ## Positions in the frames -/

/-- What is put in and taken out is part of a frame, and every chunk holds something. -/
structure WellFormed (z : LaneSizes) (l : Lane β) : Prop where
  /-- The frame that is being put in is not whole. -/
  putting : ∀ f k, l.putting = some (f, k) → k < z.frame f
  /-- The first frame has not been taken out. -/
  taken : ∀ f ∈ l.frames.head?, l.taken < z.frame f
  /-- What is taken out of a frame that is being put in was put in. -/
  takenPut : l.frames = [] → l.taken ≤ (l.putting.elim 0 Prod.snd) ∨ l.torn = true
  torn : l.torn = true → l.putting = none
  inFrames : ∀ chunk, .data chunk ∈ l.frames → chunk ≠ []
  inPutting : ∀ chunk k, l.putting = some (.data chunk, k) → chunk ≠ []
  inWaiting : ∀ chunk, l.waiting = some chunk → chunk ≠ []
  inQueue : ∀ chunk ∈ l.queue, chunk ≠ []

theorem frame_pos (z : LaneSizes) (f : Frame β) : 0 < z.frame f := by
  cases f with
  | data chunk => exact Nat.add_pos_left z.header_pos _
  | close => exact z.close_pos

theorem wellFormed_start (todo : List β) : WellFormed z { todo := todo } where
  putting f k h := by cases h
  taken f hf := by cases hf
  takenPut _ := .inl le_rfl
  torn h := by cases h
  inFrames chunk h := by cases h
  inPutting chunk k h := by cases h
  inWaiting chunk h := by cases h
  inQueue chunk h := by cases h

/-- A frame that comes out leaves its chunk in the queue, or waiting for it, or nowhere. -/
theorem WellFormed.deliver {f : Frame β} (hl : l.WellFormed z) (hf : ∀ chunk, f = .data chunk →
    chunk ≠ []) : (l.deliver z f).WellFormed z := by
  cases f with
  | close => exact { hl with }
  | data chunk =>
      unfold Lane.deliver
      simp only
      split_ifs
      · refine { hl with inQueue := ?_ }
        intro c hc
        rcases List.mem_append.mp hc with hc | hc
        · exact hl.inQueue c hc
        · rw [List.mem_singleton.mp hc]
          exact hf chunk rfl
      · refine { hl with inWaiting := ?_ }
        intro c hc
        obtain rfl := Option.some.inj hc
        exact hf chunk rfl
      · exact hl

/-- Every move keeps a lane well formed. -/
theorem WellFormed.step (hl : l.WellFormed z) (h : l.step z a = some l') : l'.WellFormed z := by
  cases moves_of_step h with
  | send hpos hn hroom => exact { hl with }
  | @read n hput htorn hpos hn hchunk =>
      refine { hl with putting := ?_, takenPut := ?_, torn := ?_, inPutting := ?_ }
      · intro f k hf
        obtain ⟨rfl, rfl⟩ := Prod.mk.inj (Option.some.inj hf)
        exact frame_pos z _
      · intro hframes
        have htaken := hl.takenPut hframes
        rw [hput] at htaken
        exact htaken
      · intro h
        rw [show l.torn = true from h] at htorn
        cases htorn
      · intro chunk k hf hnil
        obtain ⟨hdata, -⟩ := Prod.mk.inj (Option.some.inj hf)
        have hlength := congrArg List.length (Frame.data.inj hdata)
        rw [hnil, List.length_take, Nat.min_eq_left hn] at hlength
        exact absurd hlength hpos.ne'
  | close hput htorn =>
      refine { hl with putting := ?_, takenPut := ?_, torn := ?_, inPutting := ?_ }
      · intro f k hf
        obtain ⟨rfl, rfl⟩ := Prod.mk.inj (Option.some.inj hf)
        exact frame_pos z _
      · intro hframes
        have htaken := hl.takenPut hframes
        rw [hput] at htaken
        exact htaken
      · intro h
        rw [show l.torn = true from h] at htorn
        cases htorn
      · intro chunk k hf
        cases hf
  | @putPart n f k hput hpos hn hroom =>
      have hsound : l.torn = true → False := by
        intro htorn
        rw [hl.torn htorn] at hput
        cases hput
      refine { hl with putting := ?_, takenPut := ?_, torn := ?_, inPutting := ?_ }
      · intro g i hg
        obtain ⟨rfl, rfl⟩ := Prod.mk.inj (Option.some.inj hg)
        exact hn
      · intro hframes
        refine (hl.takenPut hframes).imp_left fun htaken => ?_
        rw [hput] at htaken
        exact htaken.trans (Nat.le_add_right k n)
      · intro htorn
        exact (hsound htorn).elim
      · intro chunk i hg
        obtain ⟨rfl, rfl⟩ := Prod.mk.inj (Option.some.inj hg)
        exact hl.inPutting chunk k hput
  | @putLast n f k hput hpos hn hroom =>
      refine { hl with
        putting := ?_, taken := ?_, takenPut := ?_, torn := ?_, inFrames := ?_, inPutting := ?_ }
      · intro g i hg
        cases hg
      · intro g hg
        rcases hframes : l.frames with _ | ⟨g', rest⟩
        · rw [hframes] at hg
          obtain rfl := Option.some.inj hg
          rcases hl.takenPut hframes with htaken | htorn
          · rw [hput] at htaken
            exact htaken.trans_lt (hl.putting _ _ hput)
          · rw [hl.torn htorn] at hput
            cases hput
        · rw [hframes] at hg
          exact hl.taken g (by rw [hframes]; exact hg)
      · intro hnil
        simp at hnil
      · intro _
        rfl
      · intro chunk hmem
        rcases List.mem_append.mp hmem with hmem | hmem
        · exact hl.inFrames chunk hmem
        · obtain rfl := List.mem_singleton.mp hmem
          exact hl.inPutting chunk k hput
      · intro chunk i hg
        cases hg
  | @takePart n hwait hpos hn hlt =>
      refine { hl with taken := hlt, takenPut := ?_ }
      intro hframes
      have hframes : l.frames = [] := hframes
      refine (hl.takenPut hframes).imp_left fun htaken => ?_
      have hused : n ≤ (l.putting.elim 0 Prod.snd) - l.taken := by
        simpa [used, hframes] using hn
      show l.taken + n ≤ l.putting.elim 0 Prod.snd
      omega
  | @takeLast n f rest hwait hpos hn hframes heq =>
      refine WellFormed.deliver (l := { l with frames := rest, taken := 0 })
        { hl with taken := ?_, takenPut := ?_, inFrames := ?_ } ?_
      · intro g _
        exact frame_pos z g
      · intro _
        exact .inl (Nat.zero_le _)
      · intro chunk hmem
        refine hl.inFrames chunk ?_
        rw [hframes]
        exact List.mem_cons_of_mem f hmem
      · rintro chunk rfl
        refine hl.inFrames chunk ?_
        rw [hframes]
        exact List.mem_cons_self
  | roomGone hwait halive =>
      refine { hl with inWaiting := ?_ }
      intro chunk hchunk
      cases hchunk
  | @room chunk hwait halive hroom =>
      refine { hl with inWaiting := ?_, inQueue := ?_ }
      · intro c hc
        cases hc
      · intro c hc
        rcases List.mem_append.mp hc with hc | hc
        · exact hl.inQueue c hc
        · rw [List.mem_singleton.mp hc]
          exact hl.inWaiting chunk hwait
  | @recv chunk rest hhand hqueue =>
      refine { hl with inQueue := ?_ }
      intro c hc
      refine hl.inQueue c ?_
      rw [hqueue]
      exact List.mem_cons_of_mem chunk hc
  | write hpos hn hroom => exact { hl with }
  | collect hpos hn => exact { hl with }
  | cutNone hput => exact hl
  | @cut f k hput =>
      refine { hl with putting := ?_, takenPut := ?_, torn := ?_, inPutting := ?_ }
      · intro g i hg
        cases hg
      · intro hframes
        rcases hl.takenPut hframes with htaken | htorn
        · rw [hput] at htaken
          rcases Nat.eq_zero_or_pos k with rfl | hk
          · exact .inl htaken
          · refine .inr ?_
            simp [hk.ne']
        · refine .inr ?_
          simp [htorn]
      · intro _
        rfl
      · intro chunk i hg
        cases hg
  | unregister => exact { hl with }
  | drop => exact { hl with }

end Lane

end AdbHub.Lib
