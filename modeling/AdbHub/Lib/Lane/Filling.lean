import AdbHub.Lib.Lane.Intact

/-!
# Filling a lane

How much it takes until every stage of a lane is full, the reader apart.

* `Lane.Stuck` — queue and pipe are full, with a chunk waiting and a frame half put in;
  **`Stuck.step`**: it stays so, whatever else moves, until the reader receives.
* `LaneSizes.fullQueue` — the least that fills them; **`Stuck.length_le`**: there is that much.
* `OneByOne` — element by element, a lane is filled with no more; **`OneByOne.stuck`**: where this
  ends, the lane is stuck, if there was enough.
-/

namespace AdbHub.Lib

/-- How many elements it takes at least to fill the pipe, those of the frame included that is being
put in. -/
def LaneSizes.fullPipe (z : LaneSizes) : ℕ := z.pipe / (z.header + 1) + 1

/-- How many elements it takes at least to fill pipe and queue. -/
def LaneSizes.fullQueue (z : LaneSizes) : ℕ := z.queue + 1 + z.fullPipe

/-- The moves that fill a lane element by element; the reader moves if `reads`. -/
def LaneAction.Fills (reads : Bool) : LaneAction → Prop
  | .read n => n = 1
  | .recv | .write _ => reads = true
  | .collect _ | .close | .cut | .unregister | .drop => False
  | _ => True

theorem LaneAction.Fills.mono {reads : Bool} {a : LaneAction} (h : a.Fills false) :
    a.Fills reads := by
  cases a with
  | recv | write => cases h
  | close | collect | cut | unregister | drop => exact h.elim
  | _ => exact h

namespace Lane

variable {β : Type*} {z : LaneSizes} {l l' : Lane β} {a : LaneAction} {reads : Bool}

/-! ## A lane that is stuck -/

/-- The writer puts in data and finds no room in the pipe, and the dispatcher waits for room in the
queue. -/
structure Stuck (z : LaneSizes) (l : Lane β) : Prop where
  putting : ∃ chunk k, l.putting = some (.data chunk, k)
  pipe : z.pipe ≤ l.used z
  waiting : l.waiting ≠ none
  queue : z.queue ≤ l.queue.length

theorem Stuck.putting_ne_none (hl : l.Stuck z) : l.putting ≠ none := by
  obtain ⟨chunk, k, hput⟩ := hl.putting
  rw [hput]
  exact Option.some_ne_none _

/-- **A lane that is stuck** moves only at its ends, until the reader receives. -/
theorem Stuck.step (hl : l.Stuck z) (halive : l.alive = true) (ha : a.Brings) (hrecv : a ≠ .recv)
    (h : l.step z a = some l') : l'.Stuck z ∧ l'.queue = l.queue := by
  have hputting := hl.putting_ne_none
  obtain ⟨hput, hpipe, hwait, hqueue⟩ := hl
  cases moves_of_step h with
  | send | write | collect => exact ⟨⟨hput, hpipe, hwait, hqueue⟩, rfl⟩
  | read hnone => exact absurd hnone hputting
  | putPart hputs hpos hn hroom | putLast hputs hpos hn hroom => omega
  | takePart hnone | takeLast hnone => exact absurd hnone hwait
  | roomGone hwaits hgone =>
      rw [halive] at hgone
      cases hgone
  | room hwaits halive hroom => omega
  | recv => exact absurd rfl hrecv
  | close | cutNone | cut | unregister | drop => exact ha.elim

theorem hand_sink_deliver (f : Frame β) :
    (l.deliver z f).hand = l.hand ∧ (l.deliver z f).sink = l.sink := by
  cases f with
  | close => exact ⟨rfl, rfl⟩
  | data chunk =>
      unfold deliver
      dsimp only
      split_ifs <;> exact ⟨rfl, rfl⟩

/-- Where reader and sink do not move, they have what they had. -/
theorem hand_sink_step (hrecv : a ≠ .recv) (hwrite : ∀ n, a ≠ .write n)
    (hcollect : ∀ n, a ≠ .collect n) (h : l.step z a = some l') :
    l'.hand = l.hand ∧ l'.sink = l.sink := by
  cases moves_of_step h with
  | recv => exact absurd rfl hrecv
  | write => exact absurd rfl (hwrite _)
  | collect => exact absurd rfl (hcollect _)
  | takeLast => exact hand_sink_deliver _
  | _ => exact ⟨rfl, rfl⟩

/-! ## The least that fills it -/

/-- A frame with data is at most as long as if each element had a frame of its own. -/
theorem frame_data_le (z : LaneSizes) {chunk : List β} (h : chunk ≠ []) :
    z.frame (.data chunk) ≤ (z.header + 1) * chunk.length := by
  have hpos := List.length_pos_iff.mpr h
  obtain ⟨n, hn⟩ := Nat.exists_eq_add_of_le hpos
  rw [LaneSizes.frame, hn]
  nlinarith [Nat.zero_le (z.header * n)]

theorem sum_frames_le (frames : List (Frame β)) (hclose : Frame.close ∉ frames)
    (hne : ∀ chunk, .data chunk ∈ frames → chunk ≠ []) :
    (frames.map z.frame).sum ≤ (z.header + 1) * (frames.flatMap Frame.chunk).length := by
  induction frames with
  | nil => simp
  | cons f frames ih =>
      have hrest := ih (fun hmem => hclose (List.mem_cons_of_mem f hmem))
        fun chunk hmem => hne chunk (List.mem_cons_of_mem f hmem)
      have hfirst : z.frame f ≤ (z.header + 1) * f.chunk.length := by
        cases f with
        | close => exact absurd List.mem_cons_self hclose
        | data chunk => exact frame_data_le z (hne chunk List.mem_cons_self)
      rw [List.map_cons, List.sum_cons, List.flatMap_cons, List.length_append, Nat.mul_add]
      exact Nat.add_le_add hfirst hrest

/-- **A full pipe** in front of which the writer stands in the middle of a frame. -/
theorem fullPipe_le (hl : l.WellFormed z) (hclose : l.NoClose) {chunk : List β} {k : ℕ}
    (hput : l.putting = some (.data chunk, k)) (hfull : z.pipe ≤ l.used z) :
    z.fullPipe ≤ (l.frames.flatMap Frame.chunk).length + chunk.length := by
  have hframes := sum_frames_le (z := z) l.frames hclose.frames hl.inFrames
  have hlast := frame_data_le z (hl.inPutting chunk k hput)
  have hk := hl.putting _ _ hput
  unfold LaneSizes.fullPipe
  rw [Nat.add_one_le_iff, Nat.div_lt_iff_lt_mul (Nat.add_pos_right _ one_pos), Nat.mul_comm,
    Nat.mul_add]
  simp only [used, hput, Option.elim] at hfull
  omega

theorem length_le_flatten {chunks : List (List β)} (h : ∀ chunk ∈ chunks, chunk ≠ []) :
    chunks.length ≤ chunks.flatten.length := by
  induction chunks with
  | nil => simp
  | cons chunk chunks ih =>
      have hrest := ih fun c hc => h c (List.mem_cons_of_mem chunk hc)
      have hfirst := List.length_pos_iff.mpr (h chunk List.mem_cons_self)
      rw [List.flatten_cons, List.length_append, List.length_cons]
      omega

/-- **A lane that is stuck** holds what fills queue and pipe, and what its ends hold. -/
theorem Stuck.length_le (hstuck : l.Stuck z) (hl : l.WellFormed z) (hclose : l.NoClose) :
    z.fullQueue + l.hand.length + l.sink.length + l.source.length + l.todo.length ≤
      l.content.length := by
  obtain ⟨⟨chunk, k, hput⟩, hfull, hwait, hqueue⟩ := hstuck
  have hpipe := fullPipe_le hl hclose hput hfull
  have hchunks := length_le_flatten hl.inQueue
  obtain ⟨waiting, hwaiting⟩ := Option.ne_none_iff_exists'.mp hwait
  have hpos := List.length_pos_iff.mpr (hl.inWaiting waiting hwaiting)
  unfold LaneSizes.fullQueue
  simp only [content, rest, afloat, hput, hwaiting, Option.elim, Option.getD_some, Frame.chunk,
    List.length_append]
  omega

/-! ## Filling it element by element -/

/-- Every chunk has one element, and every stage is within its bounds. -/
structure OneByOne (z : LaneSizes) (l : Lane β) : Prop where
  well : l.WellFormed z
  noClose : l.NoClose
  inFrames : ∀ chunk, .data chunk ∈ l.frames → chunk.length = 1
  inPutting : ∀ chunk k, l.putting = some (.data chunk, k) → chunk.length = 1
  inWaiting : ∀ chunk, l.waiting = some chunk → chunk.length = 1
  inQueue : ∀ chunk ∈ l.queue, chunk.length = 1
  source : l.source.length ≤ z.source
  hand : l.hand.length ≤ 1
  queue : l.queue.length ≤ z.queue
  pipe : l.used z ≤ z.pipe
  sink : l.sink.length ≤ z.sink
  /-- A dispatcher that waits has taken a whole frame out. -/
  taken : l.waiting ≠ none → l.taken = 0
  got : l.got = []
  torn : l.torn = false
  isOpen : l.isOpen = true
  alive : l.alive = true

theorem oneByOne_start (todo : List β) : OneByOne z { todo := todo } where
  well := wellFormed_start todo
  noClose := ⟨List.not_mem_nil, fun _ h => nomatch h⟩
  inFrames _ h := nomatch h
  inPutting _ _ h := nomatch h
  inWaiting _ h := nomatch h
  inQueue _ h := nomatch h
  source := Nat.zero_le _
  hand := Nat.zero_le _
  queue := Nat.zero_le _
  pipe := Nat.zero_le _
  sink := Nat.zero_le _
  taken _ := rfl
  got := rfl
  torn := rfl
  isOpen := rfl
  alive := rfl

/-- A chunk that comes out of the pipe goes to the queue, or waits for room. -/
theorem OneByOne.deliver {chunk : List β} {frames : List (Frame β)} (hl : l.OneByOne z)
    (hframes : l.frames = .data chunk :: frames)
    (hused : (frames.map z.frame).sum + (l.putting.elim 0 Prod.snd) ≤ z.pipe)
    (hwell : (deliver z { l with frames := frames, taken := 0 } (.data chunk)).WellFormed z)
    (hclose : (deliver z { l with frames := frames, taken := 0 } (.data chunk)).NoClose) :
    (deliver z { l with frames := frames, taken := 0 } (.data chunk)).OneByOne z := by
  have hone : chunk.length = 1 := hl.inFrames chunk (by rw [hframes]; exact List.mem_cons_self)
  have hrest : ∀ c, .data c ∈ frames → c.length = 1 := by
    intro c hc
    refine hl.inFrames c ?_
    rw [hframes]
    exact List.mem_cons_of_mem _ hc
  unfold Lane.deliver at hwell hclose ⊢
  simp only [hl.isOpen, hl.alive, Bool.and_self, if_true] at hwell hclose ⊢
  split_ifs at hwell hclose ⊢ with hroom
  · refine { hl with
      well := hwell, noClose := hclose, inFrames := hrest, inQueue := ?_, queue := ?_, pipe := ?_,
      taken := fun _ => rfl, torn := hl.torn, isOpen := rfl, alive := rfl }
    · intro c hc
      rcases List.mem_append.mp hc with hc | hc
      · exact hl.inQueue c hc
      · rw [List.mem_singleton.mp hc]
        exact hone
    · rw [List.length_append, List.length_singleton]
      exact hroom
    · exact hused
  · refine { hl with
      well := hwell, noClose := hclose, inFrames := hrest, inWaiting := ?_, pipe := ?_,
      taken := fun _ => rfl, torn := hl.torn, isOpen := rfl, alive := rfl }
    · intro c hc
      obtain rfl := Option.some.inj hc
      exact hone
    · exact hused

/-- Filling keeps the bounds. -/
theorem OneByOne.step (hl : l.OneByOne z) (ha : a.Fills reads) (h : l.step z a = some l') :
    l'.OneByOne z := by
  have hwell := hl.well.step h
  have hclose : l'.NoClose := by
    refine hl.noClose.step ?_ h
    rintro rfl
    exact ha
  cases moves_of_step h with
  | close | collect | cutNone | cut | unregister | drop => exact ha.elim
  | @send n hpos hn hroom =>
      refine { hl with well := hwell, noClose := hclose, source := ?_, pipe := hl.pipe }
      rw [List.length_append, List.length_take, Nat.min_eq_left hn]
      exact hroom
  | @read n hput htorn hpos hn hchunk =>
      obtain rfl : n = 1 := ha
      refine { hl with
        well := hwell, noClose := hclose, inPutting := ?_, source := ?_, pipe := ?_ }
      · intro chunk k hk
        obtain ⟨hdata, -⟩ := Prod.mk.inj (Option.some.inj hk)
        rw [← Frame.data.inj hdata, List.length_take, Nat.min_eq_left hn]
      · rw [List.length_drop]
        exact (Nat.sub_le _ _).trans hl.source
      · have hpipe := hl.pipe
        simp only [used, hput, Option.elim] at hpipe ⊢
        exact hpipe
  | @putPart n f k hput hpos hn hroom =>
      refine { hl with well := hwell, noClose := hclose, inPutting := ?_, pipe := ?_ }
      · intro chunk i hi
        obtain ⟨rfl, -⟩ := Prod.mk.inj (Option.some.inj hi)
        exact hl.inPutting chunk k hput
      · simp only [used, hput, Option.elim] at hroom ⊢
        omega
  | @putLast n f k hput hpos hn hroom =>
      refine { hl with
        well := hwell, noClose := hclose, inFrames := ?_, inPutting := ?_, pipe := ?_ }
      · intro chunk hmem
        rcases List.mem_append.mp hmem with hmem | hmem
        · exact hl.inFrames chunk hmem
        · obtain rfl := List.mem_singleton.mp hmem
          exact hl.inPutting chunk k hput
      · intro chunk i hi
        cases hi
      · simp only [used, hput, Option.elim, List.map_append, List.map_cons, List.map_nil,
          List.sum_append, List.sum_cons, List.sum_nil] at hroom ⊢
        omega
  | @takePart n hwait hpos hn hlt =>
      refine { hl with well := hwell, noClose := hclose, pipe := ?_, taken := ?_ }
      · have hpipe := hl.pipe
        simp only [used] at hpipe ⊢
        omega
      · intro hne
        exact absurd hwait hne
  | @takeLast n f rest hwait hpos hn hframes heq =>
      cases f with
      | close =>
          exact absurd (by rw [hframes]; exact List.mem_cons_self) hl.noClose.frames
      | data chunk =>
          refine hl.deliver hframes ?_ hwell hclose
          have hpipe := hl.pipe
          simp only [used, hframes, List.map_cons, List.sum_cons] at hpipe hn
          omega
  | roomGone hwait halive =>
      rw [hl.alive] at halive
      cases halive
  | @room chunk hwait halive hroom =>
      refine { hl with
        well := hwell, noClose := hclose, inWaiting := ?_, inQueue := ?_, queue := ?_,
        pipe := hl.pipe, taken := fun hne => absurd rfl hne }
      · intro c hc
        cases hc
      · intro c hc
        rcases List.mem_append.mp hc with hc | hc
        · exact hl.inQueue c hc
        · rw [List.mem_singleton.mp hc]
          exact hl.inWaiting chunk hwait
      · rw [List.length_append, List.length_singleton]
        exact hroom
  | @recv chunk rest hhand hqueue =>
      have hmem : ∀ c ∈ rest, c ∈ l.queue := by
        intro c hc
        rw [hqueue]
        exact List.mem_cons_of_mem chunk hc
      refine { hl with
        well := hwell, noClose := hclose, inQueue := fun c hc => hl.inQueue c (hmem c hc),
        hand := ?_, queue := ?_, pipe := hl.pipe }
      · exact (hl.inQueue chunk (by rw [hqueue]; exact List.mem_cons_self)).le
      · have hlen := hl.queue
        rw [hqueue, List.length_cons] at hlen
        exact Nat.le_of_succ_le hlen
  | @write n hpos hn hroom =>
      refine { hl with well := hwell, noClose := hclose, hand := ?_, pipe := hl.pipe, sink := ?_ }
      · rw [List.length_drop]
        exact (Nat.sub_le _ _).trans hl.hand
      · rw [List.length_append, List.length_take, Nat.min_eq_left hn]
        exact hroom

/-- Frames with one element each. -/
theorem sum_frames_of_ones (frames : List (Frame β)) (hclose : Frame.close ∉ frames)
    (hone : ∀ chunk, .data chunk ∈ frames → chunk.length = 1) :
    (frames.map z.frame).sum = (z.header + 1) * (frames.flatMap Frame.chunk).length := by
  induction frames with
  | nil => simp
  | cons f frames ih =>
      have hrest := ih (fun hmem => hclose (List.mem_cons_of_mem f hmem))
        fun chunk hmem => hone chunk (List.mem_cons_of_mem f hmem)
      have hfirst : z.frame f = (z.header + 1) * f.chunk.length := by
        cases f with
        | close => exact absurd List.mem_cons_self hclose
        | data chunk =>
            have hlen := hone chunk List.mem_cons_self
            simp [LaneSizes.frame, Frame.chunk, hlen]
      rw [List.map_cons, List.sum_cons, List.flatMap_cons, List.length_append, Nat.mul_add, hfirst,
        hrest]

theorem length_flatten_of_ones {chunks : List (List β)} (h : ∀ chunk ∈ chunks, chunk.length = 1) :
    chunks.flatten.length = chunks.length := by
  induction chunks with
  | nil => rfl
  | cons chunk chunks ih =>
      rw [List.flatten_cons, List.length_append, List.length_cons,
        ih fun c hc => h c (List.mem_cons_of_mem chunk hc), h chunk List.mem_cons_self,
        Nat.add_comm]

/-- In the pipe there is less than fills it, if the dispatcher has taken out whole frames. -/
theorem OneByOne.frames_lt (hl : l.OneByOne z) (hwait : l.waiting ≠ none) :
    (l.frames.flatMap Frame.chunk).length < z.fullPipe := by
  have hsum := sum_frames_of_ones (z := z) l.frames hl.noClose.frames hl.inFrames
  have hpipe := hl.pipe
  simp only [used, hl.taken hwait, hsum] at hpipe
  rw [LaneSizes.fullPipe, Nat.lt_succ_iff, Nat.le_div_iff_mul_le (Nat.add_pos_right _ one_pos),
    Nat.mul_comm]
  exact (Nat.le_add_right _ _).trans hpipe

/-- Queue and pipe hold no more than it takes to fill them. -/
theorem OneByOne.length_le (hl : l.OneByOne z) (hwait : l.waiting ≠ none) :
    l.content.length ≤
      z.fullQueue + l.hand.length + l.sink.length + l.source.length + l.todo.length := by
  have hframes := hl.frames_lt hwait
  have hqueue := length_flatten_of_ones hl.inQueue
  have hle := hl.queue
  obtain ⟨waiting, hwaiting⟩ := Option.ne_none_iff_exists'.mp hwait
  have hone := hl.inWaiting waiting hwaiting
  have hputting : (l.putting.elim [] fun p => p.1.chunk).length ≤ 1 := by
    rcases hput : l.putting with _ | ⟨f, k⟩
    · exact Nat.zero_le _
    · cases f with
      | close => exact Nat.zero_le _
      | data chunk => exact (hl.inPutting chunk k hput).le
  unfold LaneSizes.fullQueue
  simp only [content, rest, afloat, hl.got, hwaiting, Option.getD_some, List.length_append,
    List.length_nil, hqueue, hone]
  omega

/-- **Where filling ends** the lane is stuck, if there was enough to fill it. -/
theorem OneByOne.stuck (hl : l.OneByOne z) (hstands : ∀ a, a.Fills false → l.step z a = none)
    (hlen : z.fullQueue + l.hand.length + l.sink.length ≤ l.content.length) : l.Stuck z := by
  have htake := used_of_no_take hl.well fun n => hstands (.take n) trivial
  have hroom := waiting_of_no_room (hstands .room trivial)
  have hput := putting_of_no_put hl.well fun n => hstands (.put n) trivial
  have hread : l.putting = none → l.source = [] ∧ l.todo = [] := by
    intro hnone
    have hsource : l.source = [] := by
      by_contra hne
      have hstep := hstands (.read 1) rfl
      rw [Lane.step, if_pos ⟨by rw [hnone]; rfl, hl.torn, one_pos, List.length_pos_iff.mpr hne,
        z.chunk_pos⟩] at hstep
      cases hstep
    exact ⟨hsource, todo_of_no_send_of_source (fun n => hstands (.send n) trivial) hsource⟩
  have hqueue := length_flatten_of_ones hl.inQueue
  have hle := hl.queue
  unfold LaneSizes.fullQueue at hlen
  simp only [content, rest, afloat, hl.got, List.length_append, List.length_nil] at hlen
  have hwait : l.waiting ≠ none := by
    intro hnone
    have hused : l.used z = 0 := htake.resolve_left (not_not.mpr hnone)
    have hframes := frames_of_used hl.well hused
    have hputting : l.putting = none := by
      refine hput.resolve_right fun hfull => ?_
      rw [hused] at hfull
      exact absurd z.pipe_pos (Nat.not_lt.mpr hfull)
    simp only [hnone, hframes, hputting, hread hputting, Option.getD_none, Option.elim,
      List.flatMap_nil, List.length_nil, hqueue] at hlen
    omega
  obtain ⟨waiting, hwaiting⟩ := Option.ne_none_iff_exists'.mp hwait
  have hone := hl.inWaiting waiting hwaiting
  have hputting : l.putting ≠ none := by
    intro hnone
    have hframes := hl.frames_lt hwait
    simp only [hwaiting, hnone, hread hnone, Option.getD_some, Option.elim, List.length_nil, hqueue,
      hone] at hlen
    omega
  refine ⟨?_, hput.resolve_left hputting, hwait, (hroom.resolve_left hwait).2⟩
  obtain ⟨⟨f, k⟩, hf⟩ := Option.ne_none_iff_exists'.mp hputting
  cases f with
  | close => exact absurd hf (hl.noClose.putting k)
  | data chunk => exact ⟨chunk, k, hf⟩

/-- Where filling ends with more than that and what fills the socket of the source, the source
cannot send what it has to send. -/
theorem OneByOne.blocked (hl : l.OneByOne z) (hwait : l.waiting ≠ none)
    (hstands : ∀ n, l.step z (.send n) = none)
    (hlen : z.fullQueue + l.hand.length + l.sink.length + z.source < l.content.length) :
    l.todo ≠ [] ∧ z.source ≤ l.source.length := by
  have hle := hl.length_le hwait
  have hsource := hl.source
  have htodo : l.todo ≠ [] := by
    intro hnil
    rw [hnil, List.length_nil] at hle
    omega
  exact ⟨htodo, (todo_of_no_send hstands).resolve_left htodo⟩

end Lane

end AdbHub.Lib
