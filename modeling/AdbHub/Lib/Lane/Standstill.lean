import AdbHub.Lib.Lane

/-!
# Lanes that stand still

Where the moves of a lane end, and how much it takes to fill it.

* `Lane.work` — a bound on the moves that are left; **`work_step`**: every move takes some of it.
* `afloat_eq_nil` — a lane on which nothing can move has nothing under way.
-/

namespace AdbHub.Lib

variable {β : Type*}

/-- What is left to do for a frame in the pipe, the pipe apart. -/
def Frame.work : Frame β → ℕ
  | .data chunk => 2 * chunk.length + 3
  | .close => 1

/-- The moves that bring elements on. -/
def LaneAction.Brings : LaneAction → Prop
  | .close | .cut | .unregister | .drop => False
  | _ => True

namespace Lane

/-! ## Every run ends -/

/-- What is left to do for the frame that is being put in. -/
def workOfPutting (z : LaneSizes) : Option (Frame β × ℕ) → ℕ
  | none => 0
  | some (f, k) => f.work + 2 * (z.frame f - k)

/-- What is left to do for the chunk that waits for room. -/
def workOfWaiting : Option (List β) → ℕ
  | none => 0
  | some chunk => 2 * chunk.length + 2

/-- How much there is left to do. -/
def work (z : LaneSizes) (l : Lane β) : ℕ :=
  (2 * z.header + 9) * l.todo.length + (2 * z.header + 8) * l.source.length +
    workOfPutting z l.putting + (l.frames.map Frame.work).sum + l.used z + workOfWaiting l.waiting +
    (l.queue.map fun chunk => 2 * chunk.length + 1).sum + 2 * l.hand.length + l.sink.length

variable {z : LaneSizes} {l l' : Lane β} {a : LaneAction}

/-- A frame that comes out leaves less to do. -/
theorem work_deliver (f : Frame β) (hwait : l.waiting = none) :
    (l.deliver z f).work z ≤ l.work z + f.work := by
  cases f with
  | close => exact Nat.le_add_right _ _
  | data chunk =>
      unfold deliver
      dsimp only
      split_ifs
      · simp [work, used, Frame.work]
        omega
      · simp [work, used, hwait, workOfWaiting, Frame.work]
        omega
      · exact Nat.le_add_right _ _

/-- **Every move** that brings elements on takes some of the work. -/
theorem work_step (ha : a.Brings) (h : l.step z a = some l') : l'.work z < l.work z := by
  cases moves_of_step h with
  | @send n hpos hn hroom =>
      have hsource : (l.source ++ l.todo.take n).length = l.source.length + n := by
        rw [List.length_append, List.length_take, Nat.min_eq_left hn]
      simp only [work, used, hsource, List.length_drop]
      obtain ⟨m, hm⟩ := Nat.exists_eq_add_of_le hn
      rw [hm, Nat.add_sub_cancel_left]
      ring_nf
      omega
  | @read n hput htorn hpos hn hchunk =>
      have hchunk : (l.source.take n).length = n := by
        rw [List.length_take, Nat.min_eq_left hn]
      simp only [work, used, hput, workOfPutting, Frame.work, LaneSizes.frame, hchunk,
        List.length_drop]
      obtain ⟨m, hm⟩ := Nat.exists_eq_add_of_le hn
      rw [hm, Nat.add_sub_cancel_left]
      obtain ⟨p, rfl⟩ := Nat.exists_eq_add_of_le hpos
      ring_nf
      simp
      nlinarith [Nat.zero_le (z.header * p)]
  | close | cutNone | cut | unregister | drop => exact ha.elim
  | @putPart n f k hput hpos hn hroom =>
      simp only [work, used, hput, workOfPutting, Option.elim]
      omega
  | @putLast n f k hput hpos hn hroom =>
      simp only [work, used, hput, workOfPutting, Option.elim, List.map_append, List.map_cons,
        List.map_nil, List.sum_append, List.sum_cons, List.sum_nil]
      omega
  | @takePart n hwait hpos hn hlt =>
      simp only [work, used] at hn ⊢
      omega
  | @takeLast n f rest hwait hpos hn hframes heq =>
      refine (work_deliver (l := { l with frames := rest, taken := 0 }) f hwait).trans_lt ?_
      simp only [work, used, hframes, List.map_cons, List.sum_cons]
      omega
  | roomGone hwait =>
      simp only [work, used, hwait, workOfWaiting]
      omega
  | room hwait =>
      simp only [work, used, hwait, workOfWaiting, List.map_append, List.map_cons, List.map_nil,
        List.sum_append, List.sum_cons, List.sum_nil]
      omega
  | recv hhand hqueue =>
      simp only [work, used, hhand, hqueue, List.map_cons, List.sum_cons, List.length_nil]
      omega
  | @write n hpos hn hroom =>
      simp only [work, used, List.length_drop, List.length_append, List.length_take]
      omega
  | @collect n hpos hn =>
      simp only [work, used, List.length_drop]
      omega

/-- The frame that closes is what has to be done in addition. -/
theorem work_close (h : l.step z .close = some l') : l'.work z = l.work z + (2 * z.close + 1) := by
  cases moves_of_step h with
  | close hput htorn =>
      simp only [work, used, hput, workOfPutting, Option.elim, Frame.work, LaneSizes.frame]
      omega

theorem work_cut (h : l.step z .cut = some l') : l'.work z ≤ l.work z := by
  cases moves_of_step h with
  | cutNone => exact le_rfl
  | cut hput =>
      simp only [work, used, hput, workOfPutting, Option.elim]
      omega

/-! ## Standing still -/

theorem sink_eq_nil (h : ∀ n, l.step z (.collect n) = none) : l.sink = [] := by
  by_contra hne
  have hstep := h l.sink.length
  rw [step, if_pos ⟨List.length_pos_iff.mpr hne, le_rfl⟩] at hstep
  cases hstep

/-- A reader that cannot write has written everything, or the socket is full. -/
theorem hand_of_no_write (h : ∀ n, l.step z (.write n) = none) :
    l.hand = [] ∨ z.sink ≤ l.sink.length := by
  rw [or_iff_not_imp_left]
  intro hne
  have hpos := List.length_pos_iff.mpr hne
  by_contra hroom
  have hstep := h 1
  rw [step, if_pos ⟨one_pos, hpos, by omega⟩] at hstep
  cases hstep

/-- A reader that cannot receive is writing, or the queue is empty. -/
theorem queue_of_no_recv (h : l.step z .recv = none) : l.hand ≠ [] ∨ l.queue = [] := by
  rcases hhand : l.hand with _ | ⟨b, hand⟩
  · rcases hqueue : l.queue with _ | ⟨chunk, rest⟩
    · exact .inr rfl
    · simp [step, hhand, hqueue] at h
  · exact .inl (List.cons_ne_nil b hand)

/-- A dispatcher that waits and goes on waiting has a full queue in front of it. -/
theorem waiting_of_no_room (h : l.step z .room = none) :
    l.waiting = none ∨ (l.alive = true ∧ z.queue ≤ l.queue.length) := by
  rcases hwait : l.waiting with _ | chunk
  · exact .inl rfl
  · simp only [step, hwait] at h
    split_ifs at h with halive hroom
    exact .inr ⟨Bool.eq_true_of_not_eq_false halive, Nat.not_lt.mp hroom⟩

/-- A dispatcher that cannot take anything out waits, or the pipe is empty. -/
theorem used_of_no_take (hl : l.WellFormed z) (h : ∀ n, l.step z (.take n) = none) :
    l.waiting ≠ none ∨ l.used z = 0 := by
  rw [or_iff_not_imp_left, not_not]
  intro hwait
  by_contra hused
  have hstep := h 1
  rw [step, if_pos ⟨by rw [hwait]; rfl, one_pos, Nat.pos_of_ne_zero hused⟩] at hstep
  rcases hframes : l.frames with _ | ⟨f, rest⟩
  · simp [hframes] at hstep
  · have htaken := hl.taken f (by rw [hframes]; exact rfl)
    simp only [hframes] at hstep
    split_ifs at hstep
    omega

/-- Nothing is in a pipe that is empty, but what was taken out of the frame that is put in. -/
theorem frames_of_used (hl : l.WellFormed z) (h : l.used z = 0) : l.frames = [] := by
  rcases hframes : l.frames with _ | ⟨f, rest⟩
  · rfl
  · have htaken := hl.taken f (by rw [hframes]; exact rfl)
    simp only [used, hframes, List.map_cons, List.sum_cons] at h
    omega

/-- A writer that cannot put anything in has no frame, or the pipe is full. -/
theorem putting_of_no_put (hl : l.WellFormed z) (h : ∀ n, l.step z (.put n) = none) :
    l.putting = none ∨ z.pipe ≤ l.used z := by
  rcases hput : l.putting with _ | ⟨f, k⟩
  · exact .inl rfl
  · right
    have hk := hl.putting f k hput
    by_contra hroom
    have hstep := h 1
    simp only [step, hput] at hstep
    rw [if_pos ⟨one_pos, by omega, by omega⟩] at hstep
    split_ifs at hstep

theorem source_of_no_read (h : ∀ n, l.step z (.read n) = none) (hput : l.putting = none)
    (htorn : l.torn = false) : l.source = [] := by
  by_contra hne
  have hpos := List.length_pos_iff.mpr hne
  have hstep := h 1
  rw [step, if_pos ⟨by rw [hput]; rfl, htorn, one_pos, hpos, z.chunk_pos⟩] at hstep
  cases hstep

/-- A source that cannot send has sent everything, or its socket is full. -/
theorem todo_of_no_send (h : ∀ n, l.step z (.send n) = none) :
    l.todo = [] ∨ z.source ≤ l.source.length := by
  rw [or_iff_not_imp_left]
  intro hne
  have hpos := List.length_pos_iff.mpr hne
  by_contra hroom
  have hstep := h 1
  rw [step, if_pos ⟨one_pos, hpos, by omega⟩] at hstep
  cases hstep

theorem todo_of_no_send_of_source (h : ∀ n, l.step z (.send n) = none) (hsource : l.source = []) :
    l.todo = [] := by
  refine (todo_of_no_send h).resolve_right fun hfull => ?_
  rw [hsource] at hfull
  exact absurd z.source_pos (Nat.not_lt.mpr hfull)

/-- **A lane that stands still** has nothing under way. -/
theorem afloat_eq_nil (hl : l.WellFormed z) (hcollect : ∀ n, l.step z (.collect n) = none)
    (hwrite : ∀ n, l.step z (.write n) = none) (hrecv : l.step z .recv = none)
    (hroom : l.step z .room = none) (htake : ∀ n, l.step z (.take n) = none)
    (hput : ∀ n, l.step z (.put n) = none) : l.afloat = [] ∧ l.putting = none := by
  have hsink := sink_eq_nil hcollect
  have hhand : l.hand = [] := by
    refine (hand_of_no_write hwrite).resolve_right fun hfull => ?_
    rw [hsink] at hfull
    exact absurd z.sink_pos (Nat.not_lt.mpr hfull)
  have hqueue : l.queue = [] := (queue_of_no_recv hrecv).resolve_left (not_not.mpr hhand)
  have hwait : l.waiting = none := by
    refine (waiting_of_no_room hroom).resolve_right fun hfull => ?_
    rw [hqueue] at hfull
    exact absurd z.queue_pos (Nat.not_lt.mpr hfull.2)
  have hused : l.used z = 0 := (used_of_no_take hl htake).resolve_left (not_not.mpr hwait)
  have hframes := frames_of_used hl hused
  have hputting : l.putting = none := by
    refine (putting_of_no_put hl hput).resolve_right fun hfull => ?_
    rw [hused] at hfull
    exact absurd z.pipe_pos (Nat.not_lt.mpr hfull)
  refine ⟨?_, hputting⟩
  simp [afloat, hhand, hqueue, hwait, hframes, hputting]

/-! ## What is still to come -/

/-- What has not come to the queue. -/
def behind (l : Lane β) : List β :=
  l.waiting.getD [] ++ l.frames.flatMap Frame.chunk ++ (l.putting.elim [] fun p => p.1.chunk) ++
    l.source ++ l.todo

/-- The sink has read it, or it is in the socket of the sink. -/
def delivered (l : Lane β) : List β := l.got ++ l.sink

theorem content_eq (l : Lane β) : l.content = l.delivered ++ l.rest := rfl

theorem rest_eq (l : Lane β) : l.rest = l.hand ++ l.queue.flatten ++ l.behind := by
  simp [rest, afloat, behind]

/-- What comes out of the pipe is no more than what was in it. -/
theorem length_rest_deliver (f : Frame β) (hwait : l.waiting = none) :
    (l.deliver z f).rest.length ≤ l.rest.length + f.chunk.length ∧
      (l.deliver z f).behind.length ≤ l.behind.length + f.chunk.length := by
  cases f with
  | close => exact ⟨Nat.le_add_right _ _, Nat.le_add_right _ _⟩
  | data chunk =>
      unfold deliver
      dsimp only
      split_ifs
      · constructor
        · simp [rest, afloat, Frame.chunk]
          omega
        · simp [behind]
      · constructor <;> simp [rest, afloat, behind, hwait, Frame.chunk] <;> omega
      · exact ⟨Nat.le_add_right _ _, Nat.le_add_right _ _⟩

/-- Nothing comes from nowhere. -/
theorem length_rest_step (h : l.step z a = some l') :
    l'.rest.length ≤ l.rest.length ∧ l'.behind.length ≤ l.behind.length := by
  cases moves_of_step h with
  | @takeLast n f rest hwait hpos hn hframes heq =>
      obtain ⟨hrest, hbehind⟩ :=
        length_rest_deliver (z := z) (l := { l with frames := rest, taken := 0 }) f hwait
      refine ⟨hrest.trans (le_of_eq ?_), hbehind.trans (le_of_eq ?_)⟩
      · simp [Lane.rest, afloat, hframes]
        omega
      · simp [behind, hframes]
        omega
  | roomGone hwait | room hwait => constructor <;> simp [rest, afloat, behind, hwait]
  | recv hhand hqueue => constructor <;> simp [rest, afloat, behind, hhand, hqueue]
  | send hpos hn | write hpos hn =>
      constructor <;> simp [rest, afloat, behind]
  | read hput htorn hpos hn =>
      constructor <;> simp [rest, afloat, behind, hput, Frame.chunk]
  | close hput | putPart hput | putLast hput | cut hput =>
      constructor <;> simp [rest, afloat, behind, hput, Frame.chunk]
  | takePart | collect | cutNone | unregister | drop => exact ⟨le_rfl, le_rfl⟩

theorem rest_eq_nil_step (h : l.step z a = some l') (hrest : l.rest = []) : l'.rest = [] := by
  have hle := (length_rest_step h).1
  rw [hrest] at hle
  exact List.length_eq_zero_iff.mp (Nat.le_zero.mp hle)

theorem behind_eq_nil_step (h : l.step z a = some l') (hbehind : l.behind = []) :
    l'.behind = [] := by
  have hle := (length_rest_step h).2
  rw [hbehind] at hle
  exact List.length_eq_zero_iff.mp (Nat.le_zero.mp hle)

/-- What the source has sent and had to send stays read. -/
theorem source_eq_nil_step (h : l.step z a = some l') (hl : l.source = [] ∧ l.todo = []) :
    l'.source = [] ∧ l'.todo = [] := by
  obtain ⟨hsource, htodo⟩ := hl
  cases moves_of_step h with
  | send | read => simp [hsource, htodo]
  | @takeLast n f rest =>
      cases f with
      | close => exact ⟨hsource, htodo⟩
      | data chunk =>
          unfold deliver
          dsimp only
          split_ifs <;> exact ⟨hsource, htodo⟩
  | _ => exact ⟨hsource, htodo⟩

/-- Only the reader adds to what is delivered. -/
theorem delivered_step (h : l.step z a = some l') (ha : ∀ n, a ≠ .write n) :
    l'.delivered = l.delivered := by
  cases moves_of_step h with
  | @takeLast n f rest =>
      cases f with
      | close => rfl
      | data chunk =>
          unfold deliver
          dsimp only
          split_ifs <;> rfl
  | write => exact absurd rfl (ha _)
  | collect => simp [delivered]
  | _ => rfl

end Lane

end AdbHub.Lib
