import AdbHub.Lib.Lane.Standstill

/-!
# Lanes that close

The end of the stream is a frame of its own, and either end of a lane may leave it.

* `NoClose`, `CloseLast` — where the frame that closes may be; **`behind_of_closed`**: when it
  comes out, everything before it has come out.
* `Lane.Intact` — what holds of a lane whose ends leave it only when nothing is lost by it, one
  lemma for each way they leave; **`Intact.step`** — every move keeps it.
* **`Intact.rest_eq_nil`** — if it stands still, nothing is left.
-/

namespace AdbHub.Lib

namespace Lane

variable {β : Type*} {z : LaneSizes} {l l' : Lane β} {a : LaneAction}

/-! ## The frame that closes -/

/-- No frame that closes is in the pipe or being put in. -/
structure NoClose (l : Lane β) : Prop where
  frames : Frame.close ∉ l.frames
  putting : ∀ k, l.putting ≠ some (.close, k)

/-- A frame that closes is the last one. -/
def CloseLast (l : Lane β) : Prop :=
  Frame.close ∈ l.frames → l.putting = none ∧ ∃ pre, l.frames = pre ++ [.close] ∧ .close ∉ pre

@[simp] theorem frames_deliver (f : Frame β) : (l.deliver z f).frames = l.frames := by
  cases f with
  | close => rfl
  | data chunk =>
      unfold deliver
      dsimp only
      split_ifs <;> rfl

@[simp] theorem putting_deliver (f : Frame β) : (l.deliver z f).putting = l.putting := by
  cases f with
  | close => rfl
  | data chunk =>
      unfold deliver
      dsimp only
      split_ifs <;> rfl

theorem NoClose.closeLast (hl : l.NoClose) : l.CloseLast := fun hmem => absurd hmem hl.frames

theorem NoClose.step (hl : l.NoClose) (ha : a ≠ .close) (h : l.step z a = some l') :
    l'.NoClose := by
  obtain ⟨hframes, hput⟩ := hl
  cases moves_of_step h with
  | close => exact absurd rfl ha
  | read =>
      refine ⟨hframes, fun k hk => ?_⟩
      cases hk
  | putPart hputting =>
      refine ⟨hframes, fun i hi => ?_⟩
      obtain ⟨rfl, -⟩ := Prod.mk.inj (Option.some.inj hi)
      exact hput _ hputting
  | putLast hputting =>
      refine ⟨fun hmem => ?_, fun k hk => ?_⟩
      · rcases List.mem_append.mp hmem with hmem | hmem
        · exact hframes hmem
        · obtain rfl := List.mem_singleton.mp hmem
          exact hput _ hputting
      · cases hk
  | @takeLast n f rest hwait hpos hn hlist =>
      rw [hlist] at hframes
      constructor
      · rw [frames_deliver]
        exact fun hmem => hframes (List.mem_cons_of_mem f hmem)
      · rw [putting_deliver]
        exact hput
  | cut =>
      refine ⟨hframes, fun k hk => ?_⟩
      cases hk
  | _ => exact ⟨hframes, hput⟩

theorem CloseLast.step (hl : l.CloseLast) (hread : ∀ n, a ≠ .read n) (hclose : a ≠ .close)
    (h : l.step z a = some l') : l'.CloseLast := by
  cases moves_of_step h with
  | read => exact absurd rfl (hread _)
  | close => exact absurd rfl hclose
  | putPart hputting =>
      intro hmem
      rw [(hl hmem).1] at hputting
      cases hputting
  | @putLast n f k hputting =>
      have hnone : Frame.close ∉ l.frames := by
        intro hmem
        rw [(hl hmem).1] at hputting
        cases hputting
      intro hmem
      rcases List.mem_append.mp hmem with hmem | hmem
      · exact absurd hmem hnone
      · obtain rfl := List.mem_singleton.mp hmem
        exact ⟨rfl, l.frames, rfl, hnone⟩
  | @takeLast n f rest hwait hpos hn hframes =>
      intro hmem
      rw [frames_deliver] at hmem ⊢
      rw [putting_deliver]
      have hmem' : Frame.close ∈ l.frames := by
        rw [hframes]
        exact List.mem_cons_of_mem f hmem
      obtain ⟨hput, pre, hlist, hpre⟩ := hl hmem'
      refine ⟨hput, ?_⟩
      rw [hframes] at hlist
      rcases pre with _ | ⟨g, pre⟩
      · obtain ⟨-, rfl⟩ := List.cons.inj hlist
        cases hmem
      · obtain ⟨-, rfl⟩ := List.cons.inj hlist
        exact ⟨pre, rfl, fun hin => hpre (List.mem_cons_of_mem g hin)⟩
  | cut =>
      intro hmem
      exact ⟨rfl, (hl hmem).2⟩
  | _ => exact hl

/-- The queue is closed by a frame. -/
theorem eq_of_closed (hopen : l.isOpen = true) (ha : a ≠ .unregister) (h : l.step z a = some l')
    (hclosed : l'.isOpen = false) :
    ∃ rest, l.frames = .close :: rest ∧ l.waiting = none ∧
      l' = { l with frames := rest, taken := 0, isOpen := false } := by
  cases moves_of_step h with
  | unregister => exact absurd rfl ha
  | @takeLast n f rest hwait hpos hn hframes heq =>
      cases f with
      | data chunk =>
          have hsame : (deliver z { l with frames := rest, taken := 0 } (.data chunk)).isOpen =
              l.isOpen := by
            unfold deliver
            dsimp only
            split_ifs <;> rfl
          rw [hsame, hopen] at hclosed
          cases hclosed
      | close => exact ⟨rest, hframes, hwait, rfl⟩
  | _ =>
      have hclosed : l.isOpen = false := hclosed
      rw [hopen] at hclosed
      cases hclosed

/-- **When the queue is closed by a frame**, everything has come to it. -/
theorem behind_of_closed (hl : l.CloseLast)
    (hsource : Frame.close ∈ l.frames → l.source = [] ∧ l.todo = []) (hopen : l.isOpen = true)
    (ha : a ≠ .unregister) (h : l.step z a = some l') (hclosed : l'.isOpen = false) :
    Frame.close ∈ l.frames ∧ l'.behind = [] := by
  obtain ⟨rest, hframes, hwait, rfl⟩ := eq_of_closed hopen ha h hclosed
  have hmem : Frame.close ∈ l.frames := by
    rw [hframes]
    exact List.mem_cons_self
  obtain ⟨hput, pre, hlist, hpre⟩ := hl hmem
  obtain ⟨hsrc, htodo⟩ := hsource hmem
  rw [hframes] at hlist
  rcases pre with _ | ⟨g, pre⟩
  · obtain ⟨-, rfl⟩ := List.cons.inj hlist
    exact ⟨hmem, by simp [behind, hwait, hput, hsrc, htodo]⟩
  · obtain ⟨rfl, -⟩ := List.cons.inj hlist
    exact absurd List.mem_cons_self hpre

/-! ## Ends that leave -/

@[simp] theorem torn_deliver (f : Frame β) : (l.deliver z f).torn = l.torn := by
  cases f with
  | close => rfl
  | data chunk =>
      unfold deliver
      dsimp only
      split_ifs <;> rfl

@[simp] theorem alive_deliver (f : Frame β) : (l.deliver z f).alive = l.alive := by
  cases f with
  | close => rfl
  | data chunk =>
      unfold deliver
      dsimp only
      split_ifs <;> rfl

/-- The moves that bring elements on tear nothing, and the reader stays. -/
theorem torn_alive_step (ha : a.Brings) (h : l.step z a = some l') :
    l'.torn = l.torn ∧ l'.alive = l.alive := by
  cases moves_of_step h with
  | close | cutNone | cut | unregister | drop => exact ha.elim
  | takeLast => exact ⟨torn_deliver _, alive_deliver _⟩
  | _ => exact ⟨rfl, rfl⟩

/-- A source that has sent everything sends nothing. -/
theorem todo_eq_nil_step (h : l.step z a = some l') (htodo : l.todo = []) : l'.todo = [] := by
  cases moves_of_step h with
  | send => simp [htodo]
  | @takeLast n f rest =>
      cases f with
      | close => exact htodo
      | data chunk =>
          unfold deliver
          dsimp only
          split_ifs <;> exact htodo
  | _ => exact htodo

/-- A lane of everything in `all` whose ends leave it only when nothing is lost by it. The writer
is there if `writing`, has begun the frame that closes if `closed`, and the reader is there if
`reading`. -/
structure Intact (z : LaneSizes) (all : List β) (writing closed reading : Bool) (l : Lane β) :
    Prop where
  well : l.WellFormed z
  content : l.content = all
  closeLast : l.CloseLast
  noClose : closed = false → l.NoClose
  closed : closed = true → writing = false
  /-- The writer leaves when it has read everything. -/
  written : writing = false → l.source = [] ∧ l.todo = []
  /-- The reader leaves when it has written everything. -/
  received : reading = false → l.rest = []
  torn : writing = true → l.torn = false
  /-- The queue is given up when everything has come to it. -/
  ended : l.isOpen = false → l.behind = [] ∧ (writing = false ∨ reading = false)
  dropped : l.alive = false → reading = false

variable {all : List β} {writing closed reading : Bool}

theorem intact_start (todo : List β) :
    Intact z todo true false true ({ todo := todo } : Lane β) where
  well := wellFormed_start todo
  content := by simp [content, rest, afloat]
  closeLast := fun h => absurd h List.not_mem_nil
  noClose _ := ⟨List.not_mem_nil, fun _ h => (nomatch h)⟩
  closed h := nomatch h
  written h := nomatch h
  received h := nomatch h
  torn _ := rfl
  ended h := nomatch h
  dropped h := nomatch h

theorem behind_eq_nil_of_rest (h : l.rest = []) : l.behind = [] := by
  rw [rest_eq] at h
  exact (List.append_eq_nil_iff.mp h).2

/-- Of an intact lane nothing is dropped. -/
theorem Intact.keeps (hl : l.Intact z all writing closed reading) : l.Keeps := by
  have hright : l.behind = [] → l.Keeps := by
    intro hbehind
    simp only [behind, List.append_eq_nil_iff, List.flatMap_eq_nil_iff] at hbehind
    exact .inr ⟨hbehind.1.1.1.2, hbehind.1.1.1.1⟩
  rcases hopen : l.isOpen with _ | _
  · exact hright (hl.ended hopen).1
  rcases halive : l.alive with _ | _
  · exact hright (behind_eq_nil_of_rest (hl.received (hl.dropped halive)))
  · exact .inl ⟨hopen, halive⟩

/-- **Every move** keeps a lane intact, if the writer reads only while it is there. -/
theorem Intact.step (hl : l.Intact z all writing closed reading) (ha : a.Brings)
    (hread : ∀ n, a = .read n → writing = true) (h : l.step z a = some l') :
    l'.Intact z all writing closed reading := by
  have hclose : a ≠ .close := by
    rintro rfl
    exact ha
  have hcut : a ≠ .cut := by
    rintro rfl
    exact ha
  have hunregister : a ≠ .unregister := by
    rintro rfl
    exact ha
  obtain ⟨htorn, halive⟩ := torn_alive_step ha h
  have hnoClose : closed = false → l'.NoClose := fun hc => (hl.noClose hc).step hclose h
  refine ⟨hl.well.step h, (content_step hl.keeps hcut h).trans hl.content, ?_, hnoClose, hl.closed,
    fun hw => source_eq_nil_step h (hl.written hw), fun hr => rest_eq_nil_step h (hl.received hr),
    fun hw => htorn.trans (hl.torn hw), ?_, fun hd => hl.dropped (halive ▸ hd)⟩
  · rcases hc : closed with _ | _
    · exact (hnoClose hc).closeLast
    · refine hl.closeLast.step (fun n hn => ?_) hclose h
      have htrue := hread n hn
      rw [hl.closed hc] at htrue
      cases htrue
  · intro hclosed
    rcases hopen : l.isOpen with _ | _
    · obtain ⟨hbehind, hleft⟩ := hl.ended hopen
      exact ⟨behind_eq_nil_step h hbehind, hleft⟩
    · -- a frame that closes was taken out, so the writer has left
      have hleft : Frame.close ∈ l.frames → writing = false := by
        intro hmem
        rcases hc : closed with _ | _
        · exact absurd hmem (hl.noClose hc).frames
        · exact hl.closed hc
      obtain ⟨hmem, hbehind⟩ := behind_of_closed hl.closeLast
        (fun hmem => hl.written (hleft hmem)) hopen hunregister h hclosed
      exact ⟨hbehind, .inl (hleft hmem)⟩

/-- The writer leaves when it has read everything. -/
theorem Intact.leaveWriter (hl : l.Intact z all true false reading)
    (h : l.source = [] ∧ l.todo = []) : l.Intact z all false false reading where
  well := hl.well
  content := hl.content
  closeLast := hl.closeLast
  noClose := hl.noClose
  closed _ := rfl
  written _ := h
  received := hl.received
  torn h := nomatch h
  ended h := ⟨(hl.ended h).1, .inl rfl⟩
  dropped := hl.dropped

/-- The reader leaves when it has written everything. -/
theorem Intact.leaveReader (hl : l.Intact z all writing closed true) (h : l.rest = []) :
    l.Intact z all writing closed false where
  well := hl.well
  content := hl.content
  closeLast := hl.closeLast
  noClose := hl.noClose
  closed := hl.closed
  written := hl.written
  received _ := h
  torn := hl.torn
  ended h := ⟨(hl.ended h).1, .inr rfl⟩
  dropped _ := rfl

/-- The reader that has left removes the queue. -/
theorem Intact.unregister (hl : l.Intact z all writing closed false) :
    ({ l with isOpen := false } : Lane β).Intact z all writing closed false where
  well := { hl.well with }
  content := hl.content
  closeLast := hl.closeLast
  noClose h := ⟨(hl.noClose h).frames, (hl.noClose h).putting⟩
  closed := hl.closed
  written := hl.written
  received := hl.received
  torn := hl.torn
  ended _ := ⟨behind_eq_nil_of_rest (hl.received rfl), .inr rfl⟩
  dropped := hl.dropped

/-- The reader that has left drops the queue. -/
theorem Intact.drop (hl : l.Intact z all writing closed false) :
    ({ l with alive := false } : Lane β).Intact z all writing closed false where
  well := { hl.well with }
  content := hl.content
  closeLast := hl.closeLast
  noClose h := ⟨(hl.noClose h).frames, (hl.noClose h).putting⟩
  closed := hl.closed
  written := hl.written
  received := hl.received
  torn := hl.torn
  ended := hl.ended
  dropped _ := rfl

/-- The writer that has left closes. -/
theorem Intact.close (hl : l.Intact z all false false reading) (h : l.step z .close = some l') :
    l'.Intact z all false true reading := by
  have hwell := hl.well.step h
  have hcontent := content_step hl.keeps (by simp) h
  cases moves_of_step h with
  | close hput htorn =>
      exact {
        well := hwell
        content := hcontent.trans hl.content
        closeLast := fun hmem => absurd hmem (hl.noClose rfl).frames
        noClose := fun h => nomatch h
        closed := fun _ => rfl
        written := hl.written
        received := fun hr => rest_eq_nil_step h (hl.received hr)
        torn := fun h => nomatch h
        ended := fun hopen => ⟨behind_eq_nil_step h (hl.ended hopen).1, .inl rfl⟩
        dropped := hl.dropped }

/-- A writer of whose lane nothing is left has nothing to drop. -/
theorem Intact.putting_eq_none (hl : l.Intact z all writing false reading) (h : l.rest = []) :
    l.putting = none := by
  rcases hput : l.putting with _ | ⟨f, k⟩
  · rfl
  cases f with
  | close => exact absurd hput ((hl.noClose rfl).putting k)
  | data chunk =>
      have hbehind := behind_eq_nil_of_rest h
      simp only [behind, hput, List.append_eq_nil_iff] at hbehind
      exact absurd hbehind.1.1.2 (hl.well.inPutting chunk k hput)

/-- **An intact lane that stands still** has brought on everything, if the reader is there and the
writer is there or has read everything. -/
theorem Intact.rest_eq_nil (hl : l.Intact z all writing closed reading)
    (hstands : ∀ a : LaneAction, a.Brings → (∀ n, a ≠ .read n) → l.step z a = none)
    (hread : writing = true → ∀ n, l.step z (.read n) = none) : l.rest = [] ∧ l.sink = [] := by
  have hcollect := fun n => hstands (.collect n) trivial (by simp)
  obtain ⟨hafloat, hput⟩ := afloat_eq_nil hl.well hcollect
    (fun n => hstands (.write n) trivial (by simp)) (hstands .recv trivial (by simp))
    (hstands .room trivial (by simp)) (fun n => hstands (.take n) trivial (by simp))
    fun n => hstands (.put n) trivial (by simp)
  have hsource : l.source = [] ∧ l.todo = [] := by
    rcases hw : writing with _ | _
    · exact hl.written hw
    · have hsource := source_of_no_read (hread hw) hput (hl.torn hw)
      exact ⟨hsource,
        todo_of_no_send_of_source (fun n => hstands (.send n) trivial (by simp)) hsource⟩
  refine ⟨?_, sink_eq_nil hcollect⟩
  rw [rest, hafloat, hsource.1, hsource.2]
  rfl

end Lane

end AdbHub.Lib
