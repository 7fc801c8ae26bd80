import AdbHub.Relay

/-!
# The relay of a shared device

`forward_shared` (`daemon.rs`): both directions are copied, each until its own end
(`tokio::io::copy_bidirectional`).

* `CopyDirection` — one direction; `SharedRelay.machine` — both, in any order of steps.
* **`SharedRelay.delivers`** — where it comes to rest, everything has arrived.
-/

namespace AdbHub

open Lib

/-- The buffer of one direction. Source: `tokio::io::copy_bidirectional`. -/
def copyBuf : ℕ := 8 * 1024

/-- One direction. -/
structure CopyDirection where
  /-- What the source has still to send. -/
  todo : Bytes
  /-- The socket of the source. -/
  source : Bytes := []
  /-- The source has shut down its sending side. -/
  shut : Bool := false
  buffer : Bytes := []
  /-- The socket of the sink. -/
  sink : Bytes := []
  /-- What the sink has read. -/
  got : Bytes := []
  /-- The end was passed on to the sink. -/
  ended : Bool := false

/-- What happens next in one direction. -/
inductive CopyAction
  | send (n : ℕ)
  | shut
  | read (n : ℕ)
  | write (n : ℕ)
  /-- The source has ended and everything is written: the socket of the sink is shut down. -/
  | finish
  | collect (n : ℕ)

namespace CopyDirection

/-- One step; `shuts` says whether the source shuts down its sending side, and of the sizes only
those of the sockets of source and sink count. -/
def step (z : LaneSizes) (shuts : Bool) (d : CopyDirection) : CopyAction → Option CopyDirection
  | .send n =>
      if 0 < n ∧ n ≤ d.todo.length ∧ d.source.length + n ≤ z.source then
        some { d with todo := d.todo.drop n, source := d.source ++ d.todo.take n }
      else none
  | .shut =>
      if shuts ∧ d.shut = false ∧ d.todo = [] then some { d with shut := true } else none
  | .read n =>
      if d.ended = false ∧ 0 < n ∧ n ≤ d.source.length ∧ d.buffer.length + n ≤ copyBuf then
        some { d with source := d.source.drop n, buffer := d.buffer ++ d.source.take n }
      else none
  | .write n =>
      if 0 < n ∧ n ≤ d.buffer.length ∧ d.sink.length + n ≤ z.sink then
        some { d with buffer := d.buffer.drop n, sink := d.sink ++ d.buffer.take n }
      else none
  | .finish =>
      if d.shut ∧ d.ended = false ∧ d.source = [] ∧ d.buffer = [] then
        some { d with ended := true }
      else none
  | .collect n =>
      if 0 < n ∧ n ≤ d.sink.length then
        some { d with sink := d.sink.drop n, got := d.got ++ d.sink.take n }
      else none

/-- Nothing is lost, and the end comes last. -/
structure Copies (all : Bytes) (d : CopyDirection) : Prop where
  content : d.got ++ d.sink ++ d.buffer ++ d.source ++ d.todo = all
  shut : d.shut = true → d.todo = []
  ended : d.ended = true → d.source = [] ∧ d.todo = []

variable {z : LaneSizes} {shuts : Bool} {all : Bytes} {d d' : CopyDirection} {a : CopyAction}

theorem copies_start (todo : Bytes) : ({ todo := todo } : CopyDirection).Copies todo where
  content := by simp
  shut h := nomatch h
  ended h := nomatch h

/-- Every step of one direction copies. -/
theorem Copies.step (hd : d.Copies all) (h : d.step z shuts a = some d') : d'.Copies all := by
  obtain ⟨hcontent, hshut, hended⟩ := hd
  cases a with
  | send n =>
      simp only [CopyDirection.step] at h
      split_ifs at h with hif
      obtain rfl := Option.some.inj h
      refine ⟨?_, fun hs => by simp [hshut hs], fun he => by simp [hended he]⟩
      simpa using hcontent
  | shut =>
      simp only [CopyDirection.step] at h
      split_ifs at h with hif
      obtain rfl := Option.some.inj h
      exact ⟨hcontent, fun _ => hif.2.2, hended⟩
  | read n =>
      simp only [CopyDirection.step] at h
      split_ifs at h with hif
      obtain rfl := Option.some.inj h
      refine ⟨?_, hshut, fun he => ?_⟩
      · simp only [List.append_assoc] at hcontent ⊢
        rwa [← List.append_assoc (List.take _ _) (List.drop _ _), List.take_append_drop]
      · rw [hif.1] at he
        cases he
  | write n =>
      simp only [CopyDirection.step] at h
      split_ifs at h with hif
      obtain rfl := Option.some.inj h
      refine ⟨?_, hshut, hended⟩
      simp only [List.append_assoc] at hcontent ⊢
      rwa [← List.append_assoc (List.take _ _) (List.drop _ _), List.take_append_drop]
  | finish =>
      simp only [CopyDirection.step] at h
      split_ifs at h with hif
      obtain rfl := Option.some.inj h
      exact ⟨hcontent, hshut, fun _ => ⟨hif.2.2.1, hshut hif.1⟩⟩
  | collect n =>
      simp only [CopyDirection.step] at h
      split_ifs at h with hif
      obtain rfl := Option.some.inj h
      refine ⟨?_, hshut, hended⟩
      simp only [List.append_assoc] at hcontent ⊢
      rwa [← List.append_assoc (List.take _ _) (List.drop _ _), List.take_append_drop]

/-- A direction that stands still has brought on everything. -/
theorem Copies.got_eq (hd : d.Copies all) (hstands : ∀ a, d.step z shuts a = none) :
    d.got = all := by
  have hsink : d.sink = [] := by
    by_contra hne
    have h := hstands (.collect d.sink.length)
    rw [CopyDirection.step, if_pos ⟨List.length_pos_iff.mpr hne, le_rfl⟩] at h
    cases h
  have hbuffer : d.buffer = [] := by
    by_contra hne
    have hroom : d.sink.length + 1 ≤ z.sink := by
      rw [hsink]
      exact z.sink_pos
    have h := hstands (.write 1)
    rw [CopyDirection.step, if_pos ⟨one_pos, List.length_pos_iff.mpr hne, hroom⟩] at h
    cases h
  have hsource : d.source = [] := by
    by_contra hne
    have hended : d.ended = false := by
      by_contra hended
      exact hne (hd.ended (Bool.eq_true_of_not_eq_false hended)).1
    have hroom : d.buffer.length + 1 ≤ copyBuf := by
      rw [hbuffer]
      decide
    have h := hstands (.read 1)
    rw [CopyDirection.step, if_pos ⟨hended, one_pos, List.length_pos_iff.mpr hne, hroom⟩] at h
    cases h
  have htodo : d.todo = [] := by
    by_contra hne
    have hroom : d.source.length + 1 ≤ z.source := by
      rw [hsource]
      exact z.source_pos
    have h := hstands (.send 1)
    rw [CopyDirection.step, if_pos ⟨one_pos, List.length_pos_iff.mpr hne, hroom⟩] at h
    cases h
  have hcontent := hd.content
  rwa [hsink, hbuffer, hsource, htodo, List.append_nil, List.append_nil, List.append_nil,
    List.append_nil] at hcontent

end CopyDirection

/-- Both directions. -/
structure SharedRelay where
  up : CopyDirection
  down : CopyDirection

namespace SharedRelay

inductive Event
  | up (a : CopyAction)
  | down (a : CopyAction)

variable (r : RelaySetting)

/-- One step; the upstream is the shared local backend. -/
def step (s : SharedRelay) : Event → Option SharedRelay
  | .up a => (s.up.step r.up r.clientShuts a).map fun d => { s with up := d }
  | .down a => (s.down.step r.down r.upstreamShuts a).map fun d => { s with down := d }

def machine : Machine SharedRelay Event where
  init := ⟨{ todo := r.fromClient }, { todo := r.fromUpstream }⟩
  step := step r

variable {r} {as : List Event} {s : SharedRelay}

theorem copies_of_reaches (h : (machine r).Reaches as s) :
    s.up.Copies r.fromClient ∧ s.down.Copies r.fromUpstream := by
  refine h.invariant (I := fun s : SharedRelay => s.up.Copies r.fromClient ∧
    s.down.Copies r.fromUpstream) ?_ ?_
  · exact ⟨CopyDirection.copies_start _, CopyDirection.copies_start _⟩
  · rintro s (a | a) t ⟨hup, hdown⟩ - hs
    · obtain ⟨d, hd, rfl⟩ := Option.map_eq_some_iff.mp hs
      exact ⟨hup.step hd, hdown⟩
    · obtain ⟨d, hd, rfl⟩ := Option.map_eq_some_iff.mp hs
      exact ⟨hup, hdown.step hd⟩

/-- **A shared relay** that has come to rest has delivered everything, both ways. -/
theorem delivers (h : (machine r).Reaches as s) (hrest : ∀ e, s.step r e = none) :
    s.up.got = r.fromClient ∧ s.down.got = r.fromUpstream := by
  obtain ⟨hup, hdown⟩ := copies_of_reaches h
  exact ⟨hup.got_eq fun a => Option.map_eq_none_iff.mp (hrest (.up a)),
    hdown.got_eq fun a => Option.map_eq_none_iff.mp (hrest (.down a))⟩

end SharedRelay

end AdbHub
