import AdbHub.Lib.Machine

/-!
# Frames on a shared byte stream

Several writers share one stream under a lock. A writer holding the lock puts its frame out in
pieces, and may be dropped between two pieces.

* `FrameWriter` — what has been put out, the frames completed, and the frame in progress with the
  part already out and the (non-empty) part still to come.
* `FrameWriter.Intact` — the stream is the completed frames followed by the part that is out of
  the frame in progress.
* **`intact_step_iff`** — a step keeps the stream intact exactly when it does not drop a frame
  that is partly out (`CutsNothing`).
* `parseMany` — reading a stream message by message; whole frames at the front are read first
  (`parseMany_append`), and **`parseMany_flatten`**: a stream of whole frames, followed by a part
  that does not parse, reads back as exactly those messages.
-/

namespace AdbHub.Lib

variable {α β : Type*}

/-! ## The writer -/

/-- A frame in progress. A completed frame is no longer in progress, so something is left. -/
structure Pending (α β : Type*) where
  message : α
  /-- The part of the frame that is out. -/
  done : List β
  /-- The part still to come. -/
  todo : List β
  todo_ne_nil : todo ≠ []
  deriving DecidableEq

/-- A stream written frame by frame. -/
structure FrameWriter (α β : Type*) where
  /-- Everything put on the stream so far. -/
  out : List β := []
  /-- The completed messages with their frames, oldest first. -/
  sent : List (α × List β) := []
  /-- The frame in progress; the lock is free when there is none. -/
  current : Option (Pending α β) := none

/-- What can happen to the stream. -/
inductive WriterAction (α β : Type*)
  /-- Take the lock and start a frame. -/
  | start (message : α) (frame : List β)
  /-- Put the next `n` elements of the frame out. -/
  | put (n : ℕ)
  /-- Drop the frame in progress and release the lock. -/
  | cut

namespace FrameWriter

/-- Take the lock and start a frame. -/
def start (w : FrameWriter α β) (message : α) (frame : List β) : Option (FrameWriter α β) :=
  match w.current with
  | some _ => none
  | none => if h : frame ≠ [] then some { w with current := some ⟨message, [], frame, h⟩ } else none

/-- Put the next `n` elements out; with the last of them the frame is complete and the lock is
released. -/
def put (w : FrameWriter α β) (n : ℕ) : Option (FrameWriter α β) :=
  match w.current with
  | none => none
  | some p =>
      if n = 0 then none
      else if h : n < p.todo.length then
        some { w with
          out := w.out ++ p.todo.take n
          current := some ⟨p.message, p.done ++ p.todo.take n, p.todo.drop n, by
            simpa [List.drop_eq_nil_iff] using h⟩ }
      else if n = p.todo.length then
        some { out := w.out ++ p.todo
               sent := w.sent ++ [(p.message, p.done ++ p.todo)]
               current := none }
      else none

/-- Drop the frame in progress. -/
def cut (w : FrameWriter α β) : Option (FrameWriter α β) :=
  match w.current with
  | none => none
  | some _ => some { w with current := none }

/-- The writer as a machine. -/
def machine (α β : Type*) : Machine (FrameWriter α β) (WriterAction α β) where
  init := {}
  step w
    | .start m f => w.start m f
    | .put n => w.put n
    | .cut => w.cut

/-- The part of the frame in progress that is out. -/
def partialFrame (w : FrameWriter α β) : List β :=
  match w.current with
  | none => []
  | some p => p.done

/-- The stream is the completed frames and the part that is out of the frame in progress. -/
def Intact (w : FrameWriter α β) : Prop :=
  w.out = (w.sent.map Prod.snd).flatten ++ w.partialFrame

/-- The step does not drop a frame that is partly out. -/
def CutsNothing (w : FrameWriter α β) : WriterAction α β → Prop
  | .cut => w.partialFrame = []
  | _ => True

variable {w w' : FrameWriter α β} {message : α} {frame : List β} {n : ℕ}

/-! ## What a step does -/

theorem start_eq_some (h : w.start message frame = some w') :
    w.current = none ∧ ∃ hf : frame ≠ [],
      w' = { w with current := some ⟨message, [], frame, hf⟩ } := by
  unfold start at h
  rcases hc : w.current with _ | p
  · rw [hc] at h
    split_ifs at h with hf
    exact ⟨rfl, hf, (Option.some.inj h).symm⟩
  · rw [hc] at h
    simp at h

/-- A piece leaves the frame unfinished, or completes it. -/
theorem put_eq_some (h : w.put n = some w') :
    ∃ p, w.current = some p ∧ 0 < n ∧
      ((∃ hn : p.todo.drop n ≠ [],
          w' = { w with
            out := w.out ++ p.todo.take n
            current := some ⟨p.message, p.done ++ p.todo.take n, p.todo.drop n, hn⟩ }) ∨
        (n = p.todo.length ∧
          w' = { out := w.out ++ p.todo
                 sent := w.sent ++ [(p.message, p.done ++ p.todo)]
                 current := none })) := by
  unfold put at h
  rcases hc : w.current with _ | p
  · rw [hc] at h
    simp at h
  · rw [hc] at h
    simp only at h
    split_ifs at h with h0 hlt heq
    · exact ⟨p, rfl, by omega, .inl ⟨_, (Option.some.inj h).symm⟩⟩
    · exact ⟨p, rfl, by omega, .inr ⟨heq, (Option.some.inj h).symm⟩⟩

theorem cut_eq_some (h : w.cut = some w') :
    (∃ p, w.current = some p) ∧ w' = { w with current := none } := by
  unfold cut at h
  rcases hc : w.current with _ | p
  · rw [hc] at h
    simp at h
  · rw [hc] at h
    exact ⟨⟨p, rfl⟩, (Option.some.inj h).symm⟩

theorem Intact.start (hw : w.Intact) (h : w.start message frame = some w') : w'.Intact := by
  obtain ⟨hc, hf, rfl⟩ := start_eq_some h
  simpa [Intact, partialFrame, hc] using hw

theorem Intact.put (hw : w.Intact) (h : w.put n = some w') : w'.Intact := by
  obtain ⟨p, hc, -, ⟨hn, rfl⟩ | ⟨hn, rfl⟩⟩ := put_eq_some h
  · simp only [Intact, partialFrame, hc] at hw ⊢
    rw [hw, List.append_assoc]
  · simp only [Intact, partialFrame, hc] at hw ⊢
    simp [hw]

/-- **Exactly the harmless steps.** From an intact stream, a step leads to an intact stream iff
it does not drop a frame that is partly out. -/
theorem intact_step_iff {a : WriterAction α β} (hw : w.Intact)
    (h : (machine α β).step w a = some w') : w'.Intact ↔ w.CutsNothing a := by
  cases a with
  | start m f => exact iff_of_true (hw.start h) trivial
  | put n => exact iff_of_true (hw.put h) trivial
  | cut =>
      obtain ⟨-, rfl⟩ := cut_eq_some h
      simp only [Intact, CutsNothing] at hw ⊢
      rw [hw]
      simp [partialFrame]

end FrameWriter

/-! ## Reading back -/

/-- Read messages until the bytes do not parse; at most `fuel` of them. -/
def parseMany (parse : List β → Option (α × List β)) : ℕ → List β → List α × List β
  | 0, bytes => ([], bytes)
  | fuel + 1, bytes =>
      match parse bytes with
      | none => ([], bytes)
      | some (a, rest) => (a :: (parseMany parse fuel rest).1, (parseMany parse fuel rest).2)

/-- Nothing is read only if nothing is taken. -/
theorem snd_parseMany {parse : List β → Option (α × List β)} {fuel : ℕ} {bytes : List β}
    (h : (parseMany parse fuel bytes).1 = []) : (parseMany parse fuel bytes).2 = bytes := by
  cases fuel with
  | zero => rfl
  | succ fuel =>
      unfold parseMany at h ⊢
      split at h
      · rfl
      · simp at h

/-- Whole frames at the front of a stream are read first. -/
theorem parseMany_append {parse : List β → Option (α × List β)} (frames : List (α × List β))
    (hparse : ∀ f ∈ frames, ∀ r, parse (f.2 ++ r) = some (f.1, r)) (fuel : ℕ) (rest : List β) :
    parseMany parse (fuel + frames.length) ((frames.map Prod.snd).flatten ++ rest) =
      (frames.map Prod.fst ++ (parseMany parse fuel rest).1, (parseMany parse fuel rest).2) := by
  induction frames with
  | nil => rfl
  | cons f frames ih =>
      have hf := hparse f List.mem_cons_self ((frames.map Prod.snd).flatten ++ rest)
      have := ih fun g hg => hparse g (List.mem_cons_of_mem _ hg)
      simp only [List.map_cons, List.flatten_cons, List.append_assoc, List.length_cons,
        ← Nat.add_assoc, parseMany, hf, this, List.cons_append]

/-- A stream of whole frames followed by something that does not parse reads back as those
messages and that rest. -/
theorem parseMany_flatten {parse : List β → Option (α × List β)} {rest : List β}
    (hrest : parse rest = none) (frames : List (α × List β))
    (hparse : ∀ f ∈ frames, ∀ r, parse (f.2 ++ r) = some (f.1, r))
    {fuel : ℕ} (hfuel : frames.length ≤ fuel) :
    parseMany parse fuel ((frames.map Prod.snd).flatten ++ rest) =
      (frames.map Prod.fst, rest) := by
  have hnone : ∀ n, parseMany parse n rest = ([], rest) := by
    rintro (_ | n)
    · rfl
    · rw [parseMany, hrest]
  obtain ⟨n, rfl⟩ := Nat.exists_eq_add_of_le' hfuel
  rw [parseMany_append frames hparse, hnone, List.append_nil]

end AdbHub.Lib
