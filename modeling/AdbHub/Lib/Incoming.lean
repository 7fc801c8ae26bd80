import Mathlib.Tactic

/-!
# Items that arrive in pieces

A stream delivers its items in pieces of any length, and ends or fails at some point.

* `Incoming` — the pieces that are still to come, and what comes after them.
* `fill` — fill a buffer by one read after the other, and `Incoming.readExact`.
* **`fst_fill`** and **`flatten_snd_fill`** — how the items are cut into pieces makes no
  difference: the buffer gets the first items of the whole stream, the others stay.
-/

namespace AdbHub.Lib

variable {β ε : Type*}

/-- A stream that is read: the pieces still to come, and what ends it. -/
structure Incoming (β ε : Type*) where
  pieces : List (List β)
  /-- The error behind the last piece; without one the stream ends there. -/
  failure : Option ε

/-- Everything that still comes. -/
def Incoming.items (s : Incoming β ε) : List β := s.pieces.flatten

/-- Fill a buffer of `n` items. A read takes what one piece has, at most as much as still fits. -/
def fill : ℕ → List (List β) → Option (List β) × List (List β)
  | n, [] => if n = 0 then (some [], []) else (none, [])
  | n, p :: ps =>
      if n = 0 then (some [], p :: ps)
      else if p.length ≤ n then
        ((fill (n - p.length) ps).1.map (p ++ ·), (fill (n - p.length) ps).2)
      else (some (p.take n), p.drop n :: ps)

/-- `AsyncReadExt::read_exact`: a stream that ends before gives `eof`, one that fails its error. -/
def Incoming.readExact (eof : ε) (n : ℕ) (s : Incoming β ε) :
    Except ε (List β) × Incoming β ε :=
  match fill n s.pieces with
  | (some items, rest) => (.ok items, { s with pieces := rest })
  | (none, rest) => (.error (s.failure.getD eof), { s with pieces := rest })

/-- **The pieces make no difference** to what is read. -/
theorem fst_fill (n : ℕ) (ps : List (List β)) :
    (fill n ps).1 = if ps.flatten.length < n then none else some (ps.flatten.take n) := by
  induction ps generalizing n with
  | nil => cases n <;> simp [fill]
  | cons p ps ih =>
      unfold fill
      by_cases h0 : n = 0
      · simp [h0]
      · rw [if_neg h0]
        by_cases hp : p.length ≤ n
        · rw [if_pos hp]
          simp only [ih, List.flatten_cons, List.length_append]
          by_cases hlt : ps.flatten.length < n - p.length
          · rw [if_pos hlt, if_pos (by omega), Option.map_none]
          · rw [if_neg hlt, if_neg (by omega), Option.map_some, List.take_append,
              List.take_of_length_le hp]
        · rw [if_neg hp, if_neg (by rw [List.flatten_cons, List.length_append]; omega),
            List.flatten_cons, List.take_append_of_le_length (by omega)]

/-- **Nor to what is left.** -/
theorem flatten_snd_fill (n : ℕ) (ps : List (List β)) :
    (fill n ps).2.flatten = ps.flatten.drop n := by
  induction ps generalizing n with
  | nil => cases n <;> simp [fill]
  | cons p ps ih =>
      unfold fill
      by_cases h0 : n = 0
      · simp [h0]
      · rw [if_neg h0]
        by_cases hp : p.length ≤ n
        · rw [if_pos hp]
          simp only [ih, List.flatten_cons, List.drop_append, List.drop_of_length_le hp,
            List.nil_append]
        · rw [if_neg hp]
          simp only [List.flatten_cons]
          rw [List.drop_append_of_le_length (by omega)]

/-- What is read exactly is the front of the stream. -/
theorem Incoming.readExact_ok {eof : ε} {n : ℕ} {s t : Incoming β ε} {items : List β}
    (h : s.readExact eof n = (.ok items, t)) :
    items.length = n ∧ s.items = items ++ t.items ∧ t.failure = s.failure := by
  have hfst := fst_fill n s.pieces
  have hsnd := flatten_snd_fill n s.pieces
  unfold readExact at h
  rcases hf : fill n s.pieces with ⟨_ | read, rest⟩
  · rw [hf] at h
    simp at h
  · rw [hf] at h hfst hsnd
    obtain ⟨hread, rfl⟩ := Prod.mk.inj h
    obtain rfl := Except.ok.inj hread
    simp only at hfst hsnd
    split_ifs at hfst with hlt
    obtain rfl := Option.some.inj hfst
    unfold items
    refine ⟨?_, ?_, rfl⟩
    · rw [List.length_take]
      omega
    · rw [hsnd, List.take_append_drop]

/-- The front of the stream is read if it is long enough. -/
theorem Incoming.readExact_of_items (eof : ε) {s : Incoming β ε} {front rest : List β}
    (h : s.items = front ++ rest) :
    ∃ t : Incoming β ε, s.readExact eof front.length = (.ok front, t) ∧ t.items = rest := by
  unfold items at h
  have hfst := fst_fill front.length s.pieces
  have hsnd := flatten_snd_fill front.length s.pieces
  have hlong : ¬ s.pieces.flatten.length < front.length := by
    rw [h, List.length_append]
    omega
  rw [if_neg hlong, h, List.take_left] at hfst
  rw [h, List.drop_left] at hsnd
  refine ⟨{ s with pieces := (fill front.length s.pieces).2 }, ?_, hsnd⟩
  unfold readExact
  rcases hf : fill front.length s.pieces with ⟨read, pieces⟩
  rw [hf] at hfst
  obtain rfl : read = some front := hfst
  rfl

end AdbHub.Lib
