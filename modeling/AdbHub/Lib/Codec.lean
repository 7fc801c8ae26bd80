import Mathlib.Tactic

/-!
# Items written to a stream and read back

A format writes one item after the other to a stream, and reads them off it one after the other.
A write may fail, because the stream is gone or because the item is refused.

* `Sink` — a stream that is written to; which writes fail is arbitrary.
* `ReadsBack` — if all writes succeed, as many reads return the items and take exactly the bytes
  written. `Refuses` — no write of an item outside a set succeeds.
* `Format` — what a writer and a reader have to agree on, with the set of items that fit it.
* **`Format.readsBack_iff`** and **`Format.refuses_iff`** — items that can be encoded read back
  exactly if they fit, where the reader notices the others; the others are refused exactly if they
  cannot be encoded.
-/

namespace AdbHub.Lib

variable {ε δ α β γ : Type*}

/-- A stream that is written to. -/
structure Sink (γ : Type*) where
  /-- Everything written so far. -/
  out : List γ
  /-- Whether writing the second argument after the first one fails, and with what text. -/
  fault : List γ → List γ → Option String

/-- A stream on which every write succeeds. -/
def Sink.faultless (out : List γ) : Sink γ := ⟨out, fun _ _ => none⟩

/-- Write all of some bytes, or fail. -/
def Sink.writeAll (w : Sink γ) (bytes : List γ) : Except String (Sink γ) :=
  match w.fault w.out bytes with
  | some text => .error text
  | none => .ok { w with out := w.out ++ bytes }

/-- Write one item after the other. -/
def writeMany (write : β → Sink γ → Except ε (Sink γ)) :
    List β → Sink γ → Except ε (Sink γ)
  | [], w => .ok w
  | x :: xs, w => do
      let w ← write x w
      writeMany write xs w

/-- The results of `n` calls of a reader on one stream, and what is left of it. -/
def readTimes (read : List γ → Except δ α × List γ) : ℕ → List γ → List (Except δ α) × List γ
  | 0, s => ([], s)
  | n + 1, s => ((read s).1 :: (readTimes read n (read s).2).1, (readTimes read n (read s).2).2)

/-- What was written reads back: if all writes succeed, as many reads return the items and take
exactly the bytes written, whatever follows them. -/
def ReadsBack (write : β → Sink γ → Except ε (Sink γ)) (read : List γ → Except δ α × List γ)
    (result : β → Except δ α) (xs : List β) : Prop :=
  ∀ w w', writeMany write xs w = .ok w' → ∃ bytes, w'.out = w.out ++ bytes ∧
    ∀ rest, readTimes read xs.length (bytes ++ rest) = (xs.map result, rest)

/-- No write of an item that does not fit succeeds. -/
def Refuses (write : β → Sink γ → Except ε (Sink γ)) (fits : β → Prop) (xs : List β) : Prop :=
  ∀ x ∈ xs, ¬ fits x → ∀ w, ∃ e, write x w = .error e

/-! ## Writing -/

theorem Sink.writeAll_ok {bytes : List γ} {w w' : Sink γ} (h : w.writeAll bytes = .ok w') :
    w' = { w with out := w.out ++ bytes } := by
  unfold Sink.writeAll at h
  rcases hf : w.fault w.out bytes with _ | text
  · rw [hf] at h
    exact (Except.ok.inj h).symm
  · rw [hf] at h
    simp at h

@[simp] theorem Sink.writeAll_faultless (out bytes : List γ) :
    (Sink.faultless out).writeAll bytes = .ok (Sink.faultless (out ++ bytes)) := rfl

/-- Two writes in a row write both texts. -/
theorem Sink.bind_ok {x : Except ε (Sink γ)} {f : Sink γ → Except ε (Sink γ)}
    {a b : List γ} {w w' : Sink γ} (hx : ∀ u, x = .ok u → u = { w with out := w.out ++ a })
    (hf : ∀ u, f u = .ok w' → w' = { u with out := u.out ++ b })
    (h : (x >>= f) = .ok w') : w' = { w with out := w.out ++ (a ++ b) } := by
  rcases hu : x with e | u
  · rw [hu] at h
    simp [bind, Except.bind] at h
  · rw [hu] at h
    rw [hf u h, hx u hu, List.append_assoc]

/-! ## Formats -/

/-- A writer and a reader that agree on the items that fit: what an item is written as, if it can
be encoded at all, and what reading it gives. -/
structure Format (write : β → Sink γ → Except ε (Sink γ))
    (read : List γ → Except δ α × List γ) (result : β → Except δ α) (fits : β → Prop) where
  encode : β → Option (List γ)
  write_ok : ∀ {x w w'}, write x w = .ok w' →
    ∃ bytes, encode x = some bytes ∧ w' = { w with out := w.out ++ bytes }
  write_faultless : ∀ {x bytes}, encode x = some bytes → ∀ out,
    write x (.faultless out) = .ok (.faultless (out ++ bytes))
  read_fits : ∀ {x bytes}, encode x = some bytes → fits x →
    ∀ rest, read (bytes ++ rest) = (result x, rest)

namespace Format

variable {write : β → Sink γ → Except ε (Sink γ)} {read : List γ → Except δ α × List γ}
  {result : β → Except δ α} {fits : β → Prop} (F : Format write read result fits) {xs : List β}

include F

/-- Writes that all succeed put the encoded items out. -/
theorem writeMany_ok {w w' : Sink γ} (h : writeMany write xs w = .ok w') :
    ∃ texts : List (List γ), xs.map F.encode = texts.map some ∧
      w' = { w with out := w.out ++ texts.flatten } := by
  induction xs generalizing w with
  | nil =>
      obtain rfl := Except.ok.inj h
      exact ⟨[], rfl, by simp⟩
  | cons x xs ih =>
      unfold writeMany at h
      rcases hx : write x w with e | u
      · rw [hx] at h
        simp [bind, Except.bind] at h
      · rw [hx] at h
        obtain ⟨bytes, hbytes, rfl⟩ := F.write_ok hx
        obtain ⟨texts, htexts, rfl⟩ := ih h
        exact ⟨bytes :: texts, by simp [hbytes, htexts], by simp⟩

/-- Encodable items are written where no write fails. -/
theorem writeMany_faultless {texts : List (List γ)} (h : xs.map F.encode = texts.map some)
    (out : List γ) :
    writeMany write xs (.faultless out) = .ok (.faultless (out ++ texts.flatten)) := by
  induction xs generalizing texts out with
  | nil =>
      obtain rfl : texts = [] := by simpa using h.symm
      simp [writeMany]
  | cons x xs ih =>
      rcases texts with _ | ⟨bytes, texts⟩
      · simp at h
      · obtain ⟨hx, hxs⟩ := List.cons.inj h
        unfold writeMany
        simp only [F.write_faultless hx, bind, Except.bind, ih hxs]
        simp

/-- Encoded items that fit are read one after the other. -/
theorem readTimes_of_fits {texts : List (List γ)} (h : xs.map F.encode = texts.map some)
    (hfits : ∀ x ∈ xs, fits x) (rest : List γ) :
    readTimes read xs.length (texts.flatten ++ rest) = (xs.map result, rest) := by
  induction xs generalizing texts with
  | nil =>
      obtain rfl : texts = [] := by simpa using h.symm
      rfl
  | cons x xs ih =>
      rcases texts with _ | ⟨bytes, texts⟩
      · simp at h
      · obtain ⟨hx, hxs⟩ := List.cons.inj h
        rw [List.forall_mem_cons] at hfits
        rw [List.flatten_cons, List.append_assoc, List.length_cons, readTimes,
          F.read_fits hx hfits.1, ih hxs hfits.2, List.map_cons]

theorem readsBack_of_fits (hfits : ∀ x ∈ xs, fits x) : ReadsBack write read result xs := by
  intro w w' h
  obtain ⟨texts, htexts, rfl⟩ := F.writeMany_ok h
  exact ⟨texts.flatten, rfl, F.readTimes_of_fits htexts hfits⟩

/-- An item that does not fit spoils what is read, if the reader notices it. -/
theorem fits_of_readTimes
    (hunfit : ∀ x bytes, F.encode x = some bytes → ¬ fits x →
      ∀ rest, (read (bytes ++ rest)).1 ≠ result x)
    {texts : List (List γ)} (h : xs.map F.encode = texts.map some) {rest : List γ}
    (hread : readTimes read xs.length (texts.flatten ++ rest) = (xs.map result, rest)) :
    ∀ x ∈ xs, fits x := by
  induction xs generalizing texts with
  | nil => simp
  | cons x xs ih =>
      rcases texts with _ | ⟨bytes, texts⟩
      · simp at h
      · obtain ⟨hx, hxs⟩ := List.cons.inj h
        rw [List.flatten_cons, List.append_assoc, List.length_cons, readTimes, List.map_cons] at hread
        obtain ⟨hresults, hrest⟩ := Prod.mk.inj hread
        obtain ⟨hhead, htail⟩ := List.cons.inj hresults
        have hfit : fits x := by
          by_contra hno
          exact hunfit x bytes hx hno _ hhead
        rw [F.read_fits hx hfit] at htail hrest
        rw [List.forall_mem_cons]
        exact ⟨hfit, ih hxs (Prod.ext htail hrest)⟩

/-- **What reads back.** Items that can be encoded read back exactly if all of them fit, provided
the reader notices the others. -/
theorem readsBack_iff
    (hunfit : ∀ x bytes, F.encode x = some bytes → ¬ fits x →
      ∀ rest, (read (bytes ++ rest)).1 ≠ result x)
    {texts : List (List γ)} (h : xs.map F.encode = texts.map some) :
    ReadsBack write read result xs ↔ ∀ x ∈ xs, fits x := by
  constructor
  · intro hback
    obtain ⟨bytes, hbytes, hread⟩ := hback _ _ (F.writeMany_faultless h [])
    obtain rfl : texts.flatten = bytes := by simpa [Sink.faultless] using hbytes
    exact F.fits_of_readTimes hunfit h (hread [])
  · exact F.readsBack_of_fits

/-- **What is refused.** The items that do not fit are refused exactly if none of them can be
encoded. -/
theorem refuses_iff :
    Refuses write fits xs ↔ ∀ x ∈ xs, (F.encode x).isSome → fits x := by
  constructor
  · intro h x hx hsome
    by_contra hno
    obtain ⟨bytes, hbytes⟩ := Option.isSome_iff_exists.mp hsome
    obtain ⟨e, he⟩ := h x hx hno (.faultless [])
    rw [F.write_faultless hbytes] at he
    simp at he
  · intro h x hx hno w
    rcases hw : write x w with e | w'
    · exact ⟨e, rfl⟩
    · obtain ⟨bytes, hbytes, -⟩ := F.write_ok hw
      exact absurd (h x hx (by simp [hbytes])) hno

end Format

end AdbHub.Lib
