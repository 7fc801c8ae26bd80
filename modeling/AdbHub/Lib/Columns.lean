import AdbHub.Lib.Text

/-!
# Text of lines and columns

What is written line by line, in columns that are words, is read back line by line and word by word.

* `unlines` — every line with a newline behind it; `lines_unlines` reads the lines back, up to a
  carriage return at the end of a line.
* `IsWord` — a non-empty text without whitespace; `isWord_of_mem_splitWhitespace`.
* `splitWhitespace_row`, `splitWhitespace_join` — the columns of a row.
-/

namespace AdbHub.Lib

/-! ## Lines -/

/-- The lines with a newline behind each. -/
def unlines (ls : List String) : String := ls.foldl (fun out line => out ++ line ++ "\n") ""

theorem toList_unlines (ls : List String) :
    (unlines ls).toList = ls.flatMap fun line => line.toList ++ ['\n'] := by
  have h : ∀ out : String, (ls.foldl (fun out line => out ++ line ++ "\n") out).toList =
      out.toList ++ ls.flatMap fun line => line.toList ++ ['\n'] := by
    induction ls with
    | nil => simp
    | cons line ls ih =>
        intro out
        rw [List.foldl_cons, ih]
        simp
  simpa [unlines] using h ""

/-- A piece ends at the first newline. -/
theorem splitInclusive_append {line : List Char} (h : '\n' ∉ line) (rest : List Char) :
    splitInclusive (line ++ '\n' :: rest) = (line ++ ['\n']) :: splitInclusive rest := by
  induction line with
  | nil => simp [splitInclusive]
  | cons c line ih =>
      have hc : c ≠ '\n' := fun heq => h (heq ▸ List.mem_cons_self)
      rw [List.cons_append, splitInclusive, if_neg hc,
        ih fun hmem => h (List.mem_cons_of_mem _ hmem)]
      rfl

/-- There is no newline in a piece but the one at its end. -/
theorem exists_line_of_mem_splitInclusive {cs piece : List Char} (h : piece ∈ splitInclusive cs) :
    ∃ line, '\n' ∉ line ∧ (piece = line ∨ piece = line ++ ['\n']) := by
  induction cs generalizing piece with
  | nil => cases h
  | cons c cs ih =>
      unfold splitInclusive at h
      split_ifs at h with hc
      · rcases List.mem_cons.mp h with rfl | hmem
        · exact ⟨[], List.not_mem_nil, .inr (by rw [hc]; rfl)⟩
        · exact ih hmem
      · rcases hrest : splitInclusive cs with _ | ⟨first, pieces⟩
        · rw [hrest] at h
          obtain rfl := List.mem_singleton.mp h
          exact ⟨[c], by simpa using Ne.symm hc, .inl rfl⟩
        · rw [hrest] at h ih
          rcases List.mem_cons.mp h with rfl | hmem
          · obtain ⟨line, hline, hfirst⟩ := ih List.mem_cons_self
            refine ⟨c :: line, by simpa using ⟨Ne.symm hc, hline⟩, ?_⟩
            rcases hfirst with rfl | rfl
            · exact .inl rfl
            · exact .inr rfl
          · exact ih (List.mem_cons_of_mem _ hmem)

/-- A line without the carriage return at its end. -/
def stripCr (line : String) : String := String.ofList (stripLineEnding (line.toList ++ ['\n']))

/-- Nothing but a carriage return is stripped. -/
theorem stripCr_cases (line : String) :
    stripCr line = line ∨ line.toList = (stripCr line).toList ++ ['\r'] := by
  unfold stripCr stripLineEnding
  rw [List.reverse_append]
  rcases hline : line.toList.reverse with _ | ⟨c, rest⟩
  · left
    have hnil : line.toList = [] := by simpa using hline
    exact String.toList_inj.mp (by simp [hnil])
  · have hlist : line.toList = rest.reverse ++ [c] := by
      simpa using congrArg List.reverse hline
    by_cases hc : c = '\r'
    · subst hc
      right
      simpa using hlist
    · left
      refine String.toList_inj.mp ?_
      simp [hc, hlist]

/-- **The lines are read back.** -/
theorem lines_unlines {ls : List String} (h : ∀ line ∈ ls, '\n' ∉ line.toList) :
    lines (unlines ls) = ls.map stripCr := by
  have hsplit : splitInclusive (ls.flatMap fun line => line.toList ++ ['\n']) =
      ls.map fun line => line.toList ++ ['\n'] := by
    induction ls with
    | nil => rfl
    | cons line ls ih =>
        rw [List.flatMap_cons, List.append_assoc, List.singleton_append,
          splitInclusive_append (h line List.mem_cons_self),
          ih fun l hl => h l (List.mem_cons_of_mem _ hl), List.map_cons]
  unfold lines
  rw [toList_unlines, hsplit, List.map_map]
  rfl

/-- The pieces between newlines contain none. -/
theorem newline_not_mem_of_mem_lines {s line : String} (h : line ∈ lines s) :
    '\n' ∉ line.toList := by
  obtain ⟨piece, hpiece, rfl⟩ := List.mem_map.mp h
  obtain ⟨text, htext, heq | heq⟩ := exists_line_of_mem_splitInclusive hpiece
  · have hstrip : stripLineEnding text = text := by
      unfold stripLineEnding
      split
      · rename_i rest hrev
        exact absurd (List.mem_reverse.mp (hrev ▸ List.mem_cons_self)) htext
      · rename_i rest _ hrev
        exact absurd (List.mem_reverse.mp (hrev ▸ List.mem_cons_self)) htext
      · rfl
    rwa [heq, String.toList_ofList, hstrip]
  · intro hmem
    have hstrip : String.ofList (stripLineEnding piece) = stripCr (String.ofList text) := by
      unfold stripCr
      rw [heq, String.toList_ofList]
    rw [hstrip] at hmem
    rcases stripCr_cases (String.ofList text) with hsame | hcr
    · rw [hsame, String.toList_ofList] at hmem
      exact htext hmem
    · rw [String.toList_ofList] at hcr
      exact htext (hcr ▸ List.mem_append_left _ hmem)

/-! ## Trimming -/

theorem toList_trim (s : String) :
    (trim s).toList = (s.toList.dropWhile isWhitespace).rdropWhile isWhitespace := by
  unfold trim
  rw [String.toList_ofList]
  rfl

/-- Whitespace at the end makes no difference. -/
theorem trim_eq_of_append {s t : String} {c : Char} (h : t.toList = s.toList ++ [c])
    (hc : isWhitespace c = true) : trim t = trim s := by
  refine String.toList_inj.mp ?_
  rw [toList_trim, toList_trim, h, List.dropWhile_append]
  split_ifs with hempty
  · rw [List.isEmpty_iff] at hempty
    simp [hempty, hc]
  · exact List.rdropWhile_concat_pos _ _ _ hc

@[simp] theorem trim_stripCr (line : String) : trim (stripCr line) = trim line := by
  rcases stripCr_cases line with hsame | hcr
  · rw [hsame]
  · exact (trim_eq_of_append hcr (by decide)).symm

/-- A text that neither begins nor ends with whitespace is trimmed already. -/
theorem trim_eq_self {s : String} (hhead : ∀ c ∈ s.toList.head?, isWhitespace c = false)
    (hlast : ∀ c ∈ s.toList.getLast?, isWhitespace c = false) : trim s = s := by
  refine String.toList_inj.mp ?_
  rw [toList_trim]
  have hdrop : s.toList.dropWhile isWhitespace = s.toList := by
    rcases hs : s.toList with _ | ⟨c, cs⟩
    · rfl
    · rw [hs] at hhead
      exact List.dropWhile_cons_of_neg (by simpa using hhead c rfl)
  rw [hdrop, List.rdropWhile_eq_self_iff]
  intro hne
  simpa using hlast _ (List.getLast?_eq_some_getLast hne)

/-- A trimmed text does not begin with whitespace. -/
theorem head_trim {s : String} {c : Char} (h : c ∈ (trim s).toList.head?) :
    isWhitespace c = false := by
  rw [toList_trim] at h
  have hprefix := List.rdropWhile_prefix isWhitespace (l := s.toList.dropWhile isWhitespace)
  obtain ⟨rest, hrest⟩ := hprefix
  have hhead : (s.toList.dropWhile isWhitespace).head? = some c := by
    rw [← hrest, List.head?_append, h]
    rfl
  have hne : s.toList.dropWhile isWhitespace ≠ [] := by
    rintro hnil
    rw [hnil] at hhead
    cases hhead
  have hnot := List.head_dropWhile_not isWhitespace hne
  rw [List.head?_eq_some_head hne] at hhead
  obtain rfl := Option.some.inj hhead
  simpa using hnot

/-! ## Words -/

/-- A non-empty text without whitespace. -/
def IsWord (w : String) : Prop := w ≠ "" ∧ ∀ c ∈ w.toList, isWhitespace c = false

theorem IsWord.toList_ne_nil {w : String} (h : IsWord w) : w.toList ≠ [] := by
  intro hnil
  exact h.1 (String.toList_inj.mp (by simpa using hnil))

/-- The pieces between separators contain none. -/
theorem not_mem_of_mem_splitOnP {α : Type} {p : α → Bool} {xs piece : List α}
    (h : piece ∈ xs.splitOnP p) : ∀ x ∈ piece, p x = false := by
  induction xs generalizing piece with
  | nil =>
      rw [List.splitOnP_nil, List.mem_singleton] at h
      subst h
      exact fun x hx => absurd hx List.not_mem_nil
  | cons y ys ih =>
      rw [List.splitOnP_cons_eq_if_modifyHead] at h
      obtain ⟨first, pieces, hys⟩ := List.exists_cons_of_ne_nil (List.splitOnP_ne_nil p ys)
      rw [hys] at h ih
      split_ifs at h with hy
      · rcases List.mem_cons.mp h with rfl | hmem
        · exact fun x hx => absurd hx List.not_mem_nil
        · exact ih hmem
      · rcases List.mem_cons.mp h with rfl | hmem
        · intro x hx
          rcases List.mem_cons.mp hx with rfl | hx
          · simpa using hy
          · exact ih List.mem_cons_self x hx
        · exact ih (List.mem_cons_of_mem _ hmem)

theorem isWord_of_mem_splitWhitespace {s w : String} (h : w ∈ splitWhitespace s) : IsWord w := by
  unfold splitWhitespace at h
  obtain ⟨piece, hpiece, rfl⟩ := List.mem_map.mp h
  obtain ⟨hmem, hne⟩ := List.mem_filter.mp hpiece
  refine ⟨fun hempty => ?_, fun c hc => ?_⟩
  · have hnil : piece = [] := by simpa using congrArg String.toList hempty
    simp [hnil] at hne
  · rw [String.toList_ofList] at hc
    exact not_mem_of_mem_splitOnP hmem c hc

/-- The first word of a text that begins with it. -/
theorem head_splitWhitespace {s w : String} {ws : List String} {c : Char}
    (h : splitWhitespace s = w :: ws) (hc : c ∈ s.toList.head?) (hword : isWhitespace c = false) :
    c ∈ w.toList.head? := by
  unfold splitWhitespace at h
  obtain ⟨cs, hcs⟩ := List.head?_eq_some_iff.mp hc
  obtain ⟨first, pieces, hsplit⟩ :=
    List.exists_cons_of_ne_nil (List.splitOnP_ne_nil isWhitespace cs)
  rw [hcs, List.splitOnP_cons_eq_if_modifyHead, if_neg (by simpa using hword), hsplit] at h
  simp only [List.modifyHead_cons, List.filter_cons, ne_eq, reduceCtorEq, not_false_eq_true,
    decide_true, if_true, List.map_cons, List.cons.injEq] at h
  rw [← h.1, String.toList_ofList]
  rfl

theorem splitWhitespace_word {w : String} (h : IsWord w) : splitWhitespace w = [w] := by
  unfold splitWhitespace
  rw [List.splitOnP_eq_singleton h.2]
  simp [h.toList_ne_nil]

/-- **The first column of a row.** -/
theorem splitWhitespace_row {w : String} (h : IsWord w) {c : Char} (hc : isWhitespace c = true)
    (rest : String) :
    splitWhitespace (w ++ String.singleton c ++ rest) = w :: splitWhitespace rest := by
  unfold splitWhitespace
  have hlist : (w ++ String.singleton c ++ rest).toList = w.toList ++ c :: rest.toList := by simp
  rw [hlist, List.splitOnP_append_cons_of_forall_mem h.2 c hc]
  simp [h.toList_ne_nil]

/-- Words that are joined by spaces are split again. -/
theorem splitWhitespace_join {ws : List String} (h : ∀ w ∈ ws, IsWord w) :
    splitWhitespace (join " " ws) = ws := by
  induction ws with
  | nil => rfl
  | cons w ws ih =>
      have hw := h w List.mem_cons_self
      rcases ws with _ | ⟨v, ws⟩
      · exact splitWhitespace_word hw
      · have hrow := splitWhitespace_row hw (c := ' ') (by decide) (join " " (v :: ws))
        rw [ih fun u hu => h u (List.mem_cons_of_mem _ hu)] at hrow
        exact hrow

/-- What stands in a row of words is a space or stands in a word. -/
theorem mem_join {ws : List String} {c : Char} (h : c ∈ (join " " ws).toList) :
    c = ' ' ∨ ∃ w ∈ ws, c ∈ w.toList := by
  induction ws with
  | nil => simp [join] at h
  | cons w ws ih =>
      rcases ws with _ | ⟨v, ws⟩
      · exact .inr ⟨w, List.mem_singleton_self w, h⟩
      · simp only [join, String.toList_append, List.mem_append] at h
        rcases h with (hw | hsep) | hrest
        · exact .inr ⟨w, List.mem_cons_self, hw⟩
        · exact .inl (by simpa using hsep)
        · rcases ih hrest with hspace | ⟨u, hu, hc⟩
          · exact .inl hspace
          · exact .inr ⟨u, List.mem_cons_of_mem _ hu, hc⟩

/-- Joined words are empty only if there are none. -/
theorem join_eq_empty_iff {ws : List String} (h : ∀ w ∈ ws, IsWord w) :
    join " " ws = "" ↔ ws = [] := by
  constructor
  · intro hempty
    rw [← splitWhitespace_join h, hempty]
    rfl
  · rintro rfl
    rfl

/-- Joined words do not end with whitespace. -/
theorem getLast_join {ws : List String} (h : ∀ w ∈ ws, IsWord w) {c : Char}
    (hc : c ∈ (join " " ws).toList.getLast?) : isWhitespace c = false := by
  induction ws with
  | nil => cases hc
  | cons w ws ih =>
      rcases ws with _ | ⟨v, ws⟩
      · exact (h w List.mem_cons_self).2 c (List.mem_of_getLast? hc)
      · have hrest : ∀ u ∈ v :: ws, IsWord u := fun u hu => h u (List.mem_cons_of_mem _ hu)
        have hne : (join " " (v :: ws)).toList ≠ [] := by
          intro hnil
          have hempty : join " " (v :: ws) = "" := String.toList_inj.mp (by simpa using hnil)
          exact List.cons_ne_nil _ _ ((join_eq_empty_iff hrest).mp hempty)
        refine ih hrest ?_
        rw [join, String.toList_append, List.getLast?_append_of_ne_nil _ hne] at hc
        exact hc

theorem isWhitespace_of_isDigit {c : Char} (h : c.isDigit = true) : isWhitespace c = false := by
  have hrange : 48 ≤ c.toNat ∧ c.toNat ≤ 57 := Char.isDigit_iff_toNat.mp h
  simp [isWhitespace]
  omega

/-- A decimal numeral has no whitespace. -/
theorem isWhitespace_of_mem_repr {n : ℕ} {c : Char} (h : c ∈ n.repr.toList) :
    isWhitespace c = false := by
  apply isWhitespace_of_isDigit
  by_contra hnot
  exact not_mem_repr (by simpa using hnot) n h

/-! ## Texts put together -/

theorem join_eq_intercalate (sep : String) (ws : List String) : join sep ws = sep.intercalate ws := by
  induction ws with
  | nil => rfl
  | cons w ws ih =>
      rcases ws with _ | ⟨t, rest⟩
      · exact String.intercalate_singleton.symm
      · rw [join, ih, String.intercalate_cons_cons]

/-- What is split off is a part of the text. -/
theorem mem_of_mem_splitOn {α : Type} [DecidableEq α] {x c : α} {xs piece : List α}
    (h : piece ∈ xs.splitOn x) (hc : c ∈ piece) : c ∈ xs := by
  obtain ⟨i, hi⟩ := List.mem_iff_getElem?.mp h
  have hmem : piece ∈ (xs.splitOn x).intersperse [x] :=
    List.mem_of_getElem? (List.getElem?_intersperse_two_mul.trans hi)
  have hflat : c ∈ [x].intercalate (xs.splitOn x) := List.mem_flatten.mpr ⟨piece, hmem, hc⟩
  rwa [List.intercalate_splitOn] at hflat

end AdbHub.Lib
