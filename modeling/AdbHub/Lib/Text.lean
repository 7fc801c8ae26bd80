import Mathlib

/-!
# String slicing as in Rust's `str`

A Rust `str` is a sequence of Unicode scalar values, and so is a Lean `String`; the operations
below work on the list of characters of the string and follow the documented behaviour of the
`str` method they are named after. All of them are structurally recursive.

* `stripPrefix`, `splitOnce` — with their exact characterisations `stripPrefix_eq_some_iff` and
  `splitOnce_eq_some_iff`.
* `trim`, `lines`, `splitWhitespace` — the line and column splitting used on device lists.
* `debugStr` — a text in quotes, as errors show it.
* Decimal rendering: `Nat.repr` is injective and never contains a given non-digit
  (`not_mem_repr`), so a suffix `":" ++ n.repr` can be read back (`append_repr_inj`).
-/

namespace AdbHub.Lib

/-! ## Prefixes -/

/-- `str::strip_prefix`: the rest of `s` after the given prefix, if `s` starts with it. -/
def stripPrefix (s pre : String) : Option String :=
  if pre.toList <+: s.toList then some (String.ofList (s.toList.drop pre.toList.length))
  else none

/-- `str::starts_with`. -/
def startsWith (s pre : String) : Bool := decide (pre.toList <+: s.toList)

theorem startsWith_iff {s pre : String} : startsWith s pre = true ↔ ∃ r, s = pre ++ r := by
  simp only [startsWith, decide_eq_true_eq]
  constructor
  · rintro ⟨t, ht⟩
    exact ⟨String.ofList t, String.toList_inj.mp (by simp [ht])⟩
  · rintro ⟨r, rfl⟩
    exact ⟨r.toList, by simp⟩

theorem stripPrefix_eq_some_iff {s pre r : String} :
    stripPrefix s pre = some r ↔ s = pre ++ r := by
  unfold stripPrefix
  constructor
  · intro h
    split_ifs at h with hp
    obtain ⟨t, ht⟩ := hp
    obtain rfl := Option.some.inj h
    exact String.toList_inj.mp (by simp [← ht])
  · rintro rfl
    have hp : pre.toList <+: (pre ++ r).toList := ⟨r.toList, by simp⟩
    rw [if_pos hp]
    exact congrArg some (String.toList_inj.mp (by simp))

@[simp] theorem stripPrefix_append (pre r : String) : stripPrefix (pre ++ r) pre = some r :=
  stripPrefix_eq_some_iff.mpr rfl

theorem stripPrefix_eq_none_iff {s pre : String} :
    stripPrefix s pre = none ↔ ∀ r, s ≠ pre ++ r := by
  rw [Option.eq_none_iff_forall_ne_some]
  exact forall_congr' fun r => not_congr stripPrefix_eq_some_iff

/-- Two strings whose characters differ at some position are not extended to equal strings. -/
theorem append_ne_of_not_prefix {p q : String} (h : ¬ p.toList <+: q.toList)
    (h' : ¬ q.toList <+: p.toList) (r t : String) : p ++ r ≠ q ++ t := by
  intro heq
  have hl : p.toList ++ r.toList = q.toList ++ t.toList := by
    rw [← String.toList_append, ← String.toList_append, heq]
  rcases List.append_eq_append_iff.mp hl with ⟨u, hu, -⟩ | ⟨u, hu, -⟩
  · exact h ⟨u, hu.symm⟩
  · exact h' ⟨u, hu.symm⟩

/-- A prefix that disagrees with the beginning of the string is not stripped. -/
theorem stripPrefix_append_eq_none {p q : String} (h : ¬ p.toList <+: q.toList)
    (h' : ¬ q.toList <+: p.toList) (r : String) : stripPrefix (q ++ r) p = none :=
  stripPrefix_eq_none_iff.mpr fun t => append_ne_of_not_prefix h' h r t

/-! ## Splitting at a character -/

/-- `str::split_once` with a character pattern: the parts before and after the first
occurrence of `c`. -/
def splitOnce (s : String) (c : Char) : Option (String × String) :=
  match s.toList.dropWhile (· ≠ c) with
  | [] => none
  | _ :: rest => some (String.ofList (s.toList.takeWhile (· ≠ c)), String.ofList rest)

theorem dropWhile_ne_append {c : Char} {a : List Char} (ha : c ∉ a) (b : List Char) :
    (a ++ c :: b).dropWhile (· ≠ c) = c :: b ∧ (a ++ c :: b).takeWhile (· ≠ c) = a := by
  induction a with
  | nil => simp
  | cons x a ih =>
      have hx : x ≠ c := fun h => ha (by simp [h])
      have := ih fun h => ha (List.mem_cons_of_mem _ h)
      simpa [hx] using this

/-- `split_once` succeeds exactly with the decomposition at the first occurrence. -/
theorem splitOnce_eq_some_iff {s a b : String} {c : Char} :
    splitOnce s c = some (a, b) ↔ s = a ++ String.singleton c ++ b ∧ c ∉ a.toList := by
  unfold splitOnce
  constructor
  · intro h
    rcases hd : s.toList.dropWhile (· ≠ c) with _ | ⟨x, rest⟩
    · rw [hd] at h
      simp at h
    · rw [hd] at h
      simp only [Option.some.injEq, Prod.mk.injEq] at h
      obtain ⟨rfl, rfl⟩ := h
      have hx : x = c := by
        have hne : s.toList.dropWhile (· ≠ c) ≠ [] := by rw [hd]; simp
        have := List.head_dropWhile_not (· ≠ c) hne
        simp only [hd, List.head_cons] at this
        simpa using this
      subst hx
      refine ⟨String.toList_inj.mp ?_, ?_⟩
      · have := List.takeWhile_append_dropWhile (p := (· ≠ x)) (l := s.toList)
        rw [hd] at this
        simpa using this.symm
      · intro hm
        have := List.mem_takeWhile_imp (by simpa using hm)
        simp at this
  · rintro ⟨rfl, hc⟩
    have hl : (a ++ String.singleton c ++ b).toList = a.toList ++ c :: b.toList := by simp
    obtain ⟨hd, ht⟩ := dropWhile_ne_append hc b.toList
    rw [hl, hd, ht]
    simp

theorem splitOnce_append {a : String} {c : Char} (ha : c ∉ a.toList) (b : String) :
    splitOnce (a ++ String.singleton c ++ b) c = some (a, b) :=
  splitOnce_eq_some_iff.mpr ⟨rfl, ha⟩

/-- What stands before the first `c`, or everything. -/
theorem elim_splitOnce (s : String) (c : Char) :
    (splitOnce s c).elim s Prod.fst = String.ofList (s.toList.takeWhile (· ≠ c)) := by
  unfold splitOnce
  rcases hrest : s.toList.dropWhile (· ≠ c) with _ | ⟨d, rest⟩
  · have hall := List.takeWhile_append_dropWhile (p := (· ≠ c)) (l := s.toList)
    rw [hrest, List.append_nil] at hall
    rw [hall, String.ofList_toList]
    rfl
  · rfl

/-- A string that contains `c` splits, and its first part is a proper prefix of it. -/
theorem exists_eq_append_of_mem {s : String} {c : Char} (h : c ∈ s.toList) :
    ∃ a b, s = a ++ String.singleton c ++ b ∧ c ∉ a.toList := by
  obtain ⟨l₁, l₂, hl, hc⟩ := List.eq_append_cons_of_mem h
  exact ⟨String.ofList l₁, String.ofList l₂, String.toList_inj.mp (by simp [hl]), by simpa using hc⟩

/-- Two texts joined by `c` are equal if their parts are, or if one of the first parts goes on
behind a `c` where the other second part begins. -/
theorem append_singleton_append_eq_iff {a b x y : String} {c : Char} :
    a ++ String.singleton c ++ x = b ++ String.singleton c ++ y ↔
      (a = b ∧ x = y) ∨
        (∃ t, a = b ++ String.singleton c ++ t ∧ y = t ++ String.singleton c ++ x) ∨
          ∃ t, b = a ++ String.singleton c ++ t ∧ x = t ++ String.singleton c ++ y := by
  constructor
  · intro h
    have hl : a.toList ++ c :: x.toList = b.toList ++ c :: y.toList := by
      have hlist := congrArg String.toList h
      simpa using hlist
    have hmeet : ∀ {p q u v : String} {w : List Char}, p.toList = q.toList ++ w →
        c :: v.toList = w ++ c :: u.toList →
          (p = q ∧ u = v) ∨ ∃ t, p = q ++ String.singleton c ++ t ∧
            v = t ++ String.singleton c ++ u := by
      intro p q u v w hp hv
      rcases w with _ | ⟨d, w⟩
      · refine .inl ⟨String.toList_inj.mp (by simpa using hp), String.toList_inj.mp ?_⟩
        simpa using hv.symm
      · obtain ⟨rfl, hv⟩ := List.cons.inj hv
        refine .inr ⟨String.ofList w, String.toList_inj.mp ?_, String.toList_inj.mp ?_⟩
        · simpa using hp
        · simpa using hv
    rcases List.append_eq_append_iff.mp hl with ⟨w, hp, hv⟩ | ⟨w, hp, hv⟩
    · rcases hmeet hp hv with ⟨rfl, rfl⟩ | ⟨t, ht⟩
      · exact .inl ⟨rfl, rfl⟩
      · exact .inr (.inr ⟨t, ht⟩)
    · rcases hmeet hp hv with ⟨rfl, rfl⟩ | ⟨t, ht⟩
      · exact .inl ⟨rfl, rfl⟩
      · exact .inr (.inl ⟨t, ht⟩)
  · rintro (⟨rfl, rfl⟩ | ⟨t, rfl, rfl⟩ | ⟨t, rfl, rfl⟩)
    · rfl
    · simp only [String.append_assoc]
    · simp only [String.append_assoc]

/-! ## Whitespace, lines and columns -/

/-- `char::is_whitespace`: the Unicode `White_Space` property. -/
def isWhitespace (c : Char) : Bool :=
  (0x09 ≤ c.toNat && c.toNat ≤ 0x0d) || c.toNat == 0x20 || c.toNat == 0x85 || c.toNat == 0xa0 ||
    c.toNat == 0x1680 || (0x2000 ≤ c.toNat && c.toNat ≤ 0x200a) || c.toNat == 0x2028 ||
    c.toNat == 0x2029 || c.toNat == 0x202f || c.toNat == 0x205f || c.toNat == 0x3000

/-- `str::trim`. -/
def trim (s : String) : String :=
  String.ofList (((s.toList.dropWhile isWhitespace).reverse.dropWhile isWhitespace).reverse)

/-- `str::split_inclusive('\n')`: every piece keeps its terminating newline. -/
def splitInclusive : List Char → List (List Char)
  | [] => []
  | c :: cs =>
      if c = '\n' then [c] :: splitInclusive cs
      else match splitInclusive cs with
        | [] => [[c]]
        | piece :: pieces => (c :: piece) :: pieces

/-- Remove the line ending `"\n"` or `"\r\n"` of a line. -/
def stripLineEnding (line : List Char) : List Char :=
  match line.reverse with
  | '\n' :: '\r' :: rest => rest.reverse
  | '\n' :: rest => rest.reverse
  | _ => line

/-- `str::lines`. -/
def lines (s : String) : List String :=
  (splitInclusive s.toList).map fun line => String.ofList (stripLineEnding line)

/-- `str::split_whitespace`: the non-empty pieces between whitespace characters. -/
def splitWhitespace (s : String) : List String :=
  ((s.toList.splitOnP isWhitespace).filter (· ≠ [])).map String.ofList

/-- `[&str]::join`. -/
def join (sep : String) : List String → String
  | [] => ""
  | [s] => s
  | s :: t :: rest => s ++ sep ++ join sep (t :: rest)

/-! ## Decimal numbers in names -/

/-- A decimal numeral contains only digits. -/
theorem not_mem_repr {c : Char} (hc : c.isDigit = false) (n : ℕ) : c ∉ n.repr.toList := by
  intro h
  have := Nat.isDigit_of_mem_toDigits (b := 10) (by norm_num) (by norm_num)
    (show c ∈ Nat.toDigits 10 n by simpa [Nat.repr] using h)
  rw [hc] at this
  simp at this

/-- Two strings that end in the same separator and a separator-free rest have equal rests. -/
theorem append_singleton_append_inj {a b x y : String} {c : Char}
    (hx : c ∉ x.toList) (hy : c ∉ y.toList)
    (h : a ++ String.singleton c ++ x = b ++ String.singleton c ++ y) : a = b ∧ x = y := by
  have hl : x.toList.reverse ++ c :: a.toList.reverse =
      y.toList.reverse ++ c :: b.toList.reverse := by
    have := congrArg (fun s => s.toList.reverse) h
    simpa using this
  have hx' : c ∉ x.toList.reverse := by simpa using hx
  have hy' : c ∉ y.toList.reverse := by simpa using hy
  obtain ⟨hdx, htx⟩ := dropWhile_ne_append hx' a.toList.reverse
  obtain ⟨hdy, hty⟩ := dropWhile_ne_append hy' b.toList.reverse
  rw [hl] at hdx htx
  rw [hdy] at hdx
  rw [hty] at htx
  refine ⟨String.toList_inj.mp ?_, String.toList_inj.mp ?_⟩
  · simpa using (List.cons.inj hdx).2.symm
  · simpa using htx.symm

/-- The number at the end of `a:n` can be read back. -/
theorem append_repr_inj {a b : String} {m n : ℕ}
    (h : a ++ ":" ++ m.repr = b ++ ":" ++ n.repr) : a = b ∧ m = n := by
  obtain ⟨ha, hn⟩ := append_singleton_append_inj (c := ':') (not_mem_repr rfl m)
    (not_mem_repr rfl n) h
  exact ⟨ha, Nat.repr_injective hn⟩

/-! ## Quoting -/

/-- `char::escape_debug` in a text. Characters that are not ASCII are written as they are, control
characters apart. -/
def escapeDebug (c : Char) : String :=
  match c.toNat with
  | 0 => "\\0"
  | 9 => "\\t"
  | 10 => "\\n"
  | 13 => "\\r"
  | 34 => "\\\""
  | 92 => "\\\\"
  | n =>
      if n < 32 ∨ 127 ≤ n ∧ n < 160 then "\\u\x7b" ++ String.ofList (Nat.toDigits 16 n) ++ "\x7d"
      else String.singleton c

/-- The `Debug` form of a text. -/
def debugStr (s : String) : String :=
  "\"" ++ s.toList.foldl (fun out c => out ++ escapeDebug c) "" ++ "\""

end AdbHub.Lib
