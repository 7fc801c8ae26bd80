import AdbHub.Compat
import AdbHub.Lib.Columns
import AdbHub.Lib.Decimal

/-!
# Which versions are read and accepted

`SemVer::parse`, character by character, and the order of the versions (`compat.rs`).

* `versionCore` and `SemVer.WrittenAs` — a version without `v`, pre-release and build data, and the
  numerals it is made of.
* `SemVer.display` — what is printed of a version.
* **`versions_accepted_exactly`** — which texts are versions, that printed versions read back, and
  that the accepted ones are those from `minProxyVersion` on.
-/

namespace AdbHub

open Lib

/-! ## Texts of versions -/

/-- Without surrounding whitespace and one `v` in front, up to the first `-` or `+`. -/
def versionCore (s : String) : String :=
  String.ofList ((((stripPrefix (trim s) "v").getD (trim s)).toList).takeWhile fun c =>
    c ≠ '-' ∧ c ≠ '+')

namespace SemVer

/-- Two or three numerals with dots between them; without the third one the patch is 0. -/
def WrittenAs (v : SemVer) (core : String) : Prop :=
  ∃ major minor, IsNumeral major v.major ∧ IsNumeral minor v.minor ∧
    ((core = major ++ "." ++ minor ∧ v.patch = 0) ∨
      ∃ patch, IsNumeral patch v.patch ∧ core = major ++ "." ++ minor ++ "." ++ patch)

/-- The fields are `u32`. -/
structure IsU32 (v : SemVer) : Prop where
  major : v.major < 2 ^ 32
  minor : v.minor < 2 ^ 32
  patch : v.patch < 2 ^ 32

/-- Source: `compat.rs`, `Display for SemVer`. -/
def display (v : SemVer) : String := v.major.repr ++ "." ++ v.minor.repr ++ "." ++ v.patch.repr

/-- The fields, in lexicographic order. -/
def triple (v : SemVer) : ℕ ×ₗ ℕ ×ₗ ℕ := toLex (v.major, toLex (v.minor, v.patch))

end SemVer

/-! ## Reading -/

theorem parseU32_eq_some_iff {s : String} {n : ℕ} (h : '+' ∉ s.toList) :
    parseU32 s = some n ↔ IsNumeral s n ∧ n < 2 ^ 32 := by
  unfold parseU32
  rw [Option.filter_eq_some_iff, fromStrRadix_utf8_iff h, decide_eq_true_eq]
  constructor
  · rintro ⟨⟨-, hnum⟩, hlt⟩
    exact ⟨hnum, hlt⟩
  · rintro ⟨hnum, hlt⟩
    exact ⟨⟨hlt.trans (by norm_num [usizeSize]), hnum⟩, hlt⟩

namespace SemVer

variable {s core : String} {v w : SemVer}

theorem parse_eq (s : String) :
    parse s = ofParts (((versionCore s).toList.splitOn '.').map String.ofList) := by
  unfold parse versionCore
  simp only [elim_splitOnce, String.toList_ofList, List.takeWhile_takeWhile]
  congr 4
  funext c
  simp [and_comm]

/-- Two or three numerals are read as the version they are. -/
theorem ofParts_eq_some_iff {parts : List String} (h : ∀ part ∈ parts, '+' ∉ part.toList) :
    ofParts parts = some v ↔ v.IsU32 ∧
      ∃ major minor, IsNumeral major v.major ∧ IsNumeral minor v.minor ∧
        ((parts = [major, minor] ∧ v.patch = 0) ∨
          ∃ patch, IsNumeral patch v.patch ∧ parts = [major, minor, patch]) := by
  obtain ⟨a, b, c⟩ := v
  rcases parts with _ | ⟨major, _ | ⟨minor, _ | ⟨patch, _ | ⟨d, rest⟩⟩⟩⟩
  · simp [ofParts]
  · simp [ofParts]
  · have hmajor := h major (by simp)
    have hminor := h minor (by simp)
    have hzero : parseU32 "0" = some 0 := by decide +kernel
    simp only [ofParts, hzero, Option.bind_eq_bind, Option.bind_eq_some_iff, Option.bind_some,
      parseU32_eq_some_iff hmajor, parseU32_eq_some_iff hminor, Option.some.injEq, SemVer.mk.injEq]
    constructor
    · rintro ⟨_, ⟨ha, hlta⟩, _, ⟨hb, hltb⟩, rfl, rfl, rfl⟩
      exact ⟨⟨hlta, hltb, by norm_num⟩, major, minor, ha, hb, .inl ⟨rfl, rfl⟩⟩
    · rintro ⟨⟨hlta, hltb, -⟩, major', minor', ha, hb, ⟨hparts, rfl⟩ | ⟨patch', -, hparts⟩⟩
      · simp only [List.cons.injEq, and_true] at hparts
        obtain ⟨rfl, rfl⟩ := hparts
        exact ⟨a, ⟨ha, hlta⟩, b, ⟨hb, hltb⟩, rfl, rfl, rfl⟩
      · simp at hparts
  · have hmajor := h major (by simp)
    have hminor := h minor (by simp)
    have hpatch := h patch (by simp)
    simp only [ofParts, Option.bind_eq_bind, Option.bind_eq_some_iff,
      parseU32_eq_some_iff hmajor, parseU32_eq_some_iff hminor, parseU32_eq_some_iff hpatch,
      Option.some.injEq, SemVer.mk.injEq]
    constructor
    · rintro ⟨_, ⟨ha, hlta⟩, _, ⟨hb, hltb⟩, _, ⟨hc, hltc⟩, rfl, rfl, rfl⟩
      exact ⟨⟨hlta, hltb, hltc⟩, major, minor, ha, hb, .inr ⟨patch, hc, rfl⟩⟩
    · rintro ⟨⟨hlta, hltb, hltc⟩, major', minor', ha, hb, ⟨hparts, -⟩ | ⟨patch', hc, hparts⟩⟩
      · simp at hparts
      · simp only [List.cons.injEq, and_true] at hparts
        obtain ⟨rfl, rfl, rfl⟩ := hparts
        exact ⟨a, ⟨ha, hlta⟩, b, ⟨hb, hltb⟩, c, ⟨hc, hltc⟩, rfl, rfl, rfl⟩
  · simp [ofParts]

/-- The pieces between dots are the texts that were put together. -/
theorem splitOn_dots_iff {parts : List String} (hne : parts ≠ [])
    (hdot : ∀ part ∈ parts, '.' ∉ part.toList) :
    (core.toList.splitOn '.').map String.ofList = parts ↔ core = join "." parts := by
  have hlist : (join "." parts).toList = ['.'].intercalate (parts.map String.toList) := by
    rw [join_eq_intercalate, String.toList_intercalate]
    rfl
  constructor
  · intro hparts
    refine String.toList_inj.mp ?_
    rw [hlist, ← hparts, List.map_map]
    simp [Function.comp_def]
  · rintro rfl
    have hdot' : ∀ l ∈ parts.map String.toList, '.' ∉ l := by
      rw [List.forall_mem_map]
      exact hdot
    rw [hlist, List.splitOn_intercalate '.' hdot' (by simpa using hne), List.map_map]
    simp [Function.comp_def]

/-- A version is two or three numerals. -/
theorem writtenAs_iff : v.WrittenAs core ↔
    ∃ major minor, IsNumeral major v.major ∧ IsNumeral minor v.minor ∧
      (((core.toList.splitOn '.').map String.ofList = [major, minor] ∧ v.patch = 0) ∨
        ∃ patch, IsNumeral patch v.patch ∧
          (core.toList.splitOn '.').map String.ofList = [major, minor, patch]) := by
  refine exists_congr fun major => exists_congr fun minor => ?_
  refine and_congr_right fun hmajor => and_congr_right fun hminor => ?_
  have hdot : ∀ {text : String} {n : ℕ}, IsNumeral text n → '.' ∉ text.toList :=
    fun h => h.not_mem (by decide)
  refine or_congr (and_congr_left fun _ => ?_) (exists_congr fun patch =>
    and_congr_right fun hpatch => ?_)
  · rw [splitOn_dots_iff (by simp) (by simp [hdot hmajor, hdot hminor])]
    rfl
  · rw [splitOn_dots_iff (by simp) (by simp [hdot hmajor, hdot hminor, hdot hpatch])]
    show _ ↔ core = major ++ "." ++ (minor ++ "." ++ patch)
    simp only [String.append_assoc]

/-- **What is read** are the numerals of a version whose fields are `u32`. -/
theorem parse_eq_some_iff : parse s = some v ↔ v.WrittenAs (versionCore s) ∧ v.IsU32 := by
  have hplus : ∀ part ∈ ((versionCore s).toList.splitOn '.').map String.ofList,
      '+' ∉ part.toList := by
    intro part hpart hmem
    obtain ⟨piece, hpiece, rfl⟩ := List.mem_map.mp hpart
    rw [String.toList_ofList] at hmem
    have hcore := mem_of_mem_splitOn hpiece hmem
    unfold versionCore at hcore
    rw [String.toList_ofList] at hcore
    simpa using List.mem_takeWhile_imp hcore
  rw [parse_eq, ofParts_eq_some_iff hplus, writtenAs_iff, and_comm]

/-! ## Printed versions -/

/-- Only digits and dots are printed. -/
theorem display_chars (v : SemVer) : ∀ c ∈ v.display.toList, c.isDigit = true ∨ c = '.' := by
  have hrepr : ∀ n : ℕ, ∀ c ∈ n.repr.toList, c.isDigit = true := fun n => (isNumeral_repr n).digits
  have hdot : ∀ c ∈ ".".toList, c = '.' := by simp
  unfold display
  simp only [String.toList_append, List.mem_append]
  rintro c ((((hc | hc) | hc) | hc) | hc)
  · exact .inl (hrepr _ c hc)
  · exact .inr (hdot c hc)
  · exact .inl (hrepr _ c hc)
  · exact .inr (hdot c hc)
  · exact .inl (hrepr _ c hc)

/-- Nothing is cut off a printed version. -/
theorem versionCore_display (v : SemVer) : versionCore v.display = v.display := by
  have hspace : ∀ c ∈ v.display.toList, isWhitespace c = false := by
    intro c hc
    rcases v.display_chars c hc with hdigit | rfl
    · exact isWhitespace_of_isDigit hdigit
    · decide
  have htrim : trim v.display = v.display :=
    trim_eq_self (fun c hc => hspace c (List.mem_of_mem_head? hc))
      fun c hc => hspace c (List.mem_of_mem_getLast? hc)
  have hstrip : stripPrefix v.display "v" = none := by
    rw [stripPrefix_eq_none_iff]
    intro r hr
    have hv : 'v' ∈ v.display.toList := by
      rw [hr]
      simp
    exact absurd (v.display_chars 'v' hv) (by decide)
  have hall : ∀ c ∈ v.display.toList, decide (c ≠ '-' ∧ c ≠ '+') = true := by
    intro c hc
    rcases v.display_chars c hc with hdigit | rfl
    · rw [decide_eq_true_eq]
      constructor
      · rintro rfl
        exact absurd hdigit (by decide)
      · rintro rfl
        exact absurd hdigit (by decide)
    · decide
  unfold versionCore
  rw [htrim, hstrip, Option.getD_none, List.takeWhile_eq_self_iff.mpr hall, String.ofList_toList]

/-- **Printed versions read back**, exactly if their fields are `u32`. -/
theorem parse_display_iff (v : SemVer) : parse v.display = some v ↔ v.IsU32 := by
  have hwritten : v.WrittenAs v.display :=
    ⟨_, _, isNumeral_repr _, isNumeral_repr _, .inr ⟨_, isNumeral_repr _, rfl⟩⟩
  rw [parse_eq_some_iff, versionCore_display]
  exact and_iff_right hwritten

/-! ## The order -/

theorem atLeast_iff : v.atLeast w = true ↔ w.triple ≤ v.triple := by
  unfold triple atLeast
  simp only [Prod.Lex.toLex_le_toLex, Bool.or_eq_true, Bool.and_eq_true, decide_eq_true_eq,
    beq_iff_eq, @eq_comm ℕ v.major, @eq_comm ℕ v.minor]

end SemVer

/-- **The versions the hub talks to.** A text is read as a version exactly if its core is two or
three numerals of `u32`; what is printed of a version is read as it; the accepted texts are the
versions from `minProxyVersion` on, in lexicographic order, so that newer ones are accepted as
well. -/
theorem versions_accepted_exactly :
    (∀ s v, SemVer.parse s = some v ↔ v.WrittenAs (versionCore s) ∧ v.IsU32) ∧
      (∀ v : SemVer, SemVer.parse v.display = some v ↔ v.IsU32) ∧
      (∃ min, SemVer.parse minProxyVersion = some min ∧ ∀ reported,
        (evaluateProxyVersion reported).isOk = true ↔
          ∃ got, SemVer.parse reported = some got ∧ min.triple ≤ got.triple) ∧
      ∀ reported newer v w, SemVer.parse reported = some v → SemVer.parse newer = some w →
        v.triple ≤ w.triple → (evaluateProxyVersion reported).isOk = true →
          (evaluateProxyVersion newer).isOk = true := by
  have hmin : SemVer.parse minProxyVersion = some ⟨0, 4, 4⟩ := by decide +kernel
  have haccepted : ∀ reported, (evaluateProxyVersion reported).isOk = true ↔
      ∃ got, SemVer.parse reported = some got ∧ SemVer.triple ⟨0, 4, 4⟩ ≤ got.triple := by
    intro reported
    rw [isOk_evaluateProxyVersion]
    exact exists_congr fun got => and_congr_right fun _ => SemVer.atLeast_iff
  refine ⟨fun s v => SemVer.parse_eq_some_iff, SemVer.parse_display_iff, ⟨_, hmin, haccepted⟩, ?_⟩
  intro reported newer v w hv hw hle hok
  obtain ⟨got, hgot, hold⟩ := (haccepted reported).mp hok
  obtain rfl := Option.some.inj (hgot.symm.trans hv)
  exact (haccepted newer).mpr ⟨w, hw, hold.trans hle⟩

example : SemVer.parse " v1.02-rc.1+5\n" = some ⟨1, 2, 0⟩ := by decide +kernel

end AdbHub
