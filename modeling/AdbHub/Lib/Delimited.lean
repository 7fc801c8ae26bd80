import AdbHub.Lib.Columns

/-!
# Records with a separator between them

A record is written as a free text with a tail behind it, and a list of records with a separator
between them. No tail contains the separator, but a free text may; then two lists can be written
alike.

* `Tails` — tails that can be read off the end of a text.
* `Tails.fused` and `Tails.MadeOf` — neighbouring records taken for one, whose text has the others
  in front; the lists that are made of a chain of records in this way.
* **`Tails.records_eq_iff`** — two lists are written alike exactly if they are made of one chain.
* `Tails.MadeOf.eq_of_plain` — a list whose texts have no record in front is made of itself only.
-/

namespace AdbHub.Lib

/-- How tails are written, which of them are valid, and the separator. -/
structure Tails (β : Type*) where
  write : β → String
  sep : Char
  Valid : β → Prop
  write_ne_empty : ∀ {b}, Valid b → write b ≠ ""
  /-- A tail does not contain the separator. -/
  sep_not_mem : ∀ {b}, Valid b → sep ∉ (write b).toList
  /-- A tail can be read off the end of a text. -/
  unique : ∀ {x y b c}, Valid b → Valid c → x ++ write b = y ++ write c → x = y ∧ b = c

namespace Tails

variable {β : Type*} (T : Tails β)

/-- A record: a text, and the tail behind it. -/
def record (e : String × β) : String := e.1 ++ T.write e.2

/-- The records with the separator between them. -/
def records (es : List (String × β)) : String := join (String.singleton T.sep) (es.map T.record)

/-- A record with others in front of it, all taken for one record. -/
def fused : List (String × β) → String × β → String × β
  | [], e => e
  | d :: ds, e => (T.record d ++ String.singleton T.sep ++ (fused ds e).1, e.2)

/-- The list is got from a chain of records by taking neighbours for one. -/
def MadeOf (chain es : List (String × β)) : Prop :=
  ∃ groups : List (List (String × β) × (String × β)),
    chain = groups.flatMap (fun g => g.1 ++ [g.2]) ∧ es = groups.map fun g => T.fused g.1 g.2

/-- No record in the list has the text of another one and the separator in front. -/
def Plain (es : List (String × β)) : Prop :=
  ∀ e ∈ es, ∀ (d : String × β) (rest : String),
    e.1 ≠ T.record d ++ String.singleton T.sep ++ rest

variable {T} {es es₁ es₂ chain ds : List (String × β)} {d e : String × β} {b : β}

/-! ## What is written of a chain -/

/-- Every record with the separator behind it. -/
def terminated (T : Tails β) : List (String × β) → String
  | [] => ""
  | e :: es => T.record e ++ String.singleton T.sep ++ terminated T es

theorem terminated_append (es₁ es₂ : List (String × β)) :
    T.terminated (es₁ ++ es₂) = T.terminated es₁ ++ T.terminated es₂ := by
  induction es₁ with
  | nil => simp [terminated]
  | cons e es₁ ih =>
      rw [List.cons_append, terminated, terminated, ih]
      simp only [String.append_assoc]

theorem terminated_of_ne_nil (h : es ≠ []) :
    T.terminated es = T.records es ++ String.singleton T.sep := by
  induction es with
  | nil => exact absurd rfl h
  | cons e es ih =>
      rcases es with _ | ⟨f, es⟩
      · exact String.append_empty
      · rw [terminated, ih (List.cons_ne_nil f es)]
        simp only [records, List.map_cons, join, String.append_assoc]

/-- Lists are written alike with the separator between their records exactly if they are with the
separator behind each, unless one of them is empty. -/
theorem records_eq_iff_terminated (h₁ : es₁ ≠ []) (h₂ : es₂ ≠ []) :
    T.records es₁ = T.records es₂ ↔ T.terminated es₁ = T.terminated es₂ := by
  rw [terminated_of_ne_nil h₁, terminated_of_ne_nil h₂, String.append_left_inj]

@[simp] theorem snd_fused (ds : List (String × β)) (e : String × β) : (T.fused ds e).2 = e.2 := by
  cases ds <;> rfl

/-- What is taken for one record is written like the records it is made of. -/
theorem terminated_fused (ds : List (String × β)) (e : String × β) :
    T.terminated [T.fused ds e] = T.terminated (ds ++ [e]) := by
  induction ds with
  | nil => rfl
  | cons d ds ih =>
      show _ = T.record d ++ String.singleton T.sep ++ T.terminated (ds ++ [e])
      rw [← ih]
      simp only [terminated, record, fused, snd_fused, String.append_assoc]

theorem MadeOf.terminated_eq (h : T.MadeOf chain es) : T.terminated chain = T.terminated es := by
  obtain ⟨groups, rfl, rfl⟩ := h
  induction groups with
  | nil => rfl
  | cons g groups ih =>
      rw [List.flatMap_cons, List.map_cons, terminated_append, ih, ← terminated_fused,
        ← terminated_append]
      rfl

/-! ## The common chain -/

theorem MadeOf.nil : T.MadeOf [] [] := ⟨[], rfl, rfl⟩

/-- A record stays what it is. -/
theorem MadeOf.cons (h : T.MadeOf chain es) (e : String × β) : T.MadeOf (e :: chain) (e :: es) := by
  obtain ⟨groups, rfl, rfl⟩ := h
  exact ⟨([], e) :: groups, rfl, rfl⟩

/-- A record is taken into the first one. -/
theorem MadeOf.into (h : T.MadeOf chain (e :: es)) (d : String × β) :
    T.MadeOf (d :: chain) ((T.record d ++ String.singleton T.sep ++ e.1, e.2) :: es) := by
  obtain ⟨groups, rfl, hes⟩ := h
  rcases groups with _ | ⟨g, groups⟩
  · simp at hes
  · obtain ⟨rfl, rfl⟩ := List.cons.inj hes
    refine ⟨(d :: g.1, g.2) :: groups, rfl, ?_⟩
    rw [List.map_cons, fused, snd_fused]

/-- What is written up to the separator behind a tail has the tail at its end. -/
theorem exists_text_of_record_eq (hb : T.sep ∉ (T.write b).toList) {text front rest : String}
    (h : T.record (text, b) = front ++ String.singleton T.sep ++ rest) :
    ∃ text', text = front ++ String.singleton T.sep ++ text' ∧ rest = T.record (text', b) := by
  have hlist : text.toList ++ (T.write b).toList = front.toList ++ T.sep :: rest.toList := by
    have h := congrArg String.toList h
    simpa [record] using h
  rcases List.append_eq_append_iff.mp hlist with ⟨u, -, hu⟩ | ⟨u, htext, hu⟩
  · exact absurd (hu ▸ List.mem_append_right u List.mem_cons_self) hb
  · rcases u with _ | ⟨c, u⟩
    · rw [List.nil_append] at hu
      exact absurd (hu ▸ List.mem_cons_self) hb
    · obtain ⟨rfl, hrest⟩ := List.cons.inj hu
      refine ⟨String.ofList u, String.toList_inj.mp (by simp [htext]), String.toList_inj.mp ?_⟩
      simp [record, hrest]

/-- Lists that are written alike up to the last separator are made of one chain. -/
theorem exists_chain (h₁ : ∀ e ∈ es₁, T.Valid e.2) (h₂ : ∀ e ∈ es₂, T.Valid e.2)
    (h : T.terminated es₁ = T.terminated es₂) :
    ∃ chain, T.MadeOf chain es₁ ∧ T.MadeOf chain es₂ := by
  -- induction on the number of records; the one that is taken out of a longer text is one less
  induction hn : es₁.length + es₂.length using Nat.strong_induction_on generalizing es₁ es₂ with
  | _ n ih =>
      subst hn
      rcases es₁ with _ | ⟨⟨x, b⟩, es₁⟩ <;> rcases es₂ with _ | ⟨⟨y, c⟩, es₂⟩
      · exact ⟨[], .nil, .nil⟩
      · simp [terminated] at h
      · simp [terminated] at h
      rw [List.forall_mem_cons] at h₁ h₂
      obtain ⟨(hb : T.Valid b), h₁⟩ := h₁
      obtain ⟨(hc : T.Valid c), h₂⟩ := h₂
      rcases append_singleton_append_eq_iff.mp h with
        ⟨heq, hrest⟩ | ⟨t, hlong, hrest⟩ | ⟨t, hlong, hrest⟩
      · -- the first records are the same
        obtain ⟨rfl, rfl⟩ := T.unique hb hc heq
        obtain ⟨chain, hm₁, hm₂⟩ := ih _ (by simp; omega) h₁ h₂ hrest rfl
        exact ⟨(x, b) :: chain, hm₁.cons _, hm₂.cons _⟩
      · -- the text of the first record of `es₁` begins with that of `es₂`
        obtain ⟨x', rfl, rfl⟩ := exists_text_of_record_eq (T.sep_not_mem hb) hlong
        have hshort : T.terminated ((x', b) :: es₁) = T.terminated es₂ := hrest.symm
        have hvalid : ∀ e ∈ (x', b) :: es₁, T.Valid e.2 := List.forall_mem_cons.mpr ⟨hb, h₁⟩
        obtain ⟨chain, hm₁, hm₂⟩ := ih _ (by simp) hvalid h₂ hshort rfl
        exact ⟨(y, c) :: chain, hm₁.into (y, c), hm₂.cons _⟩
      · obtain ⟨y', rfl, rfl⟩ := exists_text_of_record_eq (T.sep_not_mem hc) hlong
        have hshort : T.terminated es₁ = T.terminated ((y', c) :: es₂) := hrest
        have hvalid : ∀ e ∈ (y', c) :: es₂, T.Valid e.2 := List.forall_mem_cons.mpr ⟨hc, h₂⟩
        obtain ⟨chain, hm₁, hm₂⟩ := ih _ (by simp) h₁ hvalid hshort rfl
        exact ⟨(x, b) :: chain, hm₁.cons _, hm₂.into (x, b)⟩

/-! ## Written alike -/

theorem records_eq_empty_iff (h : ∀ e ∈ es, T.Valid e.2) : T.records es = "" ↔ es = [] := by
  constructor
  · intro hempty
    rcases es with _ | ⟨e, es⟩
    · rfl
    · have hrecord : T.record e = "" := by
        rcases es with _ | ⟨f, es⟩
        · exact hempty
        · exact (String.append_eq_empty_iff.mp (String.append_eq_empty_iff.mp hempty).1).1
      exact absurd (String.append_eq_empty_iff.mp hrecord).2
        (T.write_ne_empty (h e List.mem_cons_self))
  · rintro rfl
    rfl

/-- **Lists are written alike** exactly if they are made of one chain of records. -/
theorem records_eq_iff (h₁ : ∀ e ∈ es₁, T.Valid e.2) (h₂ : ∀ e ∈ es₂, T.Valid e.2) :
    T.records es₁ = T.records es₂ ↔ ∃ chain, T.MadeOf chain es₁ ∧ T.MadeOf chain es₂ := by
  have hempty : T.terminated es₁ = T.terminated es₂ → (es₁ = [] ↔ es₂ = []) := by
    intro h
    cases es₁ <;> cases es₂ <;> simp [terminated] at h ⊢
  constructor
  · intro h
    refine exists_chain h₁ h₂ ?_
    by_cases hnil : es₁ = []
    · have hnil' : es₂ = [] := by
        rw [← records_eq_empty_iff h₂, ← h, records_eq_empty_iff h₁]
        exact hnil
      rw [hnil, hnil']
    · have hne : es₂ ≠ [] := by
        rw [ne_eq, ← records_eq_empty_iff h₂, ← h, records_eq_empty_iff h₁]
        exact hnil
      exact (records_eq_iff_terminated hnil hne).mp h
  · rintro ⟨chain, hm₁, hm₂⟩
    have h : T.terminated es₁ = T.terminated es₂ := hm₁.terminated_eq.symm.trans hm₂.terminated_eq
    by_cases hnil : es₁ = []
    · rw [hnil, (hempty h).mp hnil]
    · exact (records_eq_iff_terminated hnil (mt (hempty h).mpr hnil)).mpr h

/-- A list without other records in its texts is made of itself only. -/
theorem MadeOf.eq_of_plain (h : T.MadeOf chain es) (hplain : T.Plain es) : chain = es := by
  obtain ⟨groups, rfl, rfl⟩ := h
  induction groups with
  | nil => rfl
  | cons g groups ih =>
      have hrest := ih fun e he => hplain e (List.mem_cons_of_mem _ he)
      have hfirst := hplain (T.fused g.1 g.2) List.mem_cons_self
      rw [List.flatMap_cons, List.map_cons, hrest]
      rcases g with ⟨_ | ⟨d, ds⟩, e⟩
      · rfl
      · exact absurd rfl (hfirst d _)

end Tails

end AdbHub.Lib
