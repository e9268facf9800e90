import BoundSql.Proofs.QuotedName
import BoundSql.Proofs.Slots
/-!
Rules that only look at single characters of a template and at neighbours. Plain characters, with
which all clauses are put together, meet every such rule beside anything, so a statement meets a
rule as soon as the caller's own texts in it do. There are two: neighbours are read apart, and none
of them end the statement or begin a comment.
-/

namespace BoundSql

/-- Letters, blanks and the marks that stand between names, values and words. -/
def isPlain (c : Char) : Bool :=
  c.isAlpha || " (),\".=<>!_".toList.contains c

theorem isPlain_or_isDigit_of_isNameChar {c : Char} (h : isNameChar c) : isPlain c ∨ c.isDigit := by
  simp only [isNameChar, Char.isAlphanum, Bool.or_eq_true, beq_iff_eq] at h
  rcases h with (ha | hd) | rfl
  · exact .inl (by simp [isPlain, ha])
  · exact .inr hd
  · exact .inl (by decide)

structure LocalRule where
  alone : Char → Prop
  beside : Piece → Piece → Prop
  alone_plain : ∀ {c}, isPlain c → alone c
  alone_digit : ∀ {c : Char}, c.isDigit → alone c
  alone_star : alone '*'
  beside_plain : ∀ p {c}, isPlain c → beside p (.char c)
  plain_beside : ∀ {c} p, isPlain c → beside (.char c) p
  beside_value : ∀ p v, beside p (.value v)
  digit_beside : ∀ {c d : Char}, c.isDigit → d.isDigit → beside (.char c) (.char d)

namespace LocalRule

structure Neutral (r : LocalRule) (c : Char) : Prop where
  alone : r.alone c
  behind : ∀ p, r.beside p (.char c)
  ahead : ∀ p, r.beside (.char c) p

theorem neutral_of_isPlain {r : LocalRule} {c : Char} (hc : isPlain c) : r.Neutral c :=
  ⟨r.alone_plain hc, fun p => r.beside_plain p hc, fun p => r.plain_beside p hc⟩

/-- A template in which every character and all neighbours are as the rule says. -/
structure Obeys (r : LocalRule) (T : Template) : Prop where
  alone : ∀ c, .char c ∈ T → r.alone c
  beside : T.IsChain r.beside

namespace Obeys

variable {r : LocalRule} {T U : Template} {t w : Text}

theorem nil : r.Obeys [] :=
  ⟨by simp, .nil⟩

theorem value (v : Value) : r.Obeys [.value v] :=
  ⟨by simp, .singleton _⟩

theorem star : r.Obeys (.ofText ['*']) :=
  ⟨by simpa using r.alone_star, .singleton _⟩

theorem append (hT : r.Obeys T) (hU : r.Obeys U)
    (h : ∀ p ∈ T.getLast?, ∀ q ∈ U.head?, r.beside p q) : r.Obeys (T ++ U) where
  alone c hc := by
    rcases List.mem_append.1 hc with hm | hm
    · exact hT.alone c hm
    · exact hU.alone c hm
  beside := hT.beside.append hU.beside h

theorem cons_neutral {c : Char} (hc : r.Neutral c) (hT : r.Obeys T) : r.Obeys (.char c :: T) where
  alone d hd := by
    rcases List.mem_cons.1 hd with he | hm
    · cases he
      exact hc.alone
    · exact hT.alone d hm
  beside := hT.beside.cons fun q _ => hc.ahead q

theorem neutral_append (hw : ∀ c ∈ w, r.Neutral c) (hT : r.Obeys T) :
    r.Obeys (.ofText w ++ T) := by
  induction w with
  | nil => exact hT
  | cons c w ih => exact cons_neutral (hw c (by simp)) (ih fun d hd => hw d (by simp [hd]))

theorem cons_plain {c : Char} (hc : isPlain c) (hT : r.Obeys T) : r.Obeys (.char c :: T) :=
  cons_neutral (neutral_of_isPlain hc) hT

theorem append_plain_cons {c : Char} (hc : isPlain c) (hT : r.Obeys T) (hU : r.Obeys U) :
    r.Obeys (T ++ .char c :: U) := by
  refine hT.append (cons_plain hc hU) fun p _ q hq => ?_
  cases hq
  exact r.beside_plain p hc

theorem tame (ht : ∀ c ∈ t, isPlain c ∨ c.isDigit) : r.Obeys (.ofText t) := by
  induction t with
  | nil => exact nil
  | cons c t ih =>
    have hT := ih fun d hd => ht d (by simp [hd])
    rcases ht c (by simp) with hc | hc
    · exact cons_plain hc hT
    · refine ⟨fun d hd => ?_, hT.beside.cons fun q hq => ?_⟩
      · rcases List.mem_cons.1 hd with he | hm
        · cases he
          exact r.alone_digit hc
        · exact hT.alone d hm
      · cases t with
        | nil => simp at hq
        | cons d t =>
          cases hq
          rcases ht d (by simp) with hd | hd
          · exact r.beside_plain _ hd
          · exact r.digit_beside hc hd

theorem quotedPart {w : Text} (hw : Identifier.IsPartBody w) :
    r.Obeys (.ofText (Identifier.quotedPart w)) := by
  refine tame fun c hc => ?_
  simp only [Identifier.quotedPart, List.cons_append, List.mem_cons, List.mem_append,
    List.not_mem_nil, or_false] at hc
  rcases hc with rfl | hm | rfl
  · exact .inl (by decide)
  · exact isPlain_or_isDigit_of_isNameChar (hw.2 c hm)
  · exact .inl (by decide)

theorem quoted {q : Text} (hq : Identifier.IsQuoted q) : r.Obeys (.ofText q) := by
  induction hq with
  | part hw => exact quotedPart hw
  | star hw =>
    rw [Template.ofText_append]
    exact append_plain_cons (by decide) (quotedPart hw) star
  | dotted hw _ ih =>
    rw [Template.ofText_append]
    exact append_plain_cons (by decide) (quotedPart hw) ih

end Obeys

end LocalRule

/-- The digit zero of no script but our own comes before U+0660. -/
theorem zeroDigits_far : ∀ z ∈ zeroDigits, z = 0x30 ∨ 0x660 ≤ z := by
  decide

theorem not_isDecimalDigit_of_isPlain {c : Char} (h : isPlain c) : isDecimalDigit c = false := by
  have hb : c.toNat < 128 ∧ ¬ (48 ≤ c.toNat ∧ c.toNat ≤ 57) := by
    simp only [isPlain, Bool.or_eq_true, List.contains_iff_mem] at h
    rcases h with ha | hm
    · have hletter := isAlpha_bounds ha
      omega
    · have hall : " (),\".=<>!_".toList.all fun d =>
          decide (d.toNat < 128 ∧ ¬ (48 ≤ d.toNat ∧ d.toNat ≤ 57)) := by decide
      exact of_decide_eq_true (List.all_eq_true.1 hall c hm)
  have hnone : (zeroDigits.find? fun z => decide (z ≤ c.toNat) && decide (c.toNat < z + 10)) =
      none := by
    refine List.find?_eq_none.2 fun z hz => ?_
    rcases zeroDigits_far z hz with rfl | hfar
    · simp; omega
    · simp; omega
  simp [isDecimalDigit, digitValue?, hnone]

def LocalRule.separation : LocalRule where
  alone _ := True
  beside := Piece.Apart
  alone_plain _ := trivial
  alone_digit _ := trivial
  alone_star := trivial
  beside_plain p c hc := by
    intro _
    simp [Piece.isDigit, not_isDecimalDigit_of_isPlain hc]
  plain_beside p hc := by
    rintro ho
    simp only [Piece.opensSlot, beq_iff_eq] at ho
    subst ho
    exact absurd hc (by decide)
  beside_value p v := by simp [Piece.Apart, Piece.isDigit]
  digit_beside hc _ := by
    rintro ho
    simp only [Piece.opensSlot, beq_iff_eq] at ho
    subst ho
    exact absurd hc (by decide)

def commentMarks : List (Char × Char) :=
  [('-', '-'), ('/', '*'), ('*', '/')]

def Piece.IsCommentMark : Piece → Piece → Prop
  | .char c, .char d => (c, d) ∈ commentMarks
  | _, _ => False

def hazards : List Char :=
  [';', '\x00', '-', '/', '*']

theorem Piece.IsCommentMark.left {c : Char} {q : Piece} (h : IsCommentMark (.char c) q) :
    c ∈ hazards := by
  cases q with
  | value v => cases h
  | char d =>
    simp only [IsCommentMark, commentMarks, List.mem_cons, Prod.mk.injEq, List.not_mem_nil,
      or_false] at h
    rcases h with ⟨rfl, -⟩ | ⟨rfl, -⟩ | ⟨rfl, -⟩ <;> decide

theorem Piece.IsCommentMark.right {p : Piece} {d : Char} (h : IsCommentMark p (.char d)) :
    d ∈ hazards := by
  cases p with
  | value v => cases h
  | char c =>
    simp only [IsCommentMark, commentMarks, List.mem_cons, Prod.mk.injEq, List.not_mem_nil,
      or_false] at h
    rcases h with ⟨-, rfl⟩ | ⟨-, rfl⟩ | ⟨-, rfl⟩ <;> decide

theorem not_mem_hazards_of_isPlain {c : Char} (hc : isPlain c) : c ∉ hazards := by
  intro h
  simp only [hazards, List.mem_cons, List.not_mem_nil, or_false] at h
  rcases h with rfl | rfl | rfl | rfl | rfl <;> exact absurd hc (by decide)

theorem not_mem_hazards_of_isDigit {c : Char} (hc : c.isDigit) : c ∉ hazards := by
  intro h
  simp only [hazards, List.mem_cons, List.not_mem_nil, or_false] at h
  rcases h with rfl | rfl | rfl | rfl | rfl <;> exact absurd hc (by decide)

theorem harmless_alone {c : Char} (hc : c ∉ hazards) : c ≠ ';' ∧ c ≠ '\x00' := by
  constructor <;> rintro rfl <;> exact hc (by decide)

/-- Nothing ends the statement or begins or ends a comment. -/
def LocalRule.hygiene : LocalRule where
  alone c := c ≠ ';' ∧ c ≠ '\x00'
  beside p q := ¬ p.IsCommentMark q
  alone_plain hc := harmless_alone (not_mem_hazards_of_isPlain hc)
  alone_digit hc := harmless_alone (not_mem_hazards_of_isDigit hc)
  alone_star := by decide
  beside_plain _ _ hc h := not_mem_hazards_of_isPlain hc h.right
  plain_beside _ hc h := not_mem_hazards_of_isPlain hc h.left
  beside_value p _ h := by cases p <;> cases h
  digit_beside hc _ h := not_mem_hazards_of_isDigit hc h.left

theorem LocalRule.hygiene_neutral {c : Char} (hc : c ∉ hazards) : hygiene.Neutral c :=
  ⟨harmless_alone hc, fun _ h => hc h.right, fun _ h => hc h.left⟩

end BoundSql
