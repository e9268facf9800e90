import BoundSql.Proofs.Composition
import BoundSql.Proofs.LiteralWords
/-!
Literals in the places of the values of a template. A reader that begins where the text begins finds
the words of a literal in its place, and nothing of them in other words, if all quotes in front of it
are closed and it is read together with neither of its neighbours. What a builder puts around values
is always like that.
-/

namespace BoundSql

/-- Whether nothing is read together across two pieces of which one is a value. -/
def Piece.Fences : Piece → Piece → Prop
  | .char _, .char _ => True
  | .char c, .value _ => runKind? c = none ∧ c ≠ '\''
  | .value _, .char c => runKind? c ≠ some .word ∧ c ≠ '\''
  | .value _, .value _ => False

theorem divides_of_isGap {c : Char} (hc : isGap c) : Divides c := by
  have hgaps : " (),".toList.all fun d => decide (Divides d) := by decide
  exact of_decide_eq_true (List.all_eq_true.1 hgaps c (List.contains_iff_mem.1 hc))

theorem isQuote_of_isBare {c : Char} (hc : isBare c) : isQuote c = false := by
  rw [Bool.eq_false_iff]
  intro hquote
  simp only [isQuote, Bool.or_eq_true, beq_iff_eq] at hquote
  rcases hquote with rfl | rfl <;> exact absurd hc (by decide)

namespace Piece

variable {p q : Piece} {c d : Char} {v : Value}

theorem fences_gap (hc : isGap c) : p.Fences (.char c) := by
  obtain ⟨hquote, hkind⟩ := divides_of_isGap hc
  cases p with
  | char d => trivial
  | value v => exact ⟨by simp [hkind], by rintro rfl; cases hquote⟩

theorem gap_fences (hc : isGap c) : Fences (.char c) q := by
  obtain ⟨hquote, hkind⟩ := divides_of_isGap hc
  cases q with
  | char d => trivial
  | value v => exact ⟨hkind, by rintro rfl; cases hquote⟩

theorem Fences.not_joins_front (h : Fences (.char c) (.value v)) (hv : v.isReadable)
    (hd : d ∈ v.literal.head?) : ¬ Joins c d := by
  rintro (⟨hquote, rfl⟩ | ⟨kind, hkind, -⟩)
  · simp only [isQuote, Bool.or_eq_true, beq_iff_eq] at hquote
    exact hquote.elim ((Value.literal_ends hv).1 d hd) h.2
  · rw [h.1] at hkind
    cases hkind

theorem Fences.not_joins_back (h : Fences (.value v) (.char d)) (hv : v.isReadable)
    (hc : c ∈ v.literal.getLast?) : ¬ Joins c d := by
  obtain ⟨hname, hdash⟩ := (Value.literal_ends hv).2 c hc
  rintro (⟨hquote, rfl⟩ | ⟨kind, hc, hd⟩)
  · simp only [isQuote, Bool.or_eq_true, beq_iff_eq] at hquote
    exact hquote.elim hname h.2
  · cases kind with
    | word => exact h.1 hd
    | dash => exact hdash (eq_of_runKind?_dash hc)

end Piece

namespace Template

theorem isChain_ofText (t : Text) : (ofText t).IsChain Piece.Fences := by
  induction t with
  | nil => exact .nil
  | cons c t ih =>
    refine ih.cons fun q hq => ?_
    cases t with
    | nil => cases hq
    | cons d t =>
      cases hq
      trivial

/-- Whether values stand outside of quotes, and all quotes are closed at the end. -/
def ValuesOutside (quote : Option Char) : Template → Prop
  | [] => quote = none
  | .char c :: T => ValuesOutside (quoteAfter quote [c]) T
  | .value _ :: T => quote = none ∧ ValuesOutside none T

namespace ValuesOutside

variable {quote : Option Char} {T U : Template}

theorem ofText {t : Text} : ValuesOutside quote (.ofText t) ↔ quoteAfter quote t = none := by
  induction t generalizing quote with
  | nil => exact .rfl
  | cons c t ih =>
    rw [← List.singleton_append, quoteAfter_append]
    exact ih

theorem append (hT : ValuesOutside quote T) (hU : ValuesOutside none U) :
    ValuesOutside quote (T ++ U) := by
  induction T generalizing quote with
  | nil =>
    have hquote : quote = none := hT
    rwa [hquote]
  | cons p T ih =>
    cases p with
    | char c => exact ih hT
    | value v => exact ⟨hT.1, ih hT.2⟩

theorem closed {v : Value} (h : ValuesOutside quote (T ++ .value v :: U)) :
    quoteAfter quote (T.write Value.literal) = none := by
  induction T generalizing quote with
  | nil => exact h.1
  | cons p T ih =>
    have hwrite : write Value.literal (p :: T) = p.write Value.literal ++ write Value.literal T := rfl
    rw [hwrite, quoteAfter_append]
    cases p with
    | char c => exact ih h
    | value u =>
      have hquote : quote = none := h.1
      have hu : quoteAfter none ((Piece.value u).write Value.literal) = none := u.quoteAfter_literal
      rw [hquote, hu]
      exact ih h.2

end ValuesOutside

structure Fenced (T : Template) : Prop where
  beside : T.IsChain Piece.Fences
  outside : ValuesOutside none T

namespace Fenced

variable {T U : Template} {v : Value}

theorem ofText {t : Text} (h : quoteAfter none t = none) : Fenced (.ofText t) where
  beside := isChain_ofText t
  outside := ValuesOutside.ofText.2 h

theorem compositional : Compositional Fenced where
  bare hw := ofText (quoteAfter_of_unquoted fun c hc => isQuote_of_isBare (List.all_eq_true.1 hw c hc))
  star := ofText rfl
  quoted hq := ofText (quoteAfter_quoted hq)
  value v := ⟨.singleton _, rfl, rfl⟩
  gap hc hT hU :=
    { beside := hT.beside.append (hU.beside.cons fun _ _ => Piece.gap_fences hc) fun _ _ q hq => by
        cases hq
        exact Piece.fences_gap hc
      outside := hT.outside.append (by
        have hquote := (divides_of_isGap hc).1
        simpa [ValuesOutside, quoteAfter, hquote] using hU.outside) }

/-- A value is read in its place, and apart from what stands around it. -/
theorem wordsOf_write (h : Fenced (T ++ .value v :: U)) (hv : v.isReadable) :
    wordsOf ((T ++ .value v :: U).write Value.literal) =
      wordsOf (T.write Value.literal) ++ wordsOf v.literal ++ wordsOf (U.write Value.literal) := by
  obtain ⟨-, hback, hfront⟩ := List.isChain_append.1 h.beside
  have hwrite : (T ++ .value v :: U).write Value.literal =
      T.write Value.literal ++ (v.literal ++ U.write Value.literal) := by
    rw [write_append]
    rfl
  have hfirst : ∀ c ∈ (T.write Value.literal).getLast?, ∀ d ∈ v.literal.head?, ¬ Joins c d := by
    intro c hc d hd
    rcases List.eq_nil_or_concat T with rfl | ⟨A, p, rfl⟩
    · cases hc
    have hp : p.Fences (.value v) := hfront p (by simp) _ rfl
    cases p with
    | value u => exact hp.elim
    | char e =>
      rw [List.concat_eq_append, write_append] at hc
      cases hc.symm.trans (List.getLast?_concat (l := write Value.literal A))
      exact hp.not_joins_front hv hd
  have hlast : ∀ c ∈ v.literal.getLast?, ∀ d ∈ (U.write Value.literal).head?, ¬ Joins c d := by
    intro c hc d hd
    cases U with
    | nil => cases hd
    | cons q U =>
      have hq : Piece.Fences (.value v) q := (List.isChain_cons_cons.1 hback).1
      cases q with
      | value u => exact hq.elim
      | char e =>
        cases hd
        exact hq.not_joins_back hv hc
  rw [hwrite, wordsOf_append h.outside.closed fun c hc d hd => ?_,
    wordsOf_append v.quoteAfter_literal hlast, List.append_assoc]
  rw [List.head?_append_of_ne_nil _ (Value.literal_ne_nil hv)] at hd
  exact hfirst c hc d hd

end Fenced

end Template

end BoundSql
