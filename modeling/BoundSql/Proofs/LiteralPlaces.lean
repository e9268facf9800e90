import BoundSql.Proofs.Direct
import BoundSql.Proofs.FencedTemplate
/-!
Values that are read where they stand in a statement that was made for reading. Nothing is put between
a literal and what a caller wrote around its marker, so this rests on the texts of the caller: they
close their quotes, and their markers stand outside of them and apart from what a literal would be
read together with.
-/

namespace BoundSql

namespace Placeholder

/-- Whether the markers of a fragment stand outside of quotes, and the quotes are closed behind it. -/
def markersOutside (quote : Option Char) : Text → Bool
  | [] => quote.isNone
  | c :: t => (c != '?' || quote.isNone) && markersOutside (quoteAfter quote [c]) t

/-- No marker of a fragment stands in quotes, behind what a literal would go on with, or in front of
what would go on with a literal. Another marker is both. -/
def MarkersFenced (fragment : Text) : Prop :=
  markersOutside none fragment ∧ fragment.IsChain fun c d =>
    (d = '?' → runKind? c = none ∧ c ≠ '\'') ∧ (c = '?' → runKind? d ≠ some .word ∧ d ≠ '\'')

instance (fragment : Text) : Decidable (MarkersFenced fragment) :=
  inferInstanceAs (Decidable (_ ∧ fragment.IsChain fun c d =>
    (d = '?' → runKind? c = none ∧ c ≠ '\'') ∧ (c = '?' → runKind? d ≠ some .word ∧ d ≠ '\'')))

end Placeholder

open Placeholder (markersOutside)

namespace Template

variable {t : Text}

theorem ofFragment_nil (t : Text) : ofFragment t [] = ofText t := by
  induction t with
  | nil => rfl
  | cons c t ih => by_cases hc : c = '?' <;> simp [ofFragment, hc, ih]

theorem isChain_ofFragment (h : Placeholder.MarkersFenced t) (vs : List Value) :
    (ofFragment t vs).IsChain Piece.Fences := by
  obtain ⟨-, h⟩ := h
  induction t generalizing vs with
  | nil => exact .nil
  | cons c t ih =>
    have ht : ∀ vs, (ofFragment t vs).IsChain Piece.Fences := fun vs => ih vs h.of_cons
    have hnext : ∀ {d u}, t = d :: u → (d = '?' → runKind? c = none ∧ c ≠ '\'') ∧
        (c = '?' → runKind? d ≠ some .word ∧ d ≠ '\'') := by
      rintro d u rfl
      exact (List.isChain_cons_cons.1 h).1
    by_cases hc : c = '?'
    · cases vs with
      | nil =>
        rw [ofFragment_nil]
        exact isChain_ofText _
      | cons v vs =>
        simp only [ofFragment, hc, ↓reduceIte]
        refine (ht vs).cons fun q hq => ?_
        cases t with
        | nil => cases hq
        | cons d t =>
          -- what stands behind the marker is no marker, and so no value comes into its place
          have hd := (hnext rfl).2 hc
          have hmark : d ≠ '?' := by
            rintro rfl
            exact hd.1 (by decide)
          simp only [ofFragment, hmark, ↓reduceIte, List.head?_cons, Option.mem_some_iff] at hq
          subst hq
          exact hd
    · simp only [ofFragment, hc, ↓reduceIte]
      refine (ht vs).cons fun q hq => ?_
      cases q with
      | char d => trivial
      | value v =>
        cases t with
        | nil => cases hq
        | cons d t =>
          by_cases hd : d = '?'
          · exact (hnext rfl).1 hd
          · simp [ofFragment, hd] at hq

theorem valuesOutside_ofFragment {quote : Option Char} (h : markersOutside quote t)
    (vs : List Value) : ValuesOutside quote (ofFragment t vs) := by
  induction t generalizing quote vs with
  | nil => exact Option.isNone_iff_eq_none.1 h
  | cons c t ih =>
    obtain ⟨hmark, ht⟩ := Bool.and_eq_true_iff.1 h
    by_cases hc : c = '?'
    · subst hc
      have hquote : quote = none := by simpa using hmark
      subst hquote
      cases vs with
      | nil => exact ih ht []
      | cons v vs => exact ⟨rfl, ih ht vs⟩
    · simp only [ofFragment, hc, ↓reduceIte]
      exact ih ht vs

theorem Fenced.ofFragment (h : Placeholder.MarkersFenced t) (vs : List Value) :
    Fenced (ofFragment t vs) :=
  ⟨isChain_ofFragment h vs, valuesOutside_ofFragment h.1 vs⟩

/-- Every value that is told by its literal is read where it stands. A reader of the whole text finds
the words of the literal there, between those of what stands in front and those of what stands behind
it, and one that begins there finds the value. -/
def ReadsBack (T : Template) : Prop :=
  ∀ A v B, T = A ++ .value v :: B → v.isReadable →
    wordsOf (write Value.literal T) =
      wordsOf (write Value.literal A) ++ wordsOf v.literal ++ wordsOf (write Value.literal B) ∧
    Value.readLiteral (v.literal ++ write Value.literal B) = some (v, write Value.literal B)

theorem Fenced.endsLiteral {v : Value} {T : Template} (h : (Piece.value v :: T).IsChain Piece.Fences) :
    EndsLiteral (write Value.literal T) := by
  cases T with
  | nil => exact nofun
  | cons q T =>
    have hq : Piece.Fences (.value v) q := (List.isChain_cons_cons.1 h).1
    cases q with
    | value u => exact hq.elim
    | char c =>
      refine endsLiteral_cons ?_ hq.2 _
      rw [Bool.eq_false_iff]
      exact fun hdigit => hq.1 (runKind?_of_isDigit hdigit)

theorem Fenced.readsBack {T : Template} (h : T.Fenced) : T.ReadsBack := by
  rintro A v B rfl hv
  exact ⟨h.wordsOf_write hv,
    Value.readLiteral_literal hv (endsLiteral h.beside.right_of_append)⟩

end Template

/-- The texts of the caller close their quotes, and markers stand apart. -/
structure Statement.MarkersFenced (s : Statement) : Prop where
  items : ∀ i ∈ s.items, i.raw → quoteAfter none i.expr.toList = none
  joins : ∀ j ∈ s.joins, quoteAfter none j.on.toList = none
  conditions : ∀ c ∈ s.filter.leaves ++ s.having.leaves, c.operator = .raw →
    Placeholder.MarkersFenced c.column.toList

theorem Statement.MarkersFenced.keeps {s : Statement} (h : s.MarkersFenced) :
    s.Keeps Template.Fenced where
  items i hi hraw := .ofText (h.items i hi hraw)
  joins j hj := .ofText (h.joins j hj)
  filter c hc hraw := .ofFragment (h.conditions c (List.mem_append_left _ hc) hraw)
  having c hc hraw := .ofFragment (h.conditions c (List.mem_append_right _ hc) hraw)

namespace Builder

theorem Reachable.inline_readsBack {b : Builder} (h : b.Reachable) (hm : b.statement.MarkersApart)
    {t : BoundText} (ht : b.statement.compileNumbered b.context = .ok t) :
    ∃ T : Template, t = T.numbered 0 ∧ b.inline = .ok (T.write Value.literal) ∧
      (b.statement.MarkersFenced → T.ReadsBack) := by
  have hs := h.checked.keeps_separation hm
  obtain ⟨T, hT, -, rfl⟩ := Statement.exists_separated hs ht
  refine ⟨T, rfl, ?_, fun hfenced => Template.Fenced.readsBack
    (Statement.template_keeps Template.Fenced.compositional hfenced.keeps hT)⟩
  unfold inline
  rw [Statement.inline_eq_direct hs, Statement.direct, hT]
  rfl

end Builder

/-- A value is read from its literal, and what stands behind the literal is left. The texts in it are
those of the value. So it is in the whole text of a statement that was made for reading, if the
caller's own texts close their quotes and keep their markers apart. -/
theorem Value.literals_read :
    (∀ (v : Value) (t : Text), v.isReadable → EndsLiteral t →
      readLiteral (v.literal ++ t) = some (v, t)) ∧
    (∀ v : Value, v.isReadable → textsOf v.literal = v.texts) ∧
    ∀ b : Builder, b.Reachable → b.statement.MarkersApart →
      ∀ t, b.statement.compileNumbered b.context = .ok t →
        ∃ T : Template, t = T.numbered 0 ∧ b.inline = .ok (T.write literal) ∧
          (b.statement.MarkersFenced → T.ReadsBack) :=
  ⟨fun _ _ hv ht => readLiteral_literal hv ht, textsOf_literal,
    fun _ h hm _ ht => h.inline_readsBack hm ht⟩

def quotedUpdateCalls : List Call :=
  [.source .table (.text "t") .null, .set (.mapping [(.text "a", .text "it's, ($1)")]),
    .filter (.raw .and (.text "b = ? OR c = ?") (.list [.text "', '", .int (-2)])),
    .filter (.compare .or .among (.text "d") (.list [.text "'", .text ")"]))]

def quotedUpdate : Builder :=
  ((Builder.start { dialect := .postgres } .update).applyAll quotedUpdateCalls).1

theorem Value.literals_read_quotedUpdate :
    readLiteral ((list [text "', '", list [int (-3), null], text ")"]).literal ++ ", 1".toList) =
      some (list [text "', '", list [int (-3), null], text ")"], ", 1".toList) ∧
    ∃ T : Template, quotedUpdate.inline = .ok (T.write literal) ∧ T.values.length = 5 ∧
      T.ReadsBack := by
  refine ⟨literals_read.1 _ _ rfl (endsLiteral_cons (by decide) (by decide) _), ?_⟩
  have hreachable : quotedUpdate.Reachable := (Builder.Reachable.start _ _).applyAll _
  have hfenced : quotedUpdate.statement.MarkersFenced := ⟨by decide, by decide, by decide⟩
  have hapart : quotedUpdate.statement.MarkersApart := by
    intro c hc
    revert c
    decide
  obtain ⟨T, hparams, hT, hread⟩ := literals_read.2.2 _ hreachable hapart _ rfl
  exact ⟨T, hT, (congrArg (fun t => t.params.length) hparams).symm, hread hfenced⟩

def fragmentSelect (fragment : String) (values : List Value) : Builder :=
  ((Builder.start { dialect := .postgres } .select).applyAll
    [.source .from_ (.text "t") .null, .filter (.raw .and (.text fragment) (.list values))]).1

/-- Texts with nothing between them are read as a single one, be both of them values or one of them
the fragment's own. -/
theorem Value.literals_of_neighbours_merge :
    (let b := fragmentSelect "a = ??" [text "x", text "y"]
    ∃ T : Template, b.statement.compileNumbered b.context = .ok (T.numbered 0) ∧
      T.values = [text "x", text "y"] ∧ b.inline = .ok (T.write literal) ∧ ¬ T.ReadsBack ∧
      T.write literal = "SELECT * FROM \"t\" WHERE a = 'x''y'".toList ∧
      (fragmentSelect "a = ?" [text "x'y"]).inline = .ok (T.write literal)) ∧
    let b := fragmentSelect "a = 'w'?" [text "x"]
    ∃ T : Template, b.statement.compileNumbered b.context = .ok (T.numbered 0) ∧
      T.values = [text "x"] ∧ b.inline = .ok (T.write literal) ∧ ¬ T.ReadsBack ∧
      T.write literal = "SELECT * FROM \"t\" WHERE a = 'w''x'".toList ∧
      (fragmentSelect "a = ?" [text "w'x"]).inline = .ok (T.write literal) := by
  constructor
  · refine ⟨Template.ofText "SELECT * FROM \"t\" WHERE a = ".toList ++
      [.value (text "x"), .value (text "y")], rfl, rfl, rfl, fun hread => ?_, rfl, rfl⟩
    exact absurd (hread _ (text "x") [.value (text "y")] rfl rfl).1 (by decide)
  · refine ⟨Template.ofText "SELECT * FROM \"t\" WHERE a = 'w'".toList ++ [.value (text "x")],
      rfl, rfl, rfl, fun hread => ?_, rfl, rfl⟩
    exact absurd (hread _ (text "x") [] rfl rfl).1 (by decide)

end BoundSql
