import BoundSql.Proofs.CaseFolding
import BoundSql.Proofs.Meaning
import BoundSql.Proofs.StatementTemplate
/-!
The two dialects put the same statements into text. They fail together, bind the same values, and
their texts differ in nothing but the marks of the slots and the comparisons that pay no regard to
case, each of which has its column and the slot of its value in both of them.
-/

namespace BoundSql

inductive Outcome.Both {ε α β : Type} (R : α → β → Prop) : Except ε α → Except ε β → Prop where
  | ok {a : α} {b : β} (h : R a b) : Both R (.ok a) (.ok b)
  | error (e : ε) : Both R (.error e) (.error e)

namespace Outcome.Both

variable {ε α β γ δ : Type} {R R' : α → β → Prop} {S : γ → δ → Prop}

theorem bind {x : Except ε α} {y : Except ε β} {f : α → Except ε γ} {g : β → Except ε δ}
    (h : Both R x y) (hf : ∀ a b, R a b → Both S (f a) (g b)) : Both S (x >>= f) (y >>= g) := by
  cases h with
  | ok h => exact hf _ _ h
  | error e => exact .error e

theorem after {x : Except ε α} {f : α → Except ε γ} {g : α → Except ε δ}
    (hf : ∀ a, x = .ok a → Both S (f a) (g a)) : Both S (x >>= f) (x >>= g) := by
  cases x with
  | error e => exact .error e
  | ok a => exact hf a rfl

theorem map {x : Except ε α} {y : Except ε β} {f : α → γ} {g : β → δ} (h : Both R x y)
    (hf : ∀ a b, R a b → S (f a) (g b)) : Both S (x.map f) (y.map g) := by
  cases h with
  | ok h => exact .ok (hf _ _ h)
  | error e => exact .error e

theorem mapError {ε' : Type} {x : Except ε α} {y : Except ε β} (h : Both R x y) (f : ε → ε') :
    Both R (x.mapError f) (y.mapError f) := by
  cases h with
  | ok h => exact .ok h
  | error e => exact .error (f e)

theorem refl {R : α → α → Prop} (hR : ∀ a, R a a) (x : Except ε α) : Both R x x := by
  cases x with
  | error e => exact .error e
  | ok a => exact .ok (hR a)

end Outcome.Both

open Outcome (Both)

def Operator.ignoresCase : Operator → Bool
  | ilike | notIlike => true
  | _ => false

/-- A comparison stands for a condition: with its column, its operator, and its value in the slot. The
slots of the values are numbered after the offset. -/
structure CaseTest.StandsFor (limit : Int) (offset : Nat) (params : List Value) (c : Condition)
    (p : CaseTest) : Prop where
  column : Identifier.quoteName limit c.column = .ok p.column
  operator : c.operator = if p.negated then .notIlike else .ilike
  value : ∃ i, p.slot = offset + i + 1 ∧ params[i]? = some c.value

namespace CaseTest.StandsFor

variable {limit : Int} {offset : Nat} {params : List Value} {c : Condition} {p : CaseTest}

theorem append (h : p.StandsFor limit offset params c) (more : List Value) :
    p.StandsFor limit offset (params ++ more) c := by
  obtain ⟨i, hi, hv⟩ := h.value
  refine ⟨h.column, h.operator, i, hi, ?_⟩
  rw [List.getElem?_append_left (List.getElem?_eq_some_iff.1 hv).1, hv]

theorem after (before : List Value) (h : p.StandsFor limit (offset + before.length) params c) :
    p.StandsFor limit offset (before ++ params) c := by
  obtain ⟨i, hi, hv⟩ := h.value
  refine ⟨h.column, h.operator, before.length + i, by omega, ?_⟩
  rw [List.getElem?_append_right (by omega), Nat.add_sub_cancel_left, hv]

theorem move (before : List Value) (h : p.StandsFor limit offset params c) :
    (p.move before.length).StandsFor limit offset (before ++ params) c := by
  obtain ⟨i, hi, hv⟩ := h.value
  refine ⟨h.column, h.operator, before.length + i, ?_, ?_⟩
  · simp only [CaseTest.move]
    omega
  · rw [List.getElem?_append_right (by omega), Nat.add_sub_cancel_left, hv]

end CaseTest.StandsFor

/-- The texts of the two dialects for the same conditions: they bind the same values, and the second
has case taken away in the comparisons that stand for the given conditions, in their order. -/
def AgreeOn (limit : Int) (offset : Nat) (cs : List Condition) (b d : BoundText) : Prop :=
  d.params = b.params ∧
    ∃ ps, Folds ps b.sql d.sql ∧ List.Forall₂ (CaseTest.StandsFor limit offset b.params) cs ps

def AgreeOnAll (limit : Int) (offset : Nat) (cs : List Condition) (bs ds : List BoundText) : Prop :=
  allParams ds = allParams bs ∧
    ∃ ps, FoldsAll ps (bs.map BoundText.sql) (ds.map BoundText.sql) ∧
      List.Forall₂ (CaseTest.StandsFor limit offset (allParams bs)) cs ps

def caseTests (shown : List (Condition × Nat)) : List Condition :=
  (shown.map Prod.fst).filter fun c => c.operator.ignoresCase

section Lists

variable {limit : Int} {offset : Nat} {cs cs' : List Condition} {b d : BoundText}
  {bs ds bs' ds' : List BoundText}

theorem caseTests_append (xs ys : List (Condition × Nat)) :
    caseTests (xs ++ ys) = caseTests xs ++ caseTests ys := by
  simp [caseTests]

theorem standsFor_append {params more : List Value} {ps qs : List CaseTest}
    (h : List.Forall₂ (CaseTest.StandsFor limit offset params) cs ps)
    (h' : List.Forall₂ (CaseTest.StandsFor limit (offset + params.length) more) cs' qs) :
    List.Forall₂ (CaseTest.StandsFor limit offset (params ++ more)) (cs ++ cs') (ps ++ qs) :=
  List.rel_append (h.imp fun _ _ hp => hp.append more) (h'.imp fun _ _ hp => hp.after params)

theorem AgreeOn.same (b : BoundText) : AgreeOn limit offset [] b b :=
  ⟨rfl, [], .same _, .nil⟩

theorem AgreeOn.eq_nil (h : AgreeOn limit offset cs b d) (hb : b.sql.isEmpty) : cs = [] := by
  obtain ⟨-, ps, hfold, hshow⟩ := h
  rw [hfold.tests_eq_nil (List.isEmpty_iff.1 hb)] at hshow
  exact List.forall₂_nil_right_iff.1 hshow

theorem AgreeOn.isEmpty_eq (h : AgreeOn limit offset cs b d) : d.sql.isEmpty = b.sql.isEmpty := by
  obtain ⟨-, ps, hfold, -⟩ := h
  exact hfold.isEmpty_eq

theorem AgreeOnAll.nil : AgreeOnAll limit offset [] [] [] :=
  ⟨rfl, [], .nil, .nil⟩

theorem AgreeOnAll.cons (h : AgreeOn limit offset cs b d)
    (hs : AgreeOnAll limit (offset + b.params.length) cs' bs ds) :
    AgreeOnAll limit offset (cs ++ cs') (b :: bs) (d :: ds) := by
  obtain ⟨hparams, ps, hfold, hshow⟩ := h
  obtain ⟨hparams', qs, hfolds, hshows⟩ := hs
  refine ⟨?_, ps ++ qs, .cons hfold hfolds, standsFor_append hshow hshows⟩
  simp only [allParams] at hparams' ⊢
  rw [List.flatMap_cons, List.flatMap_cons, hparams, hparams']

theorem AgreeOnAll.joinLevel (ha : AgreeOnAll limit offset cs bs ds)
    (ho : AgreeOnAll limit (offset + (allParams bs).length) cs' bs' ds') :
    AgreeOn limit offset (cs ++ cs') (joinLevel bs bs') (joinLevel ds ds') := by
  obtain ⟨hparams, ps, hfolds, hshow⟩ := ha
  obtain ⟨hparams', qs, hfolds', hshow'⟩ := ho
  refine ⟨by simp only [BoundSql.joinLevel, hparams, hparams'], ps ++ qs, ?_,
    standsFor_append hshow hshow'⟩
  have hboth : Folds ps (joinWith " AND ".toList (bs.map BoundText.sql))
      (joinWith " AND ".toList (ds.map BoundText.sql)) :=
    hfolds.joinWith (by decide)
  simp only [BoundSql.joinLevel, joinAlternatives, hfolds'.isEmpty_eq, hboth.isEmpty_eq]
  split
  · rename_i hnone
    rw [hfolds'.tests_eq_nil (List.isEmpty_iff.1 hnone), List.append_nil]
    exact hboth
  · refine FoldsAll.joinWith (by decide) ?_
    split
    · rename_i hempty
      rw [hboth.tests_eq_nil (List.isEmpty_iff.1 hempty)]
      exact hfolds'
    · exact (FoldsAll.single hboth).append hfolds'

theorem AgreeOn.parenthesize (h : AgreeOn limit offset cs b d) :
    AgreeOn limit offset cs (parenthesize b) (parenthesize d) := by
  obtain ⟨hparams, ps, hfold, hshow⟩ := h
  refine ⟨hparams, ps, ?_, hshow⟩
  simp only [BoundSql.parenthesize, hfold.isEmpty_eq]
  split
  · rename_i hempty
    rw [hfold.tests_eq_nil (List.isEmpty_iff.1 hempty)]
    exact .nil
  · refine .char '(' (hfold.before ?_)
    rintro c ⟨⟩
    decide

end Lists

def Context.postgres (limit : Int) : Context := { dialect := .postgres, limit }

def Context.sqlite (limit : Int) : Context := { dialect := .sqlite, limit }

section Trees

variable {limit : Int}

theorem CaseTest.renderPattern_postgres (p : CaseTest) :
    Dialect.postgres.renderPattern p.column (if p.negated then .notIlike else .ilike)
      (Placeholder.slotText p.slot) = p.native := by
  have hword : ∀ word : Operator, p.column ++ ' ' :: word.symbol.toList ++
      ' ' :: Placeholder.slotText p.slot =
        p.column ++ (' ' :: word.symbol.toList ++ [' ']) ++ Placeholder.slotText p.slot := by simp
  unfold native nativeHead
  cases p.negated with
  | false => exact hword .ilike
  | true => exact hword .notIlike

theorem CaseTest.renderPattern_sqlite (p : CaseTest) :
    Dialect.sqlite.renderPattern p.column (if p.negated then .notIlike else .ilike)
      (Placeholder.slotText p.slot) = p.folded := by
  unfold folded foldedHead
  cases p.negated <;> rfl

theorem Condition.comparison_agree (o : Nat) {c : Condition} (h : c.operator.ignoresCase) :
    Both (AgreeOn limit o [c]) (c.comparisonText (.postgres limit) o)
      (c.comparisonText (.sqlite limit) o) := by
  unfold comparisonText
  refine Both.after fun column hcolumn => ?_
  have hquote : Identifier.quoteName limit c.column = .ok column := hcolumn
  have hquoted := Identifier.quoteName_isQuoted hquote
  have htest : ∀ negated : Bool, c.operator = (if negated then .notIlike else .ilike) →
      ∃ p : CaseTest, p.StandsFor limit o [c.value] c ∧
        Dialect.postgres.renderPattern column c.operator (Placeholder.slotText (o + 1)) = p.native ∧
        Dialect.sqlite.renderPattern column c.operator (Placeholder.slotText (o + 1)) = p.folded := by
    intro negated hop
    let p : CaseTest := ⟨column, hquoted, negated, o + 1⟩
    refine ⟨p, ⟨hquote, hop, 0, rfl, rfl⟩, ?_, ?_⟩
    · rw [hop, ← p.renderPattern_postgres]
      rfl
    · rw [hop, ← p.renderPattern_sqlite]
      rfl
  obtain ⟨negated, hop⟩ : ∃ negated : Bool, c.operator = if negated then .notIlike else .ilike := by
    cases hop : c.operator with
    | ilike => exact ⟨false, rfl⟩
    | notIlike => exact ⟨true, rfl⟩
    | _ =>
      rw [hop] at h
      cases h
  obtain ⟨p, hp, hnative, hfolded⟩ := htest negated hop
  have hpattern : c.operator.isPattern := by
    rw [hop]
    cases negated <;> rfl
  simp only [hpattern, ↓reduceIte]
  have hfold := Folds.test p .nil (by rintro d ⟨⟩)
  rw [List.append_nil, List.append_nil, ← hnative, ← hfolded] at hfold
  exact .ok ⟨rfl, [p], hfold, .cons hp .nil⟩

theorem Condition.compile_eq_of_not_ignoresCase (o : Nat) {c : Condition}
    (h : c.operator.ignoresCase = false) :
    c.compile (.sqlite limit) o = c.compile (.postgres limit) o := by
  unfold compile
  cases hop : c.operator with
  | ilike | notIlike =>
    rw [hop] at h
    cases h
  | isNull | isNotNull | among | notAmong | raw => rfl
  | _ =>
    simp only [comparisonText, hop]
    rfl

theorem Condition.compile_agree (o i : Nat) (c : Condition) :
    Both (AgreeOn limit o (caseTests [(c, i)])) (c.compile (.postgres limit) o)
      (c.compile (.sqlite limit) o) := by
  cases h : c.operator.ignoresCase with
  | false =>
    have hnone : caseTests [(c, i)] = [] := by simp [caseTests, h]
    rw [hnone, compile_eq_of_not_ignoresCase o h]
    exact .refl .same _
  | true =>
    have hone : caseTests [(c, i)] = [c] := by simp [caseTests, h]
    have hagree := @comparison_agree limit o c h
    rw [hone]
    unfold compile
    cases hop : c.operator with
    | ilike | notIlike => exact hagree
    | _ =>
      rw [hop] at h
      cases h

namespace Node

mutual

theorem compile_agree (o i : Nat) : (n : Node) →
    Both (AgreeOn limit o (caseTests (n.inText i))) (n.compile (.postgres limit) o)
      (n.compile (.sqlite limit) o)
  | leaf c => Condition.compile_agree o i c
  | group _ nodes => by
    rw [inText, caseTests_append]
    unfold compile
    refine Both.bind (compileThose_agree .and o i nodes) fun as as' has => ?_
    rw [has.1]
    exact (compileThose_agree .or _ i nodes).map fun os os' hos => (has.joinLevel hos).parenthesize

theorem compileThose_agree (conjunction : Conjunction) (o i : Nat) : (ns : List Node) →
    Both (AgreeOnAll limit o (caseTests (inTextOf conjunction i ns)))
      (compileThose (.postgres limit) conjunction o ns)
      (compileThose (.sqlite limit) conjunction o ns)
  | [] => .ok .nil
  | n :: ns => by
    unfold inTextOf compileThose
    split
    · rw [caseTests_append]
      refine Both.bind (compile_agree o i n) fun b d hbd => ?_
      rw [hbd.isEmpty_eq, hbd.1]
      split
      · rename_i hempty
        rw [hbd.eq_nil hempty]
        exact compileThose_agree conjunction o _ ns
      · exact (compileThose_agree conjunction (o + b.params.length) _ ns).map
          fun bs ds h => .cons hbd h
    · exact compileThose_agree conjunction o _ ns

end

end Node

theorem Group.compile_agree (o : Nat) (g : Group) :
    Both (AgreeOn limit o (caseTests g.inText)) (g.compile (.postgres limit) o)
      (g.compile (.sqlite limit) o) := by
  unfold compile inText
  rw [caseTests_append]
  refine Both.bind (Node.compileThose_agree .and o 0 g.nodes) fun as as' has => ?_
  rw [has.1]
  exact (Node.compileThose_agree .or _ 0 g.nodes).map fun os os' hos => has.joinLevel hos

end Trees

end BoundSql
