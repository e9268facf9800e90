import BoundSql.Proofs.DialectAgreement
/-!
Statements of every kind in the two dialects. Nothing but the conditions has to do with the dialect
before the end, and the conditions of an update are moved in the same way in both of them.
-/

namespace BoundSql

open Outcome (Both)

section Clauses

variable {ps : List CaseTest} {t u : Text} {ts us : List Text}

theorem FoldsAll.after (ws : List Text) (h : FoldsAll ps ts us) :
    FoldsAll ps (ws ++ ts) (ws ++ us) :=
  (FoldsAll.same ws).append h

theorem FoldsAll.before (h : FoldsAll ps ts us) (ws : List Text) :
    FoldsAll ps (ts ++ ws) (us ++ ws) := by
  have hs := h.append (.same ws)
  rwa [List.append_nil] at hs

theorem Folds.clauseText (word : String) (h : Folds ps t u) :
    FoldsAll ps (Statement.clauseText word t) (Statement.clauseText word u) := by
  unfold Statement.clauseText
  rw [h.isEmpty_eq]
  split
  · rename_i hempty
    rw [h.tests_eq_nil (List.isEmpty_iff.1 hempty)]
    exact .nil
  · exact .single (.after _ (.char ' ' h))

theorem Folds.clauseAfter (word : String) (h : Folds ps t u) :
    Folds ps (Statement.clauseAfter word t) (Statement.clauseAfter word u) := by
  unfold Statement.clauseAfter Statement.clauseText
  rw [h.isEmpty_eq]
  split
  · rename_i hempty
    rw [h.tests_eq_nil (List.isEmpty_iff.1 hempty)]
    exact .nil
  · simp only [List.flatMap_singleton]
    exact .char ' ' (.after _ (.char ' ' h))

end Clauses

theorem Folds.shiftWithin {ps : List CaseTest} {t u : Text} (h : Folds ps t u) (limit k : Nat) :
    Both (Folds (ps.map (CaseTest.move k))) (Placeholder.shiftWithin limit k t)
      (Placeholder.shiftWithin limit k u) := by
  unfold Placeholder.shiftWithin
  rw [h.isLegible_eq]
  split
  · exact .ok (h.shift k)
  · exact .error _

namespace Statement

variable {limit : Int} {s : Statement}

/-- The conditions of a statement that pay no regard to case, in the order of its text. -/
def caseTests (s : Statement) : List Condition :=
  match s.kind with
  | .select => BoundSql.caseTests s.filter.inText ++ BoundSql.caseTests s.having.inText
  | .update | .delete => BoundSql.caseTests s.filter.inText
  | .insert | .upsert => []

theorem returningText_startsApart {ctx : Context} {t : Text} (h : s.returningText ctx = .ok t) :
    StartsApart t := by
  unfold returningText at h
  split at h
  · cases h
    rintro c ⟨⟩
  · split at h
    · cases h
      rintro c ⟨⟩
      decide
    · obtain ⟨names, -, rfl⟩ := Outcome.map_eq_ok.1 h
      rintro c ⟨⟩
      decide

theorem withReturning_agree {ps : List CaseTest} {t u : Text} (h : Folds ps t u) :
    Both (Folds ps) (s.withReturning (.postgres limit) t) (s.withReturning (.sqlite limit) u) := by
  rw [withReturning_eq, withReturning_eq]
  have hsame : s.returningText (.sqlite limit) = s.returningText (.postgres limit) := rfl
  rw [hsame]
  cases hr : s.returningText (.postgres limit) with
  | error e => exact .error e
  | ok w => exact .ok (h.before (returningText_startsApart hr))

theorem compileSelect_agree :
    Both (AgreeOn limit 0 (BoundSql.caseTests s.filter.inText ++ BoundSql.caseTests s.having.inText))
      (s.compileSelect (.postgres limit)) (s.compileSelect (.sqlite limit)) := by
  unfold compileSelect
  refine Both.after fun table _ => Both.after fun head _ => Both.after fun source _ =>
    Both.after fun joins _ => ?_
  refine Both.bind (Group.compile_agree 0 s.filter) fun b d hfilter => ?_
  refine Both.after fun grouping _ => ?_
  obtain ⟨hparams, ps, hfold, hshow⟩ := hfilter
  rw [hparams]
  refine Both.bind (Group.compile_agree b.params.length s.having) fun b' d' hhaving => ?_
  obtain ⟨hparams', qs, hfold', hshow'⟩ := hhaving
  refine Both.after fun ordering _ => ?_
  rw [hparams']
  rw [← Nat.zero_add b.params.length] at hshow'
  refine .ok ⟨rfl, ps ++ qs, FoldsAll.joinWith (by decide) ?_, standsFor_append hshow hshow'⟩
  refine .before (.before (.before ?_ _) _) _
  exact .append (.before (.after _ (hfold.clauseText "WHERE")) _) (hfold'.clauseText "HAVING")

theorem compileDelete_agree :
    Both (AgreeOn limit 0 (BoundSql.caseTests s.filter.inText))
      (s.compileDelete (.postgres limit)) (s.compileDelete (.sqlite limit)) := by
  unfold compileDelete
  refine Both.after fun table _ => Both.after fun target _ => ?_
  refine Both.bind (Group.compile_agree 0 s.filter) fun b d hbd => ?_
  obtain ⟨hparams, ps, hfold, hshow⟩ := hbd
  refine Both.bind (withReturning_agree (.after _ (hfold.clauseAfter "WHERE"))) fun t u htu => ?_
  rw [hparams]
  exact .ok ⟨rfl, ps, htu, hshow⟩

theorem compileUpdate_agree :
    Both (AgreeOn limit 0 (BoundSql.caseTests s.filter.inText))
      (s.compileUpdate (.postgres limit)) (s.compileUpdate (.sqlite limit)) := by
  unfold compileUpdate
  refine Both.after fun table _ => ?_
  split
  · exact .error _
  refine Both.after fun set _ => Both.after fun values _ => Both.after fun target _ => ?_
  refine Both.bind (Group.compile_agree 0 s.filter) fun b d hbd => ?_
  obtain ⟨hparams, ps, hfold, hshow⟩ := hbd
  rw [hparams]
  have hmoved := hfold.shiftWithin
    (Placeholder.maxDigits (values ++ b.params).length) values.length
  refine Both.bind (hmoved.mapError Failure.misuse) fun t u htu => ?_
  refine Both.bind (withReturning_agree (.after _ (htu.clauseAfter "WHERE"))) fun t' u' htu' => ?_
  refine .ok ⟨rfl, _, htu', ?_⟩
  exact List.forall₂_map_right_iff.2 (hshow.imp fun c p hp => hp.move values)

theorem compileInsert_agree :
    Both (AgreeOn limit 0 []) (s.compileInsert (.postgres limit)) (s.compileInsert (.sqlite limit)) := by
  have hsame : s.compileInsert (.sqlite limit) = s.compileInsert (.postgres limit) := rfl
  rw [hsame]
  exact .refl .same _

theorem compileUpsert_agree :
    Both (AgreeOn limit 0 []) (s.compileUpsert (.postgres limit)) (s.compileUpsert (.sqlite limit)) := by
  have hsame : s.compileUpsert (.sqlite limit) = s.compileUpsert (.postgres limit) := rfl
  rw [hsame]
  exact .refl .same _

theorem compileNumbered_agree :
    Both (AgreeOn limit 0 s.caseTests) (s.compileNumbered (.postgres limit))
      (s.compileNumbered (.sqlite limit)) := by
  unfold compileNumbered caseTests
  cases s.kind with
  | select => exact compileSelect_agree
  | insert => exact compileInsert_agree
  | update => exact compileUpdate_agree
  | delete => exact compileDelete_agree
  | upsert => exact compileUpsert_agree

theorem countOf_agree {cs : List Condition} {b d : BoundText} (target : Text)
    (h : AgreeOn limit 0 cs b d) : AgreeOn limit 0 cs (countOf target b) (countOf target d) := by
  obtain ⟨hparams, ps, hfold, hshow⟩ := h
  refine ⟨hparams, ps, .before (.after _ hfold) ?_, hshow⟩
  rintro c ⟨⟩
  decide

theorem countNumbered_agree (column : Value) :
    Both (AgreeOn limit 0 s.caseTests) (s.countNumbered (.postgres limit) column)
      (s.countNumbered (.sqlite limit) column) := by
  unfold countNumbered
  refine Both.after fun target _ => ?_
  split
  · exact compileNumbered_agree.map fun b d hbd => countOf_agree target hbd
  · exact compileNumbered_agree (s := s.counted target)

/-- What a statement is put into in the two dialects: the values are the same, and the text of one
dialect without numbers is the text of the other with case taken away in the given comparisons. -/
structure Agree (limit : Int) (cs : List Condition) (c d : Compiled) : Prop where
  params : d.params = c.params
  sql : ∃ ps u, Folds ps c.sql u ∧
    List.Forall₂ (CaseTest.StandsFor limit 0 c.params) cs ps ∧
    d.sql = Placeholder.positional ['?'] u
  plain : cs = [] → d.sql = Placeholder.positional ['?'] c.sql

theorem AgreeOn.render {cs : List Condition} {b d : BoundText} (h : AgreeOn limit 0 cs b d) :
    Agree limit cs (render (.postgres limit) b) (render (.sqlite limit) d) := by
  obtain ⟨hparams, ps, hfold, hshow⟩ := h
  refine ⟨hparams, ⟨ps, d.sql, hfold, hshow, rfl⟩, ?_⟩
  rintro rfl
  have heq := hfold.eq_of_tests_eq_nil (List.forall₂_nil_left_iff.1 hshow)
  exact congrArg (Placeholder.positional ['?']) heq.symm

/-- The two dialects agree on every statement and on its count: they refuse it with the same error,
or they bind the same values and their texts differ in the marks of the slots and in the comparisons
that pay no regard to case alone. -/
theorem dialects_agree (limit : Int) (s : Statement) :
    Both (Agree limit s.caseTests) (s.compile (.postgres limit)) (s.compile (.sqlite limit)) ∧
    ∀ column, Both (Agree limit s.caseTests) (s.compileCount (.postgres limit) column)
      (s.compileCount (.sqlite limit) column) :=
  ⟨compileNumbered_agree.map fun _ _ h => AgreeOn.render h,
    fun column => (countNumbered_agree column).map fun _ _ h => AgreeOn.render h⟩

end Statement

end BoundSql
