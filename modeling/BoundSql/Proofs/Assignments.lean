import BoundSql.Proofs.Reachable
import BoundSql.Proofs.RowMerge
/-!
The assignments of an update. Calls merge rows into them and do nothing else to them, so that no name
comes twice.
-/

namespace BoundSql

namespace Statement

variable {limit : Int} {s t : Statement}

/-- Rows were merged into the assignments, and nothing else was done to them. -/
def AssignsFrom (s t : Statement) : Prop :=
  ∃ row, t.assignments = s.assignments.merge row

theorem AssignsFrom.of_eq (h : t.assignments = s.assignments) : s.AssignsFrom t :=
  ⟨[], h⟩

theorem AssignsFrom.nodup_columns (h : s.AssignsFrom t) (hs : s.assignments.columns.Nodup) :
    t.assignments.columns.Nodup := by
  obtain ⟨row, hrow⟩ := h
  rw [hrow]
  exact Row.nodup_columns_merge row hs

theorem assignsFrom_whole {x : Outcome Statement} (hx : ∀ t, x = .ok t → s.AssignsFrom t) :
    s.AssignsFrom (Change.whole s x).1 :=
  Change.of_whole (p := s.AssignsFrom) (.of_eq rfl) hx

theorem assignsFrom_whole_map {α : Type} {x : Outcome α} {f : α → Statement}
    (hf : ∀ a, s.AssignsFrom (f a)) : s.AssignsFrom (Change.whole s (x.map f)).1 :=
  Change.of_whole_map (p := s.AssignsFrom) (.of_eq rfl) hf

theorem addItems_assignments (limit : Int) (s : Statement)
    (requests : List (Outcome (Value × Value))) :
    (addItems limit s requests).1.assignments = s.assignments := by
  induction requests generalizing s with
  | nil => rfl
  | cons request requests ih =>
    unfold addItems
    split
    · rfl
    · exact ih _

theorem appendRows_assignments (rows : Value) :
    (s.appendRows limit rows).1.assignments = s.assignments := by
  unfold appendRows
  split <;> rfl

end Statement

namespace Builder

open Statement

theorem applyFilter_assignments (b : Builder) (f : Filter) :
    (b.applyFilter f).1.assignments = b.statement.assignments := by
  unfold applyFilter
  split
  · rfl
  · rfl
  · split <;> rfl

theorem applyOpen_assignsFrom (b : Builder) (c : Call) : b.statement.AssignsFrom (b.applyOpen c).1 := by
  cases c with
  | filter f => exact .of_eq (b.applyFilter_assignments f)
  | select items => exact .of_eq (addItems_assignments _ _ _)
  | values rows =>
    simp only [applyOpen]
    split
    · exact .of_eq (appendRows_assignments rows)
    · exact assignsFrom_whole_map fun _ => .of_eq rfl
  | set data => exact assignsFrom_whole_map fun row => ⟨row, rfl⟩
  | distinct | groupBy | having | havingRaw | limit | offset | onConflict | merge =>
    exact assignsFrom_whole_map fun _ => .of_eq rfl
  | doNothing | unknown => exact .of_eq rfl
  | source =>
    refine assignsFrom_whole fun t ht => ?_
    obtain ⟨name, label, -, -, rfl⟩ := setSource_eq_ok ht
    exact .of_eq rfl
  | selectRaw =>
    refine assignsFrom_whole fun t ht => ?_
    obtain ⟨expr, label, -, -, rfl⟩ := selectRaw_eq_ok ht
    exact .of_eq rfl
  | join =>
    refine assignsFrom_whole fun t ht => ?_
    obtain ⟨joined, -, -, -, rfl⟩ := addJoin_eq_ok ht
    exact .of_eq rfl
  | orderBy =>
    refine assignsFrom_whole fun t ht => ?_
    obtain ⟨ordering, -, rfl⟩ := addOrdering_eq_ok ht
    exact .of_eq rfl
  | returning =>
    refine assignsFrom_whole fun t ht => ?_
    obtain ⟨names, -, rfl⟩ := setReturning_eq_ok ht
    exact .of_eq rfl

theorem apply_assignsFrom (b : Builder) (c : Call) :
    b.statement.AssignsFrom (b.apply c).1.statement := by
  show b.statement.AssignsFrom (b.change c).1
  obtain ⟨e, hc⟩ | ⟨-, hc⟩ := b.change_cases c
  · rw [hc]
    exact .of_eq rfl
  · rw [hc]
    exact b.applyOpen_assignsFrom c

theorem Reachable.nodup_assignments {b : Builder} (h : b.Reachable) :
    b.statement.assignments.columns.Nodup := by
  induction h with
  | start ctx kind => exact .nil
  | call h c ih => exact (apply_assignsFrom _ c).nodup_columns ih
  | handOver h ih => exact ih

theorem apply_set {b b' : Builder} {data : Value} (h : b.apply (.set data) = (b', .ok ())) :
    ∃ row, Row.ofValue data = .ok row ∧
      b'.statement.assignments = b.statement.assignments.merge row := by
  have hopen := applyOpen_of_apply_ok h
  obtain ⟨row, hrow, hstatement⟩ :=
    Outcome.map_eq_ok.1 (Change.whole_of_ok (congrArg Prod.snd hopen))
  have hleft : b'.statement =
      { b.statement with assignments := b.statement.assignments.merge row } :=
    (congrArg Prod.fst hopen).symm.trans hstatement.symm
  exact ⟨row, (writableRow_data hrow).1, congrArg Statement.assignments hleft⟩

end Builder

end BoundSql
