import BoundSql.Proofs.KeptConditions
import BoundSql.Proofs.RefusedCall
/-!
The conditions that a builder has gathered. Its trees hold one condition for each call for a single
condition that was accepted, on rows and on groups apart; refused calls, other calls and the hand-over of
the statement leave them as they are.
-/

namespace BoundSql

namespace Call

def conditions : Call → List Filter
  | filter f => f.basics
  | _ => []

def groupConditions : Call → List Filter
  | having f => f.basics
  | havingRaw fragment params => [.raw .and fragment params]
  | _ => []

theorem conditions_eq_nil {c : Call} (h : c.isConditional = false) :
    c.conditions = [] ∧ c.groupConditions = [] := by
  cases c with
  | filter | having | havingRaw => cases h
  | _ => exact ⟨rfl, rfl⟩

end Call

namespace Builder

variable {b : Builder} {c : Call} {fs gs : List Filter}

/-- Builders that calls lead to, with the calls for single conditions, on rows and on groups, that were
accepted on the way. -/
inductive Gathered : Builder → List Filter → List Filter → Prop where
  | start (ctx : Context) (kind : StatementKind) : Gathered (start ctx kind) [] []
  | accepted {b : Builder} {fs gs : List Filter} (h : Gathered b fs gs) (c : Call)
    (hc : (b.apply c).2 = .ok ()) :
    Gathered (b.apply c).1 (fs ++ c.conditions) (gs ++ c.groupConditions)
  | refused {b : Builder} {fs gs : List Filter} (h : Gathered b fs gs) (c : Call) {e : Failure}
    (hc : (b.apply c).2 = .error e) : Gathered (b.apply c).1 fs gs
  | handOver {b : Builder} {fs gs : List Filter} (h : Gathered b fs gs) :
    Gathered { b with isSealed := true } fs gs

theorem Reachable.gathered (h : b.Reachable) : ∃ fs gs, b.Gathered fs gs := by
  induction h with
  | start ctx kind => exact ⟨[], [], .start ctx kind⟩
  | @call b h c ih =>
    obtain ⟨fs, gs, hb⟩ := ih
    cases hc : (b.apply c).2 with
    | ok u => exact ⟨_, _, hb.accepted c hc⟩
    | error e => exact ⟨_, _, hb.refused c hc⟩
  | handOver h ih =>
    obtain ⟨fs, gs, hb⟩ := ih
    exact ⟨fs, gs, hb.handOver⟩

end Builder

theorem Group.add_of_makeRaw {limit : Int} {g : Group} {clause : String} {fragment params : Value}
    {c : Condition} (h : Condition.makeRaw .and clause fragment params = .ok c) :
    g.add limit (.raw .and fragment params) = .ok (g.push (.leaf c)) := by
  have hmade := Condition.makeRaw_of_clause "WHERE" h
  simp [add, Filter.node, hmade, Except.map]

namespace Builder

variable {b : Builder} {c : Call} {fs gs : List Filter}

/-- The trees of a builder hold the conditions that were gathered, and only a select has some on
groups. -/
structure Holds (b : Builder) (fs gs : List Filter) : Prop where
  filter : b.statement.filter.Made b.limit fs
  having : b.statement.having.Made b.limit gs
  groups : b.kind ≠ .select → gs = []

theorem Holds.frame {s : Statement} (h : b.Holds fs gs) (hs : b.statement.SameConditions s) :
    Holds { b with statement := s } fs gs where
  filter := by
    rw [hs.filter]
    exact h.filter
  having := by
    rw [hs.having]
    exact h.having
  groups hkind := h.groups fun hselect => hkind (hs.kind.trans hselect)

theorem Holds.accepted (h : b.Holds fs gs) (hc : (b.apply c).2 = .ok ()) :
    (b.apply c).1.Holds (fs ++ c.conditions) (gs ++ c.groupConditions) := by
  obtain ⟨hoffered, hchange⟩ := change_of_ok hc
  by_cases hconditional : c.isConditional
  · have hok : (b.applyOpen c).2 = .ok () := hchange ▸ hc
    show Holds { b with statement := (b.change c).1 } _ _
    rw [hchange]
    cases c with
    | filter f =>
      obtain ⟨g, hg, hstatement⟩ := applyFilter_of_ok hok
      have heq : (b.applyOpen (.filter f)).1 = { b.statement with filter := g } := hstatement
      have hnone : (Call.filter f).groupConditions = [] := rfl
      rw [heq, hnone, List.append_nil]
      exact ⟨.add h.filter hg, h.having, h.groups⟩
    | having f =>
      obtain ⟨g, hg, hstatement⟩ := Outcome.map_eq_ok.1 (Change.whole_of_ok hok)
      have heq : (b.applyOpen (.having f)).1 = { b.statement with having := g } := hstatement.symm
      have hselect : b.kind = .select := by simpa [Call.offeredBy] using hoffered
      have hnone : (Call.having f).conditions = [] := rfl
      rw [heq, hnone, List.append_nil]
      exact ⟨h.filter, .add h.having hg, fun hkind => absurd hselect hkind⟩
    | havingRaw fragment params =>
      obtain ⟨d, hd, hstatement⟩ := Outcome.map_eq_ok.1 (Change.whole_of_ok hok)
      have heq : (b.applyOpen (.havingRaw fragment params)).1 =
          { b.statement with having := b.statement.having.push (.leaf d) } := hstatement.symm
      have hselect : b.kind = .select := by simpa [Call.offeredBy] using hoffered
      have hnone : (Call.havingRaw fragment params).conditions = [] := rfl
      rw [heq, hnone, List.append_nil]
      exact ⟨h.filter, .add h.having (Group.add_of_makeRaw hd), fun hkind => absurd hselect hkind⟩
    | _ => cases hconditional
  · have hnot : c.isConditional = false := by simpa using hconditional
    obtain ⟨hrows, hgroups⟩ := Call.conditions_eq_nil hnot
    rw [hrows, hgroups, List.append_nil, List.append_nil]
    exact h.frame (change_sameConditions hnot)

theorem Holds.refused {e : Failure} (h : b.Holds fs gs) (hc : (b.apply c).2 = .error e) :
    (b.apply c).1.Holds fs gs := by
  by_cases hconditional : c.isConditional
  · have hgradual : c.isGradual b.kind = false := by
      cases c with
      | values | select => cases hconditional
      | _ => rfl
    rw [apply_of_error hgradual hc]
    exact h
  · exact h.frame (change_sameConditions (by simpa using hconditional))

theorem Gathered.holds (h : b.Gathered fs gs) : b.Holds fs gs := by
  induction h with
  | start ctx kind => exact ⟨.empty .and, .empty .and, fun _ => rfl⟩
  | accepted _ c hc ih => exact ih.accepted hc
  | refused _ c hc ih => exact ih.refused hc
  | handOver _ ih => exact ⟨ih.filter, ih.having, ih.groups⟩

end Builder

end BoundSql
