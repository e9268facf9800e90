import BoundSql.Proofs.CallEffect
import BoundSql.Proofs.SettledTree
/-!
The clauses of a statement: the parts that its calls write, each taken out of the statement or left out
of it. Of the conditions those that are joined by AND are one clause, and those that are joined by OR
another, as their order among each other does not count.
-/

namespace BoundSql

/-- The parts of a statement that calls write apart from each other. -/
inductive Clause where
  | source
  | items
  | distinct
  | joins
  | filter (conjunction : Conjunction)
  | grouping
  | having (conjunction : Conjunction)
  | ordering
  | limit
  | offset
  | rows
  | assignments
  | conflictColumns
  | conflictAction
  | returning
  deriving DecidableEq

namespace Call

def clause : Call → Clause
  | filter f => .filter f.conjunction
  | source .. | unknown => .source
  | select _ | selectRaw .. => .items
  | distinct _ => .distinct
  | join .. => .joins
  | groupBy _ => .grouping
  | having f => .having f.conjunction
  | havingRaw .. => .having .and
  | orderBy .. => .ordering
  | limit _ => .limit
  | offset _ => .offset
  | values _ => .rows
  | set _ => .assignments
  | onConflict _ => .conflictColumns
  | merge _ | doNothing => .conflictAction
  | returning _ => .returning

inductive Alike : Call → Call → Prop where
  | same (c : Call) : Alike c c
  | filter {f g : Filter} (h : f.Alike g) : Alike (.filter f) (.filter g)
  | having {f g : Filter} (h : f.Alike g) : Alike (.having f) (.having g)

theorem Alike.clause_eq {c d : Call} (h : c.Alike d) : d.clause = c.clause := by
  cases h with
  | same => rfl
  | filter h => exact congrArg Clause.filter h.conjunction_eq
  | having h => exact congrArg Clause.having h.conjunction_eq

theorem Alike.offeredBy_eq {c d : Call} (h : c.Alike d) (kind : StatementKind) :
    d.offeredBy kind = c.offeredBy kind := by
  cases h with
  | same => rfl
  | filter h =>
    obtain rfl | ⟨⟨_, _, rfl⟩, _, _, rfl⟩ := h.cases
    · rfl
    · rfl
  | having h => rfl

end Call

namespace Group

def only (conjunction : Conjunction) (g : Group) : Group :=
  { g with nodes := Node.settleThose conjunction g.nodes }

def without (conjunction : Conjunction) (g : Group) : Group :=
  { g with nodes := g.nodes.filter fun n => n.conjunction ≠ conjunction }

theorem only_without {c d : Conjunction} (h : c ≠ d) (g : Group) :
    (g.without d).only c = g.only c := by
  have hkept : (g.without d).nodes.filter (fun n => n.conjunction = c) =
      g.nodes.filter fun n => n.conjunction = c := by
    rw [without, List.filter_filter]
    refine List.filter_congr fun n _ => ?_
    by_cases hn : n.conjunction = c <;> simp [hn, h]
  simp only [only, Node.settleThose_eq, hkept]
  rfl

end Group

namespace Statement

def only (s : Statement) : Clause → Statement
  | .source => { kind := s.kind, table := s.table, «alias» := s.alias }
  | .items => { kind := s.kind, items := s.items }
  | .distinct => { kind := s.kind, distinct := s.distinct }
  | .joins => { kind := s.kind, joins := s.joins }
  | .filter c => { kind := s.kind, filter := s.filter.only c }
  | .grouping => { kind := s.kind, grouping := s.grouping }
  | .having c => { kind := s.kind, having := s.having.only c }
  | .ordering => { kind := s.kind, ordering := s.ordering }
  | .limit => { kind := s.kind, limit := s.limit }
  | .offset => { kind := s.kind, offset := s.offset }
  | .rows => { kind := s.kind, rows := s.rows }
  | .assignments => { kind := s.kind, assignments := s.assignments }
  | .conflictColumns => { kind := s.kind, conflictColumns := s.conflictColumns }
  | .conflictAction =>
    { kind := s.kind, mergeColumns := s.mergeColumns, conflictAction := s.conflictAction }
  | .returning => { kind := s.kind, returning := s.returning }

def without (s : Statement) : Clause → Statement
  | .source => { s with table := none, «alias» := none }
  | .items => { s with items := [] }
  | .distinct => { s with distinct := false }
  | .joins => { s with joins := [] }
  | .filter c => { s with filter := s.filter.without c }
  | .grouping => { s with grouping := [] }
  | .having c => { s with having := s.having.without c }
  | .ordering => { s with ordering := [] }
  | .limit => { s with limit := none }
  | .offset => { s with offset := none }
  | .rows => { s with rows := [] }
  | .assignments => { s with assignments := [] }
  | .conflictColumns => { s with conflictColumns := [] }
  | .conflictAction => { s with mergeColumns := none, conflictAction := .update }
  | .returning => { s with returning := [] }

theorem kind_of_only {s t : Statement} {k : Clause} (h : s.only k = t.only k) : s.kind = t.kind := by
  have hkind (s : Statement) : (s.only k).kind = s.kind := by cases k <;> rfl
  rw [← hkind s, h, hkind t]

theorem only_without {j k : Clause} (h : j ≠ k) (s : Statement) :
    (s.without k).only j = s.only j := by
  cases k with
  -- No two clauses share a field but the AND and the OR conditions.
  | filter d =>
    cases j with
    | filter c =>
      have hne : c ≠ d := fun hcd => h (congrArg Clause.filter hcd)
      simp only [only, without, Group.only_without hne]
    | _ => rfl
  | having d =>
    cases j with
    | having c =>
      have hne : c ≠ d := fun hcd => h (congrArg Clause.having hcd)
      simp only [only, without, Group.only_without hne]
    | _ => rfl
  | _ => cases j <;> first | rfl | exact absurd rfl h

end Statement

namespace Group

variable {g g' : Group} {n n' : Node} {limit : Int} {e f : Filter} {added : Option Node}

theorem without_push (g : Group) (n : Node) :
    (g.push n).without n.conjunction = g.without n.conjunction := by
  simp [push, without]

theorem only_push (hgroup : g'.only n.conjunction = g.only n.conjunction)
    (hn : n'.settle = n.settle) :
    (g'.push n').only n.conjunction = (g.push n).only n.conjunction := by
  have hconjunction : n'.conjunction = n.conjunction := by
    rw [← Node.conjunction_settle, hn, Node.conjunction_settle]
  have hnodes := congrArg Group.nodes hgroup
  have hothers := congrArg Group.conjunction hgroup
  simp only [only] at hnodes hothers
  simp [only, push, Node.settleThose_append, Node.settleThose, hconjunction, hnodes, hothers, hn]

theorem without_adding (hadded : f.node limit = .ok added) (g : Group) :
    (g.adding added).without f.conjunction = g.without f.conjunction := by
  cases added with
  | none => rfl
  | some n =>
    rw [← Filter.conjunction_of_node hadded n rfl]
    exact without_push g n

theorem only_adding (hef : e.Alike f) (hgroup : g'.only e.conjunction = g.only e.conjunction)
    (hadded : e.node limit = .ok added) :
    ∃ added', f.node limit = .ok added' ∧ (added' = none ↔ added = none) ∧
      (g'.adding added').only e.conjunction = (g.adding added).only e.conjunction := by
  obtain ⟨added', hadded', hsettle⟩ := hef.node hadded
  refine ⟨added', hadded', ?_⟩
  cases added with
  | none =>
    obtain rfl : added' = none := by simpa using hsettle
    exact ⟨.rfl, hgroup⟩
  | some n =>
    obtain ⟨n', rfl, hn⟩ : ∃ n', added' = some n' ∧ n'.settle = n.settle := by simpa using hsettle
    have hconjunction := Filter.conjunction_of_node hadded n rfl
    rw [← hconjunction] at hgroup ⊢
    exact ⟨by simp, only_push hgroup hn⟩

end Group

end BoundSql
