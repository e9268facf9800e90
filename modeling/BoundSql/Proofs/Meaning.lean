import BoundSql.Proofs.ConditionTemplate
/-!
What a tree of conditions means, given whether its conditions are true. Conditions are told apart by
their places, counted in the order in which they were added; the text shows them in another order.
-/

namespace BoundSql

/-- A level is true if its AND nodes are, as long as there are any, or one of its OR nodes is. -/
def levelTruth (ands ors : List Bool) : Bool :=
  (!ands.isEmpty && ands.all id) || ors.any id

namespace Node

mutual

/-- Whether a node is true, given whether the conditions are that stand at `i` and after it. -/
def holds (ν : Nat → Bool) (i : Nat) : Node → Bool
  | leaf _ => ν i
  | group _ nodes => levelTruth (truthsOf ν .and i nodes) (truthsOf ν .or i nodes)

def truthsOf (ν : Nat → Bool) (conjunction : Conjunction) (i : Nat) : List Node → List Bool
  | [] => []
  | n :: ns =>
    if n.conjunction = conjunction && !n.isEmpty then
      holds ν i n :: truthsOf ν conjunction (i + n.leaves.length) ns
    else truthsOf ν conjunction (i + n.leaves.length) ns

end

mutual

/-- The conditions of a node in the order of the text, each with its place. -/
def inText (i : Nat) : Node → List (Condition × Nat)
  | leaf c => [(c, i)]
  | group _ nodes => inTextOf .and i nodes ++ inTextOf .or i nodes

def inTextOf (conjunction : Conjunction) (i : Nat) : List Node → List (Condition × Nat)
  | [] => []
  | n :: ns =>
    if n.conjunction = conjunction then
      inText i n ++ inTextOf conjunction (i + n.leaves.length) ns
    else inTextOf conjunction (i + n.leaves.length) ns

end

end Node

namespace Group

def holds (ν : Nat → Bool) (g : Group) : Bool :=
  levelTruth (Node.truthsOf ν .and 0 g.nodes) (Node.truthsOf ν .or 0 g.nodes)

def inText (g : Group) : List (Condition × Nat) :=
  Node.inTextOf .and 0 g.nodes ++ Node.inTextOf .or 0 g.nodes

end Group

namespace Node

mutual

theorem inText_perm : (n : Node) → ∀ i, (n.inText i).Perm (n.leaves.zipIdx i)
  | leaf _, _ => .refl _
  | group _ nodes, i => inTextOf_perm nodes i

theorem inTextOf_perm : (ns : List Node) → ∀ i,
    (inTextOf .and i ns ++ inTextOf .or i ns).Perm ((leavesOf ns).zipIdx i)
  | [], _ => .refl _
  | n :: ns, i => by
    have hn := inText_perm n i
    have hns := inTextOf_perm ns (i + n.leaves.length)
    rw [leavesOf, List.zipIdx_append]
    cases hc : n.conjunction with
    | and =>
      simp only [inTextOf, hc, ↓reduceIte, reduceCtorEq, List.append_assoc]
      exact hn.append hns
    | or =>
      simp only [inTextOf, hc, ↓reduceIte, reduceCtorEq]
      exact (List.perm_append_comm_assoc _ _ _).trans (hn.append hns)

end

theorem inText_eq_nil_iff (n : Node) (i : Nat) : n.inText i = [] ↔ n.isEmpty := by
  have hperm := inText_perm n i
  rw [isEmpty_iff]
  constructor
  · intro h
    rw [h] at hperm
    simpa using hperm.symm.eq_nil
  · intro h
    rw [h] at hperm
    exact hperm.eq_nil

end Node

end BoundSql
