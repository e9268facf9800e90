import BoundSql.Proofs.Completeness
/-!
Two ways to put conditions behind other values: to number them from there on, or to number them from
one and to move the numbers afterwards. Conditions that calls made come to the same text in both ways.
-/

namespace BoundSql

/-- Text whose slots were moved, with the same values for them. -/
def BoundText.moved (k : Int) (t : BoundText) : BoundText :=
  { t with sql := Placeholder.shift k t.sql }

def BoundText.movedWithin (limit : Nat) (k : Int) (t : BoundText) : Outcome BoundText :=
  ((Placeholder.shiftWithin limit k t.sql).map fun sql => { t with sql }).mapError .misuse

namespace Template

variable {T : Template}

theorem numbered_moved (h : T.Separated) (k : Nat) : (T.numbered 0).moved k = T.numbered k := by
  have hs := shift_number h 0 k
  rw [Nat.zero_add] at hs
  exact congrArg (fun sql => ({ sql, params := values T } : BoundText)) hs

theorem numbered_movedWithin (h : T.Separated) (limit k : Nat) :
    (T.numbered 0).movedWithin limit k =
      if k = 0 ∨ Placeholder.areWritable limit k (values T).length then .ok (T.numbered k)
      else .error (.misuse .longNumeral) := by
  unfold BoundText.movedWithin numbered
  dsimp only
  rw [shiftWithin_number h]
  split <;> rfl

end Template

theorem Placeholder.areWritable_of_le {limit m n count : Nat} (hle : m ≤ n)
    (h : areWritable limit n count) : areWritable limit m count :=
  (areWritable_natCast ..).2 fun hc =>
    Nat.le_trans (length_natText_le (Nat.add_le_add_right hle count)) ((areWritable_natCast ..).1 h hc)

theorem Condition.WellMade.keeps_separation {limit : Int} {c : Condition} (h : c.WellMade limit)
    (hm : c.operator = .raw → Placeholder.MarkersApart c.column.toList) :
    c.Keeps LocalRule.separation.Obeys :=
  fun hraw => (h.fragment hraw).separation (hm hraw)

namespace Group

def MarkersApart (g : Group) : Prop :=
  ∀ c ∈ g.leaves, c.operator = .raw → Placeholder.MarkersApart c.column.toList

def TakenFrom (g : Group) (s : Statement) : Prop :=
  ∀ c ∈ g.leaves, c ∈ s.filter.leaves ++ s.having.leaves

section

variable {ctx : Context} {g : Group} (h : ∀ c ∈ g.leaves, c.Keeps LocalRule.separation.Obeys)
include h

/-- A tree is numbered from any place on as it is numbered from one on and then moved there. -/
theorem compile_moved (k : Nat) : g.compile ctx k = (g.compile ctx 0).map (BoundText.moved k) := by
  rw [compile_eq, compile_eq, Outcome.map_map]
  cases hT : g.template ctx with
  | error e => rfl
  | ok T => exact congrArg Except.ok (Template.numbered_moved (template_keeps LocalRule.separation.compositional h hT).beside k).symm

theorem compileWithin_moved (limit k : Nat) :
    g.compileWithin limit ctx k =
      (g.compileWithin limit ctx 0).bind (BoundText.movedWithin limit k) := by
  unfold compileWithin
  rw [compile_eq, compile_eq]
  cases hT : g.template ctx with
  | error e => rfl
  | ok T =>
    have hsep : T.Separated := (template_keeps LocalRule.separation.compositional h hT).beside
    have hmoved := Template.numbered_movedWithin hsep limit k
    show (if Placeholder.areWritable limit k T.values.length then _ else _) =
      Except.bind (if Placeholder.areWritable limit (0 : Nat) T.values.length then _ else _) _
    by_cases hk : Placeholder.areWritable limit k T.values.length
    · have h0 := Placeholder.areWritable_of_le (Nat.zero_le k) hk
      rw [if_pos hk, if_pos h0]
      exact (hmoved.trans (if_pos (.inr hk))).symm
    · rw [if_neg hk]
      by_cases h0 : Placeholder.areWritable limit (0 : Nat) T.values.length
      · rw [if_pos h0]
        have hne : k ≠ 0 := by
          rintro rfl
          exact hk h0
        exact (hmoved.trans (if_neg (not_or.2 ⟨hne, hk⟩))).symm
      · rw [if_neg h0]
        rfl

end

end Group

namespace Statement

/-- An update whose conditions are numbered behind the assignments from the start, as the second
clause of a selection is numbered behind its first. -/
def compileUpdateThrough (ctx : Context) (s : Statement) : Outcome BoundText := do
  let table ← s.requireTable "table"
  if s.assignments.isEmpty then .error (.configuration .assignmentsMissing)
  else
    let set ← assignmentText ctx s.assignments.columns
    let values ← s.assignments.values s.assignments.columns
    let target ← ctx.quote table
    let filter ← s.filter.compile ctx values.length
    let sql := "UPDATE ".toList ++ target ++ " SET ".toList ++ set ++ clauseAfter "WHERE" filter.sql
    return { sql := ← withReturning ctx s sql, params := values ++ filter.params }

theorem compileUpdate_eq_through (ctx : Context) (s : Statement)
    (h : ∀ c ∈ s.filter.leaves, c.Keeps LocalRule.separation.Obeys) :
    s.compileUpdate ctx = s.compileUpdateThrough ctx := by
  unfold compileUpdate compileUpdateThrough
  refine bind_congr fun table => ?_
  split
  · rfl
  refine bind_congr fun set => bind_congr fun values => bind_congr fun target => ?_
  rw [Group.compile_eq, Group.compile_eq, Outcome.do_map, Outcome.do_map]
  refine Outcome.do_congr fun T hT => ?_
  have hmoved := Template.shiftWithin_number_of_le (Group.template_keeps LocalRule.separation.compositional h hT).beside values.length
    (values ++ T.values).length (by rw [List.length_append]; omega)
  simp only [Template.numbered] at hmoved ⊢
  rw [hmoved]
  rfl

end Statement

namespace Builder

/-- Conditions that calls made, in whatever tree and dialect, can be numbered from any place on, and
this is to number them from one and then to move them there. So an update may do either. -/
theorem Reachable.compile_offset_eq_moved {b : Builder} (h : b.Reachable) (dialect : Dialect) :
    (∀ g : Group, g.TakenFrom b.statement → g.MarkersApart → ∀ k : Nat,
      (∃ t, g.compile { b.context with dialect } 0 = .ok t ∧
        g.compile { b.context with dialect } k = .ok (t.moved k)) ∧
      ∀ limit, g.compileWithin limit { b.context with dialect } k =
        (g.compileWithin limit { b.context with dialect } 0).bind fun t => t.movedWithin limit k) ∧
    (b.statement.filter.MarkersApart →
      b.statement.compileUpdate { b.context with dialect } =
        b.statement.compileUpdateThrough { b.context with dialect }) := by
  have hchecked := h.checked
  refine ⟨fun g hg hm k => ?_, fun hm => ?_⟩
  · have hmade : ∀ c ∈ g.leaves, c.WellMade b.limit := fun c hc =>
      (List.mem_append.1 (hg c hc)).elim (hchecked.filter c) (hchecked.having c)
    have hkeeps : ∀ c ∈ g.leaves, c.Keeps LocalRule.separation.Obeys := fun c hc =>
      (hmade c hc).keeps_separation (hm c hc)
    refine ⟨?_, fun limit => Group.compileWithin_moved hkeeps limit k⟩
    obtain ⟨t, ht⟩ : Outcome.Succeeds (g.compile { b.context with dialect } 0) :=
      Group.compile_succeeds hmade
    refine ⟨t, ht, ?_⟩
    rw [Group.compile_moved hkeeps, ht]
    rfl
  · exact Statement.compileUpdate_eq_through _ _ fun c hc =>
      (hchecked.filter c hc).keeps_separation (hm c hc)

/-- Numbers that grow longer when they are moved. -/
theorem compile_offset_eq_moved_markedUpdate :
    markedUpdate.statement.filter.compile { dialect := .postgres } 8 =
      .ok { sql := "b > $9 OR c = $10 OR (\"d\" IN ($11, $12))".toList,
            params := [.int 2, .int 3, .int 4, .int 5] } ∧
    markedUpdate.statement.compileUpdate { dialect := .postgres } =
      markedUpdate.statement.compileUpdateThrough { dialect := .postgres } := by
  have hm : markedUpdate.statement.filter.MarkersApart := fun c hc =>
    markedUpdate_markersApart c (List.mem_append_left _ hc)
  obtain ⟨htree, hupdate⟩ := markedUpdate_reachable.compile_offset_eq_moved .postgres
  obtain ⟨⟨t, ht, hmoved⟩, -⟩ :=
    htree markedUpdate.statement.filter (fun c hc => List.mem_append_left _ hc) hm 8
  refine ⟨hmoved.trans ?_, hupdate hm⟩
  cases ht
  rfl

end Builder

end BoundSql
