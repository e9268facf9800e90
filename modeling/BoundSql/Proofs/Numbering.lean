import BoundSql.Proofs.Reachable
/-!
The placeholders of a statement are numbered from one upwards, in the order of the text and of the
values, wherever the values come from.
-/

namespace BoundSql

namespace Statement

/-- No marker of a fragment in the conditions stands in front of a decimal digit. -/
def MarkersApart (s : Statement) : Prop :=
  ∀ c ∈ s.filter.leaves ++ s.having.leaves, c.operator = .raw →
    Placeholder.MarkersApart c.column.toList

variable {ctx : Context} {s : Statement} {limit : Int}

theorem Checked.keeps_separation (h : s.Checked limit) (hm : s.MarkersApart) :
    s.Keeps LocalRule.separation.Obeys where
  items i hi hraw := LocalRule.separation_obeys (h.items i hi hraw).2
  joins j hj := LocalRule.separation_obeys (h.joins j hj).2
  filter c hc hraw :=
    ((h.filter c hc).fragment hraw).separation (hm c (List.mem_append_left _ hc) hraw)
  having c hc hraw :=
    ((h.having c hc).fragment hraw).separation (hm c (List.mem_append_right _ hc) hraw)

section Separation

variable (hs : s.Keeps LocalRule.separation.Obeys)
include hs

theorem compileNumbered_eq_of_keeps :
    s.compileNumbered ctx = (s.template ctx).map (Template.numbered 0) :=
  compileNumbered_eq ctx s fun _ _ hF => (Group.template_keeps LocalRule.separation.compositional hs.filter hF).beside

theorem countNumbered_eq_of_keeps (column : Value) :
    s.countNumbered ctx column = (s.countTemplate ctx column).map (Template.numbered 0) :=
  countNumbered_eq ctx s column fun _ _ hF => (Group.template_keeps LocalRule.separation.compositional hs.filter hF).beside

theorem exists_separated {t : BoundText} (ht : s.compileNumbered ctx = .ok t) :
    ∃ T, s.template ctx = .ok T ∧ T.Separated ∧ t = T.numbered 0 := by
  rw [compileNumbered_eq_of_keeps hs] at ht
  obtain ⟨T, hT, rfl⟩ := Outcome.map_eq_ok.1 ht
  exact ⟨T, hT, (template_keeps LocalRule.separation.compositional hs hT).beside, rfl⟩

theorem exists_separated_count {column : Value} {t : BoundText}
    (ht : s.countNumbered ctx column = .ok t) :
    ∃ T, s.countTemplate ctx column = .ok T ∧ T.Separated ∧ t = T.numbered 0 := by
  rw [countNumbered_eq_of_keeps hs] at ht
  obtain ⟨T, hT, rfl⟩ := Outcome.map_eq_ok.1 ht
  exact ⟨T, hT, (countTemplate_keeps LocalRule.separation.compositional hs hT).beside, rfl⟩

end Separation

end Statement

/-- Text whose slots can all be read and are numbered from one upwards, one for each value. -/
def BoundText.IsConsecutive (t : BoundText) : Prop :=
  Placeholder.indicesWithin (Placeholder.maxDigits t.params.length) t.sql =
    .ok (List.range' 1 t.params.length)

theorem Template.Separated.isConsecutive {T : Template} (h : T.Separated) :
    (T.numbered 0).IsConsecutive := by
  have hlegible := Template.isLegible_number_of_le h 0 0 (values T).length (by omega)
  have hindices := Template.indices_number h 0
  simp only [Int.natCast_zero, Nat.zero_add] at hlegible hindices
  simp [BoundText.IsConsecutive, Template.numbered, Placeholder.indicesWithin, hlegible, hindices]

namespace Builder

/-- Whatever calls a statement was put together with, its slots are numbered from one upwards. So
are those of its first row and those of its count. -/
theorem Reachable.slots_consecutive {b : Builder} (h : b.Reachable) (hm : b.statement.MarkersApart)
    (column : Value) :
    (∀ t, b.statement.compileNumbered b.context = .ok t → t.IsConsecutive) ∧
    (∀ t, b.statement.limitedToOne.compileNumbered b.context = .ok t → t.IsConsecutive) ∧
    (∀ t, b.statement.countNumbered b.context column = .ok t → t.IsConsecutive) := by
  have hs := h.checked.keeps_separation hm
  refine ⟨fun t ht => ?_, fun t ht => ?_, fun t ht => ?_⟩
  · obtain ⟨T, -, hT, rfl⟩ := Statement.exists_separated hs ht
    exact hT.isConsecutive
  · obtain ⟨T, -, hT, rfl⟩ := Statement.exists_separated (Statement.keeps_limitedToOne hs) ht
    exact hT.isConsecutive
  · obtain ⟨T, -, hT, rfl⟩ := Statement.exists_separated_count hs ht
    exact hT.isConsecutive

theorem markedUpdate_markersApart : markedUpdate.statement.MarkersApart := by
  intro c hc
  revert c
  decide

theorem markedUpdate_compileNumbered :
    markedUpdate.statement.compileNumbered markedUpdate.context =
      .ok { sql := "UPDATE \"t\" SET \"a\" = $1 WHERE b > $2 OR c = $3 OR (\"d\" IN ($4, $5))".toList,
            params := [.int 1, .int 2, .int 3, .int 4, .int 5] } := by
  rfl

theorem slots_consecutive_markedUpdate :
    ∃ t, markedUpdate.statement.compileNumbered markedUpdate.context = .ok t ∧
      t.params.length = 5 ∧ t.IsConsecutive :=
  ⟨_, markedUpdate_compileNumbered, rfl,
    (markedUpdate_reachable.slots_consecutive markedUpdate_markersApart .null).1 _
      markedUpdate_compileNumbered⟩

end Builder

end BoundSql
