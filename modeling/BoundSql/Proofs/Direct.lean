import BoundSql.Proofs.Numbering
/-!
Every value reaches the place it was given for. A statement can be written with literals right where
its values belong, without any placeholders; the text that is bound to its values is that text as
soon as every slot is filled with the literal of its value.
-/

namespace BoundSql

namespace Template

variable (literal : Value → Text)

theorem write_join (separator : Text) (Ts : List Template) :
    (join separator Ts).write literal = joinWith separator (Ts.map (write literal)) := by
  fun_induction join separator Ts with
  | case1 => rfl
  | case2 T => rfl
  | case3 T U Ts ih =>
    simp only [List.map_cons] at ih
    simp only [write_append, write_ofText, ih, List.map_cons, joinWith]

theorem write_each (vs : List Value) :
    (each vs).map (write literal) = vs.map literal := by
  simp [each, write, Piece.write]

theorem write_row (vs : List Value) :
    (row vs).write literal = '(' :: joinWith [',', ' '] (vs.map literal) ++ [')'] := by
  have hpar : (row vs).write literal =
      '(' :: (join [',', ' '] (each vs) ++ ofText [')']).write literal := rfl
  rw [hpar, write_append, write_join, write_each, write_ofText]
  rfl

theorem write_assignments (names : List Text) (vs : List Value) :
    (assignments names vs).write literal =
      joinWith [',', ' ']
        ((names.zip vs).map fun p => p.1 ++ " = ".toList ++ literal p.2) := by
  unfold assignments
  rw [write_join, List.map_map]
  congr 1
  refine List.map_congr_left fun p _ => ?_
  simp only [Function.comp_apply, write_append, write_ofText]
  simp [write, Piece.write]

end Template

namespace Statement

/-- A statement with the literal of every value written in the place of the value. -/
def direct (ctx : Context) (literal : Value → Text) (s : Statement) : Outcome Text :=
  (s.template ctx).map (Template.write literal)

variable {ctx : Context} {s : Statement}

/-- A text to be read is the statement written directly, whatever went wrong as well. -/
theorem inline_eq_direct (hs : s.Keeps LocalRule.separation.Obeys) :
    s.inline ctx = s.direct ctx Value.literal := by
  unfold inline direct
  rw [compileNumbered_eq_of_keeps hs, Outcome.do_map]
  cases hT : s.template ctx with
  | error e => rfl
  | ok T =>
    have hfill := Template.fill_number (template_keeps LocalRule.separation.compositional hs hT).beside Value.literal
    simp only [Template.numbered, Dialect.inline, bind, Except.bind, hfill]
    rfl

end Statement

namespace Builder

/-- Whatever calls a statement was put together with, filling its slots gives the statement written
directly, with any literals; so does the text that is made for reading. -/
theorem Reachable.fill_eq_direct {b : Builder} (h : b.Reachable) (hm : b.statement.MarkersApart) :
    (∀ (literal : Value → Text) t, b.statement.compileNumbered b.context = .ok t →
      ∃ u, b.statement.direct b.context literal = .ok u ∧
        Placeholder.fill literal t.params t.sql = .ok u) ∧
    b.inline = b.statement.direct b.context Value.literal := by
  have hs := h.checked.keeps_separation hm
  refine ⟨fun literal t ht => ?_, Statement.inline_eq_direct hs⟩
  obtain ⟨T, hT, hseparated, rfl⟩ := Statement.exists_separated hs ht
  refine ⟨T.write literal, ?_, Template.fill_number hseparated literal⟩
  unfold Statement.direct
  rw [hT]
  rfl

/-- Literals that look like slots and markers are not taken for any. -/
theorem fill_eq_direct_markedUpdate :
    ∃ t u, markedUpdate.statement.compileNumbered markedUpdate.context = .ok t ∧
      markedUpdate.statement.direct markedUpdate.context (fun _ => ['$', '1', '?']) = .ok u ∧
      Placeholder.fill (fun _ => ['$', '1', '?']) t.params t.sql = .ok u := by
  obtain ⟨u, hu, hfill⟩ :=
    (markedUpdate_reachable.fill_eq_direct markedUpdate_markersApart).1 (fun _ => ['$', '1', '?']) _
      markedUpdate_compileNumbered
  exact ⟨_, u, markedUpdate_compileNumbered, hu, hfill⟩

end Builder

end BoundSql
