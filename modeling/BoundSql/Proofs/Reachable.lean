import BoundSql.Proofs.CallEffect
import BoundSql.Proofs.MadeCondition
import BoundSql.Proofs.StatementRule
/-!
What calls can make of a builder. Whatever the calls are and however they end, no text of the caller
gets into a statement unchecked.
-/

namespace BoundSql

namespace Builder

/-- The builders that calls lead to, refused calls among them, before and after the statement is
handed over. -/
inductive Reachable : Builder → Prop where
  | start (ctx : Context) (kind : StatementKind) : Reachable (start ctx kind)
  | call {b : Builder} (h : Reachable b) (c : Call) : Reachable (b.apply c).1
  | handOver {b : Builder} (h : Reachable b) : Reachable { b with isSealed := true }

theorem Reachable.applyAll {b : Builder} (h : b.Reachable) (cs : List Call) :
    (b.applyAll cs).1.Reachable := by
  induction cs generalizing b with
  | nil => exact h
  | cons c cs ih =>
    have hb := h.call c
    unfold Builder.applyAll
    split
    · rename_i b' he
      rw [he] at hb
      exact ih hb
    · rename_i b' e he
      rw [he] at hb
      exact hb

end Builder

namespace Change

variable {p : Statement → Prop} {s : Statement}

theorem of_whole {x : Outcome Statement} (h : p s) (hx : ∀ t, x = .ok t → p t) : p (whole s x).1 := by
  cases x with
  | error e => exact h
  | ok t => exact hx t rfl

theorem of_whole_map {α : Type} {x : Outcome α} {f : α → Statement} (h : p s) (hf : ∀ a, p (f a)) :
    p (whole s (x.map f)).1 :=
  of_whole h fun t ht => by
    obtain ⟨a, -, rfl⟩ := Outcome.map_eq_ok.1 ht
    exact hf a

end Change

namespace Statement

/-- A statement into which no text of the caller came unchecked. -/
structure Checked (limit : Int) (s : Statement) : Prop where
  items : ∀ i ∈ s.items, i.raw → SqlFragment.Admitted i.expr.toList
  joins : ∀ j ∈ s.joins, SqlFragment.Admitted j.on.toList
  filter : ∀ c ∈ s.filter.leaves, c.WellMade limit
  having : ∀ c ∈ s.having.leaves, c.WellMade limit

variable {limit : Int} {s t : Statement}

theorem Checked.frame (h : s.Checked limit) (hitems : t.items = s.items) (hjoins : t.joins = s.joins)
    (hfilter : t.filter = s.filter) (hhaving : t.having = s.having) : t.Checked limit where
  items := by rw [hitems]; exact h.items
  joins := by rw [hjoins]; exact h.joins
  filter := by rw [hfilter]; exact h.filter
  having := by rw [hhaving]; exact h.having

theorem Checked.whole {x : Outcome Statement} (h : s.Checked limit)
    (hx : ∀ t, x = .ok t → t.Checked limit) : (Change.whole s x).1.Checked limit :=
  Change.of_whole (p := Checked limit) h hx

end Statement

theorem Filter.node_wellMade {limit : Int} {f : Filter} {n : Node}
    (h : f.node limit = .ok (some n)) : ∀ c ∈ n.leaves, c.WellMade limit := by
  intro c hc
  obtain ⟨g, -, hg⟩ := makes_of_mem_leaves h hc
  exact hg.wellMade

theorem Group.push_wellMade {limit : Int} {g : Group} {n : Node}
    (hg : ∀ c ∈ g.leaves, c.WellMade limit) (hn : ∀ c ∈ n.leaves, c.WellMade limit) :
    ∀ c ∈ (g.push n).leaves, c.WellMade limit := by
  intro c hc
  rw [leaves_push] at hc
  rcases List.mem_append.1 hc with hm | hm
  · exact hg c hm
  · exact hn c hm

namespace Statement

variable {limit : Int} {s t : Statement}

theorem selectItem_raw {expr other : Value} {item : SelectItem}
    (h : selectItem limit expr other = .ok item) : item.raw = false := by
  unfold selectItem at h
  dsimp only at h
  split at h <;>
  · obtain ⟨name, -, h⟩ := Outcome.do_eq_ok.1 h
    obtain ⟨second, -, h⟩ := Outcome.do_eq_ok.1 h
    cases h
    rfl

theorem addItems_checked (h : s.Checked limit) (requests : List (Outcome (Value × Value))) :
    (addItems limit s requests).1.Checked limit := by
  induction requests generalizing s with
  | nil => exact h
  | cons request requests ih =>
    unfold addItems
    split
    · exact h
    · rename_i item hitem
      refine ih ⟨fun i hi hraw => ?_, h.joins, h.filter, h.having⟩
      rcases List.mem_append.1 hi with hm | hm
      · exact h.items i hm hraw
      · obtain ⟨r, -, hr⟩ := Outcome.bind_eq_ok.1 hitem
        rw [List.mem_singleton.1 hm, selectItem_raw hr] at hraw
        cases hraw

theorem selectRaw_checked {expression other : Value} (h : s.Checked limit)
    (ht : s.selectRaw limit expression other = .ok t) : t.Checked limit := by
  obtain ⟨expr, label, hexpr, -, rfl⟩ := selectRaw_eq_ok ht
  refine ⟨fun i hi hraw => ?_, h.joins, h.filter, h.having⟩
  rcases List.mem_append.1 hi with hm | hm
  · exact h.items i hm hraw
  · rw [List.mem_singleton.1 hm]
    exact (SqlFragment.check_eq_ok hexpr).2

theorem addJoin_checked {table on other kind : Value} (h : s.Checked limit)
    (ht : s.addJoin limit table on other kind = .ok t) : t.Checked limit := by
  obtain ⟨joined, -, -, hcondition, rfl⟩ := addJoin_eq_ok ht
  refine ⟨h.items, fun j hj => ?_, h.filter, h.having⟩
  rcases List.mem_append.1 hj with hm | hm
  · exact h.joins j hm
  · rw [List.mem_singleton.1 hm]
    exact (SqlFragment.check_eq_ok hcondition).2

theorem addCondition_checked {n : Node} (h : s.Checked limit)
    (hn : ∀ c ∈ n.leaves, c.WellMade limit) : (s.addCondition n).Checked limit :=
  ⟨h.items, h.joins, Group.push_wellMade h.filter hn, h.having⟩

theorem addHaving_checked {f : Filter} (h : s.Checked limit)
    (ht : s.addHaving limit f = .ok t) : t.Checked limit := by
  unfold addHaving at ht
  obtain ⟨g, hg, rfl⟩ := Outcome.map_eq_ok.1 ht
  obtain ⟨added, hadded, rfl⟩ := Outcome.map_eq_ok.1 hg
  cases added with
  | none => exact h
  | some n =>
    exact ⟨h.items, h.joins, h.filter, Group.push_wellMade h.having (Filter.node_wellMade hadded)⟩

theorem addHavingRaw_checked {fragment params : Value} (h : s.Checked limit)
    (ht : s.addHavingRaw fragment params = .ok t) : t.Checked limit := by
  unfold addHavingRaw at ht
  obtain ⟨c, hc, rfl⟩ := Outcome.map_eq_ok.1 ht
  refine ⟨h.items, h.joins, h.filter, Group.push_wellMade h.having fun d hd => ?_⟩
  rw [List.mem_singleton.1 hd]
  exact Condition.makeRaw_wellMade limit hc

theorem Checked.of_map {α : Type} {x : Outcome α} {f : α → Statement} (h : s.Checked limit)
    (hf : ∀ a, (f a).Checked limit) : (Change.whole s (x.map f)).1.Checked limit :=
  Change.of_whole_map (p := Checked limit) h hf

theorem setSource_checked {table other : Value} (h : s.Checked limit)
    (ht : s.setSource limit table other = .ok t) : t.Checked limit := by
  obtain ⟨name, label, -, -, rfl⟩ := setSource_eq_ok ht
  exact h.frame rfl rfl rfl rfl

theorem addOrdering_checked {column direction : Value} (h : s.Checked limit)
    (ht : s.addOrdering limit column direction = .ok t) : t.Checked limit := by
  obtain ⟨ordering, -, rfl⟩ := addOrdering_eq_ok ht
  exact h.frame rfl rfl rfl rfl

theorem setReturning_checked {columns : List Value} (h : s.Checked limit)
    (ht : s.setReturning limit columns = .ok t) : t.Checked limit := by
  obtain ⟨names, -, rfl⟩ := setReturning_eq_ok ht
  exact h.frame rfl rfl rfl rfl

theorem appendRows_checked (rows : Value) (h : s.Checked limit) :
    (s.appendRows limit rows).1.Checked limit := by
  unfold appendRows
  split
  · exact h
  · exact h.frame rfl rfl rfl rfl

end Statement

namespace Builder

open Statement

theorem applyFilter_checked {b : Builder} (h : b.statement.Checked b.limit) (f : Filter) :
    (b.applyFilter f).1.Checked b.limit := by
  unfold applyFilter
  split
  · exact h
  · exact h
  · rename_i n hn
    split
    · exact h
    · exact addCondition_checked h (Filter.node_wellMade hn)

theorem applyOpen_checked {b : Builder} (h : b.statement.Checked b.limit) (c : Call) :
    (b.applyOpen c).1.Checked b.limit := by
  cases c with
  | filter f => exact applyFilter_checked h f
  | source word table other => exact h.whole fun t ht => setSource_checked h ht
  | select items => exact addItems_checked h _
  | selectRaw expression other => exact h.whole fun t ht => selectRaw_checked h ht
  | join table on other kind => exact h.whole fun t ht => addJoin_checked h ht
  | having f => exact h.whole fun t ht => addHaving_checked h ht
  | havingRaw fragment params => exact h.whole fun t ht => addHavingRaw_checked h ht
  | orderBy column direction => exact h.whole fun t ht => addOrdering_checked h ht
  | returning columns => exact h.whole fun t ht => setReturning_checked h ht
  | distinct | groupBy | limit | offset | set | onConflict | merge =>
    exact h.of_map fun _ => h.frame rfl rfl rfl rfl
  | values rows =>
    simp only [applyOpen]
    split
    · exact appendRows_checked rows h
    · exact h.of_map fun _ => h.frame rfl rfl rfl rfl
  | doNothing => exact h.frame rfl rfl rfl rfl
  | unknown => exact h

/-- A call lets nothing unchecked into a statement, whether it ends well or not. -/
theorem apply_checked {b : Builder} (h : b.statement.Checked b.limit) (c : Call) :
    (b.apply c).1.statement.Checked b.limit := by
  show (b.change c).1.Checked b.limit
  obtain ⟨e, hc⟩ | ⟨-, hc⟩ := b.change_cases c
  · rw [hc]
    exact h
  · rw [hc]
    exact applyOpen_checked h c

/-- In a builder that calls led to there is no text of the caller that was not checked. -/
theorem Reachable.checked {b : Builder} (h : b.Reachable) : b.statement.Checked b.limit := by
  induction h with
  | start ctx kind =>
    refine ⟨?_, ?_, ?_, ?_⟩ <;> intro x hx <;> cases hx
  | call h c ih => exact apply_checked ih c
  | handOver h ih => exact ih

def markedUpdateCalls : List Call :=
  [.source .table (.text "t") .null, .set (.mapping [(.text "a", .int 1)]),
    .filter (.raw .and (.text "b > ? OR c = ?") (.list [.int 2, .int 3])),
    .filter (.nested .or [.compare .and .among (.text "d") (.list [.int 4, .int 5])])]

def markedUpdate : Builder :=
  ((start { dialect := .sqlite } .update).applyAll markedUpdateCalls).1

theorem markedUpdate_reachable : markedUpdate.Reachable :=
  (Reachable.start _ _).applyAll _

end Builder

end BoundSql
