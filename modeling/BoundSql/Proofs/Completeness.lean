import BoundSql.Proofs.Acceptance
import BoundSql.Proofs.NameDecoding
import BoundSql.Proofs.Numbering
import BoundSql.Proofs.ShiftAction
/-!
Statements whose calls were all accepted can be put into text. What may still be missing is a
clause that the kind of the statement asks for, and an upsert may name columns to be overwritten that
its row does not have; nothing else is refused so late. Only an update may still fail, when a marker of
its conditions stands in front of so many digits that no number is read from them.
-/

namespace BoundSql

open Identifier (Quotable)
open Outcome (Succeeds)

variable {ctx : Context} {o : Int}

theorem Identifier.Quotable.isEmpty_eq_false {limit : Int} {name : String}
    (h : Quotable limit name) : name.isEmpty = false := by
  obtain ⟨q, hq⟩ := h
  cases hname : name.isEmpty with
  | false => rfl
  | true =>
    rw [String.isEmpty_iff.1 hname] at hq
    cases hq

theorem Context.quoteAll_succeeds {names : List String} (h : ∀ c ∈ names, Quotable ctx.limit c) :
    Succeeds (ctx.quoteAll names) :=
  (Outcome.succeeds_mapM.2 h).map _

theorem Placeholder.renumber_succeeds {fragment : Text} {expected : Nat}
    (h : markerCount fragment = expected) : Succeeds (renumber fragment o expected) := by
  unfold renumber
  rw [if_pos (by rw [h])]
  exact ⟨_, rfl⟩

theorem Condition.WellMade.compile_succeeds {c : Condition} (h : c.WellMade ctx.limit) :
    Succeeds (c.compile ctx o) := by
  have hcolumn : c.operator ≠ .raw → Succeeds (ctx.quote c.column) := h.column
  unfold compile
  cases hop : c.operator with
  | isNull | isNotNull =>
    rw [hop] at hcolumn
    exact (hcolumn (by decide)).bind fun q _ => Outcome.succeeds_pure _
  | among | notAmong =>
    obtain ⟨vs, hvs⟩ := h.members (by rw [hop]; rfl)
    unfold membershipText
    rw [hvs]
    rw [hop] at hcolumn
    dsimp only
    split
    · exact ⟨_, rfl⟩
    · exact (hcolumn (by decide)).bind fun q _ => Outcome.succeeds_pure _
  | raw =>
    obtain ⟨vs, hvs, hcount⟩ := h.bound hop
    unfold rawText
    rw [hvs, listOf_list]
    exact (Placeholder.renumber_succeeds hcount).bind fun sql _ => Outcome.succeeds_pure _
  | _ =>
    rw [hop] at hcolumn
    exact (hcolumn (by decide)).bind fun q _ => Outcome.succeeds_pure _

namespace Node

mutual

theorem compile_succeeds (o : Int) : (n : Node) → (∀ c ∈ n.leaves, c.WellMade ctx.limit) →
    Succeeds (n.compile ctx o)
  | leaf c, h => (h c (by simp [leaves])).compile_succeeds
  | group _ nodes, h => by
    unfold compile
    exact (compileThose_succeeds .and o nodes h).bind fun ands _ =>
      (compileThose_succeeds .or _ nodes h).map _

theorem compileThose_succeeds (conjunction : Conjunction) (o : Int) :
    (ns : List Node) → (∀ c ∈ leavesOf ns, c.WellMade ctx.limit) →
      Succeeds (compileThose ctx conjunction o ns)
  | [], _ => ⟨[], rfl⟩
  | n :: ns, h => by
    have hn : ∀ c ∈ n.leaves, c.WellMade ctx.limit := fun c hc => h c (by simp [leavesOf, hc])
    have hns : ∀ c ∈ leavesOf ns, c.WellMade ctx.limit := fun c hc => h c (by simp [leavesOf, hc])
    unfold compileThose
    split
    · refine (compile_succeeds o n hn).bind fun b _ => ?_
      split
      · exact compileThose_succeeds conjunction o ns hns
      · exact (compileThose_succeeds conjunction _ ns hns).map _
    · exact compileThose_succeeds conjunction o ns hns

end

end Node

theorem Group.compile_succeeds {g : Group} (h : ∀ c ∈ g.leaves, c.WellMade ctx.limit) :
    Succeeds (g.compile ctx o) := by
  unfold compile
  exact (Node.compileThose_succeeds .and o g.nodes h).bind fun ands _ =>
    (Node.compileThose_succeeds .or _ g.nodes h).map _

namespace Row

theorem get?_succeeds {r : Row} {c : String} (h : c ∈ r.columns) : (r.get? c).isSome := by
  obtain ⟨e, he, rfl⟩ := List.mem_map.1 h
  unfold get?
  rw [Option.isSome_map, List.find?_isSome]
  exact ⟨e, he, by simp⟩

theorem values_succeeds {r : Row} {columns : List String} (h : ∀ c ∈ columns, c ∈ r.columns) :
    Succeeds (r.values columns) := by
  refine Outcome.succeeds_mapM.2 fun c hc => ?_
  obtain ⟨v, hv⟩ := Option.isSome_iff_exists.1 (get?_succeeds (h c hc))
  rw [hv]
  exact ⟨v, rfl⟩

end Row

namespace Statement

variable {s : Statement}

theorem withAlias_succeeds {sql : Text} {label : Option String}
    (h : ∀ a ∈ label, Quotable ctx.limit a) : Succeeds (withAlias ctx sql label) := by
  unfold withAlias
  cases label with
  | none => exact ⟨_, rfl⟩
  | some a =>
    dsimp only
    split
    · exact ⟨_, rfl⟩
    · exact Succeeds.map (h a rfl) _

theorem itemText_succeeds {i : SelectItem} (h : SoundItem ctx.limit i) :
    Succeeds (itemText ctx i) := by
  unfold itemText
  dsimp only
  split
  · exact withAlias_succeeds h.label
  · rename_i hnamed
    simp only [Bool.or_eq_true, decide_eq_true_eq, not_or] at hnamed
    rcases h.expr with hraw | hstar | hquotable
    · exact absurd hraw hnamed.1
    · exact absurd hstar hnamed.2
    · exact Succeeds.bind hquotable fun _ _ => withAlias_succeeds h.label

theorem sourceText_succeeds {table : String} {label : Option String}
    (ht : Quotable ctx.limit table) (h : ∀ a ∈ label, Quotable ctx.limit a) :
    Succeeds (sourceText ctx table label) :=
  Succeeds.bind ht fun _ _ => withAlias_succeeds h

section Sound

variable (h : s.Sound ctx.limit)
include h

theorem requireTable_eq {t : String} (ht : s.table = some t) (method : String) :
    s.requireTable method = .ok t := by
  have hempty := (h.table t ht).isEmpty_eq_false
  simp [requireTable, ht, hempty]

theorem selectText_succeeds : Succeeds (selectText ctx s) :=
  (Outcome.succeeds_mapM.2 fun i hi => itemText_succeeds (h.items i hi)).bind fun _ _ =>
    Outcome.succeeds_pure _

theorem joinsText_succeeds : Succeeds (s.joins.mapM (joinText ctx)) :=
  Outcome.succeeds_mapM.2 fun j hj =>
    (sourceText_succeeds (h.joins j hj).1 (h.joins j hj).2).bind fun _ _ => Outcome.succeeds_pure _

theorem groupingText_succeeds : Succeeds (groupingText ctx s) := by
  unfold groupingText
  split
  · exact ⟨_, rfl⟩
  · exact (Context.quoteAll_succeeds h.grouping).map _

theorem orderingClause_succeeds : Succeeds (orderingClause ctx s) := by
  unfold orderingClause
  split
  · exact ⟨_, rfl⟩
  · refine (Outcome.succeeds_mapM.2 fun o ho => ?_).map _
    exact Succeeds.bind (h.ordering o ho) fun _ _ => Outcome.succeeds_pure _

theorem withReturning_succeeds (sql : Text) : Succeeds (s.withReturning ctx sql) := by
  unfold withReturning
  split
  · exact ⟨_, rfl⟩
  · split
    · exact ⟨_, rfl⟩
    · rename_i hstar
      refine (Context.quoteAll_succeeds fun c hc => ?_).map _
      rcases h.returning c hc with rfl | hquotable
      · exact absurd (List.contains_iff_mem.2 hc) hstar
      · exact hquotable

end Sound

theorem assignmentText_succeeds {columns : List String}
    (h : ∀ c ∈ columns, Quotable ctx.limit c) : Succeeds (assignmentText ctx columns) :=
  (Outcome.succeeds_mapM.2 h).bind fun _ _ => Outcome.succeeds_pure _

theorem insertHead_succeeds {table : String} {columns : List String} (ht : Quotable ctx.limit table)
    (h : ∀ c ∈ columns, Quotable ctx.limit c) : Succeeds (insertHead ctx table columns) :=
  Succeeds.bind ht fun _ _ => (Context.quoteAll_succeeds h).bind fun _ _ => Outcome.succeeds_pure _

/-- Whether the placeholders of the conditions can be read as numbers and written again where an
update moves them. Nowhere else is text read as a number, and only the length of numerals can keep
one from being read. -/
def NumbersConvertible (ctx : Context) (s : Statement) : Prop :=
  s.kind = .update → ∀ filter, s.filter.compile ctx 0 = .ok filter →
    Placeholder.isLegible (Placeholder.maxDigits (s.assignments.length + filter.params.length))
      s.assignments.length filter.sql

def rowColumns (s : Statement) : List String :=
  (s.rows.head?.map Row.columns).getD []

def strayColumns (s : Statement) : List String :=
  match s.kind, s.conflictAction with
  | .upsert, .update =>
    (s.mergeColumns.getD s.rowColumns).filter fun c => !s.rowColumns.contains c
  | _, _ => []

section Assembly

variable {table : String} (h : s.Sound ctx.limit) (hc : s.Checked ctx.limit)
  (ht : s.table = some table)
include h hc ht

theorem compileSelect_succeeds : Succeeds (s.compileSelect ctx) := by
  unfold compileSelect
  refine Succeeds.after (requireTable_eq h ht _) ?_
  refine (selectText_succeeds h).bind fun head _ => ?_
  refine (sourceText_succeeds (h.table table ht) h.label).bind fun source _ => ?_
  refine (joinsText_succeeds h).bind fun joins _ => ?_
  refine (Group.compile_succeeds hc.filter).bind fun filter _ => ?_
  refine (groupingText_succeeds h).bind fun grouping _ => ?_
  refine (Group.compile_succeeds hc.having).bind fun having _ => ?_
  exact (orderingClause_succeeds h).bind fun ordering _ => Outcome.succeeds_pure _

theorem compileDelete_succeeds : Succeeds (s.compileDelete ctx) := by
  unfold compileDelete
  refine Succeeds.after (requireTable_eq h ht _) ?_
  refine Succeeds.bind (h.table table ht) fun target _ => ?_
  refine (Group.compile_succeeds hc.filter).bind fun filter _ => ?_
  exact (withReturning_succeeds h _).bind fun sql _ => Outcome.succeeds_pure _

/-- An update fails only while its conditions are moved behind the assignments. -/
theorem compileUpdate_outcome (hset : s.assignments ≠ []) (hkind : s.kind = .update) :
    (s.NumbersConvertible ctx → Succeeds (s.compileUpdate ctx)) ∧
    (¬ s.NumbersConvertible ctx → s.compileUpdate ctx = .error (.misuse .longNumeral)) := by
  obtain ⟨set, hassigned⟩ : Succeeds (assignmentText ctx s.assignments.columns) :=
    assignmentText_succeeds h.assignments
  obtain ⟨values, hvalues⟩ : Succeeds (s.assignments.values s.assignments.columns) :=
    Row.values_succeeds fun c hc => hc
  obtain ⟨target, htarget⟩ : Succeeds (ctx.quote table) := h.table table ht
  obtain ⟨filter, hfilter⟩ := Group.compile_succeeds (o := 0) hc.filter
  have hlength : values.length = s.assignments.length := by
    rw [length_of_values hvalues, Row.columns, List.length_map]
  have hne : values.length ≠ 0 := by
    rw [hlength]
    exact mt List.eq_nil_of_length_eq_zero hset
  have hconvertible : s.NumbersConvertible ctx ↔
      Placeholder.isLegible (Placeholder.maxDigits (values ++ filter.params).length) values.length
        filter.sql := by
    rw [List.length_append, hlength]
    refine ⟨fun hn => hn hkind filter hfilter, fun hlegible _ other hother => ?_⟩
    cases hfilter.symm.trans hother
    exact hlegible
  unfold compileUpdate
  rw [hconvertible, Outcome.do_ok (requireTable_eq h ht _), if_neg (by simpa using hset),
    Outcome.do_ok hassigned, Outcome.do_ok hvalues, Outcome.do_ok htarget, Outcome.do_ok hfilter]
  dsimp only
  refine ⟨fun hlegible => ?_, fun hlong => ?_⟩
  · rw [Placeholder.shiftWithin_of_isLegible hlegible]
    exact (withReturning_succeeds h _).bind fun sql _ => Outcome.succeeds_pure _
  · rw [Placeholder.shiftWithin_of_not_isLegible hne hlong]
    rfl

omit hc

theorem compileInsert_succeeds (hrows : s.rows ≠ []) : Succeeds (s.compileInsert ctx) := by
  unfold compileInsert
  refine Succeeds.after (requireTable_eq h ht _) ?_
  cases hs : s.rows with
  | nil => exact absurd hs hrows
  | cons row rest =>
    have hfirst : row ∈ s.rows.head? := by rw [hs]; rfl
    have hvalues : Succeeds ((row :: rest).mapM fun r : Row => r.values row.columns) := by
      rw [← hs]
      exact Outcome.succeeds_mapM.2 fun r hr => Row.values_succeeds (h.uniform row hfirst r hr)
    refine hvalues.bind fun params _ => ?_
    refine (insertHead_succeeds (h.table table ht) (h.columns row hfirst)).bind fun head _ => ?_
    exact (withReturning_succeeds h _).bind fun sql _ => Outcome.succeeds_pure _

omit ht

theorem mergeTargets_eq {row : Row} {rest : List Row} (hrows : s.rows = row :: rest)
    (hkind : s.kind = .upsert) (haction : s.conflictAction = .update) :
    s.mergeTargets row =
      if s.strayColumns = [] then .ok (s.mergeColumns.getD row.columns)
      else reject (.mergeColumns s.strayColumns row.columns) := by
  have hcolumns : s.rowColumns = row.columns := by simp [rowColumns, hrows]
  have hne : s.mergeColumns.getD row.columns ≠ [] := by
    cases hm : s.mergeColumns with
    | none =>
      have hrow : row ≠ [] := h.rows row (by simp [hrows])
      simpa [Row.columns] using hrow
    | some cs => exact (h.merge cs hm).1
  have hempty : (s.mergeColumns.getD row.columns).isEmpty = false := by simpa using hne
  unfold mergeTargets strayColumns
  simp only [hkind, haction, hcolumns, hempty, Bool.or_false, Bool.not_eq_true',
    List.isEmpty_eq_false_iff, ne_eq, ite_not]

end Assembly

section Upsert

variable {table : String} {row : Row} {rest : List Row} (h : s.Sound ctx.limit)
  (ht : s.table = some table) (hrows : s.rows = row :: rest) (hconflict : s.conflictColumns ≠ [])
  (hkind : s.kind = .upsert)
include h ht hrows hconflict hkind

theorem compileUpsert_outcome :
    (s.strayColumns = [] → Succeeds (s.compileUpsert ctx)) ∧
    (s.strayColumns ≠ [] →
      s.compileUpsert ctx = reject (.mergeColumns s.strayColumns row.columns)) := by
  have hfirst : row ∈ s.rows.head? := by rw [hrows]; rfl
  have hquoted : Succeeds (ctx.quoteAll s.conflictColumns) := Context.quoteAll_succeeds h.conflict
  obtain ⟨conflict, hconflictText⟩ := hquoted
  obtain ⟨head, hhead⟩ := insertHead_succeeds (h.table table ht) (h.columns row hfirst)
  unfold compileUpsert
  rw [Outcome.do_ok (requireTable_eq h ht _), hrows]
  dsimp only
  rw [if_neg (by simpa using hconflict), Outcome.do_ok hconflictText, Outcome.do_ok hhead]
  cases haction : s.conflictAction with
  | nothing =>
    have hstray : s.strayColumns = [] := by simp [strayColumns, haction]
    refine ⟨fun _ => ?_, fun hne => absurd hstray hne⟩
    exact (withReturning_succeeds h _).bind fun sql _ => Outcome.succeeds_pure _
  | update =>
    dsimp only
    rw [mergeTargets_eq h hrows hkind haction]
    refine ⟨fun hstray => ?_, fun hstray => by rw [if_neg hstray]; rfl⟩
    have hquotable : ∀ c ∈ s.mergeColumns.getD row.columns, Quotable ctx.limit c := by
      cases hm : s.mergeColumns with
      | none => exact h.columns row hfirst
      | some cs => exact (h.merge cs hm).2
    have hmem : ∀ c ∈ s.mergeColumns.getD row.columns, c ∈ row.columns := by
      have hcolumns : s.rowColumns = row.columns := by simp [rowColumns, hrows]
      simpa [strayColumns, hkind, haction, hcolumns] using hstray
    rw [if_pos hstray]
    refine Succeeds.after rfl ?_
    refine (assignmentText_succeeds hquotable).bind fun set _ => ?_
    refine (Row.values_succeeds hmem).bind fun merged _ => ?_
    exact (withReturning_succeeds h _).bind fun sql _ => Outcome.succeeds_pure _

end Upsert

end Statement

inductive Requirement where
  | table
  | data
  | conflict
  deriving DecidableEq

/-- What the kinds of statements ask for, in the order in which it is looked for. -/
def StatementKind.requirements : StatementKind → List Requirement
  | select | delete => [.table]
  | insert | update => [.table, .data]
  | upsert => [.table, .data, .conflict]

namespace Requirement

def word (kind : StatementKind) : Requirement → String
  | table =>
    match kind with
    | .select | .delete => "from_"
    | .insert | .upsert => "into"
    | .update => "table"
  | data => if kind = .update then "set" else "values"
  | conflict => "on_conflict"

def fault (kind : StatementKind) : Requirement → ConfigurationFault
  | table => .tableMissing (word kind table)
  | data => if kind = .update then .assignmentsMissing else .rowsMissing kind
  | conflict => .conflictMissing

theorem missing_fault (kind : StatementKind) (r : Requirement) :
    (r.fault kind).missing = [r.word kind] := by
  cases r with
  | table | conflict => rfl
  | data =>
    dsimp only [fault, word]
    split
    · rfl
    · rfl

end Requirement

namespace Statement

variable {s : Statement}

def lacks (s : Statement) : Requirement → Bool
  | .table => s.table.isNone
  | .data => if s.kind = .update then s.assignments.isEmpty else s.rows.isEmpty
  | .conflict => s.conflictColumns.isEmpty

def firstLacking (s : Statement) : Option Requirement :=
  s.kind.requirements.find? s.lacks

theorem requireTable_of_none (ht : s.table = none) (method : String) :
    s.requireTable method = .error (.configuration (.tableMissing method)) := by
  simp [requireTable, ht]

theorem compileNumbered_of_no_table (ht : s.table = none) :
    s.compileNumbered ctx = .error (.configuration (Requirement.table.fault s.kind)) := by
  unfold compileNumbered
  cases s.kind with
  | select =>
    unfold compileSelect
    rw [requireTable_of_none ht]
    rfl
  | insert =>
    unfold compileInsert
    rw [requireTable_of_none ht]
    rfl
  | update =>
    unfold compileUpdate
    rw [requireTable_of_none ht]
    rfl
  | delete =>
    unfold compileDelete
    rw [requireTable_of_none ht]
    rfl
  | upsert =>
    unfold compileUpsert
    rw [requireTable_of_none ht]
    rfl

theorem compileNumbered_of_no_data {table : String} (h : s.Sound ctx.limit) (ht : s.table = some table)
    (hkind : .data ∈ s.kind.requirements) (hdata : s.lacks .data) :
    s.compileNumbered ctx = .error (.configuration (Requirement.data.fault s.kind)) := by
  unfold compileNumbered
  cases hk : s.kind with
  | select | delete =>
    rw [hk] at hkind
    exact absurd hkind (by decide)
  | insert =>
    have hrows : s.rows = [] := by simpa [lacks, hk] using hdata
    unfold compileInsert
    rw [Outcome.do_ok (requireTable_eq h ht _), hrows]
    rfl
  | update =>
    have hset : s.assignments.isEmpty := by simpa [lacks, hk] using hdata
    unfold compileUpdate
    rw [Outcome.do_ok (requireTable_eq h ht _), if_pos hset]
    rfl
  | upsert =>
    have hrows : s.rows = [] := by simpa [lacks, hk] using hdata
    unfold compileUpsert
    rw [Outcome.do_ok (requireTable_eq h ht _), hrows]
    rfl

theorem compileUpsert_of_no_conflict {table : String} {row : Row} {rest : List Row}
    (h : s.Sound ctx.limit) (ht : s.table = some table) (hrows : s.rows = row :: rest)
    (hconflict : s.conflictColumns = []) :
    s.compileUpsert ctx = .error (.configuration .conflictMissing) := by
  unfold compileUpsert
  rw [Outcome.do_ok (requireTable_eq h ht _), hrows]
  dsimp only
  rw [if_pos (by rw [hconflict]; rfl)]

theorem compileNumbered_of_lacking (h : s.Sound ctx.limit) {r : Requirement}
    (hr : s.firstLacking = some r) :
    s.compileNumbered ctx = .error (.configuration (r.fault s.kind)) := by
  cases ht : s.table with
  | none =>
    have htable : s.firstLacking = some .table := by
      unfold firstLacking
      cases s.kind <;> simp [StatementKind.requirements, lacks, ht]
    rw [htable] at hr
    cases hr
    exact compileNumbered_of_no_table ht
  | some table =>
    have htable : s.lacks .table = false := by simp [lacks, ht]
    unfold firstLacking at hr
    cases hdata : s.lacks .data with
    | true =>
      cases hk : s.kind with
      | select | delete =>
        rw [hk] at hr
        simp [StatementKind.requirements, htable] at hr
      | insert | update | upsert =>
        have hmem : Requirement.data ∈ s.kind.requirements := by rw [hk]; decide
        rw [hk] at hr
        simp only [StatementKind.requirements, List.find?_cons, htable, hdata] at hr
        cases hr
        rw [← hk]
        exact compileNumbered_of_no_data h ht hmem hdata
    | false =>
      cases hk : s.kind with
      | select | insert | update | delete =>
        rw [hk] at hr
        simp [StatementKind.requirements, htable, hdata] at hr
      | upsert =>
        rw [hk] at hr
        simp only [StatementKind.requirements, List.find?_cons, htable, hdata] at hr
        cases hconflict : s.lacks .conflict with
        | false => simp [hconflict] at hr
        | true =>
          rw [hconflict] at hr
          cases hr
          obtain ⟨row, rest, hrows⟩ : ∃ row rest, s.rows = row :: rest := by
            refine List.exists_cons_of_ne_nil ?_
            simpa [lacks, hk] using hdata
          have hnone : s.conflictColumns = [] := by simpa [lacks] using hconflict
          unfold compileNumbered
          rw [hk]
          exact compileUpsert_of_no_conflict h ht hrows hnone

theorem numbersConvertible_of_kind (hkind : s.kind ≠ .update) : s.NumbersConvertible ctx :=
  fun h => absurd h hkind

/-- A statement that lacks nothing is put into text, unless it is an upsert that would overwrite
columns it does not write, or an update whose numbers cannot be read. -/
theorem compileNumbered_of_complete (h : s.Sound ctx.limit) (hc : s.Checked ctx.limit)
    (hcomplete : s.firstLacking = none) :
    (s.strayColumns = [] →
      (s.NumbersConvertible ctx → Succeeds (s.compileNumbered ctx)) ∧
      (¬ s.NumbersConvertible ctx → s.compileNumbered ctx = .error (.misuse .longNumeral))) ∧
    (s.strayColumns ≠ [] →
      s.compileNumbered ctx = reject (.mergeColumns s.strayColumns s.rowColumns)) := by
  have hall : ∀ r ∈ s.kind.requirements, s.lacks r = false := by
    simpa [firstLacking] using hcomplete
  obtain ⟨table, ht⟩ : ∃ table, s.table = some table := by
    have htable := hall .table (by cases s.kind <;> decide)
    simpa [lacks, Option.isNone_eq_false_iff, Option.isSome_iff_exists] using htable
  have hother : s.kind ≠ .update → Succeeds (s.compileNumbered ctx) →
      (s.NumbersConvertible ctx → Succeeds (s.compileNumbered ctx)) ∧
      (¬ s.NumbersConvertible ctx → s.compileNumbered ctx = .error (.misuse .longNumeral)) :=
    fun hkind hsucceeds =>
      ⟨fun _ => hsucceeds, fun hlong => absurd (numbersConvertible_of_kind hkind) hlong⟩
  have hstray : s.kind ≠ .upsert → s.strayColumns = [] := by
    intro hkind
    unfold strayColumns
    split
    · contradiction
    · rfl
  cases hk : s.kind with
  | upsert =>
    have hcompile : s.compileNumbered ctx = s.compileUpsert ctx := by rw [compileNumbered, hk]
    rw [hk] at hall
    obtain ⟨row, rest, hrows⟩ : ∃ row rest, s.rows = row :: rest := by
      refine List.exists_cons_of_ne_nil ?_
      simpa [lacks, hk] using hall .data (by decide)
    have hconflict : s.conflictColumns ≠ [] := by simpa [lacks] using hall .conflict (by decide)
    have hcolumns : s.rowColumns = row.columns := by simp [rowColumns, hrows]
    have hupsert := compileUpsert_outcome h ht hrows hconflict hk
    rw [← hcompile] at hupsert
    rw [hcolumns]
    exact ⟨fun hnone => hother (by rw [hk]; decide) (hupsert.1 hnone), hupsert.2⟩
  | select =>
    have hcompile : s.compileNumbered ctx = s.compileSelect ctx := by rw [compileNumbered, hk]
    refine ⟨fun _ => hother (by rw [hk]; decide) ?_, absurd (hstray (by rw [hk]; decide))⟩
    rw [hcompile]
    exact compileSelect_succeeds h hc ht
  | delete =>
    have hcompile : s.compileNumbered ctx = s.compileDelete ctx := by rw [compileNumbered, hk]
    refine ⟨fun _ => hother (by rw [hk]; decide) ?_, absurd (hstray (by rw [hk]; decide))⟩
    rw [hcompile]
    exact compileDelete_succeeds h hc ht
  | insert =>
    have hcompile : s.compileNumbered ctx = s.compileInsert ctx := by rw [compileNumbered, hk]
    rw [hk] at hall
    have hrows : s.rows ≠ [] := by simpa [lacks, hk] using hall .data (by decide)
    refine ⟨fun _ => hother (by rw [hk]; decide) ?_, absurd (hstray (by rw [hk]; decide))⟩
    rw [hcompile]
    exact compileInsert_succeeds h ht hrows
  | update =>
    have hcompile : s.compileNumbered ctx = s.compileUpdate ctx := by rw [compileNumbered, hk]
    rw [hk] at hall
    have hset : s.assignments ≠ [] := by simpa [lacks, hk] using hall .data (by decide)
    rw [hcompile]
    exact ⟨fun _ => compileUpdate_outcome h hc ht hset hk, absurd (hstray (by rw [hk]; decide))⟩

theorem Checked.numbersConvertible (hc : s.Checked ctx.limit) (hm : s.MarkersApart) :
    s.NumbersConvertible ctx := by
  intro _ filter hfilter
  rw [Group.compile_eq] at hfilter
  obtain ⟨F, hF, rfl⟩ := Outcome.map_eq_ok.1 hfilter
  have hseparated := (Group.template_keeps LocalRule.separation.compositional
    (hc.keeps_separation hm).filter hF).beside
  exact Template.isLegible_number_of_le hseparated 0 _ _ (by simp [Template.numbered, Nat.add_comm])

end Statement

namespace Builder

/-- When all calls were accepted, a statement is put into text, unless it is refused for the first of
what it lacks or, when it lacks nothing, for merge columns that are not in its row. An update besides
needs numbers that can be read, and has them if no marker of its conditions stands in front of a
digit. -/
theorem applyAll_compile {ctx : Context} {kind : StatementKind} {cs : List Call} {b : Builder}
    (h : (start ctx kind).applyAll cs = (b, .ok ())) :
    (∀ r, b.statement.firstLacking = some r →
      b.compile = .error (.configuration (r.fault b.kind)) ∧
        (r.fault b.kind).missing = [r.word b.kind]) ∧
    (b.statement.firstLacking = none → b.statement.strayColumns ≠ [] →
      b.compile = reject (.mergeColumns b.statement.strayColumns b.statement.rowColumns)) ∧
    (b.statement.firstLacking = none → b.statement.strayColumns = [] →
      (b.statement.NumbersConvertible b.context → Succeeds b.compile) ∧
      (¬ b.statement.NumbersConvertible b.context → b.compile = .error (.misuse .longNumeral))) ∧
    (b.kind ≠ .update ∨ b.statement.MarkersApart → b.statement.NumbersConvertible b.context) := by
  have hstart : (start ctx kind).statement.Sound (start ctx kind).limit :=
    Statement.sound_start ctx.limit kind
  have hsound : b.statement.Sound b.context.limit := applyAll_sound hstart h
  have hreachable : b.Reachable := by
    have hb := (Reachable.start ctx kind).applyAll cs
    rwa [h] at hb
  have hcomplete := Statement.compileNumbered_of_complete hsound hreachable.checked
  unfold compile Statement.compile
  refine ⟨fun r hr => ⟨?_, Requirement.missing_fault _ r⟩, fun hnone hstray => ?_,
    fun hnone hstray => ⟨fun hn => ?_, fun hlong => ?_⟩, fun hnumbers => ?_⟩
  · rw [Statement.compileNumbered_of_lacking hsound hr]
    rfl
  · rw [(hcomplete hnone).2 hstray]
    rfl
  · exact (((hcomplete hnone).1 hstray).1 hn).map _
  · rw [((hcomplete hnone).1 hstray).2 hlong]
    rfl
  · rcases hnumbers with hkind | hmarkers
    · exact Statement.numbersConvertible_of_kind hkind
    · exact hreachable.checked.numbersConvertible hmarkers

theorem applyAll_compile_markedUpdate :
    (start { dialect := .sqlite } .update).applyAll markedUpdateCalls = (markedUpdate, .ok ()) ∧
      markedUpdate.statement.MarkersApart ∧ Succeeds markedUpdate.compile := by
  have hcalls : (start { dialect := .sqlite } .update).applyAll markedUpdateCalls =
      (markedUpdate, .ok ()) := rfl
  have hends := applyAll_compile hcalls
  exact ⟨hcalls, markedUpdate_markersApart,
    (hends.2.2.1 rfl rfl).1 (hends.2.2.2 (.inr markedUpdate_markersApart))⟩

def zerosFragment (zeros : Nat) : Text :=
  'b' :: '=' :: '?' :: List.replicate zeros '0'

def zerosCondition (zeros : Nat) : Condition :=
  { column := String.ofList (zerosFragment zeros), operator := .raw, value := .list [.int 1] }

def zerosUpdateCalls (zeros : Nat) : List Call :=
  [.source .table (.text "t") .null, .set (.mapping [(.text "a", .int 1)]),
    .filter (.raw .and (.text (String.ofList (zerosFragment zeros))) (.list [.int 1]))]

def zerosUpdate (zeros : Nat) : Builder where
  context := { dialect := .sqlite }
  statement := {
    kind := .update
    table := some "t"
    assignments := [("a", .int 1)]
    filter := { nodes := [.leaf (zerosCondition zeros)] } }

theorem zerosFragment_check (zeros : Nat) :
    (trim (zerosFragment zeros)).isEmpty = false ∧ SqlFragment.Admitted (zerosFragment zeros) := by
  have hzero : isBlank '0' = false ∧ '0' ∉ hazards ∧ '0' ≠ '$' := by decide
  have hall : ∀ c ∈ zerosFragment zeros, isBlank c = false ∧ c ∉ hazards ∧ c ≠ '$' := by
    intro c hc
    rcases List.mem_append.1 (show c ∈ ['b', '=', '?'] ++ List.replicate zeros '0' from hc) with hm | hm
    · simp only [List.mem_cons, List.not_mem_nil, or_false] at hm
      rcases hm with rfl | rfl | rfl <;> decide
    · rw [List.eq_of_mem_replicate hm]
      exact hzero
  have hhygiene := LocalRule.Obeys.neutral_append (r := .hygiene)
    (fun c hc => LocalRule.hygiene_neutral (hall c hc).2.1) .nil
  rw [List.append_nil] at hhygiene
  refine ⟨?_, LocalRule.hygiene_obeys_iff.1 hhygiene,
    SqlFragment.isNumbered_of_not_mem fun hm => (hall '$' hm).2.2 rfl⟩
  rw [trim_eq_self fun c hc => (hall c hc).1]
  rfl

theorem makeRaw_zeros (zeros : Nat) :
    Condition.makeRaw .and "WHERE" (.text (String.ofList (zerosFragment zeros))) (.list [.int 1]) =
      .ok (zerosCondition zeros) := by
  have hcheck := zerosFragment_check zeros
  refine Condition.makeRaw_eq_ok_iff.2
    ⟨_, [.int 1], SqlFragment.check_eq_ok_iff.2 ⟨rfl, ?_⟩, rfl, ?_, ?_, rfl⟩
  · rwa [String.toList_ofList]
  · simp [Placeholder.markerCount, zerosFragment, List.count_replicate]
  · simp [Value.bindable]

theorem applyAll_zeros (zeros : Nat) :
    (start { dialect := .sqlite } .update).applyAll (zerosUpdateCalls zeros) =
      (zerosUpdate zeros, .ok ()) := by
  have hnode (limit : Int) : Filter.node limit (.raw .and
      (.text (String.ofList (zerosFragment zeros))) (.list [.int 1])) =
        .ok (some (.leaf (zerosCondition zeros))) := by
    rw [Filter.node, makeRaw_zeros]
    rfl
  have hlast (b : Builder) (hopen : b.isSealed = false) (hkind : b.kind = .update) :
      b.applyAll [.filter (.raw .and (.text (String.ofList (zerosFragment zeros)))
        (.list [.int 1]))] =
          ({ b with statement := b.statement.addCondition (.leaf (zerosCondition zeros)) }, .ok ()) := by
    simp [applyAll, apply, change, Call.offeredBy, hkind, applyFilter, hnode, hopen]
  exact hlast _ rfl rfl

theorem zerosUpdate_filter (zeros : Nat) :
    (zerosUpdate zeros).statement.filter.compile (zerosUpdate zeros).context 0 =
      .ok { sql := Placeholder.numberMarkers 0 (zerosFragment zeros), params := [.int 1] } := by
  have hcount : Placeholder.markerCount (zerosFragment zeros) = 1 := by
    simp [Placeholder.markerCount, zerosFragment, List.count_replicate]
  have hcondition (ctx : Context) : (zerosCondition zeros).compile ctx 0 =
      .ok { sql := Placeholder.numberMarkers 0 (zerosFragment zeros), params := [.int 1] } := by
    simp [zerosCondition, Condition.compile, Condition.rawText, Condition.listOf_list,
      Placeholder.renumber, hcount, bind, Except.bind, pure, Except.pure]
  have hne : Placeholder.numberMarkers 0 (zerosFragment zeros) ≠ [] := List.cons_ne_nil _ _
  have hand : (zerosCondition zeros).conjunction = .and := rfl
  simp [zerosUpdate, Group.compile, Node.compileThose, Node.compile, Node.conjunction, hand,
    hcondition, hne, Except.bind, Except.map, joinLevel, joinAlternatives, joinWith, allParams]

theorem slot_mem_zeros (zeros : Nat) :
    .slot ('1' :: List.replicate zeros '0') ∈
      Token.ofText (Placeholder.numberMarkers 0 (zerosFragment zeros)) := by
  have hzeros : ∀ c ∈ List.replicate zeros '0', isDecimalDigit c := by
    intro c hc
    rw [List.eq_of_mem_replicate hc]
    decide
  have hmarker : '?' ∉ List.replicate zeros '0' := fun hm => absurd (hzeros _ hm) (by decide)
  have hrest := Placeholder.numberMarkers_append hmarker 1 []
  have hdollar : '$' ∉ List.replicate zeros '0' := fun hm => absurd (hzeros _ hm) (by decide)
  have hread := Token.takeDigits_append hzeros []
  have htokens := Token.ofText_append_of_not_mem hdollar []
  rw [List.append_nil, Placeholder.numberMarkers, List.append_nil] at hrest
  rw [List.append_nil, Token.ofText] at htokens
  have htext : Placeholder.numberMarkers 0 (zerosFragment zeros) =
      ['b', '='] ++ ((Token.slot ['1']).text ++ List.replicate zeros '0') :=
    congrArg (fun t => ['b', '='] ++ (Placeholder.slotText 1 ++ t)) hrest
  rw [htext, Token.ofText_append_of_not_mem (by decide),
    Token.ofText_slot_append (by decide) (List.forall_mem_singleton.2 (by decide)), htokens, hread]
  simp [Token.takeDigits]

theorem compile_zerosUpdate {zeros : Nat} (h : Numeral.maxDigits ≤ zeros) :
    (zerosUpdate zeros).compile = .error (.misuse .longNumeral) := by
  have hcalls := applyAll_zeros zeros
  have hsound : (zerosUpdate zeros).statement.Sound (zerosUpdate zeros).context.limit :=
    applyAll_sound (Statement.sound_start _ .update) hcalls
  have hreachable : (zerosUpdate zeros).Reachable := by
    have hb := (Reachable.start { dialect := .sqlite } .update).applyAll (zerosUpdateCalls zeros)
    rwa [hcalls] at hb
  have hlong : ¬ (zerosUpdate zeros).statement.NumbersConvertible (zerosUpdate zeros).context := by
    intro hn
    have hread := (Placeholder.isLegible_iff.1 (hn rfl _ (zerosUpdate_filter zeros))).1 _
      (slot_mem_zeros zeros)
    have hmost : Placeholder.maxDigits 2 = Numeral.maxDigits := by decide
    rw [List.length_cons, List.length_replicate] at hread
    exact absurd (Nat.le_trans hread (Nat.le_of_eq hmost)) (by omega)
  have hcomplete := Statement.compileNumbered_of_complete hsound hreachable.checked rfl
  unfold compile Statement.compile
  rw [(hcomplete.1 rfl).2 hlong]
  rfl

/-- All calls are accepted and nothing is missing, and yet there is no text. -/
theorem applyAll_compile_longNumeral :
    (start { dialect := .sqlite } .update).applyAll (zerosUpdateCalls Numeral.maxDigits) =
        (zerosUpdate Numeral.maxDigits, .ok ()) ∧
      (zerosUpdate Numeral.maxDigits).statement.firstLacking = none ∧
      (zerosUpdate Numeral.maxDigits).statement.strayColumns = [] ∧
      (zerosUpdate Numeral.maxDigits).compile = .error (.misuse .longNumeral) :=
  ⟨applyAll_zeros _, rfl, rfl, compile_zerosUpdate (Nat.le_refl _)⟩

end Builder

end BoundSql
