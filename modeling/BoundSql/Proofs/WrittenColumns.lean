import BoundSql.Proofs.Assignments
import BoundSql.Proofs.DialectText
import BoundSql.Proofs.NameReading
/-!
Which columns a statement writes, and whether one of them comes twice. Columns are told apart by the
names that the caller gave, but what is written of a name is less than the name: names that differ in
the rest alone are written as one column more than once, and no others are.
-/

namespace BoundSql

open Identifier (IsQuoted)

inductive ColumnPlace where
  | assignments
  | rows
  | merged
  deriving DecidableEq, Repr

/-- The text behind a list of columns, in which the list does not go on. -/
def ClauseEnd (rest : Text) : Prop :=
  ∀ c ∈ rest.head?, c = ' '

namespace ClauseEnd

theorem nil : ClauseEnd [] := by simp [ClauseEnd]

theorem blank (t : Text) : ClauseEnd (' ' :: t) := by
  simp [ClauseEnd]

theorem append {t u : Text} (ht : ClauseEnd t) (hu : ClauseEnd u) : ClauseEnd (t ++ u) := by
  cases t with
  | nil => exact hu
  | cons c t => exact ht

theorem not_digit {t : Text} (ht : ClauseEnd t) : ∀ c ∈ t.head?, isDecimalDigit c = false := by
  intro c hc
  rw [ht c hc]
  decide

theorem render {t : Text} (ht : ClauseEnd t) (d : Dialect) : ClauseEnd (d.render t) := by
  cases t with
  | nil => cases d <;> exact nil
  | cons c t =>
    obtain rfl : c = ' ' := ht c rfl
    rw [d.render_cons (by decide)]
    exact blank _

end ClauseEnd

namespace Statement

def insertFront (target : Text) (names : List Text) : Text :=
  "INSERT INTO ".toList ++ target ++ " (".toList ++ joinWith [',', ' '] names ++ ") VALUES".toList

/-- The columns that a statement writes, for each place in which they are written. -/
def writtenColumns (s : Statement) : List (ColumnPlace × List String) :=
  match s.kind, s.rows with
  | .update, _ => [(.assignments, s.assignments.columns)]
  | .insert, row :: _ => [(.rows, row.columns)]
  | .upsert, row :: _ =>
    (.rows, row.columns) ::
      match s.conflictAction with
      | .update => [(.merged, s.mergeColumns.getD row.columns)]
      | .nothing => []
  | _, _ => []

end Statement

/-- The text of a statement that has a list of names in the given place. -/
def ColumnPlace.Lists (d : Dialect) (names : List Text) (sql : Text) : ColumnPlace → Prop
  | assignments => ∃ target rest, IsQuoted target ∧ ClauseEnd rest ∧
      sql = "UPDATE ".toList ++ target ++ " SET ".toList ++ d.assigned 0 names ++ rest
  | rows => ∃ target rest, IsQuoted target ∧ ClauseEnd rest ∧
      sql = Statement.insertFront target names ++ rest
  | merged => ∃ target columns conflict rest, IsQuoted target ∧
      (∀ q ∈ columns ++ conflict, IsQuoted q) ∧ ClauseEnd rest ∧
      sql = Statement.insertFront target columns ++ " (".toList ++
        joinWith [',', ' '] (d.placeholders 0 columns.length) ++ ") ON CONFLICT (".toList ++
        joinWith [',', ' '] conflict ++ ") DO UPDATE SET ".toList ++
        d.assigned columns.length names ++ rest

/-- A text that begins with a template, which is read apart from what follows. -/
def Template.Opens (T : Template) (t : Text) : Prop :=
  T.Separated ∧ ∃ rest, ClauseEnd rest ∧ t = T.number 0 ++ rest

theorem Template.Opens.render {T : Template} {t : Text} (h : T.Opens t) (d : Dialect) :
    ∃ rest, ClauseEnd rest ∧ d.render t = d.fill 0 T ++ rest := by
  obtain ⟨hT, rest, hrest, rfl⟩ := h
  exact ⟨d.render rest, hrest.render d, d.render_number_append hT hrest.not_digit⟩

theorem Template.opens_numbered {T U : Template} {t : Text} (h : T.Separated)
    (hT : T = U ++ .ofText t) (ht : ClauseEnd t) : U.Opens (T.numbered 0).sql := by
  subst hT
  exact ⟨List.IsChain.left_of_append h, t, ht, by simp [numbered]⟩

namespace Statement

variable {ctx : Context} {s : Statement} {t : BoundText}

theorem returningText_end {u : Text} (h : s.returningText ctx = .ok u) : ClauseEnd u := by
  unfold returningText at h
  split at h
  · cases h
    exact .nil
  split at h
  · cases h
    exact .blank _
  · obtain ⟨names, -, rfl⟩ := Outcome.map_eq_ok.1 h
    exact .blank _

theorem clauseAfter_end (word : String) (body : Text) : ClauseEnd (clauseAfter word body) := by
  unfold clauseAfter clauseText
  split
  · exact .nil
  · exact .blank _

def updateFront (target : Text) (names : List Text) (vs : List Value) : Template :=
  .ofText ("UPDATE ".toList ++ target ++ " SET ".toList) ++ .assignments names vs

theorem compileUpdate_opens (h : s.compileUpdate ctx = .ok t) :
    ∃ target names vs, IsQuoted target ∧ s.assignments.columns.mapM ctx.quote = .ok names ∧
      vs.length = names.length ∧ (updateFront target names vs).Opens t.sql := by
  unfold compileUpdate assignmentText at h
  obtain ⟨table, -, h⟩ := Outcome.do_eq_ok.1 h
  split at h
  · cases h
  obtain ⟨set, hset, h⟩ := Outcome.do_eq_ok.1 h
  obtain ⟨names, hnames, hset⟩ := Outcome.do_eq_ok.1 hset
  cases hset
  obtain ⟨values, hvalues, h⟩ := Outcome.do_eq_ok.1 h
  obtain ⟨target, htarget, h⟩ := Outcome.do_eq_ok.1 h
  obtain ⟨filter, -, h⟩ := Outcome.do_eq_ok.1 h
  obtain ⟨moved, -, h⟩ := Outcome.do_eq_ok.1 h
  obtain ⟨sql, hsql, h⟩ := Outcome.do_eq_ok.1 h
  cases h
  rw [withReturning_eq] at hsql
  obtain ⟨returned, hreturned, rfl⟩ := Outcome.map_eq_ok.1 hsql
  have hquoted : IsQuoted target := Context.quote_isQuoted htarget
  have hlength : names.length = values.length := by
    rw [Outcome.length_of_mapM hnames, length_of_values hvalues]
  have hbody := updateBody_keeps LocalRule.separation.compositional hquoted (quotedNames hnames) values .nil
  have hset := congrArg BoundText.sql (Template.assignments_numbered 0 hlength)
  refine ⟨target, names, values, hquoted, hnames, hlength.symm, ?_, _,
    (clauseAfter_end "WHERE" moved).append (returningText_end hreturned), ?_⟩
  · rw [show Template.clauseAfter "WHERE" [] = [] from rfl, List.append_nil] at hbody
    exact hbody.beside
  · simp only [Template.numbered] at hset
    simp [updateFront, hset]

theorem insertHead_eq_ok {table : String} {columns : List String} {head : Text}
    (h : insertHead ctx table columns = .ok head) :
    ∃ target names, IsQuoted target ∧ columns.mapM ctx.quote = .ok names ∧
      head = insertFront target names ++ [' '] := by
  unfold insertHead Context.quoteAll at h
  obtain ⟨target, htarget, h⟩ := Outcome.do_eq_ok.1 h
  obtain ⟨joined, hjoined, h⟩ := Outcome.do_eq_ok.1 h
  obtain ⟨names, hnames, rfl⟩ := Outcome.map_eq_ok.1 hjoined
  cases h
  have hvalues : ") VALUES ".toList = ") VALUES".toList ++ [' '] := by decide
  refine ⟨target, names, Context.quote_isQuoted htarget, hnames, ?_⟩
  generalize ") VALUES ".toList = values at hvalues ⊢
  rw [hvalues, ← List.append_assoc]
  rfl

theorem opens_insertFront {target : Text} {names : List Text} (ht : IsQuoted target)
    (hn : ∀ q ∈ names, IsQuoted q) (more : Text) :
    (Template.ofText (insertFront target names)).Opens (insertFront target names ++ ' ' :: more) := by
  have hp := LocalRule.separation.compositional
  have hlist : LocalRule.separation.Obeys (.ofText (joinWith [',', ' '] names)) :=
    hp.joinWith (by decide) (by decide) fun q hq => hp.quoted (hn q hq)
  have hfront := hp.lead (w := "INSERT INTO ".toList) (by decide)
    (hp.trail (w := ") VALUES".toList) (by decide)
      (hp.between (w := " (".toList) (by decide) (by decide) (hp.quoted ht) hlist))
  refine ⟨?_, _, .blank more, by rw [Template.number_ofText]⟩
  have hseparated : Template.Separated _ := hfront.beside
  unfold insertFront
  generalize "INSERT INTO ".toList = head at hseparated ⊢
  generalize ") VALUES".toList = values at hseparated ⊢
  generalize " (".toList = opening at hseparated ⊢
  simpa only [Template.ofText_append, List.append_assoc] using hseparated

theorem compileInsert_opens {row : Row} {rest : List Row} (hrows : s.rows = row :: rest)
    (h : s.compileInsert ctx = .ok t) :
    ∃ target names, IsQuoted target ∧ row.columns.mapM ctx.quote = .ok names ∧
      (Template.ofText (insertFront target names)).Opens t.sql := by
  unfold compileInsert at h
  rw [hrows] at h
  obtain ⟨table, -, h⟩ := Outcome.do_eq_ok.1 h
  obtain ⟨params, -, h⟩ := Outcome.do_eq_ok.1 h
  obtain ⟨head, hhead, h⟩ := Outcome.do_eq_ok.1 h
  obtain ⟨sql, hsql, h⟩ := Outcome.do_eq_ok.1 h
  cases h
  rw [withReturning_eq] at hsql
  obtain ⟨returned, -, rfl⟩ := Outcome.map_eq_ok.1 hsql
  obtain ⟨target, names, htarget, hnames, rfl⟩ := insertHead_eq_ok hhead
  refine ⟨target, names, htarget, hnames, ?_⟩
  simpa using opens_insertFront htarget (quotedNames hnames) _

def upsertFront (target : Text) (columns conflict names : List Text) (row merged : List Value) :
    Template :=
  .ofText (insertFront target columns ++ [' ']) ++ .row row ++
    .ofText (" ON CONFLICT (".toList ++ joinWith [',', ' '] conflict ++ [')']) ++
    .ofText " DO UPDATE SET ".toList ++ .assignments names merged

theorem mergeTargets_eq_ok {row : Row} {targets : List String}
    (h : mergeTargets s row = .ok targets) : targets = s.mergeColumns.getD row.columns := by
  simp only [mergeTargets] at h
  split at h
  · cases h
  · cases h
    rfl

theorem compileUpsert_opens {row : Row} {rest : List Row} (hrows : s.rows = row :: rest)
    (h : s.compileUpsert ctx = .ok t) :
    ∃ target columns, IsQuoted target ∧ row.columns.mapM ctx.quote = .ok columns ∧
      (Template.ofText (insertFront target columns)).Opens t.sql ∧
      (s.conflictAction = .update → ∃ conflict names merged,
        (∀ q ∈ conflict, IsQuoted q) ∧
        (s.mergeColumns.getD row.columns).mapM ctx.quote = .ok names ∧
        merged.length = names.length ∧
        (upsertFront target columns conflict names (row.map Prod.snd) merged).Opens t.sql) := by
  rw [compileUpsert_eq] at h
  obtain ⟨T, hT, rfl⟩ := Outcome.map_eq_ok.1 h
  have hseparated := (upsertTemplate_keeps LocalRule.separation.compositional hT).beside
  unfold upsertTemplate Context.quoteAll at hT
  rw [hrows] at hT
  obtain ⟨table, -, hT⟩ := Outcome.do_eq_ok.1 hT
  dsimp only at hT
  split at hT
  · cases hT
  obtain ⟨joined, hjoined, hT⟩ := Outcome.do_eq_ok.1 hT
  obtain ⟨conflict, hconflict, rfl⟩ := Outcome.map_eq_ok.1 hjoined
  obtain ⟨head, hhead, hT⟩ := Outcome.do_eq_ok.1 hT
  obtain ⟨target, columns, htarget, hcolumns, rfl⟩ := insertHead_eq_ok hhead
  have hfront : ∀ U : Template, (Template.ofText (insertFront target columns)).Opens
      ((Template.ofText (insertFront target columns ++ [' ']) ++ U).numbered 0).sql := by
    intro U
    simpa [Template.numbered] using opens_insertFront htarget (quotedNames hcolumns) _
  refine ⟨target, columns, htarget, hcolumns, ?_⟩
  cases haction : s.conflictAction with
  | nothing =>
    rw [haction] at hT
    obtain ⟨returned, -, rfl⟩ := Outcome.map_eq_ok.1 hT
    simp only [List.append_assoc]
    exact ⟨hfront _, fun h => by cases h⟩
  | update =>
    rw [haction] at hT
    obtain ⟨targets, htargets, hT⟩ := Outcome.do_eq_ok.1 hT
    obtain ⟨names, hnames, hT⟩ := Outcome.do_eq_ok.1 hT
    obtain ⟨merged, hmerged, hT⟩ := Outcome.do_eq_ok.1 hT
    obtain ⟨returned, hreturned, rfl⟩ := Outcome.map_eq_ok.1 hT
    rw [mergeTargets_eq_ok htargets] at hnames hmerged
    have hlength : merged.length = names.length := by
      rw [Outcome.length_of_mapM hnames, length_of_values hmerged]
    have hopens := Template.opens_numbered hseparated rfl (returningText_end hreturned)
    refine ⟨?_, fun _ => ⟨conflict, names, merged, quotedNames hconflict, hnames, hlength, hopens⟩⟩
    simp only [List.append_assoc]
    exact hfront _

end Statement

namespace ColumnPlace

open Statement (updateFront insertFront upsertFront)

variable {target t : Text} {names columns conflict : List Text} {vs merged : List Value}

theorem lists_assignments (ht : IsQuoted target) (hvs : vs.length = names.length)
    (h : (updateFront target names vs).Opens t) (d : Dialect) :
    assignments.Lists d names (d.render t) := by
  obtain ⟨rest, hrest, hrender⟩ := h.render d
  refine ⟨target, rest, ht, hrest, ?_⟩
  rw [hrender, updateFront, Dialect.fill_append, Dialect.fill_ofText, Template.values_ofText,
    Dialect.fill_assignments d _ hvs]
  rfl

theorem lists_rows (ht : IsQuoted target) (h : (Template.ofText (insertFront target names)).Opens t)
    (d : Dialect) : rows.Lists d names (d.render t) := by
  obtain ⟨rest, hrest, hrender⟩ := h.render d
  refine ⟨target, rest, ht, hrest, ?_⟩
  rw [hrender, Dialect.fill_ofText]

theorem lists_merged (ht : IsQuoted target) (hcolumns : ∀ q ∈ columns, IsQuoted q)
    (hconflict : ∀ q ∈ conflict, IsQuoted q) (hvs : vs.length = columns.length)
    (hmerged : merged.length = names.length)
    (h : (upsertFront target columns conflict names vs merged).Opens t) (d : Dialect) :
    ColumnPlace.merged.Lists d names (d.render t) := by
  obtain ⟨rest, hrest, hrender⟩ := h.render d
  refine ⟨target, columns, conflict, rest, ht, ?_, hrest, ?_⟩
  · intro q hq
    exact (List.mem_append.1 hq).elim (hcolumns q) (hconflict q)
  · rw [hrender]
    simp only [upsertFront, Dialect.fill_append, Dialect.fill_ofText, Dialect.fill_row,
      Template.values_append, Template.values_ofText, Template.values_row, hvs,
      Dialect.fill_assignments d _ hmerged, Nat.zero_add]
    have hopening : " (".toList = [' ', '('] := by decide
    have hbehind : ") ON CONFLICT (".toList = ')' :: " ON CONFLICT (".toList := by decide
    have hset : ") DO UPDATE SET ".toList = ')' :: " DO UPDATE SET ".toList := by decide
    generalize " (".toList = opening at hopening ⊢
    generalize ") ON CONFLICT (".toList = behind at hbehind ⊢
    generalize " ON CONFLICT (".toList = onConflict at hbehind ⊢
    generalize ") DO UPDATE SET ".toList = last at hset ⊢
    generalize " DO UPDATE SET ".toList = set at hset ⊢
    simp [hopening, hbehind, hset, hvs]

end ColumnPlace

namespace Statement

variable {ctx : Context} {s : Statement}

theorem writtenColumns_listed {c : Compiled} (h : s.compile ctx = .ok c) :
    ∀ p ∈ s.writtenColumns, ∃ names, p.2.mapM ctx.quote = .ok names ∧
      p.1.Lists ctx.dialect names c.sql := by
  obtain ⟨t, ht, rfl⟩ := Outcome.map_eq_ok.1 h
  unfold compileNumbered at ht
  unfold writtenColumns
  cases hkind : s.kind with
  | select | delete => simp
  | update =>
    rw [hkind] at ht
    obtain ⟨target, names, vs, htarget, hnames, hvs, hopens⟩ := compileUpdate_opens ht
    simpa using ⟨names, hnames, ColumnPlace.lists_assignments htarget hvs hopens ctx.dialect⟩
  | insert =>
    rw [hkind] at ht
    cases hrows : s.rows with
    | nil => simp
    | cons row rest =>
      obtain ⟨target, names, htarget, hnames, hopens⟩ := compileInsert_opens hrows ht
      simpa using ⟨names, hnames, ColumnPlace.lists_rows htarget hopens ctx.dialect⟩
  | upsert =>
    rw [hkind] at ht
    cases hrows : s.rows with
    | nil => simp
    | cons row rest =>
      obtain ⟨target, columns, htarget, hcolumns, hopens, hmerged⟩ := compileUpsert_opens hrows ht
      have hlength : (row.map Prod.snd).length = columns.length := by
        rw [Outcome.length_of_mapM hcolumns]
        simp [Row.columns]
      refine List.forall_mem_cons.2
        ⟨⟨columns, hcolumns, ColumnPlace.lists_rows htarget hopens ctx.dialect⟩, ?_⟩
      cases haction : s.conflictAction with
      | nothing => simp
      | update =>
        obtain ⟨conflict, names, merged, hconflict, hnames, hmergedLength, hfront⟩ := hmerged haction
        refine List.forall_mem_singleton.2 ⟨names, hnames, ?_⟩
        exact ColumnPlace.lists_merged htarget (quotedNames hcolumns) hconflict hlength hmergedLength
          hfront ctx.dialect

end Statement

namespace Builder

open Identifier (keptParts)

/-- The columns that a statement writes. In each place the quoted names stand as the caller gave them,
and they are distinct exactly where the names differ in what is written of them. Assignments are kept
apart by the names of the caller: a later one of a name takes the place of the earlier one, with its
value. -/
theorem Reachable.written_columns {b : Builder} (h : b.Reachable) :
    (∀ c, b.compile = .ok c → ∀ p ∈ b.statement.writtenColumns, ∃ names,
      p.2.mapM b.context.quote = .ok names ∧ p.1.Lists b.context.dialect names c.sql ∧
      (names.Nodup ↔ (p.2.map fun name => keptParts name.toList).Nodup)) ∧
    b.statement.assignments.columns.Nodup ∧
    ∀ data b', b.apply (.set data) = (b', .ok ()) → ∃ row, Row.ofValue data = .ok row ∧
      b.statement.assignments.columns <+: b'.statement.assignments.columns ∧
      ∀ column, b'.statement.assignments.get? column =
        (Row.get? row.reverse column).or (b.statement.assignments.get? column) := by
  refine ⟨fun c hc p hp => ?_, h.nodup_assignments, fun data b' hset => ?_⟩
  · obtain ⟨names, hnames, hlists⟩ := Statement.writtenColumns_listed hc p hp
    exact ⟨names, hnames, hlists, Identifier.nodup_quoted_iff hnames⟩
  · obtain ⟨row, hrow, hmerge⟩ := apply_set hset
    rw [hmerge]
    exact ⟨row, hrow, Row.columns_prefix_merge _ row, fun column => Row.get?_merge _ row column⟩

def countedOnce : Builder :=
  ((start { dialect := .sqlite } .update).applyAll
    [.source .table (.text "t") .null, .set (.mapping [(.text "a", .int 1), (.text "b", .int 2)])]).1

def countedAgain : Builder :=
  (countedOnce.apply (.set (.mapping [(.text "a", .int 3)]))).1

theorem written_columns_countedAgain :
    countedOnce.Reachable ∧ countedAgain.Reachable ∧
      (∃ c names, countedAgain.compile = .ok c ∧ c.params = [.int 3, .int 2] ∧
        ["a", "b"].mapM countedAgain.context.quote = .ok names ∧
        ColumnPlace.assignments.Lists .sqlite names c.sql ∧ names.Nodup) ∧
      countedAgain.statement.assignments.get? "a" = some (.int 3) := by
  have honce : countedOnce.Reachable := (Reachable.start _ _).applyAll _
  have hagain : countedAgain.Reachable := honce.call _
  have hcompile : countedAgain.compile = .ok
      { sql := "UPDATE \"t\" SET \"a\" = ?, \"b\" = ?".toList, params := [.int 3, .int 2],
        dialect := .sqlite } := rfl
  obtain ⟨names, hnames, hlists, hnodup⟩ := hagain.written_columns.1 _ hcompile
    (.assignments, ["a", "b"]) (List.mem_singleton.2 rfl)
  obtain ⟨row, hrow, -, hget⟩ := honce.written_columns.2.2
    (.mapping [(.text "a", .int 3)]) countedAgain rfl
  cases hrow
  exact ⟨honce, hagain, ⟨_, names, hcompile, rfl, hnames, hlists, hnodup.2 (by decide)⟩, hget "a"⟩

/-- Names that differ in a blank are kept apart, and one column is assigned to twice. -/
theorem column_assigned_twice :
    ∃ b c names,
      (start { dialect := .sqlite } .update).applyAll
        [.source .table (.text "t") .null, .set (.mapping [(.text "a", .int 1)]),
          .set (.mapping [(.text " a", .int 2)])] = (b, .ok ()) ∧
      b.compile = .ok c ∧ c.sql = "UPDATE \"t\" SET \"a\" = ?, \"a\" = ?".toList ∧
      b.statement.writtenColumns = [(.assignments, ["a", " a"])] ∧
      ["a", " a"].mapM b.context.quote = .ok names ∧ ¬ names.Nodup :=
  ⟨_, _, ["\"a\"".toList, "\"a\"".toList], rfl, rfl, rfl, rfl, rfl, by decide⟩

end Builder

end BoundSql
