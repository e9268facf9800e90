import BoundSql.Proofs.Composition
import BoundSql.Statement.Compile
/-!
Templates of statements: every kind of statement with each value written in its own place, and
without any numbers. Its numbered text is what the statement is put into, as long as the conditions
of an update are read as they were written when they are moved behind the assignments.
-/

namespace BoundSql

namespace Template

def clause (word : String) (T : Template) : List Template :=
  if T.isEmpty then [] else [ofText (word.toList ++ [' ']) ++ T]

def clauseAfter (word : String) (T : Template) : Template :=
  (clause word T).flatMap (.char ' ' :: ·)

def row (vs : List Value) : Template :=
  .char '(' :: join [',', ' '] (each vs) ++ ofText [')']

def assignments (names : List Text) (vs : List Value) : Template :=
  join [',', ' '] ((names.zip vs).map fun p => ofText (p.1 ++ " = ".toList) ++ [.value p.2])

end Template

namespace Statement

def returningText (ctx : Context) (s : Statement) : Outcome Text :=
  if s.returning.isEmpty then .ok []
  else if s.returning.contains "*" then .ok " RETURNING *".toList
  else (ctx.quoteAll s.returning).map fun t => " RETURNING ".toList ++ t

def withReturningTemplate (ctx : Context) (s : Statement) (T : Template) : Outcome Template :=
  (s.returningText ctx).map fun t => T ++ Template.ofText t

def selectTemplate (ctx : Context) (s : Statement) : Outcome Template := do
  let table ← s.requireTable "from_"
  let head ← selectText ctx s
  let source ← sourceText ctx table s.alias
  let joins ← s.joins.mapM (joinText ctx)
  let filter ← s.filter.template ctx
  let grouping ← groupingText ctx s
  let having ← s.having.template ctx
  let ordering ← orderingClause ctx s
  return Template.join [' '] (
    ([head, "FROM ".toList ++ source] ++ joins).map Template.ofText ++
      Template.clause "WHERE" filter ++ grouping.map Template.ofText ++
      Template.clause "HAVING" having ++
      (ordering ++ countClause "LIMIT" s.limit ++ countClause "OFFSET" s.offset).map Template.ofText)

def insertTemplate (ctx : Context) (s : Statement) : Outcome Template := do
  let table ← s.requireTable "into"
  match s.rows with
  | [] => .error (.configuration (.rowsMissing .insert))
  | row :: rest =>
    let rows ← (row :: rest).mapM fun r => r.values row.columns
    let head ← insertHead ctx table row.columns
    s.withReturningTemplate ctx
      (Template.ofText head ++ Template.join [',', ' '] (rows.map Template.row))

def updateTemplate (ctx : Context) (s : Statement) : Outcome Template := do
  let table ← s.requireTable "table"
  if s.assignments.isEmpty then .error (.configuration .assignmentsMissing)
  else
    let names ← s.assignments.columns.mapM ctx.quote
    let values ← s.assignments.values s.assignments.columns
    let target ← ctx.quote table
    let filter ← s.filter.template ctx
    s.withReturningTemplate ctx
      (Template.ofText ("UPDATE ".toList ++ target ++ " SET ".toList) ++
        Template.assignments names values ++ Template.clauseAfter "WHERE" filter)

def deleteTemplate (ctx : Context) (s : Statement) : Outcome Template := do
  let table ← s.requireTable "from_"
  let target ← ctx.quote table
  let filter ← s.filter.template ctx
  s.withReturningTemplate ctx
    (Template.ofText ("DELETE FROM ".toList ++ target) ++ Template.clauseAfter "WHERE" filter)

def upsertTemplate (ctx : Context) (s : Statement) : Outcome Template := do
  let table ← s.requireTable "into"
  match s.rows with
  | [] => .error (.configuration (.rowsMissing .upsert))
  | row :: _ =>
    if s.conflictColumns.isEmpty then .error (.configuration .conflictMissing)
    else
      let conflict ← ctx.quoteAll s.conflictColumns
      let head ← insertHead ctx table row.columns
      let base := Template.ofText head ++ Template.row (row.map Prod.snd) ++
        Template.ofText (" ON CONFLICT (".toList ++ conflict ++ [')'])
      match s.conflictAction with
      | .nothing => s.withReturningTemplate ctx (base ++ Template.ofText " DO NOTHING".toList)
      | .update =>
        let targets ← mergeTargets s row
        let names ← targets.mapM ctx.quote
        let merged ← row.values targets
        s.withReturningTemplate ctx
          (base ++ Template.ofText " DO UPDATE SET ".toList ++ Template.assignments names merged)

def template (ctx : Context) (s : Statement) : Outcome Template :=
  match s.kind with
  | .select => s.selectTemplate ctx
  | .insert => s.insertTemplate ctx
  | .update => s.updateTemplate ctx
  | .delete => s.deleteTemplate ctx
  | .upsert => s.upsertTemplate ctx

def countOfTemplate (target : Text) (T : Template) : Template :=
  Template.ofText ("SELECT COUNT(".toList ++ target ++ ") AS \"count\" FROM (".toList) ++ T ++
    Template.ofText ") AS \"sub\"".toList

def countTemplate (ctx : Context) (s : Statement) (column : Value) : Outcome Template := do
  let target ← countTarget ctx column
  if s.countsAsWhole then (s.template ctx).map (countOfTemplate target)
  else (s.counted target).template ctx

end Statement

theorem Template.Compositional.assignments {p : Template → Prop} (hp : Compositional p)
    {names : List Text} (hq : ∀ q ∈ names, Identifier.IsQuoted q) (vs : List Value) :
    p (assignments names vs) := by
  refine hp.join (by decide) (by decide) fun T hT => ?_
  obtain ⟨q, hm, rfl⟩ := List.mem_map.1 hT
  rw [ofText_append]
  exact hp.between (by decide) (by decide) (hp.quoted (hq q.1 (List.of_mem_zip hm).1))
    (hp.value q.2)

namespace Template

variable (o : Int)

theorem sql_numberedAll_map_ofText (ts : List Text) :
    (numberedAll o (ts.map ofText)).map BoundText.sql = ts := by
  induction ts with
  | nil => rfl
  | cons t ts ih => simp [numberedAll, numbered, ih]

theorem flatMap_values_map_ofText (ts : List Text) : (ts.map ofText).flatMap values = [] := by
  simp

theorem sql_numberedAll_clause (word : String) (T : Template) :
    (numberedAll o (clause word T)).map BoundText.sql =
      Statement.clauseText word (number o T) := by
  unfold clause Statement.clauseText
  rw [number_isEmpty]
  split
  · rfl
  · simp [numberedAll, numbered]

theorem flatMap_values_clause (word : String) (T : Template) :
    (clause word T).flatMap values = values T := by
  unfold clause
  split
  · rename_i h
    rw [List.isEmpty_iff.1 h]
    rfl
  · simp

theorem number_clauseAfter (word : String) (T : Template) :
    number o (clauseAfter word T) = Statement.clauseAfter word (number o T) := by
  unfold clauseAfter Statement.clauseAfter clause Statement.clauseText
  rw [number_isEmpty]
  split
  · rfl
  · simp

theorem values_clauseAfter (word : String) (T : Template) :
    values (clauseAfter word T) = values T := by
  unfold clauseAfter clause
  split
  · rename_i h
    rw [List.isEmpty_iff.1 h]
    rfl
  · simp

theorem number_row (vs : List Value) :
    number o (row vs) = '(' :: joinWith [',', ' '] (slotTexts o vs.length) ++ [')'] := by
  simp [row]

theorem values_row (vs : List Value) : values (row vs) = vs := by
  simp [row, values_each]

theorem sql_numberedAll_row {columns : Nat} (rows : List (List Value))
    (h : ∀ vs ∈ rows, vs.length = columns) :
    (numberedAll o (rows.map row)).map BoundText.sql =
      Statement.rowTexts columns o rows.length := by
  induction rows generalizing o with
  | nil => rfl
  | cons vs rows ih =>
    have hvs : vs.length = columns := h vs (by simp)
    have ht := ih (o + columns) fun ws hw => h ws (by simp [hw])
    simp only [List.map_cons, numberedAll, numbered, number_row, values_row, hvs, List.length_cons,
      Statement.rowTexts, ht]

theorem flatMap_values_row (rows : List (List Value)) :
    (rows.map row).flatMap values = rows.flatten := by
  induction rows with
  | nil => rfl
  | cons vs rows ih => simp [values_row, ih]

theorem sql_numberedAll_assignments {names : List Text} {vs : List Value} (equals : Text)
    (h : names.length = vs.length) :
    (numberedAll o ((names.zip vs).map fun p =>
        ofText (p.1 ++ equals) ++ [.value p.2])).map BoundText.sql =
      (names.zip (slotTexts o names.length)).map fun p => p.1 ++ equals ++ p.2 := by
  induction names generalizing o vs with
  | nil => simp [numberedAll]
  | cons q names ih =>
    cases vs with
    | nil => simp at h
    | cons v vs =>
      have ht := ih (o + 1) (Nat.succ.inj h)
      simp only [ofText_append, List.append_assoc] at ht
      simp [numberedAll, numbered, slotTexts, ht]

theorem flatMap_values_assignments {names : List Text} {vs : List Value} (equals : Text)
    (h : names.length = vs.length) :
    ((names.zip vs).map fun p =>
        ofText (p.1 ++ equals) ++ [Piece.value p.2]).flatMap values = vs := by
  induction names generalizing vs with
  | nil => simpa using (List.eq_nil_of_length_eq_zero h.symm).symm
  | cons q names ih =>
    cases vs with
    | nil => simp at h
    | cons v vs =>
      have ht := ih (Nat.succ.inj h)
      simpa using ht

theorem assignments_numbered {names : List Text} {vs : List Value}
    (h : names.length = vs.length) :
    (assignments names vs).numbered o =
      { sql := joinWith [',', ' ']
          ((names.zip (slotTexts o names.length)).map fun p => p.1 ++ " = ".toList ++ p.2),
        params := vs } := by
  simp only [numbered, assignments, number_join, values_join, sql_numberedAll_assignments o _ h,
    flatMap_values_assignments _ h]

end Template

namespace Statement

variable (ctx : Context) (s : Statement)

theorem withReturning_eq (sql : Text) :
    s.withReturning ctx sql = (s.returningText ctx).map (sql ++ ·) := by
  unfold withReturning returningText
  split
  · simp [Except.map]
  · split
    · simp [Except.map]
    · rw [Outcome.map_map]
      simp

theorem withReturningTemplate_numbered (o : Int) (T : Template) :
    (s.withReturningTemplate ctx T).map (Template.numbered o) =
      (s.withReturning ctx (T.number o)).map fun sql => { sql, params := T.values } := by
  unfold withReturningTemplate
  rw [withReturning_eq, Outcome.map_map, Outcome.map_map]
  simp [Template.numbered]

theorem compileDelete_eq :
    s.compileDelete ctx = (s.deleteTemplate ctx).map (Template.numbered 0) := by
  unfold compileDelete deleteTemplate
  simp only [Outcome.map_do, Group.compile_eq, Outcome.do_map, Outcome.do_pure,
    withReturningTemplate_numbered]
  refine bind_congr fun table => bind_congr fun target => bind_congr fun F => ?_
  simp [Template.numbered, Template.number_clauseAfter, Template.values_clauseAfter]

theorem compileSelect_eq :
    s.compileSelect ctx = (s.selectTemplate ctx).map (Template.numbered 0) := by
  unfold compileSelect selectTemplate
  simp only [Outcome.map_do, Group.compile_eq, Outcome.do_map]
  refine bind_congr fun table => bind_congr fun head => bind_congr fun source =>
    bind_congr fun joins => bind_congr fun F => bind_congr fun grouping => bind_congr fun H =>
    bind_congr fun ordering => ?_
  generalize "FROM ".toList ++ source = source
  simp only [pure, Except.pure, Except.map, Except.ok.injEq]
  simp only [Template.numbered, Template.number_join, Template.values_join,
    Template.numberedAll_append, List.map_append, Template.sql_numberedAll_map_ofText,
    Template.sql_numberedAll_clause, List.flatMap_append, Template.flatMap_values_clause,
    Template.flatMap_values_map_ofText]
  simp

theorem length_of_values {r : Row} {columns : List String} {vs : List Value}
    (h : r.values columns = .ok vs) : vs.length = columns.length :=
  Outcome.length_of_mapM h

theorem compileInsert_eq :
    s.compileInsert ctx = (s.insertTemplate ctx).map (Template.numbered 0) := by
  unfold compileInsert insertTemplate
  rw [Outcome.map_do]
  refine bind_congr fun table => ?_
  cases s.rows with
  | nil => rfl
  | cons row rest =>
    simp only [Outcome.map_do, Outcome.do_pure, withReturningTemplate_numbered]
    refine Outcome.do_congr fun rows hrows => bind_congr fun head => ?_
    have hlen : ∀ vs ∈ rows, vs.length = row.columns.length :=
      Outcome.forall_mem_of_mapM hrows fun r _ vs hvs => length_of_values hvs
    have hcount : rows.length = rest.length + 1 := Outcome.length_of_mapM hrows
    simp only [Template.number_append, Template.number_ofText, Template.values_append,
      Template.values_ofText, Template.number_join, Template.values_join,
      Template.sql_numberedAll_row _ rows hlen, Template.flatMap_values_row, hcount]
    simp

theorem compileUpdate_eq (h : ∀ F, s.filter.template ctx = .ok F → F.Separated) :
    s.compileUpdate ctx = (s.updateTemplate ctx).map (Template.numbered 0) := by
  unfold compileUpdate updateTemplate assignmentText
  rw [Outcome.map_do]
  refine bind_congr fun table => ?_
  split
  · rfl
  simp only [Outcome.map_do, Group.compile_eq, Outcome.do_pure, Outcome.do_map,
    withReturningTemplate_numbered]
  refine Outcome.do_congr fun names hnames => Outcome.do_congr fun values hvalues =>
    bind_congr fun target => Outcome.do_congr fun F hF => ?_
  have hlen : names.length = values.length := by
    rw [Outcome.length_of_mapM hnames, length_of_values hvalues]
  have hset := Template.assignments_numbered 0 hlen
  simp only [Template.numbered, BoundText.mk.injEq] at hset
  have hmoved := Template.shiftWithin_number_of_le (h F hF) values.length
    (values.length + F.values.length) (by omega)
  simp only [Template.numbered, List.length_append, hmoved, Except.mapError, bind, Except.bind]
  generalize "UPDATE ".toList ++ target ++ " SET ".toList = head
  simp [Template.number_clauseAfter, Template.values_clauseAfter, hset]

theorem quotedNames {ctx : Context} {columns : List String} {names : List Text}
    (h : columns.mapM ctx.quote = .ok names) : ∀ q ∈ names, Identifier.IsQuoted q :=
  Outcome.forall_mem_of_mapM h fun _ _ _ hq => Context.quote_isQuoted hq

theorem number_conflictBase (head conflict : Text) (vs : List Value) :
    (Template.ofText head ++ Template.row vs ++
        Template.ofText (" ON CONFLICT (".toList ++ conflict ++ [')'])).number 0 =
      head ++ '(' :: joinWith [',', ' '] (slotTexts 0 vs.length) ++
        ") ON CONFLICT (".toList ++ conflict ++ [')'] := by
  simp [Template.number_row]

theorem values_conflictBase (head conflict : Text) (vs : List Value) :
    (Template.ofText head ++ Template.row vs ++
      Template.ofText (" ON CONFLICT (".toList ++ conflict ++ [')'])).values = vs := by
  simp [Template.values_row]

theorem compileUpsert_eq :
    s.compileUpsert ctx = (s.upsertTemplate ctx).map (Template.numbered 0) := by
  unfold compileUpsert upsertTemplate assignmentText
  rw [Outcome.map_do]
  refine bind_congr fun table => ?_
  cases s.rows with
  | nil => rfl
  | cons row rest =>
    simp only
    split
    · rfl
    rw [Outcome.map_do]
    refine bind_congr fun conflict => ?_
    rw [Outcome.map_do]
    refine bind_congr fun head => ?_
    have hbase := number_conflictBase head conflict (row.map Prod.snd)
    have hvalues := values_conflictBase head conflict (row.map Prod.snd)
    generalize Template.ofText head ++ Template.row (row.map Prod.snd) ++
      Template.ofText (" ON CONFLICT (".toList ++ conflict ++ [')']) = base at hbase hvalues ⊢
    cases s.conflictAction with
    | nothing =>
      simp only [Outcome.do_pure, withReturningTemplate_numbered, Template.number_append, hbase,
        Template.number_ofText, Template.values_append, Template.values_ofText, hvalues,
        List.append_nil]
    | update =>
      simp only [Outcome.map_do, Outcome.do_pure, withReturningTemplate_numbered]
      refine bind_congr fun targets => ?_
      rw [Outcome.do_map]
      refine Outcome.do_congr fun names hnames => Outcome.do_congr fun merged hmerged => ?_
      have hlen : names.length = merged.length := by
        rw [Outcome.length_of_mapM hnames, length_of_values hmerged]
      have hapart : (Template.assignments names merged).Separated :=
        (LocalRule.separation.compositional.assignments (quotedNames hnames) merged).beside
      have hset := Template.assignments_numbered 0 hlen
      have hshift := Template.shift_number hapart 0 (row.map Prod.snd).length
      simp only [Template.numbered, BoundText.mk.injEq] at hset
      rw [Int.natCast_zero, hset.1, Nat.zero_add] at hshift
      simp only [hshift, Template.number_append, hbase, Template.number_ofText,
        Template.values_append, Template.values_ofText, hvalues, hset.2, List.append_nil,
        Int.zero_add]

/-- Every statement is put into text as its template is numbered. The conditions of an update are
read again when they are moved, and so they must be read as they were written. -/
theorem compileNumbered_eq
    (h : s.kind = .update → ∀ F, s.filter.template ctx = .ok F → F.Separated) :
    s.compileNumbered ctx = (s.template ctx).map (Template.numbered 0) := by
  unfold compileNumbered template
  cases hk : s.kind with
  | select => exact compileSelect_eq ctx s
  | insert => exact compileInsert_eq ctx s
  | update => exact compileUpdate_eq ctx s (h hk)
  | delete => exact compileDelete_eq ctx s
  | upsert => exact compileUpsert_eq ctx s

theorem countOf_numbered (target : Text) (T : Template) :
    countOf target (T.numbered 0) = (countOfTemplate target T).numbered 0 := by
  unfold countOf countOfTemplate Template.numbered
  generalize "SELECT COUNT(".toList ++ target ++ ") AS \"count\" FROM (".toList = head
  simp

theorem countNumbered_eq (column : Value)
    (h : s.kind = .update → ∀ F, s.filter.template ctx = .ok F → F.Separated) :
    s.countNumbered ctx column = (s.countTemplate ctx column).map (Template.numbered 0) := by
  unfold countNumbered countTemplate
  rw [Outcome.map_do]
  refine bind_congr fun target => ?_
  split
  · rw [compileNumbered_eq ctx s h, Outcome.map_map, Outcome.map_map]
    simp only [countOf_numbered]
  · exact compileNumbered_eq ctx (s.counted target) h

end Statement

end BoundSql
