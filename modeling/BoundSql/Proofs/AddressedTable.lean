import BoundSql.Proofs.InsertedRows
import BoundSql.Proofs.NameDecoding
import BoundSql.Proofs.WrittenColumns
import BoundSql.Proofs.WrittenStatement
/-!
Which table is meant by a name. Statements write what is kept of the name, and so do the statements
that remove a table or empty it. Whether there is a table is asked of the name as it was given, so the
answer is about another name as soon as something of it is left out.
-/

namespace BoundSql

open Identifier (IsQuoted)

namespace Statement

variable {ctx : Context} {s : Statement} {t : BoundText} {table : String}

def frontText (ctx : Context) (s : Statement) : Outcome Text :=
  match s.kind with
  | .select => (selectText ctx s).map fun head => ctx.dialect.render head ++ " FROM ".toList
  | .insert | .upsert => .ok "INSERT INTO ".toList
  | .update => .ok "UPDATE ".toList
  | .delete => .ok "DELETE FROM ".toList

/-- A text with the quoted name of a table behind the given words. -/
def NamesBehind (ctx : Context) (table : String) (word sql : Text) : Prop :=
  ∃ q rest, ctx.quote table = .ok q ∧ ClauseEnd rest ∧ sql = word ++ q ++ rest

theorem eq_of_requireTable {method other : String} (hs : s.table = some table)
    (h : s.requireTable method = .ok other) : other = table :=
  Option.some.inj ((requireTable_eq_ok h).symm.trans hs)

theorem withReturning_behind {front rest u : Text} (hrest : ClauseEnd rest)
    (h : s.withReturning ctx (front ++ rest) = .ok u) :
    ∃ rest', ClauseEnd rest' ∧ u = front ++ rest' := by
  rw [withReturning_eq] at h
  obtain ⟨returned, hreturned, rfl⟩ := Outcome.map_eq_ok.1 h
  exact ⟨rest ++ returned, hrest.append (returningText_end hreturned), List.append_assoc ..⟩

theorem NamesBehind.withReturning {word u v : Text} (h : NamesBehind ctx table word u)
    (hv : s.withReturning ctx u = .ok v) : NamesBehind ctx table word v := by
  obtain ⟨q, rest, hq, hrest, rfl⟩ := h
  obtain ⟨rest', hrest', rfl⟩ := withReturning_behind hrest hv
  exact ⟨q, rest', hq, hrest', rfl⟩

theorem compileDelete_names (hs : s.table = some table) (h : s.compileDelete ctx = .ok t) :
    NamesBehind ctx table "DELETE FROM ".toList t.sql := by
  unfold compileDelete at h
  obtain ⟨name, hname, h⟩ := Outcome.do_eq_ok.1 h
  obtain rfl := eq_of_requireTable hs hname
  obtain ⟨q, hq, h⟩ := Outcome.do_eq_ok.1 h
  obtain ⟨filter, -, h⟩ := Outcome.do_eq_ok.1 h
  obtain ⟨sql, hsql, h⟩ := Outcome.do_eq_ok.1 h
  cases h
  exact NamesBehind.withReturning ⟨q, _, hq, clauseAfter_end "WHERE" filter.sql, rfl⟩ hsql

theorem compileUpdate_names (hs : s.table = some table) (h : s.compileUpdate ctx = .ok t) :
    NamesBehind ctx table "UPDATE ".toList t.sql := by
  unfold compileUpdate at h
  obtain ⟨name, hname, h⟩ := Outcome.do_eq_ok.1 h
  obtain rfl := eq_of_requireTable hs hname
  split at h
  · cases h
  obtain ⟨set, -, h⟩ := Outcome.do_eq_ok.1 h
  obtain ⟨values, -, h⟩ := Outcome.do_eq_ok.1 h
  obtain ⟨q, hq, h⟩ := Outcome.do_eq_ok.1 h
  obtain ⟨filter, -, h⟩ := Outcome.do_eq_ok.1 h
  obtain ⟨moved, -, h⟩ := Outcome.do_eq_ok.1 h
  obtain ⟨sql, hsql, h⟩ := Outcome.do_eq_ok.1 h
  cases h
  have hset : " SET ".toList = ' ' :: "SET ".toList := by decide
  refine NamesBehind.withReturning
    ⟨q, ' ' :: ("SET ".toList ++ set ++ clauseAfter "WHERE" moved), hq, .blank _, ?_⟩ hsql
  rw [hset]
  simp

theorem insertHead_names {columns : List String} {head : Text}
    (h : insertHead ctx table columns = .ok head) (rest : Text) :
    NamesBehind ctx table "INSERT INTO ".toList (head ++ rest) := by
  unfold insertHead at h
  obtain ⟨q, hq, h⟩ := Outcome.do_eq_ok.1 h
  obtain ⟨names, -, h⟩ := Outcome.do_eq_ok.1 h
  cases h
  have hopening : " (".toList = [' ', '('] := by decide
  refine ⟨q, ' ' :: '(' :: (names ++ ") VALUES ".toList ++ rest), hq, .blank _, ?_⟩
  rw [hopening]
  simp

theorem compileInsert_names (hs : s.table = some table) (h : s.compileInsert ctx = .ok t) :
    NamesBehind ctx table "INSERT INTO ".toList t.sql := by
  unfold compileInsert at h
  obtain ⟨name, hname, h⟩ := Outcome.do_eq_ok.1 h
  obtain rfl := eq_of_requireTable hs hname
  split at h
  · cases h
  obtain ⟨params, -, h⟩ := Outcome.do_eq_ok.1 h
  obtain ⟨head, hhead, h⟩ := Outcome.do_eq_ok.1 h
  obtain ⟨sql, hsql, h⟩ := Outcome.do_eq_ok.1 h
  cases h
  exact (insertHead_names hhead _).withReturning hsql

theorem compileUpsert_names (hs : s.table = some table) (h : s.compileUpsert ctx = .ok t) :
    NamesBehind ctx table "INSERT INTO ".toList t.sql := by
  unfold compileUpsert at h
  obtain ⟨name, hname, h⟩ := Outcome.do_eq_ok.1 h
  obtain rfl := eq_of_requireTable hs hname
  split at h
  · cases h
  split at h
  · cases h
  obtain ⟨conflict, -, h⟩ := Outcome.do_eq_ok.1 h
  obtain ⟨head, hhead, h⟩ := Outcome.do_eq_ok.1 h
  have hbehind : ∀ rest, NamesBehind ctx name "INSERT INTO ".toList (head ++ rest) :=
    insertHead_names hhead
  split at h
  · obtain ⟨sql, hsql, h⟩ := Outcome.do_eq_ok.1 h
    cases h
    simp only [List.append_assoc] at hsql
    exact (hbehind _).withReturning hsql
  · obtain ⟨targets, -, h⟩ := Outcome.do_eq_ok.1 h
    obtain ⟨set, -, h⟩ := Outcome.do_eq_ok.1 h
    obtain ⟨merged, -, h⟩ := Outcome.do_eq_ok.1 h
    obtain ⟨sql, hsql, h⟩ := Outcome.do_eq_ok.1 h
    cases h
    simp only [List.append_assoc] at hsql
    exact (hbehind _).withReturning hsql

theorem sourceText_names {label : Option String} {source : Text}
    (h : sourceText ctx table label = .ok source) :
    ∃ q rest, ctx.quote table = .ok q ∧ ClauseEnd rest ∧ source = q ++ rest := by
  unfold sourceText withAlias at h
  obtain ⟨q, hq, h⟩ := Outcome.do_eq_ok.1 h
  refine ⟨q, ?_⟩
  split at h
  · cases h
    exact ⟨[], hq, .nil, by simp⟩
  split at h
  · cases h
    exact ⟨[], hq, .nil, by simp⟩
  · obtain ⟨other, -, rfl⟩ := Outcome.map_eq_ok.1 h
    have has : " AS ".toList = ' ' :: "AS ".toList := by decide
    exact ⟨' ' :: ("AS ".toList ++ other), hq, .blank _, by rw [has]; simp⟩

theorem clauseEnd_flatMap (clauses : List Text) : ClauseEnd (clauses.flatMap ([' '] ++ ·)) := by
  cases clauses with
  | nil => exact .nil
  | cons c cs => exact .blank _

theorem compileSelect_names (hs : s.table = some table) (h : s.compileSelect ctx = .ok t) :
    ∃ head, selectText ctx s = .ok head ∧ NamesBehind ctx table (head ++ " FROM ".toList) t.sql := by
  unfold compileSelect at h
  obtain ⟨name, hname, h⟩ := Outcome.do_eq_ok.1 h
  obtain rfl := eq_of_requireTable hs hname
  obtain ⟨head, hhead, h⟩ := Outcome.do_eq_ok.1 h
  obtain ⟨source, hsource, h⟩ := Outcome.do_eq_ok.1 h
  obtain ⟨joins, -, h⟩ := Outcome.do_eq_ok.1 h
  obtain ⟨filter, -, h⟩ := Outcome.do_eq_ok.1 h
  obtain ⟨grouping, -, h⟩ := Outcome.do_eq_ok.1 h
  obtain ⟨having, -, h⟩ := Outcome.do_eq_ok.1 h
  obtain ⟨ordering, -, h⟩ := Outcome.do_eq_ok.1 h
  cases h
  obtain ⟨q, rest, hq, hrest, rfl⟩ := sourceText_names hsource
  have hfrom : " FROM ".toList = ' ' :: "FROM ".toList := by decide
  refine ⟨head, hhead, q, _, hq, hrest.append (clauseEnd_flatMap (joins ++
    clauseText "WHERE" filter.sql ++ grouping ++ clauseText "HAVING" having.sql ++ ordering ++
    countClause "LIMIT" s.limit ++ countClause "OFFSET" s.offset)), ?_⟩
  simp only [List.cons_append, List.nil_append, List.append_assoc]
  rw [joinWith_cons, List.flatMap_cons, hfrom]
  simp

theorem NamesBehind.render {word sql : Text} (h : NamesBehind ctx table word sql)
    (hword : '$' ∉ word) (d : Dialect) : NamesBehind ctx table word (d.render sql) := by
  obtain ⟨q, rest, hq, hrest, rfl⟩ := h
  refine ⟨q, d.render rest, hq, hrest.render d, d.render_of_plain_append ?_ rest⟩
  simp [hword, (Context.quote_isQuoted hq).dollar_not_mem]

theorem NamesBehind.render_from {head sql : Text}
    (h : NamesBehind ctx table (head ++ " FROM ".toList) sql) (d : Dialect) :
    NamesBehind ctx table (d.render head ++ " FROM ".toList) (d.render sql) := by
  obtain ⟨q, rest, hq, hrest, rfl⟩ := h
  have hplain : '$' ∉ " FROM ".toList ++ q := by
    simp [(Context.quote_isQuoted hq).dollar_not_mem]
  have hblank : ∀ c ∈ (" FROM ".toList ++ q ++ rest).head?, isDecimalDigit c = false := by
    rintro c ⟨⟩
    decide
  refine ⟨q, d.render rest, hq, hrest.render d, ?_⟩
  have happend := d.render_append head hblank
  rw [d.render_of_plain_append hplain] at happend
  simpa only [List.append_assoc] using happend

theorem compile_names {c : Compiled} (hs : s.table = some table) (h : s.compile ctx = .ok c) :
    ∃ front, s.frontText ctx = .ok front ∧ NamesBehind ctx table front c.sql := by
  obtain ⟨t, ht, rfl⟩ := Outcome.map_eq_ok.1 h
  unfold compileNumbered at ht
  unfold frontText
  cases hkind : s.kind with
  | select =>
    rw [hkind] at ht
    obtain ⟨head, hhead, hnames⟩ := compileSelect_names hs ht
    exact ⟨_, congrArg (Except.map _) hhead, hnames.render_from ctx.dialect⟩
  | insert =>
    rw [hkind] at ht
    exact ⟨_, rfl, (compileInsert_names hs ht).render (by decide) ctx.dialect⟩
  | update =>
    rw [hkind] at ht
    exact ⟨_, rfl, (compileUpdate_names hs ht).render (by decide) ctx.dialect⟩
  | delete =>
    rw [hkind] at ht
    exact ⟨_, rfl, (compileDelete_names hs ht).render (by decide) ctx.dialect⟩
  | upsert =>
    rw [hkind] at ht
    exact ⟨_, rfl, (compileUpsert_names hs ht).render (by decide) ctx.dialect⟩

end Statement

namespace Action

/-- From a session an action hands over the given statement and no other, once at most, and once if it
ends well. -/
def HandsOnce {α : Type} (s : Session) (p : Text × List Value) (x : Action α) : Prop :=
  ∃ k ≤ 1, statements (x.exec s).2.log = statements s.log ++ List.replicate k p ∧
    ∀ a, (x.exec s).1 = .ok a → k = 1

variable {α : Type} {s : Session} {p : Text × List Value}

theorem HandsOnce.congr {x y : Action α} (h : x.exec s = y.exec s) (hy : HandsOnce s p y) :
    HandsOnce s p x := by
  unfold HandsOnce
  rw [h]
  exact hy

end Action

namespace Target

open BoundSql.Action

variable (target : Target) (s : Session) {name : String} {q : Text} (schema cascade : Value)

theorem handsOnce_run {α : Type} (c : Compiled) (f : List Record → α) :
    HandsOnce s (c.sql, c.params) (target.run c >>= fun rows => pure (f rows)) :=
  hands_before (target.hands_run c) (fun rows => hands_pure (f rows)) s

theorem exec_quoteValue (hq : Identifier.quoteName s.context.limit name = .ok q) :
    exec (conclude (Identifier.quoteValue s.context.limit (.text name))) s = (.ok q, s) := by
  rw [exec_conclude]
  exact congrArg (·, s) hq

theorem exec_hasTable (hq : Identifier.quoteName s.context.limit name = .ok q) :
    let d := s.context.dialect
    let probe := d.tableProbe (.text name) schema
    exec (target.hasTable (.text name) schema) s =
      exec (target.run ⟨d.render probe.1, probe.2, d⟩ >>= fun rows => pure !rows.isEmpty) s := by
  unfold hasTable
  rw [exec_bind_ok (exec_get s), exec_bind_ok (exec_quoteValue s hq)]

theorem exec_plain_of_no_dollar {sql : Text} (hsql : '$' ∉ sql) :
    (plain sql).exec s = (.ok ⟨sql, [], s.context.dialect⟩, s) := by
  have hexec : (plain sql).exec s =
      (.ok ⟨s.context.dialect.render sql, [], s.context.dialect⟩, s) := rfl
  rw [hexec, s.context.dialect.render_of_plain hsql]

theorem dollar_not_mem_cascadeText (d : Dialect) (b : Bool) : '$' ∉ d.cascadeText b := by
  cases d <;> cases b <;> decide

theorem dollar_not_mem_around {word rest : Text} (hword : '$' ∉ word) (hq : IsQuoted q)
    (hrest : '$' ∉ rest) : '$' ∉ word ++ q ++ rest := by
  simp only [List.mem_append, not_or]
  exact ⟨⟨hword, hq.dollar_not_mem⟩, hrest⟩

theorem dollar_not_mem_dropTable (d : Dialect) (hq : IsQuoted q) (b : Bool) :
    '$' ∉ d.dropTable q b :=
  dollar_not_mem_around (by decide) hq (dollar_not_mem_cascadeText d b)

theorem dollar_not_mem_truncate (d : Dialect) (hq : IsQuoted q) (b : Bool) :
    '$' ∉ d.truncate q b := by
  cases d with
  | postgres => exact dollar_not_mem_around (by decide) hq (dollar_not_mem_cascadeText .postgres b)
  | sqlite =>
    have hplain : '$' ∉ "DELETE FROM ".toList ++ q ++ [] :=
      dollar_not_mem_around (by decide) hq List.not_mem_nil
    rwa [List.append_nil] at hplain

theorem exec_dropTable (hq : Identifier.quoteName s.context.limit name = .ok q) :
    let d := s.context.dialect
    exec (target.dropTable (.text name) cascade) s =
      exec (target.run ⟨d.dropTable q cascade.truthy, [], d⟩ >>= fun _ => pure ()) s := by
  have hplain := dollar_not_mem_dropTable s.context.dialect (Identifier.quoteName_isQuoted hq)
    cascade.truthy
  unfold dropTable
  rw [exec_bind_ok (exec_get s), exec_bind_ok (exec_quoteValue s hq),
    exec_bind_ok (exec_plain_of_no_dollar s hplain)]

theorem exec_truncate (hq : Identifier.quoteName s.context.limit name = .ok q) :
    let d := s.context.dialect
    exec (target.truncate (.text name) cascade) s =
      exec (target.run ⟨d.truncate q cascade.truthy, [], d⟩ >>= fun _ => pure ()) s := by
  have hplain := dollar_not_mem_truncate s.context.dialect (Identifier.quoteName_isQuoted hq)
    cascade.truthy
  unfold truncate
  rw [exec_bind_ok (exec_get s), exec_bind_ok (exec_quoteValue s hq),
    exec_bind_ok (exec_plain_of_no_dollar s hplain)]

theorem getLast?_tableProbe (d : Dialect) (table schema : Value) :
    (d.tableProbe table schema).2.getLast? = some table := by
  cases d <;> rfl

/-- Statements on a table write what is quoted of its name, and so do the statements that remove the
table and empty it. The database is asked about the name as it was given, which is the name that is
read from the quoted one exactly when nothing was left out of it. -/
theorem probed_name (hq : Identifier.quoteName s.context.limit name = .ok q) :
    let d := s.context.dialect
    let probe := d.tableProbe (.text name) schema
    HandsOnce s (d.render probe.1, probe.2) (target.hasTable (.text name) schema) ∧
      HandsOnce s (d.dropTable q cascade.truthy, []) (target.dropTable (.text name) cascade) ∧
      HandsOnce s (d.truncate q cascade.truthy, []) (target.truncate (.text name) cascade) ∧
      (∀ (stmt : Statement) (c : Compiled), stmt.table = some name →
        stmt.compile s.context = .ok c → ∃ front rest, stmt.frontText s.context = .ok front ∧
          ClauseEnd rest ∧ c.sql = front ++ q ++ rest) ∧
      ∃ kept, Identifier.unquote q = .ok kept ∧
        (probe.2.getLast? = some (.text (String.ofList kept)) ↔
          Identifier.IsPlainName name.toList) := by
  have hquote := Outcome.mapError_eq_ok.1 hq
  refine ⟨.congr (target.exec_hasTable s schema hq) (target.handsOnce_run s _ _),
    .congr (target.exec_dropTable s cascade hq) (target.handsOnce_run s _ _),
    .congr (target.exec_truncate s cascade hq) (target.handsOnce_run s _ _),
    fun stmt c hs hc => ?_, _, Identifier.unquote_eq_keptName hquote, ?_⟩
  · obtain ⟨front, hfront, q', rest, hq', hrest, hsql⟩ := Statement.compile_names hs hc
    cases hq.symm.trans hq'
    exact ⟨front, rest, hfront, hrest, hsql⟩
  · rw [getLast?_tableProbe, Option.some.injEq, Value.text.injEq, ← String.toList_inj,
      String.toList_ofList, eq_comm, Identifier.keptName_eq_self_iff hquote]

theorem probed_name_orders :
    let table := "shop.orders"
    let q := "\"shop\".\"orders\"".toList
    let s := answering .postgres
    Identifier.quoteName s.context.limit table = .ok q ∧ Identifier.IsPlainName table.toList ∧
      (Dialect.postgres.tableProbe (.text table) .null).2.getLast? = some (.text table) ∧
      (∃ c, Statement.compile s.context { kind := .delete, table := some table } = .ok c ∧
        ∃ rest, ClauseEnd rest ∧ c.sql = "DELETE FROM ".toList ++ q ++ rest) ∧
      statements ((database.dropTable (.text table) (.bool true)).exec s).2.log =
        [("DROP TABLE IF EXISTS \"shop\".\"orders\" CASCADE".toList, [])] := by
  intro table q s
  have hquote : Identifier.quote s.context.limit table.toList = .ok q := by decide +kernel
  have hq : Identifier.quoteName s.context.limit table = .ok q := Outcome.mapError_eq_ok.2 hquote
  have hplain : Identifier.IsPlainName table.toList := by decide +kernel
  obtain ⟨-, ⟨k, -, hlog, hok⟩, -, hnames, kept, hkept, hasked⟩ :=
    probed_name .database s .null (.bool true) hq
  have hread := Identifier.unquote_eq_keptName hquote
  rw [hplain.keptName_eq_self] at hread
  have hkeep : kept = table.toList := Except.ok.inj (hkept.symm.trans hread)
  have hdropped : ((database.dropTable (.text table) (.bool true)).exec s).1 = .ok () := by
    rw [exec_dropTable _ _ _ hq]
    rfl
  obtain rfl := hok () hdropped
  have hdeletes : Statement.compileDelete s.context { kind := .delete, table := some table } =
      .ok ⟨"DELETE FROM ".toList ++ q, []⟩ :=
    Outcome.do_eq_ok.2 ⟨table, rfl, Outcome.do_eq_ok.2 ⟨q, hq, rfl⟩⟩
  have hcompile : Statement.compile s.context { kind := .delete, table := some table } = .ok _ :=
    congrArg (Except.map (Statement.render s.context)) hdeletes
  obtain ⟨front, rest, hfront, hrest, hsql⟩ := hnames _ _ rfl hcompile
  cases hfront
  refine ⟨hq, hplain, ?_, ⟨_, hcompile, rest, hrest, hsql⟩, hlog⟩
  have hsame := hasked.2 hplain
  rwa [hkeep, String.ofList_toList] at hsame

/-- Blanks around a name are left out where the table is removed. The database is asked about a name
with the blanks. -/
theorem probe_misses_spacedName :
    let table : Value := .text " users "
    let s := answering .sqlite
    Identifier.quoteName s.context.limit " users " = .ok "\"users\"".toList ∧
      Identifier.unquote "\"users\"".toList = .ok "users".toList ∧
      statements ((hasTable .database table .null).exec s).2.log =
        [("SELECT name FROM sqlite_master WHERE type = 'table' AND name = ?".toList,
          [.text " users "])] ∧
      statements ((dropTable .database table (.bool false)).exec s).2.log =
        [("DROP TABLE IF EXISTS \"users\"".toList, [])] ∧
      statements ((truncate .database table (.bool false)).exec s).2.log =
        [("DELETE FROM \"users\"".toList, [])] := by
  intro table s
  have hq : Identifier.quoteName s.context.limit " users " = .ok "\"users\"".toList :=
    Outcome.mapError_eq_ok.2 (by decide +kernel)
  have hprobe : Dialect.sqlite.render (Dialect.sqlite.tableProbe table .null).1 =
      "SELECT name FROM sqlite_master WHERE type = 'table' AND name = ?".toList := by decide +kernel
  refine ⟨hq, rfl, ?_, ?_, ?_⟩
  · rw [exec_hasTable _ _ _ hq, ← hprobe]
    rfl
  · rw [exec_dropTable _ _ _ hq]
    rfl
  · rw [exec_truncate _ _ _ hq]
    rfl

end Target

end BoundSql
