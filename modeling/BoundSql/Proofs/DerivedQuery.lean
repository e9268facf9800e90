import BoundSql.Proofs.HandedStatement
import BoundSql.Proofs.Sealing
import BoundSql.Proofs.SelectParts
/-!
Statements that are derived from a select statement: a count of its rows, and the same statement for
one row. They take over the sources and the conditions with their values, and leave the statement
that they come from alone.
-/

namespace BoundSql

def countItem (target : Text) : Text :=
  "COUNT(".toList ++ target ++ ") AS \"count\"".toList

def countWhole (target sql : Text) : Text :=
  "SELECT COUNT(".toList ++ target ++ ") AS \"count\" FROM (".toList ++ sql ++
    ") AS \"sub\"".toList

/-- The parts of a count in place: no other entries, no order, and nothing is cut off. -/
def SelectParts.counting (target : Text) (p : SelectParts) : SelectParts :=
  { p with items := [countItem target], ordering := [], limit := none, offset := none }

theorem Context.quote_count (ctx : Context) :
    ctx.quote "count" =
      if ctx.limit < 5 then reject (.identifier (.text "count") (.tooLong ctx.limit))
      else .ok "\"count\"".toList := by
  have htrim : trim "count".toList = "count".toList := by decide
  have hcut : cutAt '.' "count".toList = ["count".toList] := by decide
  have hsafe : isDangerous "count".toList = false := by decide
  have hunion : hasUnionWord false "count".toList = false := by decide
  have hreserved : isReserved "count".toList = false := by decide
  have hkept : "count".toList.filter isNameChar = "count".toList := by decide
  have hpart : Identifier.quotePart ctx.limit "count".toList =
      if ctx.limit < 5 then .error (.tooLong ctx.limit) else .ok "\"count\"".toList := by
    unfold Identifier.quotePart
    simp only [htrim, hsafe, hunion, hreserved, hkept]
    rfl
  have hquote : Identifier.quote ctx.limit "count".toList =
      (Identifier.quotePart ctx.limit "count".toList).map fun q => q := by
    unfold Identifier.quote
    simp only [htrim, hcut, Identifier.quoteParts]
    cases Identifier.quotePart ctx.limit "count".toList <;> rfl
  unfold Context.quote Identifier.quoteName
  rw [hquote, hpart]
  split <;> rfl

namespace Statement

variable {ctx : Context} {s : Statement} {p : SelectParts} {column : Value} {target : Text}

theorem countTarget_plain (h : countTarget ctx column = .ok target) : '$' ∉ target := by
  unfold countTarget at h
  split at h
  · split at h
    · cases h
      decide
    · exact (Context.quote_isQuoted h).dollar_not_mem
  · cases h

def countEntry (target : Text) : SelectItem where
  expr := String.ofList ("COUNT(".toList ++ target ++ [')'])
  «alias» := some "count"
  raw := true

theorem itemText_countEntry (target : Text) :
    itemText ctx (countEntry target) =
      if ctx.limit < 5 then reject (.identifier (.text "count") (.tooLong ctx.limit))
      else .ok (countItem target) := by
  have hlabel : "count".isEmpty = false := by decide
  have hraw : itemText ctx (countEntry target) =
      withAlias ctx (String.ofList ("COUNT(".toList ++ target ++ [')'])).toList (some "count") := rfl
  have hentry : itemText ctx (countEntry target) =
      (ctx.quote "count").map fun q => "COUNT(".toList ++ target ++ [')'] ++ " AS ".toList ++ q := by
    rw [hraw, String.toList_ofList]
    unfold withAlias
    dsimp only
    rw [hlabel]
    rfl
  have hending : [')'] ++ (" AS ".toList ++ "\"count\"".toList) = ") AS \"count\"".toList := by decide
  have hitem : "COUNT(".toList ++ target ++ [')'] ++ " AS ".toList ++ "\"count\"".toList =
      countItem target :=
    calc "COUNT(".toList ++ target ++ [')'] ++ " AS ".toList ++ "\"count\"".toList
      _ = "COUNT(".toList ++ target ++ ([')'] ++ (" AS ".toList ++ "\"count\"".toList)) := by
        simp only [List.append_assoc]
      _ = countItem target := congrArg ("COUNT(".toList ++ target ++ ·) hending
  rw [hentry, Context.quote_count]
  split
  · rfl
  · exact congrArg Except.ok hitem

theorem selectParts_counted (h : s.selectParts ctx = .ok p) :
    (s.counted target).selectParts ctx =
      if ctx.limit < 5 then reject (.identifier (.text "count") (.tooLong ctx.limit))
      else .ok (p.counting target) := by
  have hparts := hasParts_of_selectParts h
  obtain ⟨table, htable, hsource⟩ := hparts.source
  have htable' : (s.counted target).requireTable "from_" = .ok table := htable
  have hitems : (s.counted target).items.mapM (itemText ctx) =
      (itemText ctx (countEntry target)).map fun t => [t] := by
    show [countEntry target].mapM (itemText ctx) = _
    rw [List.mapM_cons, List.mapM_nil]
    cases itemText ctx (countEntry target) <;> rfl
  unfold selectParts
  rw [Outcome.do_ok htable', hitems, itemText_countEntry]
  split
  · rfl
  · simp only [Except.map]
    rw [Outcome.do_ok rfl]
    simp only [counted]
    rw [Outcome.do_ok hsource, Outcome.do_ok hparts.joins, Outcome.do_ok hparts.filter,
      Outcome.do_ok hparts.grouping, Outcome.do_ok hparts.having, SelectParts.counting,
      hparts.distinct]
    rfl

theorem selectParts_limitedToOne :
    s.limitedToOne.selectParts ctx = (s.selectParts ctx).map fun p => { p with limit := some 1 } := by
  unfold selectParts
  simp only [Outcome.map_do]
  rfl

theorem compileNumbered_eq_parts (hkind : s.kind = .select) :
    s.compileNumbered ctx = (s.selectParts ctx).map SelectParts.bound := by
  unfold compileNumbered
  rw [hkind]
  exact compileSelect_eq_parts ctx s

theorem compile_of_parts (hkind : s.kind = .select) (h : s.selectParts ctx = .ok p) :
    s.compile ctx =
      .ok { sql := (p.written ctx.dialect).text, params := p.params, dialect := ctx.dialect } := by
  rw [compile, compileNumbered_eq_parts hkind, h]
  simp only [Except.map, render, SelectParts.bound, SelectParts.render_text]

theorem parts_of_compile {c : Compiled} (hkind : s.kind = .select) (h : s.compile ctx = .ok c) :
    ∃ p, s.selectParts ctx = .ok p := by
  rw [compile, compileNumbered_eq_parts hkind, Outcome.map_map] at h
  obtain ⟨p, hp, -⟩ := Outcome.map_eq_ok.1 h
  exact ⟨p, hp⟩

theorem countItem_plain (h : '$' ∉ target) : '$' ∉ countItem target := by
  unfold countItem
  simp only [List.mem_append, not_or]
  exact ⟨⟨by decide, h⟩, by decide⟩

theorem written_counting (htarget : '$' ∉ target) (hdistinct : p.distinct = false) (d : Dialect) :
    ((p.counting target).written d).text =
      joinWith [' '] (("SELECT ".toList ++ countItem target) :: (p.written d).body) := by
  have hitem := d.render_of_plain (countItem_plain htarget)
  have hhead : ((p.counting target).written d).head = "SELECT ".toList ++ countItem target := by
    simp only [SelectParts.counting, SelectParts.written, SelectParts.head, hdistinct, List.map_cons,
      List.map_nil, hitem]
    rfl
  have hending : ((p.counting target).written d).ending = [] := rfl
  have hbody : ((p.counting target).written d).body = (p.written d).body := rfl
  rw [SelectParts.text, hhead, hending, hbody, List.append_nil]

theorem render_countWhole (htarget : '$' ∉ target) (sql : Text) (d : Dialect) :
    d.render (countWhole target sql) = countWhole target (d.render sql) := by
  have hfront : '$' ∉ "SELECT COUNT(".toList ++ target ++ ") AS \"count\" FROM (".toList := by
    simp only [List.mem_append, not_or]
    exact ⟨⟨by decide, htarget⟩, by decide⟩
  have hending : d.render (") AS \"sub\"".toList) = ") AS \"sub\"".toList :=
    d.render_of_plain (by decide)
  have hdigit : ∀ c ∈ (") AS \"sub\"".toList).head?, isDecimalDigit c = false := by
    intro c hc
    obtain rfl : ')' = c := Option.some.inj hc
    rfl
  unfold countWhole
  rw [d.render_append _ hdigit, hending, d.render_of_plain_append hfront]

section Counts

variable (hkind : s.kind = .select) (h : s.selectParts ctx = .ok p)
  (htarget : countTarget ctx column = .ok target)
include hkind h htarget

theorem compileCount_whole (hwhole : s.countsAsWhole) :
    s.compileCount ctx column =
      .ok { sql := countWhole target (p.written ctx.dialect).text, params := p.params,
            dialect := ctx.dialect } := by
  unfold compileCount countNumbered
  have hwritten : render ctx (countOf target p.bound) =
      { sql := ctx.dialect.render (countWhole target p.text), params := p.params,
        dialect := ctx.dialect } := rfl
  rw [Outcome.do_ok htarget, if_pos hwhole, compileNumbered_eq_parts hkind, h]
  simp only [Except.map]
  rw [hwritten, render_countWhole (countTarget_plain htarget), SelectParts.render_text]

theorem compileCount_in_place (hwhole : s.countsAsWhole = false) :
    s.compileCount ctx column =
      if ctx.limit < 5 then reject (.identifier (.text "count") (.tooLong ctx.limit))
      else .ok { sql := joinWith [' '] (("SELECT ".toList ++ countItem target) ::
                   (p.written ctx.dialect).body),
                 params := p.params, dialect := ctx.dialect } := by
  have hdistinct : p.distinct = false := by
    rw [(hasParts_of_selectParts h).distinct]
    simp_all [countsAsWhole]
  have hcounted : (s.counted target).kind = .select := hkind
  unfold compileCount countNumbered
  rw [Outcome.do_ok htarget, if_neg (by simp [hwhole]), compileNumbered_eq_parts hcounted,
    selectParts_counted h]
  split
  · rfl
  · simp only [Except.map, render, SelectParts.bound]
    rw [SelectParts.render_text, written_counting (countTarget_plain htarget) hdistinct]
    rfl

end Counts

end Statement

namespace Builder

open Statement (countTarget)

/-- What is derived from a select statement whose text and values are `c` and whose parts are `p`. -/
structure Derives (b : Builder) (p : SelectParts) (c : Compiled) : Prop where
  parts : b.statement.selectParts b.context = .ok p
  text : c.sql = (p.written b.context.dialect).text
  params : c.params = p.params
  count_whole : ∀ column target, countTarget b.context column = .ok target →
    b.statement.countsAsWhole → b.compileCount column = .ok { c with sql := countWhole target c.sql }
  count_in_place : ∀ column target, countTarget b.context column = .ok target →
    b.statement.countsAsWhole = false → 5 ≤ b.limit →
    b.compileCount column = .ok { c with
      sql := joinWith [' '] (("SELECT ".toList ++ countItem target) ::
        (p.written b.context.dialect).body) }
  count_unnamed : ∀ column target, countTarget b.context column = .ok target →
    b.statement.countsAsWhole = false → b.limit < 5 →
    b.compileCount column = reject (.identifier (.text "count") (.tooLong b.limit))
  first : ∀ t : Terminal, t = .first ∨ t = .exists_ →
    t.compile b = .ok { c with sql := { p.written b.context.dialect with limit := some 1 }.text }

variable {b : Builder} {c : Compiled}

theorem derives_of_compile (hkind : b.kind = .select) (h : b.compile = .ok c) :
    ∃ p, b.Derives p c := by
  obtain ⟨p, hp⟩ := Statement.parts_of_compile hkind h
  obtain rfl : { sql := _, params := _, dialect := _ } = c :=
    Except.ok.inj ((Statement.compile_of_parts hkind hp).symm.trans h)
  refine ⟨p, hp, rfl, rfl, fun column target htarget hwhole => ?_,
    fun column target htarget hwhole hlimit => ?_, fun column target htarget hwhole hlimit => ?_,
    fun t ht => ?_⟩
  · exact Statement.compileCount_whole hkind hp htarget hwhole
  · rw [compileCount, Statement.compileCount_in_place hkind hp htarget hwhole]
    exact if_neg (by unfold limit at hlimit; omega)
  · rw [compileCount, Statement.compileCount_in_place hkind hp htarget hwhole]
    exact if_pos hlimit
  · have hfirst := Statement.compile_of_parts (s := b.statement.limitedToOne) hkind
      (Statement.selectParts_limitedToOne.trans (congrArg (Except.map _) hp))
    rcases ht with rfl | rfl
    · exact hfirst
    · exact hfirst

end Builder

namespace Query

variable {q : Query} {t : Terminal} {c : Compiled}

theorem perform_hands (h : t.compile q.builder = .ok c) (s : Session) :
    ∃ k ≤ 1, statements ((q.perform t).run s).2.log =
        statements s.log ++ List.replicate k (c.sql, c.params) ∧
      ∀ r, ((q.perform t).run s).1.2 = .ok r → k = 1 := by
  obtain ⟨es, hes, hperform⟩ := q.perform_eq t s
  have hlog : statements (s.extend es).log = statements s.log := by
    simp [Session.extend, hes.statements]
  cases hready : q.ready t with
  | none =>
    rw [hready] at hperform
    obtain ⟨e, he⟩ := hperform
    rw [he]
    exact ⟨0, Nat.zero_le 1, by simpa using hlog, fun r hr => by cases hr⟩
  | some p =>
    obtain ⟨target, c'⟩ := p
    obtain rfl : c' = c := by
      unfold ready at hready
      rw [h] at hready
      split at hready
      · split at hready
        · rename_i hc _
          cases hready
          exact (Except.ok.inj hc).symm
        · cases hready
      · cases hready
    rw [hready] at hperform
    dsimp only at hperform
    obtain ⟨k, hk, hsent, hok⟩ := target.hands_run c' (s.extend es)
    rw [hperform]
    refine ⟨k, hk, by rw [hsent, hlog], fun r hr => ?_⟩
    obtain ⟨rs, hrs, -⟩ := Outcome.bind_eq_ok.1 hr
    exact hok rs hrs

theorem statement_perform (q : Query) (t : Terminal) (s : Session) :
    ((q.perform t).run s).1.1.builder.statement = q.builder.statement := by
  obtain ⟨es, -, hperform⟩ := q.perform_eq t s
  cases hready : q.ready t with
  | none =>
    rw [hready] at hperform
    obtain ⟨e, he⟩ := hperform
    rw [he]
  | some p =>
    rw [hready] at hperform
    dsimp only at hperform
    rw [hperform]
    rfl

/-- Counts and the statement for one row keep what the statement of a query says, with its values, as
far as they name it, and bringing a query to any end leaves its statement as it is. -/
theorem derived_statements (hkind : q.builder.kind = .select) (h : q.builder.compile = .ok c) :
    (∃ p, q.builder.Derives p c) ∧
      (∀ t s, ((q.perform t).run s).1.1.builder.statement = q.builder.statement) ∧
        ∀ (t : Terminal) derived, t.compile q.builder = .ok derived → ∀ s,
          ∃ k ≤ 1, statements ((q.perform t).run s).2.log =
              statements s.log ++ List.replicate k (derived.sql, derived.params) ∧
            ∀ r, ((q.perform t).run s).1.2 = .ok r → k = 1 :=
  ⟨Builder.derives_of_compile hkind h, q.statement_perform, fun _ _ hderived s =>
    perform_hands hderived s⟩

def firstTasks : Query where
  builder := ((Builder.start { dialect := .sqlite } .select).applyAll
    [.source .from_ (.text "tasks") .null,
      .filter (.test .and (.text "owner") (some (.int 7)) none),
      .orderBy (.text "due") (.text "ASC"), .limit (.int 10)]).1
  target := some .database

theorem derived_statements_firstTasks :
    ∃ c p, firstTasks.builder.compile = .ok c ∧ firstTasks.builder.Derives p c ∧
      c.params = [.int 7] ∧
      Outcome.Succeeds (firstTasks.builder.compileCount (.text "*")) ∧
      ((firstTasks.perform .first).run disconnected).1.1.builder.statement =
        firstTasks.builder.statement := by
  obtain ⟨c, hc⟩ : Outcome.Succeeds firstTasks.builder.compile := ⟨_, rfl⟩
  obtain ⟨⟨p, hp⟩, hstatement, -⟩ := firstTasks.derived_statements rfl hc
  have hparams : c.params = [.int 7] := by
    cases hc
    rfl
  exact ⟨c, p, hc, hp, hparams, ⟨_, hp.count_in_place (.text "*") ['*'] rfl rfl (by decide)⟩,
    hstatement .first disconnected⟩

def shortNames : Builder :=
  ((Builder.start { dialect := .postgres, limit := 4 } .select).applyAll
    [.source .from_ (.text "t") .null]).1

/-- The name that a count is given is too long for some databases, unless all of the statement is
counted. -/
theorem count_unnamed_shortNames :
    shortNames.compile = .ok { sql := "SELECT * FROM \"t\"".toList, params := [], dialect := .postgres } ∧
      shortNames.compileCount (.text "*") = reject (.identifier (.text "count") (.tooLong 4)) ∧
        (shortNames.apply (.distinct (.bool true))).1.compileCount (.text "*") =
          .ok { sql := ("SELECT COUNT(*) AS \"count\" FROM (SELECT DISTINCT * FROM \"t\") " ++
                  "AS \"sub\"").toList, params := [], dialect := .postgres } :=
  ⟨rfl, rfl, rfl⟩

end Query

end BoundSql
