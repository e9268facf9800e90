import BoundSql.Proofs.DialectText
/-!
Select statements taken apart: their entries, sources and clauses, each as it is written. A dialect
writes each part by itself, so that what is made of the parts is made of the final text.
-/

namespace BoundSql

def Statement.listClause (word : String) (entries : List Text) : List Text :=
  if entries.isEmpty then [] else [word.toList ++ joinWith [',', ' '] entries]

/-- A select statement taken apart. Without entries all columns are selected, and a condition that is
empty is none. -/
structure SelectParts where
  distinct : Bool
  items : List Text
  source : Text
  joins : List Text
  filter : BoundText
  grouping : List Text
  having : BoundText
  ordering : List Text
  limit : Option Nat
  offset : Option Nat

namespace SelectParts

open Statement (clauseText listClause countClause)

def head (p : SelectParts) : Text :=
  (if p.distinct then "SELECT DISTINCT " else "SELECT ").toList ++
    (if p.items.isEmpty then ['*'] else joinWith [',', ' '] p.items)

def body (p : SelectParts) : List Text :=
  ("FROM ".toList ++ p.source) :: p.joins ++ clauseText "WHERE" p.filter.sql ++
    listClause "GROUP BY " p.grouping ++ clauseText "HAVING" p.having.sql

def ending (p : SelectParts) : List Text :=
  listClause "ORDER BY " p.ordering ++ countClause "LIMIT" p.limit ++ countClause "OFFSET" p.offset

def text (p : SelectParts) : Text :=
  joinWith [' '] (p.head :: (p.body ++ p.ending))

def params (p : SelectParts) : List Value :=
  p.filter.params ++ p.having.params

def bound (p : SelectParts) : BoundText where
  sql := p.text
  params := p.params

def written (d : Dialect) (p : SelectParts) : SelectParts :=
  { p with
    items := p.items.map d.render
    source := d.render p.source
    joins := p.joins.map d.render
    filter := { p.filter with sql := d.render p.filter.sql }
    grouping := p.grouping.map d.render
    having := { p.having with sql := d.render p.having.sql }
    ordering := p.ordering.map d.render }

section Written

variable (d : Dialect)

theorem render_entries (ts : List Text) :
    d.render (joinWith [',', ' '] ts) = joinWith [',', ' '] (ts.map d.render) :=
  d.render_joinWith (by decide) (by rintro c u ⟨⟩; decide) (by simp) ts

theorem map_render_clauseText {word : String} (hword : '$' ∉ word.toList) (body : Text) :
    (clauseText word body).map d.render = clauseText word (d.render body) := by
  unfold clauseText
  by_cases hbody : body = []
  · simp [hbody, d.render_eq_nil_iff.2]
  · have hrendered : d.render body ≠ [] := mt d.render_eq_nil_iff.1 hbody
    simp [hbody, hrendered, d.render_of_plain_append hword, d.render_cons]

theorem map_render_listClause {word : String} (hword : '$' ∉ word.toList) (entries : List Text) :
    (listClause word entries).map d.render = listClause word (entries.map d.render) := by
  unfold listClause
  cases entries with
  | nil => rfl
  | cons t ts =>
    simp [d.render_of_plain_append hword, render_entries]

theorem map_render_countClause {word : String} (hword : '$' ∉ word.toList) (count : Option Nat) :
    (countClause word count).map d.render = countClause word count := by
  cases count with
  | none => rfl
  | some n =>
    have hnumeral : '$' ∉ natText n := fun hm => absurd (isDigit_of_mem_natText hm) (by decide)
    simp [countClause, d.render_of_plain_append hword, d.render_cons, d.render_of_plain hnumeral]

theorem render_head (p : SelectParts) : d.render p.head = (p.written d).head := by
  have hword : '$' ∉ (if p.distinct then "SELECT DISTINCT " else "SELECT ").toList := by
    split <;> decide
  have hstar : d.render ['*'] = ['*'] := d.render_of_plain (by decide)
  unfold head
  rw [d.render_of_plain_append hword]
  cases hitems : p.items with
  | nil => simp [written, hitems, hstar]
  | cons t ts => simp [written, hitems, render_entries]

theorem map_render_body (p : SelectParts) : p.body.map d.render = (p.written d).body := by
  have hfrom : d.render ("FROM ".toList ++ p.source) = "FROM ".toList ++ d.render p.source :=
    d.render_of_plain_append (by decide) _
  unfold body
  simp only [List.map_append, List.map_cons, hfrom]
  rw [map_render_clauseText d (by decide), map_render_listClause d (by decide),
    map_render_clauseText d (by decide)]
  rfl

theorem map_render_ending (p : SelectParts) : p.ending.map d.render = (p.written d).ending := by
  unfold ending
  simp only [List.map_append]
  rw [map_render_listClause d (by decide), map_render_countClause d (by decide),
    map_render_countClause d (by decide)]
  rfl

theorem render_text (p : SelectParts) : d.render p.text = (p.written d).text := by
  unfold text
  rw [d.render_joinWith (by decide) (by rintro c u ⟨⟩; decide) (by simp), List.map_cons,
    List.map_append, render_head, map_render_body, map_render_ending]

end Written

end SelectParts

namespace Statement

open SelectParts

variable (ctx : Context) (s : Statement)

def selectParts : Outcome SelectParts := do
  let table ← s.requireTable "from_"
  let items ← s.items.mapM (itemText ctx)
  let source ← sourceText ctx table s.alias
  let joins ← s.joins.mapM (joinText ctx)
  let filter ← s.filter.compile ctx 0
  let grouping ← s.grouping.mapM ctx.quote
  let having ← s.having.compile ctx filter.params.length
  let ordering ← s.ordering.mapM (orderingText ctx)
  return { distinct := s.distinct, items, source, joins, filter, grouping, having, ordering,
           limit := s.limit, offset := s.offset }

variable {ctx s} {p : SelectParts}

structure HasParts (ctx : Context) (s : Statement) (p : SelectParts) : Prop where
  distinct : p.distinct = s.distinct
  items : s.items.mapM (itemText ctx) = .ok p.items
  source : ∃ table, s.requireTable "from_" = .ok table ∧ sourceText ctx table s.alias = .ok p.source
  joins : s.joins.mapM (joinText ctx) = .ok p.joins
  filter : s.filter.compile ctx 0 = .ok p.filter
  grouping : s.grouping.mapM ctx.quote = .ok p.grouping
  having : s.having.compile ctx p.filter.params.length = .ok p.having
  ordering : s.ordering.mapM (orderingText ctx) = .ok p.ordering
  limit : p.limit = s.limit
  offset : p.offset = s.offset

theorem hasParts_of_selectParts (h : s.selectParts ctx = .ok p) : s.HasParts ctx p := by
  unfold selectParts at h
  obtain ⟨table, htable, h⟩ := Outcome.do_eq_ok.1 h
  obtain ⟨items, hitems, h⟩ := Outcome.do_eq_ok.1 h
  obtain ⟨source, hsource, h⟩ := Outcome.do_eq_ok.1 h
  obtain ⟨joins, hjoins, h⟩ := Outcome.do_eq_ok.1 h
  obtain ⟨filter, hfilter, h⟩ := Outcome.do_eq_ok.1 h
  obtain ⟨grouping, hgrouping, h⟩ := Outcome.do_eq_ok.1 h
  obtain ⟨having, hhaving, h⟩ := Outcome.do_eq_ok.1 h
  obtain ⟨ordering, hordering, h⟩ := Outcome.do_eq_ok.1 h
  cases h
  exact ⟨rfl, hitems, ⟨table, htable, hsource⟩, hjoins, hfilter, hgrouping, hhaving, hordering,
    rfl, rfl⟩

theorem countsAsWhole_eq (h : s.HasParts ctx p) :
    s.countsAsWhole = (p.distinct || !p.grouping.isEmpty) := by
  have hlength := Outcome.length_of_mapM h.grouping
  have hempty : s.grouping.isEmpty = p.grouping.isEmpty := by
    rw [Bool.eq_iff_iff, List.isEmpty_iff_length_eq_zero, List.isEmpty_iff_length_eq_zero, hlength]
  rw [countsAsWhole, h.distinct, hempty]

variable (ctx s)

theorem groupingText_eq :
    groupingText ctx s = (s.grouping.mapM ctx.quote).map (listClause "GROUP BY ") := by
  unfold groupingText Context.quoteAll
  cases hgrouping : s.grouping with
  | nil => rfl
  | cons name names =>
    rw [Outcome.map_map]
    cases hquoted : (name :: names).mapM ctx.quote with
    | error e => rfl
    | ok qs =>
      have hlength := Outcome.length_of_mapM hquoted
      cases qs with
      | nil => cases hlength
      | cons q qs => rfl

theorem orderingClause_eq :
    orderingClause ctx s = (s.ordering.mapM (orderingText ctx)).map (listClause "ORDER BY ") := by
  unfold orderingClause
  cases hordering : s.ordering with
  | nil => rfl
  | cons o os =>
    cases hwritten : (o :: os).mapM (orderingText ctx) with
    | error e => rfl
    | ok ts =>
      have hlength := Outcome.length_of_mapM hwritten
      cases ts with
      | nil => cases hlength
      | cons t ts => rfl

/-- A select statement is put together from its parts. -/
theorem compileSelect_eq_parts : s.compileSelect ctx = (s.selectParts ctx).map bound := by
  unfold compileSelect selectParts selectText
  simp only [groupingText_eq, orderingClause_eq, Outcome.map_do, Outcome.do_map, bind_assoc,
    pure_bind]
  refine bind_congr fun table => bind_congr fun items => bind_congr fun source =>
    bind_congr fun joins => bind_congr fun filter => bind_congr fun grouping =>
    bind_congr fun having => bind_congr fun ordering => ?_
  refine congrArg Except.ok ?_
  simp only [bound, text, params, head, body, ending, List.cons_append, List.nil_append,
    List.append_assoc]

end Statement

end BoundSql
