import BoundSql.Proofs.ConditionLedger
import BoundSql.Proofs.WrittenColumns
/-!
The clause for the conditions on rows. A statement that has one goes on with it where the part in front
ends, and it has one exactly when a call for a condition was accepted, at whatever depth.
-/

namespace BoundSql

theorem Placeholder.shift_eq_nil_iff (offset : Int) (t : Text) : shift offset t = [] ↔ t = [] := by
  unfold shift
  split
  · rfl
  · exact Token.flatMap_ofText_eq_nil_iff fun k => by cases k <;> simp [slotText]

theorem Placeholder.shiftWithin_eq_nil_iff {limit : Nat} {offset : Int} {t u : Text}
    (h : shiftWithin limit offset t = .ok u) : u = [] ↔ t = [] := by
  unfold shiftWithin at h
  split at h
  · cases h
    exact shift_eq_nil_iff offset t
  · cases h

def laterInitials : List Char :=
  ['G', 'H', 'O', 'L', 'R']

def IsLaterClause (t : Text) : Prop :=
  ∃ c ∈ laterInitials, ∃ u, t = c :: u

/-- Nothing, or clauses that are none for conditions on rows. -/
def Behind (rest : Text) : Prop :=
  rest = [] ∨ ∃ t, IsLaterClause t ∧ rest = ' ' :: t

namespace Behind

variable {rest : Text}

theorem clauseEnd (h : Behind rest) : ClauseEnd rest := by
  rcases h with rfl | ⟨t, -, rfl⟩
  · exact .nil
  · exact .blank t

theorem clauses {ts : List Text} (h : ∀ t ∈ ts, IsLaterClause t) :
    Behind (ts.flatMap ([' '] ++ ·)) := by
  cases ts with
  | nil => exact .inl rfl
  | cons t ts =>
    obtain ⟨c, hc, u, rfl⟩ := h t (by simp)
    exact .inr ⟨_, ⟨c, hc, _, rfl⟩, rfl⟩

theorem render (h : Behind rest) (d : Dialect) : Behind (d.render rest) := by
  rcases h with rfl | ⟨t, ⟨c, hc, u, rfl⟩, rfl⟩
  · cases d <;> exact .inl rfl
  · have hdollar : c ≠ '$' := by
      rintro rfl
      simp [laterInitials] at hc
    rw [d.render_cons (by decide), d.render_cons hdollar]
    exact .inr ⟨_, ⟨c, hc, _, rfl⟩, rfl⟩

theorem not_where (h : Behind rest) : ¬ " WHERE ".toList <+: rest := by
  rcases h with rfl | ⟨t, ⟨c, hc, u, rfl⟩, rfl⟩
  · decide
  · rintro ⟨v, hv⟩
    simp only [String.reduceToList, List.cons_append, List.cons.injEq] at hv
    obtain ⟨-, rfl, -⟩ := hv
    simp [laterInitials] at hc

end Behind

namespace Statement

variable {ctx : Context} {s : Statement} {t : BoundText}

theorem returningText_behind {u : Text} (h : s.returningText ctx = .ok u) : Behind u := by
  unfold returningText at h
  split at h
  · cases h
    exact .inl rfl
  split at h
  · cases h
    exact .inr ⟨_, ⟨'R', by decide, _, rfl⟩, rfl⟩
  · obtain ⟨names, -, rfl⟩ := Outcome.map_eq_ok.1 h
    exact .inr ⟨_, ⟨'R', by decide, _, rfl⟩, rfl⟩

theorem groupingText_later {ts : List Text} (h : groupingText ctx s = .ok ts) :
    ∀ t ∈ ts, IsLaterClause t := by
  unfold groupingText at h
  split at h
  · cases h
    simp
  · obtain ⟨names, -, rfl⟩ := Outcome.map_eq_ok.1 h
    intro t ht
    rw [List.mem_singleton.1 ht]
    exact ⟨'G', by decide, _, rfl⟩

theorem orderingClause_later {ts : List Text} (h : orderingClause ctx s = .ok ts) :
    ∀ t ∈ ts, IsLaterClause t := by
  unfold orderingClause at h
  split at h
  · cases h
    simp
  · obtain ⟨names, -, rfl⟩ := Outcome.map_eq_ok.1 h
    intro t ht
    rw [List.mem_singleton.1 ht]
    exact ⟨'O', by decide, _, rfl⟩

theorem clauseText_having_later (body : Text) : ∀ t ∈ clauseText "HAVING" body, IsLaterClause t := by
  unfold clauseText
  split
  · simp
  · intro t ht
    rw [List.mem_singleton.1 ht]
    exact ⟨'H', by decide, _, rfl⟩

theorem countClause_later {word : String} (hword : IsLaterClause word.toList) (n : Option Nat) :
    ∀ t ∈ countClause word n, IsLaterClause t := by
  obtain ⟨c, hc, u, hu⟩ := hword
  cases n with
  | none => simp [countClause]
  | some n =>
    intro t ht
    rw [List.mem_singleton.1 ht, hu]
    exact ⟨c, hc, _, rfl⟩

def front (s : Statement) : Statement :=
  { s with
    filter := {}
    grouping := []
    having := {}
    ordering := []
    limit := none
    offset := none
    returning := [] }

/-- A text that goes on behind its front with a clause for the conditions, if there are any, and then
with other clauses. -/
structure GoesOn (front t : BoundText) (conditions : Group) (later : List Value) : Prop where
  sql : ∃ body rest, (body = [] ↔ conditions.isEmpty) ∧ Behind rest ∧
    t.sql = front.sql ++ clauseAfter "WHERE" body ++ rest
  params : t.params = front.params ++ conditions.values ++ later

theorem front_filter (ctx : Context) (s : Statement) (o : Int) :
    s.front.filter.compile ctx o = .ok { sql := [] } := rfl

theorem front_having (ctx : Context) (s : Statement) (o : Int) :
    s.front.having.compile ctx o = .ok { sql := [] } := rfl

theorem withReturning_front (ctx : Context) (s : Statement) (sql : Text) :
    s.front.withReturning ctx sql = .ok sql := rfl

theorem clauseAfter_nil (word : String) : clauseAfter word [] = [] := rfl

section Conditions

variable (hfilter : ∀ o b, s.filter.compile ctx o = .ok b → s.filter.Kept b)
include hfilter

theorem compileDelete_goesOn (h : s.compileDelete ctx = .ok t) :
    ∃ f, s.front.compileDelete ctx = .ok f ∧ GoesOn f t s.filter [] := by
  unfold compileDelete at h
  obtain ⟨table, htable, h⟩ := Outcome.do_eq_ok.1 h
  obtain ⟨target, htarget, h⟩ := Outcome.do_eq_ok.1 h
  obtain ⟨filter, hf, h⟩ := Outcome.do_eq_ok.1 h
  obtain ⟨sql, hsql, h⟩ := Outcome.do_eq_ok.1 h
  rw [withReturning_eq] at hsql
  obtain ⟨rest, hrest, rfl⟩ := Outcome.map_eq_ok.1 hsql
  cases h
  have hkept := hfilter 0 filter hf
  refine ⟨{ sql := "DELETE FROM ".toList ++ target }, ?_, ⟨filter.sql, rest, hkept.empty,
    returningText_behind hrest, rfl⟩, ?_⟩
  · have hfront : s.front.requireTable "from_" = .ok table := htable
    unfold compileDelete
    rw [Outcome.do_ok hfront, Outcome.do_ok htarget, Outcome.do_ok (front_filter ctx s 0)]
    simp only [clauseAfter_nil, List.append_nil]
    rw [Outcome.do_ok (withReturning_front ctx s _)]
    rfl
  · simpa using hkept.params

/-- The conditions of an update are moved behind its assignments, and none is lost on the way. -/
theorem compileUpdate_goesOn (h : s.compileUpdate ctx = .ok t) :
    ∃ f, s.front.compileUpdate ctx = .ok f ∧ GoesOn f t s.filter [] := by
  unfold compileUpdate at h
  obtain ⟨table, htable, h⟩ := Outcome.do_eq_ok.1 h
  split at h
  · cases h
  rename_i hassigned
  obtain ⟨set, hset, h⟩ := Outcome.do_eq_ok.1 h
  obtain ⟨values, hvalues, h⟩ := Outcome.do_eq_ok.1 h
  obtain ⟨target, htarget, h⟩ := Outcome.do_eq_ok.1 h
  obtain ⟨filter, hf, h⟩ := Outcome.do_eq_ok.1 h
  obtain ⟨moved, hmoved, h⟩ := Outcome.do_eq_ok.1 h
  obtain ⟨sql, hsql, h⟩ := Outcome.do_eq_ok.1 h
  rw [withReturning_eq] at hsql
  obtain ⟨rest, hrest, rfl⟩ := Outcome.map_eq_ok.1 hsql
  cases h
  have hkept := hfilter 0 filter hf
  have hempty := Placeholder.shiftWithin_eq_nil_iff (Outcome.mapError_eq_ok.1 hmoved)
  refine ⟨{ sql := "UPDATE ".toList ++ target ++ " SET ".toList ++ set, params := values }, ?_,
    ⟨moved, rest, hempty.trans hkept.empty, returningText_behind hrest, rfl⟩, ?_⟩
  · have hfront : s.front.requireTable "table" = .ok table := htable
    have hassigned' : ¬ s.front.assignments.isEmpty := hassigned
    have hset' : assignmentText ctx s.front.assignments.columns = .ok set := hset
    have hvalues' : s.front.assignments.values s.front.assignments.columns = .ok values := hvalues
    have hnone : ∀ limit : Nat,
        (Placeholder.shiftWithin limit values.length []).mapError Failure.misuse = .ok [] := by
      intro limit
      simp [Placeholder.shiftWithin, Placeholder.shift, Placeholder.isLegible, Token.ofText,
        Except.mapError]
    unfold compileUpdate
    rw [Outcome.do_ok hfront, if_neg hassigned', Outcome.do_ok hset', Outcome.do_ok hvalues',
      Outcome.do_ok htarget, Outcome.do_ok (front_filter ctx s 0)]
    simp only [List.append_nil]
    rw [Outcome.do_ok (hnone _)]
    simp only [clauseAfter_nil, List.append_nil]
    rw [Outcome.do_ok (withReturning_front ctx s _)]
    rfl
  · simp [hkept.params]

theorem compileSelect_goesOn (hhaving : ∀ o b, s.having.compile ctx o = .ok b → s.having.Kept b)
    (h : s.compileSelect ctx = .ok t) :
    ∃ f, s.front.compileSelect ctx = .ok f ∧ GoesOn f t s.filter s.having.values := by
  unfold compileSelect at h
  obtain ⟨table, htable, h⟩ := Outcome.do_eq_ok.1 h
  obtain ⟨head, hhead, h⟩ := Outcome.do_eq_ok.1 h
  obtain ⟨source, hsource, h⟩ := Outcome.do_eq_ok.1 h
  obtain ⟨joins, hjoins, h⟩ := Outcome.do_eq_ok.1 h
  obtain ⟨filter, hf, h⟩ := Outcome.do_eq_ok.1 h
  obtain ⟨grouping, hgrouping, h⟩ := Outcome.do_eq_ok.1 h
  obtain ⟨having, hh, h⟩ := Outcome.do_eq_ok.1 h
  obtain ⟨ordering, hordering, h⟩ := Outcome.do_eq_ok.1 h
  cases h
  have hkept := hfilter 0 filter hf
  have hheld := hhaving _ having hh
  have hlater : ∀ t ∈ grouping ++ clauseText "HAVING" having.sql ++ ordering ++
      countClause "LIMIT" s.limit ++ countClause "OFFSET" s.offset, IsLaterClause t := by
    simp only [List.forall_mem_append]
    exact ⟨⟨⟨⟨groupingText_later hgrouping, clauseText_having_later _⟩,
      orderingClause_later hordering⟩, countClause_later ⟨'L', by decide, _, rfl⟩ _⟩,
      countClause_later ⟨'O', by decide, _, rfl⟩ _⟩
  have hparts : [head, "FROM ".toList ++ source] ++ joins ≠ [] := by simp
  refine ⟨{ sql := joinWith [' '] ([head, "FROM ".toList ++ source] ++ joins) }, ?_,
    ⟨filter.sql, _, hkept.empty, Behind.clauses hlater, ?_⟩, ?_⟩
  · have hfront : s.front.requireTable "from_" = .ok table := htable
    have hhead' : selectText ctx s.front = .ok head := hhead
    have hsource' : sourceText ctx table s.front.alias = .ok source := hsource
    have hjoins' : s.front.joins.mapM (joinText ctx) = .ok joins := hjoins
    have hgrouping' : groupingText ctx s.front = .ok [] := rfl
    have hordering' : orderingClause ctx s.front = .ok [] := rfl
    unfold compileSelect
    rw [Outcome.do_ok hfront, Outcome.do_ok hhead', Outcome.do_ok hsource', Outcome.do_ok hjoins',
      Outcome.do_ok (front_filter ctx s 0), Outcome.do_ok hgrouping',
      Outcome.do_ok (front_having ctx s _), Outcome.do_ok hordering']
    simp [clauseText, countClause, front, pure, Except.pure]
  · have hjoined := joinWith_append [' '] hparts (clauseText "WHERE" filter.sql ++ (grouping ++
      clauseText "HAVING" having.sql ++ ordering ++ countClause "LIMIT" s.limit ++
      countClause "OFFSET" s.offset))
    simpa [clauseAfter] using hjoined
  · simp [hkept.params, hheld.params]

end Conditions

end Statement

theorem Statement.clauseAfter_of_ne_nil (word : String) {body : Text} (h : body ≠ []) :
    clauseAfter word body = ' ' :: word.toList ++ [' '] ++ body := by
  simp [clauseAfter, clauseText, h]

theorem Dialect.where_prefix_iff (d : Dialect) {body rest : Text} (hrest : Behind rest) :
    " WHERE ".toList <+: d.render (Statement.clauseAfter "WHERE" body ++ rest) ↔ body ≠ [] := by
  constructor
  · rintro hprefix rfl
    exact (hrest.render d).not_where hprefix
  · intro hbody
    have hword : ' ' :: "WHERE".toList ++ [' '] = " WHERE ".toList := by decide
    rw [Statement.clauseAfter_of_ne_nil "WHERE" hbody, hword, List.append_assoc,
      d.render_of_plain_append (by decide)]
    exact List.prefix_append _ _

namespace Builder

variable {b : Builder} {fs gs : List Filter}

def front (b : Builder) : Builder :=
  { b with statement := b.statement.front }

theorem Holds.goesOn (h : b.Holds fs gs)
    (hkind : b.kind = .select ∨ b.kind = .update ∨ b.kind = .delete) {t : BoundText}
    (ht : b.statement.compileNumbered b.context = .ok t) :
    ∃ f, b.statement.front.compileNumbered b.context = .ok f ∧
      Statement.GoesOn f t b.statement.filter b.statement.having.values := by
  have hfilter : ∀ o x, b.statement.filter.compile b.context o = .ok x →
      b.statement.filter.Kept x := fun o x hx => Group.compile_kept (h.filter.shown _) hx
  have hhaving : ∀ o x, b.statement.having.compile b.context o = .ok x →
      b.statement.having.Kept x := fun o x hx => Group.compile_kept (h.having.shown _) hx
  have hnone : b.kind ≠ .select → b.statement.having.values = [] := fun hne =>
    Group.values_eq_nil (h.having.isEmpty_iff.2 (h.groups hne))
  have hfront : b.statement.front.kind = b.kind := rfl
  unfold Statement.compileNumbered at ht ⊢
  rw [hfront]
  rcases hkind with hk | hk | hk
  · have hstatement : b.statement.kind = .select := hk
    rw [hstatement] at ht
    rw [hk]
    exact Statement.compileSelect_goesOn hfilter hhaving ht
  · have hstatement : b.statement.kind = .update := hk
    rw [hstatement] at ht
    rw [hk, hnone (by rw [hk]; decide)]
    exact Statement.compileUpdate_goesOn hfilter ht
  · have hstatement : b.statement.kind = .delete := hk
    rw [hstatement] at ht
    rw [hk, hnone (by rw [hk]; decide)]
    exact Statement.compileDelete_goesOn hfilter ht

/-- The text goes on behind its front with a clause for the conditions exactly when there are some, and
all their values are behind those of the front. -/
theorem Holds.compile (h : b.Holds fs gs)
    (hkind : b.kind = .select ∨ b.kind = .update ∨ b.kind = .delete) {c : Compiled}
    (hc : b.compile = .ok c) :
    ∃ f, b.front.compile = .ok f ∧ f.sql <+: c.sql ∧
      (f.sql ++ " WHERE ".toList <+: c.sql ↔ fs ≠ []) ∧
      c.params = f.params ++ b.statement.filter.values ++ b.statement.having.values := by
  obtain ⟨t, ht, rfl⟩ := Outcome.map_eq_ok.1 hc
  obtain ⟨f, hf, ⟨body, rest, hbody, hrest, hsql⟩, hparams⟩ := h.goesOn hkind ht
  have hfront : b.front.compile = .ok (Statement.render b.context f) :=
    Outcome.map_eq_ok.2 ⟨f, hf, rfl⟩
  have hend : ClauseEnd (Statement.clauseAfter "WHERE" body ++ rest) :=
    (Statement.clauseAfter_end _ _).append hrest.clauseEnd
  have hrendered : (Statement.render b.context t).sql =
      (Statement.render b.context f).sql ++
        b.context.dialect.render (Statement.clauseAfter "WHERE" body ++ rest) := by
    show b.context.dialect.render t.sql = _
    rw [hsql, List.append_assoc, b.context.dialect.render_append _ hend.not_digit]
    rfl
  refine ⟨_, hfront, ?_, ?_, hparams⟩
  · rw [hrendered]
    exact List.prefix_append _ _
  · rw [hrendered, List.prefix_append_right_inj, b.context.dialect.where_prefix_iff hrest, not_iff_not,
      hbody, h.filter.isEmpty_iff]

/-- No condition is lost. A tree that calls made holds one condition for each call for a single one that
was accepted at any depth; its text is empty exactly when there is none, and the values behind the text
are those of all of them. So a select, an update or a delete has a clause for conditions on rows exactly
when a call for one was accepted, and hands over the values of all conditions. -/
theorem conditions_kept :
    (∀ limit (g : Group) fs, g.Made limit fs → List.Forall₂ (Filter.Makes limit) fs g.leaves ∧
      ∀ ctx o t, (g.compile ctx o = .ok t ∨ ∃ n, g.compileWithin n ctx o = .ok t) →
        (t.sql = [] ↔ g.isEmpty) ∧ (t.sql = [] → t.params = []) ∧ (g.isEmpty ↔ fs = []) ∧
          t.params.Perm (g.leaves.flatMap Condition.values)) ∧
    (∀ b : Builder, b.Reachable → ∃ fs gs, b.Gathered fs gs) ∧
    ∀ (b : Builder) fs gs, b.Gathered fs gs →
      b.statement.filter.Made b.limit fs ∧ b.statement.having.Made b.limit gs ∧
      ((b.kind = .select ∨ b.kind = .update ∨ b.kind = .delete) → ∀ c, b.compile = .ok c →
        ∃ f, b.front.compile = .ok f ∧ f.sql <+: c.sql ∧
          (f.sql ++ " WHERE ".toList <+: c.sql ↔ fs ≠ []) ∧
          c.params = f.params ++ b.statement.filter.values ++ b.statement.having.values) := by
  refine ⟨fun limit g fs hg => ⟨hg.forall₂_makes, fun ctx o t ht => ?_⟩, fun b hb => hb.gathered,
    fun b fs gs hb => ⟨hb.holds.filter, hb.holds.having, fun hkind c hc => hb.holds.compile hkind hc⟩⟩
  have hcompile : g.compile ctx o = .ok t := by
    rcases ht with ht | ⟨n, ht⟩
    · exact ht
    · exact Group.compileWithin_eq_ok ht
  have hkept := Group.compile_kept (hg.shown ctx) hcompile
  refine ⟨hkept.empty, hkept.params_eq_nil, hg.isEmpty_iff, ?_⟩
  rw [hkept.params]
  exact g.values_perm

def sparseCalls : List Call :=
  [.source .from_ (.text "t") .null, .filter (.nested .and []),
    .filter (.nested .or [.nested .and [], .compare .and .among (.text "a") (.list [])]),
    .filter (.raw .and (.text "now() > b") .null)]

def sparseDelete : Builder :=
  ((start { dialect := .postgres } .delete).applyAll sparseCalls).1

theorem sparseDelete_gathered : sparseDelete.Gathered
    [.compare .and .among (.text "a") (.list []), .raw .and (.text "now() > b") .null] [] :=
  ((((Gathered.start { dialect := .postgres } .delete).accepted
    (.source .from_ (.text "t") .null) rfl).accepted
    (.filter (.nested .and [])) rfl).accepted
    (.filter (.nested .or [.nested .and [], .compare .and .among (.text "a") (.list [])])) rfl).accepted
    (.filter (.raw .and (.text "now() > b") .null)) rfl

theorem sparseDelete_conditions_kept :
    ∃ c f, sparseDelete.compile = .ok c ∧ sparseDelete.front.compile = .ok f ∧
      f.sql ++ " WHERE ".toList <+: c.sql ∧
      ∃ t, sparseDelete.statement.filter.compile { dialect := .sqlite } 7 = .ok t ∧ t.sql ≠ [] := by
  obtain ⟨hmade, -, hcompile⟩ := conditions_kept.2.2 _ _ _ sparseDelete_gathered
  obtain ⟨f, hf, -, hwhere, -⟩ := hcompile (.inr (.inr rfl)) _ rfl
  obtain ⟨-, htext⟩ := conditions_kept.1 _ _ _ hmade
  obtain ⟨hempty, -, hnone, -⟩ := htext { dialect := .sqlite } 7 _ (.inl rfl)
  refine ⟨_, f, rfl, hf, hwhere.2 (List.cons_ne_nil _ _), _, rfl, fun h => ?_⟩
  exact absurd (hnone.1 (hempty.1 h)) (List.cons_ne_nil _ _)

end Builder

end BoundSql
