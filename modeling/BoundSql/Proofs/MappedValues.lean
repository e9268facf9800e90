import BoundSql.Proofs.Reachable
/-!
Statements with other values. A function can be applied to all that a statement binds; the text of
the statement, or its failure, is the same as before, and its parameters are what the function makes
of the ones before. So no value gets into the text, and none is lost, doubled or moved because of
what it is.
-/

namespace BoundSql

def Value.mapItems (f : Value → Value) : Value → Value
  | .list vs => .list (vs.map f)
  | .tuple vs => .tuple (vs.map f)
  | v => v

/-- Whether the value of a condition is a list of values to be bound one by one. -/
def Operator.bindsItems (o : Operator) : Bool :=
  o.takesList || o == .raw

namespace Condition

def mapValues (f : Value → Value) (c : Condition) : Condition :=
  { c with value := if c.operator.bindsItems then c.value.mapItems f else f c.value }

/-- Where a list of values is to be bound, one was given. -/
def GivesItems (c : Condition) : Prop :=
  c.operator.bindsItems → ∃ vs, c.value = .list vs ∨ c.value = .tuple vs

end Condition

namespace Node

mutual

def mapValues (f : Value → Value) : Node → Node
  | leaf c => leaf (c.mapValues f)
  | group c nodes => group c (mapAllValues f nodes)

def mapAllValues (f : Value → Value) : List Node → List Node
  | [] => []
  | n :: ns => mapValues f n :: mapAllValues f ns

end

end Node

def Group.mapValues (f : Value → Value) (g : Group) : Group :=
  { g with nodes := Node.mapAllValues f g.nodes }

def Row.mapValues (f : Value → Value) (r : Row) : Row :=
  r.map fun e => (e.1, f e.2)

namespace Statement

/-- A statement with a function applied to all that it binds. -/
def mapValues (f : Value → Value) (s : Statement) : Statement :=
  { s with
    rows := s.rows.map (Row.mapValues f)
    assignments := s.assignments.mapValues f
    filter := s.filter.mapValues f
    having := s.having.mapValues f }

def GivesItems (s : Statement) : Prop :=
  ∀ c ∈ s.filter.leaves ++ s.having.leaves, c.GivesItems

end Statement

def BoundText.mapParams (f : Value → Value) (b : BoundText) : BoundText :=
  { b with params := b.params.map f }

def Compiled.mapParams (f : Value → Value) (c : Compiled) : Compiled :=
  { c with params := c.params.map f }

variable {f : Value → Value} {ctx : Context} {o : Int}

namespace BoundText

@[simp] theorem sql_mapParams (b : BoundText) : (b.mapParams f).sql = b.sql := rfl

@[simp] theorem params_mapParams (b : BoundText) : (b.mapParams f).params = b.params.map f := rfl

theorem allParams_map (bs : List BoundText) :
    allParams (bs.map (mapParams f)) = (allParams bs).map f := by
  simp [allParams, List.flatMap_map, List.map_flatMap]

theorem map_sql_map (bs : List BoundText) :
    (bs.map (mapParams f)).map BoundText.sql = bs.map BoundText.sql := by
  simp

theorem joinLevel_map (ands ors : List BoundText) :
    joinLevel (ands.map (mapParams f)) (ors.map (mapParams f)) =
      (joinLevel ands ors).mapParams f := by
  simp only [joinLevel, map_sql_map, allParams_map, mapParams, List.map_append]

end BoundText

namespace Condition

variable {c : Condition}

theorem operator_mapValues : (c.mapValues f).operator = c.operator := rfl

theorem column_mapValues : (c.mapValues f).column = c.column := rfl

theorem nullText_mapValues :
    (c.mapValues f).nullText ctx = (c.nullText ctx).map (BoundText.mapParams f) := by
  unfold nullText
  rw [column_mapValues, operator_mapValues]
  cases ctx.quote c.column <;> rfl

theorem value_mapValues (h : c.operator.bindsItems) :
    (c.mapValues f).value = c.value.mapItems f := by
  simp [mapValues, h]

theorem membershipText_mapValues (hb : c.operator.bindsItems) :
    (c.mapValues f).membershipText ctx o =
      (c.membershipText ctx o).map (BoundText.mapParams f) := by
  unfold membershipText
  rw [value_mapValues hb, column_mapValues, operator_mapValues]
  cases c.value with
  | list vs | tuple vs =>
    simp only [Value.mapItems, List.isEmpty_map, List.length_map]
    split
    · rfl
    · cases ctx.quote c.column <;> rfl
  | _ => rfl

theorem listOf_mapItems {v : Value} (h : ∃ vs, v = .list vs ∨ v = .tuple vs) :
    listOf (v.mapItems f) = (listOf v).map (List.map f) := by
  obtain ⟨vs, rfl | rfl⟩ := h <;> cases vs <;> rfl

theorem rawText_mapValues (hb : c.operator.bindsItems) (h : c.GivesItems) :
    (c.mapValues f).rawText o = (c.rawText o).map (BoundText.mapParams f) := by
  unfold rawText
  rw [value_mapValues hb, column_mapValues, listOf_mapItems (h hb), Outcome.do_map, Outcome.map_do]
  refine bind_congr fun vs => ?_
  rw [List.length_map]
  cases Placeholder.renumber c.column.toList o vs.length <;> rfl

theorem comparisonText_mapValues (hb : c.operator.bindsItems = false) :
    (c.mapValues f).comparisonText ctx o =
      (c.comparisonText ctx o).map (BoundText.mapParams f) := by
  have hvalue : (c.mapValues f).value = f c.value := by simp [mapValues, hb]
  unfold comparisonText
  rw [hvalue, column_mapValues, operator_mapValues]
  cases ctx.quote c.column <;> rfl

theorem compile_mapValues (h : c.GivesItems) :
    (c.mapValues f).compile ctx o = (c.compile ctx o).map (BoundText.mapParams f) := by
  unfold compile
  rw [operator_mapValues]
  cases hop : c.operator with
  | isNull | isNotNull => exact nullText_mapValues
  | among | notAmong => exact membershipText_mapValues (by rw [hop]; rfl)
  | raw => exact rawText_mapValues (by rw [hop]; rfl) h
  | _ => exact comparisonText_mapValues (by rw [hop]; rfl)

end Condition

namespace Node

theorem conjunction_mapValues (n : Node) : (n.mapValues f).conjunction = n.conjunction := by
  cases n <;> rfl

mutual

theorem compile_mapValues (o : Int) :
    (n : Node) → (∀ c ∈ n.leaves, c.GivesItems) →
      (n.mapValues f).compile ctx o = (n.compile ctx o).map (BoundText.mapParams f)
  | leaf c, h => Condition.compile_mapValues (h c (by simp [leaves]))
  | group _ nodes, h => by
    unfold mapValues compile
    rw [compileThose_mapValues .and o nodes h]
    cases compileThose ctx .and o nodes with
    | error e => rfl
    | ok ands =>
      simp only [Except.map, Except.bind, BoundText.allParams_map, List.length_map]
      rw [compileThose_mapValues .or _ nodes h]
      cases compileThose ctx .or (o + (allParams ands).length) nodes with
      | error e => rfl
      | ok ors =>
        simp only [Except.map, BoundText.joinLevel_map]
        rfl

theorem compileThose_mapValues (conjunction : Conjunction) (o : Int) :
    (ns : List Node) → (∀ c ∈ leavesOf ns, c.GivesItems) →
      compileThose ctx conjunction o (mapAllValues f ns) =
        (compileThose ctx conjunction o ns).map (List.map (BoundText.mapParams f))
  | [], _ => rfl
  | n :: ns, h => by
    have hn : ∀ c ∈ n.leaves, c.GivesItems := fun c hc => h c (by simp [leavesOf, hc])
    have hns : ∀ c ∈ leavesOf ns, c.GivesItems := fun c hc => h c (by simp [leavesOf, hc])
    unfold mapAllValues compileThose
    rw [conjunction_mapValues]
    split
    · rw [compile_mapValues o n hn]
      cases compile ctx o n with
      | error e => rfl
      | ok b =>
        simp only [Except.map, Except.bind, BoundText.sql_mapParams, BoundText.params_mapParams,
          List.length_map]
        split
        · exact compileThose_mapValues conjunction o ns hns
        · rw [compileThose_mapValues conjunction _ ns hns]
          cases compileThose ctx conjunction (o + b.params.length) ns <;> rfl
    · exact compileThose_mapValues conjunction o ns hns

end

end Node

theorem Group.compile_mapValues {g : Group} (h : ∀ c ∈ g.leaves, c.GivesItems) :
    (g.mapValues f).compile ctx o = (g.compile ctx o).map (BoundText.mapParams f) := by
  unfold compile mapValues
  rw [Node.compileThose_mapValues .and o g.nodes h]
  cases Node.compileThose ctx .and o g.nodes with
  | error e => rfl
  | ok ands =>
    simp only [Except.map, Except.bind, BoundText.allParams_map, List.length_map]
    rw [Node.compileThose_mapValues .or _ g.nodes h]
    cases Node.compileThose ctx .or (o + (allParams ands).length) g.nodes with
    | error e => rfl
    | ok ors => simp only [Except.map, BoundText.joinLevel_map]

namespace Row

variable (r : Row)

@[simp] theorem columns_mapValues : (r.mapValues f).columns = r.columns := by
  simp [columns, mapValues]

theorem isEmpty_mapValues : (r.mapValues f).isEmpty = r.isEmpty := by
  simp [mapValues]

theorem get?_mapValues (column : String) :
    (r.mapValues f).get? column = (r.get? column).map f := by
  unfold get? mapValues
  rw [List.find?_map, Option.map_map, Option.map_map]
  rfl

theorem values_mapValues (columns : List String) :
    (r.mapValues f).values columns = (r.values columns).map (List.map f) := by
  unfold values
  rw [← Outcome.mapM_map]
  congr 1
  funext c
  rw [get?_mapValues]
  cases r.get? c <;> rfl

theorem mapM_values_mapValues (columns : List String) (rows : List Row) :
    ((rows.map (mapValues f)).mapM fun r : Row => r.values columns) =
      (rows.mapM fun r : Row => r.values columns).map (List.map (List.map f)) := by
  rw [List.mapM_map, ← Outcome.mapM_map]
  exact congrArg (List.mapM · rows) (funext fun r => values_mapValues r columns)

theorem map_snd_mapValues : (r.mapValues f).map Prod.snd = (r.map Prod.snd).map f := by
  simp [mapValues]

end Row

namespace Statement

variable {s : Statement}

theorem filter_givesItems (h : s.GivesItems) : ∀ c ∈ s.filter.leaves, c.GivesItems :=
  fun c hc => h c (List.mem_append_left _ hc)

theorem having_givesItems (h : s.GivesItems) : ∀ c ∈ s.having.leaves, c.GivesItems :=
  fun c hc => h c (List.mem_append_right _ hc)

theorem withReturning_mapValues (sql : Text) :
    (s.mapValues f).withReturning ctx sql = s.withReturning ctx sql := rfl

theorem compileSelect_mapValues (h : s.GivesItems) :
    (s.mapValues f).compileSelect ctx = (s.compileSelect ctx).map (BoundText.mapParams f) := by
  have hfilter : (s.filter.mapValues f).compile ctx 0 =
      (s.filter.compile ctx 0).map (BoundText.mapParams f) :=
    Group.compile_mapValues (filter_givesItems h)
  unfold compileSelect
  simp only [Outcome.map_do]
  refine bind_congr fun table => bind_congr fun head => bind_congr fun source =>
    bind_congr fun joins => ?_
  show ((s.filter.mapValues f).compile ctx 0 >>= _) = _
  rw [hfilter, Outcome.do_map]
  refine bind_congr fun filter => bind_congr fun grouping => ?_
  rw [BoundText.params_mapParams, List.length_map]
  show ((s.having.mapValues f).compile ctx filter.params.length >>= _) = _
  rw [Group.compile_mapValues (having_givesItems h), Outcome.do_map]
  refine bind_congr fun having => bind_congr fun ordering => ?_
  simp only [pure, Except.pure, Except.map, BoundText.mapParams, List.map_append]
  rfl

theorem compileInsert_mapValues :
    (s.mapValues f).compileInsert ctx = (s.compileInsert ctx).map (BoundText.mapParams f) := by
  unfold compileInsert
  rw [Outcome.map_do]
  refine bind_congr fun table => ?_
  simp only [mapValues]
  cases s.rows with
  | nil => rfl
  | cons row rest =>
    simp only [List.map_cons, Row.columns_mapValues, Outcome.map_do]
    rw [← List.map_cons, Row.mapM_values_mapValues, Outcome.do_map]
    refine bind_congr fun rows => bind_congr fun head => ?_
    rw [List.length_map]
    refine bind_congr fun sql => ?_
    simp [pure, Except.pure, Except.map, BoundText.mapParams, List.map_flatten]

theorem compileUpdate_mapValues (h : s.GivesItems) :
    (s.mapValues f).compileUpdate ctx = (s.compileUpdate ctx).map (BoundText.mapParams f) := by
  have hassignments : (s.mapValues f).assignments = s.assignments.mapValues f := rfl
  have hfilter : (s.mapValues f).filter = s.filter.mapValues f := rfl
  unfold compileUpdate
  rw [hassignments, hfilter, Row.isEmpty_mapValues, Row.columns_mapValues, Row.values_mapValues,
    Group.compile_mapValues (filter_givesItems h), Outcome.map_do]
  refine bind_congr fun table => ?_
  split
  · rfl
  simp only [Outcome.map_do, Outcome.do_map]
  refine bind_congr fun set => bind_congr fun values => bind_congr fun target =>
    bind_congr fun filter => ?_
  simp only [BoundText.params_mapParams, BoundText.sql_mapParams, List.length_append,
    List.length_map, withReturning_mapValues]
  refine bind_congr fun moved => bind_congr fun sql => ?_
  simp [pure, Except.pure, Except.map, BoundText.mapParams]

theorem compileDelete_mapValues (h : s.GivesItems) :
    (s.mapValues f).compileDelete ctx = (s.compileDelete ctx).map (BoundText.mapParams f) := by
  have hfilter : (s.mapValues f).filter = s.filter.mapValues f := rfl
  unfold compileDelete
  rw [hfilter, Group.compile_mapValues (filter_givesItems h)]
  simp only [Outcome.map_do, Outcome.do_map, withReturning_mapValues]
  rfl

theorem mergeTargets_mapValues (row : Row) :
    (s.mapValues f).mergeTargets (row.mapValues f) = s.mergeTargets row := by
  unfold mergeTargets
  rw [Row.columns_mapValues]
  rfl

theorem compileUpsert_mapValues :
    (s.mapValues f).compileUpsert ctx = (s.compileUpsert ctx).map (BoundText.mapParams f) := by
  have hrows : (s.mapValues f).rows = s.rows.map (Row.mapValues f) := rfl
  unfold compileUpsert
  rw [Outcome.map_do, hrows]
  refine bind_congr fun table => ?_
  cases s.rows with
  | nil => rfl
  | cons row rest =>
    have hconflict : (s.mapValues f).conflictColumns = s.conflictColumns := rfl
    have haction : (s.mapValues f).conflictAction = s.conflictAction := rfl
    simp only [List.map_cons, hconflict, haction, Row.columns_mapValues, Row.map_snd_mapValues,
      List.length_map, mergeTargets_mapValues, Row.values_mapValues, withReturning_mapValues]
    split
    · rfl
    simp only [Outcome.map_do]
    refine bind_congr fun conflict => bind_congr fun head => ?_
    cases s.conflictAction with
    | nothing => rw [Outcome.map_do]; rfl
    | update =>
      simp only [Outcome.map_do, Outcome.do_map]
      refine bind_congr fun targets => bind_congr fun set => bind_congr fun merged =>
        bind_congr fun sql => ?_
      simp [pure, Except.pure, Except.map, BoundText.mapParams]

theorem compileNumbered_mapValues (h : s.GivesItems) :
    (s.mapValues f).compileNumbered ctx =
      (s.compileNumbered ctx).map (BoundText.mapParams f) := by
  have hkind : (s.mapValues f).kind = s.kind := rfl
  unfold compileNumbered
  rw [hkind]
  cases s.kind with
  | select => exact compileSelect_mapValues h
  | insert => exact compileInsert_mapValues
  | update => exact compileUpdate_mapValues h
  | delete => exact compileDelete_mapValues h
  | upsert => exact compileUpsert_mapValues

theorem countNumbered_mapValues (h : s.GivesItems) (column : Value) :
    (s.mapValues f).countNumbered ctx column =
      (s.countNumbered ctx column).map (BoundText.mapParams f) := by
  have hwhole : (s.mapValues f).countsAsWhole = s.countsAsWhole := rfl
  have hcounted : ∀ target, (s.mapValues f).counted target = (s.counted target).mapValues f :=
    fun _ => rfl
  unfold countNumbered
  rw [hwhole, Outcome.map_do]
  refine bind_congr fun target => ?_
  split
  · rw [compileNumbered_mapValues h, Outcome.map_map, Outcome.map_map]
    rfl
  · rw [hcounted]
    exact compileNumbered_mapValues (s := s.counted target) h

theorem map_render (x : Outcome BoundText) :
    (x.map (BoundText.mapParams f)).map (render ctx) =
      (x.map (render ctx)).map (Compiled.mapParams f) := by
  cases x <;> rfl

/-- In statements that were put together by calls, lists stand wherever they must. -/
theorem Checked.givesItems {limit : Int} (h : s.Checked limit) : s.GivesItems := by
  have hleaf : ∀ c : Condition, c.WellMade limit → c.GivesItems := by
    intro c hc hb
    simp only [Operator.bindsItems, Bool.or_eq_true, beq_iff_eq] at hb
    rcases hb with hlist | hraw
    · obtain ⟨vs, hvs⟩ := hc.members hlist
      exact ⟨vs, .inl hvs⟩
    · obtain ⟨vs, hvs, -⟩ := hc.bound hraw
      exact ⟨vs, .inl hvs⟩
  intro c hc
  rcases List.mem_append.1 hc with hm | hm
  · exact hleaf c (h.filter c hm)
  · exact hleaf c (h.having c hm)

/-- Other values in a statement change neither its text nor its failure, and its parameters just as
they were changed themselves. So it is with its count. -/
theorem compile_statement_mapValues (ctx : Context) (f : Value → Value) (s : Statement) (h : s.GivesItems) :
    (s.mapValues f).compile ctx = (s.compile ctx).map (Compiled.mapParams f) ∧
    ∀ column, (s.mapValues f).compileCount ctx column =
      (s.compileCount ctx column).map (Compiled.mapParams f) := by
  refine ⟨?_, fun column => ?_⟩
  · unfold compile
    rw [compileNumbered_mapValues h, map_render]
  · unfold compileCount
    rw [countNumbered_mapValues h, map_render]

theorem compile_statement_mapValues_markedUpdate :
    Builder.markedUpdate.statement.GivesItems ∧
    (Builder.markedUpdate.statement.mapValues fun _ => .text "1'; --").compile
        Builder.markedUpdate.context =
      .ok { sql := "UPDATE \"t\" SET \"a\" = ? WHERE b > ? OR c = ? OR (\"d\" IN (?, ?))".toList,
            params := List.replicate 5 (.text "1'; --"), dialect := .sqlite } := by
  have h := Builder.markedUpdate_reachable.checked.givesItems
  refine ⟨h, ?_⟩
  rw [(compile_statement_mapValues _ _ _ h).1]
  rfl

end Statement

end BoundSql
