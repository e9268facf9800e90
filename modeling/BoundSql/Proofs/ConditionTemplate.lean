import BoundSql.Proofs.Fragment
/-!
Templates of conditions. A tree is put into a template without any offset: each value is written
where it belongs, AND nodes before OR nodes. The numbered text of a tree is the numbered text of its
template, from any offset, with the same failures.
-/

namespace BoundSql

/-- What stands before and after the value that a column is compared with. -/
def Dialect.comparisonFrame (d : Dialect) (column : Text) (operator : Operator) : Text × Text :=
  match d, operator with
  | .sqlite, .ilike => ("LOWER(".toList ++ column ++ ") LIKE LOWER(".toList, [')'])
  | .sqlite, .notIlike => ("LOWER(".toList ++ column ++ ") NOT LIKE LOWER(".toList, [')'])
  | _, _ => (column ++ ' ' :: operator.symbol.toList ++ [' '], [])

theorem Dialect.renderPattern_eq (d : Dialect) (column : Text) (operator : Operator)
    (placeholder : Text) :
    d.renderPattern column operator placeholder =
      (d.comparisonFrame column operator).1 ++ placeholder ++
        (d.comparisonFrame column operator).2 := by
  unfold renderPattern comparisonFrame
  split <;> simp

theorem Dialect.comparisonFrame_cases (d : Dialect) (column : Text) (operator : Operator) :
    (∃ word ∈ [") LIKE LOWER(", ") NOT LIKE LOWER("],
      d.comparisonFrame column operator = ("LOWER(".toList ++ column ++ word.toList, [')'])) ∨
    d.comparisonFrame column operator =
      (column ++ ' ' :: operator.symbol.toList ++ [' '], []) := by
  unfold comparisonFrame
  split
  · exact .inl ⟨_, by simp, rfl⟩
  · exact .inl ⟨_, by simp, rfl⟩
  · exact .inr rfl

theorem Dialect.comparisonFrame_of_not_isPattern (d : Dialect) (column : Text)
    {operator : Operator} (h : operator.isPattern = false) :
    d.comparisonFrame column operator =
      (column ++ ' ' :: operator.symbol.toList ++ [' '], []) := by
  cases operator with
  | ilike | notIlike => cases h
  | _ => cases d <;> rfl

namespace Condition

def nullTemplate (ctx : Context) (c : Condition) : Outcome Template := do
  let column ← ctx.quote c.column
  return Template.ofText (column ++ ' ' :: c.operator.symbol.toList)

def membershipTemplate (ctx : Context) (c : Condition) : Outcome Template :=
  match c.value with
  | .list vs | .tuple vs =>
    if vs.isEmpty then
      .ok (Template.ofText (if c.operator = .among then "1 = 0" else "1 = 1").toList)
    else do
      let column ← ctx.quote c.column
      return Template.ofText (column ++ ' ' :: c.operator.symbol.toList ++ " (".toList) ++
        Template.join [',', ' '] (Template.each vs) ++ Template.ofText [')']
  | _ => .error (.compilation (.listRequired c.operator))

def rawTemplate (c : Condition) : Outcome Template := do
  let values ← listOf c.value
  let markers := Placeholder.markerCount c.column.toList
  if markers = values.length then return Template.ofFragment c.column.toList values
  else reject (.markerCount c.column markers values.length)

def comparisonTemplate (ctx : Context) (c : Condition) : Outcome Template := do
  let column ← ctx.quote c.column
  let frame := ctx.dialect.comparisonFrame column c.operator
  return Template.ofText frame.1 ++ .value c.value :: Template.ofText frame.2

def template (ctx : Context) (c : Condition) : Outcome Template :=
  match c.operator with
  | .isNull | .isNotNull => c.nullTemplate ctx
  | .among | .notAmong => c.membershipTemplate ctx
  | .raw => c.rawTemplate
  | _ => c.comparisonTemplate ctx

end Condition

namespace Template

def level (ands ors : List Template) : Template :=
  let both := join " AND ".toList ands
  if ors.isEmpty then both
  else join " OR ".toList ((if both.isEmpty then [] else [both]) ++ ors)

def enclose (T : Template) : Template :=
  if T.isEmpty then [] else .char '(' :: T ++ .ofText [')']

end Template

namespace Node

mutual

def template (ctx : Context) : Node → Outcome Template
  | leaf c => c.template ctx
  | group _ nodes =>
    (templatesOf ctx .and nodes).bind fun ands =>
      (templatesOf ctx .or nodes).map fun ors => (Template.level ands ors).enclose

def templatesOf (ctx : Context) (conjunction : Conjunction) : List Node → Outcome (List Template)
  | [] => .ok []
  | n :: ns =>
    if n.conjunction = conjunction then
      (template ctx n).bind fun T =>
        (templatesOf ctx conjunction ns).map fun Ts => if T.isEmpty then Ts else T :: Ts
    else templatesOf ctx conjunction ns

end

mutual

def leaves : Node → List Condition
  | leaf c => [c]
  | group _ nodes => leavesOf nodes

def leavesOf : List Node → List Condition
  | [] => []
  | n :: ns => leaves n ++ leavesOf ns

end

mutual

theorem isEmpty_iff : (n : Node) → (n.isEmpty ↔ n.leaves = [])
  | leaf _ => by simp [isEmpty, leaves]
  | group _ nodes => by simpa [isEmpty, leaves] using allEmpty_iff nodes

theorem allEmpty_iff : (ns : List Node) → (allEmpty ns ↔ leavesOf ns = [])
  | [] => by simp [allEmpty, leavesOf]
  | n :: ns => by simp [allEmpty, leavesOf, isEmpty_iff n, allEmpty_iff ns]

end

theorem leavesOf_append (ns ms : List Node) :
    leavesOf (ns ++ ms) = leavesOf ns ++ leavesOf ms := by
  induction ns with
  | nil => rfl
  | cons n ns ih => simp [leavesOf, ih]

theorem ne_nil_of_templatesOf {ctx : Context} {conjunction : Conjunction} {ns : List Node}
    {Ts : List Template} (h : templatesOf ctx conjunction ns = .ok Ts) :
    ∀ T ∈ Ts, T ≠ [] := by
  induction ns generalizing Ts with
  | nil =>
    cases h
    simp
  | cons n ns ih =>
    unfold templatesOf at h
    split at h
    · obtain ⟨T, hT, h⟩ := Outcome.bind_eq_ok.1 h
      obtain ⟨Vs, hVs, rfl⟩ := Outcome.map_eq_ok.1 h
      by_cases he : T.isEmpty
      · simpa [he] using ih hVs
      · simpa [he] using ⟨by simpa using he, ih hVs⟩
    · exact ih h

end Node

namespace Group

def template (ctx : Context) (g : Group) : Outcome Template :=
  (Node.templatesOf ctx .and g.nodes).bind fun ands =>
    (Node.templatesOf ctx .or g.nodes).map fun ors => Template.level ands ors

def leaves (g : Group) : List Condition :=
  Node.leavesOf g.nodes

theorem isEmpty_iff (g : Group) : g.isEmpty ↔ g.leaves = [] :=
  Node.allEmpty_iff g.nodes

theorem leaves_push (g : Group) (n : Node) : (g.push n).leaves = g.leaves ++ n.leaves := by
  simp [push, leaves, Node.leavesOf_append, Node.leavesOf]

end Group

namespace Condition

variable (ctx : Context) (o : Int) (c : Condition)

theorem nullText_eq : c.nullText ctx = (c.nullTemplate ctx).map (Template.numbered o) := by
  unfold nullText nullTemplate
  cases ctx.quote c.column with
  | error e => rfl
  | ok column =>
    simp only [bind, Except.bind, pure, Except.pure, Except.map, Template.numbered_ofText]

theorem membershipText_eq :
    c.membershipText ctx o = (c.membershipTemplate ctx).map (Template.numbered o) := by
  have hlist : ∀ (column : Text) (vs : List Value),
      Template.numbered o (Template.ofText (column ++ ' ' :: c.operator.symbol.toList ++
          " (".toList) ++ Template.join [',', ' '] (Template.each vs) ++ Template.ofText [')']) =
        { sql := column ++ ' ' :: c.operator.symbol.toList ++ " (".toList ++
            joinWith [',', ' '] (slotTexts o vs.length) ++ [')'], params := vs } := by
    intro column vs
    simp only [Template.numbered, Template.number_append, Template.number_ofText,
      Template.values_ofText, Template.values_append, Template.number_join_each,
      Template.values_join_each, List.length_nil, Int.natCast_zero, Int.add_zero, List.nil_append,
      List.append_nil]
  unfold membershipText membershipTemplate
  cases c.value with
  | list vs | tuple vs =>
    by_cases hv : vs.isEmpty
    · simp only [hv, ↓reduceIte, Except.map, Template.numbered_ofText]
    · simp only [hv]
      cases ctx.quote c.column with
      | error e => rfl
      | ok column => exact congrArg Except.ok (hlist column vs).symm
  | _ => rfl

theorem listOf_list (vs : List Value) : listOf (.list vs) = .ok vs := by
  cases vs <;> rfl

theorem rawText_eq : c.rawText o = c.rawTemplate.map (Template.numbered o) := by
  unfold rawText rawTemplate
  cases listOf c.value with
  | error e => rfl
  | ok values =>
    by_cases hm : Placeholder.markerCount c.column.toList = values.length
    · have hv := Template.ofFragment_numbered o c.column.toList values hm
      simp only [bind, Except.bind, pure, Except.pure, Placeholder.renumber, hm, ↓reduceIte,
        Except.map, hv]
    · have hi : ¬ (Placeholder.markerCount c.column.toList : Int) = (values.length : Int) := by
        omega
      simp only [bind, Except.bind, Placeholder.renumber, hm, hi, ↓reduceIte, String.ofList_toList,
        reject, Except.map]

theorem comparisonText_eq :
    c.comparisonText ctx o = (c.comparisonTemplate ctx).map (Template.numbered o) := by
  unfold comparisonText comparisonTemplate
  cases ctx.quote c.column with
  | error e => rfl
  | ok column =>
    have hsql : (if c.operator.isPattern then
          ctx.dialect.renderPattern column c.operator (Placeholder.slotText (o + 1))
        else column ++ ' ' :: c.operator.symbol.toList ++ ' ' :: Placeholder.slotText (o + 1)) =
        (ctx.dialect.comparisonFrame column c.operator).1 ++ Placeholder.slotText (o + 1) ++
          (ctx.dialect.comparisonFrame column c.operator).2 := by
      split
      · exact ctx.dialect.renderPattern_eq column c.operator _
      · rename_i hp
        rw [ctx.dialect.comparisonFrame_of_not_isPattern column (by simpa using hp)]
        simp
    simp only [bind, Except.bind, pure, Except.pure, Except.map, hsql]
    simp [Template.numbered]

theorem compile_eq : c.compile ctx o = (c.template ctx).map (Template.numbered o) := by
  unfold compile template
  cases c.operator with
  | isNull | isNotNull => exact c.nullText_eq ctx o
  | among | notAmong => exact c.membershipText_eq ctx o
  | raw => exact c.rawText_eq o
  | _ => exact c.comparisonText_eq ctx o

end Condition

namespace Template

variable (o : Int)

theorem numberedAll_append (Ts Us : List Template) :
    numberedAll o (Ts ++ Us) =
      numberedAll o Ts ++ numberedAll (o + (Ts.flatMap values).length) Us := by
  induction Ts generalizing o with
  | nil => simp [numberedAll]
  | cons T Ts ih =>
    have ho : o + (values T).length + ((Ts.flatMap values).length : Int) =
        o + (((T :: Ts).flatMap values).length : Int) := by
      simp only [List.flatMap_cons, List.length_append, Int.natCast_add]
      omega
    simp only [List.cons_append, numberedAll, ih, ho]

theorem numberedAll_isEmpty (Ts : List Template) :
    ((numberedAll o Ts).map BoundText.sql).isEmpty = Ts.isEmpty := by
  cases Ts <;> rfl

theorem number_isEmpty (T : Template) : (number o T).isEmpty = T.isEmpty := by
  cases T with
  | nil => rfl
  | cons p T => cases p <;> simp [Placeholder.slotText]

theorem joinLevel_numberedAll (ands ors : List Template) :
    joinLevel (numberedAll o ands) (numberedAll (o + (ands.flatMap values).length) ors) =
      (level ands ors).numbered o := by
  have hsql := number_join o ands " AND ".toList
  have hvalues := values_join ands " AND ".toList
  simp only [joinLevel, joinAlternatives, allParams_numberedAll, ← hsql, numberedAll_isEmpty, level,
    numbered]
  generalize join " AND ".toList ands = both at hvalues ⊢
  rw [number_isEmpty, ← hvalues]
  by_cases ho : ors.isEmpty
  · have hors : ors = [] := List.isEmpty_iff.1 ho
    simp [hors]
  · simp only [ho]
    by_cases hb : both.isEmpty
    · -- then there are no values in front of the alternatives
      have hnil : both = [] := List.isEmpty_iff.1 hb
      subst hnil
      simp [number_join]
    · simp [hb, number_join, numberedAll, numbered]

theorem parenthesize_numbered (T : Template) :
    parenthesize (T.numbered o) = T.enclose.numbered o := by
  simp only [parenthesize, numbered, number_isEmpty, enclose]
  split
  · rename_i h
    rw [List.isEmpty_iff.1 h]
    rfl
  · simp

end Template

namespace Node

variable (ctx : Context)

mutual

theorem compile_eq (o : Int) :
    (n : Node) → n.compile ctx o = (n.template ctx).map (Template.numbered o)
  | leaf c => c.compile_eq ctx o
  | group conjunction nodes => by
    unfold compile template
    rw [compileThose_eq .and o nodes]
    cases templatesOf ctx .and nodes with
    | error e => rfl
    | ok ands =>
      simp only [Except.map, Except.bind, Template.allParams_numberedAll]
      rw [compileThose_eq .or _ nodes]
      cases templatesOf ctx .or nodes with
      | error e => rfl
      | ok ors =>
        simp only [Except.map, Template.joinLevel_numberedAll, Template.parenthesize_numbered]

theorem compileThose_eq (conjunction : Conjunction) (o : Int) :
    (ns : List Node) → compileThose ctx conjunction o ns =
      (templatesOf ctx conjunction ns).map (Template.numberedAll o)
  | [] => rfl
  | n :: ns => by
    unfold compileThose templatesOf
    split
    · rw [compile_eq o n]
      cases template ctx n with
      | error e => rfl
      | ok T =>
        simp only [Except.map, Except.bind]
        have he : (Template.numbered o T).sql.isEmpty = T.isEmpty := Template.number_isEmpty o T
        rw [he]
        by_cases hT : T.isEmpty
        · rw [if_pos hT, compileThose_eq conjunction o ns]
          cases templatesOf ctx conjunction ns <;> simp [Except.map, hT]
        · have hl : ((Template.numbered o T).params.length : Int) = (Template.values T).length := rfl
          rw [if_neg hT, hl, compileThose_eq conjunction _ ns]
          cases templatesOf ctx conjunction ns <;> simp [Except.map, hT, Template.numberedAll]
    · exact compileThose_eq conjunction o ns

end

end Node

/-- The text of a tree is the numbered text of its template, whatever the offset. -/
theorem Group.compile_eq (ctx : Context) (o : Int) (g : Group) :
    g.compile ctx o = (g.template ctx).map (Template.numbered o) := by
  unfold compile template
  rw [Node.compileThose_eq]
  cases Node.templatesOf ctx .and g.nodes with
  | error e => rfl
  | ok ands =>
    simp only [Except.map, Except.bind, Template.allParams_numberedAll]
    rw [Node.compileThose_eq]
    cases Node.templatesOf ctx .or g.nodes with
    | error e => rfl
    | ok ors => simp only [Except.map, Template.joinLevel_numberedAll]

theorem Context.quote_isQuoted {ctx : Context} {name : String} {q : Text}
    (h : ctx.quote name = .ok q) : Identifier.IsQuoted q :=
  Identifier.quoteName_isQuoted h

/-- What a template has as soon as all templates have it of which it is put together. -/
structure Template.Inherited (p : Template → Prop) : Prop where
  join : ∀ word ∈ [" AND ", " OR "], ∀ Ts, (∀ T ∈ Ts, p T) → p (Template.join word.toList Ts)
  enclose : ∀ T, p T → p T.enclose

theorem Template.Inherited.level {p : Template → Prop} (hp : Inherited p) {ands ors : List Template}
    (ha : ∀ T ∈ ands, p T) (ho : ∀ T ∈ ors, p T) : p (level ands ors) := by
  have hboth := hp.join " AND " (by simp) ands ha
  unfold Template.level
  split
  · exact hboth
  · refine hp.join " OR " (by simp) _ fun T hT => ?_
    rcases List.mem_append.1 hT with hm | hm
    · split at hm
      · cases hm
      · rw [List.mem_singleton.1 hm]
        exact hboth
    · exact ho T hm

namespace Node

variable {ctx : Context} {p : Template → Prop}

mutual

theorem template_inherits (hp : Template.Inherited p) :
    (n : Node) → (∀ c ∈ n.leaves, ∀ T, c.template ctx = .ok T → p T) →
      ∀ T, n.template ctx = .ok T → p T
  | leaf c, hc, T, h => hc c (by simp [leaves]) T h
  | group _ nodes, hc, T, h => by
    unfold template at h
    obtain ⟨ands, ha, h⟩ := Outcome.bind_eq_ok.1 h
    obtain ⟨ors, ho, rfl⟩ := Outcome.map_eq_ok.1 h
    have hands := templatesOf_inherit hp nodes hc .and ands ha
    have hors := templatesOf_inherit hp nodes hc .or ors ho
    exact hp.enclose _ (hp.level hands hors)

theorem templatesOf_inherit (hp : Template.Inherited p) :
    (ns : List Node) → (∀ c ∈ leavesOf ns, ∀ T, c.template ctx = .ok T → p T) →
      ∀ conjunction Ts, templatesOf ctx conjunction ns = .ok Ts → ∀ T ∈ Ts, p T
  | [], _, _, Ts, h, T, hT => by
    cases h
    cases hT
  | n :: ns, hc, conjunction, Ts, h, T, hT => by
    have hn : ∀ c ∈ n.leaves, ∀ T, c.template ctx = .ok T → p T :=
      fun c hm => hc c (by simp [leavesOf, hm])
    have hns : ∀ c ∈ leavesOf ns, ∀ T, c.template ctx = .ok T → p T :=
      fun c hm => hc c (by simp [leavesOf, hm])
    unfold templatesOf at h
    split at h
    · obtain ⟨U, hU, h⟩ := Outcome.bind_eq_ok.1 h
      obtain ⟨Us, hUs, rfl⟩ := Outcome.map_eq_ok.1 h
      split at hT
      · exact templatesOf_inherit hp ns hns conjunction Us hUs T hT
      · rcases List.mem_cons.1 hT with rfl | hm
        · exact template_inherits hp n hn T hU
        · exact templatesOf_inherit hp ns hns conjunction Us hUs T hm
    · exact templatesOf_inherit hp ns hns conjunction Ts h T hT

end

end Node

theorem Group.template_inherits {ctx : Context} {p : Template → Prop} (hp : Template.Inherited p) {g : Group}
    {T : Template} (hc : ∀ c ∈ g.leaves, ∀ U, c.template ctx = .ok U → p U)
    (h : g.template ctx = .ok T) : p T := by
  unfold template at h
  obtain ⟨ands, ha, h⟩ := Outcome.bind_eq_ok.1 h
  obtain ⟨ors, ho, rfl⟩ := Outcome.map_eq_ok.1 h
  exact hp.level (Node.templatesOf_inherit hp _ hc .and ands ha)
    (Node.templatesOf_inherit hp _ hc .or ors ho)

end BoundSql
