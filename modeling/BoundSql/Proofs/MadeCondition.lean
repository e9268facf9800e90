import BoundSql.Predicate.Filter
import BoundSql.Proofs.ConditionTemplate
/-!
What is known of a condition because it was made by a call. Every condition of a tree was made by one
call that is not nested, so what holds of the conditions of those calls holds of the whole tree.
-/

namespace BoundSql

namespace Condition

/-- A condition that was made with all checks: what stands in it was looked at before. -/
structure WellMade (limit : Int) (c : Condition) : Prop where
  fragment : c.operator = .raw → SqlFragment.Admitted c.column.toList
  bound : c.operator = .raw →
    ∃ vs, c.value = .list vs ∧ Placeholder.markerCount c.column.toList = vs.length
  column : c.operator ≠ .raw → ∃ q, Identifier.quoteName limit c.column = .ok q
  members : c.operator.takesList → ∃ vs, c.value = .list vs

theorem nameOf_eq_ok {limit : Int} {v : Value} {name : String}
    (h : Identifier.nameOf limit v = .ok name) : ∃ q, Identifier.quoteName limit name = .ok q := by
  cases v with
  | text s =>
    obtain ⟨q, hq, rfl⟩ := Outcome.map_eq_ok.1 h
    exact ⟨q, hq⟩
  | _ => cases h

theorem testForNull_ne_raw {operator : Operator} {v : Value} (h : operator ≠ .raw) :
    testForNull operator v ≠ .raw := by
  unfold testForNull
  split
  · decide
  · decide
  · exact h

theorem make_wellMade {limit : Int} {conjunction : Conjunction} {column : Value}
    {operator : Operator} {value : Value} {c : Condition}
    (h : make limit conjunction column operator value = .ok c) :
    c.operator ≠ .raw ∧ c.WellMade limit := by
  unfold make at h
  split at h
  · cases h
  rename_i hraw
  obtain ⟨name, hname, h⟩ := Outcome.do_eq_ok.1 h
  have hcolumn := nameOf_eq_ok hname
  have hop := testForNull_ne_raw (v := value) hraw
  generalize testForNull operator value = o at h hop
  dsimp only at h
  split at h
  · obtain ⟨v, hv, h⟩ := Outcome.do_eq_ok.1 h
    split at h
    · cases h
      refine ⟨hop, fun hr => absurd hr hop, fun hr => absurd hr hop, fun _ => hcolumn, fun hl => ?_⟩
      unfold operand at hv
      rw [if_pos hl] at hv
      obtain ⟨vs, -, rfl⟩ := Outcome.map_eq_ok.1 hv
      exact ⟨vs, rfl⟩
    · cases h
  · rename_i hvalue
    cases h
    refine ⟨hop, fun hr => absurd hr hop, fun hr => absurd hr hop, fun _ => hcolumn, fun hl => ?_⟩
    cases o <;> simp_all [Operator.takesValue, Operator.takesList]

theorem makeRaw_eq_ok_iff {conjunction : Conjunction} {clause : String} {fragment params : Value}
    {c : Condition} :
    makeRaw conjunction clause fragment params = .ok c ↔
      ∃ sql vs, SqlFragment.check clause fragment = .ok sql ∧ listOf params = .ok vs ∧
        Placeholder.markerCount sql.toList = vs.length ∧ (∀ v ∈ vs, v.bindable) ∧
        c = { conjunction, column := sql, operator := .raw, value := .list vs } := by
  unfold makeRaw
  constructor
  · intro h
    obtain ⟨sql, hsql, h⟩ := Outcome.do_eq_ok.1 h
    obtain ⟨vs, hvs, h⟩ := Outcome.do_eq_ok.1 h
    dsimp only at h
    split at h
    · cases h
    · rename_i hcount
      split at h
      · cases h
      · rename_i hbindable
        cases h
        exact ⟨sql, vs, hsql, hvs, by simpa using hcount, by simpa using hbindable, rfl⟩
  · rintro ⟨sql, vs, hsql, hvs, hcount, hbindable, rfl⟩
    have hfind : (vs.find? fun v => !v.bindable) = none := by simpa using hbindable
    rw [Outcome.do_ok hsql, Outcome.do_ok hvs]
    simp [hcount, hfind, pure, Except.pure]

theorem makeRaw_eq_ok {conjunction : Conjunction} {clause : String} {fragment params : Value}
    {c : Condition} (h : makeRaw conjunction clause fragment params = .ok c) :
    ∃ sql vs, fragment = .text sql ∧ SqlFragment.Admitted sql.toList ∧ listOf params = .ok vs ∧
      Placeholder.markerCount sql.toList = vs.length ∧
      c = { conjunction, column := sql, operator := .raw, value := .list vs } := by
  obtain ⟨sql, vs, hsql, hvs, hcount, -, rfl⟩ := makeRaw_eq_ok_iff.1 h
  obtain ⟨hfragment, hadmitted⟩ := SqlFragment.check_eq_ok hsql
  exact ⟨sql, vs, hfragment, hadmitted, hvs, hcount, rfl⟩

theorem column_ne_nil_of_makeRaw {conjunction : Conjunction} {clause : String}
    {fragment params : Value} {c : Condition}
    (h : makeRaw conjunction clause fragment params = .ok c) : c.column.toList ≠ [] := by
  obtain ⟨sql, vs, hsql, -, -, -, rfl⟩ := makeRaw_eq_ok_iff.1 h
  exact SqlFragment.ne_nil_of_check hsql

theorem makeRaw_of_clause {conjunction : Conjunction} {clause : String} (other : String)
    {fragment params : Value} {c : Condition}
    (h : makeRaw conjunction clause fragment params = .ok c) :
    makeRaw conjunction other fragment params = .ok c := by
  obtain ⟨sql, vs, hsql, hrest⟩ := makeRaw_eq_ok_iff.1 h
  have hother : SqlFragment.check other fragment = .ok sql :=
    SqlFragment.check_eq_ok_iff.2 (SqlFragment.check_eq_ok_iff.1 hsql)
  exact makeRaw_eq_ok_iff.2 ⟨sql, vs, hother, hrest⟩

theorem makeRaw_wellMade (limit : Int) {conjunction : Conjunction} {clause : String}
    {fragment params : Value} {c : Condition}
    (h : makeRaw conjunction clause fragment params = .ok c) : c.WellMade limit := by
  obtain ⟨sql, vs, -, hadmitted, -, hcount, rfl⟩ := makeRaw_eq_ok h
  exact ⟨fun _ => hadmitted, fun _ => ⟨vs, rfl, hcount⟩, fun hr => absurd rfl hr,
    by simp [Operator.takesList]⟩

def betweenWords (negated : Bool) : Text :=
  (if negated then " NOT BETWEEN ? AND ?" else " BETWEEN ? AND ?").toList

theorem makeBetween_eq_ok {limit : Int} {conjunction : Conjunction} {negated : Bool}
    {column low high : Value} {c : Condition}
    (h : makeBetween limit conjunction negated column low high = .ok c) :
    ∃ q, Identifier.IsQuoted q ∧
      c = { conjunction, column := String.ofList (q ++ betweenWords negated), operator := .raw,
            value := .list [low, high] } ∧ c.WellMade limit := by
  unfold makeBetween at h
  obtain ⟨q, hq, h⟩ := Outcome.do_eq_ok.1 h
  have hquoted : Identifier.IsQuoted q := by
    cases column with
    | text name => exact Identifier.quoteName_isQuoted hq
    | _ => cases hq
  have hmade := makeRaw_wellMade limit h
  obtain ⟨sql, vs, hsql, -, hvs, -, rfl⟩ := makeRaw_eq_ok h
  cases hsql
  cases hvs
  exact ⟨q, hquoted, rfl, hmade⟩

end Condition

namespace Filter

mutual

/-- The calls in a call that are not nested: itself, or those of its body at any depth. -/
def basics : Filter → List Filter
  | nested _ body => basicsOf body
  | f => [f]

def basicsOf : List Filter → List Filter
  | [] => []
  | f :: fs => basics f ++ basicsOf fs

end

def isRaw : Filter → Bool
  | raw .. => true
  | _ => false

def Makes (limit : Int) (f : Filter) (c : Condition) : Prop :=
  f.node limit = .ok (some (.leaf c))

variable {limit : Int} {c : Condition}

theorem testCondition_eq_ok {conjunction : Conjunction} {column : Value}
    {operator value : Option Value} (h : testCondition limit conjunction column operator value = .ok c) :
    ∃ o v, Condition.make limit conjunction column o v = .ok c := by
  unfold testCondition at h
  split at h
  · cases h
  · exact ⟨_, _, h⟩
  · obtain ⟨o, -, h⟩ := Outcome.do_eq_ok.1 h
    exact ⟨o, _, h⟩

theorem map_leaf_eq_ok {x : Outcome Condition}
    (h : (x.map fun d => some (Node.leaf d)) = .ok (some (.leaf c))) : x = .ok c := by
  obtain ⟨d, hd, he⟩ := Outcome.map_eq_ok.1 h
  cases he
  exact hd

theorem Makes.cases {f : Filter} (h : f.Makes limit c) :
    (∃ conjunction column o v, Condition.make limit conjunction column o v = .ok c) ∨
    (∃ conjunction negated column low high,
      Condition.makeBetween limit conjunction negated column low high = .ok c) ∨
    (f.isRaw ∧ ∃ conjunction fragment params,
      Condition.makeRaw conjunction "WHERE" fragment params = .ok c) := by
  unfold Makes at h
  cases f with
  | test conjunction column operator value =>
    obtain ⟨o, v, hm⟩ := testCondition_eq_ok (map_leaf_eq_ok h)
    exact .inl ⟨_, _, _, _, hm⟩
  | compare conjunction operator column value => exact .inl ⟨_, _, _, _, map_leaf_eq_ok h⟩
  | between conjunction negated column low high =>
    exact .inr (.inl ⟨_, _, _, _, _, map_leaf_eq_ok h⟩)
  | raw conjunction fragment params => exact .inr (.inr ⟨rfl, _, _, _, map_leaf_eq_ok h⟩)
  | nested conjunction body =>
    obtain ⟨ns, -, h⟩ := Outcome.map_eq_ok.1 h
    split at h <;> cases h
  | raises | unknown => cases h

theorem Makes.wellMade {f : Filter} (h : f.Makes limit c) : c.WellMade limit := by
  rcases h.cases with ⟨_, _, _, _, hm⟩ | ⟨_, _, _, _, _, hm⟩ | ⟨-, _, _, _, hm⟩
  · exact (Condition.make_wellMade hm).2
  · obtain ⟨q, -, -, hc⟩ := Condition.makeBetween_eq_ok hm
    exact hc
  · exact Condition.makeRaw_wellMade limit hm

theorem forall₂_makes_of_leaf {f : Filter} {added : Option Node} {x : Outcome Condition}
    (hf : f.node limit = x.map fun d => some (.leaf d)) (h : f.node limit = .ok added) :
    List.Forall₂ (Makes limit) [f] (Node.leavesOf added.toList) := by
  obtain ⟨d, -, rfl⟩ := Outcome.map_eq_ok.1 (hf ▸ h)
  exact .cons h .nil

theorem nodes_cons_eq_ok {f : Filter} {fs : List Filter} {ns : List Node} :
    nodes limit (f :: fs) = .ok ns ↔
      ∃ added after, f.node limit = .ok added ∧ nodes limit fs = .ok after ∧
        ns = added.toList ++ after := by
  rw [nodes]
  cases f.node limit with
  | error e => simp
  | ok added =>
    refine Outcome.map_eq_ok.trans ⟨?_, ?_⟩
    · rintro ⟨after, hafter, rfl⟩
      exact ⟨added, after, rfl, hafter, rfl⟩
    · rintro ⟨a, after, ha, hafter, rfl⟩
      cases ha
      exact ⟨after, hafter, rfl⟩

theorem nodes_append (limit : Int) (fs gs : List Filter) :
    nodes limit (fs ++ gs) = (nodes limit fs).bind fun ns => (nodes limit gs).map (ns ++ ·) := by
  induction fs with
  | nil => cases h : nodes limit gs <;> simp [nodes, h, Except.bind, Except.map]
  | cons f fs ih =>
    rw [List.cons_append, nodes, nodes, ih]
    cases node limit f with
    | error e => rfl
    | ok added =>
      cases nodes limit fs with
      | error e => rfl
      | ok ns => cases nodes limit gs <;> simp [Except.bind, Except.map]

mutual

theorem forall₂_makes :
    (f : Filter) → ∀ added, f.node limit = .ok added →
      List.Forall₂ (Makes limit) f.basics (Node.leavesOf added.toList)
  | test .., added, h => forall₂_makes_of_leaf (by rw [node]) h
  | compare .., added, h => forall₂_makes_of_leaf (by rw [node]) h
  | between .., added, h => forall₂_makes_of_leaf (by rw [node]) h
  | raw .., added, h => forall₂_makes_of_leaf (by rw [node]) h
  | nested conjunction body, added, h => by
    unfold node at h
    obtain ⟨ns, hns, rfl⟩ := Outcome.map_eq_ok.1 h
    have hbody := forall₂_makesOf body ns hns
    rw [basics]
    by_cases hempty : Node.allEmpty ns
    · rw [(Node.allEmpty_iff ns).1 hempty] at hbody
      simpa [hempty, Node.leavesOf] using hbody
    · simpa [hempty, Node.leavesOf, Node.leaves] using hbody
  | raises .., added, h => by cases h
  | unknown, added, h => by cases h

theorem forall₂_makesOf :
    (fs : List Filter) → ∀ ns, nodes limit fs = .ok ns →
      List.Forall₂ (Makes limit) (basicsOf fs) (Node.leavesOf ns)
  | [], ns, h => by
    cases h
    exact .nil
  | f :: fs, ns, h => by
    obtain ⟨added, ms, hf, hms, rfl⟩ := nodes_cons_eq_ok.1 h
    rw [basicsOf, Node.leavesOf_append]
    exact List.rel_append (forall₂_makes f added hf) (forall₂_makesOf fs ms hms)

end

theorem exists_makes_of_mem {fs : List Filter} {cs : List Condition}
    (h : List.Forall₂ (Makes limit) fs cs) (hc : c ∈ cs) : ∃ g ∈ fs, g.Makes limit c := by
  induction h with
  | nil => cases hc
  | cons hg _ ih =>
    rcases List.mem_cons.1 hc with rfl | hm
    · exact ⟨_, List.mem_cons_self, hg⟩
    · obtain ⟨g, hmem, hgc⟩ := ih hm
      exact ⟨g, List.mem_cons_of_mem _ hmem, hgc⟩

theorem makes_of_mem_leaves {f : Filter} {n : Node} (h : f.node limit = .ok (some n))
    (hc : c ∈ n.leaves) : ∃ g ∈ f.basics, g.Makes limit c :=
  exists_makes_of_mem (forall₂_makes f (some n) h) (by simpa [Node.leavesOf] using hc)

theorem makes_of_mem_leavesOf {fs : List Filter} {ns : List Node} (h : nodes limit fs = .ok ns)
    (hc : c ∈ Node.leavesOf ns) : ∃ g ∈ basicsOf fs, g.Makes limit c :=
  exists_makes_of_mem (forall₂_makesOf fs ns h) hc

end Filter

end BoundSql
