import BoundSql.Proofs.MadeCondition
import Mathlib.Logic.Relation
/-!
Trees of conditions with the AND nodes of every level before its OR nodes. That is how they are put into
text, so that a tree and the settled one have the same text and values, and it does not matter in which
order AND conditions were added to OR conditions, at any depth.
-/

namespace BoundSql

namespace Node

mutual

/-- The same tree with the AND nodes of every level first. -/
def settle : Node → Node
  | leaf c => leaf c
  | group c nodes => group c (settleThose .and nodes ++ settleThose .or nodes)

def settleThose (conjunction : Conjunction) : List Node → List Node
  | [] => []
  | n :: ns =>
    if n.conjunction = conjunction then settle n :: settleThose conjunction ns
    else settleThose conjunction ns

end

theorem conjunction_settle (n : Node) : n.settle.conjunction = n.conjunction := by
  cases n <;> rfl

theorem settleThose_eq (conjunction : Conjunction) (ns : List Node) :
    settleThose conjunction ns = (ns.filter fun n => n.conjunction = conjunction).map settle := by
  induction ns with
  | nil => rfl
  | cons n ns ih =>
    by_cases h : n.conjunction = conjunction <;> simp [settleThose, h, ih]

theorem settleThose_append (conjunction : Conjunction) (ns ms : List Node) :
    settleThose conjunction (ns ++ ms) = settleThose conjunction ns ++ settleThose conjunction ms := by
  simp [settleThose_eq]

theorem conjunction_of_mem_settleThose {conjunction : Conjunction} {ns : List Node} {m : Node}
    (h : m ∈ settleThose conjunction ns) : m.conjunction = conjunction := by
  rw [settleThose_eq] at h
  obtain ⟨n, hn, rfl⟩ := List.mem_map.1 h
  rw [conjunction_settle]
  simpa using (List.mem_filter.1 hn).2

theorem allEmpty_append (ns ms : List Node) :
    allEmpty (ns ++ ms) = (allEmpty ns && allEmpty ms) := by
  induction ns with
  | nil => rfl
  | cons n ns ih => simp only [List.cons_append, allEmpty, ih, Bool.and_assoc]

section Compile

variable (ctx : Context)

theorem compileThose_filter (conjunction : Conjunction) (o : Int) (ns : List Node) :
    compileThose ctx conjunction o (ns.filter fun n => n.conjunction = conjunction) =
      compileThose ctx conjunction o ns := by
  induction ns generalizing o with
  | nil => rfl
  | cons n ns ih =>
    by_cases h : n.conjunction = conjunction
    · rw [List.filter_cons_of_pos (by simpa using h), compileThose, compileThose, if_pos h, if_pos h]
      simp only [ih]
    · rw [List.filter_cons_of_neg (by simpa using h), compileThose, if_neg h, ih]

theorem compileThose_parted (conjunction : Conjunction) (o : Int) (ns : List Node) :
    compileThose ctx conjunction o (settleThose .and ns ++ settleThose .or ns) =
      compileThose ctx conjunction o (settleThose conjunction ns) := by
  have hkept : (settleThose .and ns ++ settleThose .or ns).filter
      (fun n => n.conjunction = conjunction) = settleThose conjunction ns := by
    have hall (c : Conjunction) : (settleThose c ns).filter (fun n => n.conjunction = c) =
        settleThose c ns :=
      List.filter_eq_self.2 fun n hn => by simpa using conjunction_of_mem_settleThose hn
    have hnone {c d : Conjunction} (hne : c ≠ d) :
        (settleThose c ns).filter (fun n => n.conjunction = d) = [] :=
      List.filter_eq_nil_iff.2 fun n hn => by
        simpa [conjunction_of_mem_settleThose hn] using hne
    cases conjunction with
    | and => rw [List.filter_append, hall .and, hnone (by decide), List.append_nil]
    | or => rw [List.filter_append, hnone (by decide), hall .or, List.nil_append]
  rw [← compileThose_filter, hkept]

mutual

theorem compile_settle (o : Int) : (n : Node) → compile ctx o n.settle = compile ctx o n
  | leaf _ => rfl
  | group _ nodes => by
    simp only [settle, compile, compileThose_parted, compileThose_settle]

theorem compileThose_settle (conjunction : Conjunction) (o : Int) : (ns : List Node) →
    compileThose ctx conjunction o (settleThose conjunction ns) = compileThose ctx conjunction o ns
  | [] => rfl
  | n :: ns => by
    by_cases h : n.conjunction = conjunction
    · have hsettled : n.settle.conjunction = conjunction := (conjunction_settle n).trans h
      rw [settleThose, if_pos h, compileThose, compileThose, if_pos hsettled, if_pos h,
        compile_settle o n]
      simp only [compileThose_settle conjunction _ ns]
    · rw [settleThose, if_neg h, compileThose, if_neg h, compileThose_settle conjunction o ns]

end

end Compile

end Node

namespace Group

/-- Groups whose AND nodes are the same, and whose OR nodes are, but for the order of the two at any
level. -/
def SettlesLike (g h : Group) : Prop :=
  ∀ conjunction, Node.settleThose conjunction g.nodes = Node.settleThose conjunction h.nodes

theorem SettlesLike.compile {g h : Group} (hgh : g.SettlesLike h) (ctx : Context) (o : Int) :
    g.compile ctx o = h.compile ctx o := by
  have hthose (conjunction : Conjunction) (i : Int) :
      Node.compileThose ctx conjunction i g.nodes = Node.compileThose ctx conjunction i h.nodes := by
    rw [← Node.compileThose_settle ctx conjunction i g.nodes, hgh,
      Node.compileThose_settle ctx conjunction i h.nodes]
  unfold Group.compile
  simp only [hthose]

end Group

theorem Condition.conjunction_of_make {limit : Int} {conjunction : Conjunction} {column : Value}
    {operator : Operator} {value : Value} {c : Condition}
    (h : make limit conjunction column operator value = .ok c) : c.conjunction = conjunction := by
  unfold make at h
  split at h
  · cases h
  obtain ⟨name, -, h⟩ := Outcome.do_eq_ok.1 h
  dsimp only at h
  split at h
  · obtain ⟨v, -, h⟩ := Outcome.do_eq_ok.1 h
    split at h
    · cases h
      rfl
    · cases h
  · cases h
    rfl

namespace Filter

def conjunction : Filter → Conjunction
  | test c .. | compare c .. | between c .. | raw c .. | nested c _ => c
  | raises .. | unknown => .and

/-- Two neighbours of one level, of which one adds an AND condition and the other one an OR condition,
exchanged in the body of a nested call, at any depth. -/
inductive Exchange : Filter → Filter → Prop where
  | here (c : Conjunction) (fs gs : List Filter) {f g : Filter} (h : f.conjunction ≠ g.conjunction) :
      Exchange (nested c (fs ++ f :: g :: gs)) (nested c (fs ++ g :: f :: gs))
  | inside (c : Conjunction) (fs gs : List Filter) {f g : Filter} (h : Exchange f g) :
      Exchange (nested c (fs ++ f :: gs)) (nested c (fs ++ g :: gs))

def Alike : Filter → Filter → Prop :=
  Relation.ReflTransGen Exchange

theorem Exchange.conjunction_eq {f g : Filter} (h : f.Exchange g) : g.conjunction = f.conjunction := by
  cases h <;> rfl

variable {limit : Int} {f g : Filter} {added : Option Node}

theorem conjunction_of_node (h : f.node limit = .ok added) :
    ∀ n ∈ added, n.conjunction = f.conjunction := by
  intro n hn
  cases f with
  | test c column operator value =>
    obtain ⟨x, hx, rfl⟩ := Outcome.map_eq_ok.1 h
    cases hn
    obtain ⟨o, v, hmake⟩ := testCondition_eq_ok hx
    exact Condition.conjunction_of_make hmake
  | compare c operator column value =>
    obtain ⟨x, hx, rfl⟩ := Outcome.map_eq_ok.1 h
    cases hn
    exact Condition.conjunction_of_make hx
  | between c negated column low high =>
    obtain ⟨x, hx, rfl⟩ := Outcome.map_eq_ok.1 h
    cases hn
    obtain ⟨q, -, rfl, -⟩ := Condition.makeBetween_eq_ok hx
    rfl
  | raw c fragment params =>
    obtain ⟨x, hx, rfl⟩ := Outcome.map_eq_ok.1 h
    cases hn
    obtain ⟨sql, vs, -, -, -, -, rfl⟩ := Condition.makeRaw_eq_ok hx
    rfl
  | nested c body =>
    obtain ⟨ns, -, rfl⟩ := Outcome.map_eq_ok.1 h
    split at hn
    · cases hn
    · cases hn
      rfl
  | raises | unknown => cases h

theorem allEmpty_of_node (h : f.node limit = .ok added) :
    Node.allEmpty added.toList = added.isNone := by
  cases f with
  | nested c body =>
    obtain ⟨ns, -, rfl⟩ := Outcome.map_eq_ok.1 h
    split
    · rfl
    · rename_i hsome
      simpa [Node.allEmpty, Node.isEmpty] using hsome
  | raises | unknown => cases h
  | _ =>
    obtain ⟨x, -, rfl⟩ := Outcome.map_eq_ok.1 h
    rfl

theorem nodes_middle_eq_ok {fs gs : List Filter} {ns : List Node} :
    nodes limit (fs ++ f :: gs) = .ok ns ↔
      ∃ before added after, nodes limit fs = .ok before ∧ f.node limit = .ok added ∧
        nodes limit gs = .ok after ∧ ns = before ++ (added.toList ++ after) := by
  rw [nodes_append, Outcome.bind_eq_ok]
  simp only [Outcome.map_eq_ok, nodes_cons_eq_ok]
  constructor
  · rintro ⟨before, hbefore, _, ⟨added, after, hadded, hafter, rfl⟩, rfl⟩
    exact ⟨before, added, after, hbefore, hadded, hafter, rfl⟩
  · rintro ⟨before, added, after, hbefore, hadded, hafter, rfl⟩
    exact ⟨before, hbefore, _, ⟨added, after, hadded, hafter, rfl⟩, rfl⟩

theorem settleThose_of_node (h : f.node limit = .ok added) (conjunction : Conjunction) :
    Node.settleThose conjunction added.toList =
      if f.conjunction = conjunction then added.toList.map Node.settle else [] := by
  cases added with
  | none => split <;> rfl
  | some n =>
    have hn := conjunction_of_node h n rfl
    simp [Node.settleThose, hn]

theorem node_nested_of_like {c : Conjunction} {body body' : List Filter} {ns ns' : List Node}
    (hns : nodes limit body = .ok ns) (hns' : nodes limit body' = .ok ns')
    (hsettle : ∀ conjunction, Node.settleThose conjunction ns' = Node.settleThose conjunction ns)
    (hempty : Node.allEmpty ns' = Node.allEmpty ns) (hf : (nested c body).node limit = .ok added) :
    ∃ added', (nested c body').node limit = .ok added' ∧
      added'.map Node.settle = added.map Node.settle := by
  have hadded : added = if Node.allEmpty ns then none else some (.group c ns) := by
    rw [node, hns] at hf
    exact (Except.ok.inj hf).symm
  refine ⟨if Node.allEmpty ns' then none else some (.group c ns'), by rw [node, hns']; rfl, ?_⟩
  rw [hadded, hempty]
  split
  · rfl
  · simp only [Option.map_some, Node.settle, hsettle]

theorem Exchange.node (h : f.Exchange g) (hf : f.node limit = .ok added) :
    ∃ added', g.node limit = .ok added' ∧ added'.map Node.settle = added.map Node.settle := by
  induction h generalizing added with
  | @here c fs gs f g hne =>
    obtain ⟨ns, hns, -⟩ := Outcome.map_eq_ok.1 hf
    obtain ⟨before, a, rest, hbefore, ha, hrest, rfl⟩ := nodes_middle_eq_ok.1 hns
    obtain ⟨b, after, hb, hafter, rfl⟩ := nodes_cons_eq_ok.1 hrest
    have hswapped : nodes limit (fs ++ g :: f :: gs) =
        .ok (before ++ (b.toList ++ (a.toList ++ after))) :=
      nodes_middle_eq_ok.2 ⟨before, b, _, hbefore, hb,
        nodes_cons_eq_ok.2 ⟨a, after, ha, hafter, rfl⟩, rfl⟩
    -- At most one of the two neighbours is seen by each conjunction.
    refine node_nested_of_like hns hswapped (fun conjunction => ?_) ?_ hf
    · simp only [Node.settleThose_append, settleThose_of_node ha, settleThose_of_node hb]
      by_cases hc : f.conjunction = conjunction
      · rw [if_pos hc, if_neg (fun h => hne (hc.trans h.symm))]
        simp
      · rw [if_neg hc]
        simp
    · simp only [Node.allEmpty_append]
      exact congrArg _ (Bool.and_left_comm ..)
  | @inside c fs gs f g hexchange ih =>
    obtain ⟨ns, hns, -⟩ := Outcome.map_eq_ok.1 hf
    obtain ⟨before, a, after, hbefore, ha, hafter, rfl⟩ := nodes_middle_eq_ok.1 hns
    obtain ⟨b, hb, hsettle⟩ := ih ha
    have hchanged : nodes limit (fs ++ g :: gs) = .ok (before ++ (b.toList ++ after)) :=
      nodes_middle_eq_ok.2 ⟨before, b, after, hbefore, hb, hafter, rfl⟩
    have hlist : b.toList.map Node.settle = a.toList.map Node.settle := by
      rw [← Option.toList_map, ← Option.toList_map, hsettle]
    refine node_nested_of_like hns hchanged (fun conjunction => ?_) ?_ hf
    · simp only [Node.settleThose_append, settleThose_of_node ha, settleThose_of_node hb,
        hexchange.conjunction_eq, hlist]
    · have hsome : b.isNone = a.isNone := by
        simpa using congrArg Option.isNone hsettle
      simp only [Node.allEmpty_append, allEmpty_of_node ha, allEmpty_of_node hb, hsome]

theorem Alike.conjunction_eq (h : f.Alike g) : g.conjunction = f.conjunction := by
  induction h with
  | refl => rfl
  | tail _ hstep ih => exact hstep.conjunction_eq.trans ih

theorem Alike.cases (h : f.Alike g) :
    f = g ∨ (∃ c body, f = nested c body) ∧ ∃ c body, g = nested c body := by
  induction h with
  | refl => exact .inl rfl
  | tail _ hstep ih =>
    rcases ih with rfl | ⟨hf, -⟩
    · cases hstep <;> exact .inr ⟨⟨_, _, rfl⟩, _, _, rfl⟩
    · cases hstep <;> exact .inr ⟨hf, _, _, rfl⟩

theorem Alike.node (h : f.Alike g) (hf : f.node limit = .ok added) :
    ∃ added', g.node limit = .ok added' ∧ added'.map Node.settle = added.map Node.settle := by
  induction h with
  | refl => exact ⟨added, hf, rfl⟩
  | tail _ hstep ih =>
    obtain ⟨a, ha, hsettle⟩ := ih
    obtain ⟨b, hb, hsettle'⟩ := hstep.node ha
    exact ⟨b, hb, hsettle'.trans hsettle⟩

end Filter

end BoundSql
