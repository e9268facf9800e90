import BoundSql.Proofs.Precedence
/-!
No condition is lost on its way into a text. A tree holds the conditions of all calls that were
accepted, in their order; its text is empty only when it holds none, and the values behind the text are
those that its conditions bind, in the order in which the text shows them.
-/

namespace BoundSql

theorem Template.ofFragment_ne_nil {t : Text} (h : t ≠ []) (vs : List Value) :
    ofFragment t vs ≠ [] := by
  cases t with
  | nil => exact absurd rfl h
  | cons c t => cases vs <;> by_cases hc : c = '?' <;> simp [ofFragment, hc]

namespace Condition

def values (c : Condition) : List Value :=
  match c.operator, c.value with
  | .isNull, _ | .isNotNull, _ => []
  | .among, .list vs | .notAmong, .list vs | .raw, .list vs => vs
  | _, v => [v]

def Shown (ctx : Context) (c : Condition) : Prop :=
  ∀ T, c.template ctx = .ok T → T ≠ [] ∧ T.values = c.values

theorem WellMade.shown {limit : Int} {c : Condition} (h : c.WellMade limit)
    (hne : c.operator = .raw → c.column.toList ≠ []) (ctx : Context) : c.Shown ctx := by
  intro T hT
  unfold template at hT
  unfold values
  cases hop : c.operator with
  | isNull | isNotNull =>
    simp only [hop, nullTemplate, Outcome.do_eq_ok, Outcome.pure_eq_ok] at hT
    obtain ⟨column, -, rfl⟩ := hT
    simp
  | among | notAmong =>
    obtain ⟨vs, hvs⟩ := h.members (by rw [hop]; rfl)
    simp only [hop, membershipTemplate, hvs] at hT
    rw [hvs]
    by_cases hnone : vs = []
    · subst hnone
      cases hT
      exact ⟨List.cons_ne_nil _ _, rfl⟩
    · simp only [List.isEmpty_iff, hnone, ↓reduceIte, Outcome.do_eq_ok, Outcome.pure_eq_ok] at hT
      obtain ⟨column, -, rfl⟩ := hT
      simp [Template.values_each]
  | raw =>
    obtain ⟨vs, hvs, hcount⟩ := h.bound hop
    simp only [hop, rawTemplate, hvs] at hT
    rw [Outcome.do_ok (listOf_list vs), if_pos hcount, Outcome.pure_eq_ok] at hT
    subst hT
    rw [hvs]
    have hnumbered := Template.ofFragment_numbered 0 c.column.toList vs hcount
    exact ⟨Template.ofFragment_ne_nil (hne hop) vs, congrArg BoundText.params hnumbered⟩
  | _ =>
    simp only [hop, comparisonTemplate, Outcome.do_eq_ok, Outcome.pure_eq_ok] at hT
    obtain ⟨column, -, rfl⟩ := hT
    simp

end Condition

theorem Filter.Makes.shown {limit : Int} {f : Filter} {c : Condition} (h : f.Makes limit c)
    (ctx : Context) : c.Shown ctx := by
  refine h.wellMade.shown (fun hraw => ?_) ctx
  rcases h.cases with ⟨_, _, _, _, hm⟩ | ⟨_, negated, _, _, _, hm⟩ | ⟨-, _, _, _, hm⟩
  · exact absurd hraw (Condition.make_wellMade hm).1
  · obtain ⟨q, -, rfl, -⟩ := Condition.makeBetween_eq_ok hm
    cases negated <;> simp [Condition.betweenWords]
  · exact Condition.column_ne_nil_of_makeRaw hm

namespace Template

theorem join_eq_nil_iff (separator : Text) {Ts : List Template} (h : ∀ T ∈ Ts, T ≠ []) :
    join separator Ts = [] ↔ Ts = [] := by
  cases Ts with
  | nil => simp [join]
  | cons T Ts =>
    have hT : T ≠ [] := h T (by simp)
    cases Ts <;> simp [join, hT]

theorem level_eq_nil_iff {ands ors : List Template} (ha : ∀ T ∈ ands, T ≠ [])
    (ho : ∀ T ∈ ors, T ≠ []) : level ands ors = [] ↔ ands = [] ∧ ors = [] := by
  unfold level
  by_cases hors : ors = []
  · simp [hors, join_eq_nil_iff _ ha]
  · have hall : ∀ T ∈ (if (join " AND ".toList ands).isEmpty then []
        else [join " AND ".toList ands]) ++ ors, T ≠ [] := by
      intro T hT
      rcases List.mem_append.1 hT with hm | hm
      · split at hm
        · cases hm
        · rename_i hne
          rw [List.mem_singleton.1 hm]
          simpa using hne
      · exact ho T hm
    have hne := (join_eq_nil_iff " OR ".toList hall).not
    simpa [hors] using hne

theorem values_level (ands ors : List Template) :
    values (level ands ors) = ands.flatMap values ++ ors.flatMap values := by
  have hparams := congrArg BoundText.params (joinLevel_numberedAll 0 ands ors)
  simpa [joinLevel, allParams_numberedAll, numbered] using hparams.symm

theorem enclose_eq_nil_iff (T : Template) : T.enclose = [] ↔ T = [] := by
  unfold enclose
  split
  · rename_i h
    simpa using h
  · rename_i h
    simpa using h

theorem values_enclose (T : Template) : values T.enclose = values T := by
  unfold enclose
  split
  · rename_i h
    rw [List.isEmpty_iff.1 h]
  · simp

/-- A template that is empty without conditions only, and has the values that the conditions bind. -/
structure Shows (T : Template) (cs : List (Condition × Nat)) : Prop where
  empty : T = [] ↔ cs = []
  values : T.values = cs.flatMap fun p => p.1.values

structure AllShow (Ts : List Template) (cs : List (Condition × Nat)) : Prop where
  empty : Ts = [] ↔ cs = []
  values : Ts.flatMap Template.values = cs.flatMap fun p => p.1.values

variable {T : Template} {Ts Us ands ors : List Template} {cs ds : List (Condition × Nat)}

theorem Shows.enclose (h : T.Shows cs) : T.enclose.Shows cs where
  empty := (enclose_eq_nil_iff T).trans h.empty
  values := (values_enclose T).trans h.values

theorem AllShow.level (hands : AllShow ands cs) (hors : AllShow ors ds) (ha : ∀ T ∈ ands, T ≠ [])
    (ho : ∀ T ∈ ors, T ≠ []) : (Template.level ands ors).Shows (cs ++ ds) where
  empty := by rw [level_eq_nil_iff ha ho, hands.empty, hors.empty, List.append_eq_nil_iff]
  values := by rw [values_level, hands.values, hors.values, List.flatMap_append]

theorem AllShow.cons (hT : T.Shows cs) (hTs : AllShow Ts ds) :
    AllShow (if T.isEmpty then Ts else T :: Ts) (cs ++ ds) := by
  by_cases hempty : T = []
  · obtain rfl : cs = [] := hT.empty.1 hempty
    simpa [hempty] using hTs
  · have hcs : cs ≠ [] := fun hnil => hempty (hT.empty.2 hnil)
    constructor
    · simp [hempty, hcs]
    · simp [hempty, hT.values, hTs.values]

end Template

namespace Node

variable {ctx : Context}

mutual

theorem template_shows :
    (n : Node) → (∀ c ∈ n.leaves, c.Shown ctx) → ∀ T, n.template ctx = .ok T →
      ∀ i, T.Shows (n.inText i)
  | leaf c, h, T, hT, i => by
    obtain ⟨hne, hvalues⟩ := h c (by simp [leaves]) T hT
    exact ⟨by simp [inText, hne], by simp [inText, hvalues]⟩
  | group _ nodes, h, T, hT, i => by
    unfold template at hT
    obtain ⟨ands, hands, hT⟩ := Outcome.bind_eq_ok.1 hT
    obtain ⟨ors, hors, rfl⟩ := Outcome.map_eq_ok.1 hT
    have ha := templatesOf_show nodes h .and ands hands i
    have ho := templatesOf_show nodes h .or ors hors i
    exact (ha.level ho (ne_nil_of_templatesOf hands) (ne_nil_of_templatesOf hors)).enclose

theorem templatesOf_show :
    (ns : List Node) → (∀ c ∈ leavesOf ns, c.Shown ctx) → ∀ conjunction Ts,
      templatesOf ctx conjunction ns = .ok Ts → ∀ i, Template.AllShow Ts (inTextOf conjunction i ns)
  | [], _, conjunction, Ts, hTs, i => by
    cases hTs
    exact ⟨by simp [inTextOf], by simp [inTextOf]⟩
  | n :: ns, h, conjunction, Ts, hTs, i => by
    have hn : ∀ c ∈ n.leaves, c.Shown ctx := fun c hc => h c (by simp [leavesOf, hc])
    have hns : ∀ c ∈ leavesOf ns, c.Shown ctx := fun c hc => h c (by simp [leavesOf, hc])
    unfold templatesOf at hTs
    unfold inTextOf
    split at hTs
    · rename_i hc
      obtain ⟨T, hT, hTs⟩ := Outcome.bind_eq_ok.1 hTs
      obtain ⟨Us, hUs, rfl⟩ := Outcome.map_eq_ok.1 hTs
      rw [if_pos hc]
      exact .cons (template_shows n hn T hT i) (templatesOf_show ns hns conjunction Us hUs _)
    · rename_i hc
      rw [if_neg hc]
      exact templatesOf_show ns hns conjunction Ts hTs _

end

end Node

namespace Group

variable {ctx : Context} {g : Group}

def values (g : Group) : List Value :=
  g.inText.flatMap fun p => p.1.values

theorem values_eq_nil (h : g.isEmpty) : g.values = [] := by
  have hnone : g.inText = [] := (Node.inText_eq_nil_iff (.group .and g.nodes) 0).2 h
  rw [values, hnone]
  rfl

theorem values_perm (g : Group) : g.values.Perm (g.leaves.flatMap Condition.values) := by
  have hperm : g.inText.Perm g.leaves.zipIdx := Node.inTextOf_perm g.nodes 0
  have hleaves : g.leaves.zipIdx.flatMap (fun p => p.1.values) =
      g.leaves.flatMap Condition.values := by
    rw [← List.flatMap_map Prod.fst, List.zipIdx_map_fst]
  rw [← hleaves]
  exact hperm.flatMap_right _

theorem template_shows (h : ∀ c ∈ g.leaves, c.Shown ctx) {T : Template}
    (hT : g.template ctx = .ok T) : T.Shows g.inText := by
  unfold template at hT
  obtain ⟨ands, hands, hT⟩ := Outcome.bind_eq_ok.1 hT
  obtain ⟨ors, hors, rfl⟩ := Outcome.map_eq_ok.1 hT
  have ha := Node.templatesOf_show g.nodes h .and ands hands 0
  have ho := Node.templatesOf_show g.nodes h .or ors hors 0
  exact ha.level ho (Node.ne_nil_of_templatesOf hands) (Node.ne_nil_of_templatesOf hors)

/-- The text of a tree is empty only when the tree is, and has the values of all of its conditions. -/
structure Kept (g : Group) (b : BoundText) : Prop where
  empty : b.sql = [] ↔ g.isEmpty
  params : b.params = g.values

theorem Kept.params_eq_nil {b : BoundText} (h : g.Kept b) (hempty : b.sql = []) : b.params = [] := by
  rw [h.params, values_eq_nil (h.empty.1 hempty)]

theorem compile_kept (h : ∀ c ∈ g.leaves, c.Shown ctx) {o : Int} {b : BoundText}
    (hb : g.compile ctx o = .ok b) : g.Kept b := by
  rw [compile_eq] at hb
  obtain ⟨T, hT, rfl⟩ := Outcome.map_eq_ok.1 hb
  have hshows := template_shows h hT
  refine ⟨?_, hshows.values⟩
  have hsql : T.number o = [] ↔ T = [] := by
    rw [← List.isEmpty_iff, Template.number_isEmpty, List.isEmpty_iff]
  have hempty : g.inText = [] ↔ g.isEmpty := Node.inText_eq_nil_iff (.group .and g.nodes) 0
  exact hsql.trans (hshows.empty.trans hempty)

/-- Trees that calls make, with the calls for single conditions that were accepted on the way at any
depth. -/
inductive Made (limit : Int) : Group → List Filter → Prop where
  | empty (conjunction : Conjunction) : Made limit { conjunction } []
  | add {g g' : Group} {fs : List Filter} {f : Filter} (h : Made limit g fs)
    (hf : g.add limit f = .ok g') : Made limit g' (fs ++ f.basics)

theorem Made.forall₂_makes {limit : Int} {fs : List Filter} (h : g.Made limit fs) :
    List.Forall₂ (Filter.Makes limit) fs g.leaves := by
  induction h with
  | empty => exact .nil
  | @add g g' fs f h hf ih =>
    obtain ⟨added, hadded, rfl⟩ := Outcome.map_eq_ok.1 hf
    have hmakes := Filter.forall₂_makes f added hadded
    cases added with
    | none =>
      have hnone : f.basics = [] := List.forall₂_nil_right_iff.1 hmakes
      simpa [hnone] using ih
    | some n =>
      rw [leaves_push]
      exact List.rel_append ih (by simpa [Node.leavesOf] using hmakes)

theorem Made.shown {limit : Int} {fs : List Filter} (h : g.Made limit fs) (ctx : Context) :
    ∀ c ∈ g.leaves, c.Shown ctx := by
  intro c hc
  obtain ⟨f, -, hf⟩ := Filter.exists_makes_of_mem h.forall₂_makes hc
  exact hf.shown ctx

theorem Made.isEmpty_iff {limit : Int} {fs : List Filter} (h : g.Made limit fs) :
    g.isEmpty ↔ fs = [] := by
  rw [Group.isEmpty_iff, ← List.length_eq_zero_iff, ← h.forall₂_makes.length_eq,
    List.length_eq_zero_iff]

end Group

end BoundSql
