import BoundSql.Proofs.Meaning
import BoundSql.Proofs.Reachable
import BoundSql.Proofs.TestReading
/-!
The text of a tree of conditions is read as the tree is meant. Each node is written as an operand, so
the AND nodes of a level make up one conjunction and the level is a list of alternatives.
-/

namespace BoundSql

open Lexeme (keyword)
open Grammar

namespace Expr

def Shows (ctx : Context) (e : Expr) (cs : List (Condition × Nat)) : Prop :=
  List.Forall₂ (fun ls p => ∃ (o : Int) (t : BoundText), p.1.compile ctx o = .ok t ∧
    lexemes t.sql = ls) e.leaves cs

theorem leaves_ne_nil (e : Expr) : e.leaves ≠ [] := by
  induction e with
  | leaf ls => simp [leaves]
  | enclosed e ih => exact ih
  | and a b iha ihb | or a b iha ihb => simp [leaves, iha]

end Expr

namespace Grammar

theorem Chained.ne_nil {l : Level} {e : Expr} {ls : List Lexeme} (h : Chained l e ls) :
    ls ≠ [] := by
  induction h with
  | leaf h =>
    obtain ⟨w, ms, rfl⟩ := h.eq_word
    exact List.cons_ne_nil _ _
  | enclosed h ih => exact List.cons_ne_nil _ _
  | factor h ih | term h ih => exact ih
  | and ha hb iha ihb | or ha hb iha ihb => simp

end Grammar

/-- A text is read as one expression, which shows the given conditions and is true when the given
function says so. -/
def ReadAs (ctx : Context) (l : Level) (t : Text) (cs : List (Condition × Nat))
    (v : (Nat → Bool) → Bool) : Prop :=
  ∃ e ls, Lexes t ls ∧ Chained l e ls ∧ e.Shows ctx cs ∧ ∀ ν, e.truth (cs.map fun p => ν p.2) = v ν

namespace ReadAs

variable {ctx : Context} {l : Level} {t u : Text} {cs ds : List (Condition × Nat)}
  {v w : (Nat → Bool) → Bool}

theorem text_ne_nil (h : ReadAs ctx l t cs v) : t ≠ [] := by
  obtain ⟨e, ls, hl, hc, -, -⟩ := h
  rintro rfl
  exact hc.ne_nil hl.read.symm

theorem template_ne_nil {o : Int} {T : Template} (h : ReadAs ctx l (Template.number o T) cs v) :
    T ≠ [] := by
  rintro rfl
  exact h.text_ne_nil rfl

theorem shown_ne_nil (h : ReadAs ctx l t cs v) : cs ≠ [] := by
  obtain ⟨e, ls, -, -, hs, -⟩ := h
  rintro rfl
  exact e.leaves_ne_nil (List.forall₂_nil_right_iff.1 hs)

theorem congr (h : ReadAs ctx l t cs v) (hv : ∀ ν, v ν = w ν) : ReadAs ctx l t cs w := by
  have hvw : v = w := funext hv
  rwa [← hvw]

theorem enclosed (h : ReadAs ctx .alternatives t cs v) :
    ReadAs ctx .operand ('(' :: t ++ [')']) cs v := by
  obtain ⟨e, ls, hl, hc, hs, hv⟩ := h
  have hlexes := Lexes.nil.marked (d := '(') rfl (hl.marked (d := ')') rfl .nil)
  refine ⟨.enclosed e, _, ?_, .enclosed hc, hs, hv⟩
  simpa using hlexes

theorem factor (h : ReadAs ctx .operand t cs v) : ReadAs ctx .conjunction t cs v := by
  obtain ⟨e, ls, hl, hc, hs, hv⟩ := h
  exact ⟨e, ls, hl, .factor hc, hs, hv⟩

theorem term (h : ReadAs ctx .conjunction t cs v) : ReadAs ctx .alternatives t cs v := by
  obtain ⟨e, ls, hl, hc, hs, hv⟩ := h
  exact ⟨e, ls, hl, .term hc, hs, hv⟩

theorem lexes_joined {ls ms : List Lexeme} (ht : Lexes t ls) (hu : Lexes u ms) {s : Text}
    {word : String} (hs : s = ' ' :: (word.toList ++ [' '])) (hword : Lexes word.toList [keyword word]) :
    Lexes (t ++ s ++ u) (ls ++ keyword word :: ms) := by
  have h := ht.blank (hword.blank hu)
  rw [hs]
  simpa using h

theorem length_map_eq {e : Expr} (hs : e.Shows ctx cs) (ν : Nat → Bool) :
    (cs.map fun p => ν p.2).length = e.leaves.length := by
  rw [List.length_map]
  exact hs.length_eq.symm

theorem and (h : ReadAs ctx .operand t cs v) (h' : ReadAs ctx .conjunction u ds w) :
    ReadAs ctx .conjunction (t ++ " AND ".toList ++ u) (cs ++ ds) (fun ν => v ν && w ν) := by
  obtain ⟨e, ls, hl, hc, hs, hv⟩ := h
  obtain ⟨e', ls', hl', hc', hs', hv'⟩ := h'
  have hword : Lexes "AND".toList [keyword "AND"] := ⟨by rfl, by rfl⟩
  refine ⟨.and e e', _, lexes_joined hl hl' (by rfl) hword, .and hc hc', List.rel_append hs hs',
    fun ν => ?_⟩
  rw [List.map_append, Expr.truth_and e e' (length_map_eq hs ν), hv, hv']

theorem or (h : ReadAs ctx .conjunction t cs v) (h' : ReadAs ctx .alternatives u ds w) :
    ReadAs ctx .alternatives (t ++ " OR ".toList ++ u) (cs ++ ds) (fun ν => v ν || w ν) := by
  obtain ⟨e, ls, hl, hc, hs, hv⟩ := h
  obtain ⟨e', ls', hl', hc', hs', hv'⟩ := h'
  have hword : Lexes "OR".toList [keyword "OR"] := ⟨by rfl, by rfl⟩
  refine ⟨.or e e', _, lexes_joined hl hl' (by rfl) hword, .or hc hc', List.rel_append hs hs',
    fun ν => ?_⟩
  rw [List.map_append, Expr.truth_or e e' (length_map_eq hs ν), hv, hv']

theorem test {c : Condition} {T : Template} {ls : List Lexeme} (hT : c.template ctx = .ok T)
    {o : Int} (hl : Lexes (T.number o) ls) (h : IsLeaf ls) (i : Nat) :
    ReadAs ctx .operand (T.number o) [(c, i)] (fun ν => ν i) := by
  refine ⟨.leaf ls, ls, hl, .leaf h, .cons ⟨o, T.numbered o, ?_, hl.read⟩ .nil, fun ν => rfl⟩
  rw [Condition.compile_eq, hT]
  rfl

end ReadAs

inductive Operands (ctx : Context) :
    Int → List Template → List (Condition × Nat) → ((Nat → Bool) → List Bool) → Prop where
  | nil {o : Int} : Operands ctx o [] [] (fun _ => [])
  | cons {o : Int} {T : Template} {Ts : List Template} {cs ds : List (Condition × Nat)}
    {v : (Nat → Bool) → Bool} {vs : (Nat → Bool) → List Bool}
    (h : ReadAs ctx .operand (Template.number o T) cs v)
    (hs : Operands ctx (o + (Template.values T).length) Ts ds vs) :
    Operands ctx o (T :: Ts) (cs ++ ds) (fun ν => v ν :: vs ν)

namespace Operands

variable {ctx : Context} {o : Int} {Ts Us : List Template} {cs ds : List (Condition × Nat)}
  {vs ws : (Nat → Bool) → List Bool}

theorem eq_nil (h : Operands ctx o [] cs vs) : cs = [] ∧ ∀ ν, vs ν = [] := by
  cases h
  exact ⟨rfl, fun _ => rfl⟩

theorem isEmpty_eq (h : Operands ctx o Ts cs vs) (ν : Nat → Bool) :
    (vs ν).isEmpty = Ts.isEmpty := by
  cases h <;> rfl

theorem conjunction (h : Operands ctx o Ts cs vs) (hne : Ts ≠ []) :
    ReadAs ctx .conjunction (Template.number o (Template.join " AND ".toList Ts)) cs
      (fun ν => (vs ν).all id) := by
  induction h with
  | nil => exact absurd rfl hne
  | @cons o T Ts cs ds v vs h hs ih =>
    cases Ts with
    | nil =>
      obtain ⟨rfl, hvs⟩ := hs.eq_nil
      rw [List.append_nil]
      exact h.factor.congr fun ν => by simp [hvs]
    | cons U Us =>
      have hrest := ih (List.cons_ne_nil _ _)
      have hall := h.and hrest
      simpa [Template.join] using hall

theorem alternatives (h : Operands ctx o Ts cs vs) (hne : Ts ≠ []) :
    ReadAs ctx .alternatives (Template.number o (Template.join " OR ".toList Ts)) cs
      (fun ν => (vs ν).any id) := by
  induction h with
  | nil => exact absurd rfl hne
  | @cons o T Ts cs ds v vs h hs ih =>
    cases Ts with
    | nil =>
      obtain ⟨rfl, hvs⟩ := hs.eq_nil
      rw [List.append_nil]
      exact h.factor.term.congr fun ν => by simp [hvs]
    | cons U Us =>
      have hrest := ih (List.cons_ne_nil _ _)
      have hall := h.factor.or hrest
      simpa [Template.join] using hall

theorem both (ha : Operands ctx o Ts cs vs) (hTs : Ts ≠ [])
    (ho : Operands ctx (o + (Ts.flatMap Template.values).length) Us ds ws) (hUs : Us ≠ []) :
    ReadAs ctx .alternatives (Template.number o (Template.level Ts Us)) (cs ++ ds)
      (fun ν => (vs ν).all id || (ws ν).any id) := by
  have hands := ha.conjunction hTs
  have hall := hands.or (ho.alternatives hUs)
  have hvalues := Template.values_join Ts " AND ".toList
  unfold Template.level
  generalize Template.join " AND ".toList Ts = first at hands hall hvalues ⊢
  have hfirst := hands.template_ne_nil
  cases Us with
  | nil => exact absurd rfl hUs
  | cons U Us =>
    simpa [hfirst, Template.join, hvalues] using hall

theorem level (ha : Operands ctx o Ts cs vs)
    (ho : Operands ctx (o + (Ts.flatMap Template.values).length) Us ds ws)
    (hne : Ts ≠ [] ∨ Us ≠ []) :
    ReadAs ctx .alternatives (Template.number o (Template.level Ts Us)) (cs ++ ds)
      (fun ν => levelTruth (vs ν) (ws ν)) := by
  by_cases hTs : Ts = []
  · have hUs : Us ≠ [] := hne.resolve_left (not_not_intro hTs)
    subst hTs
    obtain ⟨rfl, hvs⟩ := ha.eq_nil
    have hlevel : Template.level [] Us = Template.join " OR ".toList Us := by
      simp [Template.level, Template.join, hUs]
    have hors := ho.alternatives hUs
    rw [hlevel, List.nil_append]
    simp only [List.flatMap_nil, List.length_nil, Int.natCast_zero, Int.add_zero] at hors
    exact hors.congr fun ν => by simp [levelTruth, hvs]
  · have hands : ∀ ν, (vs ν).isEmpty = false := by
      intro ν
      rw [ha.isEmpty_eq]
      simpa using hTs
    by_cases hUs : Us = []
    · subst hUs
      obtain ⟨rfl, hws⟩ := ho.eq_nil
      have hlevel : Template.level Ts [] = Template.join " AND ".toList Ts := rfl
      rw [hlevel, List.append_nil]
      exact (ha.conjunction hTs).term.congr fun ν => by simp [levelTruth, hands, hws]
    · exact (ha.both hTs ho hUs).congr fun ν => by simp [levelTruth, hands]

end Operands

namespace Node

variable {ctx : Context}

theorem level_reading {nodes : List Node} {Ts Us : List Template}
    (ha : ∀ i o, Operands ctx o Ts (inTextOf .and i nodes) (fun ν => truthsOf ν .and i nodes))
    (ho : ∀ i o, Operands ctx o Us (inTextOf .or i nodes) (fun ν => truthsOf ν .or i nodes)) :
    (Template.level Ts Us = [] ∧ allEmpty nodes) ∨
      ∀ i o, ReadAs ctx .alternatives (Template.number o (Template.level Ts Us))
        (inTextOf .and i nodes ++ inTextOf .or i nodes)
        (fun ν => levelTruth (truthsOf ν .and i nodes) (truthsOf ν .or i nodes)) := by
  by_cases hne : Ts ≠ [] ∨ Us ≠ []
  · exact .inr fun i o => (ha i o).level (ho i _) hne
  · left
    simp only [not_or, not_not] at hne
    obtain ⟨rfl, rfl⟩ := hne
    have hempty : (group .and nodes).inText 0 = [] := by
      rw [inText, (ha 0 0).eq_nil.1, (ho 0 0).eq_nil.1]
      rfl
    exact ⟨rfl, (inText_eq_nil_iff _ 0).1 hempty⟩

mutual

theorem template_reading :
    (n : Node) → (∀ c ∈ n.leaves, c.IsPlain ctx) → ∃ T, n.template ctx = .ok T ∧
      ((T = [] ∧ n.isEmpty) ∨
        ∀ i o, ReadAs ctx .operand (Template.number o T) (n.inText i) (fun ν => n.holds ν i))
  | leaf c, h => by
    obtain ⟨T, hT, hread⟩ := (h c (by simp [leaves])).isTest
    refine ⟨T, hT, .inr fun i o => ?_⟩
    obtain ⟨ls, hl, hleaf⟩ := hread o
    exact .test hT hl hleaf i
  | group _ nodes, h => by
    obtain ⟨ands, hands, ha⟩ := templatesOf_reading nodes h .and
    obtain ⟨ors, hors, ho⟩ := templatesOf_reading nodes h .or
    refine ⟨(Template.level ands ors).enclose, by simp only [template, hands, hors]; rfl, ?_⟩
    rcases level_reading ha ho with ⟨hlevel, hempty⟩ | hsaid
    · exact .inl ⟨by rw [hlevel]; rfl, hempty⟩
    · refine .inr fun i o => ?_
      have hne := (hsaid 0 0).template_ne_nil
      have henclosed := (hsaid i o).enclosed
      simpa [Template.enclose, hne, inText, holds] using henclosed

theorem templatesOf_reading :
    (ns : List Node) → (∀ c ∈ leavesOf ns, c.IsPlain ctx) → ∀ conjunction, ∃ Ts,
      templatesOf ctx conjunction ns = .ok Ts ∧ ∀ i o, Operands ctx o Ts
        (inTextOf conjunction i ns) (fun ν => truthsOf ν conjunction i ns)
  | [], _, _ => ⟨[], rfl, fun _ _ => .nil⟩
  | n :: ns, h, conjunction => by
    have hn : ∀ c ∈ n.leaves, c.IsPlain ctx := fun c hc => h c (by simp [leavesOf, hc])
    have hns : ∀ c ∈ leavesOf ns, c.IsPlain ctx := fun c hc => h c (by simp [leavesOf, hc])
    obtain ⟨Ts, hTs, hrest⟩ := templatesOf_reading ns hns conjunction
    by_cases hc : n.conjunction = conjunction
    · obtain ⟨T, hT, hread⟩ := template_reading n hn
      rcases hread with ⟨rfl, hempty⟩ | hsaid
      · -- nothing is written, and nothing is asked for
        refine ⟨Ts, by simp [templatesOf, hc, hT, hTs, Except.bind, Except.map], fun i o => ?_⟩
        have hnil := (inText_eq_nil_iff n i).2 hempty
        simpa [inTextOf, truthsOf, hc, hempty, hnil] using hrest (i + n.leaves.length) o
      · have hne := (hsaid 0 0).template_ne_nil
        have hempty : n.isEmpty = false := by
          rw [Bool.eq_false_iff]
          intro he
          exact (hsaid 0 0).shown_ne_nil ((inText_eq_nil_iff n 0).2 he)
        refine ⟨T :: Ts, by simp [templatesOf, hc, hT, hTs, hne, Except.bind, Except.map],
          fun i o => ?_⟩
        have hall := Operands.cons (hsaid i o) (hrest (i + n.leaves.length) _)
        simpa [inTextOf, truthsOf, hc, hempty] using hall
    · refine ⟨Ts, by simp [templatesOf, hc, hTs], fun i o => ?_⟩
      simpa [inTextOf, truthsOf, hc] using hrest (i + n.leaves.length) o

end

end Node

namespace Group

variable {ctx : Context} {g : Group}

/-- How a text is read that says what a tree of conditions means. -/
structure SaidBy (ctx : Context) (g : Group) (t : Text) : Prop where
  once : g.inText.Perm g.leaves.zipIdx
  empty : g.isEmpty → t = []
  readable : ¬ g.isEmpty → ∃ e, Reads .alternatives e (lexemes t)
  unique : ∀ d e, Reads .alternatives d (lexemes t) → Reads .alternatives e (lexemes t) →
    Expr.Regroups d e
  meaning : ∀ e, Reads .alternatives e (lexemes t) →
    e.Shows ctx g.inText ∧ ∀ ν, e.truth (g.inText.map fun p => ν p.2) = g.holds ν

theorem saidBy_of_readAs {t : Text}
    (h : ReadAs ctx .alternatives t g.inText (fun ν => g.holds ν)) : g.SaidBy ctx t := by
  have hne := h.shown_ne_nil
  obtain ⟨e, ls, hl, hc, hs, hv⟩ := h
  rw [← hl.read] at hc
  refine ⟨Node.inTextOf_perm g.nodes 0, fun hempty => ?_, fun _ => ⟨e, hc.reads⟩,
    fun d d' hd hd' => hd.regroups hd', fun d hd => ?_⟩
  · exact absurd ((Node.inText_eq_nil_iff (.group .and g.nodes) 0).2 hempty) hne
  · have hr := hd.regroups hc.reads
    refine ⟨?_, fun ν => ?_⟩
    · rw [Expr.Shows, hr.leaves]
      exact hs
    · rw [hr.truth, hv]

theorem saidBy_nil (h : g.isEmpty) : g.SaidBy ctx [] := by
  have hno : ∀ e, ¬ Reads .alternatives e (lexemes []) := by
    intro e he
    obtain ⟨c, hc, -⟩ := he.exists_chained
    exact hc.ne_nil rfl
  exact ⟨Node.inTextOf_perm g.nodes 0, fun _ => rfl, fun hne => absurd h hne,
    fun d _ hd => absurd hd (hno d), fun e he => absurd he (hno e)⟩

/-- A tree of tests has a text, and the text is read as the tree is meant. -/
theorem compile_saidBy (h : ∀ c ∈ g.leaves, c.IsPlain ctx) (o : Int) :
    ∃ b, g.compile ctx o = .ok b ∧ g.SaidBy ctx b.sql := by
  obtain ⟨ands, hands, ha⟩ := Node.templatesOf_reading g.nodes h .and
  obtain ⟨ors, hors, ho⟩ := Node.templatesOf_reading g.nodes h .or
  refine ⟨(Template.level ands ors).numbered o, ?_, ?_⟩
  · rw [compile_eq]
    simp only [template, hands, hors]
    rfl
  · rcases Node.level_reading ha ho with ⟨hlevel, hempty⟩ | hsaid
    · rw [hlevel]
      exact saidBy_nil hempty
    · exact saidBy_of_readAs (hsaid 0 o)

theorem compileWithin_eq_ok {limit : Nat} {o : Int} {b : BoundText}
    (h : g.compileWithin limit ctx o = .ok b) : g.compile ctx o = .ok b := by
  obtain ⟨b', hb, h⟩ := Outcome.bind_eq_ok.1 h
  split at h
  · cases h
    exact hb
  · cases h

/-- The conditions after calls, of which the refused ones add none. -/
def addAll (limit : Int) (g : Group) : List Filter → Group
  | [] => g
  | f :: fs =>
    match g.add limit f with
    | .ok g' => g'.addAll limit fs
    | .error _ => g.addAll limit fs

theorem isPlain_of_makes {f : Filter} (hraw : f.isRaw = false) {c : Condition}
    (h : f.Makes ctx.limit c) : c.IsPlain ctx := by
  rcases h.cases with ⟨_, _, _, _, hm⟩ | ⟨_, _, _, _, _, hm⟩ | ⟨hr, -⟩
  · obtain ⟨hop, hmade⟩ := Condition.make_wellMade hm
    exact .test hop hmade
  · obtain ⟨q, hq, rfl, -⟩ := Condition.makeBetween_eq_ok hm
    exact .range hq _ _ _ _
  · rw [hraw] at hr
    cases hr

theorem add_isPlain {f : Filter} (hf : ∀ h ∈ f.basics, h.isRaw = false)
    (hg : ∀ c ∈ g.leaves, c.IsPlain ctx) {g' : Group} (h : g.add ctx.limit f = .ok g') :
    ∀ c ∈ g'.leaves, c.IsPlain ctx := by
  obtain ⟨added, hadded, rfl⟩ := Outcome.map_eq_ok.1 h
  cases added with
  | none => exact hg
  | some n =>
    intro c hc
    rcases List.mem_append.1 (leaves_push g n ▸ hc) with hm | hm
    · exact hg c hm
    · obtain ⟨basic, hbasic, hmakes⟩ := Filter.makes_of_mem_leaves hadded hm
      exact isPlain_of_makes (hf basic hbasic) hmakes

theorem addAll_isPlain (fs : List Filter) (hfs : ∀ f ∈ Filter.basicsOf fs, f.isRaw = false)
    (hg : ∀ c ∈ g.leaves, c.IsPlain ctx) :
    ∀ c ∈ (g.addAll ctx.limit fs).leaves, c.IsPlain ctx := by
  induction fs generalizing g with
  | nil => exact hg
  | cons f fs ih =>
    have hf : ∀ h ∈ f.basics, h.isRaw = false := fun h hh => hfs h (by simp [Filter.basicsOf, hh])
    have hrest : ∀ h ∈ Filter.basicsOf fs, h.isRaw = false := fun h hh =>
      hfs h (by simp [Filter.basicsOf, hh])
    unfold addAll
    split
    · rename_i g' hg'
      exact ih hrest (add_isPlain hf hg hg')
    · exact ih hrest hg

/-- Conditions that were added without a fragment of the caller's have a text, whatever the calls
were and whatever number it starts at, and the text is read as they are meant. So is the text that is
made where numbers must not be too long, if there is one. -/
theorem addAll_saidBy (ctx : Context) (o : Int) (fs : List Filter)
    (h : ∀ f ∈ Filter.basicsOf fs, f.isRaw = false) :
    (∃ b, (addAll ctx.limit {} fs).compile ctx o = .ok b ∧
      (addAll ctx.limit {} fs).SaidBy ctx b.sql) ∧
    ∀ limit b, (addAll ctx.limit {} fs).compileWithin limit ctx o = .ok b →
      (addAll ctx.limit {} fs).SaidBy ctx b.sql := by
  have hempty : ∀ c ∈ ({} : Group).leaves, c.IsPlain ctx := fun _ hc => absurd hc List.not_mem_nil
  obtain ⟨b, hb, hsaid⟩ := compile_saidBy (addAll_isPlain fs h hempty) o
  refine ⟨⟨b, hb, hsaid⟩, fun limit b' hb' => ?_⟩
  rw [compileWithin_eq_ok hb'] at hb
  cases hb
  exact hsaid

def mixedCalls : List Filter :=
  [.compare .or .isNull (.text "a") .null, .nested .and [],
    .compare .and .among (.text "b") (.list [.int 1, .int 2]),
    .nested .and [.between .and false (.text "c") (.int 3) (.int 4),
      .compare .or .ilike (.text "d") (.text "x")]]

theorem addAll_saidBy_mixedCalls :
    (∀ f ∈ Filter.basicsOf mixedCalls, f.isRaw = false) ∧
      ∃ b, (addAll 128 {} mixedCalls).compile { dialect := .sqlite, limit := 128 } 5 = .ok b ∧
        (addAll 128 {} mixedCalls).SaidBy { dialect := .sqlite, limit := 128 } b.sql :=
  have h : ∀ f ∈ Filter.basicsOf mixedCalls, f.isRaw = false := by
    simp [mixedCalls, Filter.basicsOf, Filter.basics, Filter.isRaw]
  ⟨h, (addAll_saidBy { dialect := .sqlite, limit := 128 } 5 mixedCalls h).1⟩

end Group

end BoundSql
