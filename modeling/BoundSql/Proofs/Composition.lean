import BoundSql.Proofs.ConditionTemplate
/-!
What is kept where templates are put together. Between any two names and values of a statement stands
a blank, a bracket or a comma, so what holds of names, of values and of the words around them, and
goes from two templates to both with such a gap between them, holds of every statement whose caller
kept it in texts of his own.
-/

namespace BoundSql

/-- Characters that nothing is read together with. -/
def isGap (c : Char) : Bool :=
  " (),".toList.contains c

/-- Characters of the words that are put around names and values. -/
def isBare (c : Char) : Bool :=
  isPlain c && c != '"' || c.isDigit

def isLead (w : Text) : Bool :=
  w.all isBare && w.getLast?.any isGap

def isTrail (w : Text) : Bool :=
  w.all isBare && w.head?.any isGap

structure Template.Compositional (p : Template → Prop) : Prop where
  bare : ∀ {w : Text}, w.all isBare → p (ofText w)
  star : p (ofText ['*'])
  quoted : ∀ {q : Text}, Identifier.IsQuoted q → p (ofText q)
  value : ∀ v, p [.value v]
  gap : ∀ {T U c}, isGap c → p T → p U → p (T ++ .char c :: U)

namespace Template.Compositional

variable {p : Template → Prop} {T U : Template} {w : Text} (hp : Compositional p)
include hp

theorem nil : p [] :=
  hp.bare (w := []) rfl

theorem lead (hw : isLead w) (hT : p T) : p (ofText w ++ T) := by
  obtain ⟨hbare, hlast⟩ := Bool.and_eq_true_iff.1 hw
  obtain ⟨c, hc, hgap⟩ := (Option.any_eq_true _ _).1 hlast
  have hfront := List.dropLast_append_getLast? c hc
  rw [← hfront, List.all_append, Bool.and_eq_true] at hbare
  rw [← hfront, ofText_append, List.append_assoc]
  exact hp.gap hgap (hp.bare hbare.1) hT

theorem trail (hw : isTrail w) (hT : p T) : p (T ++ ofText w) := by
  obtain ⟨hbare, hhead⟩ := Bool.and_eq_true_iff.1 hw
  cases w with
  | nil => cases hhead
  | cons c w => exact hp.gap hhead hT (hp.bare (Bool.and_eq_true_iff.1 hbare).2)

theorem between (hlead : isLead w) (htrail : isTrail w) (hT : p T) (hU : p U) :
    p (T ++ ofText w ++ U) := by
  obtain ⟨hbare, hhead⟩ := Bool.and_eq_true_iff.1 htrail
  rw [List.append_assoc]
  cases w with
  | nil => cases hhead
  | cons c w =>
    refine hp.gap hhead hT ?_
    cases w with
    | nil => exact hU
    | cons d w =>
      rw [isLead, List.all_cons, Bool.and_assoc, List.getLast?_cons_cons] at hlead
      exact hp.lead (Bool.and_eq_true_iff.1 hlead).2 hU

theorem enclosed (hT : p T) : p (.char '(' :: T ++ ofText [')']) :=
  hp.trail (by decide) (hp.gap (T := []) (by decide) hp.nil hT)

theorem join {separator : Text} (hlead : isLead separator) (htrail : isTrail separator)
    {Ts : List Template} (h : ∀ T ∈ Ts, p T) : p (join separator Ts) := by
  fun_induction Template.join separator Ts with
  | case1 => exact hp.nil
  | case2 T => exact h T (by simp)
  | case3 T U Ts ih =>
    exact hp.between hlead htrail (h T (by simp)) (ih fun V hV => h V (List.mem_cons_of_mem _ hV))

theorem joinWith {separator : Text} (hlead : isLead separator) (htrail : isTrail separator)
    {ts : List Text} (h : ∀ t ∈ ts, p (.ofText t)) : p (.ofText (joinWith separator ts)) := by
  rw [← join_map_ofText]
  refine hp.join hlead htrail fun T hT => ?_
  obtain ⟨t, ht, rfl⟩ := List.mem_map.1 hT
  exact h t ht

theorem join_each (vs : List Value) : p (Template.join [',', ' '] (each vs)) := by
  refine hp.join (by decide) (by decide) fun T hT => ?_
  obtain ⟨v, -, rfl⟩ := List.mem_map.1 hT
  exact hp.value v

theorem inherited : Inherited p where
  join word hword Ts h := by
    have hbridge : isLead word.toList ∧ isTrail word.toList := by
      simp only [List.mem_cons, List.not_mem_nil, or_false] at hword
      rcases hword with rfl | rfl <;> decide
    exact hp.join hbridge.1 hbridge.2 h
  enclose T h := by
    unfold Template.enclose
    split
    · exact hp.nil
    · exact hp.enclosed h

end Template.Compositional

theorem isPlain_of_isGap {c : Char} (hc : isGap c) : isPlain c := by
  have hgaps : " (),".toList.all isPlain := by decide
  exact List.all_eq_true.1 hgaps c (List.contains_iff_mem.1 hc)

/-- A rule that only looks at neighbours lets anything stand beside a gap. -/
theorem LocalRule.compositional (r : LocalRule) : Template.Compositional r.Obeys where
  bare hw := .tame fun c hc => by
    have hbare := List.all_eq_true.1 hw c hc
    simp only [isBare, Bool.or_eq_true, Bool.and_eq_true] at hbare
    exact hbare.imp_left And.left
  star := .star
  quoted := .quoted
  value := .value
  gap hc := .append_plain_cons (isPlain_of_isGap hc)

/-- Parts of a statement that a caller wrote keep a property with whatever values. -/
def Condition.Keeps (p : Template → Prop) (c : Condition) : Prop :=
  c.operator = .raw → ∀ vs, p (.ofFragment c.column.toList vs)

theorem Operator.symbol_between (operator : Operator) :
    isLead (' ' :: operator.symbol.toList ++ [' ']) ∧
      isTrail (' ' :: operator.symbol.toList ++ [' ']) := by
  cases operator <;> decide

section Conditions

variable {p : Template → Prop} {ctx : Context} {T : Template}

theorem Template.Compositional.comparison (hp : Compositional p) {column : Text}
    (h : Identifier.IsQuoted column) (operator : Operator) (v : Value) :
    p (ofText (ctx.dialect.comparisonFrame column operator).1 ++
      .value v :: ofText (ctx.dialect.comparisonFrame column operator).2) := by
  have hq := hp.quoted h
  rcases ctx.dialect.comparisonFrame_cases column operator with ⟨word, hword, hf⟩ | hf
  · have hbridge : isLead word.toList ∧ isTrail word.toList := by
      simp only [List.mem_cons, List.not_mem_nil, or_false] at hword
      rcases hword with rfl | rfl <;> decide
    have hvalue := hp.trail (w := [')']) (by decide) (hp.value v)
    have hlower := hp.lead (w := "LOWER(".toList) (by decide)
      (hp.between hbridge.1 hbridge.2 hq hvalue)
    rw [hf]
    simpa using hlower
  · have hvalue := hp.between operator.symbol_between.1 operator.symbol_between.2 hq (hp.value v)
    rw [hf]
    simpa using hvalue

theorem Condition.template_keeps (hp : Template.Compositional p) {c : Condition}
    (h : c.template ctx = .ok T) (hc : c.Keeps p) : p T := by
  unfold template at h
  cases hop : c.operator with
  | isNull | isNotNull =>
    simp only [hop, nullTemplate, Outcome.do_eq_ok, Outcome.pure_eq_ok] at h
    obtain ⟨column, hcolumn, rfl⟩ := h
    rw [Template.ofText_append]
    exact hp.trail (by decide) (hp.quoted (Context.quote_isQuoted hcolumn))
  | among | notAmong =>
    simp only [hop, membershipTemplate] at h
    cases hv : c.value with
    | list vs | tuple vs =>
      simp only [hv] at h
      split at h
      · cases h
        exact hp.bare (by decide)
      · simp only [Outcome.do_eq_ok, Outcome.pure_eq_ok] at h
        obtain ⟨column, hcolumn, rfl⟩ := h
        rw [List.append_assoc column, Template.ofText_append]
        exact hp.trail (by decide) (hp.between (by decide) (by decide)
          (hp.quoted (Context.quote_isQuoted hcolumn)) (hp.join_each vs))
    | _ =>
      simp only [hv] at h
      cases h
  | raw =>
    simp only [hop, rawTemplate, Outcome.do_eq_ok] at h
    obtain ⟨vs, -, h⟩ := h
    split at h
    · cases h
      exact hc hop vs
    · cases h
  | _ =>
    simp only [hop, comparisonTemplate, Outcome.do_eq_ok, Outcome.pure_eq_ok] at h
    obtain ⟨column, hcolumn, rfl⟩ := h
    exact hp.comparison (Context.quote_isQuoted hcolumn) _ _

theorem Group.template_keeps (hp : Template.Compositional p) {g : Group}
    (hg : ∀ c ∈ g.leaves, c.Keeps p) (h : g.template ctx = .ok T) : p T :=
  template_inherits hp.inherited (fun c hc _ hU => Condition.template_keeps hp hU (hg c hc)) h

end Conditions

end BoundSql
