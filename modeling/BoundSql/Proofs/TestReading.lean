import BoundSql.Proofs.Grammar
import BoundSql.Proofs.MadeCondition
/-!
How single conditions are read. Every condition that was not written by the caller is one test, in
both dialects and whatever the numbers of its slots are.
-/

namespace BoundSql

open Lexeme (keyword)
open Grammar

namespace Operator

def isComparison : Operator → Bool
  | isNull | isNotNull | among | notAmong | raw => false
  | _ => true

theorem lexes_comparison {operator : Operator} (h : operator.isComparison) :
    ∃ os ∈ comparators, Lexes operator.symbol.toList os := by
  cases operator with
  | isNull | isNotNull | among | notAmong | raw => cases h
  | _ => exact ⟨lexemes _, by decide, rfl, rfl⟩

end Operator

namespace Identifier

theorem IsQuoted.isName {q : Text} (h : IsQuoted q) : IsName q :=
  h.head?

end Identifier

namespace Placeholder

theorem slotText_isSlot (n : Int) : IsSlot (slotText n) :=
  rfl

theorem lexes_betweenWords (negated : Bool) (o : Int) :
    ∃ t, numberMarkers o (Condition.betweenWords negated) = ' ' :: t ∧ ∃ os ∈ ranges,
      Lexes t (os ++ [.word (slotText (o + 1)), keyword "AND", .word (slotText (o + 1 + 1))]) := by
  have hand : Lexes "AND".toList [keyword "AND"] := ⟨by rfl, by rfl⟩
  have hends := (Lexes.slotText (o + 1)).blank (hand.blank (Lexes.slotText (o + 1 + 1)))
  cases negated with
  | false =>
    have hword : Lexes "BETWEEN".toList [keyword "BETWEEN"] := ⟨by rfl, by rfl⟩
    refine ⟨_, ?_, _, by decide, hword.blank hends⟩
    rw [← List.append_nil (slotText (o + 1 + 1))]
    rfl
  | true =>
    have hword : Lexes "NOT BETWEEN".toList [keyword "NOT", keyword "BETWEEN"] := ⟨by rfl, by rfl⟩
    refine ⟨_, ?_, _, by decide, hword.blank hends⟩
    rw [← List.append_nil (slotText (o + 1 + 1))]
    rfl

end Placeholder

theorem lexes_slotTexts (o : Int) (n : Nat) :
    ∃ ls, Lexes (joinWith [',', ' '] (slotTexts o (n + 1))) ls ∧ IsSlots ls := by
  induction n generalizing o with
  | zero => exact ⟨_, Lexes.slotText (o + 1), .one (Placeholder.slotText_isSlot _)⟩
  | succ n ih =>
    obtain ⟨ls, hls, hslots⟩ := ih (o + 1)
    refine ⟨_, ?_, .more (Placeholder.slotText_isSlot (o + 1)) hslots⟩
    have hrest := (Lexes.nil.blank hls)
    have h := (Lexes.slotText (o + 1)).marked (d := ',') rfl hrest
    simpa [slotTexts, joinWith] using h

namespace Condition

variable {ctx : Context} {c : Condition}

/-- What is known of a condition that the caller did not write: it has a column and an operator of
its own, or it is a range. -/
inductive IsPlain (ctx : Context) : Condition → Prop where
  | test {c : Condition} (hop : c.operator ≠ .raw) (h : c.WellMade ctx.limit) : IsPlain ctx c
  | range {q : Text} (hq : Identifier.IsQuoted q) (conjunction : Conjunction) (negated : Bool)
    (low high : Value) :
    IsPlain ctx { conjunction, column := String.ofList (q ++ betweenWords negated),
                  operator := .raw, value := .list [low, high] }

def IsTest (ctx : Context) (c : Condition) : Prop :=
  ∃ T, c.template ctx = .ok T ∧ ∀ o : Int, ∃ ls, Lexes (T.number o) ls ∧ IsLeaf ls

theorem null_isTest {q : Text} (hq : ctx.quote c.column = .ok q)
    (hop : c.operator = .isNull ∨ c.operator = .isNotNull) : c.IsTest ctx := by
  have hquoted := Context.quote_isQuoted hq
  have hsymbol : ∃ os ∈ nullTests, Lexes c.operator.symbol.toList os := by
    rcases hop with h | h <;> rw [h] <;> exact ⟨lexemes _, by decide, rfl, rfl⟩
  obtain ⟨os, hos, hlexes⟩ := hsymbol
  refine ⟨Template.ofText (q ++ ' ' :: c.operator.symbol.toList), ?_, fun o => ?_⟩
  · rcases hop with h | h <;> simp [template, nullTemplate, h, hq, bind, Except.bind, pure, Except.pure]
  · rw [Template.number_ofText]
    exact ⟨_, (Lexes.quoted hquoted).blank hlexes, .null hquoted.isName hos⟩

theorem template_of_membership (hop : c.operator = .among ∨ c.operator = .notAmong) :
    c.template ctx = c.membershipTemplate ctx := by
  rcases hop with h | h <;> simp only [template, h]

theorem constant_isTest (hvs : c.value = .list [])
    (hop : c.operator = .among ∨ c.operator = .notAmong) : c.IsTest ctx := by
  have hconstant : ∃ os ∈ constants,
      Lexes (if c.operator = .among then "1 = 0" else "1 = 1").toList os := by
    rcases hop with h | h <;> rw [h] <;> exact ⟨lexemes _, by decide, rfl, rfl⟩
  obtain ⟨os, hos, hlexes⟩ := hconstant
  refine ⟨Template.ofText (if c.operator = .among then "1 = 0" else "1 = 1").toList, ?_,
    fun o => ⟨os, ?_, .constant hos⟩⟩
  · rw [template_of_membership hop]
    simp only [membershipTemplate, hvs]
    rfl
  · rw [Template.number_ofText]
    exact hlexes

theorem membership_isTest {q : Text} (hq : ctx.quote c.column = .ok q) {v : Value}
    {vs : List Value} (hvs : c.value = .list (v :: vs))
    (hop : c.operator = .among ∨ c.operator = .notAmong) : c.IsTest ctx := by
  have hquoted := Context.quote_isQuoted hq
  have hsymbol : ∃ os ∈ memberships, Lexes c.operator.symbol.toList os := by
    rcases hop with h | h <;> rw [h] <;> exact ⟨lexemes _, by decide, rfl, rfl⟩
  obtain ⟨os, hos, hlexes⟩ := hsymbol
  refine ⟨Template.ofText (q ++ ' ' :: c.operator.symbol.toList ++ " (".toList) ++
      Template.join [',', ' '] (Template.each (v :: vs)) ++ Template.ofText [')'], ?_, fun o => ?_⟩
  · rw [template_of_membership hop]
    simp only [membershipTemplate, hvs, hq]
    rfl
  · obtain ⟨ls, hls, hslots⟩ := lexes_slotTexts o vs.length
    have hlist := Lexes.nil.marked (d := '(') rfl (hls.marked (d := ')') rfl .nil)
    have hall := (Lexes.quoted hquoted).blank (hlexes.blank hlist)
    refine ⟨_, ?_, .membership hquoted.isName hos hslots⟩
    simpa using hall

theorem members_isTest {q : Text} (hq : ctx.quote c.column = .ok q) {vs : List Value}
    (hvs : c.value = .list vs) (hop : c.operator = .among ∨ c.operator = .notAmong) :
    c.IsTest ctx := by
  cases vs with
  | nil => exact constant_isTest hvs hop
  | cons v vs => exact membership_isTest hq hvs hop

theorem lexes_loweredWord {word : String} (h : word ∈ [") LIKE LOWER(", ") NOT LIKE LOWER("]) :
    ∃ m, word.toList = ')' :: (m ++ ['(']) ∧
      ∃ os ∈ patterns, Lexes m (os ++ [keyword "LOWER"]) := by
  simp only [List.mem_cons, List.not_mem_nil, or_false] at h
  rcases h with rfl | rfl
  · exact ⟨" LIKE LOWER".toList, by rfl, [keyword "LIKE"], by decide, by rfl, by rfl⟩
  · exact ⟨" NOT LIKE LOWER".toList, by rfl, [keyword "NOT", keyword "LIKE"], by decide, by rfl,
      by rfl⟩

theorem lexes_lowered {q m s : Text} {os : List Lexeme} (hq : Lexes q [.word q])
    (hm : Lexes m (os ++ [keyword "LOWER"])) (hs : Lexes s [.word s]) :
    Lexes ("LOWER(".toList ++ q ++ ')' :: (m ++ ['(']) ++ s ++ [')'])
      (keyword "LOWER" :: .opening :: .word q :: .closing ::
        (os ++ [keyword "LOWER", .opening, .word s, .closing])) := by
  have hword : Lexes "LOWER".toList [keyword "LOWER"] := ⟨by rfl, by rfl⟩
  have hright := hm.marked (d := '(') rfl (hs.marked (d := ')') rfl .nil)
  have hall := hword.marked (d := '(') rfl (hq.marked (d := ')') rfl hright)
  have htext : "LOWER(".toList = "LOWER".toList ++ ['('] := rfl
  rw [htext]
  generalize "LOWER".toList = word at hall ⊢
  simpa using hall

theorem comparison_isTest {q : Text} (hq : ctx.quote c.column = .ok q)
    (hop : c.operator.isComparison) : c.IsTest ctx := by
  have hquoted := Context.quote_isQuoted hq
  have htemplate : c.template ctx = c.comparisonTemplate ctx := by
    unfold template
    cases ho : c.operator with
    | isNull | isNotNull | among | notAmong | raw =>
      rw [ho] at hop
      cases hop
    | _ => rfl
  refine ⟨Template.ofText (ctx.dialect.comparisonFrame q c.operator).1 ++
      .value c.value :: Template.ofText (ctx.dialect.comparisonFrame q c.operator).2, ?_, fun o => ?_⟩
  · rw [htemplate]
    simp only [comparisonTemplate, hq]
    rfl
  · have hslot := Lexes.slotText (o + 1)
    rcases ctx.dialect.comparisonFrame_cases q c.operator with ⟨word, hword, hf⟩ | hf
    · obtain ⟨m, hm, os, hos, hlexes⟩ := lexes_loweredWord hword
      have hall := lexes_lowered (Lexes.quoted hquoted) hlexes hslot
      refine ⟨_, ?_, .lowered hquoted.isName hos (Placeholder.slotText_isSlot (o + 1))⟩
      rw [hf, hm]
      simpa using hall
    · obtain ⟨os, hos, hlexes⟩ := Operator.lexes_comparison hop
      have hall := (Lexes.quoted hquoted).blank (hlexes.blank hslot)
      refine ⟨_, ?_, .comparison hquoted.isName hos (Placeholder.slotText_isSlot (o + 1))⟩
      simpa [hf] using hall

theorem range_isTest {q : Text} (hq : Identifier.IsQuoted q) (conjunction : Conjunction)
    (negated : Bool) (low high : Value) :
    IsTest ctx { conjunction, column := String.ofList (q ++ betweenWords negated),
                 operator := .raw, value := .list [low, high] } := by
  have hmarker := hq.marker_not_mem
  have hcount : Placeholder.markerCount (q ++ betweenWords negated) = 2 := by
    rw [Placeholder.markerCount, List.count_append, List.count_eq_zero_of_not_mem hmarker]
    cases negated <;> rfl
  refine ⟨Template.ofFragment (q ++ betweenWords negated) [low, high], ?_, fun o => ?_⟩
  · have hvalues : listOf (.list [low, high]) = .ok [low, high] := rfl
    simp only [template, rawTemplate, hvalues, String.toList_ofList, bind, Except.bind, hcount]
    rfl
  · have hnumbered := Template.ofFragment_numbered o (q ++ betweenWords negated) [low, high] hcount
    have hsql := congrArg BoundText.sql hnumbered
    simp only [Template.numbered] at hsql
    obtain ⟨t, ht, os, hos, hlexes⟩ := Placeholder.lexes_betweenWords negated o
    have hlow := Placeholder.slotText_isSlot (o + 1)
    refine ⟨_, ?_, .range hq.isName hos hlow (Placeholder.slotText_isSlot (o + 1 + 1))⟩
    rw [hsql, Placeholder.numberMarkers_append hmarker, ht]
    exact (Lexes.quoted hq).blank hlexes

theorem IsPlain.isTest (h : c.IsPlain ctx) : c.IsTest ctx := by
  cases h with
  | range hq conjunction negated low high => exact range_isTest hq conjunction negated low high
  | test hop h =>
    obtain ⟨q, hq⟩ := h.column hop
    cases ho : c.operator with
    | isNull => exact null_isTest hq (.inl ho)
    | isNotNull => exact null_isTest hq (.inr ho)
    | among =>
      obtain ⟨vs, hvs⟩ := h.members (by rw [ho]; rfl)
      exact members_isTest hq hvs (.inl ho)
    | notAmong =>
      obtain ⟨vs, hvs⟩ := h.members (by rw [ho]; rfl)
      exact members_isTest hq hvs (.inr ho)
    | raw => exact absurd ho hop
    | _ => exact comparison_isTest hq (by rw [ho]; rfl)

end Condition

end BoundSql
