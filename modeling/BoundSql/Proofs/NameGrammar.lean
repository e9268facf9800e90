import BoundSql.Proofs.Outcome
import BoundSql.Identifier
import Mathlib.Data.List.Chain
/-!
Which texts are read as quoted names. Besides names in quotes that are put together with single dots,
these are texts with any dots and stars between such names, and texts that end inside of a name. Each
of them is read in one way only.
-/

namespace BoundSql

namespace Identifier

def doubled (w : Text) : Text :=
  w.flatMap fun c => if c = '"' then ['"', '"'] else [c]

@[simp] theorem doubled_nil : doubled [] = [] := rfl

theorem doubled_quote (w : Text) : doubled ('"' :: w) = '"' :: '"' :: doubled w := rfl

theorem doubled_cons {c : Char} (hc : c ≠ '"') (w : Text) : doubled (c :: w) = c :: doubled w := by
  simp [doubled, hc]

theorem doubled_eq_self {w : Text} (h : '"' ∉ w) : doubled w = w := by
  induction w with
  | nil => rfl
  | cons c w ih =>
    obtain ⟨hc, hw⟩ := not_or.1 (mt List.mem_cons.2 h)
    rw [doubled_cons (Ne.symm hc), ih hw]

/-- What a text is made of that is read as a quoted name. -/
inductive Mark where
  | part (w : Text)
  | star
  | dot
  | unclosed (w : Text)
  deriving DecidableEq

namespace Mark

def text : Mark → Text
  | part w => '"' :: doubled w ++ ['"']
  | star => ['*']
  | dot => ['.']
  | unclosed w => '"' :: doubled w

def parts : Mark → List Text
  | part w | unclosed w => [w]
  | star => [['*']]
  | dot => []

/-- Whether two marks beside each other are read apart. A quote behind a part would be one of a pair,
and a part that is not closed goes on to the end. -/
def MayPrecede : Mark → Mark → Bool
  | part _, part _ | part _, unclosed _ | unclosed _, _ => false
  | part _, star | part _, dot | star, _ | dot, _ => true

/-- Parts with single dots between them; the last one may be a star. -/
def areDotted : List Mark → Bool
  | [part _] | [star] => true
  | part _ :: dot :: ms => areDotted ms
  | _ => false

end Mark

open Mark (MayPrecede areDotted)

/-- The marks of which a text is made, none of which is read together with the next one. -/
structure IsReading (q : Text) (ms : List Mark) : Prop where
  apart : ms.IsChain fun m n => MayPrecede m n
  text : ms.flatMap Mark.text = q

def IsQuotedName (q : Text) : Prop :=
  ∃ ms, areDotted ms ∧ ms.flatMap Mark.text = q

theorem partsFrom_doubled (w : Text) : partsFrom true (doubled w) = some (w, []) := by
  induction w with
  | nil => rfl
  | cons c w ih =>
    by_cases hc : c = '"'
    · subst hc
      simp [doubled_quote, partsFrom, ih]
    · simp [doubled_cons hc, partsFrom, hc, ih]

theorem partsFrom_doubled_append (w : Text) {t : Text} {ps : List Text} (ht : t.head? ≠ some '"')
    (h : partsFrom false t = some ([], ps)) :
    partsFrom true (doubled w ++ '"' :: t) = some (w, ps) := by
  induction w with
  | nil =>
    cases t with
    | nil => simpa [partsFrom] using h
    | cons d t =>
      have hd : d ≠ '"' := by simpa using ht
      simpa [partsFrom, hd] using h
  | cons c w ih =>
    by_cases hc : c = '"'
    · subst hc
      simp [doubled_quote, partsFrom, ih]
    · simp [doubled_cons hc, partsFrom, hc, ih]

theorem head?_flatMap_text {w : Text} {ms : List Mark}
    (h : (Mark.part w :: ms).IsChain fun m n => MayPrecede m n) :
    (ms.flatMap Mark.text).head? ≠ some '"' := by
  cases ms with
  | nil => simp
  | cons m ms =>
    have hm : MayPrecede (.part w) m := (List.isChain_cons_cons.1 h).1
    cases m with
    | part v => cases hm
    | unclosed v => cases hm
    | star => simp [Mark.text]
    | dot => simp [Mark.text]

theorem IsReading.partsFrom {q : Text} {ms : List Mark} (h : IsReading q ms) :
    partsFrom false q = some ([], ms.flatMap Mark.parts) := by
  obtain ⟨hchain, rfl⟩ := h
  induction ms with
  | nil => rfl
  | cons m ms ih =>
    have hrest := ih hchain.of_cons
    cases m with
    | part w =>
      have hpart := partsFrom_doubled_append w (head?_flatMap_text hchain) hrest
      simp [Mark.text, Mark.parts, Identifier.partsFrom, hpart]
    | star => simp [Mark.text, Mark.parts, Identifier.partsFrom, hrest]
    | dot => simp [Mark.text, Mark.parts, Identifier.partsFrom, hrest]
    | unclosed w =>
      cases ms with
      | nil => simp [Mark.text, Mark.parts, Identifier.partsFrom, partsFrom_doubled]
      | cons n ms => cases (List.isChain_cons_cons.1 hchain).1

theorem IsReading.nil : IsReading [] [] :=
  ⟨.nil, rfl⟩

theorem IsReading.cons {t : Text} {m : Mark} {ms : List Mark} (h : IsReading t ms)
    (hm : ∀ n ∈ ms.head?, MayPrecede m n) : IsReading (m.text ++ t) (m :: ms) :=
  ⟨h.apart.cons hm, by rw [List.flatMap_cons, h.text]⟩

theorem IsReading.part_cons {t : Text} {ms : List Mark} (w : Text) (h : IsReading t ms)
    (ht : t.head? ≠ some '"') : IsReading ('"' :: (doubled w ++ '"' :: t)) (.part w :: ms) := by
  have hcons := h.cons (m := .part w) fun n hn => ?_
  · simpa [Mark.text] using hcons
  · obtain ⟨-, rfl⟩ := h
    cases ms with
    | nil => cases hn
    | cons m ms =>
      obtain rfl : m = n := Option.some.inj hn
      cases m with
      | part v => simp [Mark.text] at ht
      | unclosed v => simp [Mark.text] at ht
      | star => rfl
      | dot => rfl

theorem isReading_unclosed (w : Text) : IsReading ('"' :: doubled w) [.unclosed w] :=
  ⟨.singleton _, by simp [Mark.text]⟩

def HasReading : Bool → Text → Text → Prop
  | false, t, _ => ∃ ms, IsReading t ms
  | true, t, w => t = doubled w ∨
    ∃ u ms, t = doubled w ++ '"' :: u ∧ u.head? ≠ some '"' ∧ IsReading u ms

theorem hasReading_of_partsFrom {inside : Bool} {t : Text} {p : Text × List Text}
    (h : partsFrom inside t = some p) : HasReading inside t p.1 := by
  fun_induction partsFrom inside t generalizing p with
  | case1 inside =>
    cases h
    cases inside with
    | false => exact ⟨[], .nil⟩
    | true => exact .inl rfl
  | case2 t ih =>
    -- a part is opened
    obtain ⟨r, hr, rfl⟩ := Option.map_eq_some_iff.1 h
    rcases ih hr with rfl | ⟨u, ms, rfl, hu, hms⟩
    · exact ⟨_, isReading_unclosed r.1⟩
    · exact ⟨_, hms.part_cons r.1 hu⟩
  | case3 t _ ih =>
    obtain ⟨r, hr, rfl⟩ := Option.map_eq_some_iff.1 h
    obtain ⟨ms, hms⟩ := ih hr
    exact ⟨_, hms.cons (m := .star) fun n _ => by cases n <;> rfl⟩
  | case4 t _ _ ih =>
    obtain ⟨ms, hms⟩ := ih h
    exact ⟨_, hms.cons (m := .dot) fun n _ => by cases n <;> rfl⟩
  | case5 => cases h
  | case6 t ih =>
    obtain ⟨r, hr, rfl⟩ := Option.map_eq_some_iff.1 h
    rcases ih hr with rfl | ⟨u, ms, rfl, hu, hms⟩
    · exact .inl rfl
    · exact .inr ⟨u, ms, rfl, hu, hms⟩
  | case7 t hsingle ih =>
    -- the part is closed, for there is no second quote
    obtain ⟨ms, hms⟩ := ih h
    rw [hms.partsFrom] at h
    cases h
    refine .inr ⟨t, ms, rfl, fun hquote => ?_, hms⟩
    obtain ⟨u, rfl⟩ := List.head?_eq_some_iff.1 hquote
    exact hsingle u rfl rfl
  | case8 c t _ hc ih =>
    obtain ⟨r, hr, rfl⟩ := Option.map_eq_some_iff.1 h
    rcases ih hr with rfl | ⟨u, ms, rfl, hu, hms⟩
    · exact .inl (doubled_cons hc r.1).symm
    · exact .inr ⟨u, ms, by rw [doubled_cons hc, List.cons_append], hu, hms⟩

def EndsPart (t : Text) : Prop :=
  t = [] ∨ ∃ u, t = '"' :: u ∧ u.head? ≠ some '"'

theorem EndsPart.ne_doubled {t : Text} (ht : EndsPart t) (c : Char) (w u : Text) :
    t ≠ doubled (c :: w) ++ u := by
  by_cases hc : c = '"'
  · subst hc
    rcases ht with rfl | ⟨v, rfl, hv⟩
    · simp [doubled_quote]
    · rintro h
      simp only [doubled_quote, List.cons_append, List.cons.injEq, true_and] at h
      exact hv (by rw [h]; rfl)
  · rcases ht with rfl | ⟨v, rfl, -⟩
    · simp [doubled_cons hc]
    · simp [doubled_cons hc, Ne.symm hc]

theorem doubled_append_inj {w v t u : Text} (ht : EndsPart t) (hu : EndsPart u)
    (h : doubled w ++ t = doubled v ++ u) : w = v ∧ t = u := by
  induction w generalizing v with
  | nil =>
    cases v with
    | nil => exact ⟨rfl, h⟩
    | cons d v => exact absurd h (ht.ne_doubled d v u)
  | cons c w ih =>
    cases v with
    | nil => exact absurd h.symm (hu.ne_doubled c w t)
    | cons d v =>
      by_cases hc : c = '"' <;> by_cases hd : d = '"'
      · subst hc hd
        obtain ⟨rfl, rfl⟩ := ih (by simpa [doubled_quote] using h)
        exact ⟨rfl, rfl⟩
      · subst hc
        simp [doubled_quote, doubled_cons hd, Ne.symm hd] at h
      · subst hd
        simp [doubled_quote, doubled_cons hc, hc] at h
      · simp only [doubled_cons hc, doubled_cons hd, List.cons_append, List.cons.injEq] at h
        obtain ⟨rfl, h⟩ := h
        obtain ⟨rfl, rfl⟩ := ih h
        exact ⟨rfl, rfl⟩

def Mark.StopsAt (t : Text) : Mark → Prop
  | part _ => t.head? ≠ some '"'
  | star | dot => True
  | unclosed _ => t = []

theorem Mark.text_append_inj {m n : Mark} {t u : Text} (hm : m.StopsAt t) (hn : n.StopsAt u)
    (h : m.text ++ t = n.text ++ u) : m = n ∧ t = u := by
  have hends : ∀ {t : Text}, t.head? ≠ some '"' → EndsPart ('"' :: t) := fun ht => .inr ⟨_, rfl, ht⟩
  have hnil : EndsPart [] := .inl rfl
  cases m <;> cases n <;> simp only [text, StopsAt] at h hm hn
  case part.part w v =>
    obtain ⟨rfl, hrest⟩ := doubled_append_inj (hends hm) (hends hn) (by simpa using h)
    cases hrest
    exact ⟨rfl, rfl⟩
  case part.unclosed w v =>
    subst hn
    obtain ⟨-, hrest⟩ := doubled_append_inj (w := w) (v := v) (hends hm) hnil (by simpa using h)
    cases hrest
  case unclosed.part w v =>
    subst hm
    obtain ⟨-, hrest⟩ := doubled_append_inj (w := w) (v := v) hnil (hends hn) (by simpa using h)
    cases hrest
  case unclosed.unclosed w v =>
    subst hm hn
    obtain ⟨rfl, -⟩ := doubled_append_inj (w := w) (v := v) hnil hnil (by simpa using h)
    exact ⟨rfl, rfl⟩
  all_goals simp_all

theorem IsReading.of_cons {q : Text} {m : Mark} {ms : List Mark} (h : IsReading q (m :: ms)) :
    ∃ t, q = m.text ++ t ∧ m.StopsAt t ∧ IsReading t ms := by
  obtain ⟨hchain, rfl⟩ := h
  refine ⟨ms.flatMap Mark.text, rfl, ?_, hchain.of_cons, rfl⟩
  cases m with
  | part w => exact head?_flatMap_text hchain
  | star | dot => trivial
  | unclosed w =>
    cases ms with
    | nil => rfl
    | cons n ms => cases (List.isChain_cons_cons.1 hchain).1

theorem Mark.text_append_ne_nil (m : Mark) (t : Text) : m.text ++ t ≠ [] := by
  cases m <;> simp [text]

theorem IsReading.unique {q : Text} {ms ns : List Mark} (hm : IsReading q ms)
    (hn : IsReading q ns) : ms = ns := by
  induction ms generalizing q ns with
  | nil =>
    obtain ⟨-, rfl⟩ := hm
    cases ns with
    | nil => rfl
    | cons n ns => exact absurd hn.text (n.text_append_ne_nil _)
  | cons m ms ih =>
    obtain ⟨t, rfl, hstop, hms⟩ := hm.of_cons
    cases ns with
    | nil => exact absurd hn.text.symm (m.text_append_ne_nil t)
    | cons n ns =>
      obtain ⟨u, hu, hstop', hns⟩ := hn.of_cons
      obtain ⟨rfl, rfl⟩ := Mark.text_append_inj hstop hstop' hu
      rw [ih hms hns]

theorem isChain_of_areDotted {ms : List Mark} (h : areDotted ms) :
    ms.IsChain fun m n => MayPrecede m n := by
  fun_induction areDotted ms with
  | case1 w => exact .singleton _
  | case2 => exact .singleton _
  | case3 w ms ih =>
    have hrest := ih h
    refine List.isChain_cons_cons.2 ⟨rfl, hrest.cons fun n _ => ?_⟩
    cases n <;> rfl
  | case4 => cases h

theorem IsReading.isQuotedName_iff {q : Text} {ms : List Mark} (h : IsReading q ms) :
    IsQuotedName q ↔ areDotted ms := by
  constructor
  · rintro ⟨ns, hdotted, htext⟩
    rwa [h.unique ⟨isChain_of_areDotted hdotted, htext⟩]
  · intro hdotted
    exact ⟨ms, hdotted, h.text⟩

theorem IsReading.unquote {q : Text} {ms : List Mark} (h : IsReading q ms) :
    unquote q = .ok (joinWith ['.'] (ms.flatMap Mark.parts)) := by
  rw [Identifier.unquote, h.partsFrom]

/-- Every text that can be made of marks is read in one way and accepted with the parts in it; it is a
quoted name exactly when these are closed and stand between single dots. Every other text is refused. -/
theorem unquote_accepts (q : Text) :
    (∃ ms, IsReading q ms ∧ (∀ ns, IsReading q ns → ns = ms) ∧
      unquote q = .ok (joinWith ['.'] (ms.flatMap Mark.parts)) ∧ (IsQuotedName q ↔ areDotted ms)) ∨
    ((∀ ms, ¬ IsReading q ms) ∧ ¬ IsQuotedName q ∧
      ∃ r : Rejection, unquote q = reject r ∧ r = .notQuoted (String.ofList q) ∧
        r.code = "INVALID_IDENTIFIER") := by
  cases h : partsFrom false q with
  | some p =>
    obtain ⟨ms, hms⟩ : ∃ ms, IsReading q ms := hasReading_of_partsFrom h
    exact .inl ⟨ms, hms, fun ns hns => hns.unique hms, hms.unquote, hms.isQuotedName_iff⟩
  | none =>
    have hnone : ∀ ms, ¬ IsReading q ms := fun ms hms => by
      rw [hms.partsFrom] at h
      cases h
    refine .inr ⟨hnone, ?_, _, by rw [unquote, h], rfl, rfl⟩
    rintro ⟨ms, hdotted, htext⟩
    exact hnone ms ⟨isChain_of_areDotted hdotted, htext⟩

/-- A name whose last quote is missing is accepted like one that is closed. -/
theorem unquote_unclosed :
    unquote "\"users".toList = .ok "users".toList ∧ ¬ IsQuotedName "\"users".toList := by
  have hreading : IsReading "\"users".toList [.unclosed "users".toList] :=
    ⟨.singleton _, by decide⟩
  exact ⟨hreading.unquote, fun h => absurd (hreading.isQuotedName_iff.1 h) (by decide)⟩

end Identifier

end BoundSql
