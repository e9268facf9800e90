import BoundSql.Literal
import BoundSql.Proofs.FragmentReading
import Mathlib.Data.List.Induction
/-!
The words of a text that is read from its beginning: names and texts in quotes, in which a doubled quote
is one quote; characters that stand together, be it in a name or a number or as minus signs; and all
others by themselves. A text is read apart from the one behind it where no word goes on.
-/

namespace BoundSql

inductive Word where
  | quoted (quote : Char) (content : Text)
  | unclosed (quote : Char) (content : Text)
  | run (w : Text)
  | mark (c : Char)
  deriving DecidableEq

inductive RunKind where
  | word
  | dash
  deriving DecidableEq

def runKind? (c : Char) : Option RunKind :=
  if isWordPart c || c == '.' then some .word else if c == '-' then some .dash else none

theorem eq_of_runKind?_dash {c : Char} (h : runKind? c = some .dash) : c = '-' := by
  unfold runKind? at h
  split at h
  · cases h
  split at h
  · rename_i hc
    exact beq_iff_eq.1 hc
  · cases h

theorem runKind?_of_isDigit {c : Char} (h : c.isDigit) : runKind? c = some .word := by
  have hword : isWordChar c := isWordChar_of_isAlphanum (by simp [Char.isAlphanum, h])
  simp [runKind?, isWordPart, hword]

inductive Scan where
  | idle
  | running (kind : RunKind) (w : Text)
  | inside (quote : Char) (content : Text)
  /-- Behind a quote that closes, unless it is the first of two. -/
  | behind (quote : Char) (content : Text)

namespace Scan

def rest : Scan → List Word
  | idle => []
  | running _ w => [.run w]
  | inside q w => [.unclosed q w]
  | behind q w => [.quoted q w]

def start (c : Char) : List Word × Scan :=
  if isQuote c then ([], inside c [])
  else
    match runKind? c with
    | some kind => ([], running kind [c])
    | none => ([.mark c], idle)

/-- The words that end where a character is read, and what is being read from then on. -/
def step : Scan → Char → List Word × Scan
  | idle, c => start c
  | running kind w, c =>
    if runKind? c = some kind then ([], running kind (w ++ [c]))
    else (.run w :: (start c).1, (start c).2)
  | inside q w, c => ([], if c = q then behind q w else inside q (w ++ [c]))
  | behind q w, c =>
    if c = q then ([], inside q (w ++ [c])) else (.quoted q w :: (start c).1, (start c).2)

def wordsFrom (s : Scan) : Text → List Word
  | [] => s.rest
  | c :: t => (s.step c).1 ++ wordsFrom (s.step c).2 t

def after (s : Scan) (t : Text) : Scan :=
  t.foldl (fun s c => (s.step c).2) s

def Takes : Scan → Char → Prop
  | idle, _ => False
  | running kind _, c => runKind? c = some kind
  | inside _ _, _ => True
  | behind q _, c => c = q

end Scan

def wordsOf (t : Text) : List Word :=
  Scan.idle.wordsFrom t

namespace Scan

variable {s : Scan} {c : Char} {t u : Text}

theorem step_of_not_takes (h : ¬ s.Takes c) : s.step c = (s.rest ++ (start c).1, (start c).2) := by
  cases s with
  | idle => rfl
  | inside q w => exact absurd trivial h
  | running kind w => exact if_neg h
  | behind q w => exact if_neg h

theorem wordsFrom_append (h : ∀ c ∈ u.head?, ¬ (s.after t).Takes c) :
    s.wordsFrom (t ++ u) = s.wordsFrom t ++ wordsOf u := by
  induction t generalizing s with
  | nil =>
    cases u with
    | nil => exact (List.append_nil _).symm
    | cons c u =>
      have hstep := step_of_not_takes (h c rfl)
      show (s.step c).1 ++ wordsFrom (s.step c).2 u = s.rest ++ ((start c).1 ++ wordsFrom (start c).2 u)
      rw [show s.after [] = s from rfl] at hstep
      rw [hstep, List.append_assoc]
  | cons c t ih =>
    show (s.step c).1 ++ wordsFrom (s.step c).2 (t ++ u) = _
    rw [ih h, ← List.append_assoc]
    rfl

def quote? : Scan → Option Char
  | inside q _ => some q
  | idle | running .. | behind .. => none

def IsProper : Scan → Prop
  | inside q _ | behind q _ => isQuote q
  | idle | running .. => True

theorem start_proper (c : Char) :
    (start c).2.quote? = quoteAfter none [c] ∧ (start c).2.IsProper := by
  unfold start
  by_cases hc : isQuote c
  · simp [hc, quote?, IsProper, quoteAfter]
  · cases hk : runKind? c <;> simp [hc, quote?, IsProper, quoteAfter]

theorem runKind?_of_isQuote {c : Char} (h : isQuote c) : runKind? c = none := by
  simp only [isQuote, Bool.or_eq_true, beq_iff_eq] at h
  rcases h with rfl | rfl <;> decide

theorem step_proper (hs : s.IsProper) (c : Char) :
    (s.step c).2.quote? = quoteAfter s.quote? [c] ∧ (s.step c).2.IsProper := by
  have hstart := start_proper c
  cases s with
  | idle => exact hstart
  | running kind w =>
    by_cases hk : runKind? c = some kind
    · have hc : isQuote c = false := by
        rw [Bool.eq_false_iff]
        intro hc
        rw [runKind?_of_isQuote hc] at hk
        cases hk
      simp [step, hk, quote?, IsProper, quoteAfter, hc]
    · rw [step_of_not_takes (s := running kind w) hk]
      exact hstart
  | inside q w => by_cases hc : c = q <;> simpa [step, quote?, IsProper, quoteAfter, hc] using hs
  | behind q w =>
    by_cases hc : c = q
    · have hquote : isQuote q := hs
      simp [step, quote?, IsProper, quoteAfter, hc, hquote]
    · rw [step_of_not_takes (s := behind q w) hc]
      exact hstart

theorem after_proper (hs : s.IsProper) (t : Text) :
    (s.after t).quote? = quoteAfter s.quote? t ∧ (s.after t).IsProper := by
  induction t generalizing s with
  | nil => exact ⟨rfl, hs⟩
  | cons c t ih =>
    have hstep := step_proper hs c
    have hafter := ih hstep.2
    rw [hstep.1, ← quoteAfter_append] at hafter
    exact hafter

end Scan

/-- Whether a character would be read together with the one in front of it. -/
def Joins (c d : Char) : Prop :=
  (isQuote c ∧ d = c) ∨ ∃ kind, runKind? c = some kind ∧ runKind? d = some kind

namespace Scan

variable {s : Scan} {c d : Char} {t : Text}

theorem joins_of_start (hq : (start c).2.quote? = none) (h : (start c).2.Takes d) : Joins c d := by
  unfold start at hq h
  by_cases hc : isQuote c
  · simp [hc, quote?] at hq
  · cases hk : runKind? c with
    | none => simp [hc, hk, Takes] at h
    | some kind =>
      simp only [hc, hk] at h
      exact .inr ⟨kind, hk, h⟩

theorem joins_of_step (hs : s.IsProper) (hq : (s.step c).2.quote? = none)
    (h : (s.step c).2.Takes d) : Joins c d := by
  cases s with
  | idle => exact joins_of_start hq h
  | running kind w =>
    by_cases hk : runKind? c = some kind
    · simp only [step, hk, ↓reduceIte, Takes] at h
      exact .inr ⟨kind, hk, h⟩
    · rw [step_of_not_takes (s := running kind w) hk] at hq h
      exact joins_of_start hq h
  | inside q w =>
    by_cases hc : c = q
    · simp only [step, hc, ↓reduceIte, Takes] at h
      subst hc
      exact .inl ⟨hs, h⟩
    · simp [step, hc, quote?] at hq
  | behind q w =>
    by_cases hc : c = q
    · simp [step, hc, quote?] at hq
    · rw [step_of_not_takes (s := behind q w) hc] at hq h
      exact joins_of_start hq h

theorem joins_of_after (ht : quoteAfter none t = none) (h : (idle.after t).Takes d) :
    ∃ c ∈ t.getLast?, Joins c d := by
  induction t using List.reverseRecOn with
  | nil => exact h.elim
  | append_singleton t c _ =>
    have hafter := after_proper (s := idle) trivial t
    have hstep := step_proper hafter.2 c
    have hlast : idle.after (t ++ [c]) = ((idle.after t).step c).2 := by simp [after]
    rw [hafter.1, ← quoteAfter_append] at hstep
    rw [hlast] at h
    exact ⟨c, by simp, joins_of_step hafter.2 (hstep.1.trans ht) h⟩

end Scan

/-- A text that closes its quotes is read apart from another if their neighbours do not join. -/
theorem wordsOf_append {t u : Text} (ht : quoteAfter none t = none)
    (h : ∀ c ∈ t.getLast?, ∀ d ∈ u.head?, ¬ Joins c d) :
    wordsOf (t ++ u) = wordsOf t ++ wordsOf u := by
  refine Scan.wordsFrom_append fun d hd htakes => ?_
  obtain ⟨c, hc, hjoins⟩ := Scan.joins_of_after ht htakes
  exact h c hc d hd hjoins

/-- Whether a character is read apart from all others. -/
def Divides (c : Char) : Prop :=
  isQuote c = false ∧ runKind? c = none

instance (c : Char) : Decidable (Divides c) :=
  inferInstanceAs (Decidable (_ ∧ _))

section Division

variable {c d : Char}

theorem Divides.not_joins_left (h : Divides c) : ¬ Joins c d := by
  rintro (⟨hq, -⟩ | ⟨kind, hk, -⟩)
  · rw [h.1] at hq
    cases hq
  · rw [h.2] at hk
    cases hk

theorem Divides.not_joins_right (h : Divides d) : ¬ Joins c d := by
  rintro (⟨hq, rfl⟩ | ⟨kind, -, hk⟩)
  · rw [h.1] at hq
    cases hq
  · rw [h.2] at hk
    cases hk

end Division

def Word.text? : Word → Option Text
  | .quoted q w => if q = '\'' then some w else none
  | .unclosed .. | .run _ | .mark _ => none

def textsOf (t : Text) : List Text :=
  (wordsOf t).filterMap Word.text?

theorem textsOf_append {t u : Text} (ht : quoteAfter none t = none)
    (h : ∀ c ∈ t.getLast?, ∀ d ∈ u.head?, ¬ Joins c d) :
    textsOf (t ++ u) = textsOf t ++ textsOf u := by
  rw [textsOf, wordsOf_append ht h, List.filterMap_append]
  rfl

theorem Scan.texts_of_unquoted {t : Text} (h : ∀ c ∈ t, isQuote c = false) {s : Scan}
    (hs : s = idle ∨ ∃ kind w, s = running kind w) :
    (s.wordsFrom t).filterMap Word.text? = [] := by
  induction t generalizing s with
  | nil => rcases hs with rfl | ⟨kind, w, rfl⟩ <;> rfl
  | cons c t ih =>
    have hc : isQuote c = false := h c (by simp)
    have ht : ∀ {s : Scan}, (s = idle ∨ ∃ kind w, s = running kind w) →
        (s.wordsFrom t).filterMap Word.text? = [] := ih fun d hd => h d (by simp [hd])
    have hstart : (start c).1.filterMap Word.text? = [] ∧
        ((start c).2 = idle ∨ ∃ kind w, (start c).2 = running kind w) := by
      unfold start
      cases runKind? c <;> simp [hc, Word.text?]
    have hnext : ((start c).1 ++ (start c).2.wordsFrom t).filterMap Word.text? = [] := by
      rw [List.filterMap_append, hstart.1, ht hstart.2]
      rfl
    rcases hs with rfl | ⟨kind, w, rfl⟩
    · exact hnext
    · by_cases hk : runKind? c = some kind
      · simpa [wordsFrom, step, hk] using ht (.inr ⟨kind, w ++ [c], rfl⟩)
      · rw [wordsFrom, step_of_not_takes (s := running kind w) hk]
        exact hnext

theorem textsOf_of_unquoted {t : Text} (h : ∀ c ∈ t, isQuote c = false) : textsOf t = [] :=
  Scan.texts_of_unquoted h (.inl rfl)

theorem wordsOf_quoteText (w : Text) : wordsOf (quoteText w) = [.quoted '\'' w] := by
  have hinside : ∀ v, (Scan.inside '\'' v).wordsFrom (doubleQuotes w ++ ['\'']) =
      [.quoted '\'' (v ++ w)] := by
    induction w with
    | nil => intro v; simp [doubleQuotes, Scan.wordsFrom, Scan.step, Scan.rest]
    | cons c w ih =>
      intro v
      have hw := ih (v ++ [c])
      unfold doubleQuotes at hw ⊢
      by_cases hc : c = '\'' <;>
        simpa [hc, Scan.wordsFrom, Scan.step] using hw
  exact hinside []

theorem quoteAfter_quoteText (w : Text) : quoteAfter none (quoteText w) = none := by
  have hinside : quoteAfter (some '\'') (doubleQuotes w ++ ['\'']) = none := by
    induction w with
    | nil => rfl
    | cons c w ih =>
      unfold doubleQuotes at ih ⊢
      by_cases hc : c = '\'' <;> simpa [hc, quoteAfter, isQuote] using ih
  exact hinside

end BoundSql
