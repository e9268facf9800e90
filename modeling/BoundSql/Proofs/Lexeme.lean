import BoundSql.Proofs.Numeral
import BoundSql.Proofs.QuotedName
/-!
The lexemes of a condition text: parentheses, commas, and words between blanks. Inside of quotes every
character belongs to the word.
-/

namespace BoundSql

inductive Lexeme where
  | opening
  | closing
  | comma
  | word (w : Text)
  deriving DecidableEq

namespace Lexeme

def keyword (s : String) : Lexeme :=
  .word s.toList

def mark? : Char → Option (List Lexeme)
  | ' ' | '\t' | '\n' | '\r' => some []
  | '(' => some [opening]
  | ')' => some [closing]
  | ',' => some [comma]
  | _ => none

def wordOf (w : Text) : List Lexeme :=
  if w.isEmpty then [] else [word w]

def readFrom (quoted : Bool) (w : Text) : Text → List Lexeme
  | [] => wordOf w
  | c :: t =>
    match (if quoted then none else mark? c) with
    | some ls => wordOf w ++ ls ++ readFrom false [] t
    | none => readFrom (quoted != (c == '"')) (w ++ [c]) t

end Lexeme

def lexemes (t : Text) : List Lexeme :=
  Lexeme.readFrom false [] t

namespace Lexeme

def quotedAfter (quoted : Bool) (t : Text) : Bool :=
  t.foldl (fun q c => q != (c == '"')) quoted

theorem quotedAfter_append (quoted : Bool) (t u : Text) :
    quotedAfter quoted (t ++ u) = quotedAfter (quotedAfter quoted t) u :=
  List.foldl_append

theorem quotedAfter_of_not_mem {quoted : Bool} {t : Text} (h : '"' ∉ t) :
    quotedAfter quoted t = quoted := by
  induction t generalizing quoted with
  | nil => rfl
  | cons c t ih =>
    have hc : (c == '"') = false := by
      simp only [beq_eq_false_iff_ne]
      rintro rfl
      exact h (by simp)
    have ht : '"' ∉ t := fun hm => h (by simp [hm])
    simpa [quotedAfter, hc] using ih ht

theorem readFrom_append {quoted : Bool} {u : Text} (hu : quotedAfter quoted u = false) (w : Text)
    {d : Char} {ls : List Lexeme} (hd : mark? d = some ls) (v : Text) :
    readFrom quoted w (u ++ d :: v) = readFrom quoted w u ++ ls ++ lexemes v := by
  induction u generalizing quoted w with
  | nil =>
    have hq : quoted = false := hu
    simp [readFrom, hq, hd, lexemes]
  | cons c u ih =>
    simp only [List.cons_append, readFrom]
    split
    · rename_i ks hk
      have hq : quoted = false := by
        cases quoted with
        | false => rfl
        | true => simp at hk
      have hc : (c == '"') = false := by
        simp only [beq_eq_false_iff_ne]
        rintro rfl
        simp [hq, mark?] at hk
      have hrest : quotedAfter false u = false := by
        simpa [quotedAfter, hq, hc] using hu
      rw [ih hrest]
      simp
    · exact ih (by simpa [quotedAfter] using hu) (w ++ [c])

theorem readFrom_word (quoted : Bool) (w : Text) {t : Text} (h : ∀ c ∈ t, mark? c = none) :
    readFrom quoted w t = wordOf (w ++ t) := by
  induction t generalizing quoted w with
  | nil => simp [readFrom]
  | cons c t ih =>
    have hc : mark? c = none := h c (by simp)
    have ht := ih (quoted != (c == '"')) (w ++ [c]) fun d hd => h d (by simp [hd])
    simpa [readFrom, hc] using ht

def marks : List Char :=
  [' ', '\t', '\n', '\r', '(', ')', ',']

theorem mark?_eq_none {c : Char} (h : c ∉ marks) : mark? c = none := by
  simp only [marks, List.mem_cons, List.not_mem_nil, or_false, not_or] at h
  unfold mark?
  split <;> simp_all

end Lexeme

open Lexeme

structure Lexes (t : Text) (ls : List Lexeme) : Prop where
  closed : quotedAfter false t = false
  read : lexemes t = ls

namespace Lexes

variable {t u v w : Text} {ls ms ks : List Lexeme}

theorem nil : Lexes [] [] :=
  ⟨rfl, rfl⟩

theorem marked (hu : Lexes u ls) {d : Char} (hd : mark? d = some ks) (hv : Lexes v ms) :
    Lexes (u ++ d :: v) (ls ++ ks ++ ms) := by
  have hc : (d == '"') = false := by
    simp only [beq_eq_false_iff_ne]
    rintro rfl
    simp [mark?] at hd
  refine ⟨?_, ?_⟩
  · have hv' := hv.closed
    rw [quotedAfter_append, hu.closed]
    simpa [quotedAfter, hc] using hv'
  · have hread := readFrom_append hu.closed [] hd v
    rw [← hu.read, ← hv.read]
    exact hread

theorem blank (hu : Lexes u ls) (hv : Lexes v ms) : Lexes (u ++ ' ' :: v) (ls ++ ms) := by
  have h := hu.marked (d := ' ') rfl hv
  rwa [List.append_nil] at h

theorem word (hne : w ≠ []) (hmark : ∀ c ∈ w, mark? c = none) (hclosed : quotedAfter false w = false) :
    Lexes w [.word w] := by
  refine ⟨hclosed, ?_⟩
  have hread := readFrom_word false [] hmark
  have hw : w.isEmpty = false := by simpa using hne
  simpa [lexemes, wordOf, hw] using hread

theorem isDigit_not_mem_marks {c : Char} (hc : c.isDigit) : c ∉ marks := by
  intro hm
  simp only [marks, List.mem_cons, List.not_mem_nil, or_false] at hm
  rcases hm with rfl | rfl | rfl | rfl | rfl | rfl | rfl <;> exact absurd hc (by decide)

theorem isNameChar_not_mem_marks {c : Char} (hc : isNameChar c) : c ∉ marks ∧ c ≠ '"' := by
  refine ⟨fun hm => ?_, ?_⟩
  · simp only [marks, List.mem_cons, List.not_mem_nil, or_false] at hm
    rcases hm with rfl | rfl | rfl | rfl | rfl | rfl | rfl <;> exact absurd hc (by decide)
  · rintro rfl
    exact absurd hc (by decide)

theorem slotText (n : Int) : Lexes (Placeholder.slotText n) [.word (Placeholder.slotText n)] := by
  have hmem : ∀ c ∈ Placeholder.slotText n, c = '$' ∨ c = '-' ∨ c.isDigit := by
    intro c hc
    rcases List.mem_cons.1 hc with rfl | hm
    · exact .inl rfl
    · cases n with
      | ofNat k => exact .inr (.inr (isDigit_of_mem_natText hm))
      | negSucc k =>
        rcases List.mem_cons.1 hm with rfl | hm
        · exact .inr (.inl rfl)
        · exact .inr (.inr (isDigit_of_mem_natText hm))
  refine word (List.cons_ne_nil _ _) (fun c hc => mark?_eq_none ?_) (quotedAfter_of_not_mem ?_)
  · rcases hmem c hc with rfl | rfl | hd
    · decide
    · decide
    · exact isDigit_not_mem_marks hd
  · intro hm
    rcases hmem _ hm with h | h | h <;> exact absurd h (by decide)

theorem quotedAfter_quotedPart {w : Text} (hw : Identifier.IsPartBody w) :
    quotedAfter false (Identifier.quotedPart w) = false := by
  have hbody : '"' ∉ w := fun hm => (isNameChar_not_mem_marks (hw.2 _ hm)).2 rfl
  have hopen : Identifier.quotedPart w = ['"'] ++ (w ++ ['"']) := rfl
  rw [hopen, quotedAfter_append, quotedAfter_append, quotedAfter_of_not_mem hbody]
  rfl

theorem quotedAfter_quoted {q : Text} (hq : Identifier.IsQuoted q) : quotedAfter false q = false := by
  induction hq with
  | part hw => exact quotedAfter_quotedPart hw
  | star hw =>
    rw [quotedAfter_append, quotedAfter_quotedPart hw]
    rfl
  | @dotted w q hw _ ih =>
    have hdot : '.' :: q = ['.'] ++ q := rfl
    rw [hdot, quotedAfter_append, quotedAfter_quotedPart hw, quotedAfter_append]
    exact ih

theorem quoted {q : Text} (hq : Identifier.IsQuoted q) : Lexes q [.word q] := by
  refine word hq.ne_nil (fun c hc => mark?_eq_none ?_) (quotedAfter_quoted hq)
  rcases hq.mem hc with hn | rfl | rfl | rfl
  · exact (isNameChar_not_mem_marks hn).1
  · decide
  · decide
  · decide

end Lexes

end BoundSql
