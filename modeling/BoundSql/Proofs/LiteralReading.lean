import BoundSql.Literal
import BoundSql.Proofs.Numeral
/-!
Literals that are read again. A reader finds the value at the front of a text and leaves what stands
behind it, whatever quotes, brackets and commas the value has in it, as long as neither a digit nor a
quote goes on behind the literal.
-/

namespace BoundSql

/-- The content of a quoted text from behind its first quote on, and what stands behind its last one. A
doubled quote is one quote of the content. -/
def readQuoted : Text → Option (Text × Text)
  | [] => none
  | '\'' :: '\'' :: t => (readQuoted t).map fun p => ('\'' :: p.1, p.2)
  | c :: t => if c = '\'' then some ([], t) else (readQuoted t).map fun p => (c :: p.1, p.2)

def readNatural (t : Text) : Nat × Text :=
  (digitsValue (t.takeWhile Char.isDigit), t.dropWhile Char.isDigit)

namespace Value

def words : List (String × Value) :=
  [("NULL", null), ("TRUE", bool true), ("FALSE", bool false)]

def readWord (t : Text) : Option (Value × Text) :=
  words.findSome? fun w => (w.1.toList.isPrefixOf? t).map fun rest => (w.2, rest)

mutual

def readWithin : Nat → Text → Option (Value × Text)
  | 0, _ | _, [] => none
  | n + 1, c :: t =>
    if c = '\'' then (readQuoted t).map fun p => (text (String.ofList p.1), p.2)
    else if c = '(' then
      if t.head? = some ')' then some (list [], t.drop 1)
      else (readItems n t).map fun p => (list p.1, p.2)
    else if c = '-' then some (int (-(readNatural t).1), (readNatural t).2)
    else if c.isDigit then some (int (readNatural (c :: t)).1, (readNatural (c :: t)).2)
    else readWord (c :: t)

def readItems : Nat → Text → Option (List Value × Text)
  | 0, _ => none
  | n + 1, t => do
    let (v, rest) ← readWithin n t
    match rest with
    | ')' :: rest => some ([v], rest)
    | ',' :: ' ' :: rest => (readItems n rest).map fun p => (v :: p.1, p.2)
    | _ => none

end

/-- Reads the value at the front of a text and leaves what stands behind it. -/
def readLiteral (t : Text) : Option (Value × Text) :=
  readWithin t.length t

mutual

/-- Values that are told by their literals: nothing, truth values, whole numbers, texts, and lists of
such values. -/
def isReadable : Value → Bool
  | null | bool _ | int _ | text _ => true
  | list xs => allReadable xs
  | float _ | decimal _ | bytes _ | uuid _ | date _ | time _ | moment _ | tuple _ | set _
  | fixedSet _ | mapping _ | object | callback => false

def allReadable : List Value → Bool
  | [] => true
  | v :: vs => isReadable v && allReadable vs

end

end Value

/-- Whether a literal ends where a text begins: a digit would go on with a number, and a quote with a
text. -/
def EndsLiteral (t : Text) : Prop :=
  ∀ c ∈ t.head?, ¬ c.isDigit ∧ c ≠ '\''

theorem endsLiteral_cons {c : Char} (hdigit : c.isDigit = false) (hquote : c ≠ '\'') (t : Text) :
    EndsLiteral (c :: t) := by
  rintro d ⟨⟩
  exact ⟨by simp [hdigit], hquote⟩

theorem readQuoted_doubleQuotes (w : Text) {t : Text} (ht : t.head? ≠ some '\'') :
    readQuoted (doubleQuotes w ++ '\'' :: t) = some (w, t) := by
  induction w with
  | nil =>
    -- the quote behind the content is not one of a pair
    cases t with
    | nil => rfl
    | cons d t =>
      have hd : d ≠ '\'' := by simpa using ht
      simp [doubleQuotes, readQuoted, hd]
  | cons c w ih =>
    unfold doubleQuotes at ih ⊢
    by_cases hc : c = '\''
    · subst hc
      simp [readQuoted, ih]
    · simp [readQuoted, hc, ih]

theorem readNatural_append (n : Nat) {t : Text} (ht : ∀ c ∈ t.head?, ¬ c.isDigit) :
    readNatural (natText n ++ t) = (n, t) := by
  have hdigits : ∀ c ∈ natText n, c.isDigit := fun c => isDigit_of_mem_natText
  have htake : t.takeWhile Char.isDigit = [] := by
    cases t with
    | nil => rfl
    | cons d t => exact List.takeWhile_cons_of_neg (ht d rfl)
  have hdrop : t.dropWhile Char.isDigit = t := by
    cases t with
    | nil => rfl
    | cons d t => exact List.dropWhile_cons_of_neg (ht d rfl)
  rw [readNatural, List.takeWhile_append_of_pos hdigits, List.dropWhile_append_of_pos hdigits,
    htake, hdrop, List.append_nil, digitsValue_natText]

namespace Value

theorem readWord_append {w : String × Value} (hw : w ∈ words) (t : Text) :
    readWord (w.1.toList ++ t) = some (w.2, t) := by
  simp only [words, List.mem_cons, List.not_mem_nil, or_false] at hw
  rcases hw with rfl | rfl | rfl <;> rfl

theorem readWithin_intText {n : Nat} (i : Int) {t : Text} (ht : EndsLiteral t) :
    readWithin (n + 1) (intText i ++ t) = some (int i, t) := by
  have hstop : ∀ c ∈ t.head?, ¬ c.isDigit := fun c hc => (ht c hc).1
  cases i with
  | ofNat k =>
    have hread := readNatural_append k hstop
    have hdigits : ∀ c ∈ natText k, c.isDigit := fun c => isDigit_of_mem_natText
    have hne := natText_ne_nil k
    show readWithin (n + 1) (natText k ++ t) = _
    generalize natText k = digits at hread hdigits hne
    cases digits with
    | nil => exact absurd rfl hne
    | cons c digits =>
      have hc : c.isDigit := hdigits c (by simp)
      have hquote : c ≠ '\'' := by rintro rfl; exact absurd hc (by decide)
      have hbracket : c ≠ '(' := by rintro rfl; exact absurd hc (by decide)
      have hsign : c ≠ '-' := by rintro rfl; exact absurd hc (by decide)
      rw [List.cons_append] at hread ⊢
      rw [readWithin, if_neg hquote, if_neg hbracket, if_neg hsign, if_pos hc, hread]
      rfl
  | negSucc k =>
    show readWithin (n + 1) ('-' :: (natText (k + 1) ++ t)) = _
    rw [readWithin, readNatural_append (k + 1) hstop]
    rfl

theorem readWithin_quoteText {n : Nat} (s : String) {t : Text} (ht : EndsLiteral t) :
    readWithin (n + 1) (quoteText s.toList ++ t) = some (text s, t) := by
  have hquote : t.head? ≠ some '\'' := fun h => (ht '\'' h).2 rfl
  have hread := readQuoted_doubleQuotes s.toList hquote
  simp [quoteText, readWithin, hread]

theorem literal_ne_nil {v : Value} (hv : v.isReadable) : v.literal ≠ [] := by
  cases v with
  | null | text | list => simp [literal, quoteText]
  | bool b => cases b <;> simp [literal]
  | int i =>
    cases i with
    | ofNat k => exact natText_ne_nil k
    | negSucc k => exact List.cons_ne_nil _ _
  | _ => cases hv

theorem readItems_close (n : Nat) (t : Text) : readItems n (')' :: t) = none := by
  cases n with
  | zero => rfl
  | succ n => cases n <;> rfl

mutual

theorem readWithin_literal : (v : Value) → v.isReadable → ∀ (n : Nat) (t : Text),
    v.literal.length ≤ n → EndsLiteral t → readWithin n (v.literal ++ t) = some (v, t)
  | v, hv, 0, t, hn, _ =>
    absurd (List.eq_nil_of_length_eq_zero (Nat.le_zero.1 hn)) (literal_ne_nil hv)
  | null, _, n + 1, t, _, _ => readWord_append (w := ("NULL", null)) (by simp [words]) t
  | bool true, _, n + 1, t, _, _ => readWord_append (w := ("TRUE", bool true)) (by simp [words]) t
  | bool false, _, n + 1, t, _, _ => readWord_append (w := ("FALSE", bool false)) (by simp [words]) t
  | int i, _, n + 1, t, _, ht => readWithin_intText i ht
  | text s, _, n + 1, t, _, ht => readWithin_quoteText s ht
  | list [], _, n + 1, t, _, _ => rfl
  | list (v :: vs), hv, n + 1, t, hn, _ => by
    have hlength : (joinWith [',', ' '] (literals (v :: vs))).length < n := by
      simp only [literal, List.cons_append, List.length_cons, List.length_append,
        List.length_nil] at hn
      omega
    have hitems := readItems_literals v vs hv n t hlength
    have hopen : (joinWith [',', ' '] (literals (v :: vs)) ++ ')' :: t).head? ≠ some ')' := by
      intro hclose
      obtain ⟨rest, hrest⟩ := List.head?_eq_some_iff.1 hclose
      rw [hrest, readItems_close] at hitems
      cases hitems
    have htext : (list (v :: vs)).literal ++ t =
        '(' :: (joinWith [',', ' '] (literals (v :: vs)) ++ ')' :: t) := by
      simp [literal]
    rw [htext, readWithin, if_neg (by decide), if_pos rfl, if_neg hopen, hitems]
    rfl

theorem readItems_literals : (v : Value) → (vs : List Value) → allReadable (v :: vs) →
    ∀ (n : Nat) (t : Text), (joinWith [',', ' '] (literals (v :: vs))).length < n →
      readItems n (joinWith [',', ' '] (literals (v :: vs)) ++ ')' :: t) = some (v :: vs, t)
  | v, [], hv, n + 1, t, hn => by
    have hfirst := readWithin_literal v (Bool.and_eq_true_iff.1 hv).1 n (')' :: t)
      (Nat.lt_succ_iff.1 hn) (endsLiteral_cons (by decide) (by decide) t)
    show readItems (n + 1) (v.literal ++ ')' :: t) = _
    rw [readItems, hfirst]
    rfl
  | v, u :: vs, hv, n + 1, t, hn => by
    obtain ⟨hv, hvs⟩ := Bool.and_eq_true_iff.1 hv
    have htext : joinWith [',', ' '] (literals (v :: u :: vs)) =
        v.literal ++ ',' :: ' ' :: joinWith [',', ' '] (literals (u :: vs)) := by
      simp [literals, joinWith]
    rw [htext, List.length_append, List.length_cons, List.length_cons] at hn
    have hrest := readItems_literals u vs hvs n t (by omega)
    have hfirst := readWithin_literal v hv n
      (',' :: ' ' :: (joinWith [',', ' '] (literals (u :: vs)) ++ ')' :: t)) (by omega)
      (endsLiteral_cons (by decide) (by decide) _)
    rw [htext, List.append_assoc, List.cons_append, List.cons_append, readItems, hfirst]
    show (readItems n _).map _ = _
    rw [hrest]
    rfl

end

theorem readLiteral_literal {v : Value} (hv : v.isReadable) {t : Text} (ht : EndsLiteral t) :
    readLiteral (v.literal ++ t) = some (v, t) :=
  readWithin_literal v hv _ t (by simp) ht

theorem eq_of_literal_eq {u v : Value} (hu : u.isReadable) (hv : v.isReadable)
    (h : u.literal = v.literal) : u = v := by
  have hnil : EndsLiteral [] := nofun
  have hread := readLiteral_literal hu hnil
  rw [h, readLiteral_literal hv hnil] at hread
  cases hread
  rfl

end Value

end BoundSql
