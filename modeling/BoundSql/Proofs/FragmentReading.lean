import BoundSql.Proofs.Lexeme
/-!
How a condition is read whose text a caller wrote, or a part of it. Blanks may be left out there,
apostrophes enclose text as quotes do, and keywords are written in any case. Only what AND and OR join
is told apart: a test is whatever stands between them, and a range or a case distinction in it keeps
its own AND.
-/

namespace BoundSql

open Lexeme (wordOf mark?)

/-- Whether a character goes on with a name, a keyword or a number. Markers and numbers are read
alike, so that it makes no difference whether a fragment has been numbered. -/
def isWordPart (c : Char) : Bool :=
  isWordChar c || c == '$' || c == '?'

def isQuote (c : Char) : Bool :=
  c == '"' || c == '\''

def symbolOf (c : Char) : List Lexeme :=
  (mark? c).getD [.word [c]]

/-- The lexemes of a text behind the beginning of a word, or within quotes. -/
def scanFrom (quote : Option Char) (w : Text) : Text → List Lexeme
  | [] => wordOf w
  | c :: t =>
    match quote with
    | some q =>
      if c = q then .word (w ++ [c]) :: scanFrom none [] t else scanFrom (some q) (w ++ [c]) t
    | none =>
      if isQuote c then wordOf w ++ scanFrom (some c) [c] t
      else if isWordPart c then scanFrom none (w ++ [c]) t
      else wordOf w ++ symbolOf c ++ scanFrom none [] t

def scan (t : Text) : List Lexeme :=
  scanFrom none [] t

def quoteAfter (quote : Option Char) : Text → Option Char
  | [] => quote
  | c :: t =>
    match quote with
    | some q => quoteAfter (if c = q then none else some q) t
    | none => quoteAfter (if isQuote c then some c else none) t

def IsBreak (c : Char) : Prop :=
  isQuote c = false ∧ isWordPart c = false

instance (c : Char) : Decidable (IsBreak c) :=
  inferInstanceAs (Decidable (_ ∧ _))

section Breaks

variable {quote : Option Char} {d : Char} {t : Text}

theorem quoteAfter_append (u : Text) :
    quoteAfter quote (t ++ u) = quoteAfter (quoteAfter quote t) u := by
  induction t generalizing quote with
  | nil => rfl
  | cons c t ih => cases quote <;> simp [quoteAfter, ih]

theorem quoteAfter_of_unquoted (h : ∀ c ∈ t, isQuote c = false) : quoteAfter none t = none := by
  induction t with
  | nil => rfl
  | cons c t ih => simpa [quoteAfter, h c (by simp)] using ih fun d hd => h d (by simp [hd])

theorem quoteAfter_enclosed {q : Char} (hq : isQuote q) (h : q ∉ t) :
    quoteAfter none (q :: t ++ [q]) = none := by
  have hinside : quoteAfter (some q) (t ++ [q]) = none := by
    induction t with
    | nil => simp [quoteAfter]
    | cons c t ih =>
      simp only [List.mem_cons, not_or] at h
      simpa [quoteAfter, Ne.symm h.1] using ih h.2
  simpa [quoteAfter, hq] using hinside

theorem quoteAfter_quoted {q : Text} (hq : Identifier.IsQuoted q) : quoteAfter none q = none := by
  have hpart : ∀ {w : Text}, Identifier.IsPartBody w →
      quoteAfter none (Identifier.quotedPart w) = none := fun hw =>
    quoteAfter_enclosed rfl fun hm => absurd (hw.2 _ hm) (by decide)
  induction hq with
  | part hw => exact hpart hw
  | star hw =>
    rw [quoteAfter_append, hpart hw]
    rfl
  | dotted hw _ ih =>
    rw [quoteAfter_append, hpart hw]
    exact ih

/-- Outside of quotes a break ends a word, and what follows is read by itself. -/
theorem scanFrom_break (hd : IsBreak d) (ht : quoteAfter quote t = none) (w u : Text) :
    scanFrom quote w (t ++ d :: u) = scanFrom quote w t ++ symbolOf d ++ scan u := by
  induction t generalizing quote w with
  | nil =>
    have hq : quote = none := ht
    simp [scanFrom, hq, hd.1, hd.2, scan]
  | cons c t ih =>
    cases quote with
    | some q =>
      simp only [quoteAfter] at ht
      by_cases hc : c = q <;> simp_all [scanFrom]
    | none =>
      simp only [quoteAfter] at ht
      by_cases hc : isQuote c <;> by_cases hp : isWordPart c <;> simp_all [scanFrom]

theorem scan_break (hd : IsBreak d) (ht : quoteAfter none t = none) (u : Text) :
    scan (t ++ d :: u) = scan t ++ symbolOf d ++ scan u :=
  scanFrom_break hd ht [] u

end Breaks

namespace Lexeme

/-- What a lexeme does to the reading of a condition. -/
inductive Role where
  | opens
  | closes
  | ranges
  | both
  | either
  | plain
  deriving DecidableEq

def roles : List (Text × Role) :=
  [("AND".toList, .both), ("OR".toList, .either), ("BETWEEN".toList, .ranges),
    ("CASE".toList, .opens), ("END".toList, .closes)]

/-- Keywords are known in any case; all other words are part of a test. -/
def role : Lexeme → Role
  | opening => .opens
  | closing => .closes
  | comma => .plain
  | word w => (roles.lookup (w.map Char.toUpper)).getD .plain

theorem role_word_of_mem {w : Text} {c : Char} (hc : c ∈ w) (ha : c.toUpper.isAlpha = false) :
    (word w).role = .plain := by
  have hno : ∀ p ∈ roles, w.map Char.toUpper ≠ p.1 := by
    intro p hp he
    have hletters : ∀ p ∈ roles, p.1.all Char.isAlpha := by decide
    have hall := hletters p hp
    rw [← he, List.all_eq_true] at hall
    have hletter := hall _ (List.mem_map_of_mem hc)
    rw [ha] at hletter
    cases hletter
  have hnone : roles.lookup (w.map Char.toUpper) = none := by
    rw [List.lookup_eq_none_iff]
    simpa using hno
  simp [role, hnone]

end Lexeme

open Lexeme (Role)

/-- Where a lexeme stands: within a number of brackets, maybe in a range that stands in none, or
behind a bracket that closes nothing. -/
inductive Place where
  | within (depth : Nat) (range : Bool)
  | astray
  deriving DecidableEq

namespace Place

abbrev outside : Place :=
  within 0 false

def next : Place → Role → Place
  | within n r, .opens => within (n + 1) r
  | within (n + 1) r, .closes => within n r
  | within 0 _, .closes => astray
  | within 0 _, .ranges => within 0 true
  | within 0 true, .both => within 0 false
  | p, _ => p

def after (p : Place) (ls : List Lexeme) : Place :=
  ls.foldl (fun p l => p.next l.role) p

def conjoins (p : Place) (r : Role) : Bool :=
  p == outside && r == .both

def disjoins (p : Place) (r : Role) : Bool :=
  match p with
  | within 0 _ => r == .either
  | _ => false

@[simp] theorem after_nil (p : Place) : p.after [] = p := rfl

@[simp] theorem after_cons (p : Place) (l : Lexeme) (ls : List Lexeme) :
    p.after (l :: ls) = (p.next l.role).after ls := rfl

theorem after_append (p : Place) (ls ms : List Lexeme) : p.after (ls ++ ms) = (p.after ls).after ms :=
  List.foldl_append

theorem next_plain (p : Place) : p.next .plain = p := by
  cases p with
  | within n r => cases n <;> cases r <;> rfl
  | astray => rfl

theorem after_astray (ls : List Lexeme) : astray.after ls = astray := by
  induction ls with
  | nil => rfl
  | cons l ls ih => simp [next, ih]

theorem after_plain {ls : List Lexeme} (h : ∀ l ∈ ls, l.role = .plain) (p : Place) :
    p.after ls = p := by
  induction ls with
  | nil => rfl
  | cons l ls ih => simp [h l (by simp), next_plain, ih fun m hm => h m (by simp [hm])]

theorem after_deeper {ls : List Lexeme} {n m : Nat} {r s : Bool}
    (h : (within n r).after ls = within m s) (k : Nat) (q : Bool) :
    (within (n + k + 1) q).after ls = within (m + k + 1) q := by
  induction ls generalizing n r with
  | nil =>
    obtain ⟨rfl, rfl⟩ : n = m ∧ r = s := by simpa using h
    rfl
  | cons l ls ih =>
    rw [after_cons] at h ⊢
    cases hl : l.role with
    | opens =>
      rw [hl] at h
      have ht := ih (n := n + 1) h
      rwa [show n + 1 + k + 1 = n + k + 1 + 1 by omega] at ht
    | closes =>
      rw [hl] at h
      cases n with
      | zero => simp [next, after_astray] at h
      | succ n => simpa [next, Nat.add_right_comm] using ih (n := n) h
    | ranges | both | either | plain =>
      rw [hl] at h
      cases n <;> cases r <;> exact ih h

end Place

open Place (outside)

structure Closed (t : Text) : Prop where
  quotes : quoteAfter none t = none
  brackets : outside.after (scan t) = outside

namespace Closed

variable {t u v : Text} {d : Char}

theorem nil : Closed [] :=
  ⟨rfl, rfl⟩

theorem of_plain (hq : quoteAfter none t = none) (h : ∀ l ∈ scan t, l.role = .plain) : Closed t :=
  ⟨hq, Place.after_plain h _⟩

theorem quoteAfter_break (hd : IsBreak d) : quoteAfter none (d :: u) = quoteAfter none u := by
  simp [quoteAfter, hd.1]

theorem atBreak (hd : IsBreak d) (hrole : ∀ l ∈ symbolOf d, l.role = .plain) (ht : Closed t)
    (hu : Closed u) : Closed (t ++ d :: u) where
  quotes := by rw [quoteAfter_append, ht.quotes, quoteAfter_break hd, hu.quotes]
  brackets := by
    rw [scan_break hd ht.quotes, Place.after_append, Place.after_append, ht.brackets,
      Place.after_plain hrole, hu.brackets]

theorem blank (ht : Closed t) (hu : Closed u) : Closed (t ++ ' ' :: u) :=
  ht.atBreak (by decide) (by decide) hu

theorem parentheses (ht : Closed t) (hu : Closed u) (hv : Closed v) :
    Closed (t ++ '(' :: (u ++ ')' :: v)) where
  quotes := by
    rw [quoteAfter_append, ht.quotes, quoteAfter_break (by decide), quoteAfter_append, hu.quotes,
      quoteAfter_break (by decide), hv.quotes]
  brackets := by
    have hinner := Place.after_deeper hu.brackets 0 false
    rw [scan_break (by decide) ht.quotes, scan_break (by decide) hu.quotes]
    have hopen : outside.after (symbolOf '(') = .within 1 false := rfl
    have hclose : (Place.within 1 false).after (symbolOf ')') = outside := rfl
    simp only [Place.after_append, ht.brackets, hopen, hinner, hclose, hv.brackets]

theorem enclosed (hu : Closed u) : Closed ('(' :: u ++ [')']) :=
  nil.parentheses hu nil

theorem joined {word : Text} (hword : Closed word) (ht : Closed t) (hu : Closed u) :
    Closed (t ++ (' ' :: word ++ [' ']) ++ u) := by
  simpa using ht.blank (hword.blank hu)

end Closed

/-- The operands of each alternative, when all before stands at the given place. -/
def cut (p : Place) : List Lexeme → List (List (List Lexeme))
  | [] => [[[]]]
  | l :: ls =>
    let rest := cut (p.next l.role) ls
    if p.disjoins l.role then [[]] :: rest
    else if p.conjoins l.role then rest.modifyHead ([] :: ·)
    else rest.modifyHead (List.modifyHead (l :: ·))

/-- AND binds tighter than OR: a condition is a list of alternatives, each a list of operands. -/
def alternatives (t : Text) : List (List (List Lexeme)) :=
  cut outside (scan t)

/-- Two lists of alternatives one after the other, of which the last of the first and the first of the
second are one. -/
def glue {α : Type} : List (List α) → List (List α) → List (List α)
  | [], bs => bs
  | [a], [] => [a]
  | [a], b :: bs => (a ++ b) :: bs
  | a :: as, bs => a :: glue as bs

section Cuts

variable {p : Place} {ls ms : List Lexeme}

theorem cut_eq_cons (p : Place) (ls : List Lexeme) : ∃ o c rest, cut p ls = (o :: c) :: rest := by
  induction ls generalizing p with
  | nil => exact ⟨[], [], [], rfl⟩
  | cons l ls ih =>
    obtain ⟨o, c, rest, h⟩ := ih (p.next l.role)
    unfold cut
    rw [h]
    dsimp only
    split
    · exact ⟨_, _, _, rfl⟩
    split <;> exact ⟨_, _, _, rfl⟩

theorem cut_and {l : Lexeme} (hl : l.role = .both) (h : p.after ls = outside) :
    cut p (ls ++ l :: ms) = glue (cut p ls) (cut outside ms) := by
  induction ls generalizing p with
  | nil =>
    have hp : p = outside := h
    obtain ⟨o, c, rest, hms⟩ := cut_eq_cons outside ms
    subst hp
    simp [cut, hl, Place.disjoins, Place.conjoins, Place.next, hms, glue]
  | cons k ls ih =>
    have ht := ih (p := p.next k.role) h
    obtain ⟨o, c, rest, hls⟩ := cut_eq_cons (p.next k.role) ls
    obtain ⟨o', c', rest', hms⟩ := cut_eq_cons outside ms
    rw [List.cons_append, cut, cut, ht, hls, hms]
    split
    · rfl
    split <;> cases rest <;> rfl

theorem alternatives_and {t u : Text} (ht : Closed t) :
    alternatives (t ++ " AND ".toList ++ u) = glue (alternatives t) (alternatives u) := by
  have hsplit : t ++ " AND ".toList ++ u = t ++ ' ' :: ("AND".toList ++ ' ' :: u) := by simp
  have hword : scan "AND".toList = [.word "AND".toList] := by rfl
  unfold alternatives
  rw [hsplit, scan_break (by decide) ht.quotes, scan_break (by decide) (by rfl), hword]
  simpa [symbolOf, mark?] using cut_and (by decide) ht.brackets

end Cuts

/-- What stands in parentheses, if a whole operand does. -/
def inner? : List Lexeme → Option (List Lexeme)
  | .opening :: ls =>
    if ls.getLast? = some .closing ∧ outside.after ls.dropLast = outside then some ls.dropLast
    else none
  | _ => none

theorem inner?_eq_some {o ms : List Lexeme} (h : inner? o = some ms) :
    o = .opening :: (ms ++ [.closing]) ∧ outside.after ms = outside := by
  unfold inner? at h
  split at h
  · rename_i ls
    split at h
    · rename_i hls
      cases h
      have hlast := List.dropLast_append_getLast? _ hls.1
      exact ⟨by rw [hlast], hls.2⟩
    · cases h
  · cases h

theorem cut_sublist (p : Place) (ls : List Lexeme) : (cut p ls).flatten.flatten.Sublist ls := by
  induction ls generalizing p with
  | nil => exact .refl _
  | cons l ls ih =>
    have ht := ih (p.next l.role)
    obtain ⟨o, c, rest, hls⟩ := cut_eq_cons (p.next l.role) ls
    rw [hls] at ht
    rw [cut, hls]
    split
    · simpa using ht.cons l
    split
    · simpa using ht.cons l
    · simpa using ht.cons_cons l

theorem length_le_of_mem_cut {p : Place} {ls o : List Lexeme} {c : List (List Lexeme)}
    (hc : c ∈ cut p ls) (ho : o ∈ c) : o.length ≤ ls.length :=
  ((List.sublist_flatten_of_mem (List.mem_flatten_of_mem hc ho)).trans (cut_sublist p ls)).length_le

def truth (ν : List Lexeme → Bool) (ls : List Lexeme) : Bool :=
  (cut outside ls).attach.any fun c => c.1.attach.all fun o =>
    match _h : inner? o.1 with
    | some ms => truth ν ms
    | none => ν o.1
termination_by ls.length
decreasing_by
  have hle := length_le_of_mem_cut c.2 o.2
  rw [(inner?_eq_some _h).1] at hle
  simp at hle
  omega

def operandTruth (ν : List Lexeme → Bool) (o : List Lexeme) : Bool :=
  match inner? o with
  | some ms => truth ν ms
  | none => ν o

theorem truth_eq (ν : List Lexeme → Bool) (ls : List Lexeme) :
    truth ν ls = (cut outside ls).any fun c => c.all (operandTruth ν) := by
  rw [truth, List.any_subtype (g := fun c => c.all (operandTruth ν)), List.unattach_attach]
  intro c hc
  rw [List.all_subtype (g := operandTruth ν), List.unattach_attach]
  intro o ho
  unfold operandTruth
  split <;> simp_all

section Glue

variable {ν : List Lexeme → Bool} {as bs : List (List (List Lexeme))}

def anyTrue (ν : List Lexeme → Bool) (as : List (List (List Lexeme))) : Bool :=
  as.any fun c => c.all (operandTruth ν)

/-- Where the last alternative of one condition is taken together with the first of another, nothing
is lost that both of them allow. -/
theorem anyTrue_glue (ha : anyTrue ν as) (hb : anyTrue ν bs) : anyTrue ν (glue as bs) := by
  fun_induction glue as bs with
  | case1 bs => exact hb
  | case2 a => exact ha
  | case3 a b bs =>
    simp only [anyTrue, List.any_cons, List.any_nil, Bool.or_false, List.all_append] at ha hb ⊢
    simp_all
  | case4 a as bs _ _ ih =>
    simp only [anyTrue, List.any_cons, Bool.or_eq_true] at ha ih ⊢
    exact ha.imp_right fun h => ih h hb

theorem anyTrue_glue_of_length (ha : as.length = 1) (hb : bs.length = 1) :
    anyTrue ν (glue as bs) = (anyTrue ν as && anyTrue ν bs) := by
  obtain ⟨a, rfl⟩ := List.length_eq_one_iff.1 ha
  obtain ⟨b, rfl⟩ := List.length_eq_one_iff.1 hb
  simp [glue, anyTrue]

end Glue

section Numbers

/-- Two beginnings of words that are no keywords however they go on, or the same one. -/
def Alike (w v : Text) : Prop :=
  w = v ∨ (∃ c ∈ w, c.toUpper.isAlpha = false) ∧ ∃ c ∈ v, c.toUpper.isAlpha = false

theorem Alike.append {w v : Text} (h : Alike w v) (t : Text) : Alike (w ++ t) (v ++ t) := by
  rcases h with rfl | ⟨⟨c, hc, hw⟩, d, hd, hv⟩
  · exact .inl rfl
  · exact .inr ⟨⟨c, by simp [hc], hw⟩, d, by simp [hd], hv⟩

theorem Alike.role {w v : Text} (h : Alike w v) :
    (Lexeme.word w).role = (Lexeme.word v).role := by
  rcases h with rfl | ⟨⟨c, hc, hw⟩, d, hd, hv⟩
  · rfl
  · rw [Lexeme.role_word_of_mem hc hw, Lexeme.role_word_of_mem hd hv]

theorem Alike.wordOf {w v : Text} (h : Alike w v) :
    (wordOf w).map Lexeme.role = (wordOf v).map Lexeme.role := by
  rcases h with rfl | hne
  · rfl
  · have hw : w ≠ [] := by
      obtain ⟨⟨c, hc, -⟩, -⟩ := hne
      exact List.ne_nil_of_mem hc
    have hv : v ≠ [] := by
      obtain ⟨-, c, hc, -⟩ := hne
      exact List.ne_nil_of_mem hc
    simpa [Lexeme.wordOf, hw, hv] using Alike.role (.inr hne)

variable {quote : Option Char}

theorem scanFrom_wordParts (hq : ∀ q ∈ quote, isQuote q) {u : Text}
    (hu : ∀ c ∈ u, isWordPart c ∧ isQuote c = false) (w t : Text) :
    scanFrom quote w (u ++ t) = scanFrom quote (w ++ u) t := by
  induction u generalizing w with
  | nil => simp
  | cons c u ih =>
    obtain ⟨hc, hcq⟩ := hu c (by simp)
    have ht := ih (fun d hd => hu d (by simp [hd])) (w ++ [c])
    cases quote with
    | none => simpa [scanFrom, hc, hcq] using ht
    | some q =>
      have hne : c ≠ q := by
        rintro rfl
        simp [hq c rfl] at hcq
      simpa [scanFrom, hne] using ht

theorem quoteAfter_wordParts (hq : ∀ q ∈ quote, isQuote q) {u : Text}
    (hu : ∀ c ∈ u, isQuote c = false) (t : Text) : quoteAfter quote (u ++ t) = quoteAfter quote t := by
  induction u with
  | nil => rfl
  | cons c u ih =>
    have hcq := hu c (by simp)
    have ht := ih fun d hd => hu d (by simp [hd])
    cases quote with
    | none => simpa [quoteAfter, hcq] using ht
    | some q =>
      have hne : c ≠ q := by
        rintro rfl
        simp [hq c rfl] at hcq
      simpa [quoteAfter, hne] using ht

theorem isWordPart_marker : isWordPart '?' ∧ isQuote '?' = false := by
  decide

theorem isWordPart_of_mem_slotText {n : Nat} {c : Char}
    (h : c ∈ Placeholder.slotText ((n : Int) + 1)) : isWordPart c ∧ isQuote c = false := by
  have hn : ((n : Int) + 1) = ((n + 1 : Nat) : Int) := rfl
  rw [hn, Placeholder.slotText_natCast] at h
  rcases List.mem_cons.1 h with rfl | hd
  · decide
  · have hdigit := isDigit_of_mem_natText hd
    refine ⟨?_, ?_⟩
    · simp [isWordPart, isWordChar_of_isAlphanum, Char.isAlphanum, hdigit]
    · by_contra hq
      simp only [isQuote, Bool.not_eq_false, Bool.or_eq_true, beq_iff_eq] at hq
      rcases hq with rfl | rfl <;> exact absurd hdigit (by decide)

open Placeholder (numberMarkers slotText)

/-- A fragment is cut into lexemes of the same kinds before and after its markers are numbered. -/
theorem roles_scanFrom_numberMarkers (f : Text) (hq : ∀ q ∈ quote, isQuote q) {w v : Text}
    (h : Alike w v) (o : Nat) :
    (scanFrom quote v (numberMarkers o f)).map Lexeme.role = (scanFrom quote w f).map Lexeme.role := by
  induction f generalizing quote w v o with
  | nil => exact h.wordOf.symm
  | cons c f ih =>
    by_cases hc : c = '?'
    · subst hc
      have hmark : ∀ d ∈ ['?'], isWordPart d ∧ isQuote d = false :=
        List.forall_mem_singleton.2 isWordPart_marker
      have hslot := scanFrom_wordParts hq
        (fun d hd => isWordPart_of_mem_slotText (n := o) hd) v (numberMarkers ((o : Int) + 1) f)
      have hsame := scanFrom_wordParts hq hmark w f
      have halike : Alike (w ++ ['?']) (v ++ slotText ((o : Int) + 1)) :=
        .inr ⟨⟨'?', by simp, by decide⟩, '$', by simp [slotText], by decide⟩
      rw [numberMarkers, if_pos rfl, hslot]
      rw [List.singleton_append] at hsame
      rw [hsame]
      exact ih hq halike (o + 1)
    · have hnone : ∀ q ∈ (none : Option Char), isQuote q := by simp
      rw [numberMarkers, if_neg hc]
      cases quote with
      | some q =>
        simp only [scanFrom]
        split
        · simpa [(h.append [c]).role] using ih hnone (.inl rfl) o
        · exact ih hq (h.append [c]) o
      | none =>
        simp only [scanFrom]
        split
        · rename_i hcq
          have hopen : ∀ q ∈ some c, isQuote q := by simpa using hcq
          have ht := ih hopen (.inl rfl : Alike [c] [c]) o
          simp [h.wordOf, ht]
        split
        · exact ih hnone (h.append [c]) o
        · simpa [h.wordOf] using ih hnone (.inl rfl) o

theorem quoteAfter_numberMarkers (f : Text) (hq : ∀ q ∈ quote, isQuote q) (o : Nat) :
    quoteAfter quote (numberMarkers o f) = quoteAfter quote f := by
  induction f generalizing quote o with
  | nil => rfl
  | cons c f ih =>
    by_cases hc : c = '?'
    · subst hc
      have hmark : ∀ d ∈ ['?'], isQuote d = false :=
        List.forall_mem_singleton.2 isWordPart_marker.2
      have hslot := quoteAfter_wordParts hq
        (fun d hd => (isWordPart_of_mem_slotText (n := o) hd).2) (numberMarkers ((o : Int) + 1) f)
      have hsame := quoteAfter_wordParts hq hmark f
      rw [List.singleton_append] at hsame
      rw [numberMarkers, if_pos rfl, hslot, hsame]
      exact ih hq (o + 1)
    · rw [numberMarkers, if_neg hc]
      cases quote with
      | some q =>
        refine ih (fun d hd => hq d ?_) o
        split at hd <;> simp_all
      | none =>
        refine ih (fun d hd => ?_) o
        split at hd <;> simp_all

theorem roles_scan_numberMarkers (f : Text) (o : Nat) :
    (scan (numberMarkers o f)).map Lexeme.role = (scan f).map Lexeme.role :=
  roles_scanFrom_numberMarkers f (by simp) (.inl rfl) o

theorem Place.after_eq_of_roles {ls ms : List Lexeme} (h : ls.map Lexeme.role = ms.map Lexeme.role)
    (p : Place) : p.after ls = p.after ms := by
  have hfold : ∀ ks : List Lexeme, p.after ks = (ks.map Lexeme.role).foldl Place.next p :=
    fun ks => (List.foldl_map ..).symm
  rw [hfold, hfold, h]

theorem length_cut_of_roles {ls ms : List Lexeme} (h : ls.map Lexeme.role = ms.map Lexeme.role)
    (p : Place) : (cut p ls).length = (cut p ms).length := by
  induction ls generalizing ms p with
  | nil =>
    have hms : ms = [] := by simpa using h.symm
    rw [hms]
  | cons l ls ih =>
    cases ms with
    | nil => simp at h
    | cons m ms =>
      obtain ⟨hl, hls⟩ : l.role = m.role ∧ ls.map Lexeme.role = ms.map Lexeme.role := by simpa using h
      simp only [cut, hl]
      split
      · simp [ih hls]
      split <;> simp [ih hls]

theorem Closed.numberMarkers {f : Text} (h : Closed f) (o : Nat) : Closed (numberMarkers o f) where
  quotes := by rw [quoteAfter_numberMarkers f (by simp), h.quotes]
  brackets := by rw [Place.after_eq_of_roles (roles_scan_numberMarkers f o), h.brackets]

theorem length_alternatives_numberMarkers (f : Text) (o : Nat) :
    (alternatives (numberMarkers o f)).length = (alternatives f).length :=
  length_cut_of_roles (roles_scan_numberMarkers f o) outside

end Numbers

end BoundSql
