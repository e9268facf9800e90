import BoundSql.Proofs.LiteralReading
import BoundSql.Proofs.WordReading
/-!
Literals among other words. Every literal closes the quotes that it opens. Those that tell their
values begin and end so that no name or number goes on with them, and the texts that are read in them
are the texts of the value.
-/

namespace BoundSql

def Unquoted (t : Text) : Prop :=
  ∀ c ∈ t, isQuote c = false

instance (t : Text) : Decidable (Unquoted t) :=
  List.decidableBAll _ t

namespace Unquoted

variable {t u : Text} {c : Char}

theorem nil : Unquoted [] :=
  nofun

theorem not_mem (ht : Unquoted t) : '\'' ∉ t := fun hm => by
  have hquote := ht _ hm
  cases hquote

theorem append (ht : Unquoted t) (hu : Unquoted u) : Unquoted (t ++ u) := fun c hc =>
  (List.mem_append.1 hc).elim (ht c) (hu c)

theorem cons (hc : isQuote c = false) (ht : Unquoted t) : Unquoted (c :: t) := by
  rintro d (_ | ⟨_, hd⟩)
  · exact hc
  · exact ht d hd

theorem of_sublist (h : u.Sublist t) (ht : Unquoted t) : Unquoted u :=
  fun c hc => ht c (h.subset hc)

theorem replicate (n : Nat) (hc : isQuote c = false) : Unquoted (List.replicate n c) := by
  intro d hd
  rwa [List.eq_of_mem_replicate hd]

theorem joinWith {separator : Text} (hs : Unquoted separator) {ts : List Text}
    (h : ∀ t ∈ ts, Unquoted t) : Unquoted (joinWith separator ts) := by
  fun_induction BoundSql.joinWith separator ts with
  | case1 => exact nil
  | case2 t => exact h t (by simp)
  | case3 t u ts ih =>
    exact ((h t (by simp)).append hs).append (ih fun v hv => h v (List.mem_cons_of_mem _ hv))

theorem toDigits {base : Nat} (hb : 1 < base) (hle : base ≤ 16) (n : Nat) :
    Unquoted (Nat.toDigits base n) := by
  have hdigit : ∀ k < 16, isQuote k.digitChar = false := by decide
  induction n using Nat.strongRecOn with
  | ind n ih =>
    by_cases hn : n < base
    · rw [Nat.toDigits_of_lt_base hn]
      exact cons (hdigit n (by omega)) nil
    · have hmod := Nat.mod_lt n (by omega : 0 < base)
      rw [Nat.toDigits_of_base_le hb (by omega)]
      exact (ih (n / base) (Nat.div_lt_self (by omega) hb)).append
        (cons (hdigit _ (by omega)) nil)

theorem natText (n : Nat) : Unquoted (natText n) :=
  toDigits (by decide) (by decide) n

theorem paddedText (width n : Nat) : Unquoted (paddedText width n) :=
  (replicate _ (by decide)).append (natText n)

theorem bytesText (bs : List UInt8) : Unquoted (bytesText bs) := by
  intro c hc
  obtain ⟨b, -, hc⟩ := List.mem_flatMap.1 hc
  exact ((replicate _ (by decide)).append (toDigits (by decide) (by decide) _)) c hc

theorem intText (i : Int) : Unquoted (intText i) := by
  cases i with
  | ofNat n => exact natText n
  | negSucc n => exact cons (by decide) (natText (n + 1))

end Unquoted

theorem Binary64.unquoted_written (digits : Nat) (exponent : Int) :
    Unquoted (written digits exponent) := by
  have hds := Unquoted.natText digits
  unfold written
  generalize natText digits = ds at hds ⊢
  have htake : ∀ n, Unquoted (ds.take n) := fun n => hds.of_sublist (List.take_sublist n ds)
  have hdrop : ∀ n, Unquoted (ds.drop n) := fun n => hds.of_sublist (List.drop_sublist n ds)
  dsimp only
  split
  · split
    · exact (Unquoted.append (by decide) (.replicate _ (by decide))).append hds
    · split
      · exact (hds.append (.replicate _ (by decide))).append (by decide)
      · exact (htake _).append (.cons (by decide) (hdrop _))
  · refine .append ?_ (.cons (by decide) (.cons (by split <;> decide) (.paddedText 2 _)))
    split
    · exact .cons (hds _ (by simp)) (.cons (by decide) (hds.of_sublist (List.sublist_cons_self _ _)))
    · exact hds

theorem Binary64.unquoted_text (x : Binary64) : Unquoted x.text := by
  cases x with
  | nan => decide
  | infinite negative => cases negative <;> decide
  | finite negative m q =>
    have hbody : Unquoted (if m = 0 then "0.0".toList else
        written (dropZeros (shortest m q).1 (shortest m q).2 17).1
          (dropZeros (shortest m q).1 (shortest m q).2 17).2) := by
      split
      · decide
      · exact unquoted_written _ _
    cases negative with
    | false => exact hbody
    | true => exact .cons (by decide) hbody

theorem Decimal.unquoted_text (d : Decimal) : Unquoted d.text := by
  have hsign : ∀ negative : Bool, Unquoted (if negative then ['-'] else []) := by decide
  cases d with
  | infinite negative => exact (hsign negative).append (by decide)
  | nan negative signaling payload =>
    have hpayload : Unquoted (if payload = 0 then [] else BoundSql.natText payload) := by
      split
      · exact .nil
      · exact .natText payload
    exact (((hsign negative).append (by cases signaling <;> decide)).append (by decide)).append hpayload
  | finite negative c e =>
    refine (hsign negative).append ?_
    have hds := Unquoted.natText c
    unfold written
    generalize natText c = ds at hds ⊢
    have hbody : ∀ point : Int, Unquoted
        (if point ≤ 0 then "0.".toList ++ List.replicate point.natAbs '0' ++ ds
        else if (ds.length : Int) ≤ point then ds
        else ds.take point.natAbs ++ '.' :: ds.drop point.natAbs) := by
      intro point
      split
      · exact (Unquoted.append (by decide) (.replicate _ (by decide))).append hds
      · split
        · exact hds
        · exact (hds.of_sublist (List.take_sublist _ _)).append
            (.cons (by decide) (hds.of_sublist (List.drop_sublist _ _)))
    dsimp only
    generalize (if e ≤ 0 && -6 < (ds.length : Int) + e then (ds.length : Int) + e else 1) = point
    split
    · exact hbody point
    · exact (hbody point).append (.cons (by decide) (.cons (by split <;> decide) (.natText _)))

theorem Date.unquoted_text (d : Date) : Unquoted d.text :=
  .joinWith (by decide) fun t ht => by
    simp only [List.mem_cons, List.not_mem_nil, or_false] at ht
    rcases ht with rfl | rfl | rfl <;> exact .paddedText _ _

theorem unquoted_offsetText (offset : Int) : Unquoted (offsetText offset) := by
  have hpart : ∀ (p : Prop) [Decidable p] (c : Char) (width n : Nat), isQuote c = false →
      Unquoted (if p then [] else c :: paddedText width n) := by
    intro p _ c width n hc
    split
    · exact .nil
    · exact .cons hc (.paddedText width n)
  unfold offsetText
  exact (((Unquoted.cons (by split <;> decide) (.paddedText 2 _)).append
    (.cons (by decide) (.paddedText 2 _))).append (hpart _ _ _ _ (by decide))).append
      (hpart _ _ _ _ (by decide))

theorem TimeOfDay.unquoted_text (t : TimeOfDay) : Unquoted t.text := by
  have hclock : Unquoted (joinWith [':'] [paddedText 2 t.hour, paddedText 2 t.minute,
      paddedText 2 t.second]) := .joinWith (by decide) fun u hu => by
    simp only [List.mem_cons, List.not_mem_nil, or_false] at hu
    rcases hu with rfl | rfl | rfl <;> exact .paddedText _ _
  refine (hclock.append ?_).append ?_
  · split
    · exact .nil
    · exact .cons (by decide) (.paddedText 6 _)
  · cases t.offset with
    | none => exact .nil
    | some offset => exact unquoted_offsetText offset

theorem Moment.unquoted_text (m : Moment) : Unquoted m.text :=
  m.date.unquoted_text.append (.cons (by decide) m.time.unquoted_text)

section Enclosing

variable {t u : Text}

theorem quoteAfter_parentheses (ht : quoteAfter none t = none) :
    quoteAfter none ('(' :: t ++ [')']) = none := by
  have hopen : quoteAfter none ('(' :: (t ++ [')'])) = quoteAfter none (t ++ [')']) := rfl
  rw [List.cons_append, hopen, quoteAfter_append, ht]
  rfl

theorem textsOf_parentheses (ht : quoteAfter none t = none) :
    textsOf ('(' :: t ++ [')']) = textsOf t := by
  have hopen : Divides '(' := by decide
  have hclose : Divides ')' := by decide
  have hfront : textsOf (['('] ++ (t ++ [')'])) = textsOf ['('] ++ textsOf (t ++ [')']) :=
    textsOf_append rfl fun c hc d _ => by
      cases hc
      exact hopen.not_joins_left
  have hback : textsOf (t ++ [')']) = textsOf t ++ textsOf [')'] :=
    textsOf_append ht fun c _ d hd => by
      cases hd
      exact hclose.not_joins_right
  rw [List.cons_append, ← List.singleton_append, hfront, hback]
  exact List.append_nil _

theorem textsOf_comma (ht : quoteAfter none t = none) :
    textsOf (t ++ [',', ' '] ++ u) = textsOf t ++ textsOf u := by
  have hcomma : Divides ',' := by decide
  have hblank : Divides ' ' := by decide
  have hfront : textsOf (t ++ ([',', ' '] ++ u)) = textsOf t ++ textsOf ([',', ' '] ++ u) :=
    textsOf_append ht fun c _ d hd => by
      cases hd
      exact hcomma.not_joins_right
  have hback : textsOf ([',', ' '] ++ u) = textsOf [',', ' '] ++ textsOf u :=
    textsOf_append rfl fun c hc d _ => by
      cases hc
      exact hblank.not_joins_left
  rw [List.append_assoc, hfront, hback]
  rfl

end Enclosing

namespace Value

mutual

/-- Every literal closes the quotes that it opens. -/
theorem quoteAfter_literal : (v : Value) → quoteAfter none v.literal = none
  | null => rfl
  | bool b => by cases b <;> rfl
  | int n => quoteAfter_of_unquoted (Unquoted.intText n)
  | float x => quoteAfter_of_unquoted x.unquoted_text
  | decimal d => quoteAfter_of_unquoted d.unquoted_text
  | date d => quoteAfter_enclosed rfl d.unquoted_text.not_mem
  | time t => quoteAfter_enclosed rfl t.unquoted_text.not_mem
  | moment m => quoteAfter_enclosed rfl m.unquoted_text.not_mem
  | bytes bs => quoteAfter_enclosed (q := '\'') rfl (Unquoted.bytesText bs).not_mem
  | list vs | tuple vs => quoteAfter_parentheses (quoteAfter_literals vs)
  | text _ | uuid _ | set _ | fixedSet _ | mapping _ | object | callback => quoteAfter_quoteText _

theorem quoteAfter_literals : (vs : List Value) →
    quoteAfter none (joinWith [',', ' '] (literals vs)) = none
  | [] => rfl
  | [v] => quoteAfter_literal v
  | v :: u :: vs => by
    show quoteAfter none (v.literal ++ [',', ' '] ++ joinWith [',', ' '] (literals (u :: vs))) = none
    rw [quoteAfter_append, quoteAfter_append, quoteAfter_literal v]
    exact quoteAfter_literals (u :: vs)

end

mutual

def texts : Value → List Text
  | text s => [s.toList]
  | list vs => textsIn vs
  | _ => []

def textsIn : List Value → List Text
  | [] => []
  | v :: vs => texts v ++ textsIn vs

end

mutual

theorem textsOf_literal : (v : Value) → v.isReadable → textsOf v.literal = v.texts
  | null, _ => rfl
  | bool b, _ => by cases b <;> rfl
  | int n, _ => textsOf_of_unquoted (Unquoted.intText n)
  | text s, _ => congrArg (List.filterMap Word.text?) (wordsOf_quoteText s.toList)
  | list vs, hv => (textsOf_parentheses (quoteAfter_literals vs)).trans (textsOf_literals vs hv)

theorem textsOf_literals : (vs : List Value) → allReadable vs →
    textsOf (joinWith [',', ' '] (literals vs)) = textsIn vs
  | [], _ => rfl
  | [v], hv => by
    have hv : v.isReadable := (Bool.and_eq_true_iff.1 hv).1
    exact (textsOf_literal v hv).trans (List.append_nil _).symm
  | v :: u :: vs, hv => by
    obtain ⟨hv, hvs⟩ := Bool.and_eq_true_iff.1 hv
    show textsOf (v.literal ++ [',', ' '] ++ joinWith [',', ' '] (literals (u :: vs))) = _
    rw [textsOf_comma (quoteAfter_literal v), textsOf_literal v hv, textsOf_literals (u :: vs) hvs]
    rfl

end

theorem literal_ends {v : Value} (hv : v.isReadable) :
    (∀ c ∈ v.literal.head?, c ≠ '"') ∧ ∀ c ∈ v.literal.getLast?, c ≠ '"' ∧ c ≠ '-' := by
  have hdigit : ∀ {n : Nat} {c : Char}, c ∈ natText n → c ≠ '"' ∧ c ≠ '-' := by
    intro n c hc
    constructor <;> rintro rfl <;> exact absurd (isDigit_of_mem_natText hc) (by decide)
  cases v with
  | null => exact ⟨fun c hc => by cases hc; decide, fun c hc => by cases hc; decide⟩
  | bool b =>
    cases b <;> exact ⟨fun c hc => by cases hc; decide, fun c hc => by cases hc; decide⟩
  | text s =>
    refine ⟨by simp [literal, quoteText], fun c hc => ?_⟩
    cases hc.symm.trans (List.getLast?_concat (l := '\'' :: doubleQuotes s.toList))
    decide
  | list vs =>
    refine ⟨by simp [literal], fun c hc => ?_⟩
    cases hc.symm.trans (List.getLast?_concat (l := '(' :: joinWith [',', ' '] (literals vs)))
    decide
  | int i =>
    cases i with
    | ofNat n =>
      exact ⟨fun c hc => (hdigit (List.mem_of_head? hc)).1,
        fun c hc => hdigit (List.mem_of_getLast? hc)⟩
    | negSucc n =>
      refine ⟨by simp [literal, intText], fun c hc => ?_⟩
      have hlast : (int (.negSucc n)).literal.getLast? = (natText (n + 1)).getLast? :=
        List.getLast?_cons_of_ne_nil (natText_ne_nil (n + 1))
      rw [hlast] at hc
      exact hdigit (List.mem_of_getLast? hc)
  | _ => cases hv

end Value

end BoundSql
