import BoundSql.Proofs.MadeCondition
/-!
Which fragments are read again as they were numbered. The check of a fragment keeps numbers of the
caller's own out of it. But the number that takes the place of a marker goes on with the digits behind
the marker, so a fragment is read again as it was meant exactly when no digit follows a marker in it.
-/

namespace BoundSql

theorem le_foldl_digitValue? (digits : Text) (n : Nat) :
    n ≤ digits.foldl (fun n c => 10 * n + (digitValue? c).getD 0) n := by
  induction digits generalizing n with
  | nil => exact Nat.le_refl n
  | cons c digits ih =>
    have hstep : n ≤ 10 * n + (digitValue? c).getD 0 := by omega
    exact Nat.le_trans hstep (ih _)

theorem digitsValue_natText_append_eq_iff {n : Nat} (hn : 0 < n) (digits : Text) :
    digitsValue (natText n ++ digits) = n ↔ digits = [] := by
  constructor
  · intro h
    cases digits with
    | nil => rfl
    | cons c digits =>
      have hvalue := digitsValue_natText n
      unfold digitsValue at h hvalue
      rw [List.foldl_append, hvalue, List.foldl_cons] at h
      have hle := le_foldl_digitValue? digits (10 * n + (digitValue? c).getD 0)
      omega
  · rintro rfl
    rw [List.append_nil, digitsValue_natText]

namespace Token

def number? : Token → Option Nat
  | char _ => none
  | slot digits => some (digitsValue digits)

@[simp] theorem number?_char (c : Char) : number? (char c) = none := rfl

@[simp] theorem number?_slot (digits : Text) : number? (slot digits) = some (digitsValue digits) := rfl

def mark (marker : Text) : Token → Text
  | char c => [c]
  | slot _ => marker

@[simp] theorem mark_char (marker : Text) (c : Char) : mark marker (char c) = [c] := rfl

@[simp] theorem mark_slot (marker digits : Text) : mark marker (slot digits) = marker := rfl

theorem length_flatMap_mark (ks : List Token) : (ks.flatMap (mark ['?'])).length = ks.length := by
  induction ks with
  | nil => rfl
  | cons k ks ih => cases k <;> simp [ih]

theorem length_takeDigits (ks : List Token) :
    (takeDigits ks).1.length + (takeDigits ks).2.length = ks.length := by
  induction ks with
  | nil => rfl
  | cons k ks ih =>
    unfold takeDigits
    split
    · simp only [List.length_cons]
      omega
    · simp

theorem filterMap_number?_takeDigits (ks : List Token) :
    (takeDigits ks).2.filterMap number? = ks.filterMap number? := by
  induction ks with
  | nil => rfl
  | cons k ks ih =>
    cases k with
    | slot digits => rfl
    | char c =>
      unfold takeDigits
      split
      · exact ih
      · rfl

end Token

open Token (takeDigits)

namespace Placeholder

variable {o : Nat} {c : Char} {f t : Text}

theorem takeDigits_numberMarkers_eq_nil_iff :
    (takeDigits (Token.ofText (numberMarkers o t))).1 = [] ↔ ∀ d ∈ t.head?, ¬ isDecimalDigit d := by
  cases t with
  | nil => simp [numberMarkers, Token.ofText, takeDigits]
  | cons c t =>
    by_cases hq : c = '?'
    · subst hq
      have hn : ((o : Int) + 1) = ((o + 1 : Nat) : Int) := rfl
      rw [numberMarkers, if_pos rfl, hn, Token.ofText_slotText_append]
      have hmark : isDecimalDigit '?' = false := by decide
      simp [takeDigits, Token.digit?, hmark]
    · rw [numberMarkers, if_neg hq, Token.ofText]
      split
      · rename_i hc
        have hdollar : isDecimalDigit '$' = false := by decide
        subst hc
        unfold Token.addDollar
        split <;> simp [takeDigits, Token.digit?, hdollar]
      · by_cases hd : isDecimalDigit c <;> simp [takeDigits, Token.digit?, hd]

theorem ofText_numberMarkers_cons (hc : c ≠ '?') (h : SqlFragment.isNumbered (c :: t) = false) :
    Token.ofText (numberMarkers o (c :: t)) = .char c :: Token.ofText (numberMarkers o t) := by
  rw [numberMarkers, if_neg hc, Token.ofText]
  split
  · rename_i hdollar
    subst hdollar
    have hhead : ∀ d ∈ t.head?, ¬ isDecimalDigit d := by
      intro d hd
      have ht : t.head? = some d := hd
      simpa [SqlFragment.isNumbered, ht] using (Bool.or_eq_false_iff.1 h).1
    unfold Token.addDollar
    split
    · rfl
    · rename_i hsome hdigits
      have hnil := (takeDigits_numberMarkers_eq_nil_iff (o := o)).2 hhead
      rw [hdigits] at hnil
      exact absurd hnil (by simpa using hsome)
  · rfl

theorem ofText_numberMarkers_marker :
    Token.ofText (numberMarkers o ('?' :: t)) =
      .slot (natText (o + 1) ++ (takeDigits (Token.ofText (numberMarkers (o + 1 : Nat) t))).1) ::
        (takeDigits (Token.ofText (numberMarkers (o + 1 : Nat) t))).2 := by
  rw [numberMarkers, if_pos rfl]
  exact Token.ofText_slotText_append (o + 1) _

theorem indices_eq (t : Text) : indices t = (Token.ofText t).filterMap Token.number? := rfl

theorem positional_eq (marker t : Text) :
    positional marker t = (Token.ofText t).flatMap (Token.mark marker) := rfl

theorem markerCount_cons (c : Char) (t : Text) :
    markerCount (c :: t) = markerCount t + if c = '?' then 1 else 0 := by
  simp [markerCount, List.count_cons]

theorem markersApart_marker_iff :
    MarkersApart ('?' :: t) ↔ (∀ d ∈ t.head?, ¬ isDecimalDigit d) ∧ MarkersApart t := by
  cases t with
  | nil => simp [MarkersApart]
  | cons d t => simp [MarkersApart, List.isChain_cons_cons]

theorem markersApart_cons_iff (hc : c ≠ '?') : MarkersApart (c :: t) ↔ MarkersApart t := by
  cases t with
  | nil => simp [MarkersApart]
  | cons d t => simp [MarkersApart, List.isChain_cons_cons, hc]

/-- The numbers that are read are those that were written, exactly when no digit follows a marker. -/
theorem indices_numberMarkers_eq_iff (h : SqlFragment.isNumbered f = false) :
    indices (numberMarkers o f) = List.range' (o + 1) (markerCount f) ↔ MarkersApart f := by
  rw [indices_eq]
  induction f generalizing o with
  | nil => simp [numberMarkers, Token.ofText, markerCount, MarkersApart]
  | cons c t ih =>
    have ht : SqlFragment.isNumbered t = false := (Bool.or_eq_false_iff.1 h).2
    by_cases hc : c = '?'
    · subst hc
      rw [ofText_numberMarkers_marker, markersApart_marker_iff, markerCount_cons, if_pos rfl,
        List.range'_succ, List.filterMap_cons_some (Token.number?_slot _),
        Token.filterMap_number?_takeDigits, List.cons.injEq, ih ht,
        digitsValue_natText_append_eq_iff (Nat.succ_pos o), takeDigits_numberMarkers_eq_nil_iff]
    · rw [ofText_numberMarkers_cons hc h, markersApart_cons_iff hc, markerCount_cons, if_neg hc,
        Nat.add_zero (markerCount t), List.filterMap_cons_none (Token.number?_char c), ih ht]

theorem length_positional (t : Text) : (positional ['?'] t).length = (Token.ofText t).length :=
  Token.length_flatMap_mark _

theorem length_positional_numberMarkers_le (h : SqlFragment.isNumbered f = false) :
    (positional ['?'] (numberMarkers o f)).length ≤ f.length := by
  rw [length_positional]
  induction f generalizing o with
  | nil => exact Nat.le_refl 0
  | cons c t ih =>
    have ht := ih (o := o + 1) (Bool.or_eq_false_iff.1 h).2
    have ht' := ih (o := o) (Bool.or_eq_false_iff.1 h).2
    by_cases hc : c = '?'
    · subst hc
      have hlength := Token.length_takeDigits (Token.ofText (numberMarkers (o + 1 : Nat) t))
      rw [ofText_numberMarkers_marker, List.length_cons, List.length_cons]
      omega
    · rw [ofText_numberMarkers_cons hc h, List.length_cons, List.length_cons]
      omega

theorem positional_numberMarkers_cons (hc : c ≠ '?') (h : SqlFragment.isNumbered (c :: t) = false) :
    positional ['?'] (numberMarkers o (c :: t)) = c :: positional ['?'] (numberMarkers o t) := by
  rw [positional_eq, ofText_numberMarkers_cons hc h]
  rfl

theorem positional_numberMarkers_eq_iff (h : SqlFragment.isNumbered f = false) :
    positional ['?'] (numberMarkers o f) = f ↔ MarkersApart f := by
  induction f generalizing o with
  | nil => simp [numberMarkers, positional, Token.ofText, MarkersApart]
  | cons c t ih =>
    have ht : SqlFragment.isNumbered t = false := (Bool.or_eq_false_iff.1 h).2
    by_cases hc : c = '?'
    · subst hc
      rw [markersApart_marker_iff, ← takeDigits_numberMarkers_eq_nil_iff (o := o + 1),
        ← ih ht (o := o + 1), positional_eq, ofText_numberMarkers_marker, List.flatMap_cons,
        Token.mark_slot, List.singleton_append, List.cons.injEq, positional_eq]
      generalize hks : Token.ofText (numberMarkers (o + 1 : Nat) t) = ks
      constructor
      · rintro ⟨-, hrest⟩
        -- Where digits get lost, what comes out is too short.
        have hle := length_positional_numberMarkers_le (o := o + 1) ht
        have hlength := Token.length_takeDigits ks
        have hsame := congrArg List.length hrest
        rw [length_positional, hks] at hle
        rw [Token.length_flatMap_mark] at hsame
        have hnil : (takeDigits ks).1 = [] := List.eq_nil_of_length_eq_zero (by omega)
        rw [Token.snd_takeDigits_of_nil hnil] at hrest
        exact ⟨hnil, hrest⟩
      · rintro ⟨hnil, hrest⟩
        rw [Token.snd_takeDigits_of_nil hnil]
        exact ⟨rfl, hrest⟩
    · rw [positional_numberMarkers_cons hc h, markersApart_cons_iff hc, List.cons.injEq, ih ht]
      exact and_iff_right rfl

end Placeholder

namespace Condition

/-- A fragment that was admitted with its values can be numbered from anywhere on. Its numbers are
read again, and the fragment comes out again without them, exactly when no digit follows a marker. -/
theorem makeRaw_legible_iff {conjunction : Conjunction} {clause : String} {fragment params : Value}
    {c : Condition} (h : makeRaw conjunction clause fragment params = .ok c) (o : Nat) :
    ∃ vs t, fragment = .text c.column ∧ c.value = .list vs ∧
      Placeholder.renumber c.column.toList o vs.length = .ok t ∧
      (Placeholder.indices t = List.range' (o + 1) vs.length ↔
        Placeholder.MarkersApart c.column.toList) ∧
      (Placeholder.positional ['?'] t = c.column.toList ↔
        Placeholder.MarkersApart c.column.toList) := by
  obtain ⟨sql, vs, rfl, ⟨-, hnumbered⟩, -, hcount, rfl⟩ := makeRaw_eq_ok h
  refine ⟨vs, Placeholder.numberMarkers o sql.toList, rfl, rfl, ?_, ?_, ?_⟩
  · exact if_pos (congrArg Nat.cast hcount)
  · rw [← hcount]
    exact Placeholder.indices_numberMarkers_eq_iff hnumbered
  · exact Placeholder.positional_numberMarkers_eq_iff hnumbered

theorem makeRaw_legible_iff_escaped :
    ∃ c, makeRaw .or "WHERE" (.text "a = ? OR $? = b") (.list [.int 5, .null]) = .ok c ∧
      Placeholder.MarkersApart c.column.toList ∧
      ∃ vs t, c.value = .list vs ∧ Placeholder.renumber c.column.toList 9 vs.length = .ok t ∧
        Placeholder.indices t = [10, 11] ∧ Placeholder.positional ['?'] t = c.column.toList := by
  let c : Condition :=
    { conjunction := .or, column := "a = ? OR $? = b", operator := .raw, value := .list [.int 5, .null] }
  have hmade : makeRaw .or "WHERE" (.text "a = ? OR $? = b") (.list [.int 5, .null]) = .ok c := rfl
  have hapart : Placeholder.MarkersApart c.column.toList := by decide
  obtain ⟨vs, t, -, hvs, ht, hindices, hpositional⟩ := makeRaw_legible_iff hmade 9
  cases hvs
  exact ⟨c, hmade, hapart, _, t, rfl, ht, hindices.2 hapart, hpositional.2 hapart⟩

/-- A digit behind a marker is admitted, but it is read together with the number. -/
theorem makeRaw_digit_behind_marker :
    ∃ c t, makeRaw .and "WHERE" (.text "x = ?1") (.list [.int 5]) = .ok c ∧
      Placeholder.renumber c.column.toList 0 1 = .ok t ∧
      Placeholder.indices t = [11] ∧ Placeholder.indices t ≠ List.range' (0 + 1) 1 ∧
      Placeholder.positional ['?'] t = "x = ?".toList ∧
      Placeholder.positional ['?'] t ≠ c.column.toList :=
  ⟨_, _, rfl, rfl, by decide, by decide, by decide, by decide⟩

end Condition

end BoundSql
