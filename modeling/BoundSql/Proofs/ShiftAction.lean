import BoundSql.Proofs.MarkerReading
/-!
Shifting the numbers of a text, whoever wrote it, acts on the text as adding does on the numbers: no
pass makes, merges or splits a slot, so a second pass shifts the very slots that the first one wrote.
Only a limit on the length of numerals can keep a pass from its end, and two passes meet it exactly
when one that goes as far does.
-/

namespace BoundSql

namespace Token

def raise (a : Nat) : Token → Token
  | char c => char c
  | slot digits => slot (natText (digitsValue digits + a))

@[simp] theorem raise_char (a : Nat) (c : Char) : raise a (char c) = char c := rfl

@[simp] theorem raise_slot (a : Nat) (digits : Text) :
    raise a (slot digits) = slot (natText (digitsValue digits + a)) := rfl

section Raise

variable (a b : Nat) (k : Token)

@[simp] theorem number?_raise : (k.raise a).number? = k.number?.map (· + a) := by
  cases k <;> simp

@[simp] theorem mark_raise (marker : Text) : (k.raise a).mark marker = k.mark marker := by
  cases k <;> rfl

@[simp] theorem raise_raise : (k.raise a).raise b = k.raise (a + b) := by
  cases k <;> simp [Nat.add_assoc]

theorem apart_raise {k l : Token} (h : Apart k l) : Apart (k.raise a) (l.raise a) := by
  cases k <;> cases l <;> exact h

theorem isWhole_raise {k : Token} (h : k.IsWhole) : (k.raise a).IsWhole := by
  cases k with
  | char c => exact h
  | slot digits => exact isWhole_natText _

end Raise

theorem AreCut.raise {ks : List Token} (h : AreCut ks) (a : Nat) : AreCut (ks.map (raise a)) := by
  constructor
  · intro l hl
    obtain ⟨k, hk, rfl⟩ := List.mem_map.1 hl
    exact isWhole_raise a (h.whole k hk)
  · exact (List.isChain_map _).2 (h.apart.imp fun _ _ => apart_raise a)

end Token

namespace Placeholder

open Token (raise)

@[simp] theorem shift_zero (t : Text) : shift 0 t = t :=
  if_pos rfl

theorem shift_natCast {a : Nat} (ha : a ≠ 0) (t : Text) :
    shift a t = ((Token.ofText t).map (raise a)).flatMap Token.text := by
  unfold shift
  rw [if_neg (Int.natCast_ne_zero.2 ha), List.flatMap_map]
  refine congrArg (Token.ofText t).flatMap (funext fun k => ?_)
  cases k <;> rfl

/-- A second pass reads what the first one wrote, token by token. -/
theorem ofText_shift {a : Nat} (ha : a ≠ 0) (t : Text) :
    Token.ofText (shift a t) = (Token.ofText t).map (raise a) :=
  Token.ofText_eq_iff.2 ⟨(Token.areCut_ofText t).raise a, (shift_natCast ha t).symm⟩

theorem indices_shift (a : Nat) (t : Text) : indices (shift a t) = (indices t).map (· + a) := by
  by_cases ha : a = 0
  · -- Nothing is written anew, so zeros in front and digits of other scripts stay.
    subst ha
    simp
  · rw [indices_eq, indices_eq, ofText_shift ha, List.filterMap_map, List.map_filterMap]
    exact congrArg (List.filterMap · _) (funext (Token.number?_raise a))

theorem shift_shift (a b : Nat) (t : Text) : shift b (shift a t) = shift (a + b : Nat) t := by
  by_cases ha : a = 0
  · simp [ha]
  by_cases hb : b = 0
  · simp [hb]
  have hab : a + b ≠ 0 := by omega
  rw [shift_natCast hb, shift_natCast hab, ofText_shift ha, List.map_map]
  exact congrArg (fun f => ((Token.ofText t).map f).flatMap Token.text)
    (funext (Token.raise_raise a b))

theorem positional_shift (a : Nat) (marker t : Text) :
    positional marker (shift a t) = positional marker t := by
  by_cases ha : a = 0
  · simp [ha]
  · rw [positional_eq, positional_eq, ofText_shift ha, List.flatMap_map]
    exact congrArg (Token.ofText t).flatMap (funext fun k => Token.mark_raise a k marker)

theorem mem_indices_iff {n : Nat} {t : Text} :
    n ∈ indices t ↔ ∃ digits, .slot digits ∈ Token.ofText t ∧ digitsValue digits = n := by
  rw [indices_eq, List.mem_filterMap]
  constructor
  · rintro ⟨k, hk, hn⟩
    cases k with
    | char c => cases hn
    | slot digits => exact ⟨digits, hk, Option.some.inj hn⟩
  · rintro ⟨digits, hd, rfl⟩
    exact ⟨_, hd, rfl⟩

def IsReadable (limit : Nat) (t : Text) : Prop :=
  ∀ digits, .slot digits ∈ Token.ofText t → digits.length ≤ limit

/-- No number of a text has more digits than are written when it is raised. -/
def IsRaisable (limit a : Nat) (t : Text) : Prop :=
  ∀ n ∈ indices t, (natText (n + a)).length ≤ limit

theorem IsRaisable.of_le {limit a b : Nat} {t : Text} (h : IsRaisable limit b t) (hle : a ≤ b) :
    IsRaisable limit a t :=
  fun n hn => Nat.le_trans (length_natText_le (Nat.add_le_add_left hle n)) (h n hn)

section

variable {limit a b : Nat} {t u : Text}

theorem isLegible_iff : isLegible limit a t ↔ IsReadable limit t ∧ IsRaisable limit a t := by
  have hsum (n : Nat) : isWritable limit (n + a) ↔ (natText (n + a)).length ≤ limit :=
    isWritable_natCast limit (n + a)
  unfold isLegible
  rw [List.all_eq_true]
  constructor
  · intro h
    refine ⟨fun digits hd => ?_, fun n hn => ?_⟩
    · have hslot := h _ hd
      rw [Bool.and_eq_true] at hslot
      exact of_decide_eq_true hslot.1
    · obtain ⟨digits, hd, rfl⟩ := mem_indices_iff.1 hn
      have hslot := h _ hd
      rw [Bool.and_eq_true] at hslot
      exact (hsum _).1 hslot.2
  · rintro ⟨hread, hraise⟩ k hk
    cases k with
    | char c => rfl
    | slot digits =>
      have hn : digitsValue digits ∈ indices t := mem_indices_iff.2 ⟨digits, hk, rfl⟩
      exact Bool.and_eq_true_iff.2 ⟨decide_eq_true (hread digits hk), (hsum _).2 (hraise _ hn)⟩

/-- What is read can be written anew, for a numeral loses zeros at most. -/
theorem IsReadable.isRaisable (h : IsReadable limit t) : IsRaisable limit 0 t := by
  intro n hn
  obtain ⟨digits, hd, rfl⟩ := mem_indices_iff.1 hn
  have hwhole : digits ≠ [] ∧ _ := (Token.areCut_ofText t).whole _ hd
  exact Nat.le_trans (length_natText_digitsValue_le hwhole.1) (h digits hd)

theorem isLegible_zero : isLegible limit 0 t ↔ IsReadable limit t :=
  isLegible_iff.trans (and_iff_left_of_imp IsReadable.isRaisable)

theorem isReadable_shift (ha : a ≠ 0) : IsReadable limit (shift a t) ↔ IsRaisable limit a t := by
  unfold IsReadable
  rw [ofText_shift ha]
  constructor
  · intro h n hn
    obtain ⟨digits, hd, rfl⟩ := mem_indices_iff.1 hn
    exact h _ (List.mem_map.2 ⟨_, hd, rfl⟩)
  · intro h digits hd
    obtain ⟨k, hk, hraise⟩ := List.mem_map.1 hd
    cases k with
    | char c => cases hraise
    | slot before =>
      cases hraise
      exact h _ (mem_indices_iff.2 ⟨before, hk, rfl⟩)

theorem isRaisable_shift : IsRaisable limit b (shift a t) ↔ IsRaisable limit (a + b) t := by
  unfold IsRaisable
  rw [indices_shift, List.forall_mem_map]
  simp only [Nat.add_assoc]

theorem isLegible_add (ha : a ≠ 0) :
    isLegible limit (a + b : Nat) t ↔ isLegible limit a t ∧ isLegible limit b (shift a t) := by
  rw [isLegible_iff, isLegible_iff, isLegible_iff, isReadable_shift ha, isRaisable_shift]
  constructor
  · rintro ⟨hread, hraise⟩
    have hless := hraise.of_le (Nat.le_add_right a b)
    exact ⟨⟨hread, hless⟩, hless, hraise⟩
  · rintro ⟨⟨hread, -⟩, -, hraise⟩
    exact ⟨hread, hraise⟩

theorem shiftWithin_of_isLegible (h : isLegible limit a t) :
    shiftWithin limit a t = .ok (shift a t) := by
  simp [shiftWithin, h]

theorem shiftWithin_of_not_isLegible (ha : a ≠ 0) (h : ¬ isLegible limit a t) :
    shiftWithin limit a t = .error .longNumeral := by
  simp [shiftWithin, h, ha]

theorem shiftWithin_eq_ok (h : shiftWithin limit a t = .ok u) :
    u = shift a t ∧ (a = 0 ∨ isLegible limit a t) := by
  unfold shiftWithin at h
  split at h
  · rename_i hc
    cases h
    exact ⟨rfl, by simpa using hc⟩
  · cases h

theorem shiftWithin_shiftWithin (limit a b : Nat) (t : Text) :
    (shiftWithin limit a t).bind (shiftWithin limit b) = shiftWithin limit (a + b : Nat) t := by
  by_cases ha : a = 0
  · subst ha
    rw [Nat.zero_add]
    rfl
  by_cases hb : b = 0
  · subst hb
    rw [Nat.add_zero]
    cases shiftWithin limit a t <;> rfl
  have hab : a + b ≠ 0 := by omega
  by_cases hfirst : isLegible limit a t
  · rw [shiftWithin_of_isLegible hfirst]
    show shiftWithin limit b (shift a t) = _
    by_cases hsecond : isLegible limit b (shift a t)
    · have hboth := (isLegible_add ha).2 ⟨hfirst, hsecond⟩
      rw [shiftWithin_of_isLegible hsecond, shiftWithin_of_isLegible hboth, shift_shift]
    · have hneither := fun h => hsecond ((isLegible_add ha).1 h).2
      rw [shiftWithin_of_not_isLegible hb hsecond, shiftWithin_of_not_isLegible hab hneither]
  · have hneither := fun h => hfirst ((isLegible_add (b := b) ha).1 h).1
    rw [shiftWithin_of_not_isLegible ha hfirst, shiftWithin_of_not_isLegible hab hneither]
    rfl

theorem indicesWithin_of_isReadable (h : IsReadable limit t) :
    indicesWithin limit t = .ok (indices t) :=
  if_pos (isLegible_zero.2 h)

theorem indicesWithin_of_shiftWithin (h : shiftWithin limit a t = .ok u) :
    indicesWithin limit u = (indicesWithin limit t).map (List.map (· + a)) := by
  by_cases ha : a = 0
  · subst ha
    cases h
    simp only [Int.natCast_zero, shift_zero, Nat.add_zero]
    cases indicesWithin limit t with
    | error e => rfl
    | ok ns => exact congrArg Except.ok (List.map_id' ns).symm
  · obtain ⟨rfl, hlegible⟩ := shiftWithin_eq_ok h
    obtain ⟨hread, hraise⟩ := isLegible_iff.1 (hlegible.resolve_left ha)
    rw [indicesWithin_of_isReadable hread,
      indicesWithin_of_isReadable ((isReadable_shift ha).2 hraise), indices_shift]
    rfl

theorem isReadable_of_length_le (h : t.length ≤ limit) : IsReadable limit t := by
  intro digits hd
  have hpart := (List.sublist_flatten_of_mem (List.mem_map_of_mem (f := Token.text) hd)).length_le
  rw [← List.flatMap_def, Token.flatMap_text_ofText] at hpart
  exact Nat.le_trans (Nat.le_of_succ_le hpart) h

/-- A limit is not met that leaves room for the text and for what is added to its numbers. -/
theorem isLegible_of_length_le (h : t.length + (natText a).length ≤ limit) :
    isLegible limit a t := by
  have hread : IsReadable t.length t := isReadable_of_length_le (Nat.le_refl _)
  refine isLegible_iff.2 ⟨isReadable_of_length_le (by omega), fun n hn => ?_⟩
  calc (natText (n + a)).length
    _ ≤ (natText n).length + (natText a).length := length_natText_add_le n a
    _ ≤ t.length + (natText a).length := Nat.add_le_add_right (hread.isRaisable n hn) _
    _ ≤ limit := h

end

/-- Shifting acts on every text. The numbers that are read are raised, shifts add up, and without its
numbers the text is the same. Under a limit on numerals this holds of all that is written, shifts add
up or fail together, and there is always a limit under which nothing fails. -/
theorem shift_acts (marker t : Text) (a b : Nat) :
    indices (shift a t) = (indices t).map (· + a) ∧
      shift b (shift a t) = shift (a + b : Nat) t ∧
      positional marker (shift a t) = positional marker t ∧
      ∀ limit : Nat,
        (shiftWithin limit a t).bind (shiftWithin limit b) = shiftWithin limit (a + b : Nat) t ∧
        (∀ u, shiftWithin limit a t = .ok u →
          indicesWithin limit u = (indicesWithin limit t).map (List.map (· + a)) ∧
            positional marker u = positional marker t) ∧
        (t.length + (natText a).length ≤ limit →
          shiftWithin limit a t = .ok (shift a t) ∧ indicesWithin limit t = .ok (indices t)) := by
  refine ⟨indices_shift a t, shift_shift a b t, positional_shift a marker t, fun limit => ?_⟩
  refine ⟨shiftWithin_shiftWithin limit a b t, fun u hu => ?_, fun hroom => ?_⟩
  · obtain ⟨rfl, -⟩ := shiftWithin_eq_ok hu
    exact ⟨indicesWithin_of_shiftWithin hu, positional_shift a marker t⟩
  · have hread : IsReadable limit t := isReadable_of_length_le (by omega)
    exact ⟨shiftWithin_of_isLegible (isLegible_of_length_le hroom),
      indicesWithin_of_isReadable hread⟩

def looseText : Text := "$$09, $٩٩$1x$".toList

theorem shift_acts_looseText :
    indices (shift 1 looseText) = [10, 100, 2] ∧
      shift 9 (shift 1 looseText) = "$$19, $109$11x$".toList ∧
      positional ['?'] (shift 1 looseText) = "$?, ??x$".toList ∧
      shiftWithin 3 1 looseText = .ok "$$10, $100$2x$".toList ∧
      indicesWithin 3 "$$10, $100$2x$".toList = .ok [10, 100, 2] ∧
      looseText.length + (natText 1).length ≤ 14 ∧
      shiftWithin 14 1 looseText = .ok (shift 1 looseText) := by
  obtain ⟨hindices, hshift, hpositional, hlimit⟩ := shift_acts ['?'] looseText 1 9
  have hwritten : shiftWithin 3 1 looseText = .ok "$$10, $100$2x$".toList := by decide +kernel
  have hroom : looseText.length + (natText 1).length ≤ 14 := by decide +kernel
  have hread : indicesWithin 3 looseText = .ok [9, 99, 1] := by decide +kernel
  refine ⟨hindices.trans ?_, hshift.trans ?_, hpositional.trans ?_, hwritten, ?_, hroom, ?_⟩
  · decide +kernel
  · decide +kernel
  · decide +kernel
  · rw [((hlimit 3).2.1 _ hwritten).1, hread]
    rfl
  · exact ((hlimit 14).2.2 hroom).1

example : indicesWithin 2 "$99".toList = .ok [99] ∧
    shiftWithin 2 1 "$99".toList = .error .longNumeral := by
  decide +kernel

end Placeholder

end BoundSql
