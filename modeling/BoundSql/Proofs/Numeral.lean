import BoundSql.Placeholder
import Mathlib.Algebra.Group.Nat.Defs
/-!
Decimal numerals: what is written for a number consists of decimal digits, is read as that number,
and is the longer the greater the number is.
-/

namespace BoundSql

theorem digitValue?_of_isDigit {c : Char} (h : c.isDigit) :
    digitValue? c = some (c.toNat - 48) := by
  have hb : 48 ≤ c.toNat ∧ c.toNat ≤ 57 := Char.isDigit_iff_toNat.1 h
  have h1 : decide (48 ≤ c.toNat) = true := decide_eq_true hb.1
  have h2 : decide (c.toNat < 48 + 10) = true := decide_eq_true (by omega)
  simp only [digitValue?, zeroDigits, List.find?, h1, h2, Bool.and_true, Option.map_some]

theorem isDecimalDigit_of_isDigit {c : Char} (h : c.isDigit) : isDecimalDigit c := by
  simp [isDecimalDigit, digitValue?_of_isDigit h]

theorem foldl_digitValue? (digits : Text) (h : ∀ c ∈ digits, c.isDigit) (n : Nat) :
    digits.foldl (fun n c => 10 * n + (digitValue? c).getD 0) n =
      Nat.ofDigitChars 10 digits n := by
  induction digits generalizing n with
  | nil => rfl
  | cons c digits ih =>
    have hc := digitValue?_of_isDigit (h c (by simp))
    simp only [List.foldl_cons, hc, Option.getD_some, Nat.ofDigitChars_cons]
    exact ih (fun d hd => h d (by simp [hd])) _

theorem isDigit_of_mem_natText {n : Nat} {c : Char} (h : c ∈ natText n) : c.isDigit :=
  Nat.isDigit_of_mem_toDigits (by decide) (by decide) h

theorem natText_ne_nil (n : Nat) : natText n ≠ [] :=
  Nat.toDigits_ne_nil

@[simp] theorem digitsValue_natText (n : Nat) : digitsValue (natText n) = n := by
  unfold digitsValue
  rw [foldl_digitValue? _ fun c => isDigit_of_mem_natText]
  exact Nat.ofDigitChars_ten_toDigits

theorem length_natText_pos (n : Nat) : 0 < (natText n).length :=
  Nat.length_toDigits_pos

theorem length_natText_le_iff {n l : Nat} (hl : 0 < l) : (natText n).length ≤ l ↔ n < 10 ^ l :=
  Nat.length_toDigits_le_iff (by decide) hl

theorem lt_pow_length_natText (n : Nat) : n < 10 ^ (natText n).length :=
  (length_natText_le_iff (length_natText_pos n)).1 (Nat.le_refl _)

theorem length_natText_le {m n : Nat} (h : m ≤ n) :
    (natText m).length ≤ (natText n).length :=
  (length_natText_le_iff (length_natText_pos n)).2 (Nat.lt_of_le_of_lt h (lt_pow_length_natText n))

theorem length_natText_add_le (m n : Nat) :
    (natText (m + n)).length ≤ (natText m).length + (natText n).length := by
  have hm : 10 ^ 1 ≤ 10 ^ (natText m).length :=
    Nat.pow_le_pow_right (by decide) (length_natText_pos m)
  have hn : 10 ^ 1 ≤ 10 ^ (natText n).length :=
    Nat.pow_le_pow_right (by decide) (length_natText_pos n)
  refine (length_natText_le_iff (Nat.add_pos_left (length_natText_pos m) _)).2 ?_
  calc m + n
    _ < 10 ^ (natText m).length + 10 ^ (natText n).length :=
        Nat.add_lt_add (lt_pow_length_natText m) (lt_pow_length_natText n)
    _ ≤ 10 ^ (natText m).length * 10 ^ (natText n).length := Nat.add_le_mul (by omega) (by omega)
    _ = 10 ^ ((natText m).length + (natText n).length) := (Nat.pow_add ..).symm

/-- The number that a run of digits writes needs no more digits, whatever the script and with zeros
in front or not. -/
theorem digitsValue_lt (digits : Text) : digitsValue digits < 10 ^ digits.length := by
  have hfold : ∀ n, digits.foldl (fun n c => 10 * n + (digitValue? c).getD 0) n <
      (n + 1) * 10 ^ digits.length := by
    induction digits with
    | nil => simp
    | cons c digits ih =>
      intro n
      have hc : (digitValue? c).getD 0 < 10 := by
        cases hd : digitValue? c with
        | none => decide
        | some d => exact digitValue?_lt_ten hd
      calc digits.foldl _ (10 * n + (digitValue? c).getD 0)
        _ < (10 * n + (digitValue? c).getD 0 + 1) * 10 ^ digits.length := ih _
        _ ≤ (n + 1) * 10 * 10 ^ digits.length := Nat.mul_le_mul_right _ (by omega)
        _ = (n + 1) * 10 ^ (digits.length + 1) := by rw [Nat.pow_succ', Nat.mul_assoc]
  simpa [digitsValue] using hfold 0

theorem length_natText_digitsValue_le {digits : Text} (h : digits ≠ []) :
    (natText (digitsValue digits)).length ≤ digits.length :=
  (length_natText_le_iff (List.length_pos_iff.2 h)).2 (digitsValue_lt digits)

@[simp] theorem intText_natCast (n : Nat) : intText (n : Int) = natText n := rfl

namespace Placeholder

@[simp] theorem slotText_natCast (n : Nat) : slotText (n : Int) = '$' :: natText n := rfl

theorem length_natText_le_maxDigits {n values : Nat} (h : n ≤ values) :
    (natText n).length ≤ maxDigits values :=
  Nat.le_trans (length_natText_le h) (Nat.le_max_right ..)

theorem isWritable_natCast (limit n : Nat) : isWritable limit n ↔ (natText n).length ≤ limit := by
  simp [isWritable]

theorem areWritable_natCast (limit n count : Nat) :
    areWritable limit n count ↔ (count ≠ 0 → (natText (n + count)).length ≤ limit) := by
  have hfirst : (n : Int) + 1 = (n + 1 : Nat) := rfl
  have hlast : (n : Int) + count = (n + count : Nat) := rfl
  unfold areWritable
  rw [hfirst, hlast, Bool.or_eq_true, Bool.and_eq_true, isWritable_natCast, isWritable_natCast,
    decide_eq_true_eq]
  constructor
  · rintro (rfl | ⟨-, h⟩) hc
    · exact absurd rfl hc
    · exact h
  · intro h
    by_cases hc : count = 0
    · exact .inl hc
    · exact .inr ⟨Nat.le_trans (length_natText_le (by omega)) (h hc), h hc⟩

end Placeholder

end BoundSql
