import BoundSql.Proofs.Template
import BoundSql.Proofs.TokenCut
/-!
How numbered text is read again. When no digit stands behind a value or a dollar sign of a template,
the tokens of its numbered text are its characters and one slot for each value, so that all that is
done to slots can be told from the template.
-/

namespace BoundSql

namespace Piece

/-- Whether a digit that follows would be read together with the piece. -/
def opensSlot : Piece → Bool
  | char c => c == '$'
  | value _ => true

def isDigit : Piece → Bool
  | char c => isDecimalDigit c
  | value _ => false

def Apart (p q : Piece) : Prop :=
  p.opensSlot → ¬ q.isDigit

end Piece

namespace Template

/-- No value and no dollar sign stands in front of a digit. -/
def Separated (T : Template) : Prop :=
  T.IsChain Piece.Apart

def tokens (o : Nat) : Template → List Token
  | [] => []
  | .char c :: T => .char c :: tokens o T
  | .value _ :: T => .slot (natText (o + 1)) :: tokens (o + 1) T

theorem digit?_head_tokens {o : Nat} {p : Piece} {T : Template} (h : Separated (p :: T))
    (hp : p.opensSlot) : ∀ k ∈ (tokens o T).head?, k.digit? = none := by
  cases T with
  | nil => simp [tokens]
  | cons q T =>
    have hq : ¬ q.isDigit := (List.isChain_cons_cons.1 h).1 hp
    cases q with
    | char c =>
      have hc : isDecimalDigit c = false := by simpa [Piece.isDigit] using hq
      simp [tokens, Token.digit?, hc]
    | value v => simp [tokens, Token.digit?]

theorem flatMap_text_tokens (o : Nat) (T : Template) :
    (tokens o T).flatMap Token.text = number o T := by
  induction T generalizing o with
  | nil => rfl
  | cons p T ih =>
    cases p with
    | char c => simp [tokens, Token.text, ih]
    | value v =>
      have hslot : Placeholder.slotText ((o : Int) + 1) = '$' :: natText (o + 1) := rfl
      simpa [tokens, Token.text, hslot] using ih (o + 1)

theorem areCut_tokens {T : Template} (h : T.Separated) (o : Nat) : Token.AreCut (tokens o T) := by
  induction T generalizing o with
  | nil => exact .nil
  | cons p T ih =>
    have hT : Separated T := List.IsChain.of_cons h
    cases p with
    | char c =>
      refine Token.areCut_cons_iff.2 ⟨trivial, fun l hl hc => ?_, ih hT o⟩
      exact digit?_head_tokens h hc l hl
    | value v =>
      refine Token.areCut_cons_iff.2 ⟨Token.isWhole_natText _, fun l hl _ => ?_, ih hT (o + 1)⟩
      exact digit?_head_tokens h rfl l hl

theorem ofText_number {T : Template} (h : T.Separated) (o : Nat) :
    Token.ofText (number o T) = tokens o T :=
  Token.ofText_eq_iff.2 ⟨areCut_tokens h o, flatMap_text_tokens o T⟩

theorem indices_number {T : Template} (h : T.Separated) (o : Nat) :
    Placeholder.indices (number o T) = List.range' (o + 1) (values T).length := by
  unfold Placeholder.indices
  rw [ofText_number h]
  clear h
  induction T generalizing o with
  | nil => rfl
  | cons p T ih =>
    cases p with
    | char c => simpa [tokens] using ih o
    | value v => simpa [tokens, List.range'_succ] using ih (o + 1)

/-- Shifting the slots is the same as numbering from a greater number. -/
theorem shift_number {T : Template} (h : T.Separated) (o k : Nat) :
    Placeholder.shift k (number o T) = number ((o + k : Nat) : Int) T := by
  unfold Placeholder.shift
  split
  · rename_i hk
    have hk0 : k = 0 := by omega
    rw [hk0, Nat.add_zero]
  · rw [ofText_number h]
    clear h
    induction T generalizing o with
    | nil => rfl
    | cons p T ih =>
      cases p with
      | char c => simpa [tokens] using ih o
      | value v =>
        have hn : ((o + 1 : Nat) : Int) + k = ((o + k : Nat) : Int) + 1 := by omega
        have ho : ((o + 1 + k : Nat) : Int) = ((o + k : Nat) : Int) + 1 := by omega
        have ht := ih (o + 1)
        rw [ho] at ht
        simp only [tokens, List.flatMap_cons, digitsValue_natText, hn, number_value, ht]

theorem positional_number {T : Template} (h : T.Separated) (o : Nat) (marker : Text) :
    Placeholder.positional marker (number o T) = T.write fun _ => marker := by
  unfold Placeholder.positional
  rw [ofText_number h]
  clear h
  induction T generalizing o with
  | nil => rfl
  | cons p T ih =>
    cases p with
    | char c => simpa [tokens, write, Piece.write] using ih o
    | value v => simpa [tokens, write, Piece.write] using ih (o + 1)

/-- The slots of a text can be read, and written when they are shifted, exactly when the shifted
numbers can be written. -/
theorem isLegible_number {T : Template} (h : T.Separated) (limit o k : Nat) :
    Placeholder.isLegible limit k (number o T) ↔
      Placeholder.areWritable limit (o + k : Nat) (values T).length := by
  unfold Placeholder.isLegible
  rw [ofText_number h]
  clear h
  induction T generalizing o with
  | nil => simp [tokens, Placeholder.areWritable]
  | cons p T ih =>
    cases p with
    | char c => simpa [tokens] using ih o
    | value v =>
      have hlast : o + k + (values (.value v :: T)).length = o + 1 + k + (values T).length := by
        rw [values_value, List.length_cons]
        omega
      have hn : ((o + 1 : Nat) : Int) + k = (o + 1 + k : Nat) := rfl
      rw [tokens, List.all_cons, Bool.and_eq_true, ih]
      dsimp only
      rw [digitsValue_natText, hn, Bool.and_eq_true, decide_eq_true_eq,
        Placeholder.isWritable_natCast, Placeholder.areWritable_natCast,
        Placeholder.areWritable_natCast, hlast]
      constructor
      · rintro ⟨⟨-, hfirst⟩, hrest⟩ -
        by_cases hT : (values T).length = 0
        · rwa [hT]
        · exact hrest hT
      · intro hall
        have hbelow : ∀ n ≤ o + 1 + k + (values T).length, (natText n).length ≤ limit :=
          fun n hle => Nat.le_trans (length_natText_le hle) (hall (Nat.succ_ne_zero _))
        exact ⟨⟨hbelow _ (by omega), hbelow _ (by omega)⟩, fun _ => hbelow _ (Nat.le_refl _)⟩

theorem isLegible_number_of_le {T : Template} (h : T.Separated) (o k total : Nat)
    (hv : o + (values T).length + k ≤ total) :
    Placeholder.isLegible (Placeholder.maxDigits total) k (number o T) :=
  (isLegible_number h _ o k).2 <| (Placeholder.areWritable_natCast ..).2 fun _ =>
    Placeholder.length_natText_le_maxDigits (by omega)

theorem shiftWithin_number {T : Template} (h : T.Separated) (limit k : Nat) :
    Placeholder.shiftWithin limit k (number 0 T) =
      if k = 0 ∨ Placeholder.areWritable limit k (values T).length then .ok (number k T)
      else .error .longNumeral := by
  have hl := isLegible_number h limit 0 k
  have hs := shift_number h 0 k
  rw [Nat.zero_add] at hl hs
  simp only [Int.natCast_zero] at hl hs
  simp [Placeholder.shiftWithin, ← hl, hs]

theorem shiftWithin_number_of_le {T : Template} (h : T.Separated) (k total : Nat)
    (hv : (values T).length + k ≤ total) :
    Placeholder.shiftWithin (Placeholder.maxDigits total) k (number 0 T) = .ok (number k T) := by
  rw [shiftWithin_number h, if_pos]
  exact .inr <| (Placeholder.areWritable_natCast ..).2 fun _ =>
    Placeholder.length_natText_le_maxDigits (by omega)

theorem mapM_fillToken_tokens (literal : Value → Text) (limit : Nat) (T : Template)
    (before : List Value) (textAt : Nat → Except Misuse Text)
    (hlimit : ∀ n ≤ before.length + (values T).length, (natText n).length ≤ limit)
    (htext : ∀ n v, (before ++ values T)[n]? = some v → textAt (n + 1) = .ok (literal v)) :
    ((tokens before.length T).mapM (Placeholder.fillToken limit textAt)).map List.flatten =
      .ok (T.write literal) := by
  induction T generalizing before with
  | nil => rfl
  | cons p T ih =>
    cases p with
    | char c =>
      have ht := ih before hlimit htext
      cases hm : (tokens before.length T).mapM (Placeholder.fillToken limit textAt) with
      | error e => rw [hm] at ht; cases ht
      | ok parts =>
        rw [hm] at ht
        have hw : parts.flatten = write literal T := Except.ok.inj ht
        simp only [tokens, List.mapM_cons, Placeholder.fillToken, hm]
        show Except.ok (c :: parts.flatten) = .ok (c :: write literal T)
        rw [hw]
    | value v =>
      have hlen : (before ++ [v]).length = before.length + 1 := by simp
      have happ : before ++ [v] ++ values T = before ++ values (.value v :: T) := by simp
      have ht := ih (before ++ [v])
        (fun n hn => hlimit n (by simp only [hlen] at hn; rw [values_value]; simp; omega))
        (fun n w hw => htext n w (by rw [← happ]; exact hw))
      rw [hlen] at ht
      have hv := htext before.length v (by simp)
      have hfew : ¬ limit < (natText (before.length + 1)).length :=
        Nat.not_lt.2 (hlimit _ (by simp))
      cases hm : (tokens (before.length + 1) T).mapM (Placeholder.fillToken limit textAt) with
      | error e => rw [hm] at ht; cases ht
      | ok parts =>
        rw [hm] at ht
        have hw : parts.flatten = write literal T := Except.ok.inj ht
        simp only [tokens, List.mapM_cons, Placeholder.fillToken, hfew, ↓reduceIte,
          digitsValue_natText, hv, hm]
        show Except.ok (literal v ++ parts.flatten) = .ok (literal v ++ write literal T)
        rw [hw]

/-- Filling the slots of a numbered text with its own values writes the template. -/
theorem fill_number {T : Template} (h : T.Separated) (literal : Value → Text) :
    Placeholder.fill literal (values T) (number 0 T) = .ok (T.write literal) := by
  have ht := ofText_number h 0
  simp only [Int.natCast_zero] at ht
  unfold Placeholder.fill Placeholder.fillWith
  rw [ht]
  refine mapM_fillToken_tokens literal _ T [] _ (fun n hn => ?_) (fun n v hv => ?_)
  · exact Placeholder.length_natText_le_maxDigits (by simpa using hn)
  · have hv' : (values T)[n]? = some v := by simpa using hv
    simp [Placeholder.bound?, hv']

end Template

end BoundSql
