import BoundSql.Proofs.Numeral
import Mathlib.Data.List.Chain
/-!
Where a text is cut into tokens. A slot takes all digits that follow it, so no digit stands behind a
slot or behind a dollar sign that is none. The tokens of a text are the only sequence of which this
holds and that writes the text.
-/

namespace BoundSql

namespace Token

theorem takeDigits_of_head {ks : List Token} (h : ∀ k ∈ ks.head?, k.digit? = none) :
    takeDigits ks = ([], ks) := by
  cases ks with
  | nil => rfl
  | cons k ks => simp [takeDigits, h k (by simp)]

theorem digit?_head_ofText {t : Text} (h : ∀ c ∈ t.head?, isDecimalDigit c = false) :
    ∀ k ∈ (ofText t).head?, k.digit? = none := by
  cases t with
  | nil => simp [ofText]
  | cons c t =>
    have hc : isDecimalDigit c = false := h c rfl
    unfold ofText
    split
    · have hdollar : isDecimalDigit '$' = false := by decide
      unfold addDollar
      split <;> simp [digit?, hdollar]
    · simp [digit?, hc]

theorem takeDigits_append {digits : Text} (hd : ∀ c ∈ digits, isDecimalDigit c) (ks : List Token) :
    takeDigits (digits.map .char ++ ks) = (digits ++ (takeDigits ks).1, (takeDigits ks).2) := by
  induction digits with
  | nil => rfl
  | cons c digits ih =>
    have hc := hd c (by simp)
    have ht := ih fun d hm => hd d (by simp [hm])
    simp [takeDigits, digit?, hc, ht]

theorem snd_takeDigits_of_nil {ks : List Token} (h : (takeDigits ks).1 = []) :
    (takeDigits ks).2 = ks := by
  cases ks with
  | nil => rfl
  | cons k ks =>
    unfold takeDigits at h ⊢
    split at h
    · cases h
    · rfl

theorem isDecimalDigit_of_digit? {k : Token} {c : Char} (h : k.digit? = some c) :
    isDecimalDigit c := by
  cases k with
  | slot digits => cases h
  | char d =>
    obtain ⟨hd, rfl⟩ : isDecimalDigit d ∧ d = c := by simpa [digit?] using h
    exact hd

theorem isDecimalDigit_of_mem_takeDigits {ks : List Token} {c : Char}
    (h : c ∈ (takeDigits ks).1) : isDecimalDigit c := by
  induction ks with
  | nil => cases h
  | cons k ks ih =>
    unfold takeDigits at h
    split at h
    · rename_i d hd
      rcases List.mem_cons.1 h with rfl | h
      · exact isDecimalDigit_of_digit? hd
      · exact ih h
    · cases h

theorem digit?_head_takeDigits (ks : List Token) :
    ∀ k ∈ (takeDigits ks).2.head?, k.digit? = none := by
  induction ks with
  | nil => simp [takeDigits]
  | cons k ks ih =>
    unfold takeDigits
    split
    · exact ih
    · rename_i hk
      simpa using hk

theorem ofText_append_of_not_mem {w : Text} (hw : '$' ∉ w) (t : Text) :
    ofText (w ++ t) = w.map .char ++ ofText t := by
  induction w with
  | nil => rfl
  | cons c w ih =>
    simp only [List.mem_cons, not_or] at hw
    have hc : c ≠ '$' := fun he => hw.1 he.symm
    simp [ofText, hc, ih hw.2]

theorem ofText_slot_append {digits : Text} (hne : digits ≠ [])
    (hd : ∀ c ∈ digits, isDecimalDigit c) (t : Text) :
    ofText ((slot digits).text ++ t) =
      slot (digits ++ (takeDigits (ofText t)).1) :: (takeDigits (ofText t)).2 := by
  have hdollar : '$' ∉ digits := fun hm => absurd (hd '$' hm) (by decide)
  have ht : takeDigits (ofText (digits ++ t)) =
      (digits ++ (takeDigits (ofText t)).1, (takeDigits (ofText t)).2) := by
    rw [ofText_append_of_not_mem hdollar, takeDigits_append hd]
  simp only [text, List.cons_append, ofText, ↓reduceIte, addDollar, ht]
  cases digits with
  | nil => exact absurd rfl hne
  | cons c digits => rfl

theorem isDecimalDigit_of_mem_natText {n : Nat} {c : Char} (h : c ∈ natText n) :
    isDecimalDigit c :=
  isDecimalDigit_of_isDigit (isDigit_of_mem_natText h)

theorem ofText_slotText_append (n : Nat) (t : Text) :
    ofText (Placeholder.slotText n ++ t) =
      slot (natText n ++ (takeDigits (ofText t)).1) :: (takeDigits (ofText t)).2 :=
  ofText_slot_append (natText_ne_nil n) (fun _ => isDecimalDigit_of_mem_natText) t

theorem ofText_slotText_append_of_head (n : Nat) {t : Text}
    (h : ∀ k ∈ (ofText t).head?, k.digit? = none) :
    ofText (Placeholder.slotText n ++ t) = slot (natText n) :: ofText t := by
  rw [ofText_slotText_append, takeDigits_of_head h, List.append_nil]

def opensSlot : Token → Bool
  | char c => c == '$'
  | slot _ => true

def Apart (k l : Token) : Prop :=
  k.opensSlot → l.digit? = none

/-- A slot has digits, of whatever script, and nothing else. -/
def IsWhole : Token → Prop
  | char _ => True
  | slot digits => digits ≠ [] ∧ ∀ c ∈ digits, isDecimalDigit c

structure AreCut (ks : List Token) : Prop where
  whole : ∀ k ∈ ks, k.IsWhole
  apart : ks.IsChain Apart

theorem isWhole_natText (n : Nat) : (slot (natText n)).IsWhole :=
  ⟨natText_ne_nil n, fun _ => isDecimalDigit_of_mem_natText⟩

theorem AreCut.nil : AreCut [] :=
  ⟨by simp, .nil⟩

theorem areCut_cons_iff {k : Token} {ks : List Token} :
    AreCut (k :: ks) ↔ k.IsWhole ∧ (∀ l ∈ ks.head?, Apart k l) ∧ AreCut ks := by
  constructor
  · rintro ⟨hwhole, hapart⟩
    obtain ⟨hk, hks⟩ := List.forall_mem_cons.1 hwhole
    obtain ⟨hhead, hchain⟩ := List.isChain_cons.1 hapart
    exact ⟨hk, hhead, hks, hchain⟩
  · rintro ⟨hk, hhead, hks, hchain⟩
    exact ⟨List.forall_mem_cons.2 ⟨hk, hks⟩, List.isChain_cons.2 ⟨hhead, hchain⟩⟩

theorem AreCut.append {ks ls : List Token} (hks : AreCut ks) (hls : AreCut ls)
    (hhead : ∀ l ∈ ls.head?, l.digit? = none) : AreCut (ks ++ ls) := by
  constructor
  · exact List.forall_mem_append.2 ⟨hks.whole, hls.whole⟩
  · exact hks.apart.append hls.apart fun _ _ l hl _ => hhead l hl

theorem AreCut.takeDigits {ks : List Token} (h : AreCut ks) : AreCut (takeDigits ks).2 := by
  induction ks with
  | nil => exact h
  | cons k ks ih =>
    unfold Token.takeDigits
    split
    · exact ih (areCut_cons_iff.1 h).2.2
    · exact h

theorem AreCut.addDollar {ks : List Token} (h : AreCut ks) : AreCut (addDollar ks) := by
  have hhead := digit?_head_takeDigits ks
  have hdigits := fun c => @isDecimalDigit_of_mem_takeDigits ks c
  have hrest := h.takeDigits
  unfold Token.addDollar
  split
  · rename_i rest hks
    have hnil : (Token.takeDigits ks).1 = [] := by rw [hks]
    rw [snd_takeDigits_of_nil hnil] at hhead
    exact areCut_cons_iff.2 ⟨trivial, fun l hl _ => hhead l hl, h⟩
  · rename_i digits rest hsome hks
    rw [hks] at hhead hdigits hrest
    have hne : digits ≠ [] := by simpa using hsome
    exact areCut_cons_iff.2 ⟨⟨hne, hdigits⟩, fun l hl _ => hhead l hl, hrest⟩

theorem areCut_ofText (t : Text) : AreCut (ofText t) := by
  induction t with
  | nil => exact .nil
  | cons c t ih =>
    unfold ofText
    split
    · exact ih.addDollar
    · rename_i hc
      refine areCut_cons_iff.2 ⟨trivial, fun l _ hopens => ?_, ih⟩
      exact absurd (by simpa [opensSlot] using hopens) hc

theorem ofText_flatMap_text {ks : List Token} (h : AreCut ks) : ofText (ks.flatMap text) = ks := by
  induction ks with
  | nil => rfl
  | cons k ks ih =>
    obtain ⟨hwhole, hapart, hks⟩ := areCut_cons_iff.1 h
    cases k with
    | char c =>
      by_cases hc : c = '$'
      · have hnone := takeDigits_of_head fun l hl => hapart l hl (by simp [opensSlot, hc])
        simp [text, ofText, hc, ih hks, addDollar, hnone]
      · simp [text, ofText, hc, ih hks]
    | slot digits =>
      have hnone := takeDigits_of_head fun l hl => hapart l hl rfl
      rw [List.flatMap_cons, ofText_slot_append hwhole.1 hwhole.2, ih hks, hnone, List.append_nil]

theorem ofText_eq_iff {t : Text} {ks : List Token} :
    ofText t = ks ↔ AreCut ks ∧ ks.flatMap text = t := by
  constructor
  · rintro rfl
    exact ⟨areCut_ofText t, flatMap_text_ofText t⟩
  · rintro ⟨h, rfl⟩
    exact ofText_flatMap_text h

theorem ofText_append_of_head {u : Text} (h : ∀ c ∈ u.head?, isDecimalDigit c = false) (t : Text) :
    ofText (t ++ u) = ofText t ++ ofText u := by
  refine ofText_eq_iff.2 ⟨(areCut_ofText t).append (areCut_ofText u) (digit?_head_ofText h), ?_⟩
  rw [List.flatMap_append, flatMap_text_ofText, flatMap_text_ofText]

end Token

end BoundSql
