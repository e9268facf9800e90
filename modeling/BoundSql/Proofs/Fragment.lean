import BoundSql.Proofs.LocalRule
import BoundSql.SqlFragment
/-!
Fragments that were admitted. The check for dangerous patterns is the one rule on neighbours, the
check for numbered text the other one, and both stay met when values take the places of markers.
-/

namespace BoundSql

theorem occursIn_singleton {c : Char} {t : Text} : occursIn [c] t ↔ c ∈ t := by
  induction t with
  | nil => simp [occursIn]
  | cons d t ih => simp [occursIn, ih]

theorem occursIn_pair_cons {a b c : Char} {t : Text} :
    occursIn [a, b] (c :: t) ↔ (a = c ∧ b ∈ t.head?) ∨ occursIn [a, b] t := by
  have hstep : occursIn [a, b] (c :: t) =
      (List.isPrefixOf [a, b] (c :: t) || occursIn [a, b] t) := rfl
  rw [hstep, Bool.or_eq_true]
  cases t with
  | nil => simp
  | cons d t => simp [@eq_comm _ b d]

namespace LocalRule

theorem obeys_ofText_cons {r : LocalRule} {c : Char} {t : Text} :
    r.Obeys (.ofText (c :: t)) ↔
      r.alone c ∧ (∀ d ∈ t.head?, r.beside (.char c) (.char d)) ∧ r.Obeys (.ofText t) := by
  constructor
  · intro h
    refine ⟨h.alone c (by simp), ?_, fun d hd => h.alone d (by simp [hd]), h.beside.of_cons⟩
    intro d hd
    cases t with
    | nil => simp at hd
    | cons e t =>
      cases hd
      exact (List.isChain_cons_cons.1 h.beside).1
  · rintro ⟨hc, hd, ht⟩
    refine ⟨fun e he => ?_, ht.beside.cons fun q hq => ?_⟩
    · rcases List.mem_cons.1 he with hec | hm
      · cases hec
        exact hc
      · exact ht.alone e hm
    · cases t with
      | nil => simp at hq
      | cons e t =>
        cases hq
        exact hd e (by simp)

theorem hygiene_obeys_iff {t : Text} : hygiene.Obeys (.ofText t) ↔ isDangerous t = false := by
  induction t with
  | nil =>
    constructor
    · intro _
      rfl
    · intro _
      exact .nil
  | cons c t ih =>
    rw [obeys_ofText_cons, ih, Bool.eq_false_iff, Bool.eq_false_iff]
    simp only [hygiene, Piece.IsCommentMark, commentMarks, isDangerous, dangerousPatterns,
      List.any_cons, List.any_nil, Bool.or_false, ne_eq, Bool.or_eq_true, occursIn_singleton,
      occursIn_pair_cons, List.mem_cons, not_or, Prod.mk.injEq, List.not_mem_nil,
      not_false_eq_true, and_true, not_and]
    constructor
    · rintro ⟨⟨h1, h2⟩, hpair, h3, h4, h5, h6, h7⟩
      exact ⟨⟨fun h => h1 h.symm, h3⟩, ⟨fun h hm => (hpair _ hm).1 h.symm rfl, h4⟩,
        ⟨fun h hm => (hpair _ hm).2.1 h.symm rfl, h5⟩,
        ⟨fun h hm => (hpair _ hm).2.2 h.symm rfl, h6⟩, fun h => h2 h.symm, h7⟩
    · rintro ⟨⟨h1, h3⟩, ⟨hp1, h4⟩, ⟨hp2, h5⟩, ⟨hp3, h6⟩, h2, h7⟩
      refine ⟨⟨fun h => h1 h.symm, fun h => h2 h.symm⟩, fun d hd => ⟨?_, ?_, ?_⟩, h3, h4, h5, h6, h7⟩
      · rintro h rfl
        exact hp1 h.symm hd
      · rintro h rfl
        exact hp2 h.symm hd
      · rintro h rfl
        exact hp3 h.symm hd

theorem separation_obeys {t : Text} (h : SqlFragment.isNumbered t = false) :
    separation.Obeys (.ofText t) := by
  induction t with
  | nil => exact .nil
  | cons c t ih =>
    simp only [SqlFragment.isNumbered, Bool.or_eq_false_iff] at h
    refine obeys_ofText_cons.2 ⟨trivial, fun d hd hc => ?_, ih h.2⟩
    have hdollar : c = '$' := by simpa [Piece.opensSlot] using hc
    have ht : t.head? = some d := hd
    have hdigit : isDecimalDigit d = false := by simpa [hdollar, ht] using h.1
    simp [Piece.isDigit, hdigit]

end LocalRule

namespace Template

theorem head_ofFragment {t : Text} {vs : List Value} {q : Piece}
    (hq : q ∈ (ofFragment t vs).head?) : (∃ v, q = .value v) ∨ ∃ d ∈ t.head?, q = .char d := by
  cases t with
  | nil => simp [ofFragment] at hq
  | cons c t =>
    simp only [ofFragment] at hq
    split at hq
    · cases vs with
      | nil =>
        cases hq
        exact .inr ⟨c, by simp, rfl⟩
      | cons v vs =>
        cases hq
        exact .inl ⟨v, rfl⟩
    · cases hq
      exact .inr ⟨c, by simp, rfl⟩

end Template

/-- Values in the places of markers break no rule that lets them stand before what follows. -/
theorem LocalRule.Obeys.ofFragment {r : LocalRule} {t : Text} (h : r.Obeys (.ofText t))
    (hm : t.IsChain fun c d => c = '?' → ∀ v, r.beside (.value v) (.char d)) (vs : List Value) :
    r.Obeys (.ofFragment t vs) := by
  induction t generalizing vs with
  | nil => exact .nil
  | cons c t ih =>
    obtain ⟨hc, hd, ht⟩ := obeys_ofText_cons.1 h
    have hrest := ih ht hm.of_cons
    -- what follows the first piece is a value or the character that followed it before
    have hnext : ∀ vs, ∀ q ∈ (Template.ofFragment t vs).head?, r.beside (.char c) q := by
      intro vs q hq
      rcases Template.head_ofFragment hq with ⟨v, rfl⟩ | ⟨d, hdm, rfl⟩
      · exact r.beside_value _ v
      · exact hd d hdm
    have hkeep : ∀ vs, r.Obeys (.char c :: Template.ofFragment t vs) := by
      intro vs
      refine ⟨fun e he => ?_, (hrest vs).beside.cons (hnext vs)⟩
      rcases List.mem_cons.1 he with hec | hmem
      · cases hec
        exact hc
      · exact (hrest vs).alone e hmem
    by_cases hq : c = '?'
    · cases vs with
      | nil => simpa [Template.ofFragment, hq] using hkeep []
      | cons v vs =>
        simp only [Template.ofFragment, hq, ↓reduceIte]
        refine ⟨fun e he => ?_, (hrest vs).beside.cons fun q hqm => ?_⟩
        · rcases List.mem_cons.1 he with hec | hmem
          · cases hec
          · exact (hrest vs).alone e hmem
        · rcases Template.head_ofFragment hqm with ⟨w, rfl⟩ | ⟨d, hdm, rfl⟩
          · exact r.beside_value _ w
          · cases t with
            | nil => simp at hdm
            | cons e t =>
              cases hdm
              exact (List.isChain_cons_cons.1 hm).1 hq v
    · simpa [Template.ofFragment, hq] using hkeep vs

/-- No marker of a fragment stands in front of a decimal digit, so that the number that takes its
place is not read together with it. -/
def Placeholder.MarkersApart (fragment : Text) : Prop :=
  fragment.IsChain fun c d => c = '?' → ¬ isDecimalDigit d

instance (fragment : Text) : Decidable (Placeholder.MarkersApart fragment) :=
  inferInstanceAs (Decidable (fragment.IsChain fun c d => c = '?' → ¬ isDecimalDigit d))

namespace Placeholder

theorem numberMarkers_append {q : Text} (hq : '?' ∉ q) (o : Int) (t : Text) :
    numberMarkers o (q ++ t) = q ++ numberMarkers o t := by
  induction q with
  | nil => rfl
  | cons c q ih =>
    simp only [List.mem_cons, not_or] at hq
    have hc : c ≠ '?' := fun he => hq.1 he.symm
    simp [numberMarkers, hc, ih hq.2]

end Placeholder

namespace SqlFragment

theorem isNumbered_of_not_mem {t : Text} (h : '$' ∉ t) : isNumbered t = false := by
  induction t with
  | nil => rfl
  | cons c t ih =>
    simp only [List.mem_cons, not_or] at h
    have hc : c ≠ '$' := fun he => h.1 he.symm
    simp [isNumbered, hc, ih h.2]

def Admitted (t : Text) : Prop :=
  isDangerous t = false ∧ isNumbered t = false

theorem check_eq_ok_iff {clause : String} {fragment : Value} {s : String} :
    check clause fragment = .ok s ↔
      fragment = .text s ∧ (trim s.toList).isEmpty = false ∧ Admitted s.toList := by
  cases fragment with
  | text u =>
    simp only [check, Admitted, Value.text.injEq]
    constructor
    · intro h
      split at h
      · cases h
      split at h
      · cases h
      split at h
      · cases h
      · rename_i hblank hd hn
        cases h
        exact ⟨rfl, by simpa using hblank, by simpa using hd, by simpa using hn⟩
    · rintro ⟨rfl, hblank, hd, hn⟩
      simp [hblank, hd, hn]
  | _ => simp [check, reject]

theorem check_eq_ok {clause : String} {fragment : Value} {s : String}
    (h : check clause fragment = .ok s) : fragment = .text s ∧ Admitted s.toList :=
  ⟨(check_eq_ok_iff.1 h).1, (check_eq_ok_iff.1 h).2.2⟩

theorem ne_nil_of_check {clause : String} {fragment : Value} {s : String}
    (h : check clause fragment = .ok s) : s.toList ≠ [] := by
  intro hnil
  have hblank := (check_eq_ok_iff.1 h).2.1
  rw [hnil] at hblank
  cases hblank

theorem Admitted.hygiene {t : Text} (h : Admitted t) (vs : List Value) :
    LocalRule.hygiene.Obeys (.ofFragment t vs) := by
  refine (LocalRule.hygiene_obeys_iff.2 h.1).ofFragment (List.isChain_iff_getElem.2 ?_) vs
  exact fun _ _ _ _ hmark => hmark

theorem Admitted.separation {t : Text} (h : Admitted t) (hm : Placeholder.MarkersApart t)
    (vs : List Value) : LocalRule.separation.Obeys (.ofFragment t vs) := by
  refine (LocalRule.separation_obeys h.2).ofFragment ?_ vs
  refine List.IsChain.imp (fun c d hcd hc v _ => ?_) hm
  simpa [Piece.isDigit] using hcd hc

end SqlFragment

end BoundSql
