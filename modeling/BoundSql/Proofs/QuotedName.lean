import BoundSql.Identifier
import BoundSql.Proofs.Outcome
/-!
The shape of quoted names: parts of name characters between quotes, with dots between the parts. A
star may stand for the last of several parts, and nothing else is ever written for a name.
-/

namespace BoundSql

namespace Identifier

def quotedPart (w : Text) : Text :=
  '"' :: w ++ ['"']

def IsPartBody (w : Text) : Prop :=
  w ≠ [] ∧ ∀ c ∈ w, isNameChar c

inductive IsQuoted : Text → Prop where
  | part {w : Text} : IsPartBody w → IsQuoted (quotedPart w)
  | star {w : Text} : IsPartBody w → IsQuoted (quotedPart w ++ ['.', '*'])
  | dotted {w q : Text} : IsPartBody w → IsQuoted q → IsQuoted (quotedPart w ++ '.' :: q)

theorem IsQuoted.head? {q : Text} (h : IsQuoted q) : q.head? = some '"' := by
  cases h <;> rfl

theorem IsQuoted.ne_nil {q : Text} (h : IsQuoted q) : q ≠ [] := by
  cases h <;> simp [quotedPart]

theorem quotePart_eq_ok {limit : Int} {part q : Text} (h : quotePart limit part = .ok q) :
    IsPartBody ((trim part).filter isNameChar) ∧ q = quotedPart ((trim part).filter isNameChar) := by
  simp only [quotePart] at h
  split at h
  · cases h
  split at h
  · cases h
  split at h
  · cases h
  split at h
  · cases h
  split at h
  · cases h
  · rename_i hne
    cases h
    refine ⟨⟨?_, ?_⟩, rfl⟩
    · intro he
      exact hne (by rw [he]; rfl)
    · intro c hc
      exact (List.mem_filter.1 hc).2

theorem quotePart_isQuoted {limit : Int} {part q : Text} (h : quotePart limit part = .ok q) :
    ∃ w, IsPartBody w ∧ q = quotedPart w :=
  ⟨_, quotePart_eq_ok h⟩

theorem quoteParts_isQuoted {limit : Int} {first : Bool} {parts qs : List Text}
    (h : quoteParts limit first parts = .ok qs) (hp : parts ≠ []) :
    (first = false ∧ qs = [['*']]) ∨ IsQuoted (joinWith ['.'] qs) := by
  fun_induction quoteParts limit first parts generalizing qs with
  | case1 => exact absurd rfl hp
  | case2 first part hs =>
    left
    cases h
    simp only [Bool.and_eq_true, Bool.not_eq_true'] at hs
    exact ⟨hs.2, rfl⟩
  | case3 first part hs =>
    right
    obtain ⟨q, hq, rfl⟩ := Outcome.map_eq_ok.1 h
    obtain ⟨w, hw, rfl⟩ := quotePart_isQuoted hq
    exact .part hw
  | case4 first part parts hne ih =>
    right
    obtain ⟨q, hq, h⟩ := Outcome.bind_eq_ok.1 h
    obtain ⟨rest, hr, rfl⟩ := Outcome.map_eq_ok.1 h
    obtain ⟨w, hw, rfl⟩ := quotePart_isQuoted hq
    have hparts : parts ≠ [] := fun he => hne (he ▸ rfl)
    rcases ih hr hparts with ⟨-, hstar⟩ | hrest
    · subst hstar
      have hj : joinWith ['.'] [quotedPart w, ['*']] = quotedPart w ++ ['.', '*'] := by
        simp [joinWith]
      rw [hj]
      exact .star hw
    · cases rest with
      | nil => exact absurd rfl hrest.ne_nil
      | cons q' rest =>
        have hj : joinWith ['.'] (quotedPart w :: q' :: rest) =
            quotedPart w ++ '.' :: joinWith ['.'] (q' :: rest) := by simp [joinWith]
        rw [hj]
        exact .dotted hw hrest

theorem quote_isQuoted {limit : Int} {name q : Text} (h : quote limit name = .ok q) :
    IsQuoted q := by
  simp only [quote] at h
  split at h
  · cases h
  · obtain ⟨qs, hq, rfl⟩ := Outcome.map_eq_ok.1 h
    rcases quoteParts_isQuoted hq (cutAt_ne_nil _ _) with ⟨hf, -⟩ | hqs
    · cases hf
    · exact hqs

theorem quoteName_isQuoted {limit : Int} {name : String} {q : Text}
    (h : quoteName limit name = .ok q) : IsQuoted q :=
  quote_isQuoted (Outcome.mapError_eq_ok.1 h)

theorem IsQuoted.mem {q : Text} (h : IsQuoted q) {c : Char} (hc : c ∈ q) :
    isNameChar c ∨ c = '"' ∨ c = '.' ∨ c = '*' := by
  have hpart : ∀ {w : Text}, IsPartBody w → c ∈ quotedPart w → isNameChar c ∨ c = '"' := by
    intro w hw hm
    simp only [quotedPart, List.cons_append, List.mem_cons, List.mem_append, List.not_mem_nil,
      or_false] at hm
    rcases hm with hm | hm | hm
    · exact .inr hm
    · exact .inl (hw.2 c hm)
    · exact .inr hm
  induction h with
  | part hw =>
    rcases hpart hw hc with hn | hq
    · exact .inl hn
    · exact .inr (.inl hq)
  | star hw =>
    rcases List.mem_append.1 hc with hm | hm
    · rcases hpart hw hm with hn | hq
      · exact .inl hn
      · exact .inr (.inl hq)
    · simp only [List.mem_cons, List.not_mem_nil, or_false] at hm
      exact .inr (.inr hm)
  | dotted hw _ ih =>
    rcases List.mem_append.1 hc with hm | hm
    · rcases hpart hw hm with hn | hq
      · exact .inl hn
      · exact .inr (.inl hq)
    · rcases List.mem_cons.1 hm with hd | hm
      · exact .inr (.inr (.inl hd))
      · exact ih hm

theorem IsQuoted.marker_not_mem {q : Text} (h : IsQuoted q) : '?' ∉ q := by
  intro hm
  rcases h.mem hm with hc | hc | hc | hc <;> exact absurd hc (by decide)

theorem IsQuoted.dollar_not_mem {q : Text} (h : IsQuoted q) : '$' ∉ q := by
  intro hm
  rcases h.mem hm with hc | hc | hc | hc <;> exact absurd hc (by decide)

end Identifier

end BoundSql
