import BoundSql.Proofs.Fragment
import BoundSql.Proofs.NameDecoding
/-!
What the checks on a name say of what is written for it. They look at the parts as they were given,
and characters are left out afterwards. So nothing that is written is longer than the limit, but a
keyword may come about when the rest is left out, and such a name is refused when it is given again.
-/

namespace BoundSql

section NameChars

variable {w : Text}

theorem isWordChar_of_isNameChar {c : Char} (h : isNameChar c) : isWordChar c := by
  simp only [isNameChar, Bool.or_eq_true, beq_iff_eq] at h
  rcases h with ha | rfl
  · exact isWordChar_of_isAlphanum ha
  · decide

theorem hasUnionWord_inWord (hw : ∀ c ∈ w, isWordChar c) : hasUnionWord true w = false := by
  induction w with
  | nil => rfl
  | cons c w ih =>
    obtain ⟨hc, hrest⟩ := List.forall_mem_cons.1 hw
    simp [hasUnionWord, hc, ih hrest]

theorem upper_of_startsWithUnion (hw : ∀ c ∈ w, isNameChar c) (h : startsWithUnion w) :
    upper w = "UNION".toList := by
  unfold startsWithUnion at h
  split at h
  · rename_i u n i o m rest
    simp only [Bool.and_eq_true, Bool.or_eq_true, decide_eq_true_eq, Bool.not_eq_true'] at h
    obtain ⟨⟨⟨⟨⟨hu, hn⟩, hi⟩, ho⟩, hm⟩, hend⟩ := h
    have hrest : rest = [] := by
      cases rest with
      | nil => rfl
      | cons c rest => simp [isWordChar_of_isNameChar (hw c (by simp))] at hend
    subst hrest
    have hletter : ∀ {c small large : Char}, c = small ∨ c = large →
        capitals small = [large] → capitals large = [large] → capitals c = [large] := by
      rintro c small large (rfl | rfl) hsmall hlarge
      · exact hsmall
      · exact hlarge
    -- the two other forms of the third letter are no name characters
    have hthird : i = 'i' ∨ i = 'I' := by
      rcases hi with (hi | rfl) | rfl
      · exact hi
      · exact absurd (hw 'ı' (by simp)) (by decide)
      · exact absurd (hw 'İ' (by simp)) (by decide)
    simp only [upper, List.flatMap_cons, List.flatMap_nil,
      hletter hu (by decide) (by decide), hletter hn (by decide) (by decide),
      hletter hthird (by decide) (by decide), hletter ho (by decide) (by decide),
      hletter hm (by decide) (by decide)]
    rfl
  · cases h

theorem isReserved_of_hasUnionWord (hw : ∀ c ∈ w, isNameChar c) (h : hasUnionWord false w) :
    isReserved w := by
  cases w with
  | nil => cases h
  | cons c t =>
    obtain ⟨hc, ht⟩ := List.forall_mem_cons.1 hw
    have hrest := hasUnionWord_inWord fun d hd => isWordChar_of_isNameChar (ht d hd)
    simp only [hasUnionWord, isWordChar_of_isNameChar hc, hrest, Bool.not_false, Bool.true_and,
      Bool.or_false] at h
    refine List.any_eq_true.2 ⟨"UNION", by decide, ?_⟩
    rw [upper_of_startsWithUnion hw h, beq_self_eq_true]

theorem isDangerous_of_isNameChar (hw : ∀ c ∈ w, isNameChar c) : isDangerous w = false :=
  LocalRule.hygiene_obeys_iff.1 (.tame fun c hc => isPlain_or_isDigit_of_isNameChar (hw c hc))

end NameChars

namespace Identifier

variable {limit : Int} {part name q : Text}

theorem checks_of_quotePart (h : quotePart limit part = .ok q) :
    ((trim part).length : Int) ≤ limit ∧ isReserved (trim part) = false := by
  simp only [quotePart] at h
  split at h
  · cases h
  split at h
  · cases h
  split at h
  · cases h
  split at h
  · cases h
  · rename_i hlength _ hreserved
    exact ⟨by omega, by simpa using hreserved⟩

theorem length_keptPart_le (h : quotePart limit part = .ok q) :
    ((keptPart part).length : Int) ≤ limit := by
  obtain ⟨hlength, -⟩ := checks_of_quotePart h
  have hstar : part ≠ ['*'] := by
    rintro rfl
    exact (quotePart_kept h).1.ne_star rfl
  have hfilter := List.length_filter_le isNameChar (trim part)
  rw [keptPart, if_neg hstar]
  omega

theorem quotePart_body_iff {w : Text} (hw : IsPartBody w) (hlength : (w.length : Int) ≤ limit) :
    quotePart limit w = .ok (quotedPart w) ↔ isReserved w = false := by
  have htrim : trim w = w := trim_eq_self fun c hc => isBlank_eq_false_of_isNameChar (hw.2 c hc)
  have hunion : isReserved w = false → hasUnionWord false w = false := fun hr =>
    Bool.eq_false_iff.2 fun hu => by simp [isReserved_of_hasUnionWord hw.2 hu] at hr
  constructor
  · intro h
    simpa [htrim] using (checks_of_quotePart h).2
  · intro hr
    simp [quotePart, htrim, hw.1, Int.not_lt.2 hlength, isDangerous_of_isNameChar hw.2, hunion hr,
      hr, List.filter_eq_self.2 hw.2, quotedPart]

/-- What is kept of an accepted part is accepted in its place unless it is a keyword. -/
theorem quotePart_keptPart_iff (h : quotePart limit part = .ok q) :
    quotePart limit (keptPart part) = .ok q ↔ isReserved (keptPart part) = false := by
  obtain ⟨hbody, rfl⟩ := quotePart_kept h
  rw [writtenPart, if_neg hbody.ne_star]
  exact quotePart_body_iff hbody (length_keptPart_le h)

section Parts

variable {first : Bool} {parts qs : List Text}

theorem quoteParts_single (limit : Int) (first : Bool) (hstar : part ≠ ['*']) :
    quoteParts limit first [part] = (quotePart limit part).map fun q => [q] := by
  simp [quoteParts, hstar]

theorem quoteParts_cons (limit : Int) (first : Bool) (part : Text) (hne : parts ≠ []) :
    quoteParts limit first (part :: parts) =
      (quotePart limit part).bind fun q => (quoteParts limit false parts).map fun qs => q :: qs := by
  cases parts with
  | nil => exact absurd rfl hne
  | cons p ps => rfl

theorem accepted_of_quoteParts (h : quoteParts limit first parts = .ok qs) :
    ∀ part ∈ parts, part = ['*'] ∨ ∃ q, quotePart limit part = .ok q := by
  fun_induction quoteParts limit first parts generalizing qs with
  | case1 => simp
  | case2 first part hs =>
    obtain ⟨rfl, -⟩ : part = ['*'] ∧ first = false := by simpa using hs
    exact List.forall_mem_singleton.2 (.inl rfl)
  | case3 first part hs =>
    obtain ⟨q, hq, -⟩ := Outcome.map_eq_ok.1 h
    exact List.forall_mem_singleton.2 (.inr ⟨q, hq⟩)
  | case4 first part parts hne ih =>
    obtain ⟨q, hq, h⟩ := Outcome.bind_eq_ok.1 h
    obtain ⟨rest, hrest, -⟩ := Outcome.map_eq_ok.1 h
    exact List.forall_mem_cons.2 ⟨.inr ⟨q, hq⟩, ih hrest⟩

theorem quoteParts_keptPart_iff (h : quoteParts limit first parts = .ok qs) :
    quoteParts limit first (parts.map keptPart) = .ok qs ↔
      ∀ part ∈ parts, isReserved (keptPart part) = false := by
  fun_induction quoteParts limit first parts generalizing qs with
  | case1 => simpa [quoteParts] using h
  | case2 first part hs =>
    obtain ⟨rfl, rfl⟩ : part = ['*'] ∧ first = false := by simpa using hs
    cases h
    simp [quoteParts, keptPart, show isReserved ['*'] = false by decide]
  | case3 first part hs =>
    obtain ⟨q, hq, rfl⟩ := Outcome.map_eq_ok.1 h
    rw [List.map_singleton, quoteParts_single limit first (quotePart_kept hq).1.ne_star,
      Outcome.map_eq_ok, List.forall_mem_singleton, ← quotePart_keptPart_iff hq]
    simp
  | case4 first part parts hne ih =>
    obtain ⟨q, hq, h⟩ := Outcome.bind_eq_ok.1 h
    obtain ⟨rest, hrest, rfl⟩ := Outcome.map_eq_ok.1 h
    have hparts : parts.map keptPart ≠ [] := fun he => hne (List.map_eq_nil_iff.1 he)
    rw [List.map_cons, quoteParts_cons limit first _ hparts, List.forall_mem_cons,
      ← quotePart_keptPart_iff hq, ← ih hrest]
    simp only [Outcome.bind_eq_ok, Outcome.map_eq_ok, List.cons.injEq]
    constructor
    · rintro ⟨q', hq', rest', hrest', rfl, rfl⟩
      exact ⟨hq', hrest'⟩
    · rintro ⟨hq', hrest'⟩
      exact ⟨q, hq', rest, hrest', rfl, rfl⟩

end Parts

theorem quote_eq_ok : quote limit name = .ok q ↔ trim name ≠ [] ∧
    ∃ qs, quoteParts limit true (cutAt '.' (trim name)) = .ok qs ∧ joinWith ['.'] qs = q := by
  by_cases hblank : trim name = []
  · simp [quote, hblank]
  · simp [quote, hblank, Outcome.map_eq_ok]

theorem accepted_of_quote (h : quote limit name = .ok q) :
    ∀ part ∈ cutAt '.' (trim name), part = ['*'] ∨ ∃ q, quotePart limit part = .ok q := by
  obtain ⟨-, qs, hqs, -⟩ := quote_eq_ok.1 h
  exact accepted_of_quoteParts hqs

theorem length_keptParts_le (h : quote limit name = .ok q) :
    ∀ w ∈ keptParts name, w = ['*'] ∨ (w.length : Int) ≤ limit := by
  refine List.forall_mem_map.2 fun part hpart => ?_
  rcases accepted_of_quote h part hpart with rfl | ⟨p, hp⟩
  · exact .inl rfl
  · exact .inr (length_keptPart_le hp)

theorem not_isReserved_of_whole (h : quote limit name = .ok q) {part : Text}
    (hpart : part ∈ cutAt '.' (trim name)) (hwhole : keptPart part = trim part) :
    isReserved (keptPart part) = false := by
  rcases accepted_of_quote h part hpart with rfl | ⟨p, hp⟩
  · decide
  · rw [hwhole]
    exact (checks_of_quotePart hp).2

theorem trim_keptName (h : quote limit name = .ok q) : trim (keptName name) = keptName name := by
  refine trim_eq_self fun c hc => ?_
  rw [keptName_eq] at hc
  rcases mem_joinWith hc with rfl | ⟨w, hw, hmem⟩
  · decide
  · rcases ((quote_kept h).1 w hw).mem hmem with hn | rfl
    · exact isBlank_eq_false_of_isNameChar hn
    · decide

theorem keptName_ne_nil (h : quote limit name = .ok q) : keptName name ≠ [] := by
  intro hnil
  have hcut := cutAt_keptName h
  rw [hnil] at hcut
  have hempty : IsKept [] := (quote_kept h).1 [] (by simp [← hcut, cutAt])
  rcases hempty with hbody | hstar
  · exact hbody.1 rfl
  · cases hstar

theorem IsKept.keptPart_eq_self {w : Text} (h : IsKept w) : keptPart w = w := by
  rcases h with hbody | rfl
  · rw [keptPart_eq, if_neg hbody.ne_star, List.filter_eq_self.2 hbody.2]
  · rfl

theorem quote_keptName_iff (h : quote limit name = .ok q) :
    quote limit (keptName name) = .ok q ↔ ∀ w ∈ keptParts name, isReserved w = false := by
  obtain ⟨-, qs, hqs, hq⟩ := quote_eq_ok.1 h
  have hagain : (∀ w ∈ keptParts name, isReserved w = false) ↔
      quoteParts limit true (keptParts name) = .ok qs := by
    rw [keptParts, List.forall_mem_map]
    exact (quoteParts_keptPart_iff hqs).symm
  rw [quote_eq_ok, trim_keptName h, cutAt_keptName h, hagain]
  constructor
  · rintro ⟨-, qs', hqs', -⟩
    -- the same parts are written for the parts that were left
    have hsame : qs' = qs := by
      rw [(quoteParts_kept hqs').2, (quoteParts_kept hqs).2, keptParts, List.map_map]
      refine List.map_congr_left fun part hpart => congrArg writtenPart ?_
      exact ((quoteParts_kept hqs).1 part hpart).keptPart_eq_self
    rwa [hsame] at hqs'
  · intro hparts
    exact ⟨keptName_ne_nil h, qs, hparts, hq⟩

/-- What is written for a name keeps to the limit in every part. Its parts are no keywords if nothing
was left out of them, and the name that is read from it is accepted and written the same way exactly
when none of them is. -/
theorem quote_unquoted (h : quote limit name = .ok q) :
    q = joinWith ['.'] ((keptParts name).map writtenPart) ∧
      (∀ w ∈ keptParts name, w = ['*'] ∨ (w.length : Int) ≤ limit) ∧
      (∀ part ∈ cutAt '.' (trim name), keptPart part = trim part →
        isReserved (keptPart part) = false) ∧
      unquote q = .ok (keptName name) ∧
      (quote limit (keptName name) = .ok q ↔ ∀ w ∈ keptParts name, isReserved w = false) :=
  ⟨(quote_kept h).2, length_keptParts_le h, fun _ hpart => not_isReserved_of_whole h hpart,
    unquote_eq_keptName h, quote_keptName_iff h⟩

def hyphenOrders : Text := "my-app.or ders.*".toList

/-- At the limit, a hyphen and a blank are left out and the rest is accepted again. -/
theorem quote_unquoted_hyphenOrders :
    quote 7 hyphenOrders = .ok "\"myapp\".\"orders\".*".toList ∧
      (∀ w ∈ keptParts hyphenOrders, w = ['*'] ∨ (w.length : Int) ≤ 7) ∧
      unquote "\"myapp\".\"orders\".*".toList = .ok "myapp.orders.*".toList ∧
      quote 7 "myapp.orders.*".toList = .ok "\"myapp\".\"orders\".*".toList := by
  have hquote : quote 7 hyphenOrders = .ok "\"myapp\".\"orders\".*".toList := by decide +kernel
  have hname : keptName hyphenOrders = "myapp.orders.*".toList := by decide +kernel
  obtain ⟨-, hlength, -, hread, hagain⟩ := quote_unquoted hquote
  rw [hname] at hread hagain
  exact ⟨hquote, hlength, hread, hagain.2 (by decide +kernel)⟩

/-- Without the hyphen it is a keyword that is written, and that is refused when it is given. -/
theorem keyword_behind_hyphen :
    quote defaultLimit "sel-ect".toList = .ok "\"select\"".toList ∧
      keptParts "sel-ect".toList = ["select".toList] ∧ isReserved "select".toList ∧
      unquote "\"select\"".toList = .ok "select".toList ∧
      quote defaultLimit "select".toList = .error (.reserved "select") :=
  ⟨by decide +kernel, by decide +kernel, by decide +kernel, rfl, by decide +kernel⟩

end Identifier

end BoundSql
