import BoundSql.Proofs.QuotedName
import BoundSql.Proofs.Slots
/-!
Comparisons with patterns that pay no regard to case, in numbered text. They are written with an
operator of their own or with case taken away on both sides, and one text can be the other in all
but these comparisons. That stays so when such texts are put together and when their slots are moved,
as a comparison begins with a quote and nothing that could be read with its slot comes after it.
-/

namespace BoundSql

/-- A comparison of a quoted column with the pattern in a slot, without regard to case. -/
structure CaseTest where
  column : Text
  quoted : Identifier.IsQuoted column
  negated : Bool
  slot : Nat

namespace CaseTest

def nativeHead (p : CaseTest) : Text :=
  p.column ++ (if p.negated then " NOT ILIKE " else " ILIKE ").toList

def foldedHead (p : CaseTest) : Text :=
  "LOWER(".toList ++ p.column ++
    (if p.negated then ") NOT LIKE LOWER(" else ") LIKE LOWER(").toList

def native (p : CaseTest) : Text :=
  p.nativeHead ++ Placeholder.slotText p.slot

def folded (p : CaseTest) : Text :=
  p.foldedHead ++ Placeholder.slotText p.slot ++ [')']

def move (k : Nat) (p : CaseTest) : CaseTest :=
  { p with slot := p.slot + k }

end CaseTest

/-- Whether no decimal digit stands in front of a text, so that it is not read with a slot before. -/
def StartsApart (t : Text) : Prop :=
  ∀ c ∈ t.head?, isDecimalDigit c = false

/-- The second text is the first one with case taken away in the given comparisons, which are in the
order of the text. -/
inductive Folds : List CaseTest → Text → Text → Prop where
  | nil : Folds [] [] []
  | char (c : Char) {ps : List CaseTest} {t u : Text} (h : Folds ps t u) :
      Folds ps (c :: t) (c :: u)
  | test (p : CaseTest) {ps : List CaseTest} {t u : Text} (h : Folds ps t u) (ht : StartsApart t) :
      Folds (p :: ps) (p.native ++ t) (p.folded ++ u)

inductive FoldsAll : List CaseTest → List Text → List Text → Prop where
  | nil : FoldsAll [] [] []
  | cons {ps qs : List CaseTest} {t u : Text} {ts us : List Text} (h : Folds ps t u)
      (hs : FoldsAll qs ts us) : FoldsAll (ps ++ qs) (t :: ts) (u :: us)

namespace CaseTest

variable (p : CaseTest)

theorem native_ne_nil : p.native ≠ [] := by
  simp [native, nativeHead, p.quoted.ne_nil]

theorem folded_ne_nil : p.folded ≠ [] :=
  List.append_ne_nil_of_right_ne_nil _ (List.cons_ne_nil _ _)

end CaseTest

section Joining

variable {ps qs : List CaseTest} {t t' u u' : Text} {ts ts' us us' : List Text}

theorem Folds.same (t : Text) : Folds [] t t := by
  induction t with
  | nil => exact .nil
  | cons c t ih => exact .char c ih

theorem Folds.append (h : Folds ps t u) (h' : Folds qs t' u') (ht : StartsApart t') :
    Folds (ps ++ qs) (t ++ t') (u ++ u') := by
  induction h with
  | nil => exact h'
  | char c _ ih => exact .char c ih
  | @test p ps t u _ hapart ih =>
    rw [List.append_assoc, List.append_assoc]
    refine .test p ih ?_
    cases t with
    | nil => exact ht
    | cons c t => exact hapart

theorem Folds.after (w : Text) (h : Folds ps t u) : Folds ps (w ++ t) (w ++ u) := by
  induction w with
  | nil => exact h
  | cons c w ih => exact .char c ih

theorem Folds.before (h : Folds ps t u) {w : Text} (hw : StartsApart w) :
    Folds ps (t ++ w) (u ++ w) := by
  have ht := h.append (.same w) hw
  rwa [List.append_nil] at ht

theorem Folds.eq_nil_iff (h : Folds ps t u) : t = [] ↔ u = [] := by
  cases h with
  | nil => simp
  | char c h => simp
  | test p h ht => simp only [List.append_eq_nil_iff, p.native_ne_nil, p.folded_ne_nil, false_and]

theorem Folds.isEmpty_eq (h : Folds ps t u) : u.isEmpty = t.isEmpty := by
  rw [Bool.eq_iff_iff, List.isEmpty_iff, List.isEmpty_iff, h.eq_nil_iff]

theorem Folds.tests_eq_nil (h : Folds ps t u) (ht : t = []) : ps = [] := by
  cases h with
  | nil => rfl
  | char c h => cases ht
  | test p h hapart => exact absurd (List.append_eq_nil_iff.1 ht).1 p.native_ne_nil

theorem Folds.eq_of_tests_eq_nil (h : Folds ps t u) (hp : ps = []) : t = u := by
  induction h with
  | nil => rfl
  | char c _ ih => rw [ih hp]
  | test p _ _ _ => cases hp

theorem FoldsAll.same (ts : List Text) : FoldsAll [] ts ts := by
  induction ts with
  | nil => exact .nil
  | cons t ts ih => exact .cons (.same t) ih

theorem FoldsAll.append (h : FoldsAll ps ts us) (h' : FoldsAll qs ts' us') :
    FoldsAll (ps ++ qs) (ts ++ ts') (us ++ us') := by
  induction h with
  | nil => exact h'
  | cons ht _ ih =>
    rw [List.append_assoc]
    exact .cons ht ih

theorem FoldsAll.single (h : Folds ps t u) : FoldsAll ps [t] [u] := by
  have hs := FoldsAll.cons h .nil
  rwa [List.append_nil] at hs

theorem FoldsAll.isEmpty_eq (h : FoldsAll ps ts us) : us.isEmpty = ts.isEmpty := by
  cases h <;> rfl

theorem FoldsAll.tests_eq_nil (h : FoldsAll ps ts us) (ht : ts = []) : ps = [] := by
  cases h with
  | nil => rfl
  | cons h hs => cases ht

theorem FoldsAll.joinWith {c : Char} {separator : Text} (hc : isDecimalDigit c = false)
    (h : FoldsAll ps ts us) :
    Folds ps (joinWith (c :: separator) ts) (joinWith (c :: separator) us) := by
  induction h with
  | nil => exact .nil
  | @cons ps qs t u ts us ht hts ih =>
    cases hts with
    | nil => simpa [BoundSql.joinWith] using ht
    | cons hv hvs =>
      simp only [BoundSql.joinWith, List.append_assoc] at ih ⊢
      refine ht.append (ih.after _) ?_
      rintro d ⟨⟩
      exact hc

end Joining

namespace CaseTest

variable (p : CaseTest)

def nativeTokens : List Token :=
  p.nativeHead.map .char ++ [.slot (natText p.slot)]

def foldedTokens : List Token :=
  p.foldedHead.map .char ++ [.slot (natText p.slot), .char ')']

end CaseTest

def TokensStartApart (ks : List Token) : Prop :=
  ∀ k ∈ ks.head?, k.digit? = none

inductive TokensFold : List CaseTest → List Token → List Token → Prop where
  | nil : TokensFold [] [] []
  | same (k : Token) {ps : List CaseTest} {ks ls : List Token} (h : TokensFold ps ks ls) :
      TokensFold ps (k :: ks) (k :: ls)
  | test (p : CaseTest) {ps : List CaseTest} {ks ls : List Token} (h : TokensFold ps ks ls)
      (hk : TokensStartApart ks) :
      TokensFold (p :: ps) (p.nativeTokens ++ ks) (p.foldedTokens ++ ls)

namespace Token

theorem tokensStartApart_ofText {t : Text} (h : StartsApart t) : TokensStartApart (ofText t) :=
  digit?_head_ofText h

end Token

namespace CaseTest

variable (p : CaseTest) {t : Text}

theorem dollar_not_mem_nativeHead : '$' ∉ p.nativeHead := by
  unfold nativeHead
  rw [List.mem_append, not_or]
  refine ⟨p.quoted.dollar_not_mem, ?_⟩
  split <;> decide

theorem dollar_not_mem_foldedHead : '$' ∉ p.foldedHead := by
  unfold foldedHead
  rw [List.mem_append, List.mem_append, not_or, not_or]
  refine ⟨⟨by decide, p.quoted.dollar_not_mem⟩, ?_⟩
  split <;> decide

theorem ofText_native (ht : StartsApart t) :
    Token.ofText (p.native ++ t) = p.nativeTokens ++ Token.ofText t := by
  unfold native nativeTokens
  rw [List.append_assoc, Token.ofText_append_of_not_mem p.dollar_not_mem_nativeHead,
    Token.ofText_slotText_append_of_head _ (Token.tokensStartApart_ofText ht)]
  simp

theorem ofText_folded (t : Text) :
    Token.ofText (p.folded ++ t) = p.foldedTokens ++ Token.ofText t := by
  have hclose : StartsApart (')' :: t) := by
    rintro c ⟨⟩
    decide
  have hslot := Token.ofText_slotText_append_of_head p.slot (Token.tokensStartApart_ofText hclose)
  have hparen : Token.ofText (')' :: t) = .char ')' :: Token.ofText t := rfl
  unfold folded foldedTokens
  rw [List.append_assoc, List.append_assoc, List.singleton_append,
    Token.ofText_append_of_not_mem p.dollar_not_mem_foldedHead, hslot, hparen]
  simp

theorem nativeTokens_startApart (ks : List Token) : TokensStartApart (p.nativeTokens ++ ks) := by
  have hquote := p.quoted.head?
  intro k hk
  unfold nativeTokens nativeHead at hk
  cases hcolumn : p.column with
  | nil => exact absurd hcolumn p.quoted.ne_nil
  | cons d w =>
    rw [hcolumn] at hquote hk
    cases hquote
    cases hk
    decide

theorem foldedTokens_startApart (ks : List Token) : TokensStartApart (p.foldedTokens ++ ks) := by
  rintro k ⟨⟩
  decide

end CaseTest

namespace TokensFold

variable {ps : List CaseTest} {ks ls : List Token}

theorem takeDigits (h : TokensFold ps ks ls) :
    (Token.takeDigits ls).1 = (Token.takeDigits ks).1 ∧
      TokensFold ps (Token.takeDigits ks).2 (Token.takeDigits ls).2 := by
  induction h with
  | nil => exact ⟨rfl, .nil⟩
  | @same k ps ks ls h ih =>
    simp only [Token.takeDigits]
    split
    · exact ⟨by simp only [ih.1], ih.2⟩
    · exact ⟨rfl, .same k h⟩
  | @test p ps ks ls h hk ih =>
    rw [Token.takeDigits_of_head (p.nativeTokens_startApart ks),
      Token.takeDigits_of_head (p.foldedTokens_startApart ls)]
    exact ⟨rfl, .test p h hk⟩

theorem addDollar (h : TokensFold ps ks ls) :
    TokensFold ps (Token.addDollar ks) (Token.addDollar ls) := by
  obtain ⟨hdigits, hrest⟩ := h.takeDigits
  unfold Token.addDollar
  cases hk : Token.takeDigits ks with
  | mk digits rest =>
    cases hl : Token.takeDigits ls with
    | mk digits' rest' =>
      rw [hk, hl] at hdigits hrest
      simp only at hdigits hrest
      subst hdigits
      cases digits' with
      | nil => exact .same _ h
      | cons c digits => exact .same _ hrest

end TokensFold

theorem Folds.tokens {ps : List CaseTest} {t u : Text} (h : Folds ps t u) :
    TokensFold ps (Token.ofText t) (Token.ofText u) := by
  induction h with
  | nil => exact .nil
  | char c _ ih =>
    simp only [Token.ofText]
    split
    · exact ih.addDollar
    · exact .same _ ih
  | test p _ ht ih =>
    rw [p.ofText_native ht, p.ofText_folded]
    exact .test p ih (Token.tokensStartApart_ofText ht)

namespace TokensFold

variable {ps : List CaseTest} {ks ls : List Token}

theorem all_eq (h : TokensFold ps ks ls) {f : Token → Bool} (hf : ∀ c, f (.char c) = true) :
    ls.all f = ks.all f := by
  have hchars : ∀ w : Text, (w.map Token.char).all f = true := by
    intro w
    rw [List.all_map, List.all_eq_true]
    exact fun c _ => hf c
  induction h with
  | nil => rfl
  | same k _ ih => simp only [List.all_cons, ih]
  | test p _ _ ih =>
    simp only [CaseTest.nativeTokens, CaseTest.foldedTokens, List.all_append, hchars, List.all_cons,
      hf, ih, List.all_nil, Bool.and_true]

theorem moved (h : TokensFold ps ks ls) (k : Nat) {f : Token → Text} (hchar : ∀ c, f (.char c) = [c])
    (hslot : ∀ digits, f (.slot digits) = Placeholder.slotText (digitsValue digits + k)) :
    Folds (ps.map (CaseTest.move k)) (ks.flatMap f) (ls.flatMap f) := by
  have hchars : ∀ w : Text, (w.map Token.char).flatMap f = w := by
    intro w
    induction w with
    | nil => rfl
    | cons c w ih => simp [hchar, ih]
  induction h with
  | nil => exact .nil
  | same token _ ih =>
    rw [List.flatMap_cons, List.flatMap_cons]
    exact ih.after _
  | @test p ps ks ls _ hk ih =>
    have hnative : p.nativeTokens.flatMap f = (p.move k).native := by
      unfold CaseTest.nativeTokens CaseTest.native CaseTest.move
      rw [List.flatMap_append, hchars, List.flatMap_singleton, hslot, digitsValue_natText]
      rfl
    have hfolded : p.foldedTokens.flatMap f = (p.move k).folded := by
      unfold CaseTest.foldedTokens CaseTest.folded CaseTest.move
      rw [List.flatMap_append, hchars, List.flatMap_cons, List.flatMap_singleton, hslot, hchar,
        digitsValue_natText, ← List.append_assoc]
      rfl
    rw [List.flatMap_append, List.flatMap_append, hnative, hfolded]
    refine .test (p.move k) ih fun c hc => ?_
    cases ks with
    | nil => cases hc
    | cons token ks =>
      have htoken := hk token rfl
      cases token with
      | char d =>
        rw [List.flatMap_cons, hchar] at hc
        cases hc
        simpa [Token.digit?] using htoken
      | slot digits =>
        rw [List.flatMap_cons, hslot] at hc
        cases hc
        decide

end TokensFold

namespace Folds

variable {ps : List CaseTest} {t u : Text}

theorem shift (h : Folds ps t u) (k : Nat) :
    Folds (ps.map (CaseTest.move k)) (Placeholder.shift k t) (Placeholder.shift k u) := by
  unfold Placeholder.shift
  split
  · rename_i hk
    have hk0 : k = 0 := by omega
    have hmove : CaseTest.move k = id := by
      funext p
      simp [CaseTest.move, hk0]
    rwa [hmove, List.map_id]
  · exact h.tokens.moved k (fun _ => rfl) fun _ => rfl

theorem isLegible_eq (h : Folds ps t u) (limit : Nat) (o : Int) :
    Placeholder.isLegible limit o u = Placeholder.isLegible limit o t :=
  h.tokens.all_eq fun _ => rfl

end Folds

end BoundSql
