import BoundSql.Proofs.NameReading
import Mathlib.Data.List.TakeWhile
/-!
Names that are read again from what was written for them. Nothing comes back but the parts, each of
which has kept its name characters alone, and it is the whole name exactly when there is nothing else
in it.
-/

namespace BoundSql

section Pieces

variable {separator : Char}

theorem cutAt_append {t : Text} (h : separator ∉ t) (u : Text) :
    cutAt separator (t ++ separator :: u) = t :: cutAt separator u := by
  induction t with
  | nil => simp [cutAt]
  | cons c t ih =>
    simp only [List.mem_cons, not_or] at h
    simp [cutAt, Ne.symm h.1, ih h.2]

theorem cutAt_of_not_mem {t : Text} (h : separator ∉ t) : cutAt separator t = [t] := by
  induction t with
  | nil => rfl
  | cons c t ih =>
    simp only [List.mem_cons, not_or] at h
    simp [cutAt, Ne.symm h.1, ih h.2]

theorem cutAt_joinWith {ts : List Text} (hne : ts ≠ []) (h : ∀ t ∈ ts, separator ∉ t) :
    cutAt separator (joinWith [separator] ts) = ts := by
  induction ts with
  | nil => exact absurd rfl hne
  | cons t ts ih =>
    obtain ⟨ht, hts⟩ := List.forall_mem_cons.1 h
    cases ts with
    | nil => exact cutAt_of_not_mem ht
    | cons u ts =>
      have hrest := ih (by simp) hts
      simpa [joinWith, hrest] using cutAt_append ht (joinWith [separator] (u :: ts))

theorem joinWith_cutAt (separator : Char) (t : Text) :
    joinWith [separator] (cutAt separator t) = t := by
  induction t with
  | nil => rfl
  | cons c t ih =>
    cases hcut : cutAt separator t with
    | nil => exact absurd hcut (cutAt_ne_nil _ _)
    | cons p ps =>
      rw [hcut] at ih
      by_cases hc : c = separator
      · simp [cutAt, hc, hcut, joinWith, ih]
      · cases ps with
        | nil => simpa [cutAt, hc, hcut, joinWith] using ih
        | cons u ps => simpa [cutAt, hc, hcut, joinWith] using ih

theorem mem_joinWith {c : Char} {ts : List Text} (h : c ∈ joinWith [separator] ts) :
    c = separator ∨ ∃ t ∈ ts, c ∈ t := by
  fun_induction joinWith [separator] ts with
  | case1 => cases h
  | case2 t => exact .inr ⟨t, by simp, h⟩
  | case3 t u ts ih =>
    simp only [List.mem_append, List.mem_singleton] at h
    rcases h with (ht | hs) | hrest
    · exact .inr ⟨t, by simp, ht⟩
    · exact .inl hs
    · exact (ih hrest).imp id fun ⟨v, hv, hc⟩ => ⟨v, List.mem_cons_of_mem _ hv, hc⟩

end Pieces

theorem dropWhile_isBlank_eq_self {t : Text} (h : ∀ c ∈ t, isBlank c = false) :
    t.dropWhile isBlank = t := by
  cases t with
  | nil => rfl
  | cons c t => rw [List.dropWhile_cons_of_neg (by simp [h c])]

theorem trim_eq_self {t : Text} (h : ∀ c ∈ t, isBlank c = false) : trim t = t := by
  have hreverse : ∀ c ∈ t.reverse, isBlank c = false := fun c hc => h c (List.mem_reverse.1 hc)
  rw [trim, trimBy, dropWhile_isBlank_eq_self h, dropWhile_isBlank_eq_self hreverse,
    List.reverse_reverse]

theorem isBlank_eq_false_of_isNameChar {c : Char} (h : isNameChar c) : isBlank c = false := by
  have hbounds : 48 ≤ c.toNat ∧ c.toNat ≤ 122 := by
    simp only [isNameChar, Char.isAlphanum, Bool.or_eq_true, beq_iff_eq] at h
    rcases h with (ha | hd) | rfl
    · have hletter := isAlpha_bounds ha
      omega
    · have hdigit : 48 ≤ c.toNat ∧ c.toNat ≤ 57 := Char.isDigit_iff_toNat.1 hd
      omega
    · decide
  simp only [isBlank, Bool.or_eq_false_iff, Bool.and_eq_false_imp, decide_eq_true_eq,
    decide_eq_false_iff_not, beq_eq_false_iff_ne]
  omega

theorem filter_dropWhile_isBlank (t : Text) :
    (t.dropWhile isBlank).filter isNameChar = t.filter isNameChar := by
  induction t with
  | nil => rfl
  | cons c t ih =>
    by_cases hc : isBlank c
    · have hn : ¬ isNameChar c := fun hn => by simp [isBlank_eq_false_of_isNameChar hn] at hc
      rw [List.dropWhile_cons_of_pos hc, ih, List.filter_cons_of_neg hn]
    · rw [List.dropWhile_cons_of_neg hc]

theorem filter_trim (t : Text) : (trim t).filter isNameChar = t.filter isNameChar := by
  rw [trim, trimBy, List.filter_reverse, filter_dropWhile_isBlank, List.filter_reverse,
    List.reverse_reverse, filter_dropWhile_isBlank]

namespace Identifier

variable {limit : Int} {name q : Text}

theorem keptPart_eq (part : Text) :
    keptPart part = if part = ['*'] then part else part.filter isNameChar := by
  rw [keptPart, filter_trim]

theorem IsKept.mem {w : Text} (h : IsKept w) {c : Char} (hc : c ∈ w) : isNameChar c ∨ c = '*' := by
  rcases h with hbody | rfl
  · exact .inl (hbody.2 c hc)
  · exact .inr (List.mem_singleton.1 hc)

theorem IsKept.dot_not_mem {w : Text} (h : IsKept w) : '.' ∉ w := by
  intro hm
  rcases h.mem hm with hc | hc <;> exact absurd hc (by decide)

theorem keptParts_ne_nil (name : Text) : keptParts name ≠ [] := by
  simp [keptParts, cutAt_ne_nil]

/-- The parts of a name without any other than name characters; a part that is a star stays one. -/
def keptName (name : Text) : Text :=
  joinWith ['.'] ((cutAt '.' (trim name)).map fun part =>
    if part = ['*'] then part else part.filter isNameChar)

theorem keptName_eq (name : Text) : keptName name = joinWith ['.'] (keptParts name) := by
  simp only [keptName, keptParts, ← keptPart_eq]

theorem cutAt_keptName (h : quote limit name = .ok q) :
    cutAt '.' (keptName name) = keptParts name := by
  rw [keptName_eq]
  exact cutAt_joinWith (keptParts_ne_nil name) fun w hw => ((quote_kept h).1 w hw).dot_not_mem

theorem unquote_eq_keptName (h : quote limit name = .ok q) : unquote q = .ok (keptName name) := by
  obtain ⟨hkept, rfl⟩ := quote_kept h
  rw [unquote, partsFrom_joinWith hkept, keptName_eq]

/-- A name of which nothing is left out: every part is made of name characters, or is a star. -/
def IsPlainName (name : Text) : Prop :=
  ∀ part ∈ cutAt '.' name, part = ['*'] ∨ ∀ c ∈ part, isNameChar c

instance (name : Text) : Decidable (IsPlainName name) :=
  decidable_of_iff ((cutAt '.' name).all fun part => part == ['*'] || part.all isNameChar)
    (by simp [IsPlainName])

theorem IsPlainName.trim_eq (h : IsPlainName name) : trim name = name := by
  refine trim_eq_self fun c hc => ?_
  rw [← joinWith_cutAt '.' name] at hc
  rcases mem_joinWith hc with rfl | ⟨part, hpart, hmem⟩
  · decide
  · rcases h part hpart with rfl | hchars
    · rw [List.mem_singleton.1 hmem]
      decide
    · exact isBlank_eq_false_of_isNameChar (hchars c hmem)

theorem IsPlainName.keptName_eq_self (h : IsPlainName name) : keptName name = name := by
  have hparts : (cutAt '.' name).map (fun part =>
      if part = ['*'] then part else part.filter isNameChar) = cutAt '.' name := by
    refine (List.map_congr_left fun part hpart => ?_).trans (List.map_id _)
    rcases h part hpart with rfl | hchars
    · rfl
    · split
      · rfl
      · exact List.filter_eq_self.2 hchars
  rw [keptName, h.trim_eq, hparts, joinWith_cutAt]

/-- Of an accepted name the whole is kept exactly when it is plain. -/
theorem keptName_eq_self_iff (h : quote limit name = .ok q) :
    keptName name = name ↔ IsPlainName name := by
  refine ⟨fun he part hpart => ?_, IsPlainName.keptName_eq_self⟩
  rw [← he, cutAt_keptName h] at hpart
  exact ((quote_kept h).1 part hpart).symm.imp id And.right

/-- What is written for a name has the shape of a quoted name, and what is read from it again is what
was kept of the parts. That is the name itself exactly when it is plain. -/
theorem unquote_quoted (h : quote limit name = .ok q) :
    IsQuoted q ∧ unquote q = .ok (keptName name) ∧
      (unquote q = .ok name ↔ IsPlainName name) := by
  refine ⟨quote_isQuoted h, unquote_eq_keptName h, ?_⟩
  rw [unquote_eq_keptName h, Except.ok.injEq, keptName_eq_self_iff h]

def plainOrders : Text := "sales_1.orders.*".toList

def spacedOrders : Text := " sales-1 . my orders.* ".toList

/-- Without blanks and hyphens the whole name comes back, and with them the rest of it. -/
theorem unquote_quoted_orders :
    quote defaultLimit plainOrders = .ok "\"sales_1\".\"orders\".*".toList ∧
      unquote "\"sales_1\".\"orders\".*".toList = .ok plainOrders ∧
      quote defaultLimit spacedOrders = .ok "\"sales1\".\"myorders\".*".toList ∧
      unquote "\"sales1\".\"myorders\".*".toList = .ok "sales1.myorders.*".toList := by
  have hplain : quote defaultLimit plainOrders = .ok "\"sales_1\".\"orders\".*".toList := by
    decide +kernel
  have hspaced : quote defaultLimit spacedOrders = .ok "\"sales1\".\"myorders\".*".toList := by
    decide +kernel
  have hkept : keptName spacedOrders = "sales1.myorders.*".toList := by decide +kernel
  exact ⟨hplain, (unquote_quoted hplain).2.2.2 (by decide +kernel), hspaced,
    hkept ▸ (unquote_quoted hspaced).2.1⟩

end Identifier

end BoundSql
