import BoundSql.Proofs.Reachable
import Mathlib.Data.List.Infix
/-!
Nothing that is sent ends a statement or begins a comment. The caller's own texts are harmless and
so is everything between them, and this stays so when slots are numbered, moved and written in the
form of the dialect, where a fragment may have been read otherwise than it was meant.
-/

namespace BoundSql

theorem occursIn_iff_infix {part t : Text} : occursIn part t ↔ part <:+: t := by
  induction t with
  | nil => simp [occursIn]
  | cons c t ih =>
    have hstep : occursIn part (c :: t) = (part.isPrefixOf (c :: t) || occursIn part t) := rfl
    rw [hstep, Bool.or_eq_true, ih, List.isPrefixOf_iff_prefix, List.infix_cons_iff]

namespace LocalRule

variable {r : LocalRule} {T U : Template}

/-- Other text in the place of some stretches of a template, made of characters that may stand
anywhere. -/
inductive Refilled (r : LocalRule) : Template → Template → Prop where
  | nil : Refilled r [] []
  | char (c : Char) {T U : Template} (h : Refilled r T U) : Refilled r (.char c :: T) (.char c :: U)
  | fill (S : Template) {w : Text} (hne : w ≠ []) (hw : ∀ c ∈ w, r.Neutral c) {T U : Template}
      (h : Refilled r T U) : Refilled r (S ++ T) (.ofText w ++ U)

theorem Refilled.head? (h : Refilled r T U) :
    ∀ q ∈ U.head?, q ∈ T.head? ∨ ∃ c, q = .char c ∧ r.Neutral c := by
  intro q hq
  cases h with
  | nil => cases hq
  | char c h => exact .inl hq
  | @fill S w hne hw T U h =>
    cases w with
    | nil => exact absurd rfl hne
    | cons c w =>
      cases hq
      exact .inr ⟨c, rfl, hw c (by simp)⟩

theorem Refilled.obeys (h : Refilled r T U) (hT : r.Obeys T) : r.Obeys U := by
  induction h with
  | nil => exact hT
  | @char c T U h ih =>
    have htail : r.Obeys T := ⟨fun d hd => hT.alone d (by simp [hd]), hT.beside.of_cons⟩
    refine ⟨fun d hd => ?_, (ih htail).beside.cons fun q hq => ?_⟩
    · rcases List.mem_cons.1 hd with he | hm
      · cases he
        exact hT.alone c (by simp)
      · exact (ih htail).alone d hm
    · rcases h.head? q hq with hm | ⟨d, rfl, hd⟩
      · exact hT.beside.rel_head? hm
      · exact hd.behind _
  | @fill S w hne hw T U h ih =>
    refine .neutral_append hw (ih ⟨fun d hd => hT.alone d (by simp [hd]), ?_⟩)
    exact hT.beside.right_of_append

theorem Refilled.tokens {f : Token → Text} (hchar : ∀ c, f (.char c) = [c])
    (hslot : ∀ digits, f (.slot digits) ≠ [] ∧ ∀ c ∈ f (.slot digits), r.Neutral c)
    (ks : List Token) :
    Refilled r (.ofText (ks.flatMap Token.text)) (.ofText (ks.flatMap f)) := by
  induction ks with
  | nil => exact .nil
  | cons k ks ih =>
    cases k with
    | char c => simpa [Token.text, hchar] using Refilled.char c ih
    | slot digits =>
      obtain ⟨hne, hw⟩ := hslot digits
      simp only [List.flatMap_cons, Template.ofText_append]
      exact .fill _ hne hw ih

theorem Refilled.number (hdollar : r.Neutral '$') (hdigit : ∀ {c : Char}, c.isDigit → r.Neutral c)
    (T : Template) (o : Nat) : Refilled r T (.ofText (T.number o)) := by
  induction T generalizing o with
  | nil => exact .nil
  | cons p T ih =>
    cases p with
    | char c => exact .char c (ih o)
    | value v =>
      have hrest : Refilled r T (.ofText (Template.number ((o : Int) + 1) T)) := ih (o + 1)
      have hslot : Placeholder.slotText ((o : Int) + 1) = '$' :: natText (o + 1) :=
        Placeholder.slotText_natCast (o + 1)
      have hw : ∀ c ∈ '$' :: natText (o + 1), r.Neutral c := by
        intro c hc
        rcases List.mem_cons.1 hc with rfl | hm
        · exact hdollar
        · exact hdigit (isDigit_of_mem_natText hm)
      rw [Template.number_value, hslot, Template.ofText_append]
      exact Refilled.fill [.value v] (List.cons_ne_nil _ _) hw hrest

end LocalRule

open LocalRule (hygiene Refilled)

def Harmless (t : Text) : Prop :=
  hygiene.Obeys (.ofText t)

theorem hygiene_slotText (n : Nat) :
    Placeholder.slotText n ≠ [] ∧ ∀ c ∈ Placeholder.slotText n, hygiene.Neutral c := by
  rw [Placeholder.slotText_natCast]
  refine ⟨List.cons_ne_nil _ _, fun c hc => ?_⟩
  rcases List.mem_cons.1 hc with rfl | hm
  · exact LocalRule.hygiene_neutral (by decide)
  · exact LocalRule.hygiene_neutral (not_mem_hazards_of_isDigit (isDigit_of_mem_natText hm))

namespace Harmless

variable {t : Text}

theorem number {T : Template} (h : hygiene.Obeys T) : Harmless (T.number 0) :=
  Refilled.obeys (.number (LocalRule.hygiene_neutral (by decide))
    (fun hc => LocalRule.hygiene_neutral (not_mem_hazards_of_isDigit hc)) T 0) h

theorem tokens {f : Token → Text} (h : Harmless t) (hchar : ∀ c, f (.char c) = [c])
    (hslot : ∀ digits, f (.slot digits) ≠ [] ∧ ∀ c ∈ f (.slot digits), hygiene.Neutral c) :
    Harmless ((Token.ofText t).flatMap f) := by
  have hrefilled := Refilled.tokens hchar hslot (Token.ofText t)
  rw [Token.flatMap_text_ofText] at hrefilled
  exact hrefilled.obeys h

theorem shift (h : Harmless t) (k : Nat) : Harmless (Placeholder.shift k t) := by
  unfold Placeholder.shift
  split
  · exact h
  · exact h.tokens (fun c => rfl) fun digits => hygiene_slotText (digitsValue digits + k)

theorem shiftWithin {limit k : Nat} {u : Text} (h : Harmless t)
    (hu : Placeholder.shiftWithin limit k t = .ok u) : Harmless u := by
  unfold Placeholder.shiftWithin at hu
  split at hu
  · cases hu
    exact h.shift k
  · cases hu

theorem render (d : Dialect) (h : Harmless t) : Harmless (d.render t) := by
  cases d with
  | postgres => exact h
  | sqlite =>
    refine h.tokens (fun c => rfl) fun digits => ⟨List.cons_ne_nil _ _, fun c hc => ?_⟩
    rw [List.mem_singleton.1 hc]
    exact LocalRule.hygiene_neutral (by decide)

theorem not_infix (h : Harmless t) : ∀ p ∈ dangerousPatterns, ¬ p <:+: t := by
  have hd : isDangerous t = false := LocalRule.hygiene_obeys_iff.1 h
  intro p hp hinfix
  have hany : isDangerous t = true :=
    List.any_eq_true.2 ⟨p, hp, occursIn_iff_infix.2 hinfix⟩
  rw [hd] at hany
  cases hany

end Harmless

namespace Statement

variable {ctx : Context} {s : Statement} {limit : Int} {t : BoundText}

theorem Checked.keeps_hygiene (h : s.Checked limit) : s.Keeps hygiene.Obeys where
  items i hi hraw := LocalRule.hygiene_obeys_iff.2 (h.items i hi hraw).1
  joins j hj := LocalRule.hygiene_obeys_iff.2 (h.joins j hj).1
  filter c hc hraw := ((h.filter c hc).fragment hraw).hygiene
  having c hc hraw := ((h.having c hc).fragment hraw).hygiene

theorem withReturning_harmless {T : Template} {sql : Text} (hT : hygiene.Obeys T)
    (h : s.withReturning ctx (T.number 0) = .ok sql) : Harmless sql := by
  have hmap := withReturningTemplate_numbered ctx s 0 T
  rw [h] at hmap
  obtain ⟨U, hU, he⟩ := Outcome.map_eq_ok.1 hmap
  simp only [Template.numbered, BoundText.mk.injEq] at he
  rw [← he.1]
  exact .number (withReturningTemplate_keeps hygiene.compositional hT hU)

/-- The conditions of an update may have been read otherwise than they were written, and what comes
of them is harmless all the same. -/
theorem compileUpdate_harmless (hs : s.Keeps hygiene.Obeys) (h : s.compileUpdate ctx = .ok t) :
    Harmless t.sql := by
  unfold compileUpdate assignmentText at h
  obtain ⟨table, -, h⟩ := Outcome.do_eq_ok.1 h
  split at h
  · cases h
  rw [Outcome.do_pure, Outcome.do_map] at h
  obtain ⟨names, hnames, h⟩ := Outcome.do_eq_ok.1 h
  obtain ⟨vs, hvs, h⟩ := Outcome.do_eq_ok.1 h
  obtain ⟨target, htarget, h⟩ := Outcome.do_eq_ok.1 h
  obtain ⟨filter, hfilter, h⟩ := Outcome.do_eq_ok.1 h
  obtain ⟨moved, hmoved, h⟩ := Outcome.do_eq_ok.1 h
  obtain ⟨sql, hsql, h⟩ := Outcome.do_eq_ok.1 h
  cases h
  rw [Group.compile_eq] at hfilter
  obtain ⟨F, hF, rfl⟩ := Outcome.map_eq_ok.1 hfilter
  have hmoved : Harmless moved :=
    (Harmless.number (Group.template_keeps hygiene.compositional hs.filter hF)).shiftWithin
      (Outcome.mapError_eq_ok.1 hmoved)
  have hlen : names.length = vs.length := by
    rw [Outcome.length_of_mapM hnames, length_of_values hvs]
  have hset := Template.assignments_numbered 0 hlen
  simp only [Template.numbered, BoundText.mk.injEq] at hset
  have hbody := updateBody_keeps hygiene.compositional (Context.quote_isQuoted htarget)
    (quotedNames hnames) vs hmoved
  generalize "UPDATE ".toList ++ target ++ " SET ".toList = head at hsql hbody
  have hnumber : Template.number 0 (Template.ofText head ++ Template.assignments names vs ++
      Template.clauseAfter "WHERE" (.ofText moved)) =
        head ++ (Template.assignments names vs).number 0 ++ clauseAfter "WHERE" moved := by
    simp [Template.number_clauseAfter]
  rw [← hset.1, ← hnumber] at hsql
  exact withReturning_harmless hbody hsql

theorem compileNumbered_harmless (hs : s.Keeps hygiene.Obeys) (h : s.compileNumbered ctx = .ok t) :
    Harmless t.sql := by
  by_cases hk : s.kind = .update
  · unfold compileNumbered at h
    rw [hk] at h
    exact compileUpdate_harmless hs h
  · rw [compileNumbered_eq ctx s fun hu => absurd hu hk] at h
    obtain ⟨T, hT, rfl⟩ := Outcome.map_eq_ok.1 h
    exact .number (template_keeps hygiene.compositional hs hT)

theorem countNumbered_harmless {column : Value} (hs : s.Keeps hygiene.Obeys)
    (h : s.countNumbered ctx column = .ok t) : Harmless t.sql := by
  unfold countNumbered at h
  obtain ⟨target, htarget, h⟩ := Outcome.do_eq_ok.1 h
  have ht : hygiene.Obeys (.ofText target) := countTarget_keeps hygiene.compositional htarget
  split at h
  · obtain ⟨u, hu, rfl⟩ := Outcome.map_eq_ok.1 h
    have hsql : Template.ofText (countOf target u).sql =
        countOfTemplate target (.ofText u.sql) := by
      unfold countOf countOfTemplate
      generalize "SELECT COUNT(".toList ++ target ++ ") AS \"count\" FROM (".toList = head
      rw [Template.ofText_append, Template.ofText_append]
    unfold Harmless
    rw [hsql]
    exact countOfTemplate_keeps hygiene.compositional ht (compileNumbered_harmless hs hu)
  · exact compileNumbered_harmless (keeps_counted hygiene.compositional ht hs) h

theorem compile_harmless {c : Compiled} (hs : s.Keeps hygiene.Obeys) (h : s.compile ctx = .ok c) :
    Harmless c.sql := by
  obtain ⟨t, ht, rfl⟩ := Outcome.map_eq_ok.1 h
  exact (compileNumbered_harmless hs ht).render ctx.dialect

theorem compileCount_harmless {c : Compiled} {column : Value} (hs : s.Keeps hygiene.Obeys)
    (h : s.compileCount ctx column = .ok c) : Harmless c.sql := by
  obtain ⟨t, ht, rfl⟩ := Outcome.map_eq_ok.1 h
  exact (countNumbered_harmless hs ht).render ctx.dialect

end Statement

namespace Builder

/-- No call, and no two calls together, can bring a separator or a comment into what is sent. -/
theorem Reachable.not_dangerous {b : Builder} (h : b.Reachable) (column : Value) (c : Compiled)
    (hc : b.compile = .ok c ∨ b.statement.limitedToOne.compile b.context = .ok c ∨
      b.compileCount column = .ok c) :
    ∀ p ∈ [";", "--", "/*", "*/", "\x00"], ¬ p.toList <:+: c.sql := by
  have hs := h.checked.keeps_hygiene
  have hsql : Harmless c.sql := by
    rcases hc with hc | hc | hc
    · exact Statement.compile_harmless hs hc
    · exact Statement.compile_harmless (Statement.keeps_limitedToOne hs) hc
    · exact Statement.compileCount_harmless hs hc
  intro p hp
  refine hsql.not_infix p.toList ?_
  have hall : ∀ p ∈ [";", "--", "/*", "*/", "\x00"], p.toList ∈ dangerousPatterns := by decide
  exact hall p hp

theorem not_dangerous_markedUpdate :
    ∃ c, markedUpdate.compile = .ok c ∧ c.params.length = 5 ∧
      ∀ p ∈ [";", "--", "/*", "*/", "\x00"], ¬ p.toList <:+: c.sql := by
  have hc : markedUpdate.compile =
      .ok { sql := "UPDATE \"t\" SET \"a\" = ? WHERE b > ? OR c = ? OR (\"d\" IN (?, ?))".toList,
            params := [.int 1, .int 2, .int 3, .int 4, .int 5], dialect := .sqlite } := by
    rfl
  exact ⟨_, hc, rfl, markedUpdate_reachable.not_dangerous .null _ (.inl hc)⟩

end Builder

end BoundSql
