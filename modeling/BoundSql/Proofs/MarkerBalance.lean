import BoundSql.Proofs.MarkerReading
import BoundSql.Proofs.Reachable
import Mathlib.Algebra.GroupWithZero.Nat
/-!
How many markers a statement ends up with. On a dialect without numbers every slot is written as a
marker, and so is every marker that was never given a number. Conditions leave none of these behind,
for each of their markers has a value; the expressions of a select list and the conditions of joins
have no values, and every marker in them is left over.
-/

namespace BoundSql

open Token (takeDigits)

@[simp] theorem Token.filterMap_number?_char (c : Char) (ks : List Token) :
    (char c :: ks).filterMap number? = ks.filterMap number? :=
  List.filterMap_cons_none rfl

@[simp] theorem Token.filterMap_number?_slot (digits : Text) (ks : List Token) :
    (slot digits :: ks).filterMap number? = digitsValue digits :: ks.filterMap number? :=
  List.filterMap_cons_some rfl

theorem Token.count_mark_takeDigits (ks : List Token) :
    ((takeDigits ks).2.flatMap (Token.mark ['?'])).count '?' =
      (ks.flatMap (Token.mark ['?'])).count '?' := by
  induction ks with
  | nil => rfl
  | cons k ks ih =>
    cases k with
    | slot digits => rfl
    | char c =>
      unfold takeDigits
      split
      · rename_i hc
        have hne : c ≠ '?' := by
          rintro rfl
          have hmark : isDecimalDigit '?' = false := by decide
          simp [Token.digit?, hmark] at hc
        simp [ih, hne]
      · rfl

namespace Placeholder

@[simp] theorem markerCount_nil : markerCount [] = 0 := rfl

@[simp] theorem markerCount_append (t u : Text) :
    markerCount (t ++ u) = markerCount t + markerCount u :=
  List.count_append

theorem markerCount_eq_zero {t : Text} : markerCount t = 0 ↔ '?' ∉ t :=
  List.count_eq_zero

theorem markerCount_joinWith {separator : Text} (hs : markerCount separator = 0) (ts : List Text) :
    markerCount (joinWith separator ts) = (ts.map markerCount).sum := by
  fun_induction joinWith separator ts <;> simp_all

theorem markerCount_slotText (n : Nat) : markerCount (slotText n) = 0 := by
  rw [markerCount_eq_zero, slotText_natCast]
  intro hm
  rcases List.mem_cons.1 hm with hd | hd
  · cases hd
  · exact absurd (isDigit_of_mem_natText hd) (by decide)

theorem markerCount_positional (t : Text) :
    markerCount (positional ['?'] t) = (indices t).length + markerCount t := by
  simp only [positional_eq, indices_eq, markerCount]
  induction t with
  | nil => rfl
  | cons c t ih =>
    by_cases hc : c = '$'
    · subst hc
      have hmarks := Token.count_mark_takeDigits (Token.ofText t)
      have hnumbers := Token.filterMap_number?_takeDigits (Token.ofText t)
      simp only [Token.ofText, ↓reduceIte, Token.addDollar]
      split
      · simp [ih]
      · rename_i digits rest _ hks
        rw [hks] at hmarks hnumbers
        simp [hmarks, hnumbers, ih]
        omega
    · simp [Token.ofText, hc, List.count_cons, ih]
      omega

end Placeholder

namespace Piece

def isMarker : Piece → Bool
  | char c => c == '?'
  | value _ => false

end Piece

namespace Template

variable (T U : Template)

/-- How many markers of a template stay markers, for they have no value. -/
def looseMarkers : Nat :=
  T.countP Piece.isMarker

@[simp] theorem looseMarkers_nil : looseMarkers [] = 0 := rfl

@[simp] theorem looseMarkers_append :
    looseMarkers (T ++ U) = T.looseMarkers + U.looseMarkers :=
  List.countP_append

@[simp] theorem looseMarkers_char (c : Char) :
    looseMarkers (.char c :: T) = T.looseMarkers + if c = '?' then 1 else 0 := by
  simp [looseMarkers, List.countP_cons, Piece.isMarker]

@[simp] theorem looseMarkers_value (v : Value) : looseMarkers (.value v :: T) = T.looseMarkers := by
  simp [looseMarkers, Piece.isMarker]

@[simp] theorem looseMarkers_ofText (t : Text) :
    looseMarkers (ofText t) = Placeholder.markerCount t := by
  induction t with
  | nil => rfl
  | cons c t ih => simp [ih, Placeholder.markerCount_cons]

theorem looseMarkers_join {separator : Text} (hs : Placeholder.markerCount separator = 0)
    (Ts : List Template) : looseMarkers (join separator Ts) = (Ts.map looseMarkers).sum := by
  fun_induction join separator Ts <;> simp_all

theorem markerCount_number (o : Nat) :
    Placeholder.markerCount (number o T) = T.looseMarkers := by
  induction T generalizing o with
  | nil => rfl
  | cons p T ih =>
    cases p with
    | char c => simp [Placeholder.markerCount_cons, ih]
    | value v =>
      have ht := ih (o + 1)
      have hs := Placeholder.markerCount_slotText (o + 1)
      simp only [Int.natCast_add, Int.natCast_one] at ht hs
      simp [ht, hs]

theorem looseMarkers_ofFragment {t : Text} {vs : List Value}
    (h : Placeholder.markerCount t = vs.length) : looseMarkers (ofFragment t vs) = 0 := by
  induction t generalizing vs with
  | nil => rfl
  | cons c t ih =>
    rw [Placeholder.markerCount_cons] at h
    by_cases hc : c = '?'
    · cases vs with
      | nil => simp [hc] at h
      | cons v vs => simpa [ofFragment, hc] using ih (by simpa [hc] using h)
    · simpa [ofFragment, hc] using ih (by simpa [hc] using h)

end Template

/-- No digit stands behind a dollar sign that the caller wrote. -/
def LocalRule.unnumbered : LocalRule where
  alone _ := True
  beside p q := p.value? = none → Piece.Apart p q
  alone_plain _ := trivial
  alone_digit _ := trivial
  alone_star := trivial
  beside_plain p _ hc _ := separation.beside_plain p hc
  plain_beside p hc _ := separation.plain_beside p hc
  beside_value p v _ := separation.beside_value p v
  digit_beside hc hd _ := separation.digit_beside hc hd

theorem SqlFragment.Admitted.unnumbered {t : Text} (h : Admitted t) :
    LocalRule.unnumbered.Obeys (.ofText t) := by
  have ht := LocalRule.separation_obeys h.2
  exact ⟨fun _ _ => trivial, ht.beside.imp fun _ _ hpq _ => hpq⟩

theorem SqlFragment.Admitted.unnumbered_fragment {t : Text} (h : Admitted t) (vs : List Value) :
    LocalRule.unnumbered.Obeys (.ofFragment t vs) := by
  refine h.unnumbered.ofFragment (List.isChain_iff_getElem.2 ?_) vs
  intro _ _ _ v hv
  cases hv

namespace Template

theorem head_number {T : Template} (o : Nat) (h : ∀ p ∈ T.head?, ¬ p.isDigit) :
    ∀ c ∈ (number o T).head?, isDecimalDigit c = false := by
  cases T with
  | nil => simp
  | cons p T =>
    cases p with
    | char c => simpa [Piece.isDigit] using h (.char c) rfl
    | value v =>
      have hdollar : isDecimalDigit '$' = false := by decide
      simp [Placeholder.slotText, hdollar]

/-- There is a slot for each value, even where digits are read together with one. -/
theorem length_indices_number {T : Template} (h : LocalRule.unnumbered.Obeys T) (o : Nat) :
    (Placeholder.indices (number o T)).length = (values T).length := by
  rw [Placeholder.indices_eq]
  induction T generalizing o with
  | nil => rfl
  | cons p T ih =>
    have hT : LocalRule.unnumbered.Obeys T := ⟨fun _ _ => trivial, h.beside.of_cons⟩
    cases p with
    | value v =>
      have ht := ih hT (o + 1)
      have hn := Token.ofText_slotText_append (o + 1) (number ((o + 1 : Nat) : Int) T)
      simp only [Int.natCast_add, Int.natCast_one] at ht hn
      rw [number_value, hn, Token.filterMap_number?_slot, Token.filterMap_number?_takeDigits]
      simp [ht]
    | char c =>
      rw [number_char, Token.ofText, values_char]
      split
      · rename_i hc
        have hhead : ∀ p ∈ T.head?, ¬ p.isDigit := by
          intro p hp
          exact (List.isChain_cons.1 h.beside).1 p hp rfl (by simp [Piece.opensSlot, hc])
        have hread := Token.takeDigits_of_head (Token.digit?_head_ofText (head_number o hhead))
        simpa [Token.addDollar, hread] using ih hT o
      · simpa using ih hT o

theorem markerCount_positional_number {T : Template} (h : LocalRule.unnumbered.Obeys T) (o : Nat) :
    Placeholder.markerCount (Placeholder.positional ['?'] (number o T)) =
      (values T).length + T.looseMarkers := by
  rw [Placeholder.markerCount_positional, length_indices_number h, markerCount_number]

end Template

def LocalRule.unmarked : LocalRule where
  alone c := c ≠ '?'
  beside _ _ := True
  alone_plain hc := by
    rintro rfl
    exact absurd hc (by decide)
  alone_digit hc := by
    rintro rfl
    exact absurd hc (by decide)
  alone_star := by decide
  beside_plain _ _ _ := trivial
  plain_beside _ _ := trivial
  beside_value _ _ := trivial
  digit_beside _ _ := trivial

theorem LocalRule.unmarked_obeys_iff {T : Template} :
    unmarked.Obeys T ↔ T.looseMarkers = 0 := by
  rw [Template.looseMarkers, List.countP_eq_zero]
  constructor
  · intro h p hp
    cases p with
    | char c => simpa [Piece.isMarker, unmarked] using h.alone c hp
    | value v => simp [Piece.isMarker]
  · intro h
    refine ⟨fun c hc => ?_, List.isChain_iff_getElem.2 fun _ _ => trivial⟩
    simpa [Piece.isMarker, unmarked] using h _ hc

theorem LocalRule.Obeys.markerCount {t : Text} (h : unmarked.Obeys (.ofText t)) :
    Placeholder.markerCount t = 0 := by
  simpa using unmarked_obeys_iff.1 h

theorem Condition.template_unmarked {ctx : Context} {c : Condition} {T : Template}
    (h : c.template ctx = .ok T) : LocalRule.unmarked.Obeys T := by
  by_cases hraw : c.operator = .raw
  · simp only [template, hraw, rawTemplate, Outcome.do_eq_ok] at h
    obtain ⟨vs, -, h⟩ := h
    split at h
    · rename_i hcount
      cases h
      exact LocalRule.unmarked_obeys_iff.2 (Template.looseMarkers_ofFragment hcount)
    · cases h
  · exact template_keeps LocalRule.unmarked.compositional h fun hr => absurd hr hraw

theorem Group.looseMarkers_template {ctx : Context} {g : Group} {T : Template}
    (h : g.template ctx = .ok T) : T.looseMarkers = 0 :=
  LocalRule.unmarked_obeys_iff.1 <|
    template_inherits LocalRule.unmarked.compositional.inherited (fun _ _ _ hU => Condition.template_unmarked hU) h

def SelectItem.looseMarkers (i : SelectItem) : Nat :=
  if i.raw then Placeholder.markerCount i.expr.toList else 0

def Join.looseMarkers (j : Join) : Nat :=
  Placeholder.markerCount j.on.toList

namespace Statement

open Placeholder (markerCount)

/-- The markers for which a select statement has no values. -/
def looseMarkers (s : Statement) : Nat :=
  (s.items.map SelectItem.looseMarkers).sum + (s.joins.map Join.looseMarkers).sum

theorem looseMarkers_eq_zero {s : Statement} :
    s.looseMarkers = 0 ↔
      (∀ i ∈ s.items, i.raw → '?' ∉ i.expr.toList) ∧ ∀ j ∈ s.joins, '?' ∉ j.on.toList := by
  simp [looseMarkers, SelectItem.looseMarkers, Join.looseMarkers, Placeholder.markerCount_eq_zero,
    List.sum_eq_zero_iff_forall_eq_nat]

variable {ctx : Context} {s : Statement}

theorem markerCount_withAlias {sql t : Text} {other : Option String}
    (h : withAlias ctx sql other = .ok t) : markerCount t = markerCount sql := by
  unfold withAlias at h
  split at h
  · cases h
    rfl
  split at h
  · cases h
    rfl
  · obtain ⟨q, hq, rfl⟩ := Outcome.map_eq_ok.1 h
    have hname := Placeholder.markerCount_eq_zero.2 (Context.quote_isQuoted hq).marker_not_mem
    have hword : markerCount " AS ".toList = 0 := by decide
    simp only [Placeholder.markerCount_append, hname, hword]
    omega

theorem markerCount_itemText {i : SelectItem} {t : Text} (h : itemText ctx i = .ok t) :
    markerCount t = i.looseMarkers := by
  unfold SelectItem.looseMarkers
  split
  · rename_i hraw
    simp only [itemText, hraw, Bool.true_or, ↓reduceIte] at h
    exact markerCount_withAlias h
  · rename_i hraw
    exact (itemText_keeps LocalRule.unmarked.compositional (fun hr => absurd hr hraw) h).markerCount

theorem markerCount_selectText {t : Text} (h : selectText ctx s = .ok t) :
    markerCount t = (s.items.map SelectItem.looseMarkers).sum := by
  unfold selectText at h
  obtain ⟨items, hitems, h⟩ := Outcome.do_eq_ok.1 h
  cases h
  have hhead : markerCount (if s.distinct then "SELECT DISTINCT " else "SELECT ").toList = 0 := by
    split <;> decide
  have hlist : items.map markerCount = s.items.map SelectItem.looseMarkers :=
    Outcome.map_of_mapM hitems fun _ _ => markerCount_itemText
  rw [Placeholder.markerCount_append, hhead, ← hlist]
  split
  · rename_i hnone
    rw [List.isEmpty_iff.1 hnone]
    decide
  · rw [Placeholder.markerCount_joinWith (by decide)]
    omega

theorem markerCount_joinText {j : Join} {t : Text} (h : joinText ctx j = .ok t) :
    markerCount t = j.looseMarkers := by
  unfold joinText at h
  obtain ⟨source, hsource, h⟩ := Outcome.do_eq_ok.1 h
  cases h
  have hkind : markerCount j.kind.name.toList = 0 := by cases j.kind <;> decide
  have hsrc : markerCount source = 0 := (sourceText_keeps LocalRule.unmarked.compositional hsource).markerCount
  have hjoin : markerCount " JOIN ".toList = 0 := by decide
  have hon : markerCount " ON ".toList = 0 := by decide
  simp only [Placeholder.markerCount_append, hkind, hsrc, hjoin, hon, Join.looseMarkers]
  omega

theorem looseMarkers_clause {word : String} (hw : markerCount word.toList = 0) (T : Template) :
    ((Template.clause word T).map Template.looseMarkers).sum = T.looseMarkers := by
  unfold Template.clause
  split
  · rename_i h
    rw [List.isEmpty_iff.1 h]
    rfl
  · simp [hw]

theorem sum_markerCount_of_obeys {ts : List Text}
    (h : ∀ t ∈ ts, LocalRule.unmarked.Obeys (.ofText t)) : (ts.map markerCount).sum = 0 := by
  simpa [List.sum_eq_zero_iff_forall_eq_nat] using fun t ht => (h t ht).markerCount

theorem looseMarkers_texts (ts : List Text) :
    (ts.map Template.ofText).map Template.looseMarkers = ts.map markerCount := by
  simp

theorem looseMarkers_selectTemplate {T : Template} (h : s.selectTemplate ctx = .ok T) :
    T.looseMarkers = s.looseMarkers := by
  unfold selectTemplate at h
  obtain ⟨table, -, h⟩ := Outcome.do_eq_ok.1 h
  obtain ⟨head, hhead, h⟩ := Outcome.do_eq_ok.1 h
  obtain ⟨source, hsource, h⟩ := Outcome.do_eq_ok.1 h
  obtain ⟨joins, hjoins, h⟩ := Outcome.do_eq_ok.1 h
  obtain ⟨F, hF, h⟩ := Outcome.do_eq_ok.1 h
  obtain ⟨grouping, hgrouping, h⟩ := Outcome.do_eq_ok.1 h
  obtain ⟨H, hH, h⟩ := Outcome.do_eq_ok.1 h
  obtain ⟨ordering, hordering, h⟩ := Outcome.do_eq_ok.1 h
  cases h
  have hunmarked := LocalRule.unmarked.compositional
  have hfrom : markerCount "FROM ".toList = 0 := by decide
  have hsource : markerCount source = 0 := (sourceText_keeps hunmarked hsource).markerCount
  have hjoins : joins.map markerCount = s.joins.map Join.looseMarkers :=
    Outcome.map_of_mapM hjoins fun _ _ => markerCount_joinText
  have hgrouping := sum_markerCount_of_obeys (groupingText_keeps hunmarked hgrouping)
  have hordering := sum_markerCount_of_obeys (orderingClause_keeps hunmarked hordering)
  have hlimit := sum_markerCount_of_obeys
    (countClause_keeps hunmarked (by decide : "LIMIT".toList.all isBare) s.limit)
  have hoffset := sum_markerCount_of_obeys
    (countClause_keeps hunmarked (by decide : "OFFSET".toList.all isBare) s.offset)
  have hwhere := looseMarkers_clause (by decide : markerCount "WHERE".toList = 0) F
  have hhaving := looseMarkers_clause (by decide : markerCount "HAVING".toList = 0) H
  rw [Group.looseMarkers_template hF] at hwhere
  rw [Group.looseMarkers_template hH] at hhaving
  rw [Template.looseMarkers_join (by decide)]
  simp only [List.map_append, List.sum_append, looseMarkers_texts, List.map_cons, List.map_nil,
    List.sum_cons, List.sum_nil, Template.looseMarkers_ofText, Placeholder.markerCount_append,
    markerCount_selectText hhead, hfrom, hsource, hjoins, hgrouping, hordering, hlimit, hoffset,
    hwhere, hhaving, looseMarkers]
  omega

theorem Checked.keeps_unnumbered {limit : Int} (h : s.Checked limit) :
    s.Keeps LocalRule.unnumbered.Obeys where
  items i hi hraw := (h.items i hi hraw).unnumbered
  joins j hj := (h.joins j hj).unnumbered
  filter c hc hraw := ((h.filter c hc).fragment hraw).unnumbered_fragment
  having c hc hraw := ((h.having c hc).fragment hraw).unnumbered_fragment

end Statement

namespace Builder

/-- The text of a select statement for a dialect without numbers has a marker for each value, and
besides them those in the expressions and join conditions that the caller wrote. So markers and
values are as many exactly when there are none of these. -/
theorem Reachable.markers_of_select {b : Builder} (h : b.Reachable) (hkind : b.kind = .select)
    (hdialect : b.context.dialect = .sqlite) {c : Compiled} (hc : b.compile = .ok c) :
    Placeholder.markerCount c.sql = c.params.length + b.statement.looseMarkers ∧
    (Placeholder.markerCount c.sql = c.params.length ↔
      (∀ i ∈ b.statement.items, i.raw → '?' ∉ i.expr.toList) ∧
        ∀ j ∈ b.statement.joins, '?' ∉ j.on.toList) := by
  have hs : b.statement.kind = .select := hkind
  unfold compile Statement.compile Statement.compileNumbered at hc
  rw [hs, Statement.compileSelect_eq, Outcome.map_map] at hc
  obtain ⟨T, hT, rfl⟩ := Outcome.map_eq_ok.1 hc
  have hrule : LocalRule.unnumbered.Obeys T :=
    Statement.selectTemplate_keeps LocalRule.unnumbered.compositional h.checked.keeps_unnumbered hT
  have hcount := Template.markerCount_positional_number hrule 0
  rw [Statement.looseMarkers_selectTemplate hT] at hcount
  simp only [Statement.render, hdialect, Dialect.render, Template.numbered]
  rw [← Statement.looseMarkers_eq_zero, ← Int.natCast_zero, hcount]
  omega

def countedSelect : Builder :=
  ((start { dialect := .sqlite } .select).applyAll
    [.source .from_ (.text "t") .null, .selectRaw (.text "COUNT(?)") .null,
      .join (.text "u") (.text "t.a = u.a") .null (.text "left"),
      .filter (.raw .and (.text "b = ?1") (.list [.int 5]))]).1

theorem Reachable.markers_of_select_counted :
    countedSelect.Reachable ∧ countedSelect.kind = .select ∧
      countedSelect.context.dialect = .sqlite ∧
      ∃ c, countedSelect.compile = .ok c ∧ c.params = [.int 5] ∧
        Placeholder.markerCount c.sql = 2 := by
  have hreachable : countedSelect.Reachable := (Reachable.start _ _).applyAll _
  obtain ⟨c, hc, hparams⟩ : ∃ c, countedSelect.compile = .ok c ∧ c.params = [.int 5] :=
    ⟨_, rfl, rfl⟩
  have hcount := (hreachable.markers_of_select rfl rfl hc).1
  rw [hparams] at hcount
  exact ⟨hreachable, rfl, rfl, c, hc, hparams, hcount.trans (by decide)⟩

/-- A marker in a select list is accepted, and there is no value for it. -/
theorem select_marker_without_value :
    ∃ b c, (start { dialect := .sqlite } .select).applyAll
        [.source .from_ (.text "t") .null, .selectRaw (.text "?") .null] = (b, .ok ()) ∧
      b.compile = .ok c ∧ c.sql = "SELECT ? FROM \"t\"".toList ∧ c.params = [] ∧
      Placeholder.markerCount c.sql ≠ c.params.length :=
  ⟨_, _, rfl, rfl, by decide, rfl, by decide⟩

end Builder

end BoundSql
