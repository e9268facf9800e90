import BoundSql.Proofs.Lexeme
/-!
How conditions are read: tests of a column, parentheses, and AND that binds tighter than OR. The AND
of a range is part of its test. A text is read in one way only, up to the grouping of neighbours that
are joined by the same word.
-/

namespace BoundSql

open Lexeme (keyword)

namespace Grammar

def IsName (w : Text) : Prop :=
  w.head? = some '"'

def IsSlot (w : Text) : Prop :=
  w.head? = some '$'

def patterns : List (List Lexeme) :=
  [[keyword "LIKE"], [keyword "NOT", keyword "LIKE"]]

def comparators : List (List Lexeme) :=
  [[keyword "="], [keyword "!="], [keyword ">"], [keyword "<"], [keyword ">="], [keyword "<="],
    [keyword "LIKE"], [keyword "ILIKE"], [keyword "NOT", keyword "LIKE"],
    [keyword "NOT", keyword "ILIKE"]]

def nullTests : List (List Lexeme) :=
  [[keyword "IS", keyword "NULL"], [keyword "IS", keyword "NOT", keyword "NULL"]]

def memberships : List (List Lexeme) :=
  [[keyword "IN"], [keyword "NOT", keyword "IN"]]

def ranges : List (List Lexeme) :=
  [[keyword "BETWEEN"], [keyword "NOT", keyword "BETWEEN"]]

def constants : List (List Lexeme) :=
  [[keyword "1", keyword "=", keyword "0"], [keyword "1", keyword "=", keyword "1"]]

inductive IsSlots : List Lexeme → Prop where
  | one {s : Text} (hs : IsSlot s) : IsSlots [.word s]
  | more {s : Text} {ls : List Lexeme} (hs : IsSlot s) (h : IsSlots ls) :
    IsSlots (.word s :: .comma :: ls)

inductive IsLeaf : List Lexeme → Prop where
  | comparison {q s : Text} {os : List Lexeme} (hq : IsName q) (ho : os ∈ comparators)
    (hs : IsSlot s) : IsLeaf (.word q :: (os ++ [.word s]))
  | lowered {q s : Text} {os : List Lexeme} (hq : IsName q) (ho : os ∈ patterns) (hs : IsSlot s) :
    IsLeaf (keyword "LOWER" :: .opening :: .word q :: .closing ::
      (os ++ [keyword "LOWER", .opening, .word s, .closing]))
  | null {q : Text} {os : List Lexeme} (hq : IsName q) (ho : os ∈ nullTests) :
    IsLeaf (.word q :: os)
  | membership {q : Text} {os ls : List Lexeme} (hq : IsName q) (ho : os ∈ memberships)
    (hs : IsSlots ls) : IsLeaf (.word q :: (os ++ .opening :: (ls ++ [.closing])))
  | range {q s t : Text} {os : List Lexeme} (hq : IsName q) (ho : os ∈ ranges) (hs : IsSlot s)
    (ht : IsSlot t) : IsLeaf (.word q :: (os ++ [.word s, keyword "AND", .word t]))
  | constant {ls : List Lexeme} (h : ls ∈ constants) : IsLeaf ls

def afterOperator : List Lexeme → List Lexeme
  | .word w :: ls =>
    if w = "IS".toList then ls.drop (if ls.head? = some (keyword "NOT") then 2 else 1)
    else if w = "IN".toList then (ls.dropWhile (· ≠ .closing)).drop 1
    else if w = "BETWEEN".toList then ls.drop 3
    else ls.drop 1
  | ls => ls

def afterName (ls : List Lexeme) : List Lexeme :=
  if ls.head? = some (keyword "NOT") then afterOperator (ls.drop 1) else afterOperator ls

def afterLeaf : List Lexeme → List Lexeme
  | .word w :: ls =>
    if w.head? = some '"' then afterName ls
    else if w = "LOWER".toList then (afterName (ls.drop 3)).drop 3
    else ls.drop 2
  | ls => ls

theorem IsSlots.not_closing {ls : List Lexeme} (h : IsSlots ls) : ∀ l ∈ ls, l ≠ .closing := by
  induction h with
  | one hs => simp
  | more hs h ih => simpa using ih

theorem IsSlots.dropWhile {ls : List Lexeme} (h : IsSlots ls) (r : List Lexeme) :
    (ls ++ .closing :: r).dropWhile (· ≠ .closing) = .closing :: r := by
  have hall : ∀ l ∈ ls, decide (l ≠ .closing) = true := fun l hl =>
    decide_eq_true (h.not_closing l hl)
  rw [List.dropWhile_append_of_pos hall]
  rfl

theorem afterLeaf_name {q : Text} (hq : IsName q) (ls : List Lexeme) :
    afterLeaf (.word q :: ls) = afterName ls :=
  if_pos hq

theorem afterLeaf_append {ls : List Lexeme} (h : IsLeaf ls) (r : List Lexeme) :
    afterLeaf (ls ++ r) = r := by
  cases h with
  | comparison hq ho hs =>
    simp only [comparators, List.mem_cons, List.not_mem_nil, or_false] at ho
    rw [List.cons_append, afterLeaf_name hq]
    rcases ho with rfl | rfl | rfl | rfl | rfl | rfl | rfl | rfl | rfl | rfl <;> rfl
  | lowered hq ho hs =>
    simp only [patterns, List.mem_cons, List.not_mem_nil, or_false] at ho
    rcases ho with rfl | rfl <;> rfl
  | null hq ho =>
    simp only [nullTests, List.mem_cons, List.not_mem_nil, or_false] at ho
    rw [List.cons_append, afterLeaf_name hq]
    rcases ho with rfl | rfl <;> rfl
  | @membership q os ms hq ho hs =>
    simp only [memberships, List.mem_cons, List.not_mem_nil, or_false] at ho
    have hend : ((Lexeme.opening :: (ms ++ .closing :: r)).dropWhile (· ≠ .closing)).drop 1 = r := by
      have hstep : (Lexeme.opening :: (ms ++ .closing :: r)).dropWhile (· ≠ .closing) =
          (ms ++ .closing :: r).dropWhile (· ≠ .closing) := rfl
      rw [hstep, hs.dropWhile]
      rfl
    rw [List.cons_append, afterLeaf_name hq]
    simp only [List.append_assoc, List.cons_append, List.nil_append]
    rcases ho with rfl | rfl <;> exact hend
  | range hq ho hs ht =>
    simp only [ranges, List.mem_cons, List.not_mem_nil, or_false] at ho
    rw [List.cons_append, afterLeaf_name hq]
    rcases ho with rfl | rfl <;> rfl
  | constant hc =>
    simp only [constants, List.mem_cons, List.not_mem_nil, or_false] at hc
    rcases hc with rfl | rfl <;> rfl

theorem IsLeaf.unique {ls ms r t : List Lexeme} (hl : IsLeaf ls) (hm : IsLeaf ms)
    (h : ls ++ r = ms ++ t) : ls = ms ∧ r = t := by
  have hr : r = t := by
    rw [← afterLeaf_append hl r, h, afterLeaf_append hm t]
  subst hr
  exact ⟨List.append_cancel_right h, rfl⟩

theorem IsLeaf.eq_word {ls : List Lexeme} (h : IsLeaf ls) : ∃ w ms, ls = .word w :: ms := by
  cases h with
  | comparison | lowered | null | membership | range => exact ⟨_, _, rfl⟩
  | constant hc =>
    simp only [constants, List.mem_cons, List.not_mem_nil, or_false] at hc
    rcases hc with rfl | rfl
    · exact ⟨_, _, rfl⟩
    · exact ⟨_, _, rfl⟩

end Grammar

/-- A condition as it is read; a leaf is a test with the lexemes that it was read from. -/
inductive Expr where
  | leaf (ls : List Lexeme)
  | enclosed (e : Expr)
  | and (a b : Expr)
  | or (a b : Expr)

namespace Expr

def leaves : Expr → List (List Lexeme)
  | leaf ls => [ls]
  | enclosed e => e.leaves
  | and a b => a.leaves ++ b.leaves
  | or a b => a.leaves ++ b.leaves

def truth : Expr → List Bool → Bool
  | leaf _, bs => bs.headD false
  | enclosed e, bs => e.truth bs
  | and a b, bs => a.truth bs && b.truth (bs.drop a.leaves.length)
  | or a b, bs => a.truth bs || b.truth (bs.drop a.leaves.length)

/-- Conditions that differ only in how neighbours joined by the same word are grouped. -/
inductive Regroups : Expr → Expr → Prop where
  | refl (e : Expr) : Regroups e e
  | symm {a b : Expr} (h : Regroups a b) : Regroups b a
  | trans {a b c : Expr} (h : Regroups a b) (h' : Regroups b c) : Regroups a c
  | enclosed {a b : Expr} (h : Regroups a b) : Regroups (.enclosed a) (.enclosed b)
  | and {a b c d : Expr} (h : Regroups a b) (h' : Regroups c d) : Regroups (.and a c) (.and b d)
  | or {a b c d : Expr} (h : Regroups a b) (h' : Regroups c d) : Regroups (.or a c) (.or b d)
  | andAssoc (a b c : Expr) : Regroups (.and (.and a b) c) (.and a (.and b c))
  | orAssoc (a b c : Expr) : Regroups (.or (.or a b) c) (.or a (.or b c))

theorem Regroups.leaves {a b : Expr} (h : Regroups a b) : a.leaves = b.leaves := by
  induction h with
  | refl e => rfl
  | symm h ih => exact ih.symm
  | trans h h' ih ih' => exact ih.trans ih'
  | enclosed h ih => exact ih
  | and h h' ih ih' => simp only [Expr.leaves, ih, ih']
  | or h h' ih ih' => simp only [Expr.leaves, ih, ih']
  | andAssoc a b c => simp only [Expr.leaves, List.append_assoc]
  | orAssoc a b c => simp only [Expr.leaves, List.append_assoc]

theorem Regroups.truth {a b : Expr} (h : Regroups a b) (bs : List Bool) :
    a.truth bs = b.truth bs := by
  induction h generalizing bs with
  | refl e => rfl
  | symm h ih => exact (ih bs).symm
  | trans h h' ih ih' => exact (ih bs).trans (ih' bs)
  | enclosed h ih => exact ih bs
  | and h h' ih ih' => simp only [Expr.truth, ih, ih', h.leaves]
  | or h h' ih ih' => simp only [Expr.truth, ih, ih', h.leaves]
  | andAssoc a b c =>
    simp only [Expr.truth, Expr.leaves, List.length_append, List.drop_drop, Bool.and_assoc]
  | orAssoc a b c =>
    simp only [Expr.truth, Expr.leaves, List.length_append, List.drop_drop, Bool.or_assoc]

theorem truth_append (e : Expr) {bs : List Bool} (h : bs.length = e.leaves.length)
    (cs : List Bool) : e.truth (bs ++ cs) = e.truth bs := by
  induction e generalizing bs cs with
  | leaf ls =>
    cases bs with
    | nil => simp [leaves] at h
    | cons b bs => rfl
  | enclosed e ih => exact ih h cs
  | and a b iha ihb | or a b iha ihb =>
    have hlen : bs.length = a.leaves.length + b.leaves.length := by
      simpa only [leaves, List.length_append] using h
    have htake : (bs.take a.leaves.length).length = a.leaves.length := by
      rw [List.length_take]
      omega
    have hdrop : (bs.drop a.leaves.length).length = b.leaves.length := by
      rw [List.length_drop]
      omega
    have hcut : (bs ++ cs).drop a.leaves.length = bs.drop a.leaves.length ++ cs :=
      List.drop_append_of_le_length (by omega)
    have hleft : ∀ ds, a.truth (bs ++ ds) = a.truth (bs.take a.leaves.length) := by
      intro ds
      have hsplit : bs ++ ds = bs.take a.leaves.length ++ (bs.drop a.leaves.length ++ ds) := by
        rw [← List.append_assoc, List.take_append_drop]
      rw [hsplit, iha htake]
    have hbs := hleft []
    rw [List.append_nil] at hbs
    simp only [truth, hcut, ihb hdrop cs, hleft cs, hbs]

theorem truth_and (a b : Expr) {bs : List Bool} (h : bs.length = a.leaves.length)
    (cs : List Bool) : (and a b).truth (bs ++ cs) = (a.truth bs && b.truth cs) := by
  have hdrop : (bs ++ cs).drop a.leaves.length = cs := by
    rw [← h]
    exact List.drop_left
  rw [truth, hdrop, truth_append a h]

theorem truth_or (a b : Expr) {bs : List Bool} (h : bs.length = a.leaves.length)
    (cs : List Bool) : (or a b).truth (bs ++ cs) = (a.truth bs || b.truth cs) := by
  have hdrop : (bs ++ cs).drop a.leaves.length = cs := by
    rw [← h]
    exact List.drop_left
  rw [truth, hdrop, truth_append a h]

end Expr

namespace Grammar

/-- What stands between what: an operand is a test or stands in parentheses, a conjunction joins
operands by AND, and alternatives join conjunctions by OR. -/
inductive Level where
  | operand
  | conjunction
  | alternatives

inductive Reads : Level → Expr → List Lexeme → Prop where
  | leaf {ls : List Lexeme} (h : IsLeaf ls) : Reads .operand (.leaf ls) ls
  | enclosed {e : Expr} {ls : List Lexeme} (h : Reads .alternatives e ls) :
    Reads .operand (.enclosed e) (.opening :: (ls ++ [.closing]))
  | factor {e : Expr} {ls : List Lexeme} (h : Reads .operand e ls) : Reads .conjunction e ls
  | and {a b : Expr} {ls ms : List Lexeme} (ha : Reads .conjunction a ls)
    (hb : Reads .conjunction b ms) : Reads .conjunction (.and a b) (ls ++ keyword "AND" :: ms)
  | term {e : Expr} {ls : List Lexeme} (h : Reads .conjunction e ls) : Reads .alternatives e ls
  | or {a b : Expr} {ls ms : List Lexeme} (ha : Reads .alternatives a ls)
    (hb : Reads .alternatives b ms) : Reads .alternatives (.or a b) (ls ++ keyword "OR" :: ms)

/-- How lexemes are read when neighbours are grouped to the right. -/
inductive Chained : Level → Expr → List Lexeme → Prop where
  | leaf {ls : List Lexeme} (h : IsLeaf ls) : Chained .operand (.leaf ls) ls
  | enclosed {e : Expr} {ls : List Lexeme} (h : Chained .alternatives e ls) :
    Chained .operand (.enclosed e) (.opening :: (ls ++ [.closing]))
  | factor {e : Expr} {ls : List Lexeme} (h : Chained .operand e ls) : Chained .conjunction e ls
  | and {a b : Expr} {ls ms : List Lexeme} (ha : Chained .operand a ls)
    (hb : Chained .conjunction b ms) : Chained .conjunction (.and a b) (ls ++ keyword "AND" :: ms)
  | term {e : Expr} {ls : List Lexeme} (h : Chained .conjunction e ls) : Chained .alternatives e ls
  | or {a b : Expr} {ls ms : List Lexeme} (ha : Chained .conjunction a ls)
    (hb : Chained .alternatives b ms) : Chained .alternatives (.or a b) (ls ++ keyword "OR" :: ms)

theorem Chained.reads {l : Level} {e : Expr} {ls : List Lexeme} (h : Chained l e ls) :
    Reads l e ls := by
  induction h with
  | leaf h => exact .leaf h
  | enclosed h ih => exact .enclosed ih
  | factor h ih => exact .factor ih
  | and ha hb iha ihb => exact .and (.factor iha) ihb
  | term h ih => exact .term ih
  | or ha hb iha ihb => exact .or (.term iha) ihb

theorem Chained.append_and {a b : Expr} {ls ms : List Lexeme} (ha : Chained .conjunction a ls)
    (hb : Chained .conjunction b ms) :
    ∃ c, Chained .conjunction c (ls ++ keyword "AND" :: ms) ∧ Expr.Regroups (.and a b) c := by
  generalize hl : Level.conjunction = l at ha
  induction ha with
  | leaf | enclosed | term | or => cases hl
  | factor h ih => exact ⟨_, .and h hb, .refl _⟩
  | @and x y ls₁ ls₂ hx hy ihx ihy =>
    obtain ⟨c, hc, hr⟩ := ihy rfl
    refine ⟨.and x c, ?_, (Expr.Regroups.andAssoc x y b).trans (.and (.refl x) hr)⟩
    rw [List.append_assoc]
    exact .and hx hc

theorem Chained.append_or {a b : Expr} {ls ms : List Lexeme} (ha : Chained .alternatives a ls)
    (hb : Chained .alternatives b ms) :
    ∃ c, Chained .alternatives c (ls ++ keyword "OR" :: ms) ∧ Expr.Regroups (.or a b) c := by
  generalize hl : Level.alternatives = l at ha
  induction ha with
  | leaf | enclosed | factor | and => cases hl
  | term h ih => exact ⟨_, .or h hb, .refl _⟩
  | @or x y ls₁ ls₂ hx hy ihx ihy =>
    obtain ⟨c, hc, hr⟩ := ihy rfl
    refine ⟨.or x c, ?_, (Expr.Regroups.orAssoc x y b).trans (.or (.refl x) hr)⟩
    rw [List.append_assoc]
    exact .or hx hc

theorem Reads.exists_chained {l : Level} {e : Expr} {ls : List Lexeme} (h : Reads l e ls) :
    ∃ c, Chained l c ls ∧ Expr.Regroups e c := by
  induction h with
  | leaf h => exact ⟨_, .leaf h, .refl _⟩
  | enclosed h ih =>
    obtain ⟨c, hc, hr⟩ := ih
    exact ⟨_, .enclosed hc, .enclosed hr⟩
  | factor h ih =>
    obtain ⟨c, hc, hr⟩ := ih
    exact ⟨c, .factor hc, hr⟩
  | and ha hb iha ihb =>
    obtain ⟨c, hc, hrc⟩ := iha
    obtain ⟨d, hd, hrd⟩ := ihb
    obtain ⟨e, he, hre⟩ := hc.append_and hd
    exact ⟨e, he, (Expr.Regroups.and hrc hrd).trans hre⟩
  | term h ih =>
    obtain ⟨c, hc, hr⟩ := ih
    exact ⟨c, .term hc, hr⟩
  | or ha hb iha ihb =>
    obtain ⟨c, hc, hrc⟩ := iha
    obtain ⟨d, hd, hrd⟩ := ihb
    obtain ⟨e, he, hre⟩ := hc.append_or hd
    exact ⟨e, he, (Expr.Regroups.or hrc hrd).trans hre⟩

def Stops : Level → List Lexeme → Prop
  | .operand, _ => True
  | .conjunction, r => r.head? ≠ some (keyword "AND")
  | .alternatives, r => r.head? ≠ some (keyword "AND") ∧ r.head? ≠ some (keyword "OR")

theorem Chained.unique {l : Level} {e : Expr} {ls : List Lexeme} (h : Chained l e ls) :
    ∀ {d : Expr} {ms r t : List Lexeme}, Chained l d ms → Stops l r → Stops l t →
      ls ++ r = ms ++ t → e = d ∧ ls = ms ∧ r = t := by
  induction h with
  | @leaf ls h =>
    intro d ms r t hd _ _ heq
    cases hd with
    | leaf h' =>
      obtain ⟨rfl, rfl⟩ := h.unique h' heq
      exact ⟨rfl, rfl, rfl⟩
    | enclosed h' =>
      obtain ⟨w, us, rfl⟩ := h.eq_word
      simp at heq
  | @enclosed e ls h ih =>
    intro d ms r t hd _ _ heq
    cases hd with
    | leaf h' =>
      obtain ⟨w, us, rfl⟩ := h'.eq_word
      simp at heq
    | @enclosed d ms h' =>
      have hstop : ∀ u, Stops .alternatives (.closing :: u) := fun u => ⟨by simp [keyword], by simp [keyword]⟩
      have heq' : ls ++ .closing :: r = ms ++ .closing :: t := by simpa using heq
      obtain ⟨rfl, rfl, hr⟩ := ih h' (hstop r) (hstop t) heq'
      exact ⟨rfl, rfl, by simpa using hr⟩
  | @factor e ls h ih =>
    intro d ms r t hd hr ht heq
    cases hd with
    | factor h' => exact ih h' trivial trivial heq
    | and ha hb =>
      rw [List.append_assoc] at heq
      obtain ⟨-, -, rfl⟩ := ih ha trivial trivial heq
      exact absurd rfl hr
  | @and a b ls₁ ls₂ ha hb iha ihb =>
    intro d ms r t hd hr ht heq
    rw [List.append_assoc] at heq
    cases hd with
    | factor h' =>
      obtain ⟨-, -, rfl⟩ := iha h' trivial trivial heq
      exact absurd rfl ht
    | and ha' hb' =>
      rw [List.append_assoc] at heq
      obtain ⟨rfl, rfl, hrest⟩ := iha ha' trivial trivial heq
      obtain ⟨rfl, rfl, rfl⟩ := ihb hb' hr ht (List.cons.inj hrest).2
      exact ⟨rfl, rfl, rfl⟩
  | @term e ls h ih =>
    intro d ms r t hd hr ht heq
    cases hd with
    | term h' => exact ih h' hr.1 ht.1 heq
    | or ha hb =>
      rw [List.append_assoc] at heq
      obtain ⟨-, -, rfl⟩ := ih ha hr.1 (by simp [Stops, keyword]) heq
      exact absurd rfl hr.2
  | @or a b ls₁ ls₂ ha hb iha ihb =>
    intro d ms r t hd hr ht heq
    have hor : ∀ u, Stops .conjunction (keyword "OR" :: u) := fun u => by simp [Stops, keyword]
    rw [List.append_assoc] at heq
    cases hd with
    | term h' =>
      obtain ⟨-, -, rfl⟩ := iha h' (hor _) ht.1 heq
      exact absurd rfl ht.2
    | or ha' hb' =>
      rw [List.append_assoc] at heq
      obtain ⟨rfl, rfl, hrest⟩ := iha ha' (hor _) (hor _) heq
      obtain ⟨rfl, rfl, rfl⟩ := ihb hb' hr ht (List.cons.inj hrest).2
      exact ⟨rfl, rfl, rfl⟩

/-- Two readings of the same lexemes differ in grouping at most. -/
theorem Reads.regroups {d e : Expr} {ls : List Lexeme} (hd : Reads .alternatives d ls)
    (he : Reads .alternatives e ls) : Expr.Regroups d e := by
  obtain ⟨c, hc, hdc⟩ := hd.exists_chained
  obtain ⟨c', hc', hec⟩ := he.exists_chained
  have hstop : Stops .alternatives [] := ⟨by simp, by simp⟩
  obtain ⟨rfl, -, -⟩ := hc.unique hc' hstop hstop rfl
  exact hdc.trans hec.symm

end Grammar

end BoundSql
