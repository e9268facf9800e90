import BoundSql.Proofs.StatementTemplate
/-!
What is kept in whole statements. Names, values and words are put together with gaps between them, so
a statement keeps a property when the expressions, join conditions and fragments that were written by
the caller do.
-/

namespace BoundSql

/-- A statement whose caller kept a property wherever text of his own stands in it. -/
structure Statement.Keeps (p : Template → Prop) (s : Statement) : Prop where
  items : ∀ i ∈ s.items, i.raw → p (.ofText i.expr.toList)
  joins : ∀ j ∈ s.joins, p (.ofText j.on.toList)
  filter : ∀ c ∈ s.filter.leaves, c.Keeps p
  having : ∀ c ∈ s.having.leaves, c.Keeps p

namespace Statement

variable {p : Template → Prop} {s : Statement}

theorem forall_map_ofText {ts : List Text} (h : ∀ t ∈ ts, p (.ofText t)) :
    ∀ T ∈ ts.map Template.ofText, p T := by
  intro T hT
  obtain ⟨t, ht, rfl⟩ := List.mem_map.1 hT
  exact h t ht

theorem keeps_limitedToOne (hs : s.Keeps p) : s.limitedToOne.Keeps p :=
  ⟨hs.items, hs.joins, hs.filter, hs.having⟩

end Statement

section Walk

variable {p : Template → Prop} (hp : Template.Compositional p) {ctx : Context} {s : Statement}
include hp

namespace Template.Compositional

theorem quoteAll {columns : List String} {t : Text} (h : ctx.quoteAll columns = .ok t) :
    p (ofText t) := by
  unfold Context.quoteAll at h
  obtain ⟨names, hnames, rfl⟩ := Outcome.map_eq_ok.1 h
  exact hp.joinWith (by decide) (by decide) fun q hq => hp.quoted (Statement.quotedNames hnames q hq)

theorem clause {word : String} (hw : word.toList.all isBare) {T : Template} (h : p T) :
    ∀ U ∈ Template.clause word T, p U := by
  intro U hU
  unfold Template.clause at hU
  split at hU
  · cases hU
  · rw [List.mem_singleton.1 hU]
    refine hp.lead (Bool.and_eq_true_iff.2 ⟨?_, by simp; rfl⟩) h
    rw [List.all_append, hw]
    rfl

theorem clauseAfter {word : String} (hw : word.toList.all isBare) {T U : Template} (hT : p T)
    (hU : p U) : p (T ++ Template.clauseAfter word U) := by
  have hclause := hp.clause hw hU
  unfold Template.clauseAfter
  unfold Template.clause at hclause ⊢
  split
  · simpa using hT
  · rename_i hne
    rw [if_neg hne] at hclause
    rw [List.flatMap_singleton]
    exact hp.gap rfl hT (hclause _ (by simp))

theorem row (vs : List Value) : p (.row vs) :=
  hp.enclosed (hp.join_each vs)

end Template.Compositional

namespace Statement

theorem withAlias_keeps {sql t : Text} {other : Option String} (hsql : p (.ofText sql))
    (h : withAlias ctx sql other = .ok t) : p (.ofText t) := by
  unfold withAlias at h
  split at h
  · cases h
    exact hsql
  · split at h
    · cases h
      exact hsql
    · obtain ⟨q, hq, rfl⟩ := Outcome.map_eq_ok.1 h
      simp only [Template.ofText_append]
      exact hp.between (by decide) (by decide) hsql (hp.quoted (Context.quote_isQuoted hq))

theorem itemText_keeps {i : SelectItem} {t : Text} (hi : i.raw → p (.ofText i.expr.toList))
    (h : itemText ctx i = .ok t) : p (.ofText t) := by
  unfold itemText at h
  dsimp only at h
  split at h
  · rename_i hraw
    refine withAlias_keeps hp ?_ h
    simp only [Bool.or_eq_true, decide_eq_true_eq] at hraw
    rcases hraw with hr | hstar
    · exact hi hr
    · rw [hstar]
      exact hp.star
  · obtain ⟨q, hq, h⟩ := Outcome.do_eq_ok.1 h
    exact withAlias_keeps hp (hp.quoted (Context.quote_isQuoted hq)) h

theorem selectText_keeps {t : Text} (hs : s.Keeps p) (h : selectText ctx s = .ok t) :
    p (.ofText t) := by
  unfold selectText at h
  obtain ⟨items, hitems, h⟩ := Outcome.do_eq_ok.1 h
  cases h
  have hhead : isLead (if s.distinct then "SELECT DISTINCT " else "SELECT ").toList := by
    split <;> decide
  have hlist : p (.ofText (if items.isEmpty then ['*'] else joinWith [',', ' '] items)) := by
    split
    · exact hp.star
    · refine hp.joinWith (by decide) (by decide) ?_
      exact Outcome.forall_mem_of_mapM hitems fun i hi t ht => itemText_keeps hp (hs.items i hi) ht
  rw [Template.ofText_append]
  exact hp.lead hhead hlist

theorem sourceText_keeps {table : String} {other : Option String} {t : Text}
    (h : sourceText ctx table other = .ok t) : p (.ofText t) := by
  unfold sourceText at h
  obtain ⟨q, hq, h⟩ := Outcome.do_eq_ok.1 h
  exact withAlias_keeps hp (hp.quoted (Context.quote_isQuoted hq)) h

theorem joinText_keeps {j : Join} {t : Text} (hj : p (.ofText j.on.toList))
    (h : joinText ctx j = .ok t) : p (.ofText t) := by
  unfold joinText at h
  obtain ⟨source, hsource, h⟩ := Outcome.do_eq_ok.1 h
  cases h
  have hkind : isLead (j.kind.name.toList ++ " JOIN ".toList) := by
    cases j.kind <;> decide
  have hon := hp.between (w := " ON ".toList) (by decide) (by decide)
    (sourceText_keeps hp hsource) hj
  simpa only [Template.ofText_append, List.append_assoc] using hp.lead hkind hon

theorem orderingText_keeps {o : Ordering} {t : Text} (h : orderingText ctx o = .ok t) :
    p (.ofText t) := by
  unfold orderingText at h
  obtain ⟨q, hq, h⟩ := Outcome.do_eq_ok.1 h
  cases h
  have hq := hp.quoted (Context.quote_isQuoted hq)
  rw [Template.ofText_append]
  cases o.direction <;> exact hp.trail (by decide) hq

theorem orderingClause_keeps {ts : List Text} (h : orderingClause ctx s = .ok ts) :
    ∀ t ∈ ts, p (.ofText t) := by
  unfold orderingClause at h
  split at h
  · cases h
    simp
  · obtain ⟨us, hus, rfl⟩ := Outcome.map_eq_ok.1 h
    intro t ht
    rw [List.mem_singleton.1 ht, Template.ofText_append]
    refine hp.lead (by decide) (hp.joinWith (by decide) (by decide) ?_)
    exact Outcome.forall_mem_of_mapM hus fun o _ t ht => orderingText_keeps hp ht

theorem groupingText_keeps {ts : List Text} (h : groupingText ctx s = .ok ts) :
    ∀ t ∈ ts, p (.ofText t) := by
  unfold groupingText at h
  split at h
  · cases h
    simp
  · obtain ⟨u, hu, rfl⟩ := Outcome.map_eq_ok.1 h
    intro t ht
    rw [List.mem_singleton.1 ht, Template.ofText_append]
    exact hp.lead (by decide) (hp.quoteAll hu)

theorem countClause_keeps {word : String} (hw : word.toList.all isBare) (count : Option Nat) :
    ∀ t ∈ countClause word count, p (.ofText t) := by
  cases count with
  | none => simp [countClause]
  | some n =>
    intro t ht
    have hdigits : (natText n).all isBare :=
      List.all_eq_true.2 fun c hc => by simp [isBare, isDigit_of_mem_natText hc]
    rw [List.mem_singleton.1 ht]
    refine hp.bare ?_
    rw [List.all_append, List.all_cons, hw, hdigits]
    rfl

theorem withReturningTemplate_keeps {T U : Template} (hT : p T)
    (h : s.withReturningTemplate ctx T = .ok U) : p U := by
  unfold withReturningTemplate at h
  obtain ⟨t, ht, rfl⟩ := Outcome.map_eq_ok.1 h
  unfold returningText at ht
  split at ht
  · cases ht
    simpa using hT
  split at ht
  · cases ht
    have hstar := hp.between (w := " RETURNING ".toList) (by decide) (by decide) hT hp.star
    rwa [List.append_assoc] at hstar
  · obtain ⟨u, hu, rfl⟩ := Outcome.map_eq_ok.1 ht
    rw [Template.ofText_append, ← List.append_assoc]
    exact hp.between (by decide) (by decide) hT (hp.quoteAll hu)

theorem insertHead_append_keeps {table : String} {columns : List String} {t : Text} {T : Template}
    (h : insertHead ctx table columns = .ok t) (hT : p T) : p (.ofText t ++ T) := by
  unfold insertHead at h
  obtain ⟨target, htarget, h⟩ := Outcome.do_eq_ok.1 h
  obtain ⟨names, hnames, h⟩ := Outcome.do_eq_ok.1 h
  cases h
  have hq := hp.quoted (Context.quote_isQuoted htarget)
  have hnT := hp.between (w := ") VALUES ".toList) (by decide) (by decide) (hp.quoteAll hnames) hT
  have ht := hp.between (w := " (".toList) (by decide) (by decide) hq hnT
  simp only [List.append_assoc, Template.ofText_append] at ht ⊢
  exact hp.lead (by decide) ht

theorem selectTemplate_keeps {T : Template} (hs : s.Keeps p)
    (h : s.selectTemplate ctx = .ok T) : p T := by
  unfold selectTemplate at h
  obtain ⟨table, -, h⟩ := Outcome.do_eq_ok.1 h
  obtain ⟨head, hhead, h⟩ := Outcome.do_eq_ok.1 h
  obtain ⟨source, hsource, h⟩ := Outcome.do_eq_ok.1 h
  obtain ⟨joins, hjoins, h⟩ := Outcome.do_eq_ok.1 h
  obtain ⟨F, hF, h⟩ := Outcome.do_eq_ok.1 h
  obtain ⟨grouping, hgrouping, h⟩ := Outcome.do_eq_ok.1 h
  obtain ⟨H, hH, h⟩ := Outcome.do_eq_ok.1 h
  obtain ⟨ordering, hordering, h⟩ := Outcome.do_eq_ok.1 h
  cases h
  have hfrom : p (.ofText ("FROM ".toList ++ source)) := by
    rw [Template.ofText_append]
    exact hp.lead (by decide) (sourceText_keeps hp hsource)
  have hj : ∀ t ∈ joins, p (.ofText t) :=
    Outcome.forall_mem_of_mapM hjoins fun j hm t ht => joinText_keeps hp (hs.joins j hm) ht
  have hfront : ∀ t ∈ [head, "FROM ".toList ++ source] ++ joins, p (.ofText t) := by
    intro t ht
    simp only [List.mem_append, List.mem_cons, List.not_mem_nil, or_false] at ht
    rcases ht with (rfl | rfl) | hm
    · exact selectText_keeps hp hs hhead
    · exact hfrom
    · exact hj t hm
  have hback : ∀ t ∈ ordering ++ countClause "LIMIT" s.limit ++ countClause "OFFSET" s.offset,
      p (.ofText t) := by
    intro t ht
    rcases List.mem_append.1 ht with ht | hm
    · rcases List.mem_append.1 ht with hm | hm
      · exact orderingClause_keeps hp hordering t hm
      · exact countClause_keeps hp (by decide) s.limit t hm
    · exact countClause_keeps hp (by decide) s.offset t hm
  have hwhere : ∀ U ∈ Template.clause "WHERE" F, p U :=
    hp.clause (by decide) (Group.template_keeps hp hs.filter hF)
  have hhaving : ∀ U ∈ Template.clause "HAVING" H, p U :=
    hp.clause (by decide) (Group.template_keeps hp hs.having hH)
  refine hp.join (by decide) (by decide) fun U hU => ?_
  rcases List.mem_append.1 hU with hU | hm
  · rcases List.mem_append.1 hU with hU | hm
    · rcases List.mem_append.1 hU with hU | hm
      · rcases List.mem_append.1 hU with hm | hm
        · exact forall_map_ofText hfront U hm
        · exact hwhere U hm
      · exact forall_map_ofText (groupingText_keeps hp hgrouping) U hm
    · exact hhaving U hm
  · exact forall_map_ofText hback U hm

theorem insertTemplate_keeps {T : Template} (h : s.insertTemplate ctx = .ok T) : p T := by
  unfold insertTemplate at h
  obtain ⟨table, -, h⟩ := Outcome.do_eq_ok.1 h
  cases hrows : s.rows with
  | nil =>
    rw [hrows] at h
    cases h
  | cons row rest =>
    rw [hrows] at h
    obtain ⟨rows, -, h⟩ := Outcome.do_eq_ok.1 h
    obtain ⟨head, hhead, h⟩ := Outcome.do_eq_ok.1 h
    refine withReturningTemplate_keeps hp ?_ h
    refine insertHead_append_keeps hp hhead (hp.join (by decide) (by decide) fun U hU => ?_)
    obtain ⟨vs, -, rfl⟩ := List.mem_map.1 hU
    exact hp.row vs

theorem updateBody_keeps {target : Text} {names : List Text} {F : Template}
    (htarget : Identifier.IsQuoted target) (hnames : ∀ q ∈ names, Identifier.IsQuoted q)
    (vs : List Value) (hF : p F) :
    p (Template.ofText ("UPDATE ".toList ++ target ++ " SET ".toList) ++
      Template.assignments names vs ++ Template.clauseAfter "WHERE" F) := by
  have hset := hp.between (w := " SET ".toList) (by decide) (by decide) (hp.quoted htarget)
    (hp.assignments hnames vs)
  have hhead := hp.lead (w := "UPDATE ".toList) (by decide) hset
  refine hp.clauseAfter (by decide) ?_ hF
  simpa only [Template.ofText_append, List.append_assoc] using hhead

theorem updateTemplate_keeps {T : Template} (hs : s.Keeps p)
    (h : s.updateTemplate ctx = .ok T) : p T := by
  unfold updateTemplate at h
  obtain ⟨table, -, h⟩ := Outcome.do_eq_ok.1 h
  split at h
  · cases h
  obtain ⟨names, hnames, h⟩ := Outcome.do_eq_ok.1 h
  obtain ⟨vs, -, h⟩ := Outcome.do_eq_ok.1 h
  obtain ⟨target, htarget, h⟩ := Outcome.do_eq_ok.1 h
  obtain ⟨F, hF, h⟩ := Outcome.do_eq_ok.1 h
  exact withReturningTemplate_keeps hp (updateBody_keeps hp (Context.quote_isQuoted htarget)
    (quotedNames hnames) vs (Group.template_keeps hp hs.filter hF)) h

theorem deleteTemplate_keeps {T : Template} (hs : s.Keeps p)
    (h : s.deleteTemplate ctx = .ok T) : p T := by
  unfold deleteTemplate at h
  obtain ⟨table, -, h⟩ := Outcome.do_eq_ok.1 h
  obtain ⟨target, htarget, h⟩ := Outcome.do_eq_ok.1 h
  obtain ⟨F, hF, h⟩ := Outcome.do_eq_ok.1 h
  refine withReturningTemplate_keeps hp ?_ h
  refine hp.clauseAfter (by decide) ?_ (Group.template_keeps hp hs.filter hF)
  rw [Template.ofText_append]
  exact hp.lead (by decide) (hp.quoted (Context.quote_isQuoted htarget))

theorem upsertTemplate_keeps {T : Template} (h : s.upsertTemplate ctx = .ok T) : p T := by
  unfold upsertTemplate at h
  obtain ⟨table, -, h⟩ := Outcome.do_eq_ok.1 h
  cases hrows : s.rows with
  | nil =>
    rw [hrows] at h
    cases h
  | cons row rest =>
    simp only [hrows] at h
    split at h
    · cases h
    obtain ⟨conflict, hconflict, h⟩ := Outcome.do_eq_ok.1 h
    obtain ⟨head, hhead, h⟩ := Outcome.do_eq_ok.1 h
    have hbase : p (Template.ofText head ++ Template.row (row.map Prod.snd) ++
        Template.ofText (" ON CONFLICT (".toList ++ conflict ++ [')'])) := by
      have hc := hp.trail (w := [')']) (by decide) (hp.quoteAll hconflict)
      have hrow := hp.between (w := " ON CONFLICT (".toList) (by decide) (by decide)
        (hp.row (row.map Prod.snd)) hc
      simpa only [Template.ofText_append, List.append_assoc] using
        insertHead_append_keeps hp hhead hrow
    split at h
    · exact withReturningTemplate_keeps hp (hp.trail (by decide) hbase) h
    · obtain ⟨targets, -, h⟩ := Outcome.do_eq_ok.1 h
      obtain ⟨names, hnames, h⟩ := Outcome.do_eq_ok.1 h
      obtain ⟨merged, -, h⟩ := Outcome.do_eq_ok.1 h
      exact withReturningTemplate_keeps hp (hp.between (by decide) (by decide) hbase
        (hp.assignments (quotedNames hnames) merged)) h

/-- A statement keeps what its caller kept. -/
theorem template_keeps {T : Template} (hs : s.Keeps p) (h : s.template ctx = .ok T) : p T := by
  unfold template at h
  cases hk : s.kind with
  | select => exact selectTemplate_keeps hp hs (by simpa [hk] using h)
  | insert => exact insertTemplate_keeps hp (by simpa [hk] using h)
  | update => exact updateTemplate_keeps hp hs (by simpa [hk] using h)
  | delete => exact deleteTemplate_keeps hp hs (by simpa [hk] using h)
  | upsert => exact upsertTemplate_keeps hp (by simpa [hk] using h)

theorem countTarget_keeps {column : Value} {target : Text}
    (h : countTarget ctx column = .ok target) : p (.ofText target) := by
  unfold countTarget at h
  split at h
  · split at h
    · cases h
      exact hp.star
    · exact hp.quoted (Context.quote_isQuoted h)
  · cases h

theorem keeps_counted {target : Text} (ht : p (.ofText target)) (hs : s.Keeps p) :
    (s.counted target).Keeps p := by
  refine ⟨fun i hi _ => ?_, hs.joins, hs.filter, hs.having⟩
  rw [List.mem_singleton.1 hi]
  have hcall := hp.lead (w := "COUNT(".toList) (by decide) (hp.trail (w := [')']) (by decide) ht)
  simpa only [String.toList_ofList, Template.ofText_append, List.append_assoc] using hcall

theorem countOfTemplate_keeps {target : Text} {T : Template} (ht : p (.ofText target))
    (hT : p T) : p (countOfTemplate target T) := by
  have hname : ∀ {w : Text}, Identifier.IsPartBody w → p (.ofText (Identifier.quotedPart w)) :=
    fun hw => hp.quoted (.part hw)
  have hsub := hp.between (w := ") AS ".toList) (by decide) (by decide) hT
    (hname (w := "sub".toList) ⟨by decide, List.all_eq_true.1 (by decide)⟩)
  have hfrom := hp.between (w := " FROM (".toList) (by decide) (by decide)
    (hname (w := "count".toList) ⟨by decide, List.all_eq_true.1 (by decide)⟩) hsub
  have hcount := hp.between (w := ") AS ".toList) (by decide) (by decide) ht hfrom
  have hselect := hp.lead (w := "SELECT COUNT(".toList) (by decide) hcount
  simpa [countOfTemplate, Identifier.quotedPart] using hselect

theorem countTemplate_keeps {column : Value} {T : Template} (hs : s.Keeps p)
    (h : s.countTemplate ctx column = .ok T) : p T := by
  unfold countTemplate at h
  obtain ⟨target, htarget, h⟩ := Outcome.do_eq_ok.1 h
  have ht : p (.ofText target) := countTarget_keeps hp htarget
  split at h
  · obtain ⟨U, hU, rfl⟩ := Outcome.map_eq_ok.1 h
    exact countOfTemplate_keeps hp ht (template_keeps hp hs hU)
  · exact template_keeps hp (keeps_counted hp ht hs) h

end Statement

end Walk

end BoundSql
