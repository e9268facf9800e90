import BoundSql.Proofs.Completeness
import BoundSql.Proofs.FragmentReading
import BoundSql.Proofs.TestReading
/-!
A fragment of the caller's among other conditions. It is put behind them with an AND and without
parentheses, so its first alternative goes together with the last of theirs, and the others stand by
themselves: it is one more condition only if neither side has alternatives.
-/

namespace BoundSql

open Place (outside)

namespace Closed

theorem quotedPart {w : Text} (hw : Identifier.IsPartBody w) : Closed (Identifier.quotedPart w) := by
  have hbody : ∀ c ∈ w, c ≠ '"' := by
    rintro c hc rfl
    exact absurd (hw.2 _ hc) (by decide)
  have hscan : ∀ v u : Text, (∀ c ∈ v, c ≠ '"') →
      scanFrom (some '"') u (v ++ ['"']) = [.word (u ++ v ++ ['"'])] := by
    intro v
    induction v with
    | nil => simp [scanFrom, Lexeme.wordOf]
    | cons c v ih =>
      intro u hv
      simpa [scanFrom, hv c (by simp)] using ih (u ++ [c]) fun d hd => hv d (by simp [hd])
  refine of_plain (quoteAfter_quoted (.part hw)) fun l hl => ?_
  have hword : scan (Identifier.quotedPart w) = [.word (Identifier.quotedPart w)] :=
    hscan w ['"'] hbody
  rw [hword, List.mem_singleton] at hl
  rw [hl]
  exact Lexeme.role_word_of_mem (c := '"') (by simp [Identifier.quotedPart]) (by decide)

theorem quoted {q : Text} (hq : Identifier.IsQuoted q) : Closed q := by
  induction hq with
  | part hw => exact quotedPart hw
  | star hw => exact (quotedPart hw).atBreak (by decide) (by decide) ⟨by rfl, by rfl⟩
  | dotted hw _ ih => exact (quotedPart hw).atBreak (by decide) (by decide) ih

theorem slotText (n : Nat) : Closed (Placeholder.slotText ((n : Int) + 1)) := by
  have hmark : Closed ['?'] := ⟨by rfl, by rfl⟩
  have h := hmark.numberMarkers n
  rwa [Placeholder.numberMarkers, if_pos rfl, Placeholder.numberMarkers, List.append_nil] at h

theorem joinWith {ts : List Text} (h : ∀ t ∈ ts, Closed t) :
    Closed (joinWith [',', ' '] ts) := by
  fun_induction BoundSql.joinWith [',', ' '] ts with
  | case1 => exact nil
  | case2 t => exact h t (by simp)
  | case3 t u ts ih =>
    have hrest := nil.blank (ih fun v hv => h v (by simp [hv]))
    simpa using (h t (by simp)).atBreak (d := ',') (by decide) (by decide) hrest

theorem slotTexts (o n : Nat) : ∀ t ∈ slotTexts o n, Closed t := by
  induction n generalizing o with
  | zero => simp [BoundSql.slotTexts]
  | succ n ih =>
    intro t ht
    rcases List.mem_cons.1 ht with rfl | hm
    · exact slotText o
    · exact ih (o + 1) t hm

theorem symbol (operator : Operator) : Closed operator.symbol.toList := by
  cases operator <;> exact ⟨by rfl, by rfl⟩

theorem lowered {q slot : Text} (hq : Closed q) (hslot : Closed slot) {word : String}
    (hword : word ∈ [") LIKE LOWER(", ") NOT LIKE LOWER("]) :
    Closed ("LOWER(".toList ++ q ++ word.toList ++ slot ++ [')']) := by
  have hcut : ∃ m, word.toList = ')' :: (m ++ ['(']) ∧ Closed m := by
    simp only [List.mem_cons, List.not_mem_nil, or_false] at hword
    rcases hword with rfl | rfl
    · exact ⟨" LIKE LOWER".toList, by rfl, by rfl, by rfl⟩
    · exact ⟨" NOT LIKE LOWER".toList, by rfl, by rfl, by rfl⟩
  obtain ⟨m, hm, hmiddle⟩ := hcut
  have hlower : Closed "LOWER".toList := ⟨by rfl, by rfl⟩
  have hall := hlower.parentheses hq (hmiddle.parentheses hslot nil)
  simpa [hm] using hall

theorem compared {q : Text} (hq : Closed q) (operator : Operator) :
    Closed (q ++ ' ' :: operator.symbol.toList) :=
  hq.blank (symbol operator)

end Closed

/-- A template whose text is closed, whatever number it starts at. -/
def Template.IsClosed (T : Template) : Prop :=
  ∀ o : Nat, Closed (T.number o)

theorem Template.isClosed_inherited : Inherited IsClosed where
  join word hword Ts h := by
    have hsplit : ∃ w, word.toList = ' ' :: w ++ [' '] ∧ Closed w := by
      simp only [List.mem_cons, List.not_mem_nil, or_false] at hword
      rcases hword with rfl | rfl
      · exact ⟨"AND".toList, by rfl, by rfl, by rfl⟩
      · exact ⟨"OR".toList, by rfl, by rfl, by rfl⟩
    obtain ⟨w, hw, hclosed⟩ := hsplit
    intro o
    fun_induction Template.join word.toList Ts generalizing o with
    | case1 => exact .nil
    | case2 T => exact h T (by simp) o
    | case3 T U Ts ih =>
      have hrest := ih (fun V hV => h V (by simp [hV])) (o + (values T).length)
      have hall := hclosed.joined (h T (by simp) o) hrest
      simpa [hw] using hall
  enclose T h o := by
    unfold Template.enclose
    split
    · exact .nil
    · simpa using (h o).enclosed

namespace Condition

variable {ctx : Context} {c : Condition} {T : Template}

theorem comparisonTemplate_isClosed (h : c.comparisonTemplate ctx = .ok T) : T.IsClosed := by
  intro o
  simp only [comparisonTemplate, Outcome.do_eq_ok, Outcome.pure_eq_ok] at h
  obtain ⟨q, hq, rfl⟩ := h
  have hquoted := Closed.quoted (Context.quote_isQuoted hq)
  have hslot := Closed.slotText o
  rcases ctx.dialect.comparisonFrame_cases q c.operator with ⟨word, hword, hf⟩ | hf
  · simpa [hf] using hquoted.lowered hslot hword
  · simpa [hf] using (hquoted.compared c.operator).blank hslot

theorem template_isClosed (h : c.template ctx = .ok T)
    (hraw : c.operator = .raw → Closed c.column.toList) : T.IsClosed := by
  intro o
  unfold template at h
  cases hop : c.operator with
  | isNull | isNotNull =>
    simp only [hop, nullTemplate, Outcome.do_eq_ok, Outcome.pure_eq_ok] at h
    obtain ⟨q, hq, rfl⟩ := h
    rw [Template.number_ofText]
    exact (Closed.quoted (Context.quote_isQuoted hq)).compared _
  | among | notAmong =>
    simp only [hop, membershipTemplate] at h
    cases hv : c.value with
    | list vs | tuple vs =>
      simp only [hv] at h
      split at h
      · cases h
        rw [Template.number_ofText]
        exact ⟨by rfl, by rfl⟩
      · simp only [Outcome.do_eq_ok, Outcome.pure_eq_ok] at h
        obtain ⟨q, hq, rfl⟩ := h
        have hfront := ((Closed.quoted (Context.quote_isQuoted hq)).compared c.operator).blank .nil
        have hslots := Closed.joinWith (Closed.slotTexts o vs.length)
        simpa [hop] using hfront.parentheses hslots .nil
    | _ =>
      simp only [hv] at h
      cases h
  | raw =>
    simp only [hop, rawTemplate, Outcome.do_eq_ok] at h
    obtain ⟨vs, -, h⟩ := h
    split at h
    · rename_i hcount
      cases h
      have hsql := congrArg BoundText.sql (Template.ofFragment_numbered o _ vs hcount)
      simp only [Template.numbered] at hsql
      rw [hsql]
      exact (hraw hop).numberMarkers o
    · cases h
  | _ =>
    simp only [hop] at h
    exact comparisonTemplate_isClosed h o

end Condition

theorem Closed.between {q : Text} (hq : Closed q) (negated : Bool) :
    Closed (q ++ Condition.betweenWords negated) := by
  cases negated with
  | false =>
    have hwords : Closed "BETWEEN ? AND ?".toList := ⟨by rfl, by rfl⟩
    exact hq.blank hwords
  | true =>
    have hwords : Closed "NOT BETWEEN ? AND ?".toList := ⟨by rfl, by rfl⟩
    exact hq.blank hwords

/-- Of the fragments among conditions only those that the caller wrote can be open. -/
theorem Condition.closed_of_raw {ctx : Context} {c : Condition}
    (h : c.IsPlain ctx ∨ Closed c.column.toList) (hraw : c.operator = .raw) :
    Closed c.column.toList := by
  rcases h with hplain | hclosed
  · cases hplain with
    | test hop _ => exact absurd hraw hop
    | range hq conjunction negated low high =>
      rw [String.toList_ofList]
      exact (Closed.quoted hq).between negated
  · exact hclosed

theorem Group.template_isClosed {ctx : Context} {g : Group} {T : Template}
    (h : g.template ctx = .ok T)
    (hc : ∀ c ∈ g.leaves, c.IsPlain ctx ∨ Closed c.column.toList) : T.IsClosed :=
  template_inherits Template.isClosed_inherited
    (fun c hm _ hU => Condition.template_isClosed hU (Condition.closed_of_raw (hc c hm))) h

theorem Template.join_concat (separator : Text) {Ts : List Template} (h : Ts ≠ []) (T : Template) :
    join separator (Ts ++ [T]) = join separator Ts ++ ofText separator ++ T := by
  fun_induction join separator Ts with
  | case1 => exact absurd rfl h
  | case2 U => rfl
  | case3 U V Ts ih =>
    have ht := ih (List.cons_ne_nil _ _)
    simp only [List.cons_append] at ht
    simp [join, ht]

namespace Node

variable {ctx : Context} {ns ms : List Node} {conjunction : Conjunction} {Ts Us : List Template}

theorem templatesOf_append (hns : templatesOf ctx conjunction ns = .ok Ts)
    (hms : templatesOf ctx conjunction ms = .ok Us) :
    templatesOf ctx conjunction (ns ++ ms) = .ok (Ts ++ Us) := by
  induction ns generalizing Ts with
  | nil =>
    cases hns
    exact hms
  | cons n ns ih =>
    rw [List.cons_append]
    unfold templatesOf at hns ⊢
    split at hns
    · rename_i hc
      obtain ⟨T, hT, hns⟩ := Outcome.bind_eq_ok.1 hns
      obtain ⟨Vs, hVs, rfl⟩ := Outcome.map_eq_ok.1 hns
      rw [if_pos hc, hT, Except.bind, ih hVs]
      by_cases he : T.isEmpty <;> simp [he, Except.map]
    · rename_i hc
      rw [if_neg hc, ih hns]

theorem templatesOf_or_of_and (h : ∀ n ∈ ns, n.conjunction = .and) :
    templatesOf ctx .or ns = .ok [] := by
  induction ns with
  | nil => rfl
  | cons n ns ih =>
    have hn := h n (by simp)
    simpa [templatesOf, hn] using ih fun m hm => h m (by simp [hm])

end Node

theorem Group.template_push {ctx : Context} {g : Group} {c : Condition} {T U : Template}
    (hand : ∀ n ∈ g.nodes, n.conjunction = .and) (hc : c.conjunction = .and)
    (hT : g.template ctx = .ok T) (hU : c.template ctx = .ok U) (hne : U ≠ []) :
    (g.push (.leaf c)).template ctx =
      .ok (if T = [] then U else T ++ .ofText " AND ".toList ++ U) := by
  have hors : Node.templatesOf ctx .or g.nodes = .ok [] := Node.templatesOf_or_of_and hand
  have hors' : Node.templatesOf ctx .or (g.nodes ++ [.leaf c]) = .ok [] :=
    Node.templatesOf_or_of_and fun n hn => by
      rcases List.mem_append.1 hn with hm | hm
      · exact hand n hm
      · rw [List.mem_singleton.1 hm]
        exact hc
  unfold template at hT
  obtain ⟨Ts, hTs, hT⟩ := Outcome.bind_eq_ok.1 hT
  rw [hors] at hT
  cases hT
  have hleaf : Node.templatesOf ctx .and [.leaf c] = .ok [U] := by
    simp [Node.templatesOf, Node.conjunction, hc, Node.template, hU, Except.bind, Except.map, hne]
  have hall := Node.templatesOf_append hTs hleaf
  have hlevel : ∀ Vs, Template.level Vs [] = Template.join " AND ".toList Vs := fun _ => rfl
  simp only [template, push, hall, hors', Except.bind, Except.map, hlevel, Except.ok.injEq]
  have hmem := Node.ne_nil_of_templatesOf hTs
  cases Ts with
  | nil => rfl
  | cons V Vs =>
    have hV : V ≠ [] := hmem V (by simp)
    have hjoin : Template.join " AND ".toList (V :: Vs) ≠ [] := by
      cases Vs <;> simp [Template.join, hV]
    rw [if_neg hjoin, Template.join_concat _ (List.cons_ne_nil V Vs)]

/-- A call puts a fragment behind conditions: behind those of a statement, those on its groups, or
those that the calls before it added in the same nested call. -/
inductive AddsFragment (ctx : Context) (fragment : String) (params : Value) : Group → Group → Prop
  | filter {b b' : Builder} (hb : b.Reachable) (hctx : b.context = ctx)
    (h : b.apply (.filter (.raw .and (.text fragment) params)) = (b', .ok ())) :
    AddsFragment ctx fragment params b.statement.filter b'.statement.filter
  | having {b b' : Builder} (hb : b.Reachable) (hctx : b.context = ctx)
    (h : b.apply (.havingRaw (.text fragment) params) = (b', .ok ())) :
    AddsFragment ctx fragment params b.statement.having b'.statement.having
  | nested {body : List Filter} {ns ns' : List Node} (h : Filter.nodes ctx.limit body = .ok ns)
    (h' : Filter.nodes ctx.limit (body ++ [.raw .and (.text fragment) params]) = .ok ns') :
    AddsFragment ctx fragment params { nodes := ns } { nodes := ns' }

namespace AddsFragment

variable {ctx : Context} {fragment : String} {params : Value} {g g' : Group}

theorem eq_push (h : AddsFragment ctx fragment params g g') :
    ∃ clause c, Condition.makeRaw .and clause (.text fragment) params = .ok c ∧
      g' = g.push (.leaf c) ∧ ∀ d ∈ g.leaves, d.WellMade ctx.limit := by
  cases h with
  | @filter b b' hb hctx h =>
    subst hctx
    have hopen := Builder.applyOpen_of_apply_ok h
    obtain ⟨g, hg, hstatement⟩ := Builder.applyFilter_of_ok (congrArg Prod.snd hopen)
    obtain ⟨added, hadded, rfl⟩ := Outcome.map_eq_ok.1 hg
    obtain ⟨c, hc, rfl⟩ := Outcome.map_eq_ok.1 hadded
    have hleft : b'.statement =
        { b.statement with filter := b.statement.filter.push (.leaf c) } :=
      (congrArg Prod.fst hopen).symm.trans hstatement
    exact ⟨"WHERE", c, hc, congrArg Statement.filter hleft, hb.checked.filter⟩
  | @having b b' hb hctx h =>
    subst hctx
    have hopen := Builder.applyOpen_of_apply_ok h
    obtain ⟨c, hc, hstatement⟩ :=
      Outcome.map_eq_ok.1 (Change.whole_of_ok (congrArg Prod.snd hopen))
    have hleft : b'.statement =
        { b.statement with having := b.statement.having.push (.leaf c) } :=
      (congrArg Prod.fst hopen).symm.trans hstatement.symm
    exact ⟨"HAVING", c, hc, congrArg Statement.having hleft, hb.checked.having⟩
  | @nested body ns ns' h h' =>
    rw [Filter.nodes_append, h] at h'
    cases hc : Condition.makeRaw .and "WHERE" (.text fragment) params with
    | error e => simp [Filter.nodes, Filter.node, hc, Except.map, Except.bind] at h'
    | ok c =>
      have hns : ns ++ [.leaf c] = ns' := by
        simpa [Filter.nodes, Filter.node, hc, Except.map, Except.bind] using h'
      subst hns
      refine ⟨"WHERE", c, hc, rfl, fun d hd => ?_⟩
      obtain ⟨f, -, hf⟩ := Filter.makes_of_mem_leavesOf h hd
      exact hf.wellMade

end AddsFragment

def textTruth (ν : List Lexeme → Bool) (t : Text) : Bool :=
  truth ν (scan t)

theorem textTruth_eq (ν : List Lexeme → Bool) (t : Text) :
    textTruth ν t = anyTrue ν (alternatives t) :=
  truth_eq ν (scan t)

namespace AddsFragment

variable {ctx : Context} {fragment : String} {params : Value} {g g' : Group}

theorem rawTemplate_of_made {clause : String} {c : Condition}
    (h : Condition.makeRaw .and clause (.text fragment) params = .ok c) :
    ∃ U, c.template ctx = .ok U ∧ U ≠ [] ∧
      ∀ o : Int, U.number o = Placeholder.numberMarkers o fragment.toList := by
  have hne := Condition.column_ne_nil_of_makeRaw h
  obtain ⟨sql, vs, hsql, -, -, hcount, rfl⟩ := Condition.makeRaw_eq_ok h
  cases hsql
  refine ⟨.ofFragment fragment.toList vs, ?_, ?_, fun o => ?_⟩
  · simp only [Condition.template, Condition.rawTemplate, Condition.listOf_list]
    simp [bind, Except.bind, pure, Except.pure, hcount]
  · cases hf : fragment.toList with
    | nil => exact absurd hf hne
    | cons c t =>
      cases vs <;> by_cases hc : c = '?' <;> simp [Template.ofFragment, hc]
  · have hnumbered := Template.ofFragment_numbered o fragment.toList vs hcount
    exact congrArg BoundText.sql hnumbered

/-- Conditions of which none is an alternative, and a fragment that a call adds to them. The text of
both is one list of alternatives, in which the last one of the conditions and the first one of the
fragment are one. So whatever makes both true makes it true, and nothing else does if neither of them
has alternatives. -/
theorem reading (h : AddsFragment ctx fragment params g g')
    (hand : ∀ n ∈ g.nodes, n.conjunction = .and)
    (hclosed : ∀ c ∈ g.leaves, c.IsPlain ctx ∨ Closed c.column.toList) (o : Nat) :
    ∃ before after, g.compile ctx o = .ok before ∧ g'.compile ctx o = .ok after ∧
      let added := Placeholder.numberMarkers (o + before.params.length : Nat) fragment.toList
      (before.sql = [] → after.sql = added) ∧
      (before.sql ≠ [] →
        after.sql = before.sql ++ " AND ".toList ++ added ∧
        alternatives after.sql = glue (alternatives before.sql) (alternatives added) ∧
        ∀ ν,
          (textTruth ν before.sql → textTruth ν added → textTruth ν after.sql) ∧
          ((alternatives before.sql).length = 1 → (alternatives fragment.toList).length = 1 →
            textTruth ν after.sql = (textTruth ν before.sql && textTruth ν added))) := by
  obtain ⟨clause, c, hc, rfl, hmade⟩ := h.eq_push
  obtain ⟨b, hb⟩ := Group.compile_succeeds (o := 0) hmade
  rw [Group.compile_eq] at hb
  obtain ⟨T, hT, -⟩ := Outcome.map_eq_ok.1 hb
  obtain ⟨U, hU, hne, hadded⟩ : ∃ U, c.template ctx = .ok U ∧ U ≠ [] ∧
      ∀ o : Int, U.number o = Placeholder.numberMarkers o fragment.toList := rawTemplate_of_made hc
  have hconj : c.conjunction = .and := by
    obtain ⟨sql, vs, -, -, -, -, rfl⟩ := Condition.makeRaw_eq_ok hc
    rfl
  have hpush := Group.template_push hand hconj hT hU hne
  refine ⟨T.numbered o, _, by rw [Group.compile_eq, hT]; rfl, by rw [Group.compile_eq, hpush]; rfl, ?_⟩
  have hempty : (T.numbered o).sql = [] ↔ T = [] := by
    simpa [Template.numbered] using congrArg (· = true) (Template.number_isEmpty o T)
  have hbefore : Closed (T.numbered o).sql := Group.template_isClosed hT hclosed o
  refine ⟨fun hnil => ?_, fun hsome => ?_⟩
  · have hT' : T = [] := hempty.1 hnil
    subst hT'
    simpa [Template.numbered] using hadded o
  have hsql : ((if T = [] then U else T ++ .ofText " AND ".toList ++ U).numbered o).sql =
      (T.numbered o).sql ++ " AND ".toList ++
        Placeholder.numberMarkers (o + (T.numbered o).params.length : Nat) fragment.toList := by
    rw [if_neg (mt hempty.2 hsome), ← hadded]
    simp only [Template.numbered, Template.number_append, Template.number_ofText,
      Template.values_append, Template.values_ofText, List.append_nil, Int.natCast_add]
  have halternatives := alternatives_and (u := Placeholder.numberMarkers
    (o + (T.numbered o).params.length : Nat) fragment.toList) hbefore
  rw [hsql]
  refine ⟨rfl, halternatives, fun ν => ?_⟩
  rw [textTruth_eq, textTruth_eq, textTruth_eq, halternatives]
  refine ⟨anyTrue_glue, fun hsingle hfragment => anyTrue_glue_of_length hsingle ?_⟩
  rw [length_alternatives_numberMarkers, hfragment]

def filteredDelete : Builder :=
  ((Builder.start { dialect := .postgres } .delete).applyAll
    [.source .from_ (.text "t") .null, .filter (.test .and (.text "a") (some (.int 1)) none)]).1

theorem filteredDelete_reachable : filteredDelete.Reachable :=
  (Builder.Reachable.start _ _).applyAll _

/-- An alternative within apostrophes is none. -/
theorem reading_apostrophes :
    ∃ g', AddsFragment { dialect := .postgres } "b = ? AND c = 'x OR y'" (.list [.int 2])
        filteredDelete.statement.filter g' ∧
      (∀ n ∈ filteredDelete.statement.filter.nodes, n.conjunction = .and) ∧
      (∀ c ∈ filteredDelete.statement.filter.leaves,
        c.IsPlain { dialect := .postgres } ∨ Closed c.column.toList) ∧
      ∃ after, g'.compile { dialect := .postgres } 0 = .ok after ∧
        after.sql = "\"a\" = $1 AND b = $2 AND c = 'x OR y'".toList ∧
        ∀ ν, textTruth ν after.sql =
          (textTruth ν "\"a\" = $1".toList && textTruth ν "b = $2 AND c = 'x OR y'".toList) := by
  have hadds : AddsFragment { dialect := .postgres } "b = ? AND c = 'x OR y'" (.list [.int 2])
      filteredDelete.statement.filter _ := .filter filteredDelete_reachable rfl rfl
  have hand : ∀ n ∈ filteredDelete.statement.filter.nodes, n.conjunction = .and := by
    intro n hn
    rw [List.mem_singleton.1 hn]
    rfl
  have hclosed : ∀ c ∈ filteredDelete.statement.filter.leaves,
      c.IsPlain { dialect := .postgres } ∨ Closed c.column.toList := by
    intro c hc
    refine .inl (.test ?_ (filteredDelete_reachable.checked.filter c hc))
    rw [List.mem_singleton.1 hc]
    decide
  obtain ⟨before, after, hbefore, hafter, -, hread⟩ := hadds.reading hand hclosed 0
  cases Except.ok.inj (hbefore.symm.trans rfl)
  obtain ⟨hsql, -, htruth⟩ := hread (by decide)
  exact ⟨_, hadds, hand, hclosed, after, hafter, hsql,
    fun ν => (htruth ν).2 (by decide) (by decide)⟩

/-- An alternative in a fragment stands by itself behind the other conditions, so that the statement
is no longer bound by them. -/
theorem fragment_alternative_escapes :
    ∃ g' before after ν,
      AddsFragment { dialect := .postgres } "b = ? OR c = ?" (.list [.int 2, .int 3])
        filteredDelete.statement.filter g' ∧
      (∀ n ∈ filteredDelete.statement.filter.nodes, n.conjunction = .and) ∧
      filteredDelete.statement.filter.compile { dialect := .postgres } 0 = .ok before ∧
      g'.compile { dialect := .postgres } 0 = .ok after ∧
      before.sql = "\"a\" = $1".toList ∧ after.sql = "\"a\" = $1 AND b = $2 OR c = $3".toList ∧
      textTruth ν after.sql ≠ (textTruth ν before.sql && textTruth ν "b = $2 OR c = $3".toList) := by
  refine ⟨_, _, _, fun o => o == [.word ['c'], .word ['='], .word ['$', '3']],
    .filter filteredDelete_reachable rfl rfl, ?_, rfl, rfl, by decide, by decide, ?_⟩
  · intro n hn
    rw [List.mem_singleton.1 hn]
    rfl
  · simp only [textTruth_eq]
    decide

end AddsFragment

end BoundSql
