import BoundSql.Proofs.ClauseWriting
import BoundSql.Session.Query
/-!
The order of calls. Calls of different clauses may be exchanged, so that what comes of a sequence of
calls is settled by the calls of each clause.
-/

namespace BoundSql

namespace Builder

/-- Builders that are the same as far as calls of one clause can tell. -/
structure SameOn (k : Clause) (b b' : Builder) : Prop where
  context : b'.context = b.context
  isSealed : b'.isSealed = b.isSealed
  only : b'.statement.only k = b.statement.only k

variable {b b' b₁ b₂ : Builder} {c d : Call} {cs ds : List Call} {k : Clause}

theorem SameOn.refl (k : Clause) (b : Builder) : SameOn k b b :=
  ⟨rfl, rfl, rfl⟩

theorem SameOn.symm (h : SameOn k b b') : SameOn k b' b :=
  ⟨h.context.symm, h.isSealed.symm, h.only.symm⟩

theorem SameOn.trans (h : SameOn k b b₁) (h' : SameOn k b₁ b₂) : SameOn k b b₂ :=
  ⟨h'.context.trans h.context, h'.isSealed.trans h.isSealed, h'.only.trans h.only⟩

theorem apply_eq_ok :
    b.apply c = (b', .ok ()) ↔
      c.offeredBy b.kind ∧ (b.isSealed → ∃ f, c = .filter f) ∧
        ∃ t, b.applyOpen c = (t, .ok ()) ∧ b' = b.holding t := by
  constructor
  · intro h
    have hok : (b.change c).2 = .ok () := congrArg Prod.snd h
    obtain ⟨hoffered, hchange⟩ := change_of_ok hok
    refine ⟨hoffered, fun hsealed => ?_, b'.statement, applyOpen_of_apply_ok h, ?_⟩
    · unfold change at hok
      rw [if_neg (by simp [hoffered])] at hok
      cases c with
      | filter f => exact ⟨f, rfl⟩
      | _ =>
        dsimp only at hok
        rw [if_pos hsealed] at hok
        cases hok
    · have hb : b' = (b.apply c).1 := (congrArg Prod.fst h).symm
      rw [hb]
      rfl
  · rintro ⟨hoffered, hopen, t, ht, rfl⟩
    have hchange : b.change c = (t, .ok ()) := by
      unfold change
      rw [if_neg (by simp [hoffered])]
      cases c with
      | filter f => exact ht
      | _ =>
        dsimp only
        rw [if_neg fun hsealed => by cases hopen hsealed; contradiction]
        exact ht
    show ({ b with statement := (b.change c).1 }, (b.change c).2) = _
    rw [hchange]
    rfl

theorem apply_frame (h : b.apply c = (b', .ok ())) (hk : k ≠ c.clause) : SameOn k b b' := by
  obtain ⟨-, -, t, ht, rfl⟩ := apply_eq_ok.1 h
  have hframe := (b.applyOpen_writes (.same c)).frame b.statement t ht
  refine ⟨rfl, rfl, ?_⟩
  show t.only k = b.statement.only k
  rw [← Statement.only_without hk, hframe, Statement.only_without hk]

/-- A call is accepted wherever its clause is the same as where it was accepted, and so is one that is
alike; they do the same to the clause. -/
theorem apply_alike (hcd : c.Alike d) (hsame : SameOn c.clause b b₁)
    (h : b.apply c = (b', .ok ())) :
    ∃ b₁', b₁.apply d = (b₁', .ok ()) ∧ SameOn c.clause b' b₁' := by
  obtain ⟨hoffered, hopen, t, ht, rfl⟩ := apply_eq_ok.1 h
  have hkind : b₁.kind = b.kind := Statement.kind_of_only hsame.only
  obtain ⟨t', ht', halike⟩ := (b.applyOpen_writes hcd).alike b.statement b₁.statement t hsame.only ht
  have hholding : b.holding b₁.statement = b₁ := by
    obtain ⟨context, statement, isSealed⟩ := b
    obtain ⟨context', statement', isSealed'⟩ := b₁
    obtain ⟨hcontext, hsealed, -⟩ := hsame
    cases hcontext
    cases hsealed
    rfl
  rw [hholding] at ht'
  refine ⟨b₁.holding t', apply_eq_ok.2 ⟨?_, fun hsealed => ?_, t', ht', rfl⟩, ?_⟩
  · rw [hkind, hcd.offeredBy_eq]
    exact hoffered
  · obtain ⟨f, rfl⟩ := hopen (hsame.isSealed ▸ hsealed)
    cases hcd with
    | same => exact ⟨f, rfl⟩
    | filter h => exact ⟨_, rfl⟩
  · exact ⟨hsame.context, hsame.isSealed, halike⟩

/-- What a sequence of calls makes of a clause is what its calls of that clause make of it. -/
theorem applyAll_clause (h : b.applyAll cs = (b', .ok ())) (hsame : SameOn k b b₁)
    (hds : List.Forall₂ Call.Alike (cs.filter fun c => c.clause = k) ds) :
    ∃ b₁', b₁.applyAll ds = (b₁', .ok ()) ∧ SameOn k b' b₁' := by
  induction cs generalizing b b₁ ds with
  | nil =>
    cases hds
    cases h
    exact ⟨b₁, rfl, hsame⟩
  | cons c cs ih =>
    obtain ⟨b₂, hc, hcs⟩ := applyAll_cons_eq_ok.1 h
    by_cases hk : c.clause = k
    · rw [List.filter_cons_of_pos (by simpa using hk)] at hds
      cases hds with
      | cons hcd hds =>
        subst hk
        obtain ⟨b₃, hd, hsame'⟩ := apply_alike hcd hsame hc
        obtain ⟨b₁', hrest, hlast⟩ := ih hcs hsame' hds
        exact ⟨b₁', applyAll_cons_eq_ok.2 ⟨b₃, hd, hrest⟩, hlast⟩
    · -- A call of another clause is passed over, and leaves this one as it was.
      rw [List.filter_cons_of_neg (by simpa using hk)] at hds
      exact ih hcs ((apply_frame hc (Ne.symm hk)).symm.trans hsame) hds

theorem applyAll_of_clauses
    (h : ∀ k, ∃ b₁ b₁', SameOn k b₁ b ∧
      b₁.applyAll (ds.filter fun d => d.clause = k) = (b₁', .ok ())) :
    ∃ b', b.applyAll ds = (b', .ok ()) := by
  induction ds generalizing b with
  | nil => exact ⟨b, rfl⟩
  | cons d ds ih =>
    obtain ⟨b₁, b₁', hsame, hown⟩ := h d.clause
    rw [List.filter_cons_of_pos (by simp)] at hown
    obtain ⟨b₂, hd, hrest⟩ := applyAll_cons_eq_ok.1 hown
    obtain ⟨b₃, hd', hsame'⟩ := apply_alike (.same d) hsame hd
    -- What is left of the run of its own clause starts from `b₂`; the runs of the others start
    -- from where they did before.
    obtain ⟨b', hb'⟩ := ih (b := b₃) fun k => by
      by_cases hk : d.clause = k
      · subst hk
        exact ⟨b₂, b₁', hsame', hrest⟩
      · obtain ⟨b₄, b₄', hsame₄, hown₄⟩ := h k
        rw [List.filter_cons_of_neg (by simpa using hk)] at hown₄
        exact ⟨b₄, b₄', hsame₄.trans (apply_frame hd' (Ne.symm hk)), hown₄⟩
    exact ⟨b', applyAll_cons_eq_ok.2 ⟨b₃, hd', hb'⟩⟩

end Builder

namespace Statement

variable {s t : Statement}

theorem eq_of_only (h : ∀ k, t.only k = s.only k) :
    t = { s with filter := t.filter, having := t.having } := by
  have hsource := h .source
  have hitems := h .items
  have hdistinct := h .distinct
  have hjoins := h .joins
  have hgrouping := h .grouping
  have hordering := h .ordering
  have hlimit := h .limit
  have hoffset := h .offset
  have hrows := h .rows
  have hassignments := h .assignments
  have hcolumns := h .conflictColumns
  have haction := h .conflictAction
  have hreturning := h .returning
  cases s
  cases t
  simp only [only, Statement.mk.injEq] at *
  simp_all

theorem settlesLike_of_only (h : ∀ k, t.only k = s.only k) :
    t.filter.SettlesLike s.filter ∧ t.having.SettlesLike s.having :=
  ⟨fun c => (congrArg Group.nodes (only_filter_iff.1 (h (.filter c))).2 :),
    fun c => (congrArg Group.nodes (only_having_iff.1 (h (.having c))).2 :)⟩

theorem compileNumbered_of_settlesLike {g h : Group} (hg : g.SettlesLike s.filter)
    (hh : h.SettlesLike s.having) (ctx : Context) :
    ({ s with filter := g, having := h } : Statement).compileNumbered ctx = s.compileNumbered ctx := by
  have hfilter (o : Int) : g.compile ctx o = s.filter.compile ctx o := hg.compile ctx o
  have hhaving (o : Int) : h.compile ctx o = s.having.compile ctx o := hh.compile ctx o
  unfold compileNumbered
  cases s.kind with
  | select =>
    show compileSelect ctx _ = _
    unfold compileSelect
    simp only [hfilter, hhaving]
    rfl
  | update =>
    show compileUpdate ctx _ = _
    unfold compileUpdate
    simp only [hfilter]
    rfl
  | delete =>
    show compileDelete ctx _ = _
    unfold compileDelete
    simp only [hfilter]
    rfl
  | insert => rfl
  | upsert => rfl

theorem compileNumbered_congr (h : ∀ k, t.only k = s.only k) (u : Statement → Statement)
    (hu : ∀ g g', u { s with filter := g, having := g' } = { u s with filter := g, having := g' })
    (hfilter : (u s).filter = s.filter) (hhaving : (u s).having = s.having) (ctx : Context) :
    (u t).compileNumbered ctx = (u s).compileNumbered ctx := by
  obtain ⟨hf, hg⟩ := settlesLike_of_only h
  have hut : u t = { u s with filter := t.filter, having := t.having } :=
    (congrArg u (eq_of_only h)).trans (hu t.filter t.having)
  rw [hut]
  exact compileNumbered_of_settlesLike (hfilter ▸ hf) (hhaving ▸ hg) ctx

end Statement

namespace Call

/-- The calls of every clause, one after the other, are the same but for exchanges in nested calls. -/
def Rearranged (cs ds : List Call) : Prop :=
  ∀ k : Clause,
    List.Forall₂ Alike (cs.filter fun c => c.clause = k) (ds.filter fun d => d.clause = k)

theorem forall₂_alike_refl (cs : List Call) : List.Forall₂ Alike cs cs :=
  List.forall₂_same.2 fun c _ => .same c

theorem rearranged_swap (before after : List Call) {c d : Call} (h : c.clause ≠ d.clause) :
    Rearranged (before ++ c :: d :: after) (before ++ d :: c :: after) := by
  intro k
  have hown : (c :: d :: after).filter (fun c => c.clause = k) =
      (d :: c :: after).filter fun c => c.clause = k := by
    by_cases hc : c.clause = k
    · have hd : d.clause ≠ k := fun hd => h (hc.trans hd.symm)
      simp [hc, hd]
    · simp [List.filter_cons, hc]
  rw [List.filter_append, List.filter_append, hown]
  exact forall₂_alike_refl _

theorem rearranged_inside (before after : List Call) {c d : Call} (h : c.Alike d) :
    Rearranged (before ++ c :: after) (before ++ d :: after) := by
  intro k
  rw [List.filter_append, List.filter_append]
  refine List.rel_append (forall₂_alike_refl _) ?_
  by_cases hc : c.clause = k
  · rw [List.filter_cons_of_pos (by simpa using hc),
      List.filter_cons_of_pos (by simpa [h.clause_eq] using hc)]
    exact .cons h (forall₂_alike_refl _)
  · rw [List.filter_cons_of_neg (by simpa using hc),
      List.filter_cons_of_neg (by simpa [h.clause_eq] using hc)]
    exact forall₂_alike_refl _

end Call

namespace Builder

variable {b b' : Builder} {cs ds : List Call}

/-- Everything that can be had of a builder without running it. -/
structure SameResults (b b' : Builder) : Prop where
  compile : b'.compile = b.compile
  inline : b'.inline = b.inline
  count : ∀ column, b'.compileCount column = b.compileCount column
  terminal : ∀ t : Terminal, t.compile b' = t.compile b

theorem sameResults_of_sameOn (h : ∀ k, SameOn k b b') : b.SameResults b' := by
  obtain ⟨context, s, isSealed⟩ := b
  obtain ⟨context', t, isSealed'⟩ := b'
  obtain rfl : context' = context := (h .source).context
  have honly : ∀ k, t.only k = s.only k := fun k => (h k).only
  have hplain : t.compileNumbered context' = s.compileNumbered context' :=
    Statement.compileNumbered_congr honly (fun s => s) (fun _ _ => rfl) rfl rfl context'
  have hone : t.limitedToOne.compileNumbered context' = s.limitedToOne.compileNumbered context' :=
    Statement.compileNumbered_congr honly Statement.limitedToOne (fun _ _ => rfl) rfl rfl context'
  have hcounted (target : Text) :
      (t.counted target).compileNumbered context' = (s.counted target).compileNumbered context' :=
    Statement.compileNumbered_congr honly (fun s => s.counted target) (fun _ _ => rfl) rfl rfl context'
  have hwhole : t.countsAsWhole = s.countsAsWhole := by
    rw [Statement.eq_of_only honly]
    rfl
  have hcompile : Statement.compile context' t = s.compile context' := by
    simp only [Statement.compile, hplain]
  have hfirst : t.limitedToOne.compile context' = s.limitedToOne.compile context' := by
    simp only [Statement.compile, hone]
  have hcount (column : Value) : t.compileCount context' column = s.compileCount context' column := by
    simp only [Statement.compileCount, Statement.countNumbered, hwhole, hplain, hcounted]
  refine ⟨hcompile, ?_, hcount, fun terminal => ?_⟩
  · simp only [inline, Statement.inline, hplain]
  · cases terminal with
    | execute | get => exact hcompile
    | first | exists_ => exact hfirst
    | count column => exact hcount column

/-- The calls are accepted by the builder too, and come to the same. -/
def ComesTo (b : Builder) (ds : List Call) (b' : Builder) : Prop :=
  ∃ b'', b.applyAll ds = (b'', .ok ()) ∧ b'.SameResults b''

theorem comesTo_of_rearranged (h : b.applyAll cs = (b', .ok ())) (hds : Call.Rearranged cs ds) :
    b.ComesTo ds b' := by
  have hclauses : ∀ k, ∃ bₖ, b.applyAll (ds.filter fun d => d.clause = k) = (bₖ, .ok ()) ∧
      SameOn k b' bₖ := fun k => applyAll_clause h (.refl k b) (hds k)
  have haccepted : ∀ k, ∃ b₁ b₁', SameOn k b₁ b ∧
      b₁.applyAll (ds.filter fun d => d.clause = k) = (b₁', .ok ()) := by
    intro k
    obtain ⟨bₖ, hbₖ, -⟩ := hclauses k
    exact ⟨b, bₖ, .refl k b, hbₖ⟩
  obtain ⟨b'', hb''⟩ := applyAll_of_clauses haccepted
  -- Both sequences make of a clause what its own calls in `ds` make of it.
  refine ⟨b'', hb'', sameResults_of_sameOn fun k => ?_⟩
  obtain ⟨bₖ, hbₖ, hsame⟩ := hclauses k
  obtain ⟨bₖ', hbₖ', hsame'⟩ := applyAll_clause hb'' (.refl k b) (Call.forall₂_alike_refl _)
  obtain rfl : bₖ = bₖ' := congrArg Prod.fst (hbₖ.symm.trans hbₖ')
  exact hsame.trans hsame'.symm

/-- Calls of different clauses may be exchanged, as may calls for AND and for OR conditions in the body
of a nested call, at any depth. What comes of accepted calls is settled by the calls of each clause. -/
theorem clauses_settle (h : b.applyAll cs = (b', .ok ())) :
    (∀ before after c d, cs = before ++ c :: d :: after → c.clause ≠ d.clause →
      b.ComesTo (before ++ d :: c :: after) b') ∧
    (∀ before after c d, cs = before ++ c :: after → c.Alike d →
      b.ComesTo (before ++ d :: after) b') ∧
    ∀ ds, Call.Rearranged cs ds → b.ComesTo ds b' := by
  refine ⟨?_, ?_, fun ds => comesTo_of_rearranged h⟩
  · rintro before after c d rfl hne
    exact comesTo_of_rearranged h (Call.rearranged_swap before after hne)
  · rintro before after c d rfl halike
    exact comesTo_of_rearranged h (Call.rearranged_inside before after halike)

def readableAnd : Filter := .compare .and .equal (.text "public") (.int 1)

def readableOr : Filter := .compare .or .equal (.text "owner") (.int 7)

def secondPageCalls (body : List Filter) : List Call :=
  [.source .from_ (.text "notes") .null, .filter (.nested .and body), .limit (.int 10),
    .offset (.int 10)]

theorem clauses_settle_secondPage :
    ∃ b', (start { dialect := .sqlite } .select).applyAll
        (secondPageCalls [readableOr, readableAnd]) = (b', .ok ()) ∧
      (start { dialect := .sqlite } .select).ComesTo
        [.source .from_ (.text "notes") .null, .limit (.int 10),
          .filter (.nested .and [readableOr, readableAnd]), .offset (.int 10)] b' ∧
      (start { dialect := .sqlite } .select).ComesTo
        (secondPageCalls [readableAnd, readableOr]) b' := by
  obtain ⟨b', h⟩ : ∃ b', (start { dialect := .sqlite } .select).applyAll
      (secondPageCalls [readableOr, readableAnd]) = (b', .ok ()) := ⟨_, rfl⟩
  have hbody : Filter.Alike (.nested .and [readableOr, readableAnd])
      (.nested .and [readableAnd, readableOr]) :=
    .single (.here .and [] [] (by decide))
  obtain ⟨hswap, hinside, -⟩ := clauses_settle h
  exact ⟨b', h, hswap [_] [_] _ _ rfl (by decide), hinside [_] [_, _] _ _ rfl (.filter hbody)⟩

end Builder

end BoundSql
