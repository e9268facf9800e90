import BoundSql.Proofs.CallFrame
import BoundSql.Proofs.Clause
/-!
What calls write: one clause each, whatever there is in the others. Where the clause is the same, a
call does the same to it, and so does a call in which neighbours were exchanged.
-/

namespace BoundSql

/-- A change that writes one clause when it is accepted, and another one that then does the same to any
statement in which that clause is the same. -/
structure WritesAlike (k : Clause) (f g : Statement → Change) : Prop where
  frame : ∀ s t, f s = (t, .ok ()) → t.without k = s.without k
  alike : ∀ s s' t, s'.only k = s.only k → f s = (t, .ok ()) →
    ∃ t', g s' = (t', .ok ()) ∧ t'.only k = t.only k

abbrev Writes (k : Clause) (f : Statement → Change) : Prop :=
  WritesAlike k f f

namespace Writes

open Change (whole)

variable {α : Type} {k : Clause}

theorem whole_ok {u : Statement → Statement} (hframe : ∀ s, (u s).without k = s.without k)
    (halike : ∀ s, ((u (s.only k)).only k) = (u s).only k) :
    Writes k fun s => whole s (.ok (u s)) where
  frame s t h := by
    cases h
    exact hframe s
  alike s s' t hs h := by
    cases h
    exact ⟨u s', rfl, by rw [← halike s', hs, halike s]⟩

theorem whole_bind {x : Outcome α} {F : α → Statement → Outcome Statement}
    (h : ∀ a, x = .ok a → Writes k fun s => whole s (F a s)) :
    Writes k fun s => whole s (x >>= fun a => F a s) := by
  cases x with
  | error e => exact ⟨fun s t ht => (by cases ht), fun s s' t _ ht => (by cases ht)⟩
  | ok a => exact h a rfl

theorem whole_map {x : Outcome α} {u : α → Statement → Statement}
    (hframe : ∀ a s, (u a s).without k = s.without k)
    (halike : ∀ a s, ((u a (s.only k)).only k) = (u a s).only k) :
    Writes k fun s => whole s (x.map fun a => u a s) := by
  cases x with
  | error e => exact ⟨fun s t ht => (by cases ht), fun s s' t _ ht => (by cases ht)⟩
  | ok a => exact whole_ok (hframe a) (halike a)

theorem of_kind {kind : StatementKind} {f g : Statement → Change} (hf : Writes k f)
    (hg : Writes k g) : Writes k fun s => if s.kind = kind then f s else g s where
  frame s t h := by
    split at h
    · exact hf.frame s t h
    · exact hg.frame s t h
  alike s s' t hs h := by
    rw [Statement.kind_of_only hs]
    split at h
    · rename_i hkind
      rw [if_pos hkind]
      exact hf.alike s s' t hs h
    · rename_i hkind
      rw [if_neg hkind]
      exact hg.alike s s' t hs h

end Writes

namespace Statement

open Change (whole)

variable (limit : Int)

theorem setSource_writes (table label : Value) :
    Writes .source fun s => whole s (s.setSource limit table label) :=
  Writes.whole_bind fun _ _ => Writes.whole_bind fun _ _ =>
    Writes.whole_ok (fun _ => rfl) fun _ => rfl

theorem selectRaw_writes (expression label : Value) :
    Writes .items fun s => whole s (s.selectRaw limit expression label) :=
  Writes.whole_bind fun _ _ => Writes.whole_bind fun _ _ =>
    Writes.whole_ok (fun _ => rfl) fun _ => rfl

theorem addJoin_writes (table on label kind : Value) :
    Writes .joins fun s => whole s (s.addJoin limit table on label kind) :=
  Writes.whole_bind fun _ _ => Writes.whole_bind fun _ _ => Writes.whole_bind fun _ _ =>
    Writes.whole_bind fun _ _ => Writes.whole_bind fun _ _ =>
      Writes.whole_ok (fun _ => rfl) fun _ => rfl

theorem addOrdering_writes (column direction : Value) :
    Writes .ordering fun s => whole s (s.addOrdering limit column direction) :=
  Writes.whole_bind fun _ _ => Writes.whole_bind fun _ _ =>
    Writes.whole_ok (fun _ => rfl) fun _ => rfl

theorem setDistinct_writes (enabled : Value) :
    Writes .distinct fun s => whole s (s.setDistinct enabled) :=
  Writes.whole_map (fun _ _ => rfl) fun _ _ => rfl

theorem setLimit_writes (count : Value) : Writes .limit fun s => whole s (s.setLimit count) :=
  Writes.whole_map (fun _ _ => rfl) fun _ _ => rfl

theorem setOffset_writes (count : Value) : Writes .offset fun s => whole s (s.setOffset count) :=
  Writes.whole_map (fun _ _ => rfl) fun _ _ => rfl

theorem addGrouping_writes (columns : List Value) :
    Writes .grouping fun s => whole s (s.addGrouping limit columns) :=
  Writes.whole_map (u := fun names s => { s with grouping := s.grouping ++ names }) (fun _ _ => rfl)
    fun _ _ => rfl

theorem replaceRow_writes (data : Value) :
    Writes .rows fun s => whole s (s.replaceRow limit data) :=
  Writes.whole_map (fun _ _ => rfl) fun _ _ => rfl

theorem mergeAssignments_writes (data : Value) :
    Writes .assignments fun s => whole s (s.mergeAssignments limit data) :=
  Writes.whole_map (fun _ _ => rfl) fun _ _ => rfl

theorem setConflictColumns_writes (columns : List Value) :
    Writes .conflictColumns fun s => whole s (s.setConflictColumns limit columns) :=
  Writes.whole_map (fun _ _ => rfl) fun _ _ => rfl

theorem setMergeColumns_writes (columns : List Value) :
    Writes .conflictAction fun s => whole s (s.setMergeColumns limit columns) :=
  Writes.whole_map (fun _ _ => rfl) fun _ _ => rfl

theorem setReturning_writes (columns : List Value) :
    Writes .returning fun s => whole s (s.setReturning limit columns) := by
  unfold setReturning
  split
  · exact Writes.whole_ok (fun _ => rfl) fun _ => rfl
  · exact Writes.whole_map (fun _ _ => rfl) fun _ _ => rfl

theorem select_writes (items : List Value) : Writes .items fun s => s.select limit items := by
  obtain ⟨added, outcome, hadded⟩ := addItems_eq limit ((flattenItems items).flatMap selectRequests)
  unfold select
  simp only [hadded]
  cases outcome with
  | error e => exact ⟨fun s t h => (by cases h), fun s s' t _ h => (by cases h)⟩
  | ok _ =>
    exact Writes.whole_ok (u := fun s => { s with items := s.items ++ added }) (fun _ => rfl)
      fun _ => rfl

theorem appendRows_eq_ok {s t : Statement} {rows : Value} :
    s.appendRows limit rows = (t, .ok ()) ↔
      ∃ all, ((Row.listOfValue rows).bind fun added => Row.uniform (s.rows ++ added)) = .ok all ∧
        ((((all.head?).map Row.columns).getD []).mapM (Identifier.quoteName limit)).map (fun _ => ()) =
          .ok () ∧ t = { s with rows := all } := by
  unfold appendRows
  cases (Row.listOfValue rows).bind fun added => Row.uniform (s.rows ++ added) with
  | error e => simp
  | ok all => simp [Prod.ext_iff, eq_comm, and_comm]

theorem appendRows_writes (rows : Value) : Writes .rows fun s => s.appendRows limit rows where
  frame s t h := by
    obtain ⟨all, -, -, rfl⟩ := (appendRows_eq_ok limit).1 h
    rfl
  alike s s' t hs h := by
    obtain ⟨all, hall, hnames, rfl⟩ := (appendRows_eq_ok limit).1 h
    have hrows : (s'.only .rows).rows = (s.only .rows).rows := congrArg Statement.rows hs
    have hkind : (s'.only .rows).kind = (s.only .rows).kind := congrArg Statement.kind hs
    simp only [only] at hrows hkind
    refine ⟨_, (appendRows_eq_ok limit).2 ⟨all, hrows ▸ hall, hnames, rfl⟩, ?_⟩
    simp only [only, hkind]

theorem addHaving_eq_ok {s t : Statement} {f : Filter} :
    whole s (s.addHaving limit f) = (t, .ok ()) ↔
      ∃ added, f.node limit = .ok added ∧ t = { s with having := s.having.adding added } := by
  rw [addHaving, Group.add_eq, Outcome.map_map]
  cases f.node limit with
  | error e => simp [Except.map, whole]
  | ok added => simp [Except.map, whole, eq_comm]

variable {limit} {s s' t : Statement} {conjunction : Conjunction}

theorem only_filter_iff : s'.only (.filter conjunction) = s.only (.filter conjunction) ↔
    s'.kind = s.kind ∧ s'.filter.only conjunction = s.filter.only conjunction := by
  simp [only]

theorem only_having_iff : s'.only (.having conjunction) = s.only (.having conjunction) ↔
    s'.kind = s.kind ∧ s'.having.only conjunction = s.having.only conjunction := by
  simp [only]

variable (limit)

theorem addHaving_writes {e f : Filter} (h : e.Alike f) :
    WritesAlike (.having e.conjunction) (fun s => whole s (s.addHaving limit e))
      (fun s => whole s (s.addHaving limit f)) where
  frame s t ht := by
    obtain ⟨added, hadded, rfl⟩ := (addHaving_eq_ok limit).1 ht
    simp only [without, Group.without_adding hadded]
  alike s s' t hs ht := by
    obtain ⟨added, hadded, rfl⟩ := (addHaving_eq_ok limit).1 ht
    obtain ⟨hkind, hhaving⟩ := only_having_iff.1 hs
    obtain ⟨added', hadded', -, halike⟩ := Group.only_adding h hhaving hadded
    exact ⟨_, (addHaving_eq_ok limit).2 ⟨added', hadded', rfl⟩, only_having_iff.2 ⟨hkind, halike⟩⟩

theorem addHavingRaw_writes (fragment params : Value) :
    Writes (.having .and) fun s => whole s (s.addHavingRaw fragment params) := by
  have hadd (s : Statement) : s.addHavingRaw fragment params =
      (Condition.makeRaw .and "HAVING" fragment params).bind fun c =>
        .ok { s with having := s.having.push (.leaf c) } := by
    unfold addHavingRaw
    cases Condition.makeRaw .and "HAVING" fragment params <;> rfl
  simp only [hadd]
  refine Writes.whole_bind fun c hc => ?_
  have hand : (Node.leaf c).conjunction = .and := by
    obtain ⟨sql, vs, -, -, -, -, rfl⟩ := Condition.makeRaw_eq_ok hc
    rfl
  rw [← hand]
  refine ⟨fun s t ht => ?_, fun s s' t hs ht => ?_⟩
  · cases ht
    exact congrArg (fun g => { s with having := g }) (Group.without_push s.having _)
  · cases ht
    obtain ⟨hkind, hhaving⟩ := only_having_iff.1 hs
    exact ⟨_, rfl, only_having_iff.2 ⟨hkind, Group.only_push hhaving rfl⟩⟩

end Statement

namespace Builder

open Change (whole)

def holding (b : Builder) (s : Statement) : Builder :=
  { b with statement := s }

theorem applyFilter_writes (b : Builder) {e f : Filter} (h : e.Alike f) :
    WritesAlike (.filter e.conjunction) (fun s => (b.holding s).applyFilter e)
      (fun s => (b.holding s).applyFilter f) where
  frame s t ht := by
    obtain ⟨added, hadded, -, rfl⟩ := applyFilter_eq_ok.1 ht
    exact congrArg (fun g => { s with filter := g }) (Group.without_adding hadded s.filter)
  alike s s' t hs ht := by
    obtain ⟨added, hadded, hopen, rfl⟩ := applyFilter_eq_ok.1 ht
    obtain ⟨hkind, hfilter⟩ := Statement.only_filter_iff.1 hs
    obtain ⟨added', hadded', hnone, halike⟩ := Group.only_adding h hfilter hadded
    exact ⟨_, applyFilter_eq_ok.2 ⟨added', hadded', fun hsealed => hnone.2 (hopen hsealed), rfl⟩,
      Statement.only_filter_iff.2 ⟨hkind, halike⟩⟩

theorem applyOpen_writes (b : Builder) {c d : Call} (h : c.Alike d) :
    WritesAlike c.clause (fun s => (b.holding s).applyOpen c) (fun s => (b.holding s).applyOpen d) := by
  cases h with
  | filter h => exact b.applyFilter_writes h
  | having h => exact Statement.addHaving_writes b.limit h
  | same =>
    cases c with
    | filter f => exact b.applyFilter_writes .refl
    | source word table label => exact Statement.setSource_writes b.limit table label
    | select items => exact Statement.select_writes b.limit items
    | selectRaw expression label => exact Statement.selectRaw_writes b.limit expression label
    | distinct enabled => exact Statement.setDistinct_writes enabled
    | join table on label kind => exact Statement.addJoin_writes b.limit table on label kind
    | groupBy columns => exact Statement.addGrouping_writes b.limit columns
    | having f => exact Statement.addHaving_writes b.limit .refl
    | havingRaw fragment params => exact Statement.addHavingRaw_writes fragment params
    | orderBy column direction => exact Statement.addOrdering_writes b.limit column direction
    | limit count => exact Statement.setLimit_writes count
    | offset count => exact Statement.setOffset_writes count
    | values rows =>
      exact Writes.of_kind (Statement.appendRows_writes b.limit rows)
        (Statement.replaceRow_writes b.limit rows)
    | set data => exact Statement.mergeAssignments_writes b.limit data
    | onConflict columns => exact Statement.setConflictColumns_writes b.limit columns
    | merge columns => exact Statement.setMergeColumns_writes b.limit columns
    | doNothing => exact Writes.whole_ok (fun _ => rfl) fun _ => rfl
    | returning columns => exact Statement.setReturning_writes b.limit columns
    | unknown => exact ⟨fun s t ht => (by cases ht), fun s s' t _ ht => (by cases ht)⟩

end Builder

end BoundSql
