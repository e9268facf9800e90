import BoundSql.Proofs.Reachable
import BoundSql.Proofs.RowMerge
/-!
What is known of a statement when all its calls were accepted: every name in it can be quoted, and
its rows have the columns of the first one. Only rows are stored before they are looked at, so a
refused call may leave names behind that cannot be quoted.
-/

namespace BoundSql

namespace Identifier

def Quotable (limit : Int) (name : String) : Prop :=
  Outcome.Succeeds (quoteName limit name)

theorem Quotable.of_nameOf {limit : Int} {v : Value} {name : String}
    (h : nameOf limit v = .ok name) : Quotable limit name := by
  cases v with
  | text s =>
    obtain ⟨q, hq, rfl⟩ := Outcome.map_eq_ok.1 h
    exact ⟨q, hq⟩
  | _ => cases h

end Identifier

open Identifier (Quotable)

namespace Row

variable {limit : Int}

theorem ofEntries_ne_nil {es : List (Value × Value)} {r : Row} (h : ofEntries es = .ok r)
    (hes : es ≠ []) : r ≠ [] := by
  cases es with
  | nil => exact absurd rfl hes
  | cons e es =>
    obtain ⟨k, v⟩ := e
    unfold ofEntries at h
    split at h
    · split at h
      · obtain ⟨r', -, rfl⟩ := Outcome.map_eq_ok.1 h
        exact List.cons_ne_nil _ _
      · cases h
    · cases h

theorem ofValue_ne_nil {v : Value} {r : Row} (h : ofValue v = .ok r) : r ≠ [] := by
  unfold ofValue at h
  split at h
  · split at h
    · cases h
    · rename_i hes
      exact ofEntries_ne_nil h (by simpa using hes)
  · cases h

theorem sameColumns_iff {r s : Row} : r.sameColumns s ↔ ∀ c, c ∈ r.columns ↔ c ∈ s.columns := by
  simp only [sameColumns, Bool.and_eq_true, List.all_eq_true, List.contains_iff_mem]
  exact ⟨fun h c => ⟨h.1 c, h.2 c⟩, fun h => ⟨fun c => (h c).1, fun c => (h c).2⟩⟩

theorem sameColumns_of_checkColumns {expected : Row} {index : Nat} {rs : List Row}
    (h : checkColumns expected index rs = .ok ()) : ∀ r ∈ rs, r.sameColumns expected := by
  induction rs generalizing index with
  | nil => simp
  | cons r rs ih =>
    unfold checkColumns at h
    split at h
    · rename_i hsame
      exact List.forall_mem_cons.2 ⟨hsame, ih h⟩
    · cases h

/-- Rows that all have the columns of the first one, each in an order of its own. -/
def Uniform (rows : List Row) : Prop :=
  ∀ first ∈ rows.head?, ∀ r ∈ rows, ∀ c, c ∈ r.columns ↔ c ∈ first.columns

theorem uniform_eq_ok {rows all : List Row} (h : uniform rows = .ok all) :
    all = rows ∧ Uniform rows := by
  cases rows with
  | nil =>
    cases h
    exact ⟨rfl, by simp [Uniform]⟩
  | cons first rest =>
    obtain ⟨u, hu, rfl⟩ := Outcome.map_eq_ok.1 h
    refine ⟨rfl, ?_⟩
    rintro first' ⟨⟩ r hr
    rcases List.mem_cons.1 hr with rfl | hm
    · exact fun c => Iff.rfl
    · exact sameColumns_iff.1 (sameColumns_of_checkColumns hu r hm)

theorem listOfValue_ne_nil {v : Value} {rows : List Row} (h : listOfValue v = .ok rows) :
    ∀ r ∈ rows, r ≠ [] := by
  have hall : ∀ vs : List Value, (vs.mapM ofValue).bind uniform = .ok rows → ∀ r ∈ rows, r ≠ [] := by
    intro vs hvs
    obtain ⟨rs, hrs, hu⟩ := Outcome.bind_eq_ok.1 hvs
    rw [(uniform_eq_ok hu).1]
    exact Outcome.forall_mem_of_mapM hrs fun _ _ _ hr => ofValue_ne_nil hr
  unfold listOfValue at h
  split at h
  · obtain ⟨r, hr, hu⟩ := Outcome.bind_eq_ok.1 h
    rw [(uniform_eq_ok hu).1]
    rintro r' hr'
    rw [List.mem_singleton.1 hr']
    exact ofValue_ne_nil hr
  · exact hall _ h
  · exact hall _ h
  · cases h

end Row

namespace Statement

structure SoundItem (limit : Int) (i : SelectItem) : Prop where
  expr : i.raw ∨ i.expr = "*" ∨ Quotable limit i.expr
  label : ∀ a ∈ i.alias, Quotable limit a

/-- A statement in which every name can be quoted and every row can be written. -/
structure Sound (limit : Int) (s : Statement) : Prop where
  table : ∀ t ∈ s.table, Quotable limit t
  label : ∀ a ∈ s.alias, Quotable limit a
  items : ∀ i ∈ s.items, SoundItem limit i
  joins : ∀ j ∈ s.joins, Quotable limit j.table ∧ ∀ a ∈ j.alias, Quotable limit a
  grouping : ∀ c ∈ s.grouping, Quotable limit c
  ordering : ∀ o ∈ s.ordering, Quotable limit o.column
  rows : ∀ r ∈ s.rows, r ≠ []
  columns : ∀ first ∈ s.rows.head?, ∀ c ∈ first.columns, Quotable limit c
  uniform : ∀ first ∈ s.rows.head?, ∀ r ∈ s.rows, ∀ c ∈ first.columns, c ∈ r.columns
  assignments : ∀ c ∈ s.assignments.columns, Quotable limit c
  conflict : ∀ c ∈ s.conflictColumns, Quotable limit c
  merge : ∀ cs ∈ s.mergeColumns, cs ≠ [] ∧ ∀ c ∈ cs, Quotable limit c
  returning : ∀ c ∈ s.returning, c = "*" ∨ Quotable limit c

variable {limit : Int} {s t : Statement}

theorem sound_start (limit : Int) (kind : StatementKind) : Sound limit { kind } := by
  constructor <;> intro x hx <;> cases hx

theorem optionalName_quotable {v : Value} {o : Option String}
    (h : optionalName limit v = .ok o) : ∀ a ∈ o, Quotable limit a := by
  unfold optionalName at h
  split at h
  · cases h
    rintro a ⟨⟩
  · obtain ⟨name, hname, rfl⟩ := Outcome.map_eq_ok.1 h
    rintro a ⟨⟩
    exact .of_nameOf hname

theorem namesOf_quotable {columns : List Value} {names : List String}
    (h : namesOf limit columns = .ok names) : ∀ c ∈ names, Quotable limit c :=
  Outcome.forall_mem_of_mapM h fun _ _ _ hn => .of_nameOf hn

theorem Sound.whole {x : Outcome Statement} (h : s.Sound limit)
    (hx : ∀ t, x = .ok t → t.Sound limit) : (Change.whole s x).1.Sound limit :=
  Change.of_whole (p := Sound limit) h hx

theorem Sound.of_map {α : Type} {x : Outcome α} {f : α → Statement} (h : s.Sound limit)
    (hf : ∀ a, (f a).Sound limit) : (Change.whole s (x.map f)).1.Sound limit :=
  Change.of_whole_map (p := Sound limit) h hf

theorem setSource_sound {table other : Value} (h : s.Sound limit)
    (ht : s.setSource limit table other = .ok t) : t.Sound limit := by
  obtain ⟨name, label, hname, hlabel, rfl⟩ := setSource_eq_ok ht
  refine { h with table := ?_, label := optionalName_quotable hlabel }
  rintro n ⟨⟩
  exact .of_nameOf hname

theorem selectItem_sound {expr other : Value} {item : SelectItem}
    (h : selectItem limit expr other = .ok item) : SoundItem limit item := by
  unfold selectItem at h
  dsimp only at h
  split at h
  · obtain ⟨name, hname, h⟩ := Outcome.do_eq_ok.1 h
    obtain ⟨second, hsecond, h⟩ := Outcome.do_eq_ok.1 h
    cases hname
    cases h
    exact ⟨.inr (.inl rfl), optionalName_quotable hsecond⟩
  · obtain ⟨name, hname, h⟩ := Outcome.do_eq_ok.1 h
    obtain ⟨second, hsecond, h⟩ := Outcome.do_eq_ok.1 h
    cases h
    exact ⟨.inr (.inr (.of_nameOf hname)), optionalName_quotable hsecond⟩

theorem addItems_sound (h : s.Sound limit) (requests : List (Outcome (Value × Value))) :
    (addItems limit s requests).1.Sound limit := by
  induction requests generalizing s with
  | nil => exact h
  | cons request requests ih =>
    unfold addItems
    split
    · exact h
    · rename_i item hitem
      obtain ⟨r, -, hr⟩ := Outcome.bind_eq_ok.1 hitem
      have hi := List.forall_mem_singleton.2 (selectItem_sound hr)
      exact ih { h with items := List.forall_mem_append.2 ⟨h.items, hi⟩ }

theorem selectRaw_sound {expression other : Value} (h : s.Sound limit)
    (ht : s.selectRaw limit expression other = .ok t) : t.Sound limit := by
  obtain ⟨expr, label, -, hlabel, rfl⟩ := selectRaw_eq_ok ht
  refine { h with items := List.forall_mem_append.2 ⟨h.items, List.forall_mem_singleton.2 ?_⟩ }
  exact ⟨.inl rfl, optionalName_quotable hlabel⟩

theorem addJoin_sound {table on other kind : Value} (h : s.Sound limit)
    (ht : s.addJoin limit table on other kind = .ok t) : t.Sound limit := by
  obtain ⟨joined, hname, hlabel, -, rfl⟩ := addJoin_eq_ok ht
  refine { h with joins := List.forall_mem_append.2 ⟨h.joins, List.forall_mem_singleton.2 ?_⟩ }
  exact ⟨.of_nameOf hname, optionalName_quotable hlabel⟩

theorem addGrouping_sound {columns : List Value} (h : s.Sound limit)
    (ht : s.addGrouping limit columns = .ok t) : t.Sound limit := by
  obtain ⟨names, hnames, rfl⟩ := Outcome.map_eq_ok.1 ht
  exact { h with grouping := List.forall_mem_append.2 ⟨h.grouping, namesOf_quotable hnames⟩ }

theorem addOrdering_sound {column direction : Value} (h : s.Sound limit)
    (ht : s.addOrdering limit column direction = .ok t) : t.Sound limit := by
  obtain ⟨ordering, hname, rfl⟩ := addOrdering_eq_ok ht
  refine { h with
    ordering := List.forall_mem_append.2 ⟨h.ordering, List.forall_mem_singleton.2 ?_⟩ }
  exact .of_nameOf hname

theorem mapM_quoteName_quotable {columns : List String} {qs : List Text}
    (h : columns.mapM (Identifier.quoteName limit) = .ok qs) : ∀ c ∈ columns, Quotable limit c :=
  Outcome.succeeds_mapM.1 ⟨qs, h⟩

theorem appendRows_sound {rows : Value} (h : s.Sound limit)
    (hok : (s.appendRows limit rows).2 = .ok ()) : (s.appendRows limit rows).1.Sound limit := by
  unfold appendRows at hok ⊢
  cases hall : (Row.listOfValue rows).bind fun added => Row.uniform (s.rows ++ added) with
  | error e => exact h
  | ok all =>
    rw [hall] at hok
    obtain ⟨added, hadded, hu⟩ := Outcome.bind_eq_ok.1 hall
    obtain ⟨rfl, huniform⟩ := Row.uniform_eq_ok hu
    obtain ⟨qs, hqs, -⟩ := Outcome.map_eq_ok.1 hok
    refine { h with
      rows := List.forall_mem_append.2 ⟨h.rows, Row.listOfValue_ne_nil hadded⟩
      columns := ?_
      uniform := fun first hfirst r hr c => (huniform first hfirst r hr c).2 }
    intro first hfirst
    rw [Option.mem_def] at hfirst
    rw [hfirst] at hqs
    exact mapM_quoteName_quotable hqs

theorem writableRow_eq_ok {data : Value} {row : Row} (h : writableRow limit data = .ok row) :
    row ≠ [] ∧ ∀ c ∈ row.columns, Quotable limit c := by
  obtain ⟨hdata, qs, hqs⟩ := writableRow_data h
  exact ⟨Row.ofValue_ne_nil hdata, mapM_quoteName_quotable hqs⟩

theorem replaceRow_sound {data : Value} (h : s.Sound limit)
    (ht : s.replaceRow limit data = .ok t) : t.Sound limit := by
  obtain ⟨row, hrow, rfl⟩ := Outcome.map_eq_ok.1 ht
  obtain ⟨hne, hquotable⟩ := writableRow_eq_ok hrow
  refine { h with rows := ?_, columns := ?_, uniform := ?_ }
  · intro r hr
    rw [List.mem_singleton.1 hr]
    exact hne
  · rintro first ⟨⟩
    exact hquotable
  · rintro first ⟨⟩ r hr c hc
    rwa [List.mem_singleton.1 hr]

theorem mergeAssignments_sound {data : Value} (h : s.Sound limit)
    (ht : s.mergeAssignments limit data = .ok t) : t.Sound limit := by
  obtain ⟨row, hrow, rfl⟩ := Outcome.map_eq_ok.1 ht
  refine { h with assignments := fun c hc => ?_ }
  rcases Row.mem_columns_merge hc with hm | hm
  · exact h.assignments c hm
  · exact (writableRow_eq_ok hrow).2 c hm

theorem setConflictColumns_sound {columns : List Value} (h : s.Sound limit)
    (ht : s.setConflictColumns limit columns = .ok t) : t.Sound limit := by
  obtain ⟨names, hnames, rfl⟩ := Outcome.map_eq_ok.1 ht
  exact { h with conflict := namesOf_quotable hnames }

theorem setMergeColumns_sound {columns : List Value} (h : s.Sound limit)
    (ht : s.setMergeColumns limit columns = .ok t) : t.Sound limit := by
  obtain ⟨names, hnames, rfl⟩ := Outcome.map_eq_ok.1 ht
  refine { h with merge := fun cs hcs => ?_ }
  dsimp only at hcs
  split at hcs
  · cases hcs
  · rename_i hne
    cases hcs
    exact ⟨by simpa using hne, namesOf_quotable hnames⟩

theorem returnedName_eq_ok {v : Value} {name : String} (h : returnedName limit v = .ok name) :
    name = "*" ∨ Quotable limit name := by
  unfold returnedName at h
  split at h
  · cases h
    exact .inl rfl
  · exact .inr (.of_nameOf h)

theorem setReturning_sound {columns : List Value} (h : s.Sound limit)
    (ht : s.setReturning limit columns = .ok t) : t.Sound limit := by
  obtain ⟨names, rfl | hnames, rfl⟩ := setReturning_eq_ok ht
  · exact { h with returning := fun c hc => .inl (List.mem_singleton.1 hc) }
  · exact { h with
      returning := Outcome.forall_mem_of_mapM hnames fun _ _ _ hn => returnedName_eq_ok hn }

end Statement

namespace Builder

open Statement

theorem applyFilter_sound {b : Builder} (h : b.statement.Sound b.limit) (f : Filter) :
    (b.applyFilter f).1.Sound b.limit := by
  unfold applyFilter
  split
  · exact h
  · exact h
  · split
    · exact h
    · exact { h with }

theorem applyOpen_sound {b : Builder} (h : b.statement.Sound b.limit) (c : Call)
    (hok : (b.applyOpen c).2 = .ok ()) : (b.applyOpen c).1.Sound b.limit := by
  cases c with
  | filter f => exact applyFilter_sound h f
  | source word table other => exact h.whole fun t ht => setSource_sound h ht
  | select items => exact addItems_sound h _
  | selectRaw expression other => exact h.whole fun t ht => selectRaw_sound h ht
  | join table on other kind => exact h.whole fun t ht => addJoin_sound h ht
  | groupBy columns => exact h.whole fun t ht => addGrouping_sound h ht
  | orderBy column direction => exact h.whole fun t ht => addOrdering_sound h ht
  | values rows =>
    simp only [applyOpen] at hok ⊢
    split at hok
    · rename_i hkind
      rw [if_pos hkind]
      exact appendRows_sound h hok
    · rename_i hkind
      rw [if_neg hkind]
      exact h.whole fun t ht => replaceRow_sound h ht
  | set data => exact h.whole fun t ht => mergeAssignments_sound h ht
  | onConflict columns => exact h.whole fun t ht => setConflictColumns_sound h ht
  | merge columns => exact h.whole fun t ht => setMergeColumns_sound h ht
  | distinct | having | havingRaw | limit | offset => exact h.of_map fun _ => { h with }
  | doNothing => exact { h with }
  | returning columns => exact h.whole fun t ht => setReturning_sound h ht
  | unknown => exact h

theorem apply_sound {b : Builder} (h : b.statement.Sound b.limit) (c : Call)
    (hok : (b.apply c).2 = .ok ()) : (b.apply c).1.statement.Sound b.limit := by
  have hchange : b.change c = b.applyOpen c := (change_of_ok hok).2
  show (b.change c).1.Sound b.limit
  rw [hchange]
  exact applyOpen_sound h c (hchange ▸ hok)

theorem applyAll_sound {b b' : Builder} (h : b.statement.Sound b.limit) {cs : List Call}
    (hok : b.applyAll cs = (b', .ok ())) : b'.statement.Sound b'.limit := by
  induction cs generalizing b with
  | nil =>
    cases hok
    exact h
  | cons c cs ih =>
    obtain ⟨b₁, hb₁, hrest⟩ := applyAll_cons_eq_ok.1 hok
    have hsound := apply_sound h c (congrArg Prod.snd hb₁)
    have hlimit : (b.apply c).1.limit = b.limit := rfl
    rw [← hlimit, congrArg Prod.fst hb₁] at hsound
    exact ih hsound hrest

end Builder

end BoundSql
