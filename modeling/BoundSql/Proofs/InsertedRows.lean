import BoundSql.Proofs.CallFrame
import BoundSql.Proofs.Completeness
/-!
The rows of an insert. All of them have the columns of the first one, so that each has a value for
each of its columns, and values and placeholders go row by row in the order of the first row, in
whatever order the columns of the others were given.
-/

namespace BoundSql

namespace Row

variable {r s : Row} {c : String} {v : Value}

structure Reordered (r s : Row) : Prop where
  distinct : r.columns.Nodup
  perm : r.Perm s

theorem get?_eq_some_iff (h : r.columns.Nodup) : r.get? c = some v ↔ (c, v) ∈ r := by
  induction r with
  | nil => simp [get?]
  | cons e r ih =>
    obtain ⟨hc, hr⟩ : e.1 ∉ columns r ∧ (columns r).Nodup := List.nodup_cons.1 h
    rw [get?_cons, List.mem_cons]
    split
    · rename_i he
      have hne : (c, v) ∉ r := fun hm => hc (he ▸ List.mem_map_of_mem hm)
      subst he
      simp [hne, Prod.ext_iff, eq_comm]
    · rename_i he
      have hne : (c, v) ≠ e := fun hm => he (hm ▸ rfl)
      simp [ih hr, hne]

theorem Reordered.get?_eq (h : r.Reordered s) (c : String) : r.get? c = s.get? c := by
  have hs : s.columns.Nodup := (h.perm.map Prod.fst).nodup h.distinct
  refine Option.ext fun v => ?_
  rw [get?_eq_some_iff h.distinct, get?_eq_some_iff hs, h.perm.mem_iff]

theorem Reordered.values_eq (h : r.Reordered s) (columns : List String) :
    r.values columns = s.values columns := by
  simp only [values, h.get?_eq]

theorem mapM_values_reordered {rows rows' : List Row} (h : List.Forall₂ Reordered rows rows')
    (columns : List String) :
    (rows.mapM fun r => r.values columns) = rows'.mapM fun r => r.values columns := by
  induction h with
  | nil => rfl
  | cons hr _ ih => rw [List.mapM_cons, List.mapM_cons, hr.values_eq, ih]

theorem getElem?_of_values {columns : List String} {vs : List Value} (h : r.values columns = .ok vs)
    {j : Nat} (hj : j < columns.length) : vs[j]? = r.get? columns[j] := by
  have hall := Outcome.mapM_eq_ok.1 h
  have hj' : j < vs.length := hall.length_eq ▸ hj
  have hv := List.forall₂_iff_get.1 hall |>.2 j hj hj'
  simp only [List.get_eq_getElem] at hv
  rw [List.getElem?_eq_getElem hj']
  split at hv
  · rename_i w hw
    cases hv
    exact hw.symm
  · cases hv

end Row

/-- An outcome that is no failure for a wrong use of data, such as a column that is not there. -/
def Outcome.Proper {α : Type} (x : Outcome α) : Prop :=
  ∀ m, x ≠ .error (.misuse m)

namespace Outcome

variable {α β : Type} {x : Outcome α}

theorem Succeeds.proper (h : Succeeds x) : Proper x := by
  obtain ⟨a, rfl⟩ := h
  simp [Proper]

theorem Proper.bind {f : α → Outcome β} (hx : Proper x) (hf : ∀ a, Proper (f a)) :
    Proper (x >>= f) := by
  cases x with
  | error e =>
    intro m hm
    cases hm
    exact hx m rfl
  | ok a => exact hf a

theorem Proper.map (hx : Proper x) (f : α → β) : Proper (x.map f) :=
  fun m hm => hx m (map_eq_error.1 hm)

theorem Proper.mapM {f : α → Outcome β} {as : List α} (h : ∀ a ∈ as, Proper (f a)) :
    Proper (as.mapM f) := by
  intro m hm
  obtain ⟨done, a, rest, bs, rfl, -, ha⟩ := mapM_eq_error.1 hm
  exact h a (by simp) m ha

end Outcome

theorem Context.quote_proper (ctx : Context) (name : String) : Outcome.Proper (ctx.quote name) := by
  intro m hm
  unfold Context.quote Identifier.quoteName at hm
  cases hq : Identifier.quote ctx.limit name.toList with
  | error e =>
    rw [hq] at hm
    cases hm
  | ok q =>
    rw [hq] at hm
    cases hm

theorem Context.quoteAll_proper (ctx : Context) (names : List String) :
    Outcome.Proper (ctx.quoteAll names) :=
  (Outcome.Proper.mapM fun name _ => ctx.quote_proper name).map _

theorem getElem?_flatten_of_length {α : Type} {rows : List (List α)} {k : Nat}
    (h : ∀ r ∈ rows, r.length = k) {i j : Nat} (hi : i < rows.length) (hj : j < k) :
    rows.flatten[i * k + j]? = rows[i][j]? := by
  induction rows generalizing i with
  | nil => cases hi
  | cons r rows ih =>
    obtain ⟨hr, hrows⟩ := List.forall_mem_cons.1 h
    rw [List.flatten_cons]
    cases i with
    | zero =>
      rw [Nat.zero_mul, Nat.zero_add, List.getElem?_append_left (by omega)]
      rfl
    | succ i =>
      have hplace : (i + 1) * k + j = r.length + (i * k + j) := by
        rw [hr, Nat.succ_mul]
        omega
      rw [hplace, List.getElem?_append_right (by omega), Nat.add_sub_cancel_left]
      exact ih hrows (Nat.lt_of_succ_lt_succ hi)

theorem slotTexts_eq (offset : Nat) (n : Nat) :
    slotTexts offset n =
      (List.range n).map fun j => Placeholder.slotText ((offset + j + 1 : Nat) : Int) := by
  induction n generalizing offset with
  | zero => rfl
  | succ n ih =>
    have hnext := ih (offset + 1)
    rw [Int.natCast_succ] at hnext
    rw [slotTexts, hnext, List.range_succ_eq_map, List.map_cons, List.map_map]
    congr 1
    refine List.map_congr_left fun j _ => ?_
    simp only [Function.comp_apply]
    congr 2
    omega

namespace Statement

def rowSlots (columns rows : Nat) : List Text :=
  (List.range rows).map fun i =>
    '(' :: joinWith [',', ' '] ((List.range columns).map fun j =>
      Placeholder.slotText ((i * columns + j + 1 : Nat) : Int)) ++ [')']

theorem rowTexts_eq_rowSlots (columns rows : Nat) :
    rowTexts columns 0 rows = rowSlots columns rows := by
  have hoffset : ∀ offset : Nat, rowTexts columns offset rows =
      (List.range rows).map fun i =>
        '(' :: joinWith [',', ' '] (slotTexts ((offset + i * columns : Nat) : Int) columns) ++
          [')'] := by
    induction rows with
    | zero => exact fun _ => rfl
    | succ rows ih =>
      intro offset
      have hnext := ih (offset + columns)
      rw [Int.natCast_add] at hnext
      rw [rowTexts, hnext, List.range_succ_eq_map, List.map_cons, List.map_map]
      simp only [Nat.zero_mul, Nat.add_zero]
      congr 1
      refine List.map_congr_left fun i _ => ?_
      simp only [Function.comp_apply, Nat.succ_mul, Nat.add_assoc, Nat.add_comm columns]
  have hzero := hoffset 0
  simp only [slotTexts_eq, Nat.zero_add] at hzero
  exact hzero

/-- The text and the values of rows, row by row and each in the order of the columns. -/
structure RowMajor (ctx : Context) (s : Statement) (columns : List String) (t : BoundText) :
    Prop where
  sql : ∃ table target names ending, s.table = some table ∧ ctx.quote table = .ok target ∧
    columns.mapM ctx.quote = .ok names ∧ s.returningText ctx = .ok ending ∧
    t.sql = "INSERT INTO ".toList ++ target ++ " (".toList ++ joinWith [',', ' '] names ++
      ") VALUES ".toList ++ joinWith [',', ' '] (rowSlots columns.length s.rows.length) ++ ending
  length : t.params.length = columns.length * s.rows.length
  value : ∀ i j (hi : i < s.rows.length) (hj : j < columns.length),
    t.params[i * columns.length + j]? = s.rows[i].get? columns[j]

variable {ctx : Context} {s : Statement}

theorem requireTable_eq_ok {table method : String} (h : s.requireTable method = .ok table) :
    s.table = some table := by
  unfold requireTable at h
  split at h
  · rename_i t ht
    split at h
    · cases h
    · cases h
      exact ht
  · cases h

theorem compileInsert_rowMajor {t : BoundText} (h : s.compileInsert ctx = .ok t) :
    ∃ first rest, s.rows = first :: rest ∧ s.RowMajor ctx first.columns t := by
  unfold compileInsert at h
  obtain ⟨table, htable, h⟩ := Outcome.do_eq_ok.1 h
  cases hrows : s.rows with
  | nil =>
    rw [hrows] at h
    cases h
  | cons first rest =>
    rw [hrows] at h
    obtain ⟨params, hparams, h⟩ := Outcome.do_eq_ok.1 h
    obtain ⟨head, hhead, h⟩ := Outcome.do_eq_ok.1 h
    obtain ⟨sql, hsql, h⟩ := Outcome.do_eq_ok.1 h
    cases h
    rw [withReturning_eq] at hsql
    obtain ⟨ending, hending, rfl⟩ := Outcome.map_eq_ok.1 hsql
    unfold insertHead Context.quoteAll at hhead
    obtain ⟨target, htarget, hhead⟩ := Outcome.do_eq_ok.1 hhead
    obtain ⟨joined, hjoined, hhead⟩ := Outcome.do_eq_ok.1 hhead
    obtain ⟨names, hnames, rfl⟩ := Outcome.map_eq_ok.1 hjoined
    cases hhead
    have hall := Outcome.mapM_eq_ok.1 hparams
    have hlength : ∀ vs ∈ params, vs.length = first.columns.length :=
      Outcome.forall_mem_of_mapM hparams fun r _ vs hvs => length_of_values hvs
    refine ⟨first, rest, rfl, ⟨table, target, names, ending, requireTable_eq_ok htable, htarget,
      hnames, hending, ?_⟩, ?_, fun i j hi hj => ?_⟩
    · rw [hrows, rowTexts_eq_rowSlots]
      simp
    · have hcount : params.map List.length = List.replicate params.length first.columns.length :=
        List.map_eq_replicate_iff.2 hlength
      rw [List.length_flatten, hcount, List.sum_replicate_nat, hrows, hall.length_eq]
      exact Nat.mul_comm _ _
    · have hparam : i < params.length := by rw [← hall.length_eq, ← hrows]; exact hi
      have hi' : i < (first :: rest).length := by rw [← hrows]; exact hi
      have hvalues := (List.forall₂_iff_get.1 hall).2 i hi' hparam
      simp only [List.get_eq_getElem] at hvalues
      simp only [hrows]
      rw [getElem?_flatten_of_length hlength hparam hj]
      exact Row.getElem?_of_values hvalues hj

theorem compileInsert_proper (h : Row.Uniform s.rows) : Outcome.Proper (s.compileInsert ctx) := by
  have htable : Outcome.Proper (s.requireTable "into") := by
    unfold requireTable
    intro m hm
    split at hm
    · split at hm <;> cases hm
    · cases hm
  unfold compileInsert
  refine htable.bind fun table => ?_
  cases hrows : s.rows with
  | nil =>
    intro m hm
    cases hm
  | cons first rest =>
    have hfirst : first ∈ s.rows.head? := by rw [hrows]; rfl
    have hvalues : Outcome.Succeeds ((first :: rest).mapM fun r : Row => r.values first.columns) := by
      rw [← hrows]
      exact Outcome.succeeds_mapM.2 fun r hr =>
        Row.values_succeeds fun c hc => (h first hfirst r hr c).2 hc
    refine hvalues.proper.bind fun params => ?_
    refine Outcome.Proper.bind ?_ fun head => Outcome.Proper.bind ?_ fun sql => ?_
    · exact (ctx.quote_proper table).bind fun target =>
        (ctx.quoteAll_proper first.columns).bind fun names =>
          Outcome.Succeeds.proper (Outcome.succeeds_pure _)
    · unfold withReturning
      split
      · exact Outcome.Succeeds.proper ⟨_, rfl⟩
      split
      · exact Outcome.Succeeds.proper ⟨_, rfl⟩
      · exact (ctx.quoteAll_proper s.returning).map _
    · exact Outcome.Succeeds.proper (Outcome.succeeds_pure _)

theorem compileInsert_reordered {first : Row} {rest rest' : List Row} (hrows : s.rows = first :: rest)
    (h : List.Forall₂ Row.Reordered rest rest') :
    { s with rows := first :: rest' }.compileInsert ctx = s.compileInsert ctx := by
  have hvalues := Row.mapM_values_reordered h first.columns
  unfold compileInsert
  rw [hrows]
  simp only [List.mapM_cons, hvalues, h.length_eq]
  rfl

end Statement

namespace Builder

variable {b : Builder}

theorem apply_uniform (hkind : b.kind = .insert) (h : Row.Uniform b.statement.rows) (c : Call) :
    Row.Uniform (b.apply c).1.statement.rows := by
  show Row.Uniform (b.change c).1.rows
  have whole : ∀ {x : Outcome Statement}, (∀ t, x = .ok t → t.rows = b.statement.rows) →
      Row.Uniform (Change.whole b.statement x).1.rows :=
    fun hx => Change.of_whole (p := fun t => Row.Uniform t.rows) h fun t ht => by rwa [hx t ht]
  obtain ⟨e, hc⟩ | ⟨hoffered, hc⟩ := b.change_cases c
  · rw [hc]
    exact h
  · rw [hc]
    cases c with
    | filter f => cases f <;> simp [Call.offeredBy, hkind] at hoffered
    | source word table label =>
      refine whole fun t ht => ?_
      obtain ⟨name, other, -, -, rfl⟩ := Statement.setSource_eq_ok ht
      rfl
    | values rows =>
      simp only [applyOpen, hkind, ↓reduceIte, Statement.appendRows]
      split
      · exact h
      · rename_i all hall
        obtain ⟨added, -, hfit⟩ := Outcome.bind_eq_ok.1 hall
        obtain ⟨rfl, huniform⟩ := Row.uniform_eq_ok hfit
        exact huniform
    | returning columns =>
      refine whole fun t ht => ?_
      obtain ⟨names, -, rfl⟩ := Statement.setReturning_eq_ok ht
      rfl
    | _ => simp [Call.offeredBy, hkind] at hoffered

theorem Reachable.uniform_rows (h : b.Reachable) (hkind : b.kind = .insert) :
    Row.Uniform b.statement.rows := by
  induction h with
  | start ctx kind =>
    intro first hfirst
    cases hfirst
  | @call b h c ih =>
    have hb : b.kind = .insert := by rw [← b.apply_kind c, hkind]
    exact apply_uniform hb (ih hb) c
  | handOver h ih => exact ih hkind

/-- An insert takes the columns of its first row, which are the columns of every other one, and goes
through the rows one by one. Each value stands in the place of its column, also where a row gave its
columns in another order, and there always is one. -/
theorem Reachable.insert_rowMajor (h : b.Reachable) (hkind : b.kind = .insert) :
    Row.Uniform b.statement.rows ∧
    Outcome.Proper b.compile ∧
    (∀ calls, (Builder.start b.context .insert).applyAll calls = (b, .ok ()) → b.statement.table.isSome →
      b.statement.rows ≠ [] → Outcome.Succeeds b.compile) ∧
    (∀ t, b.statement.compileNumbered b.context = .ok t → ∃ first rest,
      b.statement.rows = first :: rest ∧ b.statement.RowMajor b.context first.columns t) ∧
    ∀ first rest rest', b.statement.rows = first :: rest → List.Forall₂ Row.Reordered rest rest' →
      { b.statement with rows := first :: rest' }.compile b.context = b.compile := by
  have hrows := h.uniform_rows hkind
  have hnumbered : ∀ s : Statement, s.kind = .insert →
      s.compileNumbered b.context = s.compileInsert b.context := by
    intro s hs
    unfold Statement.compileNumbered
    rw [hs]
  have hinsert := hnumbered b.statement hkind
  refine ⟨hrows, ?_, fun calls hcalls htable hne => ?_, fun t ht => ?_, ?_⟩
  · unfold compile Statement.compile
    rw [hinsert]
    exact (Statement.compileInsert_proper hrows).map _
  · have hstart : (Builder.start b.context .insert).statement.Sound
        (Builder.start b.context .insert).limit :=
      Statement.sound_start b.context.limit .insert
    have hsound : b.statement.Sound b.context.limit := applyAll_sound hstart hcalls
    obtain ⟨table, htable⟩ := Option.isSome_iff_exists.1 htable
    unfold compile Statement.compile
    rw [hinsert]
    exact (Statement.compileInsert_succeeds hsound htable hne).map _
  · rw [hinsert] at ht
    exact Statement.compileInsert_rowMajor ht
  · intro first rest rest' hfirst hreordered
    have hother := hnumbered { b.statement with rows := first :: rest' } hkind
    unfold compile Statement.compile
    rw [hother, hinsert, Statement.compileInsert_reordered hfirst hreordered]

def mixedRowCalls : List Call :=
  [.values (.list [.mapping [(.text "a", .int 1), (.text "b", .int 2)],
      .mapping [(.text "b", .int 4), (.text "a", .int 3)]]),
    .source .into (.text "t") .null,
    .values (.mapping [(.text "b", .int 6), (.text "a", .int 5)])]

def mixedRows : Builder :=
  ((start { dialect := .postgres } .insert).applyAll mixedRowCalls).1

theorem insert_rowMajor_mixedRows :
    mixedRows.Reachable ∧ mixedRows.kind = .insert ∧
      (start mixedRows.context .insert).applyAll mixedRowCalls = (mixedRows, .ok ()) ∧
      Outcome.Succeeds mixedRows.compile ∧
      (∃ t, mixedRows.statement.compileNumbered mixedRows.context = .ok t ∧
        mixedRows.statement.RowMajor mixedRows.context ["a", "b"] t ∧
        t.params = [.int 1, .int 2, .int 3, .int 4, .int 5, .int 6]) ∧
      { mixedRows.statement with
        rows := [[("a", .int 1), ("b", .int 2)], [("a", .int 3), ("b", .int 4)],
          [("a", .int 5), ("b", .int 6)]] }.compile mixedRows.context = mixedRows.compile := by
  have hreachable : mixedRows.Reachable := (Reachable.start _ _).applyAll _
  have hcalls : (start mixedRows.context .insert).applyAll mixedRowCalls = (mixedRows, .ok ()) := rfl
  obtain ⟨-, -, hsucceeds, hwritten, hreordered⟩ := hreachable.insert_rowMajor rfl
  obtain ⟨t, ht⟩ : Outcome.Succeeds (mixedRows.statement.compileNumbered mixedRows.context) :=
    ⟨_, rfl⟩
  obtain ⟨first, rest, hrows, hlayout⟩ := hwritten t ht
  have hfirst : first.columns = ["a", "b"] := by
    rw [← (List.cons.inj hrows).1]
    rfl
  have hparams : t.params = [.int 1, .int 2, .int 3, .int 4, .int 5, .int 6] := by
    cases ht
    rfl
  have hswapped : ∀ v w : Value, Row.Reordered [("b", w), ("a", v)] [("a", v), ("b", w)] :=
    fun v w => ⟨by simp [Row.columns], List.Perm.swap ..⟩
  exact ⟨hreachable, rfl, hcalls, hsucceeds _ hcalls rfl (by decide), ⟨t, ht, hfirst ▸ hlayout, hparams⟩,
    hreordered _ _ _ rfl (.cons (hswapped _ _) (.cons (hswapped _ _) .nil))⟩

end Builder

end BoundSql
