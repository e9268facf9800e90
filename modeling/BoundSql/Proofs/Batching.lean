import BoundSql.Proofs.ClauseOrder
import BoundSql.Proofs.RowMerge
/-!
Rows and assignments that are handed over in parts. Whether rows come in one call or in two makes no
difference, and two calls with assignments can be made one with both of them merged.
-/

namespace BoundSql

open Identifier (Quotable)

namespace Row

variable {r s : Row} {rows rows' all : List Row} {es : List (Value × Value)}

theorem checkColumns_of_sameColumns {expected : Row} (h : ∀ r ∈ rows, r.sameColumns expected)
    (index : Nat) : checkColumns expected index rows = .ok () := by
  induction rows generalizing index with
  | nil => rfl
  | cons r rows ih =>
    obtain ⟨hr, hrows⟩ := List.forall_mem_cons.1 h
    rw [checkColumns, if_pos hr]
    exact ih hrows (index + 1)

theorem uniform_eq_ok_iff : uniform rows = .ok all ↔ Uniform rows ∧ all = rows := by
  refine ⟨fun h => (uniform_eq_ok h).symm, ?_⟩
  rintro ⟨h, rfl⟩
  cases all with
  | nil => rfl
  | cons first rest =>
    have hcheck : checkColumns first 1 rest = .ok () :=
      checkColumns_of_sameColumns (fun r hr =>
        sameColumns_iff.2 (h first rfl r (List.mem_cons_of_mem _ hr))) 1
    exact Outcome.map_eq_ok.2 ⟨(), hcheck, rfl⟩

theorem Uniform.of_subset (h : Uniform rows) (hsub : rows' ⊆ rows) : Uniform rows' := by
  intro first hfirst r hr c
  obtain ⟨leader, hleader⟩ : ∃ leader, rows.head? = some leader := by
    cases rows with
    | nil => cases hsub hr
    | cons leader _ => exact ⟨leader, rfl⟩
  have hin := hsub (List.mem_of_mem_head? hfirst)
  exact (h leader hleader r (hsub hr) c).trans (h leader hleader first hin c).symm

def entries (r : Row) : List (Value × Value) :=
  r.map fun e => (.text e.1, e.2)

theorem ofEntries_eq_ok : ofEntries es = .ok r ↔ es = r.entries ∧ ∀ e ∈ r, e.2.bindable := by
  induction es generalizing r with
  | nil =>
    constructor
    · rintro ⟨⟩
      exact ⟨rfl, by simp⟩
    · rintro ⟨h, -⟩
      cases r with
      | nil => rfl
      | cons e r => cases h
  | cons e es ih =>
    obtain ⟨k, v⟩ := e
    constructor
    · intro h
      unfold ofEntries at h
      split at h
      · split at h
        · rename_i hv
          obtain ⟨r', hr', rfl⟩ := Outcome.map_eq_ok.1 h
          obtain ⟨rfl, hbind⟩ := ih.1 hr'
          exact ⟨rfl, List.forall_mem_cons.2 ⟨hv, hbind⟩⟩
        · cases h
      · cases h
    · rintro ⟨h, hbind⟩
      cases r with
      | nil => cases h
      | cons e r =>
        cases h
        obtain ⟨hv, hbind⟩ := List.forall_mem_cons.1 hbind
        rw [ofEntries, if_pos hv]
        exact Outcome.map_eq_ok.2 ⟨r, ih.2 ⟨rfl, hbind⟩, rfl⟩

theorem entries_eq_nil : r.entries = [] ↔ r = [] :=
  List.map_eq_nil_iff

theorem ofValue_mapping_eq_ok :
    ofValue (.mapping es) = .ok r ↔ r ≠ [] ∧ es = r.entries ∧ ∀ e ∈ r, e.2.bindable := by
  simp only [ofValue]
  split
  · rename_i hempty
    obtain rfl := List.isEmpty_iff.1 hempty
    constructor
    · rintro ⟨⟩
    · rintro ⟨hne, hes, -⟩
      exact absurd (entries_eq_nil.1 hes.symm) hne
  · rename_i hfull
    rw [ofEntries_eq_ok, iff_and_self]
    rintro ⟨rfl, -⟩ rfl
    exact hfull rfl

theorem putEntry_entries (r : Row) (c : String) (v : Value) :
    Value.putEntry r.entries (.text c) v = (r.put c v).entries := by
  have hsame (a : String) : Value.same (.text a) (.text c) = (a == c) := by
    simp [Value.same, Value.sameScalar, Value.magnitude?]
  have hany : (r.entries.any fun e => Value.same e.1 (.text c)) = r.any fun e => e.1 == c := by
    simp only [entries, List.any_map, Function.comp_def, hsame]
  unfold Value.putEntry put
  rw [hany]
  split
  · simp only [entries, List.map_map]
    refine List.map_congr_left fun e _ => ?_
    by_cases he : e.1 = c <;> simp [he, hsame]
  · simp [entries]

theorem foldl_putEntry (s r : Row) :
    s.entries.foldl (fun es p => Value.putEntry es p.1 p.2) r.entries = (r.merge s).entries := by
  induction s generalizing r with
  | nil => rfl
  | cons e s ih =>
    show List.foldl _ (Value.putEntry r.entries (.text e.1) e.2) (entries s) = _
    rw [putEntry_entries]
    exact ih (r.put e.1 e.2)

theorem mappingEntries_entries (r s : Row) :
    Value.mappingEntries (r.entries ++ s.entries) = ((merge [] r).merge s).entries := by
  have hfirst : r.entries.foldl (fun es p => Value.putEntry es p.1 p.2) [] = (merge [] r).entries :=
    foldl_putEntry r []
  rw [Value.mappingEntries, List.foldl_append, hfirst, foldl_putEntry]

end Row

namespace Statement

variable {limit : Int} {s t : Statement} {vs : List Value}

theorem mapM_quoteName_succeeds {columns : List String} :
    (columns.mapM (Identifier.quoteName limit)).map (fun _ => ()) = .ok () ↔
      ∀ c ∈ columns, Quotable limit c := by
  rw [Outcome.map_eq_ok]
  simp only [and_true]
  exact Outcome.succeeds_mapM

theorem appendRows_list_eq_ok :
    s.appendRows limit (.list vs) = (t, .ok ()) ↔
      ∃ added, vs.mapM Row.ofValue = .ok added ∧ Row.Uniform (s.rows ++ added) ∧
        (∀ first ∈ (s.rows ++ added).head?, ∀ c ∈ first.columns, Quotable limit c) ∧
        t = { s with rows := s.rows ++ added } := by
  rw [appendRows_eq_ok]
  constructor
  · rintro ⟨all, hall, hnames, rfl⟩
    obtain ⟨added, hadded, hfit⟩ := Outcome.bind_eq_ok.1 hall
    obtain ⟨rows, hrows, hown⟩ := Outcome.bind_eq_ok.1 hadded
    obtain ⟨-, rfl⟩ := Row.uniform_eq_ok_iff.1 hown
    obtain ⟨huniform, rfl⟩ := Row.uniform_eq_ok_iff.1 hfit
    refine ⟨added, hrows, huniform, fun first hfirst => ?_, rfl⟩
    rw [Option.mem_def.1 hfirst] at hnames
    exact mapM_quoteName_succeeds.1 hnames
  · rintro ⟨added, hrows, huniform, hnames, rfl⟩
    have hown : Row.Uniform added := huniform.of_subset (List.subset_append_right _ _)
    refine ⟨_, Outcome.bind_eq_ok.2 ⟨added, Outcome.bind_eq_ok.2 ⟨added, hrows,
      Row.uniform_eq_ok_iff.2 ⟨hown, rfl⟩⟩, Row.uniform_eq_ok_iff.2 ⟨huniform, rfl⟩⟩, ?_, rfl⟩
    cases hfirst : (s.rows ++ added).head? with
    | none => rfl
    | some first => exact mapM_quoteName_succeeds.2 (hnames first hfirst)

theorem appendRows_append {vs ws : List Value} :
    (∃ u, s.appendRows limit (.list vs) = (u, .ok ()) ∧
        u.appendRows limit (.list ws) = (t, .ok ())) ↔
      s.appendRows limit (.list (vs ++ ws)) = (t, .ok ()) := by
  simp only [appendRows_list_eq_ok, Outcome.mapM_append_eq_ok]
  constructor
  · rintro ⟨_, ⟨rows, hrows, -, -, rfl⟩, others, hothers, huniform, hnames, rfl⟩
    dsimp only at huniform hnames
    rw [List.append_assoc] at huniform hnames
    refine ⟨rows ++ others, ⟨rows, others, hrows, hothers, rfl⟩, huniform, hnames, ?_⟩
    rw [List.append_assoc]
  · rintro ⟨_, ⟨rows, others, hrows, hothers, rfl⟩, huniform, hnames, rfl⟩
    rw [← List.append_assoc] at huniform hnames
    refine ⟨{ s with rows := s.rows ++ rows }, ⟨rows, hrows, ?_, ?_, rfl⟩, others, hothers,
      huniform, hnames, ?_⟩
    · exact huniform.of_subset (List.subset_append_left _ _)
    · exact fun first hfirst => hnames first (List.mem_head?_append_of_mem_head? hfirst)
    · rw [List.append_assoc]

theorem writableRow_eq_ok_iff {data : Value} {row : Row} :
    writableRow limit data = .ok row ↔
      Row.ofValue data = .ok row ∧ ∀ c ∈ row.columns, Quotable limit c := by
  constructor
  · intro h
    obtain ⟨hdata, hnames⟩ := writableRow_data h
    exact ⟨hdata, Outcome.succeeds_mapM.1 hnames⟩
  · rintro ⟨hdata, hnames⟩
    obtain ⟨qs, hqs⟩ := Outcome.succeeds_mapM.2 hnames
    exact Outcome.do_eq_ok.2 ⟨row, hdata, Outcome.do_eq_ok.2 ⟨qs, hqs, rfl⟩⟩

theorem writableRow_joined {d₁ d₂ : List (Value × Value)} {r₁ r₂ : Row}
    (h₁ : writableRow limit (.mapping d₁) = .ok r₁)
    (h₂ : writableRow limit (.mapping d₂) = .ok r₂) :
    writableRow limit (.mapping (Value.mappingEntries (d₁ ++ d₂))) =
      .ok ((Row.merge [] r₁).merge r₂) := by
  obtain ⟨hrow₁, hnames₁⟩ := writableRow_eq_ok_iff.1 h₁
  obtain ⟨hrow₂, hnames₂⟩ := writableRow_eq_ok_iff.1 h₂
  obtain ⟨-, rfl, hbind₁⟩ := Row.ofValue_mapping_eq_ok.1 hrow₁
  obtain ⟨hne, rfl, hbind₂⟩ := Row.ofValue_mapping_eq_ok.1 hrow₂
  rw [Row.mappingEntries_entries]
  refine writableRow_eq_ok_iff.2 ⟨Row.ofValue_mapping_eq_ok.2 ⟨?_, rfl, fun e he => ?_⟩,
    fun c hc => ?_⟩
  · obtain ⟨e, rest, rfl⟩ := List.exists_cons_of_ne_nil hne
    have hm : e.1 ∈ Row.columns ((Row.merge [] r₁).merge (e :: rest)) :=
      Row.mem_columns_merge_right _ List.mem_cons_self
    exact fun hnil => by simp [hnil, Row.columns] at hm
  · rcases Row.mem_merge he with hm | hm
    · exact hbind₁ e ((Row.mem_merge hm).resolve_left List.not_mem_nil)
    · exact hbind₂ e hm
  · rcases Row.mem_columns_merge hc with hm | hm
    · exact hnames₁ c ((Row.mem_columns_merge hm).resolve_left List.not_mem_nil)
    · exact hnames₂ c hm

theorem mergeAssignments_joined {d₁ d₂ : List (Value × Value)} {u : Statement}
    (h₁ : s.mergeAssignments limit (.mapping d₁) = .ok u)
    (h₂ : u.mergeAssignments limit (.mapping d₂) = .ok t) :
    s.mergeAssignments limit (.mapping (Value.mappingEntries (d₁ ++ d₂))) = .ok t := by
  obtain ⟨r₁, hr₁, rfl⟩ := Outcome.map_eq_ok.1 h₁
  obtain ⟨r₂, hr₂, rfl⟩ := Outcome.map_eq_ok.1 h₂
  refine Outcome.map_eq_ok.2 ⟨_, writableRow_joined hr₁ hr₂, ?_⟩
  have hmerge : s.assignments.merge ((Row.merge [] r₁).merge r₂) =
      (s.assignments.merge r₁).merge r₂ := by
    rw [Row.merge_merge, Row.merge_merge]
    rfl
  rw [hmerge]

end Statement

namespace Builder

variable {b b' : Builder}

theorem apply_values_list_eq_ok {vs : List Value} :
    b.apply (.values (.list vs)) = (b', .ok ()) ↔
      b.kind = .insert ∧ b.isSealed = false ∧
        ∃ t, b.statement.appendRows b.limit (.list vs) = (t, .ok ()) ∧ b' = b.holding t := by
  rw [apply_eq_ok]
  simp only [applyOpen]
  constructor
  · rintro ⟨-, hopen, t, ht, rfl⟩
    split at ht
    · rename_i hkind
      exact ⟨hkind, by simpa using hopen, t, ht, rfl⟩
    · cases Change.whole_eq_ok.1 ht
  · rintro ⟨hkind, hopen, t, ht, rfl⟩
    rw [if_pos hkind]
    exact ⟨by simp [Call.offeredBy, hkind], by simp [hopen], t, ht, rfl⟩

theorem apply_set_eq_ok {data : Value} :
    b.apply (.set data) = (b', .ok ()) ↔
      b.kind = .update ∧ b.isSealed = false ∧
        ∃ t, b.statement.mergeAssignments b.limit data = .ok t ∧ b' = b.holding t := by
  rw [apply_eq_ok]
  simp only [applyOpen, Change.whole_eq_ok]
  constructor
  · rintro ⟨hoffered, hopen, h⟩
    exact ⟨by simpa [Call.offeredBy] using hoffered, by simpa using hopen, h⟩
  · rintro ⟨hkind, hopen, h⟩
    exact ⟨by simp [Call.offeredBy, hkind], by simp [hopen], h⟩

theorem applyAll_pair_eq_ok {c d : Call} :
    b.applyAll [c, d] = (b', .ok ()) ↔
      ∃ b₁, b.apply c = (b₁, .ok ()) ∧ b₁.apply d = (b', .ok ()) := by
  simp only [applyAll_cons_eq_ok]
  simp [applyAll]

theorem applyAll_values_eq_ok {vs ws : List Value} :
    b.applyAll [.values (.list vs), .values (.list ws)] = (b', .ok ()) ↔
      b.apply (.values (.list (vs ++ ws))) = (b', .ok ()) := by
  rw [applyAll_pair_eq_ok]
  simp only [apply_values_list_eq_ok, ← Statement.appendRows_append]
  constructor
  · rintro ⟨_, ⟨hkind, hopen, u, hu, rfl⟩, -, -, t, ht, rfl⟩
    exact ⟨hkind, hopen, t, ⟨u, hu, ht⟩, rfl⟩
  · rintro ⟨hkind, hopen, t, ⟨u, hu, ht⟩, rfl⟩
    have hkept : (b.holding u).kind = .insert := by
      obtain ⟨added, -, -, -, rfl⟩ := Statement.appendRows_list_eq_ok.1 hu
      exact hkind
    exact ⟨b.holding u, ⟨hkind, hopen, u, hu, rfl⟩, hkept, hopen, t, ht, rfl⟩

theorem apply_set_joined {d₁ d₂ : List (Value × Value)}
    (h : b.applyAll [.set (.mapping d₁), .set (.mapping d₂)] = (b', .ok ())) :
    b.apply (.set (.mapping (Value.mappingEntries (d₁ ++ d₂)))) = (b', .ok ()) := by
  obtain ⟨b₁, h₁, h₂⟩ := applyAll_pair_eq_ok.1 h
  obtain ⟨hkind, hopen, u, hu, rfl⟩ := apply_set_eq_ok.1 h₁
  obtain ⟨-, -, t, ht, rfl⟩ := apply_set_eq_ok.1 h₂
  exact apply_set_eq_ok.2 ⟨hkind, hopen, t, Statement.mergeAssignments_joined hu ht, rfl⟩

/-- Rows that come in two calls are accepted exactly when they are in one, and assignments that are
accepted in two calls are when they come joined. The builders are the same, so the text is the same
and the parameters are. -/
theorem batches_join (b b' : Builder) :
    (∀ r₁ r₂ : List Value,
      b.applyAll [.values (.list r₁), .values (.list r₂)] = (b', .ok ()) ↔
        b.apply (.values (.list (r₁ ++ r₂))) = (b', .ok ())) ∧
    ∀ d₁ d₂ : List (Value × Value),
      b.applyAll [.set (.mapping d₁), .set (.mapping d₂)] = (b', .ok ()) →
        b.apply (.set (.mapping (Value.mappingEntries (d₁ ++ d₂)))) = (b', .ok ()) :=
  ⟨fun _ _ => applyAll_values_eq_ok, fun _ _ => apply_set_joined⟩

/-- Columns in another order, and a column that is assigned in both calls. -/
theorem batches_join_prices :
    let first : Row := [("sku", .int 1), ("price", .int 5)]
    let second : Row := [("price", .int 6), ("sku", .int 2)]
    let third : Row := [("stock", .int 0), ("price", .int 4)]
    let inserting := start { dialect := .sqlite } .insert
    let inserted := inserting.holding { kind := .insert, rows := [first, second] }
    let updating := start { dialect := .sqlite } .update
    let updated := updating.holding
      { kind := .update, assignments := [("sku", .int 1), ("price", .int 4), ("stock", .int 0)] }
    inserting.applyAll [.values (.list [first.toValue]), .values (.list [second.toValue])] =
        (inserted, .ok ()) ∧
      inserting.apply (.values (.list [first.toValue, second.toValue])) = (inserted, .ok ()) ∧
      updating.applyAll [.set first.toValue, .set third.toValue] = (updated, .ok ()) ∧
      updating.apply (.set (.mapping
        [(.text "sku", .int 1), (.text "price", .int 4), (.text "stock", .int 0)])) =
          (updated, .ok ()) := by
  intro first second third inserting inserted updating updated
  have hvalues : inserting.applyAll
      [.values (.list [first.toValue]), .values (.list [second.toValue])] =
        (inserted, .ok ()) := rfl
  have hset : updating.applyAll [.set first.toValue, .set third.toValue] = (updated, .ok ()) := rfl
  have hjoined : Value.mappingEntries (first.entries ++ third.entries) =
      [(.text "sku", .int 1), (.text "price", .int 4), (.text "stock", .int 0)] :=
    Row.mappingEntries_entries first third
  have honce := (batches_join updating updated).2 first.entries third.entries hset
  rw [hjoined] at honce
  exact ⟨hvalues, ((batches_join inserting inserted).1 _ _).1 hvalues, hset, honce⟩

end Builder

end BoundSql
