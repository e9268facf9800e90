import BoundSql.Proofs.CallFrame
import BoundSql.Proofs.Sealing
/-!
What refused calls leave behind. A call changes a builder as a whole or not at all, except that rows
are stored before the names of their columns are looked at, and entries of a select list are added one
by one. Such a call, when it is refused half way, leaves its first part in the builder.
-/

namespace BoundSql

namespace Call

/-- Whether a call may be refused after a part of it was done. -/
def isGradual (kind : StatementKind) : Call → Bool
  | values _ => kind == .insert
  | select _ => true
  | _ => false

end Call

namespace Statement

variable {limit : Int} {s : Statement} {e : Failure}

def requestedItem (limit : Int) (request : Outcome (Value × Value)) : Outcome SelectItem :=
  request.bind fun r => selectItem limit r.1 r.2

theorem addItems_of_ok {requests : List (Outcome (Value × Value))} {added : List SelectItem}
    (h : requests.mapM (requestedItem limit) = .ok added) :
    addItems limit s requests = ({ s with items := s.items ++ added }, .ok ()) := by
  induction requests generalizing s added with
  | nil =>
    cases h
    simp [addItems]
  | cons request requests ih =>
    rw [List.mapM_cons] at h
    obtain ⟨item, hitem, h⟩ := Outcome.do_eq_ok.1 h
    obtain ⟨rest, hrest, h⟩ := Outcome.do_eq_ok.1 h
    cases h
    unfold requestedItem at hitem
    rw [addItems, hitem]
    simp [ih hrest]

theorem addItems_of_refused (s : Statement) {done : List (Outcome (Value × Value))}
    (rest : List (Outcome (Value × Value))) {refused : Outcome (Value × Value)} {added : List SelectItem}
    (hdone : done.mapM (requestedItem limit) = .ok added)
    (hrefused : requestedItem limit refused = .error e) :
    addItems limit s (done ++ refused :: rest) =
      ({ s with items := s.items ++ added }, .error e) := by
  induction done generalizing s added with
  | nil =>
    cases hdone
    unfold requestedItem at hrefused
    simp [addItems, hrefused]
  | cons request done ih =>
    rw [List.mapM_cons] at hdone
    obtain ⟨item, hitem, hdone⟩ := Outcome.do_eq_ok.1 hdone
    obtain ⟨others, hothers, hdone⟩ := Outcome.do_eq_ok.1 hdone
    cases hdone
    unfold requestedItem at hitem
    rw [List.cons_append, addItems, hitem]
    simp [ih _ hothers]

theorem appendRows_of_error {rows : Value} (h : (s.appendRows limit rows).2 = .error e) :
    (s.appendRows limit rows).1 = s ∨ ∃ added first, Row.listOfValue rows = .ok added ∧ added ≠ [] ∧
      Outcome.Succeeds (Row.uniform (s.rows ++ added)) ∧
      (s.rows ++ added).head? = some first ∧
      first.columns.mapM (Identifier.quoteName limit) = .error e ∧
      (s.appendRows limit rows).1 = { s with rows := s.rows ++ added } := by
  unfold appendRows at h ⊢
  split at h
  · exact .inl rfl
  · rename_i all hall
    obtain ⟨added, hadded, hfit⟩ := Outcome.bind_eq_ok.1 hall
    obtain ⟨rfl, -⟩ := Row.uniform_eq_ok hfit
    have hcolumns := Outcome.map_eq_error.1 h
    by_cases hne : added = []
    · subst hne
      exact .inl (by simp)
    · cases hfirst : (s.rows ++ added).head? with
      | none => simp [hne] at hfirst
      | some first =>
        rw [hfirst] at hcolumns
        exact .inr ⟨added, first, hadded, hne, ⟨_, hfit⟩, hfirst, hcolumns, rfl⟩

theorem appendRows_of_refused {rows : Value} {added : List Row} {first : Row}
    (hadded : Row.listOfValue rows = .ok added)
    (hfit : Outcome.Succeeds (Row.uniform (s.rows ++ added)))
    (hfirst : (s.rows ++ added).head? = some first)
    (hrefused : first.columns.mapM (Identifier.quoteName limit) = .error e) :
    s.appendRows limit rows = ({ s with rows := s.rows ++ added }, .error e) := by
  obtain ⟨all, hall⟩ := hfit
  obtain ⟨rfl, -⟩ := Row.uniform_eq_ok hall
  unfold appendRows
  rw [hadded]
  simp only [Except.bind, hall, hfirst, Option.map_some, Option.getD_some, hrefused, Except.map]

end Statement

namespace Builder

variable {b b' : Builder} {c : Call} {e : Failure}

/-- A call that is refused when a part of it was done, and the builder that it leaves. -/
inductive Halfway (b : Builder) : Call → Failure → Builder → Prop where
  /-- The rows fit and are stored, but a column of the first one cannot be written. -/
  | rows {rows : Value} {added : List Row} {first : Row} {e : Failure} (hkind : b.kind = .insert)
    (hadded : Row.listOfValue rows = .ok added) (hne : added ≠ [])
    (hfit : Outcome.Succeeds (Row.uniform (b.statement.rows ++ added)))
    (hfirst : (b.statement.rows ++ added).head? = some first)
    (hrefused : first.columns.mapM (Identifier.quoteName b.limit) = .error e) :
    Halfway b (.values rows) e
      { b with statement := { b.statement with rows := b.statement.rows ++ added } }
  | items {items : List Value} {done rest : List (Outcome (Value × Value))}
    {refused : Outcome (Value × Value)} {added : List SelectItem} {e : Failure}
    (hkind : b.kind = .select)
    (hrequests : (flattenItems items).flatMap Statement.selectRequests = done ++ refused :: rest)
    (hne : done ≠ []) (hadded : done.mapM (Statement.requestedItem b.limit) = .ok added)
    (hrefused : Statement.requestedItem b.limit refused = .error e) :
    Halfway b (.select items) e
      { b with statement := { b.statement with items := b.statement.items ++ added } }

theorem Halfway.ne (h : b.Halfway c e b') : b' ≠ b := by
  cases h with
  | rows _ _ hne =>
    intro heq
    have hrows := congrArg (fun x : Builder => x.statement.rows) heq
    exact hne (by simpa using hrows)
  | @items _ done _ _ added _ _ _ hne hadded =>
    intro heq
    have hitems := congrArg (fun x : Builder => x.statement.items) heq
    have hlength := Outcome.length_of_mapM hadded
    obtain rfl : added = [] := by simpa using hitems
    exact hne (List.eq_nil_of_length_eq_zero hlength.symm)

theorem Halfway.apply_eq (h : b.Halfway c e b') (hopen : b.isSealed = false) :
    b.apply c = (b', .error e) := by
  cases h with
  | rows hkind hadded hne hfit hfirst hrefused =>
    have hrows := Statement.appendRows_of_refused hadded hfit hfirst hrefused
    simp [apply, change, Call.offeredBy, hkind, hopen, applyOpen, hrows]
  | @items items done rest _ _ _ hkind hrequests hne hadded hrefused =>
    have hitems := Statement.addItems_of_refused b.statement rest hadded hrefused
    rw [← hrequests] at hitems
    simp [apply, change, Call.offeredBy, hkind, hopen, applyOpen, Statement.select, hitems]

theorem applyFilter_of_error {f : Filter} (h : (b.applyFilter f).2 = .error e) :
    (b.applyFilter f).1 = b.statement := by
  unfold applyFilter at h ⊢
  split at h
  · rfl
  · cases h
  · split at h
    · rename_i hsealed
      simp [hsealed]
    · cases h

theorem applyOpen_of_error (hc : c.isGradual b.kind = false) (h : (b.applyOpen c).2 = .error e) :
    (b.applyOpen c).1 = b.statement := by
  cases c with
  | filter f => exact applyFilter_of_error h
  | select items => cases hc
  | values rows =>
    have hkind : b.kind ≠ .insert := by simpa [Call.isGradual] using hc
    simp only [applyOpen, hkind, ↓reduceIte] at h ⊢
    exact Change.whole_of_error h
  | doNothing => cases h
  | unknown => rfl
  | _ => exact Change.whole_of_error h

theorem change_of_error (hc : c.isGradual b.kind = false) (h : (b.change c).2 = .error e) :
    (b.change c).1 = b.statement := by
  obtain ⟨e', hchange⟩ | ⟨-, hchange⟩ := b.change_cases c
  · rw [hchange]
  · rw [hchange] at h ⊢
    exact applyOpen_of_error hc h

theorem applyOpen_halfway (hc : c.isGradual b.kind) (hoffered : c.offeredBy b.kind)
    (h : (b.applyOpen c).2 = .error e) :
    (b.applyOpen c).1 = b.statement ∨ b.Halfway c e { b with statement := (b.applyOpen c).1 } := by
  cases c with
  | values rows =>
    have hkind : b.kind = .insert := by simpa [Call.isGradual] using hc
    simp only [applyOpen, hkind, ↓reduceIte] at h ⊢
    rcases Statement.appendRows_of_error h with hsame | ⟨added, first, hadded, hne, hfit, hfirst,
      hrefused, hleft⟩
    · exact .inl hsame
    · rw [hleft]
      exact .inr (.rows hkind hadded hne hfit hfirst hrefused)
  | select items =>
    have hkind : b.kind = .select := by simpa [Call.offeredBy] using hoffered
    simp only [applyOpen, Statement.select] at h ⊢
    cases hall : ((flattenItems items).flatMap Statement.selectRequests).mapM
        (Statement.requestedItem b.limit) with
    | ok added =>
      rw [Statement.addItems_of_ok hall] at h
      cases h
    | error e' =>
      obtain ⟨done, refused, rest, added, hrequests, hadded, hrefused⟩ :=
        Outcome.mapM_eq_error.1 hall
      have hleft := Statement.addItems_of_refused b.statement rest hadded hrefused
      rw [hrequests, hleft] at h ⊢
      cases h
      by_cases hne : done = []
      · subst hne
        cases hadded
        exact .inl (by simp)
      · exact .inr (.items hkind hrequests hne hadded hrefused)
  | _ => cases hc

theorem change_halfway (hc : c.isGradual b.kind) (h : (b.change c).2 = .error e) :
    (b.change c).1 = b.statement ∨ b.Halfway c e { b with statement := (b.change c).1 } := by
  obtain ⟨e', hchange⟩ | ⟨hoffered, hchange⟩ := b.change_cases c
  · rw [hchange]
    exact .inl rfl
  · rw [hchange] at h ⊢
    exact applyOpen_halfway hc hoffered h

/-- A call is refused and leaves another builder exactly when it was half done. -/
theorem refused_and_changed_iff :
    (b.apply c = (b', .error e) ∧ b' ≠ b) ↔ (b.isSealed = false ∧ b.Halfway c e b') := by
  constructor
  · rintro ⟨happly, hne⟩
    have herror : (b.change c).2 = .error e := congrArg Prod.snd happly
    have hleft : { b with statement := (b.change c).1 } = b' := congrArg Prod.fst happly
    subst hleft
    have hopen : b.isSealed = false := by
      by_contra hsealed
      exact hne (apply_of_sealed (by simpa using hsealed) c)
    have hchanged : (b.change c).1 ≠ b.statement := fun hsame => hne (by rw [hsame])
    refine ⟨hopen, ?_⟩
    by_cases hc : c.isGradual b.kind
    · exact (change_halfway hc herror).resolve_left hchanged
    · exact absurd (change_of_error (by simpa using hc) herror) hchanged
  · rintro ⟨hopen, hhalf⟩
    exact ⟨hhalf.apply_eq hopen, hhalf.ne⟩

/-- An insert whose first row has a column that cannot be written. -/
def Stuck (b : Builder) : Prop :=
  b.kind = .insert ∧ ∃ first ∈ b.statement.rows.head?,
    ¬ Outcome.Succeeds (first.columns.mapM (Identifier.quoteName b.limit))

theorem Halfway.stuck (h : b.Halfway c e b') (hkind : b.kind = .insert) : b'.Stuck := by
  cases h with
  | @rows rows added first e _ hadded hne hfit hfirst hrefused =>
    refine ⟨hkind, first, hfirst, ?_⟩
    rintro ⟨qs, hqs⟩
    cases hrefused.symm.trans hqs
  | items hselect =>
    rw [hkind] at hselect
    cases hselect

theorem Stuck.apply (h : b.Stuck) (c : Call) : (b.apply c).1.Stuck := by
  obtain ⟨hkind, first, hfirst, hrefused⟩ := h
  refine ⟨(b.apply_kind c).trans hkind, first, ?_, hrefused⟩
  obtain ⟨added, hadded⟩ := rows_prefix_of_insert hkind c
  rw [← hadded]
  exact List.mem_head?_append_of_mem_head? hfirst

theorem Stuck.compile (h : b.Stuck) : ¬ Outcome.Succeeds b.compile := by
  obtain ⟨hkind, first, hfirst, hrefused⟩ := h
  rintro ⟨compiled, hcompiled⟩
  obtain ⟨t, ht, -⟩ := Outcome.map_eq_ok.1 hcompiled
  have hinsert : b.statement.kind = .insert := hkind
  unfold Statement.compileNumbered at ht
  rw [hinsert] at ht
  obtain ⟨table, -, ht⟩ := Outcome.do_eq_ok.1 ht
  cases hrows : b.statement.rows with
  | nil =>
    rw [hrows] at hfirst
    cases hfirst
  | cons row rows =>
    rw [hrows] at hfirst ht
    cases hfirst
    obtain ⟨params, -, ht⟩ := Outcome.do_eq_ok.1 ht
    obtain ⟨head, hhead, -⟩ := Outcome.do_eq_ok.1 ht
    obtain ⟨target, -, hhead⟩ := Outcome.do_eq_ok.1 hhead
    obtain ⟨names, hnames, -⟩ := Outcome.do_eq_ok.1 hhead
    obtain ⟨qs, hqs, -⟩ := Outcome.map_eq_ok.1 hnames
    exact hrefused ⟨qs, hqs⟩

theorem Stuck.values (h : b.Stuck) (rows : Value) :
    ¬ Outcome.Succeeds (b.apply (.values rows)).2 := by
  obtain ⟨hkind, first, hfirst, hrefused⟩ := h
  rintro ⟨u, hu⟩
  have hchange : b.change (.values rows) = b.applyOpen (.values rows) := (change_of_ok hu).2
  have hrows : (b.statement.appendRows b.limit rows).2 = .ok u := by
    have hopen : (b.applyOpen (.values rows)).2 = .ok u := hchange ▸ hu
    simpa [applyOpen, hkind] using hopen
  unfold Statement.appendRows at hrows
  split at hrows
  · cases hrows
  · rename_i all hall
    obtain ⟨added, -, hfit⟩ := Outcome.bind_eq_ok.1 hall
    obtain ⟨rfl, -⟩ := Row.uniform_eq_ok hfit
    obtain ⟨qs, hqs, -⟩ := Outcome.map_eq_ok.1 hrows
    rw [List.mem_head?_append_of_mem_head? hfirst] at hqs
    exact hrefused ⟨qs, hqs⟩

def applyEach (b : Builder) (cs : List Call) : Builder :=
  cs.foldl (fun b c => (b.apply c).1) b

def accepted (b : Builder) : List Call → List Call
  | [] => []
  | c :: cs =>
    match b.apply c with
    | (b', .ok ()) => c :: b'.accepted cs
    | (b', .error _) => b'.accepted cs

theorem Stuck.applyEach (h : b.Stuck) (cs : List Call) : (b.applyEach cs).Stuck := by
  induction cs generalizing b with
  | nil => exact h
  | cons c cs ih => exact ih (h.apply c)

/-- What is left of a refused call. It leaves the builder as it was unless it was half done, as told by
`Halfway`, and an insert in which rows are left so is never written again, nor does it take any more
rows. -/
theorem refused_halfway (b b' : Builder) (c : Call) (e : Failure) :
    ((b.apply c = (b', .error e) ∧ b' ≠ b) ↔ (b.isSealed = false ∧ b.Halfway c e b')) ∧
    (b.kind = .insert → b.Halfway c e b' → ∀ cs,
      ¬ Outcome.Succeeds (b'.applyEach cs).compile ∧
        ∀ rows, ¬ Outcome.Succeeds ((b'.applyEach cs).apply (.values rows)).2) := by
  refine ⟨refused_and_changed_iff, fun hkind h cs => ?_⟩
  have hstuck := (h.stuck hkind).applyEach cs
  exact ⟨hstuck.compile, hstuck.values⟩

def emptyInsert : Builder :=
  ((start { dialect := .sqlite } .insert).applyAll [.source .into (.text "t") .null]).1

def reservedRow : Value :=
  .mapping [(.text "select", .int 1)]

theorem emptyInsert_halfway :
    emptyInsert.Halfway (.values reservedRow)
      (.rejected (.identifier (.text "select") (.reserved "select")))
      { emptyInsert with
        statement := { emptyInsert.statement with rows := [[("select", .int 1)]] } } :=
  .rows rfl rfl (List.cons_ne_nil _ _) ⟨_, rfl⟩ rfl rfl

/-- A refused row stays, and the next row, which is fine by itself, is refused for it. -/
theorem refused_row_is_kept :
    emptyInsert.statement.rows = [] ∧
      (emptyInsert.apply (.values reservedRow)).2.toOption.isNone ∧
      (emptyInsert.apply (.values reservedRow)).1.statement.rows = [[("select", .int 1)]] ∧
      (emptyInsert.apply (.values (.mapping [(.text "a", .int 1)]))).2 = .ok () ∧
      ((emptyInsert.apply (.values reservedRow)).1.apply
        (.values (.mapping [(.text "a", .int 1)]))).2.toOption.isNone :=
  ⟨rfl, rfl, rfl, rfl, rfl⟩

theorem refused_halfway_emptyInsert :
    ∃ b', emptyInsert.apply (.values reservedRow) =
        (b', .error (.rejected (.identifier (.text "select") (.reserved "select")))) ∧
      b' ≠ emptyInsert ∧ ¬ Outcome.Succeeds (b'.applyEach [.doNothing]).compile := by
  obtain ⟨hiff, hstuck⟩ := refused_halfway emptyInsert _ _ _
  have hleft := hiff.2 ⟨rfl, emptyInsert_halfway⟩
  exact ⟨_, hleft.1, hleft.2, (hstuck rfl emptyInsert_halfway [.doNothing]).1⟩

theorem apply_of_error (hc : c.isGradual b.kind = false) (h : (b.apply c).2 = .error e) :
    (b.apply c).1 = b := by
  show { b with statement := (b.change c).1 } = b
  rw [change_of_error hc h]

theorem applyAll_accepted (cs : List Call) (h : ∀ c ∈ cs, c.isGradual b.kind = false) :
    b.applyAll (b.accepted cs) = (b.applyEach cs, .ok ()) := by
  induction cs generalizing b with
  | nil => rfl
  | cons c cs ih =>
    have hkind : (b.apply c).1.kind = b.kind := b.apply_kind c
    have hrest := ih (b := (b.apply c).1) fun d hd => by
      rw [hkind]
      exact h d (by simp [hd])
    show b.applyAll (b.accepted (c :: cs)) = ((b.apply c).1.applyEach cs, .ok ())
    have hsame : ∀ e, (b.apply c).2 = .error e → (b.apply c).1 = b :=
      fun e => apply_of_error (h c (by simp))
    cases happly : b.apply c with
    | mk b' o =>
      rw [happly] at hrest hsame
      rw [accepted, happly]
      cases o with
      | ok u =>
        show b.applyAll (c :: b'.accepted cs) = _
        rw [applyAll, happly]
        exact hrest
      | error e =>
        obtain rfl : b' = b := hsame e rfl
        exact hrest

/-- A call that is refused leaves the builder exactly as it was, unless it is one of those that may be
half done. So refused calls count nothing in a run: what is left after all calls is what those that
ended well make. -/
theorem refused_unchanged :
    (∀ (b : Builder) (c : Call) (e : Failure), c.isGradual b.kind = false →
      (b.apply c).2 = .error e → (b.apply c).1 = b) ∧
    ∀ (b : Builder) (cs : List Call), (∀ c ∈ cs, c.isGradual b.kind = false) →
      b.applyAll (b.accepted cs) = (b.applyEach cs, .ok ()) :=
  ⟨fun _ _ _ => apply_of_error, fun _ => applyAll_accepted⟩

def interruptedCall : Call :=
  .filter (.nested .or [.compare .and .equal (.text "x") (.int 1),
    .nested .and [.between .and false (.text "y") (.int 1) (.int 2), .raises "ValueError" "stop"]])

theorem refused_unchanged_interruptedCall :
    (markedUpdate.apply interruptedCall).2 = .error (.foreign "ValueError" "stop") ∧
      (markedUpdate.apply interruptedCall).1 = markedUpdate ∧
      markedUpdate.accepted [interruptedCall, .limit (.int 1)] = [] ∧
      markedUpdate.applyAll [] = (markedUpdate.applyEach [interruptedCall, .limit (.int 1)], .ok ()) :=
  ⟨rfl, refused_unchanged.1 _ _ _ rfl rfl, rfl,
    refused_unchanged.2 markedUpdate [interruptedCall, .limit (.int 1)] fun c hc => by
      simp only [List.mem_cons, List.not_mem_nil, or_false] at hc
      rcases hc with rfl | rfl <;> rfl⟩

end Builder

end BoundSql
