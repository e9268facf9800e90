import BoundSql.Proofs.Acceptance
/-!
What calls leave alone, however they end: the kind of a statement always, its conditions unless the
call is one for conditions, and the rows that an insert has already.
-/

namespace BoundSql

namespace Call

def isConditional : Call → Bool
  | filter _ | having _ | havingRaw .. => true
  | _ => false

end Call

namespace Statement

variable {limit : Int} {s t : Statement}

structure SameConditions (s t : Statement) : Prop where
  kind : t.kind = s.kind
  filter : t.filter = s.filter
  having : t.having = s.having

theorem SameConditions.refl (s : Statement) : SameConditions s s :=
  ⟨rfl, rfl, rfl⟩

theorem addItems_eq (limit : Int) (requests : List (Outcome (Value × Value))) :
    ∃ added outcome, ∀ s : Statement,
      addItems limit s requests = ({ s with items := s.items ++ added }, outcome) := by
  induction requests with
  | nil => exact ⟨[], .ok (), fun s => by simp [addItems]⟩
  | cons request requests ih =>
    obtain ⟨added, outcome, hrest⟩ := ih
    cases hitem : request.bind fun r => selectItem limit r.1 r.2 with
    | error e => exact ⟨[], .error e, fun s => by simp [addItems, hitem]⟩
    | ok item => exact ⟨item :: added, outcome, fun s => by simp [addItems, hitem, hrest]⟩

theorem appendRows_eq (limit : Int) (s : Statement) (rows : Value) :
    ∃ added, (s.appendRows limit rows).1 = { s with rows := s.rows ++ added } := by
  unfold appendRows
  split
  · exact ⟨[], by simp⟩
  · rename_i all hall
    obtain ⟨added, -, hfit⟩ := Outcome.bind_eq_ok.1 hall
    obtain ⟨rfl, -⟩ := Row.uniform_eq_ok hfit
    exact ⟨added, rfl⟩

end Statement

namespace Builder

open Statement

variable {b : Builder} {c : Call}

theorem applyOpen_sameConditions (hc : c.isConditional = false) :
    b.statement.SameConditions (b.applyOpen c).1 := by
  have whole : ∀ {x : Outcome Statement},
      (∀ t, x = .ok t → b.statement.SameConditions t) →
        b.statement.SameConditions (Change.whole b.statement x).1 :=
    fun hx => Change.of_whole (p := b.statement.SameConditions) (.refl _) hx
  have mapped : ∀ {α : Type} {x : Outcome α} {f : α → Statement},
      (∀ a, b.statement.SameConditions (f a)) →
        b.statement.SameConditions (Change.whole b.statement (x.map f)).1 :=
    fun hf => Change.of_whole_map (p := b.statement.SameConditions) (.refl _) hf
  cases c with
  | filter | having | havingRaw => cases hc
  | source word table label =>
    refine whole fun t ht => ?_
    obtain ⟨name, other, -, -, rfl⟩ := setSource_eq_ok ht
    exact ⟨rfl, rfl, rfl⟩
  | select items =>
    obtain ⟨added, outcome, hadded⟩ := addItems_eq b.limit
      ((flattenItems items).flatMap selectRequests)
    simp only [applyOpen, Statement.select, hadded]
    exact ⟨rfl, rfl, rfl⟩
  | selectRaw expression label =>
    refine whole fun t ht => ?_
    obtain ⟨expr, other, -, -, rfl⟩ := selectRaw_eq_ok ht
    exact ⟨rfl, rfl, rfl⟩
  | join table on label kind =>
    refine whole fun t ht => ?_
    obtain ⟨j, -, -, -, rfl⟩ := addJoin_eq_ok ht
    exact ⟨rfl, rfl, rfl⟩
  | orderBy column direction =>
    refine whole fun t ht => ?_
    obtain ⟨o, -, rfl⟩ := addOrdering_eq_ok ht
    exact ⟨rfl, rfl, rfl⟩
  | values rows =>
    simp only [applyOpen]
    split
    · obtain ⟨added, hadded⟩ := appendRows_eq b.limit b.statement rows
      rw [hadded]
      exact ⟨rfl, rfl, rfl⟩
    · exact mapped fun _ => ⟨rfl, rfl, rfl⟩
  | returning columns =>
    refine whole fun t ht => ?_
    obtain ⟨names, -, rfl⟩ := setReturning_eq_ok ht
    exact ⟨rfl, rfl, rfl⟩
  | distinct | groupBy | limit | offset | set | onConflict | merge =>
    exact mapped fun _ => ⟨rfl, rfl, rfl⟩
  | doNothing => exact ⟨rfl, rfl, rfl⟩
  | unknown => exact .refl _

theorem applyFilter_kind (f : Filter) : (b.applyFilter f).1.kind = b.kind := by
  unfold applyFilter
  split
  · rfl
  · rfl
  · split <;> rfl

theorem applyOpen_kind (c : Call) : (b.applyOpen c).1.kind = b.kind := by
  by_cases hc : c.isConditional
  · have mapped : ∀ {α : Type} {x : Outcome α} {f : α → Statement}, (∀ a, (f a).kind = b.kind) →
        (Change.whole b.statement (x.map f)).1.kind = b.kind :=
      fun hf => Change.of_whole_map (p := fun t => t.kind = b.kind) rfl hf
    cases c with
    | filter f => exact applyFilter_kind f
    | having | havingRaw => exact mapped fun _ => rfl
    | _ => cases hc
  · exact (applyOpen_sameConditions (by simpa using hc)).kind

theorem change_sameConditions (hc : c.isConditional = false) :
    b.statement.SameConditions (b.change c).1 := by
  obtain ⟨e, hchange⟩ | ⟨-, hchange⟩ := b.change_cases c
  · rw [hchange]
    exact .refl _
  · rw [hchange]
    exact applyOpen_sameConditions hc

theorem apply_kind (b : Builder) (c : Call) : (b.apply c).1.kind = b.kind := by
  show (b.change c).1.kind = b.kind
  obtain ⟨e, hc⟩ | ⟨-, hc⟩ := b.change_cases c
  · rw [hc]
    rfl
  · rw [hc]
    exact applyOpen_kind c

theorem rows_prefix_of_insert (hkind : b.kind = .insert) (c : Call) :
    b.statement.rows <+: (b.apply c).1.statement.rows := by
  show b.statement.rows <+: (b.change c).1.rows
  have whole : ∀ {x : Outcome Statement}, (∀ t, x = .ok t → t.rows = b.statement.rows) →
      b.statement.rows <+: (Change.whole b.statement x).1.rows :=
    fun hx => Change.of_whole (p := fun t => b.statement.rows <+: t.rows) (List.prefix_refl _)
      fun t ht => by simp [hx t ht]
  obtain ⟨e, hc⟩ | ⟨hoffered, hc⟩ := b.change_cases c
  · simp [hc]
  · rw [hc]
    cases c with
    | filter f => cases f <;> simp [Call.offeredBy, hkind] at hoffered
    | source word table label =>
      refine whole fun t ht => ?_
      obtain ⟨name, other, -, -, rfl⟩ := setSource_eq_ok ht
      rfl
    | values rows =>
      obtain ⟨added, hadded⟩ := appendRows_eq b.limit b.statement rows
      simp only [applyOpen, hkind, ↓reduceIte, hadded]
      exact List.prefix_append _ _
    | returning columns =>
      refine whole fun t ht => ?_
      obtain ⟨names, -, rfl⟩ := setReturning_eq_ok ht
      rfl
    | _ => simp [Call.offeredBy, hkind] at hoffered

end Builder

end BoundSql
