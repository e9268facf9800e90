import BoundSql.Proofs.DerivedQuery
import Mathlib.Data.List.Dedup
/-!
The rows that a select statement gives. Its sources give rows and its condition keeps some of them;
groups are made of these, and the condition on groups keeps some of the groups. Every row or group that
is left gives a record. Against this the counts of statements are held.
-/

namespace BoundSql

/-- Data over which statements are run, and what the texts of clauses say of it. The conditions read
the values of the whole statement. A record is made of a group; where no groups are made, every row is
one of its own. -/
structure Tables (α κ : Type) where
  source : Text → List Text → List α
  holds : Text → List Value → α → Bool
  key : List Text → α → κ
  holdsOf : Text → List Value → List α → Bool
  isAggregate : Text → Bool
  entries : Text → List α → Record
  alike : Record → Record → Bool
  arrange : List Text → List (List α) → List (List α)
  arrange_perm : ∀ names groups, (arrange names groups).Perm groups
  count_isAggregate : isAggregate (countItem ['*'])
  entries_count : ∀ g, entries (countItem ['*']) g = [(.text Terminal.countColumn, .int g.length)]

section Rows

variable {α κ : Type} [DecidableEq κ] (D : Tables α κ)

namespace SelectParts

variable (p : SelectParts)

def found : List α :=
  (D.source p.source p.joins).filter fun a =>
    p.filter.sql.isEmpty || D.holds p.filter.sql p.params a

/-- The rows with one key make up a group. Without keys all rows are one group, be it an empty one. -/
def allGroups : List (List α) :=
  if p.grouping.isEmpty then [p.found D]
  else
    ((p.found D).map (D.key p.grouping)).dedup.map fun k =>
      (p.found D).filter fun a => D.key p.grouping a = k

def holdsOf (g : List α) : Bool :=
  p.having.sql.isEmpty || D.holdsOf p.having.sql p.params g

/-- Groups are made for keys, for a condition on groups, and for an entry that tells of groups. -/
def makesGroups : Bool :=
  !p.grouping.isEmpty || !p.having.sql.isEmpty || p.items.any D.isAggregate

def groups : List (List α) :=
  if p.makesGroups D then (p.allGroups D).filter (p.holdsOf D)
  else (p.found D).map fun a => [a]

def record (g : List α) : Record :=
  (if p.items.isEmpty then [['*']] else p.items).flatMap fun item => D.entries item g

def page (records : List Record) : List Record :=
  let rest := records.drop (p.offset.getD 0)
  match p.limit with
  | none => rest
  | some n => rest.take n

def rows : List Record :=
  let records := (D.arrange p.ordering (p.groups D)).map (p.record D)
  p.page (if p.distinct then records.eraseDupsBy D.alike else records)

end SelectParts

inductive RowQuery where
  | select (p : SelectParts)
  | count (p : SelectParts)

namespace RowQuery

def written (d : Dialect) : RowQuery → Text
  | select p => (p.written d).text
  | count p => countWhole ['*'] (p.written d).text

def params : RowQuery → List Value
  | select p | count p => p.params

def rows : RowQuery → List Record
  | select p => p.rows D
  | count p => [[(.text Terminal.countColumn, .int (p.rows D).length)]]

end RowQuery

def SelectParts.counter (p : SelectParts) : RowQuery :=
  if p.distinct || !p.grouping.isEmpty then .count p else .select (p.counting ['*'])

theorem Value.same_text (s : String) : Value.same (.text s) (.text s) = true := by
  simp [Value.same, Value.sameScalar, Value.magnitude?]

theorem Value.whole_int (n : Int) : (Value.int n).whole = .ok n := by
  have hwhole : (Value.int n).whole = .ok ((n * 1).tdiv 1) := rfl
  rw [hwhole, Int.mul_one, Int.tdiv_one]

theorem Terminal.countIn_single (n : Int) :
    Terminal.countIn [[(.text Terminal.countColumn, .int n)]] = .ok n := by
  have hfound : Value.lookup? (.text countColumn) [(.text countColumn, .int n)] = some (.int n) := by
    simp [Value.lookup?, Value.same_text]
  rw [countIn, hfound]
  exact Value.whole_int n

namespace SelectParts

variable {D} {p : SelectParts}

theorem length_rows (hdistinct : p.distinct = false) (hlimit : p.limit = none)
    (hoffset : p.offset = none) : (p.rows D).length = (p.groups D).length := by
  simp [rows, page, hdistinct, hlimit, hoffset, (D.arrange_perm _ _).length_eq]

section InPlace

variable (hgrouping : p.grouping = [])
include hgrouping

theorem groups_counting (target : Text) (h : D.isAggregate (countItem target)) :
    (p.counting target).groups D = [p.found D].filter (p.holdsOf D) := by
  have hmakes : (p.counting target).makesGroups D = true := by
    simp [makesGroups, counting, h]
  have hall : (p.counting target).allGroups D = [p.found D] := by
    simp only [allGroups, counting, hgrouping]
    rfl
  rw [groups, if_pos hmakes, hall]
  rfl

theorem rows_counting (hdistinct : p.distinct = false) :
    (p.counting ['*']).rows D =
      if p.holdsOf D (p.found D) then [[(.text Terminal.countColumn, .int (p.found D).length)]]
      else [] := by
  have hgroups := groups_counting (D := D) hgrouping ['*'] D.count_isAggregate
  have hrecord (g : List α) : (p.counting ['*']).record D g =
      [(.text Terminal.countColumn, .int g.length)] := by
    show [countItem ['*']].flatMap (fun item => D.entries item g) = _
    rw [List.flatMap_singleton, D.entries_count]
  have hrows : (p.counting ['*']).rows D =
      (D.arrange [] ((p.counting ['*']).groups D)).map ((p.counting ['*']).record D) := by
    simp only [rows, page, counting, hdistinct]
    rfl
  rw [hrows, hgroups]
  by_cases hholds : p.holdsOf D (p.found D) = true
  · have hone := D.arrange_perm [] [p.found D]
    simp [hholds, List.perm_singleton.1 hone, hrecord]
  · have hnone := D.arrange_perm [] []
    simp [hholds, List.perm_nil.1 hnone]

theorem groups_of_rows (hitems : ∀ item ∈ p.items, D.isAggregate item = false)
    (hhaving : p.having.sql = []) : (p.groups D).length = (p.found D).length := by
  have hmakes : p.makesGroups D = false := by
    simpa [makesGroups, hgrouping, hhaving] using hitems
  rw [groups, if_neg (by simp [hmakes]), List.length_map]

theorem groups_of_all (hhaving : p.having.sql ≠ []) :
    p.groups D = [p.found D].filter (p.holdsOf D) := by
  have hmakes : p.makesGroups D = true := by
    simp [makesGroups, hhaving]
  rw [groups, if_pos hmakes, allGroups, hgrouping]
  rfl

end InPlace

variable (D p) in
/-- A count in place goes wrong where a condition on groups holds of all rows that are found, which
are then one record: the condition keeps them all, and they are counted one by one. -/
def CountsRows : Prop :=
  p.distinct ∨ p.grouping ≠ [] ∨ p.having.sql = [] ∨ p.holdsOf D (p.found D) = false ∨
    (p.found D).length = 1

/-- What the count of a statement gives, against the number of its rows. -/
theorem countIn_counter (hlimit : p.limit = none) (hoffset : p.offset = none)
    (hitems : ∀ item ∈ p.items, D.isAggregate item = false) :
    ∃ n : Nat, Terminal.countIn (p.counter.rows D) = .ok n ∧
      (p.CountsRows D → n = (p.rows D).length) ∧
      (¬ p.CountsRows D → n = (p.found D).length ∧ n ≠ 1 ∧ (p.rows D).length = 1) := by
  by_cases hwhole : p.distinct || !p.grouping.isEmpty
  · have hcounts : p.CountsRows D := by
      rcases Bool.or_eq_true_iff.1 hwhole with hdistinct | hgrouping
      · exact .inl hdistinct
      · exact .inr (.inl fun h => by simp [h] at hgrouping)
    rw [counter, if_pos hwhole]
    exact ⟨_, Terminal.countIn_single _, fun _ => rfl, fun h => absurd hcounts h⟩
  · obtain ⟨hdistinct, hgrouping⟩ : p.distinct = false ∧ p.grouping = [] := by
      simpa using hwhole
    have hrows := length_rows (D := D) hdistinct hlimit hoffset
    rw [counter, if_neg hwhole]
    simp only [RowQuery.rows]
    rw [rows_counting hgrouping hdistinct, hrows]
    by_cases hhaving : p.having.sql = []
    · have hholds : p.holdsOf D (p.found D) = true := by simp [holdsOf, hhaving]
      rw [if_pos hholds]
      exact ⟨_, Terminal.countIn_single _,
        fun _ => (groups_of_rows hgrouping hitems hhaving).symm,
        fun h => absurd (.inr (.inr (.inl hhaving))) h⟩
    · -- All rows that are found are one group, which the condition keeps or not.
      rw [groups_of_all hgrouping hhaving]
      by_cases hholds : p.holdsOf D (p.found D) = true
      · rw [if_pos hholds]
        refine ⟨_, Terminal.countIn_single _, fun h => ?_, fun h => ⟨rfl, fun hone => ?_, ?_⟩⟩
        · simpa [CountsRows, hdistinct, hgrouping, hhaving, hholds] using h
        · exact h (.inr (.inr (.inr (.inr hone))))
        · simp [hholds]
      · rw [if_neg hholds]
        refine ⟨0, rfl, fun _ => by simp [hholds], fun h => ?_⟩
        exact absurd (.inr (.inr (.inr (.inl (by simpa using hholds))))) h

end SelectParts

end Rows

namespace Builder

variable {b : Builder} {p : SelectParts} {c : Compiled}

theorem compileCount_eq_counter (hkind : b.kind = .select)
    (hparts : b.statement.selectParts b.context = .ok p) :
    b.compileCount (.text "*") =
      if b.statement.countsAsWhole ∨ 5 ≤ b.limit then
        .ok { sql := p.counter.written b.context.dialect, params := p.counter.params,
              dialect := b.context.dialect }
      else reject (.identifier (.text "count") (.tooLong b.limit)) := by
  have hstar : Statement.countTarget b.context (.text "*") = .ok ['*'] := rfl
  have hwhole := Statement.countsAsWhole_eq (Statement.hasParts_of_selectParts hparts)
  unfold compileCount SelectParts.counter
  rw [← hwhole]
  cases hcounts : b.statement.countsAsWhole with
  | true =>
    rw [Statement.compileCount_whole hkind hparts hstar hcounts]
    simp only [true_or, if_true]
    rfl
  | false =>
    obtain ⟨hdistinct, -⟩ : p.distinct = false ∧ p.grouping = [] := by
      simpa [hcounts] using hwhole
    rw [Statement.compileCount_in_place hkind hparts hstar hcounts]
    by_cases hlimit : 5 ≤ b.limit
    · have hfits : ¬ b.context.limit < 5 := by
        unfold limit at hlimit
        omega
      rw [if_neg hfits, if_pos (.inr hlimit)]
      simp only [Bool.false_eq_true, if_false, RowQuery.written,
        Statement.written_counting (Statement.countTarget_plain hstar) hdistinct]
      rfl
    · have hlong : b.context.limit < 5 := by
        unfold limit at hlimit
        omega
      rw [if_pos hlong, if_neg (by simp [hlimit])]
      rfl

/-- A count of all rows gives their number, whatever the data, but where a condition on groups is put
on all rows together and holds of them: there is one row then, and the rows that make it up are
counted. -/
theorem count_of_rows (hkind : b.kind = .select) (h : b.compile = .ok c)
    (hlimit : b.statement.limit = none) (hoffset : b.statement.offset = none) :
    ∃ p, b.statement.selectParts b.context = .ok p ∧
      c.sql = (RowQuery.select p).written b.context.dialect ∧
      c.params = (RowQuery.select p).params ∧
      (b.compileCount (.text "*") =
        if b.statement.countsAsWhole ∨ 5 ≤ b.limit then
          .ok { sql := p.counter.written b.context.dialect, params := p.counter.params,
                dialect := b.context.dialect }
        else reject (.identifier (.text "count") (.tooLong b.limit))) ∧
      ∀ (α κ : Type) [DecidableEq κ] (D : Tables α κ),
        (∀ item ∈ p.items, D.isAggregate item = false) →
          ∃ n : Nat, Terminal.countIn (p.counter.rows D) = .ok n ∧
            (p.CountsRows D → n = (p.rows D).length) ∧
            (¬ p.CountsRows D → n = (p.found D).length ∧ n ≠ 1 ∧ (p.rows D).length = 1) := by
  obtain ⟨p, hp⟩ := derives_of_compile hkind h
  have hparts := Statement.hasParts_of_selectParts hp.parts
  exact ⟨p, hp.parts, hp.text, hp.params, compileCount_eq_counter hkind hp.parts,
    fun _ _ _ _ hitems => SelectParts.countIn_counter (hparts.limit.trans hlimit)
      (hparts.offset.trans hoffset) hitems⟩

def threeRows : Tables Nat Unit where
  source _ _ := [1, 2, 3]
  holds _ _ _ := true
  key _ _ := ()
  holdsOf _ params g := params.all fun v => match v with
    | .int n => decide (n < g.length)
    | _ => false
  isAggregate item := "COUNT(".toList.isPrefixOf item
  entries item g :=
    if "COUNT(".toList.isPrefixOf item then [(.text Terminal.countColumn, .int g.length)]
    else [(.text "one", .int 1)]
  alike _ _ := true
  arrange _ groups := groups
  arrange_perm _ groups := .refl groups
  count_isAggregate := by decide
  entries_count _ := if_pos (by decide)

def allTasks : Builder :=
  ((start { dialect := .sqlite } .select).applyAll [.source .from_ (.text "tasks") .null]).1

theorem count_of_rows_allTasks :
    ∃ c p, allTasks.compile = .ok c ∧ allTasks.statement.selectParts allTasks.context = .ok p ∧
      Outcome.Succeeds (allTasks.compileCount (.text "*")) ∧
      Terminal.countIn (p.counter.rows threeRows) = .ok 3 ∧ (p.rows threeRows).length = 3 := by
  obtain ⟨c, hc⟩ : Outcome.Succeeds allTasks.compile := ⟨_, rfl⟩
  obtain ⟨p, hp, -, -, hcount, hvalue⟩ := count_of_rows rfl hc rfl rfl
  have hparts : p = { distinct := false, items := [], source := "\"tasks\"".toList, joins := [],
                      filter := { sql := [], params := [] }, grouping := [],
                      having := { sql := [], params := [] }, ordering := [], limit := none,
                      offset := none } :=
    Except.ok.inj (hp.symm.trans rfl)
  subst hparts
  obtain ⟨n, hn, hrows, -⟩ := hvalue Nat Unit threeRows nofun
  obtain rfl : n = 3 := hrows (.inr (.inr (.inl rfl)))
  refine ⟨c, _, hc, hp, ⟨_, hcount.trans (if_pos (.inr (by decide)))⟩, hn, rfl⟩

def bigTable : Builder :=
  ((start { dialect := .postgres } .select).applyAll
    [.source .from_ (.text "t") .null, .selectRaw (.text "1") .null,
      .havingRaw (.text "COUNT(*) > ?") (.list [.int 2])]).1

theorem bigTable_parts : bigTable.statement.selectParts bigTable.context = .ok {
    distinct := false, items := [['1']], source := "\"t\"".toList, joins := [],
    filter := { sql := [], params := [] }, grouping := [],
    having := { sql := "COUNT(*) > $1".toList, params := [.int 2] }, ordering := [],
    limit := none, offset := none } := rfl

/-- One record, which is counted as three. -/
theorem count_misses_bigTable :
    ∃ c p, bigTable.compile = .ok c ∧ bigTable.statement.selectParts bigTable.context = .ok p ∧
      bigTable.statement.limit = none ∧ bigTable.statement.offset = none ∧
      (∀ item ∈ p.items, threeRows.isAggregate item = false) ∧
      (p.rows threeRows).length = 1 ∧
      bigTable.compileCount (.text "*") = .ok {
        sql := p.counter.written .postgres, params := p.counter.params, dialect := .postgres } ∧
      Terminal.countIn (p.counter.rows threeRows) = .ok 3 := by
  have hcount := compileCount_eq_counter rfl bigTable_parts
  exact ⟨_, _, Statement.compile_of_parts rfl bigTable_parts, bigTable_parts, rfl, rfl, by decide, rfl,
    hcount.trans (if_pos (.inr (by decide))), Terminal.countIn_single 3⟩

end Builder

end BoundSql
