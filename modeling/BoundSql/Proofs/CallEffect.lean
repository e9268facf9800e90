import BoundSql.Builder.Basic
import BoundSql.Proofs.Outcome
/-!
What single calls change of a statement when they end well: one part, and what it is made of. Every
other part is as it was, and all of them are when a call is turned away before it begins.
-/

namespace BoundSql

namespace Change

variable {s : Statement} {x : Outcome Statement} {e : Failure}

theorem whole_of_ok (h : (whole s x).2 = .ok ()) : x = .ok (whole s x).1 := by
  cases x with
  | error e => cases h
  | ok t => rfl

theorem whole_eq_ok {t : Statement} : whole s x = (t, .ok ()) ↔ x = .ok t := by
  cases x <;> simp [whole]

theorem whole_of_error (h : (whole s x).2 = .error e) : (whole s x).1 = s := by
  cases x with
  | error e' => rfl
  | ok t => cases h

end Change

namespace Statement

variable {limit : Int} {s t : Statement}

theorem setSource_eq_ok {table other : Value} (h : s.setSource limit table other = .ok t) :
    ∃ name label, Identifier.nameOf limit table = .ok name ∧ optionalName limit other = .ok label ∧
      t = { s with table := some name, «alias» := label } := by
  unfold setSource at h
  obtain ⟨name, hname, h⟩ := Outcome.do_eq_ok.1 h
  obtain ⟨label, hlabel, h⟩ := Outcome.do_eq_ok.1 h
  cases h
  exact ⟨name, label, hname, hlabel, rfl⟩

theorem selectRaw_eq_ok {expression other : Value} (h : s.selectRaw limit expression other = .ok t) :
    ∃ expr label, SqlFragment.check "SELECT" expression = .ok expr ∧
      optionalName limit other = .ok label ∧
      t = { s with items := s.items ++ [{ expr, «alias» := label, raw := true }] } := by
  unfold selectRaw at h
  obtain ⟨expr, hexpr, h⟩ := Outcome.do_eq_ok.1 h
  obtain ⟨label, hlabel, h⟩ := Outcome.do_eq_ok.1 h
  cases h
  exact ⟨expr, label, hexpr, hlabel, rfl⟩

theorem addJoin_eq_ok {table on other kind : Value} (h : s.addJoin limit table on other kind = .ok t) :
    ∃ j : Join, Identifier.nameOf limit table = .ok j.table ∧
      optionalName limit other = .ok j.alias ∧ SqlFragment.check "JOIN" on = .ok j.on ∧
      t = { s with joins := s.joins ++ [j] } := by
  unfold addJoin at h
  obtain ⟨name, hname, h⟩ := Outcome.do_eq_ok.1 h
  obtain ⟨label, hlabel, h⟩ := Outcome.do_eq_ok.1 h
  obtain ⟨condition, hcondition, h⟩ := Outcome.do_eq_ok.1 h
  obtain ⟨word, -, h⟩ := Outcome.do_eq_ok.1 h
  obtain ⟨joinKind, -, h⟩ := Outcome.do_eq_ok.1 h
  cases h
  exact ⟨_, hname, hlabel, hcondition, rfl⟩

theorem addOrdering_eq_ok {column direction : Value}
    (h : s.addOrdering limit column direction = .ok t) :
    ∃ o : Ordering, Identifier.nameOf limit column = .ok o.column ∧
      t = { s with ordering := s.ordering ++ [o] } := by
  unfold addOrdering at h
  obtain ⟨name, hname, h⟩ := Outcome.do_eq_ok.1 h
  obtain ⟨d, -, h⟩ := Outcome.do_eq_ok.1 h
  cases h
  exact ⟨_, hname, rfl⟩

theorem setReturning_eq_ok {columns : List Value} (h : s.setReturning limit columns = .ok t) :
    ∃ names, (names = ["*"] ∨ columns.mapM (returnedName limit) = .ok names) ∧
      t = { s with returning := names } := by
  unfold setReturning at h
  split at h
  · cases h
    exact ⟨["*"], .inl rfl, rfl⟩
  · obtain ⟨names, hnames, rfl⟩ := Outcome.map_eq_ok.1 h
    exact ⟨names, .inr hnames, rfl⟩

theorem writableRow_data {data : Value} {row : Row} (h : writableRow limit data = .ok row) :
    Row.ofValue data = .ok row ∧
      Outcome.Succeeds (row.columns.mapM (Identifier.quoteName limit)) := by
  unfold writableRow at h
  obtain ⟨r, hr, h⟩ := Outcome.do_eq_ok.1 h
  obtain ⟨qs, hqs, h⟩ := Outcome.do_eq_ok.1 h
  cases h
  exact ⟨hr, qs, hqs⟩

end Statement

namespace Group

def adding (g : Group) (added : Option Node) : Group :=
  added.elim g g.push

theorem add_eq (limit : Int) (g : Group) (f : Filter) :
    g.add limit f = (f.node limit).map g.adding := by
  unfold add
  refine congrArg (fun m => (f.node limit).map m) (funext fun added => ?_)
  cases added <;> rfl

end Group

namespace Builder

variable {b : Builder} {c : Call}

theorem change_cases (b : Builder) (c : Call) :
    (∃ e, b.change c = (b.statement, .error e)) ∨
      (c.offeredBy b.kind ∧ b.change c = b.applyOpen c) := by
  unfold change
  split
  · exact .inl ⟨_, rfl⟩
  · rename_i hnot
    have hoffered : c.offeredBy b.kind := by simpa using hnot
    cases c with
    | filter f => exact .inr ⟨hoffered, rfl⟩
    | _ =>
      dsimp only
      split
      · exact .inl ⟨_, rfl⟩
      · exact .inr ⟨hoffered, rfl⟩

theorem change_of_ok (h : (b.change c).2 = .ok ()) :
    c.offeredBy b.kind ∧ b.change c = b.applyOpen c := by
  obtain ⟨e, hc⟩ | hc := b.change_cases c
  · rw [hc] at h
    cases h
  · exact hc

theorem applyOpen_of_apply_ok {b' : Builder} (h : b.apply c = (b', .ok ())) :
    b.applyOpen c = (b'.statement, .ok ()) := by
  have hok : (b.change c).2 = .ok () := congrArg Prod.snd h
  have hstatement : (b.change c).1 = b'.statement := congrArg (fun r => r.1.statement) h
  rw [← (change_of_ok hok).2]
  exact Prod.ext hstatement hok

theorem applyAll_cons_eq_ok {b' : Builder} {cs : List Call} :
    b.applyAll (c :: cs) = (b', .ok ()) ↔
      ∃ b₁, b.apply c = (b₁, .ok ()) ∧ b₁.applyAll cs = (b', .ok ()) := by
  rw [applyAll]
  generalize b.apply c = r
  obtain ⟨b₁, outcome⟩ := r
  cases outcome <;> simp

theorem applyFilter_eq_ok {f : Filter} {t : Statement} :
    b.applyFilter f = (t, .ok ()) ↔
      ∃ added, f.node b.limit = .ok added ∧ (b.isSealed → added = none) ∧
        t = { b.statement with filter := b.statement.filter.adding added } := by
  unfold applyFilter
  constructor
  · intro h
    cases hnode : f.node b.limit with
    | error e =>
      rw [hnode] at h
      cases congrArg Prod.snd h
    | ok added =>
      rw [hnode] at h
      cases added with
      | none => exact ⟨none, rfl, fun _ => rfl, (congrArg Prod.fst h).symm⟩
      | some n =>
        dsimp only at h
        split at h
        · cases congrArg Prod.snd h
        · rename_i hopen
          exact ⟨some n, rfl, fun hsealed => absurd hsealed hopen, (congrArg Prod.fst h).symm⟩
  · rintro ⟨added, hnode, hopen, rfl⟩
    rw [hnode]
    cases added with
    | none => rfl
    | some n => exact if_neg fun hsealed => by cases hopen hsealed

theorem applyFilter_of_ok {f : Filter} (h : (b.applyFilter f).2 = .ok ()) :
    ∃ g, b.statement.filter.add b.limit f = .ok g ∧
      (b.applyFilter f).1 = { b.statement with filter := g } := by
  obtain ⟨added, hadded, -, hstatement⟩ := applyFilter_eq_ok.1 (Prod.ext rfl h)
  exact ⟨_, by rw [Group.add_eq, hadded]; rfl, hstatement⟩

end Builder

end BoundSql
