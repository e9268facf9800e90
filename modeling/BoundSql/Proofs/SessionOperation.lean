import BoundSql.Proofs.Reservation
/-!
The operations that a session is used with, and what comes of a statement: it is refused before
anything is asked of the database, or it is run on its target.
-/

namespace BoundSql

open Session (Moves Aside)

def Query.ready (q : Query) (terminal : Terminal) : Option (Target × Compiled) :=
  if terminal.offeredBy q.builder.kind then
    match terminal.compile q.builder, q.target with
    | .ok c, some target => some (target, c)
    | _, _ => none
  else none

inductive Operation where
  | begin
  | perform (q : Query) (terminal : Terminal)
  | raw (target : Target) (sql params : Value)
  | commit (t : Nat)
  | rollback (t : Nat)

namespace Operation

def action : Operation → Action (Option Nat)
  | begin => do return some (← Action.begin)
  | perform q terminal => do
    let (_, outcome) ← ExceptT.lift (q.perform terminal)
    let _ ← Action.conclude outcome
    return none
  | raw target sql params => do
    let _ ← target.raw sql params
    return none
  | commit t => do
    Action.commit t
    return none
  | rollback t => do
    Action.rollback t
    return none

def statement (ctx : Context) : Operation → Option (Target × Compiled)
  | perform q terminal => q.ready terminal
  | raw target sql params =>
    (Target.valuesOf params >>= Target.written ctx.dialect sql).toOption.map fun c => (target, c)
  | begin | commit _ | rollback _ => none

def uses (t : Nat) : Operation → Bool
  | perform q _ => q.target == some (.transaction t)
  | raw target _ _ => target == .transaction t
  | commit u | rollback u => u == t
  | begin => false

/-- What an operation asks of a transaction, by the name under which it is refused. A statement that
does not compile asks nothing of it. -/
inductive Asks (ctx : Context) (t : Nat) : Operation → String → Prop
  | commit : Asks ctx t (commit t) "commit"
  | rollback : Asks ctx t (rollback t) "rollback"
  | execute {op : Operation} {c : Compiled} (h : op.statement ctx = some (.transaction t, c)) :
      Asks ctx t op "execute"

theorem uses_iff_of_statement {op : Operation} {ctx : Context} {target : Target} {c : Compiled}
    (h : op.statement ctx = some (target, c)) (t : Nat) : op.uses t ↔ target = .transaction t := by
  cases op with
  | begin | commit | rollback => cases h
  | perform q terminal =>
    simp only [statement, Query.ready] at h
    split at h
    · split at h
      · rename_i htarget
        cases h
        simp [uses, htarget]
      · cases h
    · cases h
  | raw target sql params =>
    obtain ⟨c, -, h⟩ := Option.map_eq_some_iff.1 h
    cases h
    simp [uses]

end Operation

/-- How a statement goes: it is refused before anything is asked, or it is run on its target. -/
inductive Leads (s : Session) :
    Option (Target × Compiled) → Outcome (Option Nat) × Session → Prop
  | refused {r : Outcome (Option Nat) × Session} (es : List Event) (e : Failure) (hes : Silent es)
      (hr : r = (.error e, s.extend es)) : Leads s none r
  | run {r : Outcome (Option Nat) × Session} {target : Target} {c : Compiled} (es : List Event)
      (f : List Record → Outcome (Option Nat)) (hes : Silent es)
      (hr : r = (((target.run c).exec (s.extend es)).1.bind f,
        ((target.run c).exec (s.extend es)).2)) : Leads s (some (target, c)) r

namespace Query

open BoundSql.Action

theorem exec_prepare (q : Query) (terminal : Terminal) (s : Session) :
    ∃ es o, Silent es ∧ (q.prepare terminal).exec s = (o, s.extend es) ∧
      q.ready terminal = o.toOption.map Prod.swap := by
  unfold prepare ready
  cases terminal.offeredBy q.builder.kind with
  | false =>
    refine ⟨[], .error (.misuse .noMethod), silent_nil, ?_, rfl⟩
    rw [Session.extend_nil]
    rfl
  | true =>
    cases terminal.compile q.builder with
    | error e =>
      refine ⟨[], .error e, silent_nil, ?_, rfl⟩
      rw [Session.extend_nil]
      rfl
    | ok c =>
      cases terminal.isNoted q.builder with
      | true =>
        cases q.target with
        | none => exact ⟨_, .error (.configuration .executorMissing), silent_noted _, rfl, rfl⟩
        | some target => exact ⟨_, .ok (c, target), silent_noted _, rfl, rfl⟩
      | false =>
        refine ⟨[], ?_⟩
        rw [Session.extend_nil]
        cases q.target with
        | none => exact ⟨.error (.configuration .executorMissing), silent_nil, rfl, rfl⟩
        | some target => exact ⟨.ok (c, target), silent_nil, rfl, rfl⟩

end Query

namespace Operation

open BoundSql.Action

theorem exec_perform (q : Query) (terminal : Terminal) (s : Session) :
    (perform q terminal).action.exec s =
      (((q.perform terminal).run s).1.2.map fun _ => none, ((q.perform terminal).run s).2) := by
  have hlift : exec (ExceptT.lift (q.perform terminal)) s =
      (.ok ((q.perform terminal).run s).1, ((q.perform terminal).run s).2) := rfl
  unfold action
  rw [exec_bind_ok hlift]
  generalize (q.perform terminal).run s = r
  obtain ⟨⟨q', o⟩, s'⟩ := r
  cases o <;> rfl

theorem perform_leads (q : Query) (terminal : Terminal) (s : Session) :
    Leads s (q.ready terminal) ((perform q terminal).action.exec s) := by
  obtain ⟨es, o, hes, hrun, hready⟩ := q.exec_prepare terminal s
  have hprepare : (q.prepare terminal).run.run s = (o, s.extend es) := hrun
  rw [hready, exec_perform]
  unfold Query.perform
  rw [StateT.run_bind, hprepare]
  cases o with
  | error e => exact .refused es e hes rfl
  | ok p =>
    obtain ⟨c, target⟩ := p
    refine .run es (fun rs => (terminal.read rs).map fun _ => none) hes ?_
    refine Prod.ext ?_ rfl
    exact Outcome.map_do ((target.run c).exec (s.extend es)).1 (fun rs => terminal.read rs) fun _ => none

theorem raw_leads (target : Target) (sql params : Value) (s : Session) :
    Leads s ((raw target sql params).statement s.context) ((raw target sql params).action.exec s) := by
  unfold action Target.raw statement
  dsimp only
  rw [exec_bind, exec_bind_ok (exec_get s)]
  cases Target.valuesOf params with
  | error e =>
    refine .refused [] e silent_nil ?_
    rw [Session.extend_nil]
    rfl
  | ok values =>
    rw [Outcome.do_ok rfl, exec_bind_ok (exec_conclude (.ok values) s)]
    cases Target.written s.context.dialect sql values with
    | error e =>
      refine .refused [] e silent_nil ?_
      rw [Session.extend_nil]
      rfl
    | ok c =>
      rw [exec_bind_ok (exec_conclude (.ok c) s)]
      refine .run [] (fun _ => .ok none) silent_nil ?_
      rw [Session.extend_nil]
      generalize (target.run c).exec s = r
      obtain ⟨o, s'⟩ := r
      cases o <;> rfl

theorem leads_of_statement {op : Operation} {s : Session} {target : Target} {c : Compiled}
    (h : op.statement s.context = some (target, c)) :
    Leads s (some (target, c)) (op.action.exec s) := by
  rw [← h]
  cases op with
  | begin | commit | rollback => cases h
  | perform q terminal => exact perform_leads q terminal s
  | raw target sql params => exact raw_leads target sql params s

end Operation

namespace Target

open BoundSql.Action

variable {s : Session} {t : Nat} {x : Transaction}

theorem run_database_aside (hs : s.driver.Sane) (c : Compiled) :
    ∃ ss, Aside ss s ((database.run c).exec s).2 ∧
      ∀ p ∈ ss, p.1.Fresh s ((database.run c).exec s).2 := by
  obtain ⟨es, fs, hes, hfs, hrun⟩ := exec_runThrough database.send c s
  obtain ⟨ss, haside, hfresh⟩ := executeAnywhere_aside (s := s.extend es) hs c.sql c.params
  unfold run
  rw [hrun]
  have hall := ((Session.aside_extend hes.signs s).trans haside).trans
    (Session.aside_extend hfs.signs _)
  rw [List.nil_append, List.append_nil] at hall
  exact ⟨ss, hall, hfresh⟩

theorem run_transaction_leaves (hx : s.transactions[t]? = some x) (ha : x.phase = .active)
    (c : Compiled) : Leaves [(x.lease, .sent c.sql)] s (((transaction t).run c).exec s) :=
  runThrough_leaves fun s' hs' => executeIn_leaves (by rw [hs', hx]) ha c.sql c.params

theorem exec_run_ended (hx : s.transactions[t]? = some x) (hp : x.phase ≠ .active) (c : Compiled) :
    ∃ es, Silent es ∧
      ((transaction t).run c).exec s = (.error (.finished "execute" x.phase), s.extend es) := by
  refine exec_runThrough_own rfl fun es => ?_
  exact exec_executeIn_of_ne (s := s.extend es) hx hp c.sql c.params

theorem exec_run_unknown (hx : s.transactions[t]? = none) (c : Compiled) :
    ∃ es, Silent es ∧
      ((transaction t).run c).exec s = (.error (.configuration .executorMissing), s.extend es) := by
  exact exec_runThrough_own rfl fun es => exec_bind_error (exec_transaction_of_none hx)

end Target

end BoundSql
