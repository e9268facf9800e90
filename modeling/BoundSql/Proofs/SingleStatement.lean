import BoundSql.Proofs.HandedStatement
import BoundSql.Proofs.Sealing
/-!
Errands: what a session is used for with a single statement. An errand is refused before anything is
asked of the database, or its statement is handed over to be run. It is handed over once, whatever comes
of it, and the failure of a driver is told together with the statement that was sent.
-/

namespace BoundSql

inductive Errand where
  | perform (q : Query) (terminal : Terminal)
  | raw (target : Target) (sql params : Value)
  | hasTable (target : Target) (table schema : Value)
  | dropTable (target : Target) (table cascade : Value)
  | truncate (target : Target) (table cascade : Value)

def Query.toRun (q : Query) (terminal : Terminal) : Outcome (Target × Compiled) := do
  if !terminal.offeredBy q.builder.kind then throw (.misuse .noMethod)
  let c ← terminal.compile q.builder
  match q.target with
  | some target => return (target, c)
  | none => throw (.configuration .executorMissing)

namespace Errand

/-- Only some errands have a reply. -/
def action : Errand → Action (Option Reply)
  | perform q terminal => do
    let (_, outcome) ← ExceptT.lift (q.perform terminal)
    return some (← Action.conclude outcome)
  | raw target sql params => do return some (.rows (← target.raw sql params))
  | hasTable target table schema => do return some (.truth (← target.hasTable table schema))
  | dropTable target table cascade => do
    target.dropTable table cascade
    return none
  | truncate target table cascade => do
    target.truncate table cascade
    return none

def statement (ctx : Context) : Errand → Outcome (Target × Compiled)
  | perform q terminal => q.toRun terminal
  | raw target sql params => do
    let values ← Target.valuesOf params
    return (target, ← Target.written ctx.dialect sql values)
  | hasTable target table schema => do
    let _ ← Identifier.quoteValue ctx.limit table
    let (sql, params) := ctx.dialect.tableProbe table schema
    return (target, { sql := ctx.dialect.render sql, params, dialect := ctx.dialect })
  | dropTable target table cascade => do
    let quoted ← Identifier.quoteValue ctx.limit table
    let sql := ctx.dialect.dropTable quoted cascade.truthy
    return (target, { sql := ctx.dialect.render sql, params := [], dialect := ctx.dialect })
  | truncate target table cascade => do
    let quoted ← Identifier.quoteValue ctx.limit table
    let sql := ctx.dialect.truncate quoted cascade.truthy
    return (target, { sql := ctx.dialect.render sql, params := [], dialect := ctx.dialect })

def read (rs : List Record) : Errand → Outcome (Option Reply)
  | perform _ terminal => (terminal.read rs).map some
  | raw .. => .ok (some (.rows rs))
  | hasTable .. => .ok (some (.truth !rs.isEmpty))
  | dropTable .. | truncate .. => .ok none

end Errand

def Event.handover? : Event → Option Text
  | .noted (.executing mark _) => some mark.sql
  | _ => none

def handovers (es : List Event) : List Text :=
  es.filterMap Event.handover?

@[simp] theorem handovers_append (es fs : List Event) :
    handovers (es ++ fs) = handovers es ++ handovers fs :=
  List.filterMap_append

@[simp] theorem handovers_nil : handovers [] = [] := rfl

theorem Event.IsOpening.handover_eq_none {e : Event} (h : e.IsOpening) : e.handover? = none := by
  cases e with
  | asked r => rfl
  | noted n =>
    cases n with
    | executing => exact h.elim
    | _ => rfl

theorem handovers_frame : Session.Frame (fun e => e.handover? = none)
    fun s s' => handovers s'.log = handovers s.log where
  refl _ := rfl
  trans h h' := h'.trans h
  happen s e he := by simp [Session.extend, handovers, he]
  driver _ _ := rfl
  connections _ _ := rfl
  transactions _ _ _ := rfl

namespace Action

def Quiet {α : Type} (x : Action α) : Prop :=
  ∀ s : Session, handovers (x.exec s).2.log = handovers s.log

end Action

namespace Target

open BoundSql.Action

theorem quiet_send (target : Target) (sql : Text) (params : List Value) :
    Quiet (target.send sql params) :=
  handovers_frame.send (fun _ => rfl) sql params (fun _ he => he.handover_eq_none) target

end Target

/-- What is told of a statement that was sent: its rows, or its failure. The failures that the library
knows and interruptions are told as they are, and any other one with the statement. -/
def Compiled.told (c : Compiled) (sent : Outcome (List Record)) : Outcome (List Record) :=
  sent.mapError fun e => if e.isOwn || !e.isOrdinary then e else .execution c.sql c.params e

namespace Target

open BoundSql.Action

theorem exec_run (target : Target) (c : Compiled) (s : Session) :
    ∃ es fs, Silent es ∧ handovers es = [c.sql] ∧ handovers fs = [] ∧
      (target.run c).exec s =
        (c.told ((target.send c.sql c.params).exec (s.extend es)).1,
          ((target.send c.sql c.params).exec (s.extend es)).2.extend fs) := by
  obtain ⟨m, hm, hsql⟩ : ∃ m, (mark c).exec s = (.ok m, s) ∧ m.sql = c.sql := ⟨_, rfl, rfl⟩
  unfold run runThrough
  rw [exec_bind_ok hm, exec_bind_ok (exec_note _ _), exec_bind, exec_attempt]
  refine ⟨[.noted (.executing m c.params.length)], ?_⟩
  generalize (target.send c.sql c.params).exec (s.extend [.noted (.executing m c.params.length)]) = r
  have hover : handovers [.noted (.executing m c.params.length)] = [c.sql] := by
    simp [handovers, Event.handover?, hsql]
  obtain ⟨o, s'⟩ := r
  cases o with
  | ok rows => exact ⟨_, silent_noted _, hover, rfl, rfl⟩
  | error e =>
    simp only [Compiled.told, Except.mapError]
    split
    · exact ⟨[], silent_noted _, hover, rfl, by rw [exec_throw, Session.extend_nil]⟩
    · exact ⟨_, silent_noted _, hover, rfl, rfl⟩

theorem handovers_run (target : Target) (c : Compiled) (s : Session) :
    handovers ((target.run c).exec s).2.log = handovers s.log ++ [c.sql] := by
  obtain ⟨es, fs, -, hes, hfs, hrun⟩ := target.exec_run c s
  have hsend := target.quiet_send c.sql c.params (s.extend es)
  rw [hrun]
  simp only [Session.extend, handovers_append] at hsend ⊢
  rw [hsend, hes, hfs, List.append_nil]

end Target

namespace Query

open BoundSql.Action

variable (q : Query) (terminal : Terminal)

theorem exec_prepare_toRun (s : Session) :
    ∃ es, Silent es ∧ handovers es = [] ∧
      (q.prepare terminal).exec s = ((q.toRun terminal).map Prod.swap, s.extend es) := by
  unfold prepare toRun
  cases terminal.offeredBy q.builder.kind with
  | false => exact ⟨[], silent_nil, rfl, by rw [Session.extend_nil]; rfl⟩
  | true =>
    cases terminal.compile q.builder with
    | error e => exact ⟨[], silent_nil, rfl, by rw [Session.extend_nil]; rfl⟩
    | ok c =>
      cases terminal.isNoted q.builder with
      | true => cases q.target <;> exact ⟨_, silent_noted _, rfl, rfl⟩
      | false =>
        refine ⟨[], silent_nil, rfl, ?_⟩
        rw [Session.extend_nil]
        cases q.target <;> rfl

theorem run_perform (s : Session) :
    ∃ es, Silent es ∧ handovers es = [] ∧ (q.perform terminal).run s =
      match q.toRun terminal with
      | .error e => ((q, .error e), s.extend es)
      | .ok (target, c) =>
        ((q.sealed, ((target.run c).exec (s.extend es)).1.bind fun rs => terminal.read rs),
          ((target.run c).exec (s.extend es)).2) := by
  obtain ⟨es, hes, hover, hrun⟩ := q.exec_prepare_toRun terminal s
  have hprepare : (q.prepare terminal).run.run s = _ := hrun
  refine ⟨es, hes, hover, ?_⟩
  unfold perform
  rw [StateT.run_bind, hprepare]
  cases q.toRun terminal <;> rfl

end Query

namespace Errand

open BoundSql.Action

theorem exec_perform (q : Query) (terminal : Terminal) (s : Session) :
    (perform q terminal).action.exec s =
      (((q.perform terminal).run s).1.2.map some, ((q.perform terminal).run s).2) := by
  have hlift : exec (ExceptT.lift (q.perform terminal)) s =
      (.ok ((q.perform terminal).run s).1, ((q.perform terminal).run s).2) := rfl
  unfold action
  rw [exec_bind_ok hlift]
  generalize (q.perform terminal).run s = r
  obtain ⟨⟨q', o⟩, s'⟩ := r
  cases o <;> rfl

/-- An action is refused for want of a statement, and nothing is asked or handed over then; or its
statement is run, and what comes of it is told from the rows. -/
def Runs {β : Type} (x : Action β) (read : List Record → Outcome β) (s : Session)
    (found : Outcome (Target × Compiled)) : Prop :=
  ∃ es, Silent es ∧ handovers es = [] ∧ x.exec s =
    match found with
    | .error e => (.error e, s.extend es)
    | .ok (target, c) => (((target.run c).exec (s.extend es)).1.bind read,
        ((target.run c).exec (s.extend es)).2)

section Runs

variable {α β γ : Type} {s : Session} {read : List Record → Outcome β}
  {found : Outcome (Target × Compiled)}

theorem runs_run (target : Target) (c : Compiled) (s : Session) :
    Runs (target.run c) .ok s (.ok (target, c)) := by
  refine ⟨[], silent_nil, rfl, ?_⟩
  rw [Session.extend_nil]
  dsimp only
  generalize (target.run c).exec s = r
  obtain ⟨o, s'⟩ := r
  cases o <;> rfl

theorem runs_get {f : Session → Action β} (h : Runs (f s) read s found) :
    Runs (get >>= f) read s found := by
  unfold Runs at h ⊢
  rwa [exec_bind_ok (exec_get s)]

theorem runs_conclude (o : Outcome α) {f : α → Action β} {next : α → Outcome (Target × Compiled)}
    (h : ∀ a, Runs (f a) read s (next a)) : Runs (conclude o >>= f) read s (o >>= next) := by
  cases o with
  | error e =>
    refine ⟨[], silent_nil, rfl, ?_⟩
    rw [Session.extend_nil]
    exact exec_bind_error (exec_conclude _ s)
  | ok a =>
    have ha := h a
    unfold Runs at ha ⊢
    rwa [exec_bind_ok (exec_conclude _ s)]

theorem runs_plain {sql : Text} {f : Compiled → Action β}
    (h : Runs (f ⟨s.context.dialect.render sql, [], s.context.dialect⟩) read s found) :
    Runs (plain sql >>= f) read s found := by
  unfold Runs at h ⊢
  rwa [exec_bind_ok (exec_plain sql s), Session.extend_nil]

theorem runs_pure {x : Action β} (f : β → γ) (h : Runs x read s found) :
    Runs (x >>= fun a => pure (f a)) (fun rs => (read rs).map f) s found := by
  obtain ⟨es, hes, hover, hrun⟩ := h
  refine ⟨es, hes, hover, ?_⟩
  rw [exec_bind_pure, hrun]
  cases found with
  | error e => rfl
  | ok p =>
    exact congrArg (·, ((p.1.run p.2).exec (s.extend es)).2) (Outcome.map_do _ read f)

end Runs

theorem runs_raw (target : Target) (sql params : Value) (s : Session) :
    Runs (target.raw sql params) .ok s ((raw target sql params).statement s.context) := by
  refine runs_get ?_
  exact runs_conclude _ fun _ => runs_conclude _ fun c => runs_run target c s

theorem runs_hasTable (target : Target) (table schema : Value) (s : Session) :
    Runs (target.hasTable table schema) (fun rs => .ok !rs.isEmpty) s
      ((hasTable target table schema).statement s.context) := by
  refine runs_get ?_
  exact runs_conclude _ fun _ => runs_pure (fun rs => !rs.isEmpty) (runs_run target _ s)

theorem runs_dropTable (target : Target) (table cascade : Value) (s : Session) :
    Runs (target.dropTable table cascade) (fun _ => .ok ()) s
      ((dropTable target table cascade).statement s.context) := by
  refine runs_get (runs_conclude _ fun _ => runs_plain ?_)
  exact runs_pure (fun _ => ()) (runs_run target _ s)

theorem runs_truncate (target : Target) (table cascade : Value) (s : Session) :
    Runs (target.truncate table cascade) (fun _ => .ok ()) s
      ((truncate target table cascade).statement s.context) := by
  refine runs_get (runs_conclude _ fun _ => runs_plain ?_)
  exact runs_pure (fun _ => ()) (runs_run target _ s)

/-- An errand is refused, or its statement is run. -/
theorem runs_action (u : Errand) (s : Session) :
    Runs u.action (fun rs => u.read rs) s (u.statement s.context) := by
  cases u with
  | perform q terminal =>
    obtain ⟨es, hes, hover, hrun⟩ := q.run_perform terminal s
    refine ⟨es, hes, hover, ?_⟩
    rw [exec_perform, hrun]
    show _ = match q.toRun terminal with
      | .error e => _
      | .ok (target, c) => _
    cases q.toRun terminal with
    | error e => rfl
    | ok p =>
      exact congrArg (·, ((p.1.run p.2).exec (s.extend es)).2) (Outcome.map_do _ _ some)
  | raw target sql params =>
    exact runs_pure (fun rs => some (Reply.rows rs)) (runs_raw target sql params s)
  | hasTable target table schema =>
    exact runs_pure (fun b => some (Reply.truth b)) (runs_hasTable target table schema s)
  | dropTable target table cascade =>
    exact runs_pure (fun _ => none) (runs_dropTable target table cascade s)
  | truncate target table cascade =>
    exact runs_pure (fun _ => none) (runs_truncate target table cascade s)

/-- What is known of an errand whose statement was handed over to be run on a target. -/
structure Handed (u : Errand) (s : Session) (target : Target) (c : Compiled) : Prop where
  noted : handovers (u.action.exec s).2.log = handovers s.log ++ [c.sql]
  sent : ∃ k ≤ 1, statements (u.action.exec s).2.log =
      statements s.log ++ List.replicate k (c.sql, c.params) ∧
    ∀ reply, (u.action.exec s).1 = .ok reply → k = 1
  told : ∃ es, Silent es ∧ (u.action.exec s).1 =
    match ((target.send c.sql c.params).exec (s.extend es)).1 with
    | .ok rows => u.read rows
    | .error e => .error (if e.isOwn || !e.isOrdinary then e else .execution c.sql c.params e)
  ended : ∀ t x, target = .transaction t → s.transactions[t]? = some x → x.phase ≠ .active →
    ∃ es, Silent es ∧ u.action.exec s = (.error (.finished "execute" x.phase), s.extend es)

theorem handed {u : Errand} {s : Session} {target : Target} {c : Compiled}
    (h : u.statement s.context = .ok (target, c)) : u.Handed s target c := by
  obtain ⟨es, hes, hover, hrun⟩ := u.runs_action s
  rw [h] at hrun
  dsimp only at hrun
  refine ⟨?_, ?_, ?_, ?_⟩
  · rw [hrun]
    simp [target.handovers_run c, Session.extend, hover]
  · obtain ⟨k, hk, hsent, hok⟩ := target.hands_run c (s.extend es)
    refine ⟨k, hk, ?_, fun reply hreply => ?_⟩
    · rw [hrun, hsent]
      simp [Session.extend, hes.statements]
    · rw [hrun] at hreply
      obtain ⟨rows, hrows, -⟩ := Outcome.bind_eq_ok.1 hreply
      exact hok rows hrows
  · obtain ⟨fs, gs, hfs, -, -, hsend⟩ := target.exec_run c (s.extend es)
    refine ⟨es ++ fs, hes.append hfs, ?_⟩
    rw [hrun, hsend, Session.extend_extend]
    dsimp only
    cases ((target.send c.sql c.params).exec (s.extend (es ++ fs))).1 <;> rfl
  · rintro t x rfl hx hended
    obtain ⟨fs, hfs, hfinished⟩ := Target.exec_run_ended (s := s.extend es) hx hended c
    refine ⟨es ++ fs, hes.append hfs, ?_⟩
    rw [hrun, hfinished, Session.extend_extend]
    rfl

/-- An errand without a statement is refused for the reason why it has none, and nothing is asked of the
database. Otherwise its statement is handed over once, it is sent at most once, and a failure of the
driver is told together with it. A query is sealed exactly when its statement was handed over. -/
theorem single_statement (u : Errand) (s : Session) :
    (∀ e, u.statement s.context = .error e →
      ∃ es, Silent es ∧ handovers es = [] ∧ u.action.exec s = (.error e, s.extend es)) ∧
    (∀ target c, u.statement s.context = .ok (target, c) → u.Handed s target c) ∧
    ∀ q terminal, u = .perform q terminal →
      let r := (q.perform terminal).run s
      r.1.1 = if handovers r.2.log = handovers s.log then q else q.sealed := by
  refine ⟨fun e he => ?_, fun target c => handed, ?_⟩
  · obtain ⟨es, hes, hover, hrun⟩ := u.runs_action s
    rw [he] at hrun
    exact ⟨es, hes, hover, hrun⟩
  · rintro q terminal rfl
    obtain ⟨es, hes, hover, hrun⟩ := q.run_perform terminal s
    dsimp only
    rw [hrun]
    cases q.toRun terminal with
    | error e => simp [Session.extend, hover]
    | ok p => simp [p.1.handovers_run p.2, Session.extend, hover]

def disconnectedAfterCommit : Session :=
  { Query.disconnected with transactions := [{ lease := .connection 1, phase := .committed }] }

open Query (readUsers) in
theorem single_statement_readUsers :
    ((perform readUsers .get).action.exec disconnectedAfterCommit).1 =
        .error (.execution "SELECT * FROM \"users\"".toList [] (.foreign "OSError" "connection lost")) ∧
      ((readUsers.perform .get).run disconnectedAfterCommit).1.1 = readUsers.sealed ∧
      (∃ es, Silent es ∧
        (raw (.transaction 0) (.text "SELECT 1") .null).action.exec disconnectedAfterCommit =
          (.error (.finished "execute" .committed), disconnectedAfterCommit.extend es)) ∧
      ∃ es, Silent es ∧ handovers es = [] ∧
        (raw .database (.text "SELECT ?") .null).action.exec disconnectedAfterCommit =
          (reject (.markerCount "SELECT ?" 1 0), disconnectedAfterCommit.extend es) := by
  have hstatement : (perform readUsers .get).statement disconnectedAfterCommit.context =
      .ok (.database, ⟨"SELECT * FROM \"users\"".toList, [], .sqlite⟩) := rfl
  have hselect : (raw (.transaction 0) (.text "SELECT 1") .null).statement
      disconnectedAfterCommit.context =
      .ok (.transaction 0, ⟨"SELECT 1".toList, [], .sqlite⟩) := rfl
  obtain ⟨-, hhanded, hsealed⟩ := single_statement (perform readUsers .get) disconnectedAfterCommit
  have hread := hhanded _ _ hstatement
  refine ⟨?_, ?_, ?_, ?_⟩
  · obtain ⟨es, -, htold⟩ := hread.told
    rw [htold]
    rfl
  · have hover := hread.noted
    rw [exec_perform] at hover
    rw [hsealed _ _ rfl, if_neg]
    intro hsame
    rw [hover] at hsame
    exact List.cons_ne_nil _ _ (List.append_right_eq_self.1 hsame)
  · exact ((single_statement _ _).2.1 _ _ hselect).ended 0 _ rfl rfl (by decide)
  · exact (single_statement (raw .database (.text "SELECT ?") .null) disconnectedAfterCommit).1 _ rfl

end Errand

end BoundSql
