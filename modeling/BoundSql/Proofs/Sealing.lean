import BoundSql.Proofs.SessionOperation
/-!
Sealing. A statement that was handed over to be run is never changed again, whatever is called and run
afterwards, and a call that would have changed it says so. A statement that was not handed over stays
open.
-/

namespace BoundSql

namespace Builder

def opened (b : Builder) : Builder :=
  { b with isSealed := false }

/-- Whether a call would change the statement of a builder that was not sealed, be it that the call
fails after a part of the change was made. -/
def WouldChange (b : Builder) (c : Call) : Prop :=
  (b.opened.apply c).1.statement ≠ b.statement

section Sealed

variable {b : Builder} (h : b.isSealed)
include h

theorem applyFilter_of_sealed (f : Filter) :
    b.applyFilter f =
      (b.statement, match f.node b.limit with
        | .error e => .error e
        | .ok none => .ok ()
        | .ok (some _) => .error b.alreadyExecuted) := by
  unfold applyFilter
  cases f.node b.limit with
  | error e => rfl
  | ok added =>
    cases added with
    | none => rfl
    | some n => exact if_pos h

theorem change_of_sealed (c : Call) : (b.change c).1 = b.statement := by
  unfold change
  split
  · rfl
  · split
    · rw [applyFilter_of_sealed h]
    · rfl

theorem apply_of_sealed (c : Call) : (b.apply c).1 = b := by
  show { b with statement := (b.change c).1 } = b
  rw [change_of_sealed h]

/-- Only a condition that is to be added would change a statement, so there is one where a call of
conditions is refused. -/
theorem applyFilter_refused_of_sealed {f : Filter}
    (hf : (b.opened.applyFilter f).1 ≠ b.statement) :
    (b.applyFilter f).2 = .error b.alreadyExecuted := by
  have hlimit : b.opened.limit = b.limit := rfl
  rw [applyFilter_of_sealed h]
  unfold applyFilter at hf
  rw [hlimit] at hf
  cases hnode : f.node b.limit with
  | error e =>
    rw [hnode] at hf
    exact absurd rfl hf
  | ok added =>
    cases added with
    | none =>
      rw [hnode] at hf
      exact absurd rfl hf
    | some n => rfl

theorem apply_refused_of_sealed {c : Call} (hc : b.WouldChange c) :
    (b.apply c).2 = .error b.alreadyExecuted := by
  have hopen : (b.opened.change c).1 ≠ b.statement := hc
  have hkind : b.opened.kind = b.kind := rfl
  show (b.change c).2 = _
  unfold change at hopen ⊢
  rw [hkind] at hopen
  split at hopen
  · exact absurd rfl hopen
  · rename_i hoffered
    rw [if_neg hoffered]
    cases c with
    | filter f => exact applyFilter_refused_of_sealed h hopen
    | _ => exact congrArg Prod.snd (if_pos h)

end Sealed

end Builder

namespace Query

/-- The queries that a query becomes when it is used further: by calls, refused ones among them, and
by runs, in whatever sessions. -/
inductive Later (q : Query) : Query → Prop where
  | here : Later q q
  | call {r : Query} (h : Later q r) (c : Call) : Later q (r.apply c).1
  | run {r : Query} (h : Later q r) (t : Terminal) (s : Session) : Later q ((r.perform t).run s).1.1

variable {q r : Query} {t : Terminal}

theorem apply_of_sealed (h : q.builder.isSealed) (c : Call) : (q.apply c).1 = q := by
  show { q with builder := (q.builder.apply c).1 } = q
  rw [Builder.apply_of_sealed h]

theorem sealed_of_sealed (h : q.builder.isSealed) : q.sealed = q := by
  obtain ⟨⟨context, statement, isSealed⟩, target⟩ := q
  cases h
  rfl

theorem perform_eq (q : Query) (t : Terminal) (s : Session) :
    ∃ es, Silent es ∧
      match q.ready t with
      | none => ∃ e, (q.perform t).run s = ((q, .error e), s.extend es)
      | some (target, c) => (q.perform t).run s =
          ((q.sealed, ((target.run c).exec (s.extend es)).1.bind fun rs => t.read rs),
            ((target.run c).exec (s.extend es)).2) := by
  obtain ⟨es, o, hes, hrun, hready⟩ := q.exec_prepare t s
  have hprepare : (q.prepare t).run.run s = (o, s.extend es) := hrun
  refine ⟨es, hes, ?_⟩
  rw [hready]
  unfold perform
  rw [StateT.run_bind, hprepare]
  cases o with
  | error e => exact ⟨e, rfl⟩
  | ok p => rfl

theorem perform_of_sealed (h : q.builder.isSealed) (t : Terminal) (s : Session) :
    ((q.perform t).run s).1.1 = q := by
  obtain ⟨es, -, hperform⟩ := q.perform_eq t s
  cases hready : q.ready t with
  | none =>
    rw [hready] at hperform
    obtain ⟨e, he⟩ := hperform
    rw [he]
  | some p =>
    rw [hready] at hperform
    dsimp only at hperform
    rw [hperform, sealed_of_sealed h]

theorem Later.eq_of_sealed (hr : Later q r) (h : q.builder.isSealed) : r = q := by
  induction hr with
  | here => rfl
  | call hr c ih =>
    rw [ih]
    exact apply_of_sealed h c
  | run hr t s ih =>
    rw [ih]
    exact perform_of_sealed h t s

/-- A query that says what another one said when it was handed over, and to which nothing more can be
said: the same text and values in every form, the same runs, and a refusal of every change. -/
structure Settled (q r : Query) : Prop where
  statement : r.builder.statement = q.builder.statement
  compile : r.builder.compile = q.builder.compile
  inline : r.builder.inline = q.builder.inline
  ready : ∀ t, r.ready t = q.ready t
  run : ∀ t s, (r.perform t).run s = ((r, ((q.perform t).run s).1.2), ((q.perform t).run s).2)
  refused : ∀ c, q.builder.WouldChange c →
    (r.apply c).2 = .error (.configuration (.alreadyExecuted q.builder.kind))

theorem run_sealed (q : Query) (t : Terminal) (s : Session) :
    (q.sealed.perform t).run s =
      ((q.sealed, ((q.perform t).run s).1.2), ((q.perform t).run s).2) := by
  have hprepare : q.sealed.prepare t = q.prepare t := rfl
  unfold perform
  rw [hprepare, StateT.run_bind, StateT.run_bind]
  generalize (q.prepare t).run.run s = p
  obtain ⟨o, s'⟩ := p
  cases o with
  | error e => rfl
  | ok p => rfl

theorem settled_sealed (q : Query) : q.Settled q.sealed where
  statement := rfl
  compile := rfl
  inline := rfl
  ready _ := rfl
  run := q.run_sealed
  refused _ hc := Builder.apply_refused_of_sealed rfl hc

/-- Once the statement of a query was handed over to be run, the query stays settled, however the run
went and whatever is done with it afterwards. Without that, the query stays as it was. -/
theorem perform_settles (q : Query) (t : Terminal) (s : Session) :
    match q.ready t with
    | none => ∃ es e, Silent es ∧ (q.perform t).run s = ((q, .error e), s.extend es)
    | some (target, c) =>
      (∃ es, Silent es ∧ ((q.perform t).run s).2 = ((target.run c).exec (s.extend es)).2) ∧
        ∀ r, Later ((q.perform t).run s).1.1 r → q.Settled r := by
  obtain ⟨es, hes, hperform⟩ := q.perform_eq t s
  cases hready : q.ready t with
  | none =>
    rw [hready] at hperform
    obtain ⟨e, he⟩ := hperform
    exact ⟨es, e, hes, he⟩
  | some p =>
    obtain ⟨target, c⟩ := p
    rw [hready] at hperform
    dsimp only at hperform ⊢
    rw [hperform]
    refine ⟨⟨es, hes, rfl⟩, fun r hr => ?_⟩
    rw [hr.eq_of_sealed rfl]
    exact q.settled_sealed

def readUsers : Query where
  builder := ((Builder.start { dialect := .sqlite } .select).applyAll
    [.source .from_ (.text "users") .null]).1
  target := some .database

theorem readUsers_ready : readUsers.ready .get =
    some (.database, { sql := "SELECT * FROM \"users\"".toList, params := [], dialect := .sqlite }) :=
  rfl

def disconnected : Session where
  context := { dialect := .sqlite }
  driver := .direct
  backend := .canned none "users".toList (.foreign "OSError" "connection lost")

/-- A query that failed is settled like one that went well. -/
theorem perform_settles_readUsers :
    (((readUsers.perform .get).run disconnected).1.2.toOption.isNone) ∧
      readUsers.builder.WouldChange (.limit (.int 5)) ∧
      ∃ r, Later ((readUsers.perform .get).run disconnected).1.1 r ∧ readUsers.Settled r ∧
        (r.apply (.limit (.int 5))).2 = .error (.configuration (.alreadyExecuted .select)) := by
  have hsettles := readUsers.perform_settles .get disconnected
  rw [readUsers_ready] at hsettles
  have hchange : readUsers.builder.WouldChange (.limit (.int 5)) := fun h =>
    absurd (congrArg Statement.limit h) (by decide)
  have hlater := (Later.here (q := ((readUsers.perform .get).run disconnected).1.1)).call
    (.limit (.int 5))
  have hsettled := hsettles.2 _ hlater
  exact ⟨by decide +kernel, hchange, _, hlater, hsettled, hsettled.refused _ hchange⟩

end Query

end BoundSql
