import BoundSql.Proofs.SessionOperation
/-!
A single turn of a session: what it shows of the connections that are set aside, and all that it can
do to the session and to its transactions.
-/

namespace BoundSql

open Session (Moves Aside)
open BoundSql.Action

/-- An operation, how it went, and the session before and after it. -/
structure Turn where
  operation : Operation
  before : Session
  outcome : Outcome (Option Nat)
  after : Session

def Session.turn (s : Session) (op : Operation) : Turn where
  operation := op
  before := s
  outcome := (op.action.exec s).1
  after := (op.action.exec s).2

def signsOf (lease : Lease) (ss : List (Lease × Sign)) : List Sign :=
  ss.filterMap fun p => if p.1 = lease then some p.2 else none

section

variable {lease : Lease} {sign : Sign} {ss ss' : List (Lease × Sign)}

theorem signsOf_append : signsOf lease (ss ++ ss') = signsOf lease ss ++ signsOf lease ss' :=
  List.filterMap_append

theorem signsOf_map (lease : Lease) (signs : List Sign) :
    signsOf lease (signs.map (Prod.mk lease)) = signs := by
  simp [signsOf, List.filterMap_map]

theorem signsOf_eq_nil (h : ∀ p ∈ ss, p.1 ≠ lease) : signsOf lease ss = [] :=
  List.filterMap_eq_nil_iff.2 fun p hp => if_neg (h p hp)

end

namespace Turn

variable (turn : Turn)

def signs : List (Lease × Sign) :=
  BoundSql.signs (turn.after.log.drop turn.before.log.length)

def locksFile : Bool :=
  !turn.before.driver.isLocked && turn.after.driver.isLocked

def unlocksFile : Bool :=
  turn.before.driver.isLocked && !turn.after.driver.isLocked

/-- What happened to a connection in a turn. The file is set aside by its lock, and for that nothing
is asked of the database. -/
def signsAt (lease : Lease) : List Sign :=
  (if lease = .file && turn.locksFile then [.reserved] else []) ++ signsOf lease turn.signs ++
    (if lease = .file && turn.unlocksFile then [.released] else [])

def opens (t : Nat) : Bool :=
  match turn.operation, turn.outcome with
  | .begin, .ok (some u) => u == t
  | _, _ => false

def isOf (t : Nat) : Bool :=
  turn.opens t || turn.operation.uses t

/-- The text of the statement that was issued through the given transaction while it was active. -/
def issued (t : Nat) : List Text :=
  match turn.operation.statement turn.before.context with
  | some (.transaction u, c) => if u = t && turn.before.isActive t then [c.sql] else []
  | _ => []

/-- How a turn ended a transaction: the phase in which it left it, and the texts that were sent for
that. -/
inductive Ending (t : Nat) : Phase → List Text → Prop
  | committed (hop : turn.operation = .commit t)
      (hc : ((Action.control t Dialect.commitSql).exec turn.before).1 = .ok ())
      (ho : turn.outcome = .ok none) : Ending t .committed [commitText]
  | uncommitted {e : Failure} (hop : turn.operation = .commit t)
      (hc : ((Action.control t Dialect.commitSql).exec turn.before).1 = .error e)
      (ho : turn.outcome = .error e) : Ending t .rolledBack [commitText, rollbackText]
  | rolledBack (hop : turn.operation = .rollback t) : Ending t .rolledBack [rollbackText]

inductive Effect : Prop
  | aside {ss : List (Lease × Sign)} (h : Aside ss turn.before turn.after)
      (hfresh : ∀ p ∈ ss, p.1.Fresh turn.before turn.after) (hown : ∀ t, turn.isOf t → ss = [])
      (hissued : ∀ t, turn.issued t = [])
  | abandoned {lease : Lease} {e : Failure}
      (h : Aside (lease.signed .reserved ++ (lease, .sent beginText) :: lease.signed .released)
        turn.before turn.after)
      (hf : lease.Fresh turn.before turn.after) (hop : turn.operation = .begin)
      (ho : turn.outcome = .error e)
  | opened {lease : Lease}
      (h : Moves (lease.signed .reserved ++ [(lease, .sent beginText)]) turn.before turn.after)
      (ht : turn.after.transactions = turn.before.transactions ++ [{ lease := lease }])
      (hf : lease.Fresh turn.before turn.after)
      (hl : turn.after.driver.isLocked = (turn.before.driver.isLocked || lease == .file))
      (hop : turn.operation = .begin)
      (ho : turn.outcome = .ok (some turn.before.transactions.length))
  | issued {t : Nat} {x : Transaction} {c : Compiled} (hx : turn.before.transactions[t]? = some x)
      (ha : x.phase = .active) (h : Aside [(x.lease, .sent c.sql)] turn.before turn.after)
      (hs : turn.operation.statement turn.before.context = some (.transaction t, c))
  | ended {t : Nat} {x : Transaction} {phase : Phase} {texts : List Text} {es : List Event}
      (hx : turn.before.transactions[t]? = some x) (ha : x.phase = .active)
      (he : turn.Ending t phase texts)
      (h : turn.after = (turn.before.closed t x.lease phase).extend es)
      (hes : BoundSql.signs es =
        texts.map (fun text => (x.lease, .sent text)) ++ x.lease.signed .released)

variable {turn : Turn} {t : Nat}

theorem opens_of_ne (h : turn.operation ≠ .begin) (t : Nat) : turn.opens t = false := by
  unfold opens
  split
  · rename_i hop _
    exact absurd hop h
  · rfl

theorem issued_eq_nil (h : ∀ c, turn.operation.statement turn.before.context =
    some (.transaction t, c) → turn.before.isActive t = false) : turn.issued t = [] := by
  unfold issued
  split
  · rename_i u c hstatement
    by_cases hu : u = t
    · subst hu
      rw [h c hstatement, Bool.and_false]
      rfl
    · rw [decide_eq_false hu]
      rfl
  · rfl

theorem issued_eq {c : Compiled}
    (h : turn.operation.statement turn.before.context = some (.transaction t, c))
    (ha : turn.before.isActive t) : turn.issued t = [c.sql] := by
  unfold issued
  rw [h, ha]
  simp

end Turn

namespace Operation

variable {s : Session} {op : Operation}

theorem idle_effect {es : List Event} (hafter : (s.turn op).after = s.extend es) (hes : Silent es)
    (hissued : ∀ t, (s.turn op).issued t = []) : (s.turn op).Effect := by
  have haside : Aside [] s (s.turn op).after := by
    rw [hafter]
    exact Session.aside_extend hes.signs s
  exact .aside haside (fun p hp => nomatch hp) (fun t _ => rfl) hissued

theorem statement_effect (hs : s.driver.Sane) (hop : op ≠ .begin)
    (h : Leads s (op.statement s.context) (op.action.exec s)) : (s.turn op).Effect := by
  generalize hstatement : op.statement s.context = statement at h
  cases h with
  | refused es e hes hr =>
    exact idle_effect (congrArg Prod.snd hr) hes fun t =>
      Turn.issued_eq_nil fun c hc => nomatch hstatement.symm.trans hc
  | @run _ target c es f hes hr =>
    have huses := uses_iff_of_statement hstatement
    have hafter : (s.turn op).after = ((target.run c).exec (s.extend es)).2 := congrArg Prod.snd hr
    cases target with
    | database =>
      obtain ⟨ss, haside, hfresh⟩ := Target.run_database_aside (s := s.extend es) hs c
      rw [← hafter] at haside hfresh
      have hall := (Session.aside_extend hes.signs s).trans haside
      refine .aside hall hfresh (fun t ht => ?_) fun t => ?_
      · rw [Turn.isOf, Turn.opens_of_ne hop, Bool.false_or] at ht
        nomatch (huses t).1 ht
      · exact Turn.issued_eq_nil fun c hc => nomatch hstatement.symm.trans hc
    | transaction t =>
      -- Only an active transaction sends the statement; otherwise it is noted and refused.
      have hidle : ∀ e fs, Silent fs → s.isActive t = false →
          ((Target.transaction t).run c).exec (s.extend es) = (.error e, (s.extend es).extend fs) →
          (s.turn op).Effect := fun e fs hfs ht hrun => by
        rw [hrun, Session.extend_extend] at hafter
        refine idle_effect hafter (hes.append hfs) fun u => Turn.issued_eq_nil fun c' hc => ?_
        cases hstatement.symm.trans hc
        exact ht
      cases hx : s.transactions[t]? with
      | none =>
        obtain ⟨fs, hfs, hrun⟩ := Target.exec_run_unknown (s := s.extend es) hx c
        exact hidle _ fs hfs (by simp [Session.isActive, hx]) hrun
      | some x =>
        by_cases ha : x.phase = .active
        · have hsent := (Session.aside_extend hes.signs s).trans
            (Target.run_transaction_leaves (s := s.extend es) hx ha c).aside
          rw [← hafter] at hsent
          exact .issued hx ha hsent hstatement
        · obtain ⟨fs, hfs, hrun⟩ := Target.exec_run_ended (s := s.extend es) hx ha c
          exact hidle _ fs hfs (Session.not_isActive hx ha) hrun

theorem turn_begin {o : Outcome Nat} {s' : Session} (h : Action.begin.exec s = (o, s')) :
    s.turn .begin = ⟨.begin, s, o.map some, s'⟩ := by
  unfold Session.turn action
  rw [exec_bind_pure, h]

theorem begin_effect (hb : s.backend.Orderly) (hs : s.driver.Sane) : (s.turn .begin).Effect := by
  have hbegun := begin_spec hb hs
  cases hr : Action.begin.exec s with
  | mk o s' =>
    rw [hr] at hbegun
    rw [turn_begin hr]
    cases hbegun with
    | unreserved h =>
      have hissued : ∀ e t, (⟨.begin, s, .error e, s'⟩ : Turn).issued t = [] := fun _ _ => rfl
      cases h with
      | none h => exact .aside h (fun p hp => nomatch hp) (fun t ht => nomatch ht) (hissued _)
      | refused h hf =>
        refine .aside h (fun p hp => ?_) (fun t ht => nomatch ht) (hissued _)
        rw [List.mem_singleton.1 hp]
        exact hf
    | abandoned h hf => exact .abandoned h hf rfl rfl
    | opened h ht hf hl => exact .opened h ht hf hl rfl rfl

section

variable {α : Type} {f : Action α} {operation : String} {t : Nat} {x : Transaction}
  (hop : op.action = (do ensureActive operation (← transaction t); f) >>= fun _ => pure none)

include hop

theorem guarded_refused (hx : s.transactions[t]? = some x) (hp : x.phase ≠ .active) :
    op.action.exec s = (.error (.finished operation x.phase), s) := by
  rw [hop, exec_bind_pure, exec_guarded_of_ne hx hp]
  rfl

theorem guarded_effect (hstatement : op.statement s.context = none)
    (heffect : ∀ x, s.transactions[t]? = some x → x.phase = .active → (s.turn op).Effect) :
    (s.turn op).Effect := by
  have hissued : ∀ t, (s.turn op).issued t = [] := fun t =>
    Turn.issued_eq_nil fun c hc => nomatch hstatement.symm.trans hc
  have hidle : ∀ e, op.action.exec s = (.error e, s) → (s.turn op).Effect := fun e hrun => by
    refine idle_effect ?_ silent_nil hissued
    rw [Session.extend_nil]
    exact congrArg Prod.snd hrun
  cases hx : s.transactions[t]? with
  | none =>
    refine hidle (.configuration .executorMissing) ?_
    rw [hop, exec_bind_pure, exec_guarded_of_none hx]
    rfl
  | some x =>
    by_cases ha : x.phase = .active
    · exact heffect x hx ha
    · exact hidle _ (guarded_refused hop hx ha)

end

theorem commit_effect (hb : s.backend.Orderly) (t : Nat) : (s.turn (.commit t)).Effect := by
  have hop : action (.commit t) = Action.commit t >>= fun _ => pure none := rfl
  refine guarded_effect hop rfl fun x hx ha => ?_
  have hcommit := exec_commit hb hx ha
  have hturn : s.turn (.commit t) =
      ⟨.commit t, s, ((Action.commit t).exec s).1.map fun _ => none, ((Action.commit t).exec s).2⟩ := by
    unfold Session.turn action
    rw [exec_bind_pure]
  cases hc : ((control t Dialect.commitSql).exec s).1 with
  | ok u =>
    rw [hc] at hcommit
    obtain ⟨es, hrun, hes⟩ := hcommit
    rw [hturn, hrun]
    exact .ended hx ha (.committed rfl hc rfl) rfl hes
  | error e =>
    rw [hc] at hcommit
    obtain ⟨es, hrun, hes⟩ := hcommit
    rw [hturn, hrun]
    exact .ended hx ha (.uncommitted rfl hc rfl) rfl hes

theorem rollback_effect (hb : s.backend.Orderly) (t : Nat) : (s.turn (.rollback t)).Effect := by
  have hop : action (.rollback t) = Action.rollback t >>= fun _ => pure none := rfl
  refine guarded_effect hop rfl fun x hx ha => ?_
  obtain ⟨es, hrun, hes⟩ := exec_rollback hb hx ha
  refine .ended hx ha (.rolledBack rfl) ?_ hes
  unfold Session.turn action
  rw [exec_bind_pure, hrun]

end Operation

theorem Session.turn_effect {s : Session} (hb : s.backend.Orderly) (hs : s.driver.Sane)
    (op : Operation) : (s.turn op).Effect := by
  cases op with
  | begin => exact Operation.begin_effect hb hs
  | perform q terminal =>
    exact Operation.statement_effect hs (fun h => nomatch h) (Operation.perform_leads q terminal s)
  | raw target sql params =>
    exact Operation.statement_effect hs (fun h => nomatch h) (Operation.raw_leads target sql params s)
  | commit t => exact Operation.commit_effect hb t
  | rollback t => exact Operation.rollback_effect hb t

theorem Session.turn_refused {s : Session} {t : Nat} {x : Transaction} {op : Operation}
    {verb : String} (hx : s.transactions[t]? = some x) (hp : x.phase ≠ .active)
    (hv : op.Asks s.context t verb) :
    (s.turn op).outcome = .error (.finished verb x.phase) ∧
      ∃ es, Silent es ∧ (s.turn op).after = s.extend es := by
  unfold Session.turn
  cases hv with
  | commit =>
    have hop : Operation.action (.commit t) = Action.commit t >>= fun _ => pure none := rfl
    rw [Operation.guarded_refused hop hx hp]
    exact ⟨rfl, [], silent_nil, (Session.extend_nil s).symm⟩
  | rollback =>
    have hop : Operation.action (.rollback t) = Action.rollback t >>= fun _ => pure none := rfl
    rw [Operation.guarded_refused hop hx hp]
    exact ⟨rfl, [], silent_nil, (Session.extend_nil s).symm⟩
  | @execute _ c h =>
    cases Operation.leads_of_statement h with
    | run es f hes hr =>
      obtain ⟨fs, hfs, hrun⟩ := Target.exec_run_ended (s := s.extend es) hx hp c
      rw [hr, hrun, Session.extend_extend]
      exact ⟨rfl, es ++ fs, hes.append hfs, rfl⟩

namespace Turn

variable {turn : Turn} {t : Nat} {x : Transaction} {lease lease' : Lease} {es : List Event}
  {ss : List (Lease × Sign)}

theorem signs_of_log (h : turn.after.log = turn.before.log ++ es) :
    turn.signs = BoundSql.signs es := by
  rw [signs, h, List.drop_left]

section Closed

variable {phase : Phase} (h : turn.after = (turn.before.closed t lease phase).extend es)

include h

theorem signs_of_closed : turn.signs = BoundSql.signs es :=
  signs_of_log (by rw [h]; rfl)

theorem isLocked_of_closed :
    turn.after.driver.isLocked = (turn.before.driver.isLocked && lease != .file) := by
  rw [h]
  exact Driver.isLocked_without _ _

end Closed

theorem signs_of_moves (h : Moves ss turn.before turn.after) : turn.signs = ss := by
  obtain ⟨es, hlog, hes⟩ := h.log
  rw [signs_of_log hlog, hes]

theorem signsAt_of_aside (h : Aside ss turn.before turn.after) (lease : Lease) :
    turn.signsAt lease = signsOf lease ss := by
  unfold signsAt locksFile unlocksFile
  rw [h.isLocked, signs_of_moves h.toMoves]
  cases turn.before.driver.isLocked <;> simp

theorem signsAt_of_ne (hsigns : ∀ p ∈ turn.signs, p.1 = lease)
    (hlocked : lease ≠ .file → turn.after.driver.isLocked = turn.before.driver.isLocked)
    (hne : lease' ≠ lease) : turn.signsAt lease' = [] := by
  have hnone : signsOf lease' turn.signs = [] :=
    signsOf_eq_nil fun p hp h => hne (h.symm.trans (hsigns p hp))
  unfold signsAt locksFile unlocksFile
  rw [hnone]
  by_cases hfile : lease' = .file
  · rw [hlocked fun h => hne (hfile.trans h.symm)]
    cases turn.before.driver.isLocked <;> simp
  · simp [hfile]

theorem signsAt_of_opened
    (h : Moves (lease.signed .reserved ++ [(lease, .sent beginText)]) turn.before turn.after)
    (hf : lease.Fresh turn.before turn.after)
    (hl : turn.after.driver.isLocked = (turn.before.driver.isLocked || lease == .file)) :
    turn.signsAt lease = [.reserved, .sent beginText] := by
  unfold signsAt locksFile unlocksFile
  rw [signs_of_moves h, hl]
  cases lease with
  | connection n => simp [Lease.signed, signsOf]
  | file =>
    rw [hf.2]
    simp [Lease.signed, signsOf]

theorem signsAt_of_ended {phase : Phase} {texts : List Text}
    (h : turn.after = (turn.before.closed t lease phase).extend es)
    (hes : BoundSql.signs es =
      texts.map (fun text => (lease, .sent text)) ++ lease.signed .released)
    (hlocked : lease = .file → turn.before.driver.isLocked) :
    turn.signsAt lease = texts.map .sent ++ [.released] := by
  have hsent : signsOf lease (texts.map fun text => (lease, Sign.sent text)) = texts.map .sent := by
    rw [← signsOf_map lease (texts.map .sent), List.map_map]
    rfl
  unfold signsAt locksFile unlocksFile
  rw [signs_of_closed h, hes, signsOf_append, hsent, isLocked_of_closed h]
  cases lease with
  | connection n => simp [Lease.signed, signsOf]
  | file =>
    rw [hlocked rfl]
    simp [Lease.signed, signsOf]

end Turn

end BoundSql
