import BoundSql.Proofs.SessionTrace
/-!
What the actions on a transaction do to a session: what they send, in which phase they leave the
transaction, and that its connection is given back at the moment when the transaction ends.
-/

namespace BoundSql

namespace Driver

def usesFile : Driver → Bool
  | file .. => true
  | direct | pooled .. => false

def isLocked : Driver → Bool
  | file _ _ isLocked => isLocked
  | direct | pooled .. => false

/-- Only an open file is locked. -/
def Sane : Driver → Prop
  | file _ isOpen isLocked => isLocked → isOpen
  | direct | pooled .. => True

def without : Driver → Lease → Driver
  | file path isOpen _, .file => file path isOpen false
  | d, _ => d

variable (d : Driver) (lease : Lease)

theorem without_connection (n : Nat) : d.without (.connection n) = d := by
  cases d <;> rfl

theorem usesFile_without : (d.without lease).usesFile = d.usesFile := by
  cases d <;> cases lease <;> rfl

theorem isLocked_without : (d.without lease).isLocked = (d.isLocked && lease != .file) := by
  cases d with
  | direct | pooled => cases lease <;> rfl
  | file path isOpen isLocked => cases lease <;> simp [without, Driver.isLocked]

theorem Sane.without {d : Driver} (h : d.Sane) (lease : Lease) : (d.without lease).Sane := by
  cases d with
  | direct | pooled => cases lease <;> exact h
  | file path isOpen isLocked =>
    cases lease with
    | connection n => exact h
    | file => exact fun hl => by cases hl

end Driver

namespace Session

def isActive (s : Session) (t : Nat) : Bool :=
  s.transactions[t]?.any fun x => x.phase == .active

theorem isActive_iff {s : Session} {t : Nat} :
    s.isActive t ↔ ∃ x, s.transactions[t]? = some x ∧ x.phase = .active := by
  simp [isActive, Option.any_eq_true]

theorem not_isActive_of_le {s : Session} {t : Nat} (ht : s.transactions.length ≤ t) :
    s.isActive t = false := by
  rw [isActive, List.getElem?_eq_none ht]
  rfl

theorem not_isActive {s : Session} {t : Nat} {x : Transaction} (hx : s.transactions[t]? = some x)
    (hp : x.phase ≠ .active) : s.isActive t = false := by
  simp [isActive, hx, hp]

def without (s : Session) (lease : Lease) : Session :=
  { s with driver := s.driver.without lease }

def closed (s : Session) (t : Nat) (lease : Lease) (phase : Phase) : Session :=
  { s.without lease with
    transactions := s.transactions.modify t fun x => { x with phase } }

theorem closed_extend (s : Session) (es : List Event) (t : Nat) (lease : Lease) (phase : Phase) :
    (s.extend es).closed t lease phase = (s.closed t lease phase).extend es := rfl

section Closed

variable {s : Session} {t u : Nat} {x : Transaction}

theorem getElem?_closed (hx : s.transactions[t]? = some x) (lease : Lease) (phase : Phase) :
    (s.closed t lease phase).transactions[t]? = some { x with phase } := by
  unfold closed
  rw [List.getElem?_modify, hx]
  simp

theorem getElem?_closed_of_ne (hu : t ≠ u) (lease : Lease) (phase : Phase) :
    (s.closed t lease phase).transactions[u]? = s.transactions[u]? := by
  unfold closed
  rw [List.getElem?_modify]
  simp [hu]

end Closed

end Session

def Lease.signed (sign : Sign) : Lease → List (Lease × Sign)
  | .connection n => [(.connection n, sign)]
  | .file => []

theorem fst_of_mem_signed {sign : Sign} {lease : Lease} {p : Lease × Sign}
    (h : p ∈ lease.signed sign) : p.1 = lease := by
  cases lease with
  | connection n =>
    rw [List.mem_singleton.1 h]
  | file => cases h

def beginText : Text := "BEGIN".toList

def commitText : Text := "COMMIT".toList

def rollbackText : Text := "ROLLBACK".toList

namespace Dialect

theorem render_beginSql (d : Dialect) : d.render d.beginSql = beginText := by
  cases d <;> rfl

theorem render_commitSql (d : Dialect) : d.render d.commitSql = commitText := by
  cases d <;> rfl

theorem render_rollbackSql (d : Dialect) : d.render d.rollbackSql = rollbackText := by
  cases d <;> rfl

end Dialect

namespace Action

variable {s : Session} {t : Nat} {x : Transaction}

theorem exec_transaction (hx : s.transactions[t]? = some x) :
    (transaction t).exec s = (.ok x, s) := by
  unfold transaction
  rw [exec_bind, exec_get]
  dsimp only
  rw [hx]
  rfl

theorem exec_transaction_of_none (hx : s.transactions[t]? = none) :
    (transaction t).exec s = (.error (.configuration .executorMissing), s) := by
  unfold transaction
  rw [exec_bind, exec_get]
  dsimp only
  rw [hx]
  rfl

theorem exec_ensureActive (operation : String) (ha : x.phase = .active) :
    (ensureActive operation x).exec s = (.ok (), s) := by
  unfold ensureActive
  rw [ha]
  rfl

theorem exec_ensureActive_of_ne (operation : String) (hp : x.phase ≠ .active) :
    (ensureActive operation x).exec s = (.error (.finished operation x.phase), s) := by
  unfold ensureActive
  cases hphase : x.phase with
  | active => exact absurd hphase hp
  | committed => rfl
  | rolledBack => rfl

theorem exec_guarded {α : Type} {operation : String} {f : Action α}
    (hx : s.transactions[t]? = some x) (ha : x.phase = .active) :
    (do ensureActive operation (← transaction t); f).exec s = f.exec s := by
  rw [exec_bind_ok (exec_transaction hx), exec_bind_ok (exec_ensureActive operation ha)]

theorem exec_guarded_of_none {α : Type} {operation : String} {f : Action α}
    (hx : s.transactions[t]? = none) :
    (do ensureActive operation (← transaction t); f).exec s =
      (.error (.configuration .executorMissing), s) :=
  exec_bind_error (exec_transaction_of_none hx)

theorem exec_guarded_of_ne {α : Type} {operation : String} {f : Action α}
    (hx : s.transactions[t]? = some x) (hp : x.phase ≠ .active) :
    (do ensureActive operation (← transaction t); f).exec s =
      (.error (.finished operation x.phase), s) := by
  rw [exec_bind_ok (exec_transaction hx), exec_bind_error (exec_ensureActive_of_ne operation hp)]

theorem executeIn_leaves (hx : s.transactions[t]? = some x) (ha : x.phase = .active) (sql : Text)
    (params : List Value) : Leaves [(x.lease, .sent sql)] s ((executeIn t sql params).exec s) := by
  unfold executeIn
  rw [exec_bind_ok (exec_transaction hx), exec_bind_ok (exec_ensureActive _ ha)]
  exact executeOn_leaves x.lease sql params s

theorem exec_executeIn_of_ne (hx : s.transactions[t]? = some x) (hp : x.phase ≠ .active) (sql : Text)
    (params : List Value) :
    (executeIn t sql params).exec s = (.error (.finished "execute" x.phase), s) := by
  unfold executeIn
  rw [exec_bind_ok (exec_transaction hx), exec_bind_error (exec_ensureActive_of_ne _ hp)]

theorem exec_plain (sql : Text) (s : Session) :
    (plain sql).exec s =
      (.ok { sql := s.context.dialect.render sql, params := [], dialect := s.context.dialect },
        s.extend []) := by
  rw [Session.extend_nil]
  rfl

theorem control_leaves (hx : s.transactions[t]? = some x) (ha : x.phase = .active)
    (sql : Dialect → Text) {text : Text}
    (ht : s.context.dialect.render (sql s.context.dialect) = text) :
    Leaves [(x.lease, .sent text)] s ((control t sql).exec s) := by
  unfold control
  rw [exec_bind_ok (exec_get s)]
  refine leaves_after (exec_plain _ s) rfl ?_
  refine leaves_bind (runThrough_leaves fun s' hs' => ?_) fun _ _ => leaves_pure _ _
  rw [← ht]
  exact executeIn_leaves (by rw [hs', Session.transactions_extend, hx]) ha _ _

theorem exec_release (hb : s.backend.Orderly) (lease : Lease) :
    ∃ es, (release lease).exec s = (.ok (), (s.without lease).extend es) ∧
      signs es = lease.signed .released := by
  cases lease with
  | connection n =>
    obtain ⟨a, ha⟩ := hb.releases s.log n
    refine ⟨[.asked (.release n)], ?_, rfl⟩
    unfold release demand
    rw [exec_bind, exec_request, ha, Session.without, Driver.without_connection]
    rfl
  | file =>
    refine ⟨[], ?_, rfl⟩
    rw [Session.extend_nil]
    obtain ⟨context, driver⟩ := s
    cases driver <;> rfl

theorem exec_finish (hb : s.backend.Orderly) (hx : s.transactions[t]? = some x) (phase : Phase) :
    ∃ es, (finish t phase).exec s = (.ok (), (s.closed t x.lease phase).extend es) ∧
      signs es = x.lease.signed .released := by
  unfold finish
  rw [exec_bind_ok (exec_transaction hx)]
  let ended : Session := { s with transactions := s.transactions.modify t fun y => { y with phase } }
  have hphase : (setPhase t phase).exec s = (.ok (), ended) := rfl
  obtain ⟨es, hrelease, hsigns⟩ := exec_release (s := ended) hb x.lease
  rw [exec_bind_ok hphase, exec_bind_ok hrelease]
  refine ⟨es ++ [.noted (.finished phase)], ?_, ?_⟩
  · rw [exec_note, Session.extend_extend]
    rfl
  · rw [signs_append, hsigns, signs_noted, List.append_nil]

theorem exec_cleanedUp_finish {f : Action Unit} {ss : List (Lease × Sign)} (phase : Phase)
    (hb : s.backend.Orderly) (hx : s.transactions[t]? = some x) (hf : Leaves ss s (f.exec s)) :
    ∃ es, (cleanedUp f (finish t phase)).exec s =
        ((f.exec s).1, (s.closed t x.lease phase).extend es) ∧
      signs es = ss ++ x.lease.signed .released := by
  obtain ⟨⟨es, hlog, hsigns⟩, -⟩ := hf
  obtain ⟨fs, hfinish, hsigns'⟩ := exec_finish (s := s.extend es) hb hx phase
  unfold cleanedUp
  rw [exec_bind, exec_attempt, hlog]
  dsimp only
  rw [exec_bind_ok hfinish, exec_conclude]
  refine ⟨es ++ fs, ?_, by rw [signs_append, hsigns, hsigns']⟩
  rw [Session.closed_extend, Session.extend_extend]

theorem exec_rollback (hb : s.backend.Orderly) (hx : s.transactions[t]? = some x)
    (ha : x.phase = .active) :
    ∃ es, (rollback t).exec s = (((control t Dialect.rollbackSql).exec s).1,
        (s.closed t x.lease .rolledBack).extend es) ∧
      signs es = (x.lease, .sent rollbackText) :: x.lease.signed .released := by
  have hcontrol := control_leaves hx ha Dialect.rollbackSql (Dialect.render_rollbackSql _)
  obtain ⟨es, hrun, hsigns⟩ := exec_cleanedUp_finish .rolledBack hb hx hcontrol
  refine ⟨es, ?_, hsigns⟩
  unfold rollback
  rw [exec_guarded hx ha, hrun]

theorem exec_cleanedUp_handled {α : Type} {g : Action α} {f : Outcome α → Action Unit}
    {ss : List (Lease × Sign)} (phase : Phase) (hb : s.backend.Orderly)
    (hx : s.transactions[t]? = some x) (hg : Leaves ss s (g.exec s))
    (hf : ∀ o es, (∀ e, o = .error e → e.isOrdinary) →
      ∃ fs, (f o).exec (s.extend es) = (.ok (), (s.extend es).extend fs) ∧ signs fs = []) :
    ∃ es, (cleanedUp (attempt g >>= f) (finish t phase)).exec s =
        (.ok (), (s.closed t x.lease phase).extend es) ∧
      signs es = ss ++ x.lease.signed .released := by
  obtain ⟨hleaves, hok⟩ := leaves_handled hb.ordinary hg hf
  obtain ⟨es, hrun, hsigns⟩ := exec_cleanedUp_finish phase hb hx hleaves
  rw [hok] at hrun
  exact ⟨es, hrun, hsigns⟩

theorem exec_abort (hb : s.backend.Orderly) (hx : s.transactions[t]? = some x)
    (ha : x.phase = .active) :
    ∃ es, (abort t).exec s = (.ok (), (s.closed t x.lease .rolledBack).extend es) ∧
      signs es = (x.lease, .sent rollbackText) :: x.lease.signed .released := by
  have hcontrol := control_leaves hx ha Dialect.rollbackSql (Dialect.render_rollbackSql _)
  unfold abort
  refine exec_cleanedUp_handled .rolledBack hb hx hcontrol fun o es ho => ?_
  cases o with
  | ok u => exact ⟨[], by rw [Session.extend_nil]; rfl, rfl⟩
  | error e =>
    refine ⟨[.noted (.rollbackFailed e)], ?_, rfl⟩
    dsimp only
    rw [if_pos (ho e rfl), exec_note]

/-- A commit that fails is followed by a rollback, and its own failure is the one that is told. -/
theorem exec_commit (hb : s.backend.Orderly) (hx : s.transactions[t]? = some x)
    (ha : x.phase = .active) :
    match ((control t Dialect.commitSql).exec s).1 with
    | .ok () => ∃ es, (commit t).exec s = (.ok (), (s.closed t x.lease .committed).extend es) ∧
        signs es = (x.lease, .sent commitText) :: x.lease.signed .released
    | .error e => ∃ es, (commit t).exec s = (.error e, (s.closed t x.lease .rolledBack).extend es) ∧
        signs es = (x.lease, .sent commitText) :: (x.lease, .sent rollbackText) ::
          x.lease.signed .released := by
  obtain ⟨⟨es, hlog, hsigns⟩, -⟩ :=
    control_leaves hx ha Dialect.commitSql (Dialect.render_commitSql _)
  unfold commit
  rw [exec_guarded hx ha, exec_bind, exec_attempt, hlog]
  generalize ((control t Dialect.commitSql).exec s).1 = o
  cases o with
  | ok u =>
    obtain ⟨fs, hrun, hsigns'⟩ := exec_finish (s := s.extend es) hb hx .committed
    refine ⟨es ++ fs, ?_, by rw [signs_append, hsigns, hsigns']; rfl⟩
    dsimp only
    rw [hrun, Session.closed_extend, Session.extend_extend]
  | error e =>
    obtain ⟨fs, hrun, hsigns'⟩ := exec_abort (s := s.extend es) hb hx ha
    refine ⟨es ++ fs, ?_, by rw [signs_append, hsigns, hsigns']; rfl⟩
    dsimp only
    rw [exec_bind_ok hrun, exec_throw, Session.closed_extend, Session.extend_extend]

end Action

end BoundSql
