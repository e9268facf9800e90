import BoundSql.Proofs.SessionTrace
/-!
What actions keep of a session. What is kept by every single thing that is done to a session, and by
one of them after the other, is kept by all actions, for they are put together from these.
-/

namespace BoundSql

/-- A relation between a session and what becomes of it when only admitted things happen. -/
structure Session.Frame (admits : Event → Prop) (R : Session → Session → Prop) : Prop where
  refl : ∀ s, R s s
  trans : ∀ {s s' s'' : Session}, R s s' → R s' s'' → R s s''
  happen : ∀ s {e : Event}, admits e → R s (s.extend [e])
  driver : ∀ (s : Session) (d : Driver), R s { s with driver := d }
  connections : ∀ (s : Session) (n : Nat), R s { s with connections := n }
  transactions : ∀ (s : Session) (xs : List Transaction), s.transactions.length ≤ xs.length →
    R s { s with transactions := xs }

/-- Whether something happens while a driver is opened. -/
def Event.IsOpening : Event → Prop
  | .asked .connect | .asked (.createPool ..) | .asked (.openFile _) => True
  | .noted (.poolConnected _) | .noted (.fileConnected _) => True
  | _ => False

def Action.Keeps {α : Type} (R : Session → Session → Prop) (x : Action α) : Prop :=
  ∀ s : Session, R s (x.exec s).2

namespace Session.Frame

open BoundSql.Action (Keeps)

variable {α β : Type} {admits : Event → Prop} {R : Session → Session → Prop}
  (h : Frame admits R)
include h

protected theorem bind {x : Action α} {f : α → Action β} (hx : Keeps R x)
    (hf : ∀ a, Keeps R (f a)) : Keeps R (x >>= f) := by
  intro s
  have hfirst := hx s
  rw [Action.exec_bind]
  generalize x.exec s = r at hfirst ⊢
  obtain ⟨o, s'⟩ := r
  cases o with
  | error e => exact hfirst
  | ok a => exact h.trans hfirst (hf a s')

protected theorem pure (a : α) : Keeps R (pure a) := h.refl

protected theorem throw (e : Failure) : Keeps R (throw e : Action α) := h.refl

protected theorem get : Keeps R (get : Action Session) := h.refl

theorem conclude (o : Outcome α) : Keeps R (Action.conclude o) := h.refl

omit h in
theorem attempt {x : Action α} (hx : Keeps R x) :
    Keeps R (Action.attempt x : Action (Outcome α)) := hx

theorem note {n : Notice} (hn : admits (.noted n)) : Keeps R (Action.note n) :=
  fun s => h.happen s hn

theorem request {r : Request} (hr : admits (.asked r)) : Keeps R (Action.request r) :=
  fun s => h.happen s hr

theorem demand {r : Request} (hr : admits (.asked r)) : Keeps R (Action.demand r) :=
  h.bind (h.request hr) fun _ => h.pure ()

theorem setDriver (d : Driver) : Keeps R (Action.setDriver d) :=
  fun s => h.driver s d

theorem freshConnection : Keeps R Action.freshConnection :=
  fun s => h.connections s _

theorem cleanedUp {x : Action α} {cleanup : Action Unit} (hx : Keeps R x) (hc : Keeps R cleanup) :
    Keeps R (Action.cleanedUp x cleanup) :=
  h.bind (attempt hx) fun _ => h.bind hc fun _ => h.conclude _

theorem connect (hopen : ∀ e : Event, e.IsOpening → admits e) : Keeps R Action.connect := by
  refine h.bind h.get fun s => ?_
  split
  · exact h.demand (hopen _ trivial)
  · split
    · exact h.pure _
    · unfold Action.openPool
      split
      · exact h.throw _
      split
      · exact h.throw _
      · exact h.bind (h.demand (hopen _ trivial)) fun _ =>
          h.bind (h.setDriver _) fun _ => h.note (hopen _ trivial)
  · split
    · exact h.pure _
    · exact h.bind (h.demand (hopen _ trivial)) fun _ =>
        h.bind (h.setDriver _) fun _ => h.note (hopen _ trivial)

theorem ensureOpen (hopen : ∀ e : Event, e.IsOpening → admits e) : Keeps R Action.ensureOpen := by
  refine h.bind h.get fun s => ?_
  split
  · exact h.pure _
  · exact h.connect hopen
  · exact h.connect hopen

theorem awaitLock : Keeps R Action.awaitLock := by
  refine h.bind (h.bind h.get fun s => ?_) fun b => ?_
  · split <;> exact h.pure _
  · split
    · exact h.throw _
    · exact h.pure _

theorem transaction (t : Nat) : Keeps R (Action.transaction t) := by
  refine h.bind h.get fun s => ?_
  split
  · exact h.pure _
  · exact h.throw _

theorem ensureActive (operation : String) (x : Transaction) :
    Keeps R (Action.ensureActive operation x) := by
  unfold Action.ensureActive
  split
  · exact h.pure _
  · exact h.throw _

section Sending

variable (hask : ∀ r, admits (.asked r)) (sql : Text) (params : List Value)
include hask

theorem executeAt (endpoint : Endpoint) : Keeps R (Action.executeAt endpoint sql params) :=
  h.bind (h.request (hask _)) fun _ => h.pure _

theorem executeFile : Keeps R (Action.executeFile sql params) := by
  refine h.bind (h.request (hask _)) fun answer => ?_
  cases answer with
  | none => exact h.bind (h.demand (hask _)) fun _ => h.pure _
  | some rows =>
    exact h.cleanedUp (h.bind (h.demand (hask _)) fun _ => h.pure _) (h.demand (hask _))

theorem executeOn (lease : Lease) : Keeps R (Action.executeOn lease sql params) := by
  cases lease with
  | connection n => exact h.executeAt hask sql params (.connection n)
  | file => exact h.executeFile hask sql params

theorem executeIn (t : Nat) : Keeps R (Action.executeIn t sql params) :=
  h.bind (h.transaction t) fun x => h.bind (h.ensureActive _ x) fun _ =>
    h.executeOn hask sql params x.lease

theorem executeAnywhere (hopen : ∀ e : Event, e.IsOpening → admits e) :
    Keeps R (Action.executeAnywhere sql params) := by
  refine h.bind (h.ensureOpen hopen) fun _ => h.bind h.get fun s => ?_
  split
  · exact h.executeAt hask sql params .driver
  · refine h.bind h.freshConnection fun n => h.bind (h.demand (hask _)) fun _ => ?_
    exact h.cleanedUp (h.executeAt hask sql params (.connection n)) (h.demand (hask _))
  · exact h.bind h.awaitLock fun _ => h.executeFile hask sql params

theorem send (hopen : ∀ e : Event, e.IsOpening → admits e) (target : Target) :
    Keeps R (target.send sql params) := by
  cases target with
  | database => exact h.executeAnywhere hask sql params hopen
  | transaction t => exact h.executeIn hask sql params t

end Sending

end Session.Frame

section Whole

open BoundSql.Action (Keeps)

namespace Session.Frame

variable {α : Type} {R : Session → Session → Prop} (h : Frame (fun _ => True) R)
include h

theorem runThrough {send : Text → List Value → Action (List Record)} {c : Compiled}
    (hs : Keeps R (send c.sql c.params)) : Keeps R (Action.runThrough send c) := by
  refine h.bind (h.bind h.get fun s => h.pure _) fun mark =>
    h.bind (h.note trivial) fun _ => h.bind (attempt hs) fun o => ?_
  cases o with
  | ok rows => exact h.bind (h.note trivial) fun _ => h.pure _
  | error e =>
    dsimp only
    split
    · exact h.throw _
    · exact h.bind (h.note trivial) fun _ => h.throw _

theorem run (target : Target) (c : Compiled) : Keeps R (target.run c) :=
  h.runThrough (h.send (fun _ => trivial) c.sql c.params (fun _ _ => trivial) target)

theorem prepare (q : Query) (terminal : Terminal) : Keeps R (q.prepare terminal) := by
  intro s
  unfold Query.prepare
  cases terminal.offeredBy q.builder.kind with
  | false => exact h.refl s
  | true =>
    cases terminal.compile q.builder with
    | error e => exact h.refl s
    | ok c =>
      cases terminal.isNoted q.builder with
      | true => cases q.target <;> exact h.happen s trivial
      | false => cases q.target <;> exact h.refl s

theorem perform (q : Query) (terminal : Terminal) :
    Keeps R (ExceptT.lift (q.perform terminal) : Action (Query × Outcome Reply)) := by
  intro s
  have hprepare : R s ((q.prepare terminal).run.run s).2 := h.prepare q terminal s
  show R s ((q.perform terminal).run s).2
  unfold Query.perform
  rw [StateT.run_bind]
  generalize (q.prepare terminal).run.run s = r at hprepare ⊢
  obtain ⟨o, s'⟩ := r
  cases o with
  | error e => exact hprepare
  | ok p => exact h.trans hprepare (h.run p.2 p.1 s')

theorem setPhase (t : Nat) (phase : Phase) : Keeps R (Action.setPhase t phase) :=
  fun s => h.transactions s _ (Nat.le_of_eq (List.length_modify ..).symm)

theorem setLocked (isLocked : Bool) : Keeps R (Action.setLocked isLocked) := by
  intro s
  obtain ⟨context, driver⟩ := s
  cases driver with
  | direct => exact h.refl _
  | pooled => exact h.refl _
  | file path isOpen => exact h.driver _ (.file path isOpen isLocked)

theorem release (lease : Lease) : Keeps R (Action.release lease) := by
  cases lease with
  | connection n => exact h.demand trivial
  | file => exact h.setLocked false

theorem finish (t : Nat) (phase : Phase) : Keeps R (Action.finish t phase) :=
  h.bind (h.transaction t) fun x => h.bind (h.setPhase t phase) fun _ =>
    h.bind (h.release x.lease) fun _ => h.note trivial

theorem control (t : Nat) (sql : Dialect → Text) : Keeps R (Action.control t sql) :=
  h.bind h.get fun _ => h.bind (h.bind h.get fun _ => h.pure _) fun c =>
    h.bind (h.runThrough (h.executeIn (fun _ => trivial) c.sql c.params t)) fun _ => h.pure ()

theorem rollback (t : Nat) : Keeps R (Action.rollback t) :=
  h.bind (h.transaction t) fun x => h.bind (h.ensureActive _ x) fun _ =>
    h.cleanedUp (h.control t _) (h.finish t .rolledBack)

theorem abort (t : Nat) : Keeps R (Action.abort t) := by
  refine h.cleanedUp (h.bind (attempt (h.control t _)) fun o => ?_) (h.finish t .rolledBack)
  cases o with
  | ok u => exact h.pure ()
  | error e =>
    dsimp only
    split
    · exact h.note trivial
    · exact h.throw _

theorem commit (t : Nat) : Keeps R (Action.commit t) := by
  refine h.bind (h.transaction t) fun x => h.bind (h.ensureActive _ x) fun _ =>
    h.bind (attempt (h.control t _)) fun o => ?_
  cases o with
  | ok u => exact h.finish t .committed
  | error e => exact h.bind (h.abort t) fun _ => h.throw e

theorem reserve : Keeps R Action.reserve := by
  refine h.bind (h.ensureOpen fun _ _ => trivial) fun _ => h.bind h.get fun s => ?_
  split
  · exact h.bind h.freshConnection fun n => h.bind (h.demand trivial) fun _ => h.pure _
  · exact h.bind h.freshConnection fun n => h.bind (h.demand trivial) fun _ => h.pure _
  · exact h.bind h.awaitLock fun _ => h.bind (h.setLocked true) fun _ => h.pure _

theorem enroll (lease : Lease) : Keeps R (Action.enroll lease) :=
  fun s => h.transactions s _ (by simp)

theorem startOn (lease : Lease) : Keeps R (Action.startOn lease) :=
  h.bind h.get fun _ => h.bind (h.bind h.get fun _ => h.pure _) fun c =>
    h.bind (h.runThrough (h.executeOn (fun _ => trivial) c.sql c.params lease)) fun _ =>
      h.bind h.get fun _ => h.note trivial

theorem begin : Keeps R Action.begin := by
  refine h.bind h.reserve fun lease => h.bind (attempt (h.startOn lease)) fun o => ?_
  cases o with
  | ok u => exact h.enroll lease
  | error e => exact h.bind (h.release lease) fun _ => h.throw e

end Session.Frame

end Whole

end BoundSql
