import BoundSql.Proofs.SessionFrame
/-!
Which statements a driver is handed. Whatever an action does besides, the statements that it hands over
are told by those of its steps, and one that ends well has handed over all of them.
-/

namespace BoundSql

def Event.statement? : Event → Option (Text × List Value)
  | .asked (.execute _ sql params) => some (sql, params)
  | _ => none

def statements (es : List Event) : List (Text × List Value) :=
  es.filterMap Event.statement?

@[simp] theorem statements_append (es fs : List Event) :
    statements (es ++ fs) = statements es ++ statements fs :=
  List.filterMap_append

@[simp] theorem statements_nil : statements [] = [] := rfl

theorem Silent.statements {es : List Event} (h : Silent es) : statements es = [] := by
  refine List.filterMap_eq_nil_iff.2 fun e he => ?_
  obtain ⟨n, rfl⟩ := h e he
  rfl

theorem Event.IsOpening.statement_eq_none {e : Event} (h : e.IsOpening) : e.statement? = none := by
  cases e with
  | noted n => rfl
  | asked r =>
    cases r with
    | execute => exact h.elim
    | _ => rfl

theorem statements_frame : Session.Frame (fun e => e.statement? = none)
    fun s s' => statements s'.log = statements s.log where
  refl _ := rfl
  trans h h' := h'.trans h
  happen s e he := by simp [Session.extend, statements, he]
  driver _ _ := rfl
  connections _ _ := rfl
  transactions _ _ _ := rfl

namespace Action

/-- An action hands over one statement up to the given number of times, and as often as that if it
ends well; it hands over no other statement. -/
def Hands {α : Type} (p : Text × List Value) (n : Nat) (x : Action α) : Prop :=
  ∀ s : Session, ∃ k ≤ n,
    statements (x.exec s).2.log = statements s.log ++ List.replicate k p ∧
      ∀ a, (x.exec s).1 = .ok a → k = n

variable {α β : Type} {p : Text × List Value} {n m : Nat}

theorem hands_bind {x : Action α} {f : α → Action β} (hx : Hands p n x) (hf : ∀ a, Hands p m (f a)) :
    Hands p (n + m) (x >>= f) := by
  intro s
  obtain ⟨k, hk, hlog, hok⟩ := hx s
  rw [exec_bind]
  generalize x.exec s = r at hlog hok
  obtain ⟨o, s'⟩ := r
  cases o with
  | error e => exact ⟨k, by omega, hlog, fun a ha => by cases ha⟩
  | ok a =>
    obtain ⟨k', hk', hlog', hok'⟩ := hf a s'
    refine ⟨k + k', by omega, ?_, fun b hb => ?_⟩
    · simp only at hlog
      rw [hlog', hlog, List.append_assoc, List.replicate_append_replicate]
    · rw [hok a rfl, hok' b hb]

theorem hands_after {x : Action α} {f : α → Action β} (hx : Hands p 0 x) (hf : ∀ a, Hands p n (f a)) :
    Hands p n (x >>= f) := by
  simpa using hands_bind hx hf

theorem hands_before {x : Action α} {f : α → Action β} (hx : Hands p n x) (hf : ∀ a, Hands p 0 (f a)) :
    Hands p n (x >>= f) :=
  hands_bind hx hf

theorem hands_of_log {x : Action α} (h : ∀ s, statements (x.exec s).2.log = statements s.log) :
    Hands p 0 x := fun s => ⟨0, Nat.le_refl 0, by simpa using h s, fun _ _ => rfl⟩

theorem hands_pure (a : α) : Hands p 0 (pure a) :=
  hands_of_log fun _ => rfl

theorem hands_get : Hands p 0 (get : Action Session) :=
  hands_of_log fun _ => rfl

theorem hands_conclude (o : Outcome α) : Hands p 0 (conclude o) :=
  hands_of_log fun _ => rfl

theorem hands_note (n : Notice) : Hands p 0 (note n) :=
  hands_of_log fun s => by simp [exec_note, Session.extend, statements, Event.statement?]

theorem hands_freshConnection : Hands p 0 freshConnection :=
  hands_of_log fun _ => rfl

theorem hands_demand {r : Request} (hr : Event.statement? (.asked r) = none) :
    Hands p 0 (demand r) :=
  hands_of_log fun s => by simp [exec_demand, Session.extend, statements, hr]

theorem hands_execute (endpoint : Endpoint) (sql : Text) (params : List Value) :
    Hands (sql, params) 1 (request (.execute endpoint sql params)) := fun s =>
  ⟨1, Nat.le_refl 1, by simp [exec_request, Session.extend, statements, Event.statement?],
    fun _ _ => rfl⟩

theorem Hands.log_eq {x : Action α} (h : Hands p 0 x) (s : Session) :
    statements (x.exec s).2.log = statements s.log := by
  obtain ⟨k, hk, hlog, -⟩ := h s
  obtain rfl : k = 0 := by omega
  simpa using hlog

theorem hands_attempt {x : Action α} {f : Outcome α → Action β} (hx : Hands p n x)
    (hok : ∀ a, Hands p 0 (f (.ok a)))
    (herror : ∀ e s, statements ((f (.error e)).exec s).2.log = statements s.log ∧
      ∀ b, ((f (.error e)).exec s).1 ≠ .ok b) : Hands p n (attempt x >>= f) := by
  intro s
  obtain ⟨k, hk, hlog, hk'⟩ := hx s
  rw [exec_bind, exec_attempt]
  generalize x.exec s = r at hlog hk' ⊢
  obtain ⟨o, s'⟩ := r
  cases o with
  | ok a => exact ⟨k, hk, ((hok a).log_eq s').trans hlog, fun _ _ => hk' a rfl⟩
  | error e => exact ⟨k, hk, (herror e s').1.trans hlog, fun b hb => absurd hb ((herror e s').2 b)⟩

theorem hands_cleanedUp {x : Action α} {cleanup : Action Unit} (hx : Hands p n x)
    (hc : Hands p 0 cleanup) : Hands p n (cleanedUp x cleanup) := by
  refine hands_attempt hx (fun a => hands_after hc fun _ => hands_conclude _) fun e s => ?_
  refine ⟨(hands_after hc fun _ => hands_conclude _).log_eq s, fun a => ?_⟩
  rw [exec_bind]
  generalize cleanup.exec s = r
  obtain ⟨o, s'⟩ := r
  cases o <;> simp [exec_conclude]

section Drivers

variable (sql : Text) (params : List Value)

theorem hands_ensureOpen : Hands p 0 ensureOpen :=
  hands_of_log (statements_frame.ensureOpen fun _ he => he.statement_eq_none)

theorem hands_awaitLock : Hands p 0 awaitLock :=
  hands_of_log statements_frame.awaitLock

theorem hands_executeAt (endpoint : Endpoint) :
    Hands (sql, params) 1 (executeAt endpoint sql params) :=
  hands_before (hands_execute endpoint sql params) fun _ => hands_pure _

theorem hands_executeFile : Hands (sql, params) 1 (executeFile sql params) := by
  refine hands_before (hands_execute .file sql params) fun answer => ?_
  cases answer with
  | none => exact hands_after (hands_demand rfl) fun _ => hands_pure _
  | some rows =>
    exact hands_cleanedUp (hands_after (hands_demand rfl) fun _ => hands_pure _) (hands_demand rfl)

theorem hands_executeAnywhere : Hands (sql, params) 1 (executeAnywhere sql params) := by
  refine hands_after hands_ensureOpen fun _ => hands_after hands_get fun s => ?_
  split
  · exact hands_executeAt sql params .driver
  · refine hands_after hands_freshConnection fun n => hands_after (hands_demand rfl) fun _ => ?_
    exact hands_cleanedUp (hands_executeAt sql params (.connection n)) (hands_demand rfl)
  · exact hands_after hands_awaitLock fun _ => hands_executeFile sql params

theorem hands_executeOn (lease : Lease) : Hands (sql, params) 1 (executeOn lease sql params) := by
  cases lease with
  | connection n => exact hands_executeAt sql params (.connection n)
  | file => exact hands_executeFile sql params

theorem hands_executeIn (t : Nat) : Hands (sql, params) 1 (executeIn t sql params) :=
  hands_after (hands_of_log (statements_frame.transaction t)) fun x =>
    hands_after (hands_of_log (statements_frame.ensureActive _ x)) fun _ =>
      hands_executeOn sql params x.lease

end Drivers

theorem hands_runThrough {send : Text → List Value → Action (List Record)} {c : Compiled}
    (h : Hands p n (send c.sql c.params)) : Hands p n (runThrough send c) := by
  refine hands_after (hands_after hands_get fun s => hands_pure _) fun mark =>
    hands_after (hands_note _) fun _ => hands_attempt h (fun rows => ?_) fun e s => ?_
  · exact hands_after (hands_note _) fun _ => hands_pure _
  · dsimp only
    split
    · exact ⟨rfl, fun _ => nofun⟩
    · exact ⟨(hands_note _).log_eq (p := p) s, fun _ => nofun⟩

end Action

theorem Target.hands_run (target : Target) (c : Compiled) :
    Action.Hands (c.sql, c.params) 1 (target.run c) := by
  cases target with
  | database => exact Action.hands_runThrough (Action.hands_executeAnywhere c.sql c.params)
  | transaction t => exact Action.hands_runThrough (Action.hands_executeIn c.sql c.params t)

end BoundSql
