import BoundSql.Proofs.Outcome
import BoundSql.Session.Query
/-!
What single actions leave in the log of a session. Of all that happens only a few things concern the
connections that are set aside: that one is reserved, what is sent on it, and that it is released.
-/

namespace BoundSql

namespace Action

variable {α β : Type} {s s' : Session}

def exec (x : Action α) (s : Session) : Outcome α × Session :=
  x.run.run s

theorem exec_bind (x : Action α) (f : α → Action β) (s : Session) :
    (x >>= f).exec s =
      match x.exec s with
      | (.ok a, s') => (f a).exec s'
      | (.error e, s') => (.error e, s') := by
  show (ExceptT.bindCont f (x.run.run s).1).run (x.run.run s).2 = _
  unfold exec
  generalize x.run.run s = r
  obtain ⟨o, s'⟩ := r
  cases o <;> rfl

theorem exec_bind_ok {x : Action α} {f : α → Action β} {a : α} (h : x.exec s = (.ok a, s')) :
    (x >>= f).exec s = (f a).exec s' := by
  rw [exec_bind, h]

theorem exec_bind_error {x : Action α} {f : α → Action β} {e : Failure}
    (h : x.exec s = (.error e, s')) : (x >>= f).exec s = (.error e, s') := by
  rw [exec_bind, h]

theorem exec_bind_pure (x : Action α) (f : α → β) (s : Session) :
    (x >>= fun a => pure (f a)).exec s = ((x.exec s).1.map f, (x.exec s).2) := by
  rw [exec_bind]
  generalize x.exec s = r
  obtain ⟨o, s'⟩ := r
  cases o <;> rfl

theorem exec_pure (a : α) (s : Session) : (pure a : Action α).exec s = (.ok a, s) := rfl

theorem exec_throw (e : Failure) (s : Session) : (throw e : Action α).exec s = (.error e, s) := rfl

theorem exec_get (s : Session) : (get : Action Session).exec s = (.ok s, s) := rfl

theorem exec_attempt (x : Action α) (s : Session) :
    exec (attempt x) s = (.ok (x.exec s).1, (x.exec s).2) := rfl

theorem exec_conclude (o : Outcome α) (s : Session) : exec (conclude o) s = (o, s) := rfl

end Action

namespace Session

def extend (s : Session) (es : List Event) : Session :=
  { s with log := s.log ++ es }

variable (s : Session) (es fs : List Event)

@[simp] theorem extend_nil : s.extend [] = s := by
  simp [extend]

@[simp] theorem extend_extend : (s.extend es).extend fs = s.extend (es ++ fs) := by
  simp [extend]

@[simp] theorem transactions_extend : (s.extend es).transactions = s.transactions := rfl

end Session

/-- What can be seen of a connection that is set aside. -/
inductive Sign where
  | reserved
  | sent (sql : Text)
  | released
  deriving DecidableEq

def Event.sign? : Event → Option (Lease × Sign)
  | .asked (.reserve n) | .asked (.acquire n) => some (.connection n, .reserved)
  | .asked (.execute (.connection n) sql _) => some (.connection n, .sent sql)
  | .asked (.execute .file sql _) => some (.file, .sent sql)
  | .asked (.release n) => some (.connection n, .released)
  | _ => none

def signs (es : List Event) : List (Lease × Sign) :=
  es.filterMap Event.sign?

@[simp] theorem signs_append (es fs : List Event) : signs (es ++ fs) = signs es ++ signs fs :=
  List.filterMap_append

@[simp] theorem signs_nil : signs [] = [] := rfl

@[simp] theorem signs_noted (n : Notice) : signs [.noted n] = [] := rfl

def Silent (es : List Event) : Prop :=
  ∀ e ∈ es, ∃ n, e = .noted n

theorem Silent.signs {es : List Event} (h : Silent es) : signs es = [] := by
  refine List.filterMap_eq_nil_iff.2 fun e he => ?_
  obtain ⟨n, rfl⟩ := h e he
  rfl

theorem Silent.append {es fs : List Event} (he : Silent es) (hf : Silent fs) : Silent (es ++ fs) :=
  fun e h => (List.mem_append.1 h).elim (he e) (hf e)

theorem silent_nil : Silent [] := fun _ he => nomatch he

theorem silent_noted (n : Notice) : Silent [.noted n] := by
  intro e he
  exact ⟨n, List.mem_singleton.1 he⟩

/-- A database that fails in no other way than a caller may handle. -/
def Backend.Ordinary (b : Backend) : Prop :=
  ∀ log r e, b.answer log r = .error e → e.isOrdinary

/-- A database that fails in no other way than a caller may handle, and that takes back every
connection. -/
structure Backend.Orderly (b : Backend) : Prop where
  ordinary : ∀ log r e, b.answer log r = .error e → e.isOrdinary
  releases : ∀ log n, ∃ a, b.answer log (.release n) = .ok a

theorem Backend.canned_orderly {rows : Answer} {failing : Text} {cause : Failure}
    (h : cause.isOrdinary) : (canned rows failing cause).Orderly where
  ordinary log r e he := by
    simp only [canned] at he
    split at he
    · split at he
      · cases he
        exact h
      · cases he
    · cases he
  releases log n := ⟨none, rfl⟩

/-- An action added to the log and changed nothing else. Of connections it left the given signs, and
it failed in no way that is out of order. -/
structure Leaves {α : Type} (ss : List (Lease × Sign)) (s : Session) (r : Outcome α × Session) :
    Prop where
  log : ∃ es, r.2 = s.extend es ∧ signs es = ss
  ordinary : s.backend.Ordinary → ∀ e, r.1 = .error e → e.isOrdinary

namespace Action

variable {α β : Type} {s : Session} {ss ss' : List (Lease × Sign)}

theorem exec_request (r : Request) (s : Session) :
    (request r).exec s = (s.backend.answer s.log r, s.extend [.asked r]) := rfl

theorem exec_demand (r : Request) (s : Session) :
    (demand r).exec s =
      ((s.backend.answer s.log r).map fun _ => (), s.extend [.asked r]) := by
  unfold demand
  rw [exec_bind, exec_request]
  cases s.backend.answer s.log r <;> rfl

theorem exec_note (n : Notice) (s : Session) :
    exec (note n) s = (.ok (), s.extend [.noted n]) := rfl

theorem leaves_of_ok {es : List Event} (a : α) (h : signs es = ss) :
    Leaves ss s ((.ok a, s.extend es) : Outcome α × Session) :=
  ⟨⟨es, rfl, h⟩, fun _ _ he => by cases he⟩

theorem leaves_pure (a : α) (s : Session) : Leaves [] s (exec (pure a) s) :=
  ⟨⟨[], by rw [exec_pure, Session.extend_nil], rfl⟩, fun _ _ he => by cases he⟩

theorem leaves_note (n : Notice) (s : Session) : Leaves [] s (exec (note n) s) :=
  leaves_of_ok () rfl

theorem leaves_request (r : Request) (s : Session) :
    Leaves (signs [.asked r]) s ((request r).exec s) :=
  ⟨⟨_, rfl, rfl⟩, fun hb _ he => hb _ _ _ he⟩

theorem leaves_bind {x : Action α} {f : α → Action β} (hx : Leaves ss s (x.exec s))
    (hf : ∀ a es, Leaves [] (s.extend es) ((f a).exec (s.extend es))) :
    Leaves ss s ((x >>= f).exec s) := by
  obtain ⟨⟨es, hlog, hsigns⟩, hordinary⟩ := hx
  rw [exec_bind]
  generalize x.exec s = r at hlog hordinary
  obtain ⟨o, s'⟩ := r
  cases o with
  | error e => exact ⟨⟨es, hlog, hsigns⟩, fun hb e' he => hordinary hb e' (by cases he; rfl)⟩
  | ok a =>
    obtain rfl : s' = s.extend es := hlog
    obtain ⟨⟨fs, hlog', hsigns'⟩, hordinary'⟩ := hf a es
    refine ⟨⟨es ++ fs, ?_, ?_⟩, hordinary'⟩
    · rw [← Session.extend_extend]
      exact hlog'
    · rw [signs_append, hsigns, hsigns', List.append_nil]

theorem leaves_after {x : Action α} {f : α → Action β} {a : α} {es : List Event}
    (hx : x.exec s = (.ok a, s.extend es)) (he : signs es = [])
    (hf : Leaves ss (s.extend es) ((f a).exec (s.extend es))) : Leaves ss s ((x >>= f).exec s) := by
  obtain ⟨⟨fs, hlog, hsigns⟩, hordinary⟩ := hf
  rw [exec_bind_ok hx]
  refine ⟨⟨es ++ fs, ?_, ?_⟩, hordinary⟩
  · rw [hlog, Session.extend_extend]
  · rw [signs_append, he, hsigns, List.nil_append]

theorem leaves_attempt {x : Action α} {f : Outcome α → Action β} (hx : Leaves ss s (x.exec s))
    (hf : ∀ o es, (s.backend.Ordinary → ∀ e, o = .error e → e.isOrdinary) →
      Leaves ss' (s.extend es) ((f o).exec (s.extend es))) :
    Leaves (ss ++ ss') s (exec (attempt x >>= f) s) := by
  obtain ⟨⟨es, hlog, hsigns⟩, hordinary⟩ := hx
  rw [exec_bind, exec_attempt, hlog]
  dsimp only
  obtain ⟨⟨fs, hlog', hsigns'⟩, hordinary'⟩ := hf (x.exec s).1 es hordinary
  refine ⟨⟨es ++ fs, ?_, ?_⟩, hordinary'⟩
  · rw [hlog', Session.extend_extend]
  · rw [signs_append, hsigns, hsigns']

theorem leaves_handled {x : Action α} {f : Outcome α → Action β} {b : β} (hb : s.backend.Ordinary)
    (hx : Leaves ss s (x.exec s))
    (hf : ∀ o es, (∀ e, o = .error e → e.isOrdinary) →
      ∃ fs, (f o).exec (s.extend es) = (.ok b, (s.extend es).extend fs) ∧ signs fs = []) :
    Leaves ss s (exec (attempt x >>= f) s) ∧ (exec (attempt x >>= f) s).1 = .ok b := by
  obtain ⟨⟨es, hlog, hsigns⟩, hordinary⟩ := hx
  rw [exec_bind, exec_attempt, hlog]
  dsimp only
  obtain ⟨fs, hrun, hsigns'⟩ := hf (x.exec s).1 es (hordinary hb)
  rw [hrun, Session.extend_extend]
  exact ⟨leaves_of_ok b (by rw [signs_append, hsigns, hsigns', List.append_nil]), rfl⟩

theorem leaves_conclude {o : Outcome α}
    (h : s.backend.Ordinary → ∀ e, o = .error e → e.isOrdinary) :
    Leaves [] s (exec (conclude o) s) :=
  ⟨⟨[], by rw [exec_conclude, Session.extend_nil], rfl⟩, h⟩

theorem leaves_throw {e : Failure} (h : s.backend.Ordinary → e.isOrdinary) :
    Leaves [] s ((throw e : Action α).exec s) :=
  ⟨⟨[], by rw [exec_throw, Session.extend_nil], rfl⟩, fun hb e' he => by cases he; exact h hb⟩

theorem leaves_cleanedUp {x : Action α} {cleanup : Action Unit} (hx : Leaves ss s (x.exec s))
    (hc : ∀ s', Leaves ss' s' (cleanup.exec s')) :
    Leaves (ss ++ ss') s ((cleanedUp x cleanup).exec s) := by
  refine leaves_attempt hx fun o es ho => ?_
  exact leaves_bind (hc _) fun _ _ => leaves_conclude ho

theorem leaves_demand (r : Request) (hr : signs [.asked r] = ss) (s : Session) :
    Leaves ss s ((demand r).exec s) := by
  rw [← hr]
  exact leaves_bind (leaves_request r s) fun _ _ => leaves_pure _ _

variable {lease : Lease} {c : Compiled}

theorem executeFile_leaves (sql : Text) (params : List Value) (s : Session) :
    Leaves [(.file, .sent sql)] s ((executeFile sql params).exec s) := by
  refine leaves_bind (leaves_request (.execute .file sql params) s) fun answer es => ?_
  cases answer with
  | none => exact leaves_bind (leaves_demand .closeCursor rfl _) fun _ _ => leaves_pure _ _
  | some rows =>
    exact leaves_cleanedUp (leaves_bind (leaves_demand .fetchRows rfl _) fun _ _ => leaves_pure _ _)
      fun s' => leaves_demand .closeCursor rfl s'

theorem executeOn_leaves (lease : Lease) (sql : Text) (params : List Value) (s : Session) :
    Leaves [(lease, .sent sql)] s ((executeOn lease sql params).exec s) := by
  cases lease with
  | connection n =>
    exact leaves_bind (leaves_request (.execute (.connection n) sql params) s) fun _ _ =>
      leaves_pure _ _
  | file => exact executeFile_leaves sql params s

theorem exec_mark (c : Compiled) (s : Session) :
    ∃ m, (mark c).exec s = (.ok m, s.extend []) :=
  ⟨_, by rw [Session.extend_nil]; rfl⟩

theorem runThrough_leaves {send : Text → List Value → Action (List Record)}
    (h : ∀ s', s'.transactions = s.transactions → Leaves ss s' ((send c.sql c.params).exec s')) :
    Leaves ss s ((runThrough send c).exec s) := by
  unfold runThrough
  obtain ⟨m, hm⟩ := exec_mark c s
  refine leaves_after hm rfl (leaves_after (exec_note _ _) rfl ?_)
  rw [← List.append_nil ss]
  refine leaves_attempt (h _ rfl) fun o es ho => ?_
  cases o with
  | ok rows => exact leaves_bind (leaves_note _ _) fun _ _ => leaves_pure _ _
  | error e =>
    dsimp only
    split
    · exact leaves_throw fun hb => ho hb e rfl
    · exact leaves_bind (leaves_note _ _) fun _ _ => leaves_throw fun _ => rfl

theorem exec_runThrough (send : Text → List Value → Action (List Record)) (c : Compiled)
    (s : Session) :
    ∃ es fs, Silent es ∧ Silent fs ∧
      ((runThrough send c).exec s).2 = ((send c.sql c.params).exec (s.extend es)).2.extend fs := by
  unfold runThrough
  obtain ⟨m, hm⟩ := exec_mark c s
  rw [exec_bind_ok hm, Session.extend_nil, exec_bind_ok (exec_note _ _), exec_bind, exec_attempt]
  refine ⟨[.noted (.executing m c.params.length)], ?_⟩
  generalize (send c.sql c.params).exec (s.extend [.noted (.executing m c.params.length)]) = r
  obtain ⟨o, s'⟩ := r
  cases o with
  | ok rows => exact ⟨_, silent_noted _, silent_noted (.executed m rows.length), rfl⟩
  | error e =>
    dsimp only
    split
    · exact ⟨[], silent_noted _, silent_nil, by rw [exec_throw, Session.extend_nil]⟩
    · exact ⟨_, silent_noted _, silent_noted (.failed m e), rfl⟩

theorem exec_runThrough_own {send : Text → List Value → Action (List Record)} {e : Failure}
    (he : e.isOwn)
    (h : ∀ es, (send c.sql c.params).exec (s.extend es) = (.error e, s.extend es)) :
    ∃ es, Silent es ∧ (runThrough send c).exec s = (.error e, s.extend es) := by
  unfold runThrough
  obtain ⟨m, hm⟩ := exec_mark c s
  rw [exec_bind_ok hm, Session.extend_nil, exec_bind_ok (exec_note _ _), exec_bind, exec_attempt, h]
  refine ⟨_, silent_noted (.executing m c.params.length), ?_⟩
  dsimp only
  rw [he, Bool.true_or, if_pos rfl, exec_throw]

end Action

end BoundSql
