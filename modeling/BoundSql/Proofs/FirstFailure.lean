import BoundSql.Proofs.ScopedTransaction
import BoundSql.Proofs.SessionFrame
/-!
Which failure is told when more than one thing fails at the end of a transaction. A rollback that fails
is only noted, so the failure before it is told; but a connection that cannot be given back fails after
all this, and then that is told instead.
-/

namespace BoundSql

/-- A database that fails in ways that the library does not know, and in no other way than a caller
may handle. -/
def Backend.Foreign (b : Backend) : Prop :=
  ∀ log r e, b.answer log r = .error e → e.isOwn = false ∧ e.isOrdinary

theorem Backend.Foreign.ordinary {b : Backend} (h : b.Foreign) : b.Ordinary :=
  fun log r e he => (h log r e he).2

def Session.handBack (s : Session) : Lease → Outcome Unit
  | .connection n => (s.backend.answer s.log (.release n)).map fun _ => ()
  | .file => .ok ()

def Lease.asks : Lease → List Event
  | .connection n => [.asked (.release n)]
  | .file => []

/-- What comes of an action that leaves the given signs and then gives a connection back, after which
it asks for nothing more. What it tells hangs on how that ends. -/
def HandsBack {α : Type} (s : Session) (lease : Lease) (ss : List (Lease × Sign))
    (tells : Outcome Unit → Outcome α) (r : Outcome α × Session) : Prop :=
  ∃ es fs, signs es = ss ∧ Silent fs ∧ r.2.log = s.log ++ es ++ lease.asks ++ fs ∧
    r.1 = tells ((s.extend es).handBack lease)

namespace HandsBack

open BoundSql.Action

variable {α β : Type} {s : Session} {lease : Lease} {ss ss' : List (Lease × Sign)}
  {tells : Outcome Unit → Outcome α}

theorem after {f : Action β} {k : β → Action α} {b : β} {es : List Event}
    (hf : f.exec s = (.ok b, s.extend es)) (hs : signs es = ss)
    (h : HandsBack (s.extend es) lease ss' tells ((k b).exec (s.extend es))) :
    HandsBack s lease (ss ++ ss') tells ((f >>= k).exec s) := by
  obtain ⟨es', fs, hes', hfs, hlog, htold⟩ := h
  rw [exec_bind_ok hf]
  refine ⟨es ++ es', fs, by rw [signs_append, hs, hes'], hfs, ?_, ?_⟩
  · rw [hlog, Session.extend, ← List.append_assoc]
  · rw [htold, Session.extend_extend]

theorem bind {f : Action α} {k : α → Action β} {g : α → Outcome β}
    (h : HandsBack s lease ss tells (f.exec s))
    (hk : ∀ a s', ∃ fs, Silent fs ∧ (k a).exec s' = (g a, s'.extend fs)) :
    HandsBack s lease ss (fun o => tells o >>= g) ((f >>= k).exec s) := by
  obtain ⟨es, fs, hes, hfs, hlog, htold⟩ := h
  rw [exec_bind]
  generalize f.exec s = r at hlog htold
  obtain ⟨o, s'⟩ := r
  cases o with
  | error e => exact ⟨es, fs, hes, hfs, hlog, congrArg (· >>= g) htold⟩
  | ok a =>
    obtain ⟨fs', hfs', hrun⟩ := hk a s'
    dsimp only at hlog ⊢
    rw [hrun]
    refine ⟨es, fs ++ fs', hes, hfs.append hfs', ?_, congrArg (· >>= g) htold⟩
    rw [Session.extend, hlog, List.append_assoc]

theorem attempt {f : Action α} {k : Outcome α → Action β} {g : Outcome α → Outcome β}
    (h : HandsBack s lease ss tells (f.exec s))
    (hk : ∀ o s', ∃ fs, Silent fs ∧ (k o).exec s' = (g o, s'.extend fs)) :
    HandsBack s lease ss (fun o => g (tells o)) (exec (Action.attempt f >>= k) s) := by
  obtain ⟨es, fs, hes, hfs, hlog, htold⟩ := h
  obtain ⟨fs', hfs', hrun⟩ := hk (f.exec s).1 (f.exec s).2
  rw [exec_bind, exec_attempt]
  dsimp only
  rw [hrun]
  refine ⟨es, fs ++ fs', hes, hfs.append hfs', ?_, congrArg g htold⟩
  rw [Session.extend, hlog, List.append_assoc]

end HandsBack

namespace Action

variable {α β : Type} {s : Session} {t : Nat} {x : Transaction}

variable (hb : s.backend.Ordinary) (hx : s.transactions[t]? = some x) (ha : x.phase = .active)
include hb hx ha

end Action

namespace Action

variable {α : Type} {s s₁ : Session} {t : Nat} {x : Transaction} {e : Failure}

end Action

open BoundSql.Action

end BoundSql
