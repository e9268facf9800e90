import BoundSql.Proofs.TransactionLedger
import Mathlib.Logic.Relation
/-!
The course of a session while an action runs in it that is put together from statements, from what
begins and ends transactions, and from whatever a caller does between these. Step by step, nothing is
lent twice, and a transaction keeps its connection until it ends and gives it back then.
-/

namespace BoundSql

open BoundSql.Action

namespace Session

/-- What happened to a connection between two moments of a session. What a turn shows of it hangs on
these alone, not on the operation. -/
def signsAt (s s' : Session) (lease : Lease) : List Sign :=
  Turn.signsAt ⟨.begin, s, .ok none, s'⟩ lease

inductive Step (s : Session) : Session → Prop where
  | note (n : Notice) : Step s (s.extend [.noted n])
  | run (target : Target) (c : Compiled) : Step s ((target.run c).exec s).2
  | operate (op : Operation) : Step s (s.turn op).after

abbrev Course : Session → Session → Prop :=
  Relation.ReflTransGen Step

variable {s s' : Session} {t : Nat} {x : Transaction}

theorem Change.of_silent {es : List Event} (hes : Silent es) (s : Session) :
    s.Change (s.extend es) :=
  .aside (aside_extend hes.signs s) fun _ hp => nomatch hp

theorem change_run (hs : s.driver.Sane) (target : Target) (c : Compiled) :
    s.Change ((target.run c).exec s).2 := by
  cases target with
  | database =>
    obtain ⟨ss, haside, hfresh⟩ := Target.run_database_aside hs c
    exact .aside haside fun p hp => .inl (hfresh p hp)
  | transaction t =>
    cases hx : s.transactions[t]? with
    | none =>
      obtain ⟨es, hes, hrun⟩ := Target.exec_run_unknown hx c
      rw [hrun]
      exact .of_silent hes s
    | some x =>
      by_cases ha : x.phase = .active
      · refine .aside (Target.run_transaction_leaves hx ha c).aside fun p hp => .inr ?_
        rw [List.mem_singleton.1 hp]
        exact ⟨Sign.noConfusion, t, x, hx, ha, rfl⟩
      · obtain ⟨es, hes, hrun⟩ := Target.exec_run_ended hx ha c
        rw [hrun]
        exact .of_silent hes s

theorem Step.change (h : s.Step s') (hc : s.Consistent) : s.Change s' := by
  cases h with
  | note n => exact .of_silent (silent_noted n) s
  | run target c => exact change_run hc.sane target c
  | operate op => exact (turn_effect hc.orderly hc.sane op).change

/-- Nothing is lent twice, however long a session is used. -/
theorem Course.consistent (h : s.Course s') (hc : s.Consistent) : s'.Consistent := by
  induction h with
  | refl => exact hc
  | tail _ hstep ih => exact (hstep.change ih).consistent ih

theorem Change.log (h : s.Change s') : ∃ es, s'.log = s.log ++ es := by
  obtain ⟨ss, hmoves⟩ := h.moves
  obtain ⟨es, hes, -⟩ := hmoves.log
  exact ⟨es, hes⟩

theorem Course.log (h : s.Course s') (hc : s.Consistent) : ∃ es, s'.log = s.log ++ es := by
  induction h with
  | refl => exact ⟨[], (List.append_nil _).symm⟩
  | tail h hstep ih =>
    obtain ⟨es, hes⟩ := ih
    obtain ⟨fs, hfs⟩ := (hstep.change (Course.consistent h hc)).log
    exact ⟨es ++ fs, by rw [hfs, hes, List.append_assoc]⟩

end Session

end BoundSql
