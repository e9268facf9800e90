import BoundSql.Proofs.TransactionFate
import Mathlib.Data.List.Induction
/-!
Sessions in use, over any number of turns: what every connection that was set aside received, when it
was given back, and that a transaction that has ended stays as it is.
-/

namespace BoundSql

namespace Session

def play (s : Session) : List Operation → List Turn
  | [] => []
  | op :: ops => s.turn op :: (s.turn op).after.play ops

def afterAll (s : Session) (ops : List Operation) : Session :=
  ops.foldl (fun s op => (s.turn op).after) s

theorem play_concat (s : Session) (ops : List Operation) (op : Operation) :
    s.play (ops ++ [op]) = s.play ops ++ [(s.afterAll ops).turn op] := by
  induction ops generalizing s with
  | nil => rfl
  | cons first ops ih => exact congrArg (s.turn first :: ·) (ih (s.turn first).after)

theorem afterAll_concat (s : Session) (ops : List Operation) (op : Operation) :
    s.afterAll (ops ++ [op]) = ((s.afterAll ops).turn op).after :=
  List.foldl_concat ..

/-- A session with which nothing was begun yet. -/
structure IsFresh (s : Session) : Prop where
  transactions : s.transactions = []
  isLocked : s.driver.isLocked = false

theorem isFresh_ofSettings {r : Registries} {settings : Settings} {b : Backend} {s : Session}
    (h : Session.ofSettings r settings b = .ok s) : s.IsFresh := by
  obtain ⟨dialect, -, h⟩ := Outcome.do_eq_ok.1 h
  obtain ⟨spec, -, h⟩ := Outcome.do_eq_ok.1 h
  cases h
  refine ⟨rfl, ?_⟩
  cases spec <;> rfl

theorem IsFresh.consistent {s : Session} (h : s.IsFresh) (hb : s.backend.Orderly) : s.Consistent where
  orderly := hb
  sane := by
    have hl := h.isLocked
    cases hd : s.driver with
    | direct | pooled => trivial
    | file path isOpen isLocked =>
      rw [hd] at hl
      exact fun hlocked => nomatch hl.symm.trans hlocked
  holds t x hx := by
    rw [h.transactions] at hx
    cases hx
  distinct t u x y hx := by
    rw [h.transactions] at hx
    cases hx

end Session

section

variable (turns : List Turn)

def trace (lease : Lease) : List Sign :=
  turns.flatMap fun turn => turn.signsAt lease

def ownTrace (t : Nat) (lease : Lease) : List Sign :=
  trace (turns.filter fun turn => turn.isOf t) lease

def issuedTexts (t : Nat) : List Text :=
  turns.flatMap fun turn => turn.issued t

/-- How a transaction that is in the given phase was ended, if it was: by one of the turns. -/
inductive Closing (t : Nat) : Phase → List Text → Prop
  | none : Closing t .active []
  | turn {turn : Turn} {phase : Phase} {texts : List Text} (hm : turn ∈ turns)
      (ha : turn.before.isActive t) (he : turn.Ending t phase texts) : Closing t phase texts

/-- What a transaction did with its connection: in its own turns it set it aside, sent the beginning,
then what was issued and what ended it, and gave it back if it has ended. -/
structure Account (t : Nat) (x : Transaction) : Prop where
  own : ∃ texts, Closing turns t x.phase texts ∧
    ownTrace turns t x.lease =
      .reserved :: (beginText :: issuedTexts turns t ++ texts).map .sent ++
        if x.phase = .active then [] else [.released]
  /-- No other turn concerns the connection; a file may be used by others before and after. -/
  others : ∀ turn ∈ turns, turn.isOf t = false → (x.lease = .file → turn.after.isActive t) →
    turn.signsAt x.lease = []
  /-- The connection is given back in just that turn in which the transaction ends. -/
  released : ∀ turn ∈ turns, turn.isOf t →
    (.released ∈ turn.signsAt x.lease ↔ turn.before.isActive t ∧ turn.after.isActive t = false)

end

section

variable {turns : List Turn} {turn : Turn} {t : Nat} {x y : Transaction} {lease : Lease}
  {phase : Phase} {texts : List Text}

theorem forall_mem_concat {p : Turn → Prop} (h : ∀ turn ∈ turns, p turn) (hp : p turn) :
    ∀ turn' ∈ turns ++ [turn], p turn' :=
  List.forall_mem_append.2 ⟨h, List.forall_mem_singleton.2 hp⟩

theorem trace_concat : trace (turns ++ [turn]) lease = trace turns lease ++ turn.signsAt lease := by
  simp [trace]

theorem trace_eq_nil : trace turns lease = [] ↔ ∀ turn ∈ turns, turn.signsAt lease = [] :=
  List.flatMap_eq_nil_iff

theorem ownTrace_concat (h : turn.isOf t) :
    ownTrace (turns ++ [turn]) t lease = ownTrace turns t lease ++ turn.signsAt lease := by
  rw [ownTrace, List.filter_append, List.filter_singleton, h]
  exact trace_concat

theorem ownTrace_concat_of_not (h : turn.isOf t = false) :
    ownTrace (turns ++ [turn]) t lease = ownTrace turns t lease := by
  rw [ownTrace, List.filter_append, List.filter_singleton, h]
  simp [ownTrace]

theorem issuedTexts_concat :
    issuedTexts (turns ++ [turn]) t = issuedTexts turns t ++ turn.issued t := by
  simp [issuedTexts]

theorem Closing.append (h : Closing turns t phase texts) : Closing (turns ++ [turn]) t phase texts := by
  cases h with
  | none => exact .none
  | turn hm ha he => exact .turn (List.mem_append_left _ hm) ha he

theorem Closing.texts_of_active (h : Closing turns t .active texts) : texts = [] := by
  cases h with
  | none => rfl
  | turn hm ha he => exact absurd rfl he.phase_ne

theorem Account.kept (h : Account turns t x) (hc : turn.before.Consistent) (he : turn.Effect)
    (hx : turn.before.transactions[t]? = some x) (hx' : turn.after.transactions[t]? = some x)
    (hs : turn.isOf t → turn.signsAt x.lease = (turn.issued t).map .sent) :
    Account (turns ++ [turn]) t x := by
  have hactive : turn.before.isActive t = turn.after.isActive t := by
    simp [Session.isActive, hx, hx']
  refine ⟨?_, ?_, ?_⟩
  · obtain ⟨texts, hclosing, hown⟩ := h.own
    refine ⟨texts, hclosing.append, ?_⟩
    have hown' : ownTrace (turns ++ [turn]) t x.lease =
        ownTrace turns t x.lease ++ (turn.issued t).map .sent := by
      cases hof : turn.isOf t with
      | true => rw [ownTrace_concat hof, hs hof]
      | false =>
        rw [ownTrace_concat_of_not hof, Turn.issued_of_not_isOf hof]
        simp
    rw [hown', hown, issuedTexts_concat]
    -- Only while it is active is anything issued, and as long it has no end.
    by_cases ha : x.phase = .active
    · rw [ha] at hclosing
      simp [ha, hclosing.texts_of_active]
    · rw [Turn.issued_eq_nil fun _ _ => Session.not_isActive hx ha]
      simp
  · refine forall_mem_concat h.others fun hof hfile => ?_
    by_contra hne
    have ha : x.lease = .file → x.phase = .active := fun hl => by
      obtain ⟨y, hy, ha⟩ := Session.isActive_iff.1 (hfile hl)
      cases hx'.symm.trans hy
      exact ha
    -- The connection was neither new nor that of another transaction.
    rcases he.shown hne with hf | ⟨u, y, hy, hya, hl, hu⟩
    · obtain ⟨hl, hp⟩ := hc.ne_fresh hf hx rfl
      exact hp (ha hl)
    · obtain rfl := hc.distinct u t y x hy hx hl fun hl' => ⟨hya, ha (hl.symm.trans hl')⟩
      rw [hu] at hof
      cases hof
  · refine forall_mem_concat h.released fun hof => ?_
    rw [hs hof, hactive]
    simp

theorem Account.ended (h : Account turns t y) (hy : turn.before.transactions[t]? = some y)
    (ha : y.phase = .active) (hx : turn.after.transactions[t]? = some x) (hl : x.lease = y.lease)
    (he : turn.Ending t x.phase texts) (hs : turn.signsAt x.lease = texts.map .sent ++ [.released]) :
    Account (turns ++ [turn]) t x := by
  have hof : turn.isOf t := he.isOf_iff.2 rfl
  have hbefore : turn.before.isActive t := Session.isActive_iff.2 ⟨y, hy, ha⟩
  refine ⟨⟨texts, .turn (List.mem_append_right _ (List.mem_singleton.2 rfl)) hbefore he, ?_⟩, ?_, ?_⟩
  · obtain ⟨texts', hclosing, hown⟩ := h.own
    rw [ha] at hclosing hown
    obtain rfl := hclosing.texts_of_active
    rw [ownTrace_concat hof, hs, hl, hown, issuedTexts_concat, he.issued_eq_nil, if_neg he.phase_ne]
    simp
  · rw [hl]
    refine forall_mem_concat h.others fun hof' => ?_
    rw [hof] at hof'
    cases hof'
  · rw [hl]
    refine forall_mem_concat h.released fun _ => ?_
    rw [← hl, hs, Session.not_isActive hx he.phase_ne]
    simp [hbefore]

theorem Account.opened (hof : turn.isOf t) (ha : x.phase = .active)
    (hs : turn.signsAt x.lease = [.reserved, .sent beginText])
    (hbefore : turn.before.isActive t = false)
    (hunborn : ∀ turn ∈ turns, turn.before.isActive t = false ∧ turn.after.isActive t = false ∧
      (turn.isOf t → ∀ lease, turn.signsAt lease = []))
    (hunseen : x.lease ≠ .file → trace turns x.lease = []) : Account (turns ++ [turn]) t x := by
  have hissued : ∀ turn : Turn, turn.before.isActive t = false → turn.issued t = [] :=
    fun turn h => Turn.issued_eq_nil fun _ _ => h
  have hnone : ownTrace turns t x.lease = [] := trace_eq_nil.2 fun turn hm => by
    obtain ⟨hm, hof⟩ := List.mem_filter.1 hm
    exact (hunborn turn hm).2.2 hof x.lease
  have htexts : issuedTexts turns t = [] :=
    List.flatMap_eq_nil_iff.2 fun turn hm => hissued turn (hunborn turn hm).1
  refine ⟨⟨[], ha ▸ .none, ?_⟩, ?_, ?_⟩
  · rw [ownTrace_concat hof, hnone, hs, issuedTexts_concat, htexts, hissued turn hbefore, if_pos ha]
    rfl
  · refine forall_mem_concat (fun turn' hm _ hfile => ?_) fun hof' => ?_
    · by_cases hl : x.lease = .file
      · nomatch (hunborn turn' hm).2.1.symm.trans (hfile hl)
      · exact trace_eq_nil.1 (hunseen hl) turn' hm
    · rw [hof] at hof'
      cases hof'
  · refine forall_mem_concat (fun turn' hm hof' => ?_) fun _ => ?_
    · obtain ⟨hactive, -, hsilent⟩ := hunborn turn' hm
      rw [hsilent hof', hactive]
      simp
    · rw [hs, hbefore]
      simp

end

/-- What holds after any number of turns: the account of every transaction, and what is needed to open
further ones. -/
structure Books (turns : List Turn) (s : Session) : Prop where
  consistent : s.Consistent
  unseen : ∀ n, s.connections < n → trace turns (.connection n) = []
  unborn : ∀ turn ∈ turns, ∀ t, s.transactions.length ≤ t → turn.before.isActive t = false ∧
    turn.after.isActive t = false ∧ (turn.isOf t → ∀ lease, turn.signsAt lease = [])
  accounts : ∀ (t : Nat) (x : Transaction), s.transactions[t]? = some x → Account turns t x
  /-- A connection on which a beginning failed is not seen again. -/
  returned : ∀ turn ∈ turns, turn.operation = .begin → ∀ e, turn.outcome = .error e → ∀ n,
    turn.signsAt (.connection n) ≠ [] →
    trace turns (.connection n) = turn.signsAt (.connection n) ∧ n ≤ s.connections ∧
      ∀ (t : Nat) (x : Transaction), s.transactions[t]? = some x → x.lease ≠ .connection n

namespace Books

variable {s : Session}

theorem nil (h : s.Consistent) (ht : s.transactions = []) : Books [] s where
  consistent := h
  unseen _ _ := rfl
  unborn _ hm := nomatch hm
  accounts t x hx := by
    rw [ht] at hx
    cases hx
  returned _ hm := nomatch hm

variable {turns : List Turn} {turn : Turn}

variable (h : Books turns turn.before) (he : turn.Effect)

include h he

theorem unseen_concat {n : Nat} (hn : turn.after.connections < n) :
    trace (turns ++ [turn]) (.connection n) = [] := by
  obtain ⟨ss, hm⟩ := he.change.moves
  have hlt := Nat.lt_of_le_of_lt hm.connections hn
  rw [trace_concat, h.unseen n hlt, List.nil_append]
  refine he.signsAt_eq_nil (fun hf => Nat.not_le_of_lt hn hf.2.2) fun t x hx hl => ?_
  exact Nat.not_le_of_lt hlt (h.consistent.le_connections hx hl)

theorem unborn_concat : ∀ turn' ∈ turns ++ [turn], ∀ t, turn.after.transactions.length ≤ t →
    turn'.before.isActive t = false ∧ turn'.after.isActive t = false ∧
      (turn'.isOf t → ∀ lease, turn'.signsAt lease = []) := by
  refine forall_mem_concat (fun turn' hm t ht => ?_) fun t ht => ?_
  · exact h.unborn turn' hm t (Nat.le_trans he.length_le ht)
  · exact ⟨Session.not_isActive_of_le (Nat.le_trans he.length_le ht), Session.not_isActive_of_le ht,
      fun hof lease => he.signsAt_of_unborn hof (List.getElem?_eq_none ht) lease⟩

theorem account_concat {t : Nat} {x : Transaction} (hx : turn.after.transactions[t]? = some x) :
    Account (turns ++ [turn]) t x := by
  cases he.fate h.consistent hx with
  | kept hx' hs => exact (h.accounts t x hx').kept h.consistent he hx' hx hs
  | opened ht hof ha hf hs =>
    have hle := Nat.le_of_eq ht
    refine .opened hof ha hs (Session.not_isActive_of_le hle)
      (fun turn' hm => h.unborn turn' hm t hle) fun hl => ?_
    cases hlease : x.lease with
    | connection n =>
      rw [hlease] at hf
      exact h.unseen n hf.2.1
    | file => exact absurd hlease hl
  | ended hy ha hl hending hs => exact (h.accounts t _ hy).ended hy ha hx hl hending hs

theorem leases_concat {t n : Nat} {x : Transaction} (hx : turn.after.transactions[t]? = some x)
    (hl : x.lease = .connection n) : turn.isOf t ∧ turn.before.connections < n ∨
      ∃ y, turn.before.transactions[t]? = some y ∧ y.lease = .connection n := by
  cases he.fate h.consistent hx with
  | kept hx' hs => exact .inr ⟨x, hx', hl⟩
  | opened ht hof ha hf =>
    rw [hl] at hf
    exact .inl ⟨hof, hf.2.1⟩
  | ended hy ha hl' => exact .inr ⟨_, hy, hl'.symm.trans hl⟩

theorem concat : Books (turns ++ [turn]) turn.after where
  consistent := he.change.consistent h.consistent
  unseen n hn := h.unseen_concat he hn
  unborn := h.unborn_concat he
  accounts t x hx := h.account_concat he hx
  returned := by
    obtain ⟨ss, hm⟩ := he.change.moves
    refine forall_mem_concat (fun turn' hturn hop e ho n hne => ?_) fun hop e ho n hne => ?_
    · obtain ⟨htrace, hn, hleases⟩ := h.returned turn' hturn hop e ho n hne
      have hsilent : turn.signsAt (.connection n) = [] :=
        he.signsAt_eq_nil (fun hf => Nat.not_lt_of_le hn hf.2.1) hleases
      refine ⟨by rw [trace_concat, htrace, hsilent, List.append_nil],
        Nat.le_trans hn hm.connections, fun t x hx hl => ?_⟩
      rcases h.leases_concat he hx hl with ⟨-, hlt⟩ | ⟨y, hy, hyl⟩
      · exact Nat.not_lt_of_le hn hlt
      · exact hleases t y hy hyl
    · -- A beginning that fails is no turn of a transaction, so what it shows was new.
      have hf : Lease.Fresh turn.before turn.after (.connection n) := by
        rcases he.shown hne with hf | ⟨t, x, -, -, -, hof⟩
        · exact hf
        · rw [Turn.not_isOf_of_error hop ho] at hof
          cases hof
      refine ⟨by rw [trace_concat, h.unseen n hf.2.1, List.nil_append], hf.2.2, fun t x hx hl => ?_⟩
      rcases h.leases_concat he hx hl with ⟨hof, -⟩ | ⟨y, hy, hyl⟩
      · rw [Turn.not_isOf_of_error hop ho] at hof
        cases hof
      · exact Nat.not_le_of_lt hf.2.1 (h.consistent.le_connections hy hyl)

end Books

/-- What a beginning that failed with the given failure did: no connection was asked for, or there was
none to be had, or the one that was set aside was given back and is not used again. -/
inductive FailedBegin (turns : List Turn) (turn : Turn) (e : Failure) : Prop
  | unreserved (hs : turn.signs = [])
  | refused {n : Nat} (hs : turn.signs = [(.connection n, .reserved)])
      (hr : turn.before.RefusedAt turn.after e)
  | released {n : Nat}
      (hs : turn.signs = [(.connection n, .reserved), (.connection n, .sent beginText),
        (.connection n, .released)])
      (ht : trace turns (.connection n) = [.reserved, .sent beginText, .released])
  | unlocked (hs : turn.signs = [(.file, .sent beginText)])
      (hl : turn.after.driver.isLocked = false)

theorem Books.failedBegin {turns : List Turn} {s s₁ : Session} {e : Failure} (h : Books turns s)
    (hc : s₁.Consistent) (hm : s₁.turn .begin ∈ turns) (ho : (s₁.turn .begin).outcome = .error e) :
    (s₁.turn .begin).after.transactions = s₁.transactions ∧
      FailedBegin turns (s₁.turn .begin) e := by
  have hreturned := h.returned _ hm rfl e ho
  have hbegun := Action.begin_spec hc.orderly hc.sane
  cases hr : Action.begin.exec s₁ with
  | mk o s₂ =>
    rw [Operation.turn_begin hr] at ho hreturned ⊢
    rw [hr] at hbegun
    cases hbegun with
    | unreserved h =>
      cases ho
      cases h with
      | none h => exact ⟨h.transactions, .unreserved (Turn.signs_of_moves h.toMoves)⟩
      | refused h hf hr => exact ⟨h.transactions, .refused (Turn.signs_of_moves h.toMoves) hr⟩
    | opened => cases ho
    | abandoned ha hf =>
      cases ho
      let turn : Turn := ⟨.begin, s₁, .error e, s₂⟩
      replace ha : Session.Aside _ turn.before turn.after := ha
      refine ⟨ha.transactions, ?_⟩
      rename_i lease
      cases lease with
      | file => exact .unlocked (Turn.signs_of_moves ha.toMoves) (ha.isLocked.trans hf.2)
      | connection n =>
        have hat : turn.signsAt (.connection n) = [.reserved, .sent beginText, .released] := by
          rw [Turn.signsAt_of_aside ha]
          exact signsOf_map (.connection n) [.reserved, .sent beginText, .released]
        have hshown : turn.signsAt (.connection n) ≠ [] := by simp [hat]
        have htrace := (hreturned n hshown).1
        exact .released (Turn.signs_of_moves ha.toMoves) (htrace.trans hat)

/-- What the turns of a session come to. -/
structure Ledger (turns : List Turn) (s : Session) : Prop where
  accounts : ∀ (t : Nat) (x : Transaction), s.transactions[t]? = some x → Account turns t x
  begun : ∀ turn ∈ turns, turn.operation = .begin → ∀ o, turn.outcome = .ok o →
    o = some turn.before.transactions.length ∧
      ∃ lease, turn.after.transactions = turn.before.transactions ++ [{ lease := lease }]
  failed : ∀ turn ∈ turns, turn.operation = .begin → ∀ e, turn.outcome = .error e →
    turn.after.transactions = turn.before.transactions ∧ FailedBegin turns turn e
  /-- A transaction that has ended stays as it is, and what is asked of it is refused. -/
  ended : ∀ turn ∈ turns, ∀ (t : Nat) (x : Transaction), turn.before.transactions[t]? = some x →
    x.phase ≠ .active → turn.after.transactions[t]? = some x ∧
      ∀ verb, turn.operation.Asks turn.before.context t verb →
        turn.outcome = .error (.finished verb x.phase) ∧
          ∃ es, Silent es ∧ turn.after = turn.before.extend es

namespace Session

variable {s : Session}

theorem Consistent.books_play (h : s.Consistent) (ht : s.transactions = []) (ops : List Operation) :
    Books (s.play ops) (s.afterAll ops) := by
  -- The last turn is taken in the session that the ones before lead to, with their books.
  induction ops using List.reverseRecOn with
  | nil => exact .nil h ht
  | append_singleton ops op ih =>
    rw [play_concat, afterAll_concat]
    have hc := ih.consistent
    exact ih.concat (turn_effect hc.orderly hc.sane op)

theorem Consistent.forall_mem_play (h : s.Consistent) (ops : List Operation) :
    ∀ turn ∈ s.play ops, turn.before.Consistent ∧ turn = turn.before.turn turn.operation := by
  induction ops generalizing s with
  | nil => exact fun turn hm => nomatch hm
  | cons op ops ih =>
    have heffect := turn_effect h.orderly h.sane op
    exact List.forall_mem_cons.2 ⟨⟨h, rfl⟩, ih (heffect.change.consistent h)⟩

theorem Consistent.opened_of_ok (h : s.Consistent) {o : Option Nat}
    (ho : (s.turn .begin).outcome = .ok o) :
    o = some s.transactions.length ∧
      ∃ lease, (s.turn .begin).after.transactions = s.transactions ++ [{ lease := lease }] := by
  have hbegun := Action.begin_spec h.orderly h.sane
  cases hr : Action.begin.exec s with
  | mk o' s' =>
    rw [Operation.turn_begin hr] at ho ⊢
    rw [hr] at hbegun
    cases hbegun with
    | unreserved | abandoned => cases ho
    | opened hm ht =>
      cases ho
      exact ⟨rfl, _, ht⟩

/-- However a session is used, and whichever statements fail: what a connection that was set aside
receives is the beginning, then what was issued through its transaction, then one of the ends; it is
given back once, when the transaction ends; and nothing more can be done with the transaction. -/
theorem IsFresh.ledger_play (h : s.IsFresh) (hb : s.backend.Orderly) (ops : List Operation) :
    Ledger (s.play ops) (s.afterAll ops) := by
  have hbooks := (h.consistent hb).books_play h.transactions ops
  have hturns := (h.consistent hb).forall_mem_play ops
  refine ⟨hbooks.accounts, ?_, ?_, ?_⟩
  · intro turn hm hop o ho
    obtain ⟨hc, hturn⟩ := hturns turn hm
    rw [hop] at hturn
    rw [hturn] at ho ⊢
    exact hc.opened_of_ok ho
  · intro turn hm hop e ho
    obtain ⟨hc, hturn⟩ := hturns turn hm
    rw [hop] at hturn
    rw [hturn] at hm ho ⊢
    exact hbooks.failedBegin hc hm ho
  · intro turn hm t x hx hp
    obtain ⟨hc, hturn⟩ := hturns turn hm
    rw [hturn]
    exact ⟨(turn_effect hc.orderly hc.sane _).keeps hx hp, fun verb hv => turn_refused hx hp hv⟩

def uncommitting : Session where
  context := { dialect := .sqlite }
  driver := .direct
  backend := .canned none commitText (.foreign "OSError" "disk full")

def uncommittingUse : List Operation :=
  [.begin, .raw (.transaction 0) (.text "SELECT 1") .null, .commit 0, .rollback 0]

theorem uncommitting_ledger :
    (Ledger (uncommitting.play uncommittingUse) (uncommitting.afterAll uncommittingUse)) ∧
      trace (uncommitting.play uncommittingUse) (.connection 1) =
        [.reserved, .sent beginText, .sent "SELECT 1".toList, .sent commitText, .sent rollbackText,
          .released] :=
  ⟨IsFresh.ledger_play ⟨rfl, rfl⟩ (Backend.canned_orderly rfl) uncommittingUse, by decide +kernel⟩

end Session

end BoundSql
