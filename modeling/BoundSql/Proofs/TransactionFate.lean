import BoundSql.Proofs.SessionTurn
/-!
What every turn keeps of a session, and what becomes of a transaction in it: it is begun, or used or
left alone, or ended.
-/

namespace BoundSql

open Session (Moves Aside)

/-- Whether a transaction has its connection for as long as it is active. -/
def Transaction.Holds (s : Session) (x : Transaction) : Prop :=
  match x.lease with
  | .connection n => s.driver.usesFile = false ∧ n ≤ s.connections
  | .file => s.driver.usesFile = true ∧ (x.phase = .active → s.driver.isLocked = true)

theorem Transaction.Holds.mono {s s' : Session} {x y : Transaction} (h : x.Holds s)
    (hlease : y.lease = x.lease) (hfile : s'.driver.usesFile = s.driver.usesFile)
    (hconnections : s.connections ≤ s'.connections)
    (hlocked : y.lease = .file → y.phase = .active →
      (x.phase = .active → s.driver.isLocked = true) → s'.driver.isLocked = true) : y.Holds s' := by
  unfold Holds at h ⊢
  rw [hfile, hlease]
  cases hl : x.lease with
  | connection n =>
    rw [hl] at h
    exact ⟨h.1, Nat.le_trans h.2 hconnections⟩
  | file =>
    rw [hl] at h
    exact ⟨h.1, fun ha => hlocked (hlease.trans hl) ha h.2⟩

structure Session.Consistent (s : Session) : Prop where
  orderly : s.backend.Orderly
  sane : s.driver.Sane
  holds : ∀ (t : Nat) (x : Transaction), s.transactions[t]? = some x → x.Holds s
  distinct : ∀ (t u : Nat) (x y : Transaction), s.transactions[t]? = some x → s.transactions[u]? = some y →
    x.lease = y.lease → (x.lease = .file → x.phase = .active ∧ y.phase = .active) → t = u

namespace Session

variable {s s' : Session} {lease : Lease} {ss : List (Lease × Sign)}

theorem Consistent.le_connections (h : s.Consistent) {t n : Nat} {x : Transaction}
    (hx : s.transactions[t]? = some x) (hl : x.lease = .connection n) : n ≤ s.connections := by
  have hholds := h.holds t x hx
  unfold Transaction.Holds at hholds
  rw [hl] at hholds
  exact hholds.2

theorem Consistent.isLocked (h : s.Consistent) {t : Nat} {x : Transaction}
    (hx : s.transactions[t]? = some x) (ha : x.phase = .active) (hl : x.lease = .file) :
    s.driver.isLocked := by
  have hholds := h.holds t x hx
  unfold Transaction.Holds at hholds
  rw [hl] at hholds
  exact hholds.2 ha

/-- A connection that nobody had before is none of those that transactions have, except the file
after a transaction has ended. -/
theorem Consistent.ne_fresh (h : s.Consistent) (hf : lease.Fresh s s') {t : Nat} {x : Transaction}
    (hx : s.transactions[t]? = some x) (hl : x.lease = lease) :
    lease = .file ∧ x.phase ≠ .active := by
  have hholds := h.holds t x hx
  unfold Transaction.Holds at hholds
  rw [hl] at hholds
  cases lease with
  | connection n => exact absurd hholds.2 (Nat.not_le_of_lt hf.2.1)
  | file =>
    refine ⟨rfl, fun ha => ?_⟩
    rw [hf.2] at hholds
    cases hholds.2 ha

theorem Consistent.aside (h : s.Consistent) (ha : Aside ss s s') : s'.Consistent where
  orderly := ha.backend ▸ h.orderly
  sane := ha.sane h.sane
  holds t x hx := (h.holds t x (by rwa [← ha.transactions])).mono rfl ha.usesFile ha.connections
    fun _ hactive hlocked => ha.isLocked.trans (hlocked hactive)
  distinct t u x y := by
    rw [ha.transactions]
    exact h.distinct t u x y

theorem getElem?_of_opened {transactions : List Transaction} {x y : Transaction} {t : Nat}
    (h : (transactions ++ [y])[t]? = some x) :
    transactions[t]? = some x ∨ t = transactions.length ∧ x = y := by
  rcases Nat.lt_trichotomy t transactions.length with ht | ht | ht
  · rw [List.getElem?_append_left ht] at h
    exact .inl h
  · subst ht
    rw [List.getElem?_concat_length] at h
    exact .inr ⟨rfl, (Option.some.inj h).symm⟩
  · rw [List.getElem?_eq_none (by simp; omega)] at h
    cases h

theorem Consistent.opened (h : s.Consistent) (hm : Moves ss s s') (hf : lease.Fresh s s')
    (ht : s'.transactions = s.transactions ++ [{ lease := lease }])
    (hl : s'.driver.isLocked = (s.driver.isLocked || lease == .file)) : s'.Consistent where
  orderly := hm.backend ▸ h.orderly
  sane := hm.sane h.sane
  holds t x hx := by
    rw [ht] at hx
    rcases getElem?_of_opened hx with hx | ⟨-, rfl⟩
    · refine (h.holds t x hx).mono rfl hm.usesFile hm.connections fun _ hactive hlocked => ?_
      rw [hl, hlocked hactive, Bool.true_or]
    · unfold Transaction.Holds
      rw [hm.usesFile, hl]
      cases lease with
      | connection n => exact ⟨hf.1, hf.2.2⟩
      | file => exact ⟨hf.1, fun _ => by simp⟩
  distinct t u x y hx hy hxy hfile := by
    rw [ht] at hx hy
    rcases getElem?_of_opened hx with hx | ⟨rfl, rfl⟩
    · rcases getElem?_of_opened hy with hy | ⟨rfl, rfl⟩
      · exact h.distinct t u x y hx hy hxy hfile
      · obtain ⟨hl', hp⟩ := h.ne_fresh hf hx hxy
        exact absurd (hfile (hxy.trans hl')).1 hp
    · rcases getElem?_of_opened hy with hy | ⟨rfl, rfl⟩
      · obtain ⟨hl', hp⟩ := h.ne_fresh hf hy hxy.symm
        exact absurd (hfile hl').2 hp
      · rfl

theorem getElem?_of_ended {transactions : List Transaction} {y : Transaction} {t u : Nat}
    {phase : Phase} (h : (transactions.modify t fun x => { x with phase })[u]? = some y) :
    ∃ x, transactions[u]? = some x ∧ y.lease = x.lease ∧
      if u = t then y.phase = phase else y = x := by
  rw [List.getElem?_modify] at h
  obtain ⟨x, hx, rfl⟩ := Option.map_eq_some_iff.1 h
  refine ⟨x, hx, ?_⟩
  by_cases hu : t = u
  · simp [hu]
  · simp [hu, Ne.symm hu]

theorem Consistent.closed (h : s.Consistent) {t : Nat} {x : Transaction}
    (hx : s.transactions[t]? = some x) (ha : x.phase = .active) {phase : Phase}
    (hp : phase ≠ .active) (es : List Event) :
    ((s.closed t x.lease phase).extend es).Consistent where
  orderly := h.orderly
  sane := h.sane.without x.lease
  holds u y hy := by
    obtain ⟨z, hz, hl, hif⟩ := getElem?_of_ended hy
    refine (h.holds u z hz).mono hl (s.driver.usesFile_without x.lease) (Nat.le_refl _)
      fun hfile hactive hlocked => ?_
    split at hif
    · exact absurd (hif.symm.trans hactive) hp
    · rename_i hu
      subst hif
      -- Only one transaction can have the file, and it is not the one that has ended.
      have hne : x.lease ≠ .file := fun hxl =>
        hu (h.distinct u t y x hz hx (hfile.trans hxl.symm) fun _ => ⟨hactive, ha⟩)
      show (s.driver.without x.lease).isLocked = true
      rw [Driver.isLocked_without, hlocked hactive]
      simpa using hne
  distinct u v y z hy hz hyz hfile := by
    obtain ⟨y', hy', hyl, hyif⟩ := getElem?_of_ended hy
    obtain ⟨z', hz', hzl, hzif⟩ := getElem?_of_ended hz
    refine h.distinct u v y' z' hy' hz' (hyl.symm.trans (hyz.trans hzl)) fun hl => ?_
    obtain ⟨hya, hza⟩ := hfile (hyl.trans hl)
    split at hyif
    · exact absurd (hyif.symm.trans hya) hp
    split at hzif
    · exact absurd (hzif.symm.trans hza) hp
    exact ⟨hyif ▸ hya, hzif ▸ hza⟩

/-- What a step can do to a session. Connections that nobody had are set aside and given back in it;
on others no more is done than to send something, unless their transaction ends. -/
inductive Change (s s' : Session) : Prop
  | aside {ss : List (Lease × Sign)} (h : Aside ss s s')
      (hkept : ∀ p ∈ ss, p.1.Fresh s s' ∨ p.2 ≠ .released ∧
        ∃ (t : Nat) (x : Transaction), s.transactions[t]? = some x ∧ x.phase = .active ∧
          x.lease = p.1)
  | opened {lease : Lease}
      (h : Moves (lease.signed .reserved ++ [(lease, .sent beginText)]) s s')
      (ht : s'.transactions = s.transactions ++ [{ lease := lease }]) (hf : lease.Fresh s s')
      (hl : s'.driver.isLocked = (s.driver.isLocked || lease == .file))
  | ended {t : Nat} {x : Transaction} {phase : Phase} {texts : List Text} {es : List Event}
      (hx : s.transactions[t]? = some x) (ha : x.phase = .active) (hp : phase ≠ .active)
      (h : s' = (s.closed t x.lease phase).extend es)
      (hes : signs es = texts.map (fun text => (x.lease, .sent text)) ++ x.lease.signed .released)

theorem Change.consistent (h : s.Change s') (hc : s.Consistent) : s'.Consistent := by
  cases h with
  | aside h => exact hc.aside h
  | opened h ht hf hl => exact hc.opened h hf ht hl
  | ended hx ha hp h =>
    rw [h]
    exact hc.closed hx ha hp _

theorem Change.moves (h : s.Change s') : ∃ ss, Moves ss s s' := by
  cases h with
  | aside h => exact ⟨_, h.toMoves⟩
  | opened h => exact ⟨_, h⟩
  | @ended t x phase texts es hx ha hp h =>
    rw [h]
    exact ⟨_, (moves_without s x.lease).trans ⟨rfl, rfl, rfl, id, Nat.le_refl _, es, rfl, rfl⟩⟩

end Session

namespace Turn

variable {turn : Turn} {t u : Nat} {x : Transaction} {phase : Phase} {texts : List Text}
  {lease : Lease}

theorem Ending.phase_ne (h : turn.Ending t phase texts) : phase ≠ .active := by
  cases h <;> simp

theorem Ending.ne_begin (h : turn.Ending t phase texts) : turn.operation ≠ .begin := by
  intro hbegin
  cases h with
  | committed hop | uncommitted hop | rolledBack hop =>
    rw [hop] at hbegin
    cases hbegin

theorem Ending.isOf_iff (h : turn.Ending t phase texts) : turn.isOf u ↔ u = t := by
  unfold isOf
  rw [opens_of_ne h.ne_begin]
  cases h with
  | committed hop | uncommitted hop | rolledBack hop =>
    rw [hop]
    simp only [Operation.uses, Bool.false_or, beq_iff_eq]
    exact eq_comm

theorem Ending.issued_eq_nil (h : turn.Ending t phase texts) : turn.issued u = [] := by
  refine Turn.issued_eq_nil fun c hc => ?_
  cases h with
  | committed hop | uncommitted hop | rolledBack hop =>
    rw [hop] at hc
    nomatch hc

theorem isOf_iff_of_begin (hop : turn.operation = .begin) {o : Option Nat} (ho : turn.outcome = .ok o) :
    turn.isOf t ↔ o = some t := by
  unfold isOf opens
  rw [hop, ho]
  cases o <;> simp [Operation.uses]

theorem not_isOf_of_error (hop : turn.operation = .begin) {e : Failure} (ho : turn.outcome = .error e) :
    turn.isOf t = false := by
  unfold isOf opens
  rw [hop, ho]
  rfl

theorem isOf_iff_of_statement {c : Compiled}
    (h : turn.operation.statement turn.before.context = some (.transaction t, c)) :
    turn.isOf u ↔ u = t := by
  have hop : turn.operation ≠ .begin := fun hop => by
    rw [hop] at h
    nomatch h
  unfold isOf
  rw [opens_of_ne hop, Bool.false_or, Operation.uses_iff_of_statement h]
  simp [eq_comm]

theorem fst_of_mem_opening {p : Lease × Sign}
    (hp : p ∈ lease.signed .reserved ++ [(lease, .sent beginText)]) : p.1 = lease := by
  rcases List.mem_append.1 hp with hp | hp
  · exact fst_of_mem_signed hp
  · rw [List.mem_singleton.1 hp]

theorem fst_of_mem_ending {p : Lease × Sign}
    (hp : p ∈ texts.map (fun text => (lease, .sent text)) ++ lease.signed .released) :
    p.1 = lease := by
  rcases List.mem_append.1 hp with hp | hp
  · obtain ⟨text, -, rfl⟩ := List.mem_map.1 hp
    rfl
  · exact fst_of_mem_signed hp

theorem fst_of_mem_abandoned {p : Lease × Sign}
    (hp : p ∈ lease.signed .reserved ++ (lease, .sent beginText) :: lease.signed .released) :
    p.1 = lease := by
  rw [List.append_cons] at hp
  rcases List.mem_append.1 hp with hp | hp
  · exact fst_of_mem_opening hp
  · exact fst_of_mem_signed hp

theorem signsAt_of_opened_of_ne {lease' : Lease}
    (h : Moves (lease.signed .reserved ++ [(lease, .sent beginText)]) turn.before turn.after)
    (hl : turn.after.driver.isLocked = (turn.before.driver.isLocked || lease == .file))
    (hne : lease' ≠ lease) : turn.signsAt lease' = [] := by
  refine signsAt_of_ne (fun p hp => ?_) (fun hfile => ?_) hne
  · rw [signs_of_moves h] at hp
    exact fst_of_mem_opening hp
  · rw [hl]
    simp [hfile]

theorem signsAt_of_ended_of_ne {lease' : Lease} {es : List Event}
    (h : turn.after = (turn.before.closed t lease phase).extend es)
    (hes : BoundSql.signs es =
      texts.map (fun text => (lease, .sent text)) ++ lease.signed .released)
    (hne : lease' ≠ lease) : turn.signsAt lease' = [] := by
  refine signsAt_of_ne (fun p hp => ?_) (fun hfile => ?_) hne
  · rw [signs_of_closed h, hes] at hp
    exact fst_of_mem_ending hp
  · rw [isLocked_of_closed h]
    simp [hfile]

/-- What a session looks like after a turn hangs on what the turn did, not on what it was asked. -/
theorem Effect.change (he : turn.Effect) : turn.before.Change turn.after := by
  cases he with
  | aside h hfresh => exact .aside h fun p hp => .inl (hfresh p hp)
  | abandoned h hf => exact .aside h fun p hp => .inl (fst_of_mem_abandoned hp ▸ hf)
  | opened h ht hf hl => exact .opened h ht hf hl
  | @issued t x c hx ha h =>
    refine .aside h fun p hp => .inr ?_
    rw [List.mem_singleton.1 hp]
    exact ⟨Sign.noConfusion, t, x, hx, ha, rfl⟩
  | ended hx ha he h hes => exact .ended hx ha he.phase_ne h hes

/-- A turn shows something of a connection only if nobody had it before, or if the turn is one of an
active transaction that has it. -/
theorem Effect.shown (he : turn.Effect) (hs : turn.signsAt lease ≠ []) :
    lease.Fresh turn.before turn.after ∨
      ∃ t x, turn.before.transactions[t]? = some x ∧ x.phase = .active ∧ x.lease = lease ∧
        turn.isOf t := by
  have hamong : ∀ {ss : List (Lease × Sign)}, Aside ss turn.before turn.after →
      ∃ p ∈ ss, p.1 = lease := fun haside => by
    rw [signsAt_of_aside haside] at hs
    by_contra hnone
    exact hs (signsOf_eq_nil fun p hp h => hnone ⟨p, hp, h⟩)
  cases he with
  | aside ha hfresh =>
    obtain ⟨p, hp, rfl⟩ := hamong ha
    exact .inl (hfresh p hp)
  | abandoned ha hf =>
    obtain ⟨p, hp, rfl⟩ := hamong ha
    exact .inl (fst_of_mem_abandoned hp ▸ hf)
  | @opened own hm ht hf hl =>
    left
    by_cases hown : lease = own
    · exact hown ▸ hf
    · exact absurd (signsAt_of_opened_of_ne hm hl hown) hs
  | @issued t x c hx ha haside hstatement =>
    obtain ⟨p, hp, rfl⟩ := hamong haside
    rw [List.mem_singleton.1 hp]
    exact .inr ⟨t, x, hx, ha, rfl, (isOf_iff_of_statement hstatement).2 rfl⟩
  | @ended t x phase texts es hx ha he hafter hes =>
    right
    by_cases hown : lease = x.lease
    · exact ⟨t, x, hx, ha, hown.symm, he.isOf_iff.2 rfl⟩
    · exact absurd (signsAt_of_ended_of_ne hafter hes hown) hs

theorem Effect.signsAt_eq_nil (he : turn.Effect) (hf : ¬ lease.Fresh turn.before turn.after)
    (hx : ∀ (t : Nat) (x : Transaction), turn.before.transactions[t]? = some x → x.lease ≠ lease) :
    turn.signsAt lease = [] := by
  by_contra hne
  rcases he.shown hne with h | ⟨t, x, h, -, hl, -⟩
  · exact hf h
  · exact hx t x h hl

/-- What a turn did with a transaction that is there after it. -/
inductive Fate (turn : Turn) (t : Nat) (x : Transaction) : Prop
  | kept (hx : turn.before.transactions[t]? = some x)
      (hs : turn.isOf t → turn.signsAt x.lease = (turn.issued t).map .sent)
  | opened (ht : turn.before.transactions.length = t) (hof : turn.isOf t) (ha : x.phase = .active)
      (hf : x.lease.Fresh turn.before turn.after)
      (hs : turn.signsAt x.lease = [.reserved, .sent beginText])
  | ended {y : Transaction} {texts : List Text} (hy : turn.before.transactions[t]? = some y)
      (ha : y.phase = .active) (hl : x.lease = y.lease) (he : turn.Ending t x.phase texts)
      (hs : turn.signsAt x.lease = texts.map .sent ++ [.released])

theorem Effect.fate (he : turn.Effect) (h : turn.before.Consistent)
    (hx : turn.after.transactions[t]? = some x) : turn.Fate t x := by
  cases he with
  | aside ha _ hown hissued =>
    rw [ha.transactions] at hx
    refine .kept hx fun hof => ?_
    rw [signsAt_of_aside ha, hown t hof, hissued]
    rfl
  | abandoned ha _ hop ho =>
    rw [ha.transactions] at hx
    refine .kept hx fun hof => ?_
    rw [not_isOf_of_error hop ho] at hof
    cases hof
  | opened hm ht hf hl hop ho =>
    rw [ht] at hx
    rcases Session.getElem?_of_opened hx with hx | ⟨rfl, rfl⟩
    · refine .kept hx fun hof => ?_
      cases (isOf_iff_of_begin hop ho).1 hof
      rw [List.getElem?_eq_none (Nat.le_refl _)] at hx
      cases hx
    · exact .opened rfl ((isOf_iff_of_begin hop ho).2 rfl) rfl hf (signsAt_of_opened hm hf hl)
  | @issued u y c hy ha haside hstatement =>
    rw [haside.transactions] at hx
    refine .kept hx fun hof => ?_
    obtain rfl := (isOf_iff_of_statement hstatement).1 hof
    cases hy.symm.trans hx
    rw [signsAt_of_aside haside, issued_eq hstatement (Session.isActive_iff.2 ⟨_, hx, ha⟩)]
    exact signsOf_map x.lease [.sent c.sql]
  | @ended u y phase texts es hy ha he hafter hes =>
    have htransactions : turn.after.transactions =
        turn.before.transactions.modify u fun x => { x with phase } := by
      rw [hafter]
      rfl
    rw [htransactions] at hx
    obtain ⟨z, hz, hl, hif⟩ := Session.getElem?_of_ended hx
    split at hif
    · rename_i hu
      subst hu
      cases hy.symm.trans hz
      refine .ended hy ha hl (hif ▸ he) ?_
      rw [hl]
      exact signsAt_of_ended hafter hes (h.isLocked hy ha)
    · rename_i hu
      subst hif
      exact .kept hz fun hof => absurd (he.isOf_iff.1 hof) hu

theorem Effect.keeps (he : turn.Effect) (hx : turn.before.transactions[t]? = some x)
    (hp : x.phase ≠ .active) : turn.after.transactions[t]? = some x := by
  cases he with
  | aside ha | abandoned ha | issued _ _ ha => rw [ha.transactions, hx]
  | opened hm ht =>
    have hlt : t < turn.before.transactions.length := (List.getElem?_eq_some_iff.1 hx).1
    rw [ht, List.getElem?_append_left hlt, hx]
  | @ended u y phase texts es hy ha he hafter =>
    have hu : u ≠ t := fun hu => by
      subst hu
      cases hx.symm.trans hy
      exact hp ha
    rw [hafter]
    exact (Session.getElem?_closed_of_ne hu y.lease phase).trans hx

theorem Effect.length_le (he : turn.Effect) :
    turn.before.transactions.length ≤ turn.after.transactions.length := by
  cases he with
  | aside ha | abandoned ha | issued _ _ ha =>
    exact Nat.le_of_eq (congrArg List.length ha.transactions.symm)
  | opened hm ht => simp [ht]
  | ended hy ha he hafter =>
    rw [hafter]
    exact Nat.le_of_eq (List.length_modify ..).symm

theorem Effect.signsAt_of_unborn (he : turn.Effect) (hof : turn.isOf t)
    (hn : turn.after.transactions[t]? = none) (lease : Lease) : turn.signsAt lease = [] := by
  cases he with
  | aside ha _ hown =>
    rw [signsAt_of_aside ha, hown t hof]
    rfl
  | abandoned _ _ hop ho =>
    rw [not_isOf_of_error hop ho] at hof
    cases hof
  | opened hm ht hf hl hop ho =>
    cases (isOf_iff_of_begin hop ho).1 hof
    rw [ht, List.getElem?_concat_length] at hn
    cases hn
  | issued hy ha haside hstatement =>
    obtain rfl := (isOf_iff_of_statement hstatement).1 hof
    rw [haside.transactions, hy] at hn
    cases hn
  | ended hy ha he hafter =>
    obtain rfl := he.isOf_iff.1 hof
    rw [hafter] at hn
    have hlt := (List.getElem?_eq_some_iff.1 hy).1
    have hlength := List.getElem?_eq_none_iff.1 hn
    exact absurd hlt (Nat.not_lt_of_le (by simpa [Session.closed] using hlength))

theorem issued_of_not_isOf (h : turn.isOf t = false) : turn.issued t = [] := by
  refine issued_eq_nil fun c hc => ?_
  rw [(isOf_iff_of_statement hc).2 rfl] at h
  cases h

end Turn

end BoundSql
