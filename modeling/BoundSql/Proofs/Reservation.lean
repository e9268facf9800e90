import BoundSql.Proofs.TransactionStep
/-!
How a connection is set aside for a transaction and how the transaction begins on it, and what runs on
no connection that was set aside.
-/

namespace BoundSql

namespace Session

/-- What nothing that is done to a session changes. Its log grows by what leaves the given signs. -/
structure Moves (ss : List (Lease × Sign)) (s s' : Session) : Prop where
  context : s'.context = s.context
  backend : s'.backend = s.backend
  usesFile : s'.driver.usesFile = s.driver.usesFile
  sane : s.driver.Sane → s'.driver.Sane
  connections : s.connections ≤ s'.connections
  log : ∃ es, s'.log = s.log ++ es ∧ signs es = ss

structure Aside (ss : List (Lease × Sign)) (s s' : Session) : Prop extends Moves ss s s' where
  transactions : s'.transactions = s.transactions
  isLocked : s'.driver.isLocked = s.driver.isLocked

def RefusedAt (s s' : Session) (e : Failure) : Prop :=
  ∃ es r, s'.log = s.log ++ es ++ [.asked r] ∧ s.backend.answer (s.log ++ es) r = .error e

variable {ss ss' : List (Lease × Sign)} {s s' s'' : Session}

theorem Moves.trans (h : Moves ss s s') (h' : Moves ss' s' s'') : Moves (ss ++ ss') s s'' where
  context := h'.context.trans h.context
  backend := h'.backend.trans h.backend
  usesFile := h'.usesFile.trans h.usesFile
  sane hs := h'.sane (h.sane hs)
  connections := Nat.le_trans h.connections h'.connections
  log := by
    obtain ⟨es, hes, hsigns⟩ := h.log
    obtain ⟨fs, hfs, hsigns'⟩ := h'.log
    exact ⟨es ++ fs, by rw [hfs, hes, List.append_assoc], by rw [signs_append, hsigns, hsigns']⟩

theorem Aside.trans (h : Aside ss s s') (h' : Aside ss' s' s'') : Aside (ss ++ ss') s s'' where
  toMoves := h.toMoves.trans h'.toMoves
  transactions := h'.transactions.trans h.transactions
  isLocked := h'.isLocked.trans h.isLocked

theorem aside_extend {es : List Event} (h : signs es = ss) (s : Session) :
    Aside ss s (s.extend es) where
  context := rfl
  backend := rfl
  usesFile := rfl
  sane hs := hs
  connections := Nat.le_refl _
  log := ⟨es, rfl, h⟩
  transactions := rfl
  isLocked := rfl

theorem Aside.refl (s : Session) : Aside [] s s := by
  have h := aside_extend signs_nil s
  rwa [extend_nil] at h

theorem moves_without (s : Session) (lease : Lease) : Moves [] s (s.without lease) where
  context := rfl
  backend := rfl
  usesFile := s.driver.usesFile_without lease
  sane h := h.without lease
  connections := Nat.le_refl _
  log := ⟨[], (List.append_nil _).symm, rfl⟩

end Session

open Session (Moves Aside)

theorem Leaves.aside {α : Type} {ss : List (Lease × Sign)} {s : Session} {r : Outcome α × Session}
    (h : Leaves ss s r) : Aside ss s r.2 := by
  obtain ⟨⟨es, hlog, hsigns⟩, -⟩ := h
  rw [hlog]
  exact Session.aside_extend hsigns s

/-- A connection that nobody had before: one with a new number, or the file while it is not locked. -/
def Lease.Fresh (s s' : Session) : Lease → Prop
  | .connection n => s.driver.usesFile = false ∧ s.connections < n ∧ n ≤ s'.connections
  | .file => s.driver.usesFile = true ∧ s.driver.isLocked = false

namespace Action

variable {α β : Type} {s : Session} {ss : List (Lease × Sign)}

theorem aside_bind {x : Action α} {f : α → Action β} (hx : Aside ss s (x.exec s).2)
    (hf : ∀ a s', x.exec s = (.ok a, s') → Aside [] s' ((f a).exec s').2) :
    Aside ss s ((x >>= f).exec s).2 := by
  rw [exec_bind]
  cases hr : x.exec s with
  | mk o s' =>
    rw [hr] at hx
    cases o with
    | error e => exact hx
    | ok a =>
      have h := hx.trans (hf a s' hr)
      rwa [List.append_nil] at h

theorem demand_aside (r : Request) (hr : signs [.asked r] = ss) (s : Session) :
    Aside ss s ((demand r).exec s).2 :=
  (leaves_demand r hr s).aside

theorem aside_setDriver {d : Driver} (hfile : d.usesFile = s.driver.usesFile)
    (hlocked : d.isLocked = s.driver.isLocked) (hsane : d.Sane) :
    Aside [] s ((setDriver d).exec s).2 :=
  ⟨⟨rfl, rfl, hfile, fun _ => hsane, Nat.le_refl _, [], (List.append_nil _).symm, rfl⟩, rfl, hlocked⟩

theorem note_aside (n : Notice) (s : Session) : Aside [] s (exec (note n) s).2 :=
  (leaves_note n s).aside

theorem open_aside {r : Request} {d : Driver} {n : Notice} (hr : signs [.asked r] = [])
    (hfile : d.usesFile = s.driver.usesFile) (hlocked : d.isLocked = s.driver.isLocked)
    (hsane : d.Sane) : Aside [] s ((do demand r; setDriver d; note n : Action Unit).exec s).2 := by
  refine aside_bind (demand_aside r hr s) fun u s' hs' => ?_
  rw [exec_demand] at hs'
  obtain rfl : s.extend [.asked r] = s' := congrArg Prod.snd hs'
  exact aside_bind (aside_setDriver hfile hlocked hsane) fun _ s'' _ => note_aside n s''

theorem connect_aside (hs : s.driver.Sane) : Aside [] s (connect.exec s).2 := by
  unfold connect
  rw [exec_bind_ok (exec_get s)]
  cases hd : s.driver with
  | direct => exact demand_aside .connect rfl s
  | pooled dsn minSize maxSize isOpen =>
    dsimp only
    split
    · exact .refl s
    · unfold openPool
      cases dsn with
      | none => exact .refl s
      | some address =>
        dsimp only
        split
        · exact .refl s
        · exact open_aside rfl (by rw [hd]; rfl) (by rw [hd]; rfl) trivial
  | file path isOpen isLocked =>
    dsimp only
    split
    · exact .refl s
    · rename_i hclosed
      rw [hd] at hs
      have hfree : isLocked = false := by
        cases hl : isLocked with
        | false => rfl
        | true => exact absurd (hs hl) hclosed
      refine open_aside rfl (by rw [hd]; rfl) ?_ fun hl => by cases hl
      rw [hd]
      exact hfree.symm

theorem ensureOpen_aside (hs : s.driver.Sane) : Aside [] s (ensureOpen.exec s).2 := by
  unfold ensureOpen
  rw [exec_bind_ok (exec_get s)]
  cases s.driver with
  | direct => exact .refl s
  | pooled | file => exact connect_aside hs

theorem isOpen_of_ensureOpen {s' : Session} {u : Unit} (hs : s.driver.Sane)
    (h : ensureOpen.exec s = (.ok u, s')) {path : String} {isOpen isLocked : Bool}
    (hd : s'.driver = .file path isOpen isLocked) : isOpen = true := by
  have hfile := (ensureOpen_aside hs).usesFile
  rw [h, hd] at hfile
  unfold ensureOpen at h
  rw [exec_bind_ok (exec_get s)] at h
  cases hdriver : s.driver with
  | direct | pooled =>
    rw [hdriver] at hfile
    cases hfile
  | file path' isOpen' isLocked' =>
    rw [hdriver] at h
    dsimp only at h
    unfold connect at h
    rw [exec_bind_ok (exec_get s), hdriver] at h
    dsimp only at h
    split at h
    · rename_i hopen
      cases h
      rw [hdriver] at hd
      cases hd
      exact hopen
    · unfold openFile at h
      rw [exec_bind, exec_demand] at h
      cases ha : s.backend.answer s.log (.openFile path') with
      | error e =>
        rw [ha] at h
        cases h
      | ok a =>
        rw [ha] at h
        cases h
        cases hd
        rfl

theorem exec_freshConnection (s : Session) :
    freshConnection.exec s = (.ok (s.connections + 1), { s with connections := s.connections + 1 }) :=
  rfl

theorem aside_fresh {r : Request}
    (hr : signs [.asked r] = [(.connection (s.connections + 1), .reserved)]) :
    Aside [(.connection (s.connections + 1), .reserved)] s
      (({ s with connections := s.connections + 1 } : Session).extend [.asked r]) :=
  ⟨⟨rfl, rfl, rfl, fun hs => hs, Nat.le_succ _, [.asked r], rfl, hr⟩, rfl, rfl⟩

theorem exec_awaitLock (s : Session) :
    awaitLock.exec s = (if s.driver.isLocked then .error .interrupted else .ok (), s) := by
  obtain ⟨context, driver⟩ := s
  cases driver with
  | direct | pooled => rfl
  | file path isOpen isLocked => cases isLocked <;> rfl

theorem exec_setLocked {path : String} {isOpen isLocked : Bool}
    (hd : s.driver = .file path isOpen isLocked) :
    (setLocked true).exec s = (.ok (), { s with driver := .file path isOpen true }) := by
  obtain ⟨context, driver⟩ := s
  cases hd
  rfl

/-- What comes of asking for a connection: a failure before one was asked for, a refusal, or a
connection that nobody had before. -/
inductive Reserved (s : Session) : Outcome Lease × Session → Prop where
  | none {e : Failure} {s' : Session} (h : Aside [] s s') : Reserved s (.error e, s')
  | refused {n : Nat} {e : Failure} {s' : Session} (h : Aside [(.connection n, .reserved)] s s')
      (hf : Lease.Fresh s s' (.connection n)) (hr : s.RefusedAt s' e) : Reserved s (.error e, s')
  | set {lease : Lease} {s' : Session} (h : Moves (lease.signed .reserved) s s')
      (ht : s'.transactions = s.transactions) (hf : lease.Fresh s s')
      (hl : s'.driver.isLocked = (s.driver.isLocked || lease == .file)) : Reserved s (.ok lease, s')

theorem reserved_numbered {s₁ : Session} (h : Aside [] s s₁) (hfile : s₁.driver.usesFile = false)
    {r : Nat → Request}
    (hr : ∀ n, signs [.asked (r n)] = [(.connection n, .reserved)]) :
    Reserved s ((do let n ← freshConnection; demand (r n); return .connection n : Action Lease).exec s₁) := by
  rw [exec_bind_ok (exec_freshConnection s₁), exec_bind, exec_demand]
  have hmoved := h.trans (aside_fresh (hr (s₁.connections + 1)))
  have hfresh : Lease.Fresh s (({ s₁ with connections := s₁.connections + 1 } : Session).extend
      [.asked (r (s₁.connections + 1))]) (.connection (s₁.connections + 1)) :=
    ⟨h.usesFile.symm.trans hfile, Nat.lt_succ_of_le h.connections, Nat.le_refl _⟩
  cases ha : s₁.backend.answer s₁.log (r (s₁.connections + 1)) with
  | error e =>
    obtain ⟨es, hlog, -⟩ := h.log
    refine .refused hmoved hfresh ⟨es, r (s₁.connections + 1), ?_, ?_⟩
    · exact congrArg (· ++ _) hlog
    · rw [← h.backend, ← hlog, ha]
  | ok a =>
    refine .set hmoved.toMoves hmoved.transactions hfresh ?_
    rw [hmoved.isLocked]
    simp

theorem reserve_spec (hs : s.driver.Sane) : Reserved s (reserve.exec s) := by
  have hopen := ensureOpen_aside hs
  unfold reserve
  rw [exec_bind]
  cases he : ensureOpen.exec s with
  | mk o s₁ =>
    rw [he] at hopen
    cases o with
    | error e => exact .none hopen
    | ok u =>
      dsimp only
      rw [exec_bind_ok (exec_get s₁)]
      cases hd : s₁.driver with
      | direct => exact reserved_numbered hopen (by rw [hd]; rfl) fun _ => rfl
      | pooled => exact reserved_numbered hopen (by rw [hd]; rfl) fun _ => rfl
      | file path isOpen isLocked =>
        dsimp only
        rw [exec_bind, exec_awaitLock]
        cases hl : s₁.driver.isLocked with
        | true => exact .none hopen
        | false =>
          have hfile : s₁.driver.usesFile = true := by rw [hd]; rfl
          have hopened := isOpen_of_ensureOpen hs he hd
          have hmoved : Moves [] s₁ { s₁ with driver := .file path isOpen true } :=
            ⟨rfl, rfl, hfile.symm, fun _ _ => hopened, Nat.le_refl _, [], (List.append_nil _).symm, rfl⟩
          show Reserved s ((do setLocked true; return .file : Action Lease).exec s₁)
          rw [exec_bind_ok (exec_setLocked hd)]
          exact .set (hopen.toMoves.trans hmoved) hopen.transactions
            ⟨hopen.usesFile.symm.trans hfile, hopen.isLocked.symm.trans hl⟩
            (Bool.or_true _).symm

/-- What comes of a beginning: no connection, one that is given back at once, or a transaction. -/
inductive Begun (s : Session) : Outcome Nat × Session → Prop where
  | unreserved {e : Failure} {s' : Session} (h : Reserved s (.error e, s')) : Begun s (.error e, s')
  | abandoned {lease : Lease} {e : Failure} {s' : Session}
      (h : Aside (lease.signed .reserved ++ (lease, .sent beginText) :: lease.signed .released) s s')
      (hf : lease.Fresh s s') : Begun s (.error e, s')
  | opened {lease : Lease} {s' : Session}
      (h : Moves (lease.signed .reserved ++ [(lease, .sent beginText)]) s s')
      (ht : s'.transactions = s.transactions ++ [{ lease := lease }]) (hf : lease.Fresh s s')
      (hl : s'.driver.isLocked = (s.driver.isLocked || lease == .file)) :
      Begun s (.ok s.transactions.length, s')

theorem startOn_leaves (lease : Lease) (s : Session) :
    Leaves [(lease, .sent beginText)] s ((startOn lease).exec s) := by
  unfold startOn
  rw [exec_bind_ok (exec_get s)]
  refine leaves_after (exec_plain _ s) rfl ?_
  refine leaves_bind (runThrough_leaves fun s' _ => ?_) fun _ es => ?_
  · rw [← Dialect.render_beginSql s.context.dialect]
    exact executeOn_leaves lease _ _ s'
  · exact leaves_note _ _

theorem begin_spec (hb : s.backend.Orderly) (hs : s.driver.Sane) : Begun s (begin.exec s) := by
  have hreserve := reserve_spec hs
  unfold begin
  rw [exec_bind]
  cases hr : reserve.exec s with
  | mk o s₁ =>
    rw [hr] at hreserve
    cases hreserve with
    | none h => exact .unreserved (.none h)
    | refused h hf hr => exact .unreserved (.refused h hf hr)
    | @set lease s₁ h ht hf hl =>
      obtain ⟨⟨es, hlog, hsigns⟩, -⟩ := startOn_leaves lease s₁
      dsimp only
      rw [exec_bind, exec_attempt, hlog]
      have hmoved := h.trans (Session.aside_extend hsigns s₁).toMoves
      cases ((startOn lease).exec s₁).1 with
      | ok u =>
        show Begun s (.ok (s₁.extend es).transactions.length,
          { s₁.extend es with transactions := (s₁.extend es).transactions ++ [{ lease := lease }] })
        rw [Session.transactions_extend, ht]
        exact .opened { hmoved with } rfl hf hl
      | error e =>
        obtain ⟨fs, hrelease, hsigns'⟩ := exec_release (s := s₁.extend es) (h.backend ▸ hb) lease
        dsimp only
        rw [exec_bind_ok hrelease, exec_throw]
        have hback := (Session.moves_without (s₁.extend es) lease).trans
          (Session.aside_extend hsigns' ((s₁.extend es).without lease)).toMoves
        refine .abandoned ⟨?_, ht, ?_⟩ hf
        · have hall := hmoved.trans hback
          simpa only [List.append_assoc, List.nil_append, List.singleton_append] using hall
        · show ((s₁.driver.without lease).isLocked = _)
          rw [Driver.isLocked_without, hl]
          cases lease with
          | connection n => exact (Bool.and_true _).trans (Bool.or_false _)
          | file => simp [hf.2]

theorem executeAnywhere_aside (hs : s.driver.Sane) (sql : Text) (params : List Value) :
    ∃ ss, Aside ss s ((executeAnywhere sql params).exec s).2 ∧
      ∀ p ∈ ss, p.1.Fresh s ((executeAnywhere sql params).exec s).2 := by
  have hopen := ensureOpen_aside hs
  unfold executeAnywhere
  rw [exec_bind]
  cases he : ensureOpen.exec s with
  | mk o s₁ =>
    rw [he] at hopen
    cases o with
    | error e => exact ⟨[], hopen, by simp⟩
    | ok u =>
      dsimp only
      rw [exec_bind_ok (exec_get s₁)]
      cases hd : s₁.driver with
      | direct =>
        have hsent : Aside [] s₁ ((executeAt .driver sql params).exec s₁).2 :=
          (leaves_bind (leaves_request (.execute .driver sql params) s₁) fun _ _ => leaves_pure _ _).aside
        exact ⟨[], hopen.trans hsent, by simp⟩
      | pooled dsn minSize maxSize isOpen =>
        dsimp only
        rw [exec_bind_ok (exec_freshConnection s₁), exec_bind, exec_demand]
        have hfile : s.driver.usesFile = false := by
          rw [← hopen.usesFile, hd]
          rfl
        have hfresh : ∀ s', s₁.connections + 1 ≤ s'.connections →
            Lease.Fresh s s' (.connection (s₁.connections + 1)) :=
          fun s' hn => ⟨hfile, Nat.lt_succ_of_le hopen.connections, hn⟩
        have hmoved := hopen.trans (aside_fresh (r := .acquire (s₁.connections + 1)) rfl)
        cases s₁.backend.answer s₁.log (.acquire (s₁.connections + 1)) with
        | error e =>
          refine ⟨_, hmoved, fun p hp => ?_⟩
          rw [List.mem_singleton.1 hp]
          exact hfresh _ (Nat.le_refl _)
        | ok a =>
          let n := s₁.connections + 1
          have hsent := leaves_cleanedUp
            (executeOn_leaves (.connection n) sql params
              (({ s₁ with connections := n } : Session).extend [.asked (.acquire n)]))
            fun s' => leaves_demand (.release n) (rfl : signs _ = [(.connection n, .released)]) s'
          refine ⟨_, hmoved.trans hsent.aside, fun p hp => ?_⟩
          have hlease : p.1 = .connection n := by
            simp only [List.cons_append, List.nil_append, List.mem_cons, List.not_mem_nil,
              or_false] at hp
            rcases hp with rfl | rfl | rfl <;> rfl
          rw [hlease]
          exact hfresh _ hsent.aside.connections
      | file path isOpen isLocked =>
        dsimp only
        rw [exec_bind, exec_awaitLock]
        cases hl : s₁.driver.isLocked with
        | true => exact ⟨[], hopen, by simp⟩
        | false =>
          have hfile : s₁.driver.usesFile = true := by rw [hd]; rfl
          refine ⟨_, hopen.trans (executeFile_leaves sql params s₁).aside, fun p hp => ?_⟩
          rw [List.nil_append, List.mem_singleton] at hp
          rw [hp]
          exact ⟨hopen.usesFile.symm.trans hfile, hopen.isLocked.symm.trans hl⟩

end Action

end BoundSql
