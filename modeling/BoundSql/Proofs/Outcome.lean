import BoundSql.Failure
import Mathlib.Data.List.Forall2
/-!
When a combination of outcomes ends well: exactly when its parts do, one after the other.
-/

namespace BoundSql

namespace Outcome

variable {ε ε' α β γ : Type}

theorem bind_eq_ok {x : Except ε α} {f : α → Except ε β} {b : β} :
    x.bind f = .ok b ↔ ∃ a, x = .ok a ∧ f a = .ok b := by
  cases x <;> simp [Except.bind]

theorem do_eq_ok {x : Except ε α} {f : α → Except ε β} {b : β} :
    (x >>= f) = .ok b ↔ ∃ a, x = .ok a ∧ f a = .ok b :=
  bind_eq_ok

theorem do_ok {x : Except ε α} {f : α → Except ε β} {a : α} (h : x = .ok a) : (x >>= f) = f a := by
  rw [h]
  rfl

theorem pure_eq_ok {a b : α} : (pure a : Except ε α) = .ok b ↔ a = b := by
  simp [pure, Except.pure]

theorem map_eq_ok {x : Except ε α} {f : α → β} {b : β} :
    x.map f = .ok b ↔ ∃ a, x = .ok a ∧ f a = b := by
  cases x <;> simp [Except.map]

theorem map_eq_error {x : Except ε α} {f : α → β} {e : ε} : x.map f = .error e ↔ x = .error e := by
  cases x <;> simp [Except.map]

theorem mapError_eq_ok {x : Except ε α} {f : ε → ε'} {a : α} :
    x.mapError f = .ok a ↔ x = .ok a := by
  cases x <;> simp [Except.mapError]

theorem map_do (x : Except ε α) (f : α → Except ε β) (g : β → γ) :
    (x >>= f).map g = x >>= fun a => (f a).map g := by
  cases x <;> rfl

theorem do_map (x : Except ε α) (f : α → β) (k : β → Except ε γ) :
    x.map f >>= k = x >>= fun a => k (f a) := by
  cases x <;> rfl

theorem do_congr {x : Except ε α} {f g : α → Except ε β} (h : ∀ a, x = .ok a → f a = g a) :
    (x >>= f) = (x >>= g) := by
  cases x with
  | error e => rfl
  | ok a => exact h a rfl

theorem do_pure (x : Except ε α) (f : α → β) : (x >>= fun a => pure (f a)) = x.map f := by
  cases x <;> rfl

theorem map_map (x : Except ε α) (f : α → β) (g : β → γ) :
    (x.map f).map g = x.map fun a => g (f a) := by
  cases x <;> rfl

theorem mapM_eq_ok {f : α → Except ε β} {as : List α} {bs : List β} :
    as.mapM f = .ok bs ↔ List.Forall₂ (fun a b => f a = .ok b) as bs := by
  induction as generalizing bs with
  | nil =>
    simp only [List.mapM_nil, pure_eq_ok]
    constructor
    · rintro rfl
      exact .nil
    · intro h
      cases h
      rfl
  | cons a as ih =>
    simp only [List.mapM_cons, do_eq_ok, pure_eq_ok]
    constructor
    · rintro ⟨b, hb, bs', hbs, rfl⟩
      exact .cons hb (ih.1 hbs)
    · intro h
      cases h with
      | cons hb hbs => exact ⟨_, hb, _, ih.2 hbs, rfl⟩

theorem mapM_eq_error {f : α → Except ε β} {as : List α} {e : ε} :
    as.mapM f = .error e ↔
      ∃ done a rest bs, as = done ++ a :: rest ∧ done.mapM f = .ok bs ∧ f a = .error e := by
  constructor
  · intro h
    induction as with
    | nil => cases h
    | cons a as ih =>
      rw [List.mapM_cons] at h
      cases ha : f a with
      | error e' =>
        rw [ha] at h
        cases h
        exact ⟨[], a, as, [], rfl, rfl, ha⟩
      | ok b =>
        cases has : as.mapM f with
        | ok bs =>
          rw [ha, has] at h
          cases h
        | error e' =>
          rw [ha, has] at h
          cases h
          obtain ⟨done, a', rest, bs, rfl, hdone, ha'⟩ := ih has
          refine ⟨a :: done, a', rest, b :: bs, rfl, ?_, ha'⟩
          rw [List.mapM_cons, ha, hdone]
          rfl
  · rintro ⟨done, a, rest, bs, rfl, hdone, ha⟩
    rw [List.mapM_append, hdone, List.mapM_cons, ha]
    rfl

theorem mapM_map (f : α → Except ε β) (g : β → γ) (as : List α) :
    (as.mapM fun a => (f a).map g) = (as.mapM f).map (List.map g) := by
  induction as with
  | nil => rfl
  | cons a as ih =>
    rw [List.mapM_cons, List.mapM_cons, ih]
    cases f a with
    | error e => rfl
    | ok b => cases as.mapM f <;> rfl

theorem mapM_append_eq_ok {f : α → Except ε β} {as as' : List α} {bs : List β} :
    (as ++ as').mapM f = .ok bs ↔
      ∃ ds es, as.mapM f = .ok ds ∧ as'.mapM f = .ok es ∧ bs = ds ++ es := by
  rw [List.mapM_append]
  constructor
  · intro h
    obtain ⟨ds, hds, h⟩ := do_eq_ok.1 h
    obtain ⟨es, hes, h⟩ := do_eq_ok.1 h
    exact ⟨ds, es, hds, hes, (pure_eq_ok.1 h).symm⟩
  · rintro ⟨ds, es, hds, hes, rfl⟩
    rw [hds, hes]
    rfl

theorem length_of_mapM {f : α → Except ε β} {as : List α} {bs : List β}
    (h : as.mapM f = .ok bs) : bs.length = as.length :=
  (mapM_eq_ok.1 h).length_eq.symm

theorem forall_mem_of_mapM {f : α → Except ε β} {as : List α} {bs : List β}
    (h : as.mapM f = .ok bs) {p : β → Prop} (hp : ∀ a ∈ as, ∀ b, f a = .ok b → p b) :
    ∀ b ∈ bs, p b := by
  induction mapM_eq_ok.1 h with
  | nil => simp
  | @cons a b as bs hb hbs ih =>
    intro b' hb'
    rcases List.mem_cons.1 hb' with rfl | hm
    · exact hp a (by simp) b' hb
    · exact ih (mapM_eq_ok.2 hbs) (fun a' ha' => hp a' (by simp [ha'])) b' hm

theorem map_of_mapM {f : α → Except ε β} {as : List α} {bs : List β} (h : as.mapM f = .ok bs)
    {g : β → γ} {k : α → γ} (hg : ∀ a b, f a = .ok b → g b = k a) : bs.map g = as.map k := by
  induction mapM_eq_ok.1 h with
  | nil => rfl
  | cons hb hbs ih => simp [hg _ _ hb, ih (mapM_eq_ok.2 hbs)]

def Succeeds (x : Except ε α) : Prop :=
  ∃ a, x = .ok a

theorem Succeeds.bind {x : Except ε α} {f : α → Except ε β} (hx : Succeeds x)
    (hf : ∀ a, x = .ok a → Succeeds (f a)) : Succeeds (x >>= f) := by
  obtain ⟨a, rfl⟩ := hx
  exact hf a rfl

theorem Succeeds.after {x : Except ε α} {f : α → Except ε β} {a : α} (hx : x = .ok a)
    (hf : Succeeds (f a)) : Succeeds (x >>= f) := by
  rwa [do_ok hx]

theorem Succeeds.map {x : Except ε α} (hx : Succeeds x) (f : α → β) : Succeeds (x.map f) := by
  obtain ⟨a, rfl⟩ := hx
  exact ⟨f a, rfl⟩

theorem succeeds_pure (a : α) : Succeeds (pure a : Except ε α) :=
  ⟨a, rfl⟩

theorem succeeds_mapM {f : α → Except ε β} {as : List α} :
    Succeeds (as.mapM f) ↔ ∀ a ∈ as, Succeeds (f a) := by
  induction as with
  | nil => simp [Succeeds, pure, Except.pure]
  | cons a as ih =>
    rw [List.mapM_cons, List.forall_mem_cons, ← ih]
    constructor
    · rintro ⟨bs, h⟩
      obtain ⟨b, hb, h⟩ := do_eq_ok.1 h
      obtain ⟨bs', hbs, -⟩ := do_eq_ok.1 h
      exact ⟨⟨b, hb⟩, bs', hbs⟩
    · rintro ⟨ha, has⟩
      exact ha.bind fun b _ => has.bind fun bs _ => succeeds_pure _

end Outcome

end BoundSql
