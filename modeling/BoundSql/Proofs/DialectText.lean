import BoundSql.Proofs.Direct
import BoundSql.Proofs.MarkerReading
/-!
What a dialect makes of numbered text. A template in front of a text that goes on with no digit is
written by itself, whatever the rest of the text is.
-/

namespace BoundSql

theorem joinWith_cons (separator t : Text) (us : List Text) :
    joinWith separator (t :: us) = t ++ us.flatMap (separator ++ ·) := by
  induction us generalizing t with
  | nil => simp [joinWith]
  | cons u us ih => simp [joinWith, ih]

theorem joinWith_append (separator : Text) {ts : List Text} (h : ts ≠ []) (us : List Text) :
    joinWith separator (ts ++ us) = joinWith separator ts ++ us.flatMap (separator ++ ·) := by
  cases ts with
  | nil => exact absurd rfl h
  | cons t ts => simp [joinWith_cons]

namespace Token

theorem flatMap_ofText_eq_nil_iff {f : Token → Text} (hf : ∀ k, f k ≠ []) {t : Text} :
    (ofText t).flatMap f = [] ↔ t = [] := by
  constructor
  · intro h
    have hnone : ofText t = [] :=
      List.eq_nil_iff_forall_not_mem.2 fun k hk => hf k (List.flatMap_eq_nil_iff.1 h k hk)
    rw [← flatMap_text_ofText t, hnone]
    rfl
  · rintro rfl
    rfl

end Token

namespace Dialect

def placeholders : Dialect → Nat → Nat → List Text
  | postgres, offset, n => slotTexts offset n
  | sqlite, _, n => List.replicate n ['?']

def assigned (d : Dialect) (offset : Nat) (names : List Text) : Text :=
  joinWith [',', ' ']
    ((names.zip (d.placeholders offset names.length)).map fun p => p.1 ++ " = ".toList ++ p.2)

def fill (d : Dialect) (offset : Nat) (T : Template) : Text :=
  match d with
  | postgres => T.number offset
  | sqlite => T.write fun _ => ['?']

section Fill

variable (d : Dialect) (offset : Nat)

@[simp] theorem fill_ofText (t : Text) : d.fill offset (.ofText t) = t := by
  cases d <;> simp [fill]

@[simp] theorem fill_append (T U : Template) :
    d.fill offset (T ++ U) = d.fill offset T ++ d.fill (offset + T.values.length) U := by
  cases d <;> simp [fill]

@[simp] theorem fill_row (vs : List Value) :
    d.fill offset (.row vs) =
      '(' :: joinWith [',', ' '] (d.placeholders offset vs.length) ++ [')'] := by
  cases d with
  | postgres => exact Template.number_row _ vs
  | sqlite =>
    have hmarkers : (vs.map fun _ => ['?']) = List.replicate vs.length ['?'] := List.map_const'
    simp only [fill, placeholders, Template.write_row, hmarkers]

theorem fill_assignments {names : List Text} {vs : List Value} (h : vs.length = names.length) :
    d.fill offset (.assignments names vs) = d.assigned offset names := by
  cases d with
  | postgres => exact congrArg BoundText.sql (Template.assignments_numbered offset h.symm)
  | sqlite =>
    have hmarkers : List.replicate names.length ['?'] = vs.map fun _ => ['?'] := by
      rw [← h]
      exact List.map_const'.symm
    simp only [fill, assigned, placeholders, Template.write_assignments, hmarkers,
      List.zip_map_right, List.map_map]
    rfl

end Fill

theorem render_append (d : Dialect) (t : Text) {rest : Text}
    (hrest : ∀ c ∈ rest.head?, isDecimalDigit c = false) :
    d.render (t ++ rest) = d.render t ++ d.render rest := by
  cases d with
  | postgres => rfl
  | sqlite =>
    simp only [render, Placeholder.positional_eq, Token.ofText_append_of_head hrest,
      List.flatMap_append]

theorem render_number_append (d : Dialect) {T : Template} (hT : T.Separated) {rest : Text}
    (hrest : ∀ c ∈ rest.head?, isDecimalDigit c = false) :
    d.render (T.number 0 ++ rest) = d.fill 0 T ++ d.render rest := by
  rw [render_append d _ hrest]
  cases d with
  | postgres => rfl
  | sqlite => exact congrArg (· ++ _) (Template.positional_number hT 0 ['?'])

theorem render_cons (d : Dialect) {c : Char} (hc : c ≠ '$') (t : Text) :
    d.render (c :: t) = c :: d.render t := by
  cases d with
  | postgres => rfl
  | sqlite => simp [render, Placeholder.positional_eq, Token.ofText, hc]

theorem render_eq_nil_iff (d : Dialect) {t : Text} : d.render t = [] ↔ t = [] := by
  cases d with
  | postgres => rfl
  | sqlite =>
    refine Token.flatMap_ofText_eq_nil_iff fun k => ?_
    cases k <;> simp

theorem render_of_plain_append (d : Dialect) {t : Text} (h : '$' ∉ t) (u : Text) :
    d.render (t ++ u) = t ++ d.render u := by
  induction t with
  | nil => rfl
  | cons c t ih =>
    simp only [List.mem_cons, not_or] at h
    rw [List.cons_append, d.render_cons (Ne.symm h.1), ih h.2]
    rfl

theorem render_of_plain (d : Dialect) {t : Text} (h : '$' ∉ t) : d.render t = t := by
  have hnil : d.render [] = [] := d.render_eq_nil_iff.2 rfl
  simpa [hnil] using d.render_of_plain_append h []

theorem render_joinWith (d : Dialect) {separator : Text} (hplain : '$' ∉ separator)
    (hdigit : ∀ c u, separator = c :: u → isDecimalDigit c = false) (hne : separator ≠ [])
    (ts : List Text) : d.render (joinWith separator ts) = joinWith separator (ts.map d.render) := by
  have hhead : ∀ u : Text, ∀ c ∈ (separator ++ u).head?, isDecimalDigit c = false := by
    intro u c hc
    cases separator with
    | nil => exact absurd rfl hne
    | cons e rest =>
      cases hc
      exact hdigit _ _ rfl
  cases ts with
  | nil => exact d.render_eq_nil_iff.2 rfl
  | cons t us =>
    induction us generalizing t with
    | nil => rfl
    | cons u us ih =>
      simp only [joinWith, List.map_cons, List.append_assoc] at ih ⊢
      rw [d.render_append t (hhead _), d.render_of_plain_append hplain, ih u]

end Dialect

end BoundSql
