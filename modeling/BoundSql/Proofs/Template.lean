import BoundSql.Predicate.Compile
/-!
Templates: statement text in which the bound values themselves stand at their places. Two texts are
made of a template: the numbered one, with a placeholder for each value, and the written one, with
a literal for each value. Numbering goes from left to right, so it is a law of concatenation.
-/

namespace BoundSql

inductive Piece where
  | char (c : Char)
  | value (v : Value)

namespace Piece

def value? : Piece → Option Value
  | char _ => none
  | value v => some v

def write (literal : Value → Text) : Piece → Text
  | char c => [c]
  | value v => literal v

end Piece

abbrev Template := List Piece

namespace Template

def ofText (t : Text) : Template :=
  t.map .char

def values (T : Template) : List Value :=
  T.filterMap Piece.value?

def write (literal : Value → Text) (T : Template) : Text :=
  T.flatMap (Piece.write literal)

/-- The text with placeholders in the places of the values, the first of them after `offset`. -/
def number (offset : Int) : Template → Text
  | [] => []
  | .char c :: T => c :: number offset T
  | .value _ :: T => Placeholder.slotText (offset + 1) ++ number (offset + 1) T

def numbered (offset : Int) (T : Template) : BoundText where
  sql := number offset T
  params := values T

def numberedAll (offset : Int) : List Template → List BoundText
  | [] => []
  | T :: Ts => T.numbered offset :: numberedAll (offset + (values T).length) Ts

def join (separator : Text) : List Template → Template
  | [] => []
  | [T] => T
  | T :: U :: Ts => T ++ ofText separator ++ join separator (U :: Ts)

def each (vs : List Value) : List Template :=
  vs.map fun v => [.value v]

/-- A fragment with the values in the places of its markers, as far as they go. -/
def ofFragment : Text → List Value → Template
  | [], _ => []
  | c :: t, vs =>
    if c = '?' then
      match vs with
      | [] => .char c :: ofFragment t []
      | v :: vs => .value v :: ofFragment t vs
    else .char c :: ofFragment t vs

section Laws

variable (o : Int) (t : Text) (T U : Template) (Ts : List Template)

@[simp] theorem ofText_nil : ofText [] = [] := rfl

@[simp] theorem ofText_cons (c : Char) : ofText (c :: t) = .char c :: ofText t := rfl

@[simp] theorem ofText_append (u : Text) : ofText (t ++ u) = ofText t ++ ofText u :=
  List.map_append

@[simp] theorem values_nil : values [] = [] := rfl

@[simp] theorem values_char (c : Char) : values (.char c :: T) = values T := rfl

@[simp] theorem values_value (v : Value) : values (.value v :: T) = v :: values T := rfl

@[simp] theorem values_append : values (T ++ U) = values T ++ values U :=
  List.filterMap_append

@[simp] theorem values_ofText : values (ofText t) = [] := by
  induction t with
  | nil => rfl
  | cons c t ih => simpa using ih

@[simp] theorem number_nil : number o [] = [] := rfl

@[simp] theorem number_char (c : Char) : number o (.char c :: T) = c :: number o T := rfl

@[simp] theorem number_value (v : Value) :
    number o (.value v :: T) = Placeholder.slotText (o + 1) ++ number (o + 1) T := rfl

@[simp] theorem number_append :
    number o (T ++ U) = number o T ++ number (o + (values T).length) U := by
  induction T generalizing o with
  | nil => simp
  | cons p T ih =>
    cases p with
    | char c => simp [ih]
    | value v =>
      have ho : o + 1 + ((values T).length : Int) = o + ((values T).length + 1) := by omega
      simp [ih, ho]

@[simp] theorem number_ofText : number o (ofText t) = t := by
  induction t with
  | nil => rfl
  | cons c t ih => simpa using ih

@[simp] theorem write_append (literal : Value → Text) :
    (T ++ U).write literal = T.write literal ++ U.write literal :=
  List.flatMap_append

@[simp] theorem write_ofText (literal : Value → Text) : (ofText t).write literal = t := by
  induction t with
  | nil => rfl
  | cons c t ih =>
    have hc : (ofText (c :: t)).write literal = c :: (ofText t).write literal := rfl
    rw [hc, ih]

theorem numbered_ofText : (ofText t).numbered o = { sql := t } := by
  simp [numbered]

theorem allParams_numberedAll : allParams (numberedAll o Ts) = Ts.flatMap values := by
  induction Ts generalizing o with
  | nil => rfl
  | cons T Ts ih =>
    have ht := ih (o + (values T).length)
    simp only [allParams] at ht
    simp [numberedAll, allParams, numbered, ht]

@[simp] theorem values_join (separator : Text) : values (join separator Ts) = Ts.flatMap values := by
  fun_induction join separator Ts with
  | case1 => rfl
  | case2 T => simp
  | case3 T U Ts ih => simp [ih]

theorem number_join (separator : Text) :
    number o (join separator Ts) = joinWith separator ((numberedAll o Ts).map BoundText.sql) := by
  fun_induction join separator Ts generalizing o with
  | case1 => rfl
  | case2 T => simp [numberedAll, numbered, joinWith]
  | case3 T U Ts ih =>
    have hU := ih (o + (values T).length)
    simp only [numberedAll, List.map_cons] at hU
    simp [numberedAll, joinWith, numbered, hU]

theorem join_map_ofText (separator : Text) (ts : List Text) :
    join separator (ts.map ofText) = ofText (joinWith separator ts) := by
  fun_induction joinWith separator ts with
  | case1 => rfl
  | case2 t => rfl
  | case3 t u ts ih =>
    simp only [List.map_cons] at ih
    simp only [List.map_cons, join, ih, ofText_append]

theorem values_each (vs : List Value) : (each vs).flatMap values = vs := by
  induction vs with
  | nil => rfl
  | cons v vs ih =>
    simp only [each, List.map_cons, List.flatMap_cons] at ih ⊢
    rw [ih]
    rfl

theorem sql_numberedAll_each (vs : List Value) :
    (numberedAll o (each vs)).map BoundText.sql = slotTexts o vs.length := by
  induction vs generalizing o with
  | nil => rfl
  | cons v vs ih =>
    have hv := ih (o + 1)
    simp only [each] at hv
    simp [each, numberedAll, numbered, slotTexts, hv]

@[simp] theorem number_join_each (separator : Text) (vs : List Value) :
    number o (join separator (each vs)) = joinWith separator (slotTexts o vs.length) := by
  rw [number_join, sql_numberedAll_each]

@[simp] theorem values_join_each (separator : Text) (vs : List Value) :
    values (join separator (each vs)) = vs := by
  rw [values_join, values_each]

theorem ofFragment_numbered (vs : List Value) (h : Placeholder.markerCount t = vs.length) :
    (ofFragment t vs).numbered o = { sql := Placeholder.numberMarkers o t, params := vs } := by
  induction t generalizing o vs with
  | nil =>
    have hv : vs = [] := List.eq_nil_of_length_eq_zero h.symm
    subst hv
    rfl
  | cons c t ih =>
    by_cases hc : c = '?'
    · subst hc
      cases vs with
      | nil => simp [Placeholder.markerCount] at h
      | cons v vs =>
        have ht := ih (o + 1) vs (by simpa [Placeholder.markerCount] using h)
        simp only [numbered, BoundText.mk.injEq] at ht
        simp [ofFragment, numbered, Placeholder.numberMarkers, ht]
    · have ht := ih o vs (by simpa [Placeholder.markerCount, hc] using h)
      simp only [numbered, BoundText.mk.injEq] at ht
      simp [ofFragment, numbered, Placeholder.numberMarkers, hc, ht]

end Laws

end Template

end BoundSql
