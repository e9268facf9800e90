import BoundSql.Failure
import BoundSql.Number.Numeral
/-!
Numbered placeholders in statement text. A text is a sequence of tokens: slots, each a dollar sign
and all decimal digits after it, and single characters. What is done to placeholders is done to the
slots alone and in one pass.
-/

namespace BoundSql

inductive Token where
  | char (c : Char)
  | slot (digits : Text)
  deriving DecidableEq, Repr

namespace Token

def text : Token → Text
  | char c => [c]
  | slot digits => '$' :: digits

def digit? : Token → Option Char
  | char c => if isDecimalDigit c then some c else none
  | slot _ => none

def takeDigits : List Token → Text × List Token
  | [] => ([], [])
  | k :: ks =>
    match k.digit? with
    | some c => (c :: (takeDigits ks).1, (takeDigits ks).2)
    | none => ([], k :: ks)

/-- Puts a dollar sign in front: with digits after it it is a slot. -/
def addDollar (ks : List Token) : List Token :=
  match takeDigits ks with
  | ([], _) => char '$' :: ks
  | (digits, rest) => slot digits :: rest

def ofText : Text → List Token
  | [] => []
  | c :: t => if c = '$' then addDollar (ofText t) else char c :: ofText t

theorem takeDigits_text (ks : List Token) :
    (takeDigits ks).1 ++ (takeDigits ks).2.flatMap text = ks.flatMap text := by
  induction ks with
  | nil => rfl
  | cons k ks ih =>
    cases k with
    | slot ds => rfl
    | char c =>
      by_cases h : isDecimalDigit c
      · simp [takeDigits, digit?, h, text, ih]
      · simp [takeDigits, digit?, h, text]

theorem flatMap_text_ofText (t : Text) : (ofText t).flatMap text = t := by
  induction t with
  | nil => rfl
  | cons c t ih =>
    by_cases h : c = '$'
    · subst h
      have hd := takeDigits_text (ofText t)
      rw [ih] at hd
      simp only [ofText, ↓reduceIte, addDollar]
      split
      · simp [text, ih]
      · rename_i digits rest _ he
        rw [he] at hd
        simpa [text] using hd
    · simp [ofText, h, text, ih]

end Token

namespace Placeholder

def slotText (n : Int) : Text :=
  '$' :: intText n

/-- Adds to the number of every slot. Numbers are written anew, in ASCII and without leading zeros,
except that adding nothing leaves the text alone. -/
def shift (offset : Int) (t : Text) : Text :=
  if offset = 0 then t
  else (Token.ofText t).flatMap fun
    | .char c => [c]
    | .slot digits => slotText (digitsValue digits + offset)

def indices (t : Text) : List Nat :=
  (Token.ofText t).filterMap fun
    | .char _ => none
    | .slot digits => some (digitsValue digits)

/-- The most digits that the number of a slot has: as many as a numeral has, and always enough to
count the values. -/
def maxDigits (values : Nat) : Nat :=
  max Numeral.maxDigits (natText values).length

def isWritable (limit : Nat) (n : Int) : Bool :=
  decide ((natText n.natAbs).length ≤ limit)

/-- Whether consecutive numbers after the offset can all be written, which hangs on the first and
the last of them. -/
def areWritable (limit : Nat) (offset : Int) (count : Nat) : Bool :=
  count = 0 || isWritable limit (offset + 1) && isWritable limit (offset + count)

def isLegible (limit : Nat) (offset : Int) (t : Text) : Bool :=
  (Token.ofText t).all fun
    | .char _ => true
    | .slot digits =>
      decide (digits.length ≤ limit) && isWritable limit (digitsValue digits + offset)

def shiftWithin (limit : Nat) (offset : Int) (t : Text) : Except Misuse Text :=
  if offset = 0 || isLegible limit offset t then .ok (shift offset t) else .error .longNumeral

def indicesWithin (limit : Nat) (t : Text) : Except Misuse (List Nat) :=
  if isLegible limit 0 t then .ok (indices t) else .error .longNumeral

def positional (marker : Text) (t : Text) : Text :=
  (Token.ofText t).flatMap fun
    | .char c => [c]
    | .slot _ => marker

/-- The value that a slot number stands for; number zero stands for the last one. -/
def bound? {α : Type} (values : List α) : Nat → Option α
  | 0 => values.getLast?
  | n + 1 => values[n]?

/-- The text of a token in which a slot is replaced by what its number stands for. A number that is
too long is not read. -/
def fillToken (limit : Nat) (textAt : Nat → Except Misuse Text) : Token → Except Misuse Text
  | .char c => .ok [c]
  | .slot digits =>
    if limit < digits.length then .error .longNumeral else textAt (digitsValue digits)

def fillWith (limit : Nat) (textAt : Nat → Except Misuse Text) (t : Text) : Except Misuse Text :=
  ((Token.ofText t).mapM (fillToken limit textAt)).map List.flatten

def fill {α : Type} (literal : α → Text) (values : List α) (t : Text) : Except Misuse Text :=
  fillWith (maxDigits values.length) (fun n =>
    match bound? values n with
    | some v => .ok (literal v)
    | none => .error (.slotOutOfRange n)) t

def markerCount (fragment : Text) : Nat :=
  fragment.count '?'

def numberMarkers (last : Int) : Text → Text
  | [] => []
  | c :: t =>
    if c = '?' then slotText (last + 1) ++ numberMarkers (last + 1) t
    else c :: numberMarkers last t

def renumber (fragment : Text) (offset expected : Int) : Outcome Text :=
  if (markerCount fragment : Int) = expected then .ok (numberMarkers offset fragment)
  else reject (.markerCount (String.ofList fragment) (markerCount fragment) expected)

def renumberWithin (limit : Nat) (fragment : Text) (offset expected : Int) : Outcome Text :=
  (renumber fragment offset expected).bind fun t =>
    if areWritable limit offset (markerCount fragment) then .ok t else .error (.misuse .longNumeral)

end Placeholder

end BoundSql
