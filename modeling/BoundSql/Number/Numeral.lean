import BoundSql.Number.Scientific
import BoundSql.Text.Blank
/-!
Numerals of whole numbers. There is a strict notation, in digits of any script; a plain one in ASCII
digits; and a loose one, which has zeros and low lines in front and zeros after a point besides.
None has more digits than a fixed bound.
-/

namespace BoundSql

namespace Numeral

def maxDigits : Nat := 4300

inductive Fault where
  | unreadable
  | tooLong
  deriving DecidableEq, Repr

def joinedDigits? (isDigit : Char → Bool) (t : Text) : Option Text :=
  let pieces := cutAt '_' t
  if pieces.all fun p => !p.isEmpty && p.all isDigit then some pieces.flatten else none

def read (t : Text) : Except Fault Int :=
  let (negative, t) := takeSign (trimBy isWhiteSpace t)
  match joinedDigits? isDecimalDigit t with
  | none => .error .unreadable
  | some digits =>
    if maxDigits < digits.length then .error .tooLong
    else .ok (withSign negative (digitsValue digits))

def dropZeroFraction (t : Text) : Text :=
  let fraction := (t.dropWhile (· != '.')).drop 1
  if !fraction.isEmpty && fraction.all (· == '0') then t.takeWhile (· != '.') else t

/-- What is left of a text that begins with a digit without the zeros in front and the low lines
among them. A minus sign may follow the zeros. Of zeros and low lines alone the last character is
left. -/
def dropZerosInFront? : Text → Option Text
  | [] => none
  | c :: t =>
    if c = '0' then
      match t.dropWhile fun d => d = '0' || d = '_' with
      | [] => some [t.getLastD c]
      | d :: rest => if d.isDigit || d = '-' then some (d :: rest) else none
    else if c.isDigit then some (c :: t) else none

/-- What is left of a text without its low lines, if each of them stands between two other
characters. -/
def dropLowLines (t : Text) : Text :=
  if (cutAt '_' t).any List.isEmpty then t else t.filter (· != '_')

/-- Reads the plain notation: digits without a zero in front, after a minus sign if there is one.
The sign counts as a digit. -/
def readPlain (t : Text) : Except Fault Int :=
  let negative := t.head? = some '-'
  let body := if negative then t.drop 1 else t
  let digits := body.takeWhile Char.isDigit
  if digits.head? = some '0' then if body = ['0'] then .ok 0 else .error .unreadable
  else if maxDigits < digits.length + (if negative then 1 else 0) then .error .tooLong
  else if digits.isEmpty || digits.length < body.length then .error .unreadable
  else .ok (withSign negative (digitsValue digits))

/-- Reads the loose notation, with white space around it and a sign: it is brought into the plain
one first, in which there is room for one sign only. -/
def readLoose (t : Text) : Except Fault Int :=
  let (negative, t) := takeSign (trimBy isWhiteSpace t)
  match dropZerosInFront? (dropZeroFraction t) with
  | none => .error .unreadable
  | some t => readPlain ((if negative then ['-'] else []) ++ dropLowLines t)

end Numeral

end BoundSql
