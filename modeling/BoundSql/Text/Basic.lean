import BoundSql.Text.DecimalDigit
/-!
Texts as lists of characters, and the few operations on them that the statements are assembled with:
search, cutting at a character, joining, and decimal numerals.
-/

namespace BoundSql

/-- SQL text under construction. -/
abbrev Text := List Char

def occursIn (part : Text) : Text → Bool
  | [] => part.isEmpty
  | c :: t => part.isPrefixOf (c :: t) || occursIn part t

/-- The pieces of a text between the separators, of which there is always one. -/
def cutAt (separator : Char) : Text → List Text
  | [] => [[]]
  | c :: t =>
    if c = separator then [] :: cutAt separator t
    else
      match cutAt separator t with
      | [] => [[c]]
      | p :: ps => (c :: p) :: ps

theorem cutAt_ne_nil (separator : Char) (t : Text) : cutAt separator t ≠ [] := by
  cases t with
  | nil => simp [cutAt]
  | cons c t =>
    simp only [cutAt]
    split
    · simp
    · split <;> simp

def joinWith (separator : Text) : List Text → Text
  | [] => []
  | [t] => t
  | t :: u :: ts => t ++ separator ++ joinWith separator (u :: ts)

def atOrBefore : Text → Text → Bool
  | [], _ => true
  | _ :: _, [] => false
  | c :: t, d :: u => decide (c.toNat < d.toNat) || (c == d && atOrBefore t u)

def natText (n : Nat) : Text :=
  Nat.toDigits 10 n

def intText : Int → Text
  | .ofNat n => natText n
  | .negSucc n => '-' :: natText (n + 1)

/-- The number that a run of decimal digits of any script writes; other characters count nothing. -/
def digitsValue (digits : Text) : Nat :=
  digits.foldl (fun n c => 10 * n + (digitValue? c).getD 0) 0

def paddedText (width n : Nat) : Text :=
  let digits := natText n
  List.replicate (width - digits.length) '0' ++ digits

def hexText (width n : Nat) : Text :=
  let digits := Nat.toDigits 16 n
  List.replicate (width - digits.length) '0' ++ digits

def hexValue? (digits : Text) : Option Nat :=
  if digits.isEmpty then none
  else digits.foldlM (fun n c =>
    let d := c.toLower.toNat
    if c.isDigit then some (16 * n + (d - 48))
    else if decide (97 ≤ d) && decide (d ≤ 102) then some (16 * n + (d - 87))
    else none) 0

end BoundSql
