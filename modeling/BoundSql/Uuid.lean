import BoundSql.Text.Basic
/-!
Universally unique identifiers: numbers of 128 bits, written in five groups of hexadecimal digits.
-/

namespace BoundSql

structure Uuid where
  value : Nat
  deriving DecidableEq, Repr

namespace Uuid

/-- Reads 32 hexadecimal digits. Hyphens and braces do not count, nor do the two words that say what
kind of name the digits are. -/
def ofText? (t : Text) : Option Uuid :=
  let words := without "uuid:".toList 0 (without "urn:".toList 0 t)
  let digits := words.filter fun c => c != '-' && c != '\x7b' && c != '\x7d'
  if digits.length = 32 then (hexValue? digits).map Uuid.mk else none
where
  /-- A text without a word, wherever it stands; so many characters more belong to one. -/
  without (word : Text) : Nat → Text → Text
    | _, [] => []
    | n + 1, _ :: t => without word n t
    | 0, c :: t =>
      if word.isPrefixOf (c :: t) then without word (word.length - 1) t else c :: without word 0 t

def text (u : Uuid) : Text :=
  let digits := hexText 32 u.value
  joinWith ['-'] [digits.take 8, (digits.drop 8).take 4, (digits.drop 12).take 4,
    (digits.drop 16).take 4, digits.drop 20]

end Uuid

end BoundSql
