/-!
Blank characters, and the two operations that depend on them: trimming a text and cutting it into
words.
-/

namespace BoundSql

/-- Blanks: the white space of every script, and the four information separators. -/
def isBlank (c : Char) : Bool :=
  let n := c.toNat
  (decide (0x09 ≤ n) && decide (n ≤ 0x0D)) || (decide (0x1C ≤ n) && decide (n ≤ 0x20)) ||
    n == 0x85 || n == 0xA0 || n == 0x1680 || (decide (0x2000 ≤ n) && decide (n ≤ 0x200A)) ||
    n == 0x2028 || n == 0x2029 || n == 0x202F || n == 0x205F || n == 0x3000

def isWhiteSpace (c : Char) : Bool :=
  isBlank c && !(decide (0x1C ≤ c.toNat) && decide (c.toNat ≤ 0x1F))

def trimBy (isOuter : Char → Bool) (t : List Char) : List Char :=
  ((t.dropWhile isOuter).reverse.dropWhile isOuter).reverse

def trim (t : List Char) : List Char :=
  trimBy isBlank t

def consWord (word : List Char) (ws : List (List Char)) : List (List Char) :=
  if word.isEmpty then ws else word :: ws

/-- The word that a text begins with, which is empty before a blank, and the words after it. -/
def wordsFrom : List Char → List Char × List (List Char)
  | [] => ([], [])
  | c :: t =>
    let (word, ws) := wordsFrom t
    if isBlank c then ([], consWord word ws) else (c :: word, ws)

def words (t : List Char) : List (List Char) :=
  consWord (wordsFrom t).1 (wordsFrom t).2

end BoundSql
