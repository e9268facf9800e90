import BoundSql.Text.Basic
/-!
Capitals. Keywords are ASCII, so a text is compared with them after every character that has an
ASCII capital form was replaced by it.
-/

namespace BoundSql

/-- The ASCII capitals of a character. One whose capitals are not ASCII stays, and is not ASCII. -/
def capitals (c : Char) : Text :=
  match c with
  | 'ß' => ['S', 'S']
  | 'ı' => ['I']
  | 'ſ' => ['S']
  | 'ﬀ' => ['F', 'F']
  | 'ﬁ' => ['F', 'I']
  | 'ﬂ' => ['F', 'L']
  | 'ﬃ' => ['F', 'F', 'I']
  | 'ﬄ' => ['F', 'F', 'L']
  | 'ﬅ' => ['S', 'T']
  | 'ﬆ' => ['S', 'T']
  | c => [c.toUpper]

def upper (t : Text) : Text :=
  t.flatMap capitals

end BoundSql
