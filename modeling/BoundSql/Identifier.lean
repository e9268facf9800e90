import BoundSql.Failure
import BoundSql.Text.WordChar
/-!
Identifiers: dotted names whose parts are quoted one by one. A part that looks like an attempt to
write more than a name is refused; otherwise only ASCII letters, digits and low lines of it stay.
-/

namespace BoundSql

/-- Texts that separate statements, or begin or end a comment, and the zero character. -/
def dangerousPatterns : List Text :=
  [[';'], ['-', '-'], ['/', '*'], ['*', '/'], ['\x00']]

def isDangerous (t : Text) : Bool :=
  dangerousPatterns.any fun p => occursIn p t

/-- Whether a text begins with the word UNION in any case; its third letter has two more forms. -/
def startsWithUnion : Text → Bool
  | u :: n :: i :: o :: m :: rest =>
    (u = 'u' || u = 'U') && (n = 'n' || n = 'N') &&
      (i = 'i' || i = 'I' || i = 'ı' || i = 'İ') && (o = 'o' || o = 'O') &&
      (m = 'n' || m = 'N') && !rest.head?.any isWordChar
  | _ => false

/-- Whether the word UNION stands in a text; `inWord` tells whether a word character precedes. -/
def hasUnionWord (inWord : Bool) : Text → Bool
  | [] => false
  | c :: t => (!inWord && startsWithUnion (c :: t)) || hasUnionWord (isWordChar c) t

def reservedWords : List String :=
  ["SELECT", "FROM", "WHERE", "INSERT", "UPDATE", "DELETE", "DROP", "CREATE", "ALTER", "TABLE",
    "INDEX", "VIEW", "PROCEDURE", "FUNCTION", "TRIGGER", "UNION", "JOIN", "LEFT", "RIGHT", "INNER",
    "OUTER", "ON", "AS", "ORDER", "GROUP", "BY", "HAVING", "DISTINCT", "TOP", "LIMIT", "OFFSET",
    "AND", "OR", "NOT", "IN", "EXISTS", "BETWEEN", "LIKE", "IS", "NULL", "TRUE", "FALSE", "CASE",
    "WHEN", "THEN", "ELSE", "END", "IF", "BEGIN", "COMMIT", "ROLLBACK", "TRANSACTION", "GRANT",
    "REVOKE", "PRIMARY", "FOREIGN", "KEY", "CONSTRAINT", "DEFAULT", "CHECK", "UNIQUE",
    "REFERENCES", "CASCADE", "RESTRICT", "SET", "VALUES", "INTO", "COLUMN", "DATABASE", "SCHEMA"]

def isReserved (part : Text) : Bool :=
  reservedWords.any fun w => w.toList == upper part

def isNameChar (c : Char) : Bool :=
  c.isAlphanum || c == '_'

namespace Identifier

def defaultLimit : Int := 128

/-- Quotes one part of a name. What stays of it has no quote, so none has to be doubled. -/
def quotePart (limit : Int) (part : Text) : Except NameFault Text :=
  let part := trim part
  if part.isEmpty then .error .emptyPart
  else if limit < part.length then .error (.tooLong limit)
  else if isDangerous part || hasUnionWord false part then .error .dangerous
  else if isReserved part then .error (.reserved (String.ofList part))
  else
    let kept := part.filter isNameChar
    if kept.isEmpty then .error .nothingLeft else .ok ('"' :: kept ++ ['"'])

/-- Quotes the parts of a name; a star may stand for the last part unless it is the only one. -/
def quoteParts (limit : Int) (first : Bool) : List Text → Except NameFault (List Text)
  | [] => .ok []
  | [part] =>
    if part = ['*'] && !first then .ok [['*']] else (quotePart limit part).map fun q => [q]
  | part :: parts =>
    (quotePart limit part).bind fun q => (quoteParts limit false parts).map fun qs => q :: qs

def quote (limit : Int) (name : Text) : Except NameFault Text :=
  let body := trim name
  if body.isEmpty then .error .blank
  else (quoteParts limit true (cutAt '.' body)).map (joinWith ['.'])

def quoteName (limit : Int) (name : String) : Outcome Text :=
  (quote limit name.toList).mapError fun fault => .rejected (.identifier (.text name) fault)

def quoteValue (limit : Int) : Value → Outcome Text
  | .text name => quoteName limit name
  | v => reject (.identifier v .notText)

def quoteAll (limit : Int) (names : Value) : Outcome (List Text) :=
  match names.elements? with
  | some vs => vs.mapM (quoteValue limit)
  | none => .error (.misuse (.notIterable names.typeName))

def nameOf (limit : Int) : Value → Outcome String
  | .text name => (quoteName limit name).map fun _ => name
  | v => reject (.identifier v .notText)

/-- The rest of the part that is open, if one is, and the parts after it. Dots count nothing outside
of quotes, and the end of the text closes a part. -/
def partsFrom : Bool → Text → Option (Text × List Text)
  | _, [] => some ([], [])
  | false, c :: t =>
    if c = '"' then (partsFrom true t).map fun p => ([], p.1 :: p.2)
    else if c = '*' then (partsFrom false t).map fun p => ([], ['*'] :: p.2)
    else if c = '.' then partsFrom false t
    else none
  | true, '"' :: '"' :: t => (partsFrom true t).map fun p => ('"' :: p.1, p.2)
  | true, c :: t =>
    if c = '"' then partsFrom false t else (partsFrom true t).map fun p => (c :: p.1, p.2)

def unquote (q : Text) : Outcome Text :=
  match partsFrom false q with
  | some (_, parts) => .ok (joinWith ['.'] parts)
  | none => reject (.notQuoted (String.ofList q))

end Identifier

end BoundSql
