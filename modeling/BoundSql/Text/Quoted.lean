import BoundSql.Text.Basic
import BoundSql.Text.Printable
/-!
The quoted form of texts and bytes in messages. The quote is the apostrophe, unless the content has
an apostrophe and no double quote; the quote in use, the backslash and what cannot be printed are
written as escapes.
-/

namespace BoundSql

def quoteFor (content : List Char) : Char :=
  if content.contains '\'' && !content.contains '"' then '"' else '\''

def quotedChar (quote c : Char) : Text :=
  if c = quote || c = '\\' then ['\\', c]
  else if c = '\n' then ['\\', 'n']
  else if c = '\r' then ['\\', 'r']
  else if c = '\t' then ['\\', 't']
  else if isPrintable c then [c]
  else if c.toNat < 0x100 then '\\' :: 'x' :: hexText 2 c.toNat
  else if c.toNat < 0x10000 then '\\' :: 'u' :: hexText 4 c.toNat
  else '\\' :: 'U' :: hexText 8 c.toNat

def quoted (content : Text) : Text :=
  let quote := quoteFor content
  quote :: content.flatMap (quotedChar quote) ++ [quote]

def quotedBytes (bytes : List UInt8) : Text :=
  let content := bytes.map fun b => Char.ofNat b.toNat
  let quote := quoteFor content
  let written := content.flatMap fun c =>
    if c.toNat < 0x80 then quotedChar quote c else '\\' :: 'x' :: hexText 2 c.toNat
  'b' :: quote :: written ++ [quote]

end BoundSql
