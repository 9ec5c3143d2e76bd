import Flotilla.Text.Hex
import Flotilla.Text.Visible

/-!
# Quoted texts

A quoted text stands between quotation marks.  Quotation marks, backslashes and characters that do not
show are escaped, so that a message can be told from the text it quotes.
-/

namespace Flotilla.Text

/-- The form of a character inside a quoted text. -/
def quoteChar (c : Char) : List Char :=
  if c = '"' then ['\\', '"']
  else if c = '\\' then ['\\', '\\']
  else if c = '\n' then ['\\', 'n']
  else if c = '\r' then ['\\', 'r']
  else if c = '\t' then ['\\', 't']
  else if c = '\x00' then ['\\', '0']
  else if isVisible c then [c]
  else ['\\', 'u', '\x7b'] ++ Nat.toDigits 16 c.toNat ++ ['\x7d']

/-- A text between quotation marks. -/
def quote (s : String) : String := String.ofList ('"' :: s.toList.flatMap quoteChar ++ ['"'])

end Flotilla.Text
