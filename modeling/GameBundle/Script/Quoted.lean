import GameBundle.Text.UnitEscape

/-!
# Quoted script strings

A text as a double-quoted string literal of the script language. Quotes, backslashes,
control characters and the two line separators that end a script line are escaped.
-/

namespace GameBundle.Script

/-- Control characters: those below the blank, and from 127 to 159. -/
def isControl (c : Char) : Bool := c.toNat < 32 || (127 ≤ c.toNat && c.toNat ≤ 159)

def quoteChar (c : Char) : List Char :=
  if c = '\\' then ['\\', '\\']
  else if c = '"' then ['\\', '"']
  else if c = '\n' then ['\\', 'n']
  else if c = '\r' then ['\\', 'r']
  else if c = '\t' then ['\\', 't']
  else if c = '\u2028' || c = '\u2029' || isControl c then Text.unitEscape c.toNat
  else [c]

def quoteChars (text : List Char) : List Char := '"' :: (text.flatMap quoteChar ++ ['"'])

def quote (text : String) : String := String.ofList (quoteChars text.toList)

end GameBundle.Script
