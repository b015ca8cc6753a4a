import GameBundle.Text.CharRanges
import GameBundle.Text.UnprintableTable

/-!
# Quoting for messages

A text shown inside a message stands in double quotes. Quotes and backslashes
are escaped, common controls have short escapes, and characters without a shape
are given by their code point in braces.
-/

namespace GameBundle.Text

def hexDigits (n : Nat) : List Char := Nat.toDigits 16 n

def debugChar (c : Char) : List Char :=
  if c = '\x00' then ['\\', '0']
  else if c = '\t' then ['\\', 't']
  else if c = '\r' then ['\\', 'r']
  else if c = '\n' then ['\\', 'n']
  else if c = '\\' || c = '"' then ['\\', c]
  else if inRanges unprintableRanges c then
    '\\' :: 'u' :: '{' :: (hexDigits c.toNat ++ ['}'])
  else [c]

def debug (text : String) : String :=
  String.ofList ('"' :: (text.toList.flatMap debugChar ++ ['"']))

end GameBundle.Text
