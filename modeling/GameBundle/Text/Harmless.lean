import GameBundle.Text.UnitEscape

/-!
# Texts for a terminal

Characters that a terminal may take for commands are shown by their code points: the
escape, the bell, the backspace, the form feed, the deletion, and the controls from 128
to 159.
-/

namespace GameBundle.Text

def terminalControls : List Char := ['\x1b', '\x07', '\x08', '\x0c', '\x7f']

def harmlessChar (c : Char) : List Char :=
  if terminalControls.contains c then
    ['\\', 'x', hexDigit (c.toNat / 16), hexDigit (c.toNat % 16)]
  else if 128 ≤ c.toNat ∧ c.toNat ≤ 159 then
    ['\\', 'u', '{', hexDigit (c.toNat / 16), hexDigit (c.toNat % 16), '}']
  else [c]

/-- A text without characters that a terminal may act on. -/
def harmless (text : String) : String := String.ofList (text.toList.flatMap harmlessChar)

end GameBundle.Text
