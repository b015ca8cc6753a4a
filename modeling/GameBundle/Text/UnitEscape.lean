/-!
# Escaped code units

The escape `\u` followed by four hexadecimal digits in lower case, which JSON strings
and script strings share.
-/

namespace GameBundle.Text

def hexDigit (digit : Nat) : Char :=
  if digit < 10 then Char.ofNat (48 + digit) else Char.ofNat (87 + digit)

def unitEscape (unit : Nat) : List Char :=
  ['\\', 'u', hexDigit (unit / 4096 % 16), hexDigit (unit / 256 % 16),
    hexDigit (unit / 16 % 16), hexDigit (unit % 16)]

end GameBundle.Text
