import GameBundle.Decimal.Digits
import GameBundle.Text.LowerCase

/-!
# Script identifiers

Names chosen by an author become parts of identifiers: ASCII letters and digits are
kept, and every other character, the underscore included, is given by an underscore
and its code point. Code of layouts and behaviors lives in namespaces made that way.
-/

namespace GameBundle.Script

def isPlain (c : Char) : Bool := c.isAlphanum

def mangleChar (c : Char) : List Char :=
  if isPlain c then [c] else '_' :: Decimal.digits c.toNat

def mangleChars (name : List Char) : List Char := name.flatMap mangleChar

def mangle (name : String) : String := String.ofList (mangleChars name.toList)

/-- The name of a package: mangled, in lower case, with dashes for blanks. -/
def packageIdentifier (name : String) : String :=
  String.ofList ((Text.lower (mangle name)).toList.map fun c => if c = ' ' then '-' else c)

def layoutNamespace (layout : String) : String := "kiln." ++ mangle layout ++ "Code"

def behaviorNamespace (extension behavior : String) : String :=
  "kiln.evtsExt__" ++ mangle extension ++ "__" ++ mangle behavior

def getterName (property : String) : String := "_get" ++ property

def setterName (property : String) : String := "_set" ++ property

end GameBundle.Script
