import GameBundle.Dictionary

/-!
# Variables of the environment

The environment holds each variable as one text: the name, an equals sign and the
value. A name is looked up in these texts, so an equals sign in it may stand for one
in a value: when `a` has the value `b=c`, then `a=b` has the value `c`.
-/

namespace GameBundle

abbrev Environment := Dictionary String

namespace Environment

def behind? (name : List Char) (entry : String × String) : Option String :=
  let start := name ++ ['=']
  let text := entry.1.toList ++ '=' :: entry.2.toList
  if start.isPrefixOf text then some (String.ofList (text.drop start.length)) else none

def value? (environment : Environment) (name : String) : Option String :=
  if name.isEmpty then none else environment.findSome? (behind? name.toList)

/-- Every variable has its own value. -/
theorem behind?_self (name value : String) : behind? name.toList (name, value) = some value := by
  simp [behind?]

end Environment

end GameBundle
