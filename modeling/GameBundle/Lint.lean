import GameBundle.Behavior.Module

/-!
# Checks on generated code

Lenient generation leaves telling texts in the code: the method name of a function
without one, the default value of a property without a known type, and placeholders
that were never filled. A check finds them again.
-/

namespace GameBundle

def countedWarning (code : Code) (count : Nat) (message subject : String) : List Diagnostic :=
  if count = 0 then []
  else [.warning code (Decimal.text count ++ message) (some subject)]

def lint (code subject : String) : Diagnostics where
  items :=
    countedWarning .unmappedFunctionName (Text.count BehaviorModule.unknownMethod code)
      " method(s) generated without a mangled name" subject ++
    countedWarning .unrecognizedPropertyType (Text.count PropertyCode.unrecognizedMarker code)
      " value(s) of an unrecognized property type" subject ++
    (Template.unresolved code).map fun placeholder =>
      .warning .unresolvedPlaceholder ("placeholder " ++ placeholder ++ " was never substituted")
        (some subject)

end GameBundle
