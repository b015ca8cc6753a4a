import GameBundle.Project.Basic

/-!
# Compilers of events

Turning events into script code is left to a compiler that is handed in. It answers
for one function of a behavior or for one layout, with code and the scripts that the
code needs.
-/

namespace GameBundle

structure ScriptCode where
  code : String
  includes : List String
deriving DecidableEq, Repr

namespace ScriptCode

def empty : ScriptCode := ⟨"", []⟩

def append (one other : ScriptCode) : ScriptCode :=
  ⟨one.code ++ other.code, one.includes ++ other.includes⟩

end ScriptCode

/-- A function of a behavior that is to become a method. Helpers go into the context
namespace, and the method itself is assigned to the qualified name. -/
structure MethodRequest where
  function : EventsFunction
  contextNamespace : String
  qualifiedName : String
  forRuntime : Bool

structure EventsCompiler where
  method : Project → MethodRequest → ScriptCode
  layout : Project → Layout → Bool → ScriptCode

end GameBundle
