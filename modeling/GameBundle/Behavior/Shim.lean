import GameBundle.Template

/-!
# Shims for renamed methods

When a lifecycle method of the runtime gets a new name, behaviors that define the old
name still have to work. A shim is triggered by the name of a method and adds code
right behind it.
-/

namespace GameBundle

structure Shim where
  /-- The method name that triggers the shim. -/
  trigger : String
  /-- Code of the shim for a namespace and a class in it. -/
  code : String → String → String

namespace Shim

open Template (placeholder)

def destroyTemplate : String :=
  "\n" ++ placeholder "CODE_NAMESPACE" ++ "." ++ placeholder "RUNTIME_BEHAVIOR_CLASSNAME" ++
  ".prototype.onDestroy = function() \x7b\n" ++
  "  // Redirect call to onOwnerRemovedFromScene (the old name of onDestroy)\n" ++
  "  if (this.onOwnerRemovedFromScene) this.onOwnerRemovedFromScene();\n" ++
  "\x7d;\n"

/-- The method called on destruction once had another name. -/
def destroy : Shim where
  trigger := "onOwnerRemovedFromScene"
  code codeNamespace className := Template.fill destroyTemplate [
    (placeholder "CODE_NAMESPACE", codeNamespace),
    (placeholder "RUNTIME_BEHAVIOR_CLASSNAME", className)]

/-- The shims applied unless others are asked for. -/
def standard : List Shim := [destroy]

def triggered (shims : List Shim) (method : String) : List Shim :=
  shims.filter fun shim => shim.trigger == method

end Shim

end GameBundle
