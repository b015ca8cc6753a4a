import GameBundle.Proofs.Storage.Place
import GameBundle.Include.Engine

/-!
# Paths of engine scripts

The paths of engine scripts are made of names alone, so the scripts lie inside the
runtime directory and inside whatever directory they are copied into.
-/

namespace GameBundle

theorem isPlain_engine {script : String}
    (member : script ∈ coreScripts ++ eventsToolScripts ++ debuggerScripts ++
      Renderer.pixi.scripts ++ Renderer.cocos.scripts) : Path.isPlain script.toList = true := by
  have of_chars {chars : List Char} (plain : Path.isPlain chars = true) :
      Path.isPlain (String.ofList chars).toList = true := by rwa [String.toList_ofList]
  revert script
  unfold coreScripts eventsToolScripts debuggerScripts Renderer.scripts
  simp only [List.cons_append, List.nil_append, List.forall_mem_cons]
  repeat' apply And.intro
  all_goals first
    | exact of_chars (by decide)
    | simp

/-- Whether of the parts of a text the last one alone has a dot, as in most paths of files. -/
def Path.isDotted (more : List Char) : Bool :=
  let parts := splitParts more
  parts.getLast?.any (·.contains '.') && parts.dropLast.all fun part => !part.contains '.'

theorem isDotted_engine {script : String}
    (member : script ∈ coreScripts ++ eventsToolScripts ++ Renderer.pixi.scripts) :
    Path.isDotted script.toList = true := by
  have of_chars {chars : List Char} (dotted : Path.isDotted chars = true) :
      Path.isDotted (String.ofList chars).toList = true := by rwa [String.toList_ofList]
  revert script
  unfold coreScripts eventsToolScripts Renderer.scripts
  simp only [List.cons_append, List.nil_append, List.forall_mem_cons]
  repeat' apply And.intro
  all_goals first
    | exact of_chars (by decide)
    | simp

end GameBundle
