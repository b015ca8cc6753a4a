import GameBundle.Project.Basic

/-!
# Stripped projects

Once code has been generated, a game only needs the data of its project. Stripping
removes events, object groups and the bodies of functions, and the path of the
project file, which says nothing outside the machine of the author.
-/

namespace GameBundle

def Layout.stripped (layout : Layout) : Layout := { layout with events := [], objectGroups := [] }

def ExternalEvents.stripped (shared : ExternalEvents) : ExternalEvents :=
  { shared with events := [] }

def EventsFunction.stripped (function : EventsFunction) : EventsFunction :=
  { function with events := [] }

def Behavior.stripped (behavior : Behavior) : Behavior :=
  { behavior with functions := behavior.functions.map EventsFunction.stripped }

def Extension.stripped (extension : Extension) : Extension :=
  { extension with behaviors := extension.behaviors.map Behavior.stripped }

def Project.stripped (project : Project) : Project :=
  { project with
    projectFile := ""
    layouts := project.layouts.map Layout.stripped
    externalEvents := project.externalEvents.map ExternalEvents.stripped
    extensions := project.extensions.map Extension.stripped }

end GameBundle
