import GameBundle.Environment.Basic
import GameBundle.Log.Directive

/-!
# Filters of messages

A filter is a list of directives with commas between. Of the directives that hold for a
message, the most special one decides; when none holds, the message is not shown.
-/

namespace GameBundle

structure LogFilter where
  directives : List LogDirective
deriving DecidableEq, Repr

namespace LogFilter

/-- The parts of a text between commas. -/
def parts : List Char → List (List Char)
  | [] => [[]]
  | ',' :: rest => [] :: parts rest
  | c :: rest =>
    match parts rest with
    | part :: more => (c :: part) :: more
    | [] => [[c]]

def upTo (level : LogLevel) : LogFilter := ⟨[.general level]⟩

/-- The filter of a text; the first directive that cannot be used is a fault of the whole. -/
def ofText (text : String) : Except LogFault LogFilter := do
  return ⟨← ((parts text.toList).filter (· ≠ [])).mapM LogDirective.ofText⟩

def deciding? (filter : LogFilter) (source : String) : Option LogDirective :=
  (filter.directives.filter (LogDirective.holdsFor source)).foldl (fun best directive =>
    match best with
    | some held => if directive.weight < held.weight then best else some directive
    | none => some directive) none

def shows (filter : LogFilter) (level : LogLevel) (source : String) : Bool :=
  (filter.deciding? source).any fun directive => level.rank ≤ directive.level.rank

end LogFilter

/-- How the messages of the program are shown. -/
structure LogSettings where
  /-- The variable that holds the filter. -/
  variableName : Option String
  /-- The source of the messages about exports that failed. -/
  source : String
deriving DecidableEq, Repr

namespace LogSettings

/-- The filter given by a variable. Information is shown when there is none or when it is
malformed. -/
def filter (settings : LogSettings) (environment : Environment) : Except LogFault LogFilter :=
  match settings.variableName.bind environment.value? with
  | none => .ok (.upTo .information)
  | some text =>
    match LogFilter.ofText text with
    | .error .malformed => .ok (.upTo .information)
    | result => result

end LogSettings

end GameBundle
