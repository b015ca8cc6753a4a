import GameBundle.Include.IncludeList
import GameBundle.Json.Decoder
import GameBundle.Json.Printer

/-!
# Options of a running game

What the runtime is told when a game starts: whether it is a preview, the external
layout to put into the first layout, and the scripts it has loaded with their
fingerprints, so that a preview can tell which ones have changed.
-/

namespace GameBundle

structure ScriptFile where
  path : String
  hash : Nat
deriving DecidableEq, Repr

namespace ScriptFile

def toJson (file : ScriptFile) : Json :=
  .object [("path", .string file.path), ("hash", .natural file.hash)]

def recordType : Json.RecordType ScriptFile where
  name := "ScriptFile"
  blank := ⟨"", 0⟩
  fields := [
    .required "path" .text fun path f => { f with path },
    .required "hash" (.unsigned 32) fun hash f => { f with hash }]

end ScriptFile

structure GameOptions where
  isPreview : Bool
  injectedLayout : Option String
  scripts : List ScriptFile
deriving DecidableEq, Repr

namespace GameOptions

/-- The options of a game that loads `includes`. A script without a known fingerprint
has the fingerprint zero; an external layout without a name is none. -/
def ofIncludes (isPreview : Bool) (injectedLayout : Option String) (includes : List String)
    (hashes : Dictionary Nat) : GameOptions where
  isPreview
  injectedLayout := injectedLayout.filter (· ≠ "")
  scripts := includes.map fun path => ⟨path, (Dictionary.find? path hashes).getD 0⟩

def toJson (options : GameOptions) : Json :=
  .object ([("isPreview", .bool options.isPreview)] ++
    (match options.injectedLayout with
      | some name => [("injectExternalLayout", .string name)]
      | none => []) ++
    [("scriptFiles", .list ScriptFile.toJson options.scripts)])

def recordType : Json.RecordType GameOptions where
  name := "RuntimeGameOptions"
  blank := ⟨false, none, []⟩
  fields := [
    .required "isPreview" .bool fun isPreview o => { o with isPreview },
    .optional "injectExternalLayout" (.nullable .text)
      fun injectedLayout o => { o with injectedLayout },
    .optional "scriptFiles" (.list ScriptFile.recordType.decode)
      fun scripts o => { o with scripts }]

def parse (text : String) : Except Json.Fault GameOptions := recordType.decode.ofText text

def text (options : GameOptions) : String := options.toJson.text

end GameOptions

end GameBundle
