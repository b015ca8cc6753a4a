import GameBundle.Json.Decoder

/-!
# Resources

A resource names a file that the game uses. A table of resources keeps them in
order and looks them up by name, where the first of a name counts. Platform assets
say which resource serves as an icon or splash screen of a platform.
-/

namespace GameBundle

/-- Kinds that are not known are kept by name. -/
inductive ResourceKind where
  | image
  | audio
  | font
  | json
  | video
  | other (name : String)
deriving DecidableEq, Repr

namespace ResourceKind

def name : ResourceKind → String
  | .image => "image"
  | .audio => "audio"
  | .font => "font"
  | .json => "json"
  | .video => "video"
  | .other name => name

def ofName (name : String) : ResourceKind :=
  if name = "image" then .image
  else if name = "audio" then .audio
  else if name = "font" then .font
  else if name = "json" then .json
  else if name = "video" then .video
  else .other name

def isKnown : ResourceKind → Bool
  | .other _ => false
  | _ => true

theorem name_ofName (text : String) : (ofName text).name = text := by
  unfold ofName
  repeat' split
  all_goals simp_all [name]

end ResourceKind

structure Resource where
  name : String
  kind : ResourceKind
  /-- Relative to the project directory, or absolute. -/
  file : String
deriving DecidableEq, Repr

namespace Resource

def toJson (resource : Resource) : Json :=
  .object [("file", .string resource.file), ("kind", .string resource.kind.name),
    ("name", .string resource.name)]

def recordType : Json.RecordType Resource where
  name := "Resource"
  blank := ⟨"", .other "", ""⟩
  fields := [
    .required "name" .text fun name r => { r with name },
    .required "kind" (.map ResourceKind.ofName .text) fun kind r => { r with kind },
    .required "file" .text fun file r => { r with file }]

end Resource

structure ResourceTable where
  resources : List Resource
deriving DecidableEq, Repr

namespace ResourceTable

def empty : ResourceTable := ⟨[]⟩

def find? (table : ResourceTable) (name : String) : Option Resource :=
  table.resources.find? fun resource => resource.name == name

def has (table : ResourceTable) (name : String) : Bool := (table.find? name).isSome

/-- Appends a resource unless one of its name is there. -/
def add (table : ResourceTable) (resource : Resource) : ResourceTable :=
  if table.has resource.name then table else ⟨table.resources ++ [resource]⟩

def fileOf (table : ResourceTable) (name : String) : String :=
  match table.find? name with
  | some resource => resource.file
  | none => ""

def size (table : ResourceTable) : Nat := table.resources.length

def toJson (table : ResourceTable) : Json :=
  .object [("resources", .list Resource.toJson table.resources)]

def recordType : Json.RecordType ResourceTable where
  name := "ResourcesManager"
  blank := empty
  fields := [
    .optional "resources" (.list Resource.recordType.decode) fun resources _ => ⟨resources⟩]

end ResourceTable

structure PlatformAssets where
  platforms : Dictionary (Dictionary String)
deriving DecidableEq, Repr

namespace PlatformAssets

def empty : PlatformAssets := ⟨[]⟩

def find? (assets : PlatformAssets) (platform name : String) : Option String :=
  match Dictionary.find? platform assets.platforms with
  | some names => Dictionary.find? name names
  | none => none

def resourceName (assets : PlatformAssets) (platform name : String) : String :=
  (assets.find? platform name).getD ""

def set (assets : PlatformAssets) (platform name resource : String) : PlatformAssets :=
  let names := (Dictionary.find? platform assets.platforms).getD []
  ⟨Dictionary.insert platform (Dictionary.insert name resource names) assets.platforms⟩

def toJson (assets : PlatformAssets) : Json :=
  .object (assets.platforms.map fun platform =>
    (platform.1, .object (platform.2.map fun asset => (asset.1, .string asset.2))))

def decode : Json.Decoder PlatformAssets :=
  .map PlatformAssets.mk (.dictionary (.dictionary .text))

end PlatformAssets

end GameBundle
