import GameBundle.Resource
import GameBundle.Storage.Basic
import GameBundle.Text.LowerCase

/-!
# Fonts without a resource

Old projects name fonts by their files. Every font file in a directory becomes a
resource of its own name, unless a resource has that name already.
-/

namespace GameBundle

namespace ResourceTable

def isFontName (name : String) : Bool :=
  (Path.extension? name).any fun extension => Text.lowerAscii extension == "ttf"

def fontResource (url name : String) : Resource := ⟨name, .font, url ++ name⟩

def addFonts (table : ResourceTable) (url : String) (fileNames : List String) : ResourceTable :=
  (fileNames.filter isFontName).foldl (fun table name => table.add (fontResource url name)) table

/-- Adds the fonts of a directory; one that cannot be listed has none. -/
def addFontsIn {σ : Type} [Storage σ] (table : ResourceTable) (directory : Path) (url : String)
    (disk : σ) : ResourceTable :=
  match Storage.fileNames directory disk with
  | .ok fileNames => table.addFonts url fileNames
  | .error _ => table

def declareFont (url : String) (declared : Nat × ResourceTable) (name : String) :
    Nat × ResourceTable :=
  if declared.2.has name then declared
  else (declared.1 + 1, declared.2.add (fontResource url name))

def declareFonts (table : ResourceTable) (url : String) (fileNames : List String) :
    Nat × ResourceTable :=
  (fileNames.filter isFontName).foldl (declareFont url) (0, table)

def declareFontsIn {σ : Type} [Storage σ] (table : ResourceTable) (directory : Path) (url : String)
    (disk : σ) : Nat × ResourceTable :=
  match Storage.fileNames directory disk with
  | .ok fileNames => table.declareFonts url fileNames
  | .error _ => (0, table)

end ResourceTable

end GameBundle
