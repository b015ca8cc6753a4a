/-!
# Paths

A path is a text whose parts are separated by slashes. Two paths denote the same
place when their components agree: repeated slashes, a slash at the end, and single
dots other than a leading one carry no meaning. Double dots are components, and
nothing resolves them here.
-/

namespace GameBundle

structure Path where
  text : String
deriving DecidableEq, Repr

namespace Path

inductive Component where
  | root
  | here
  | up
  | name (text : String)
deriving DecidableEq, Repr

/-- How a path begins: at the root, with a single dot, or with neither. -/
inductive Lead where
  | root
  | here
  | bare
deriving DecidableEq, Repr

/-- The parts between slashes; there is always one more part than slashes. -/
def splitParts : List Char → List (List Char)
  | [] => [[]]
  | '/' :: rest => [] :: splitParts rest
  | c :: rest =>
    match splitParts rest with
    | [] => [[c]]
    | part :: parts => (c :: part) :: parts

def joinParts : List (List Char) → List Char
  | [] => []
  | [part] => part
  | part :: parts => part ++ '/' :: joinParts parts

def split (text : List Char) : Lead × List Char :=
  match text with
  | '/' :: rest => (.root, rest)
  | ['.'] => (.here, [])
  | '.' :: '/' :: rest => (.here, '/' :: rest)
  | text => (.bare, text)

/-- Parts that carry no meaning between slashes. -/
def isVoid (part : List Char) : Bool := part == [] || part == ['.']

def Component.ofPart (part : List Char) : Component :=
  if part = ['.', '.'] then .up else .name (String.ofList part)

def Lead.components : Lead → List Component
  | .root => [.root]
  | .here => [.here]
  | .bare => []

def Lead.text : Lead → List Char
  | .root => ['/']
  | .here => ['.']
  | .bare => []

def components (path : Path) : List Component :=
  let (lead, body) := split path.text.toList
  lead.components ++ ((splitParts body).filter fun part => !isVoid part).map Component.ofPart

/-- Whether two paths agree component by component. -/
def same (path other : Path) : Bool := path.components == other.components

def startsWith (path start : Path) : Bool := start.components.isPrefixOf path.components

def isAbsolute (path : Path) : Bool := path.text.toList.head? == some '/'

/-- The text of a path followed by another; an absolute path replaces what came before. -/
def joinText (base more : List Char) : List Char :=
  if more.head? = some '/' then more
  else if base = [] ∨ base.getLast? = some '/' then base ++ more
  else base ++ '/' :: more

def join (path : Path) (more : String) : Path :=
  ⟨String.ofList (joinText path.text.toList more.toList)⟩

instance : HDiv Path String Path := ⟨join⟩

def dropVoidEnd (parts : List (List Char)) : List (List Char) :=
  (parts.reverse.dropWhile isVoid).reverse

/-- The path without its last component; the root and the empty path have none. -/
def parent? (path : Path) : Option Path :=
  let (lead, body) := split path.text.toList
  match (dropVoidEnd (splitParts body)).reverse with
  | [] => if lead = .here then some ⟨""⟩ else none
  | _ :: parts =>
    some ⟨String.ofList (lead.text ++ joinParts (dropVoidEnd parts.reverse))⟩

def fileName? (path : Path) : Option String :=
  match path.components.getLast? with
  | some (.name text) => some text
  | _ => none

/-- The parts of a name before and after its last dot; a dot at the very start counts
as part of the name. -/
def splitName (name : List Char) : List Char × Option (List Char) :=
  let behind := (name.reverse.takeWhile (· != '.')).reverse
  let front := name.take (name.length - behind.length - 1)
  if behind.length = name.length ∨ front = [] then (name, none) else (front, some behind)

def stem (name : String) : String := String.ofList (splitName name.toList).1

def extension? (name : String) : Option String := (splitName name.toList).2.map String.ofList

/-- The path made absolute against `home`. Void parts are dropped and double dots kept;
exactly two slashes at the start and a slash at the end keep their meaning. -/
def absolute (home path : Path) : Path :=
  if path.text.isEmpty then path
  else
    let (lead, body) := split path.text.toList
    let parts := (splitParts body).filter fun part => !isVoid part
    let start : List Char :=
      if lead ≠ .root then home.text.toList
      else if body.head? = some '/' ∧ body.tail.head? ≠ some '/' then ['/', '/']
      else ['/']
    let whole := parts.foldl joinText start
    ⟨String.ofList (if path.text.toList.getLast? = some '/' then joinText whole [] else whole)⟩

end Path

end GameBundle
