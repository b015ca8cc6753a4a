import GameBundle.Environment.Assignment

/-!
# Environment files

A file of assignments, one to a line. A quoted value may go on over several lines.
Reading stops at the first line that is no assignment, and variables that have a
value keep it. No variable can be given a value with the character zero.
-/

namespace GameBundle.EnvironmentFile

/-- Where a line stands with respect to quotes, escapes and comments. -/
inductive Place where
  | complete
  | escaped
  | quoted
  | quotedEscape
  | doubleQuoted
  | doubleQuotedEscape
  | blank
  | comment
deriving DecidableEq, Repr

/-- What a character outside of quotes leads to. -/
def Place.outside (c : Char) : Place :=
  if c = '\\' then .escaped
  else if c = '"' then .doubleQuoted
  else if c = '\'' then .quoted
  else .complete

def Place.next (place : Place) (c : Char) : Place :=
  match place with
  | .blank => if c = '#' then .comment else .outside c
  | .escaped => .complete
  | .complete => if Text.isBlank c ∧ c ≠ '\n' ∧ c ≠ '\r' then .blank else .outside c
  | .doubleQuoted =>
    if c = '\\' then .doubleQuotedEscape else if c = '"' then .complete else .doubleQuoted
  | .doubleQuotedEscape => .doubleQuoted
  | .quoted => if c = '\\' then .quotedEscape else if c = '\'' then .complete else .quoted
  | .quotedEscape => .quoted
  | .comment => .comment

/-- The part of a line before its comment, and where the line ends. -/
def scan (place : Place) : List Char → List Char × Place
  | [] => ([], place)
  | c :: rest =>
    let next := place.next c
    if next = .comment then ([], .comment)
    else
      let (kept, final) := scan next rest
      (c :: kept, final)

/-- A line without the break at its end. -/
def chomp (line : List Char) : List Char :=
  match line.reverse with
  | '\n' :: '\r' :: rest => rest.reverse
  | '\n' :: rest => rest.reverse
  | _ => line

/-- Lines with their breaks, joined where a quote, an escape or a blank leaves one
unfinished. A line that stays unfinished ends the list with nothing. -/
def joined (pending : List Char) (place : Place) : List (List Char) → List (Option (List Char))
  | [] => if place = .complete then [] else [none]
  | line :: rest =>
    if (Assignment.skipBlanks (pending ++ line)).head? = some '#' then
      some [] :: joined [] .complete rest
    else
      let (kept, final) := scan place line
      if final = .comment then some (pending ++ kept) :: joined [] .complete rest
      else if final = .complete then some (chomp (pending ++ line)) :: joined [] .complete rest
      else joined (pending ++ line) final rest

/-- A variable that cannot be given its value. -/
structure Unfit where
  variableName : String
deriving DecidableEq, Repr

/-- Gives a variable its value, unless it has one. -/
def assign (environment : Environment) (name value : String) : Except Unfit Environment :=
  if (environment.value? name).isSome then .ok environment
  else if value.contains '\x00' then .error ⟨name⟩
  else .ok (environment.insert name value)

def load (environment : Environment) : List (Option (List Char)) → Except Unfit Environment
  | some line :: rest =>
    match Assignment.ofLine? environment line with
    | some (some (name, value)) => do load (← assign environment name value) rest
    | some none => load environment rest
    | none => .ok environment
  | _ => .ok environment

def byteLines : List UInt8 → List (List UInt8)
  | [] => []
  | 10 :: rest => [10] :: byteLines rest
  | byte :: rest =>
    match byteLines rest with
    | [] => [[byte]]
    | line :: lines => (byte :: line) :: lines

def lineText? (bytes : List UInt8) : Option (List Char) :=
  (String.fromUTF8? ⟨bytes.toArray⟩).map String.toList

def textLines (contents : ByteArray) : List (List Char) :=
  let lines := (byteLines contents.toList).map lineText?
  match (lines.takeWhile Option.isSome).filterMap id with
  | ('\uFEFF' :: first) :: rest => first :: rest
  | lines => lines

/-- Adds the assignments of a file to variables that have values already. -/
def extend (environment : Environment) (contents : ByteArray) : Except Unfit Environment :=
  load environment (joined [] .complete (textLines contents))

end GameBundle.EnvironmentFile
