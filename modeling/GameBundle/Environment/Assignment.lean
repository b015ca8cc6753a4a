import GameBundle.Environment.Basic
import GameBundle.Text.Alphanumeric
import GameBundle.Text.Blank

/-!
# Assignments of variables

A line of an environment file assigns a value to a variable. In a value, single
quotes keep everything, double quotes keep blanks, a backslash escapes, and a dollar
sign begins the name of a variable whose value is put in its place. A comment may
follow behind a blank.
-/

namespace GameBundle

namespace Assignment

/-- Value of a variable, empty when it has none. -/
def lookup (environment : Environment) (name : List Char) : List Char :=
  ((environment.value? (String.ofList name)).getD "").toList

/-- What the characters of a value are read as. -/
inductive Mode where
  | plain
  /-- Inside single quotes. -/
  | quoted
  /-- Behind a backslash. -/
  | escaped
  /-- Behind a blank, where only a comment may follow. -/
  | ended
  /-- In a name behind a dollar sign. -/
  | name (sofar : List Char)
  /-- In a name behind a dollar sign and a brace. -/
  | braced (sofar : List Char)
deriving DecidableEq, Repr

/-- A value being read, and whether a double quote is open. -/
structure Reading where
  mode : Mode
  isOpen : Bool
  value : List Char
deriving DecidableEq, Repr

namespace Reading

def start : Reading := ⟨.plain, false, []⟩

def push (reading : Reading) (text : List Char) : Reading :=
  { reading with mode := .plain, value := reading.value ++ text }

/-- What an escaped character stands for. -/
def unescape? (c : Char) : Option Char :=
  if c = '\\' ∨ c = '\'' ∨ c = '"' ∨ c = '$' ∨ c = ' ' then some c
  else if c = 'n' then some '\n'
  else none

/-- Reads a character outside of single quotes and names. -/
def plain (reading : Reading) (c : Char) : Reading :=
  if c = '$' then { reading with mode := .name [] }
  else if c = '\\' then { reading with mode := .escaped }
  else if c = '"' then { reading with isOpen := !reading.isOpen }
  else if reading.isOpen then reading.push [c]
  else if c = '\'' then { reading with mode := .quoted }
  else if c = ' ' ∨ c = '\t' then { reading with mode := .ended }
  else reading.push [c]

/-- Reads one character of a value; nothing when the character cannot stand there. -/
def step? (environment : Environment) (reading : Reading) (c : Char) : Option Reading :=
  match reading.mode with
  | .ended => if c = ' ' ∨ c = '\t' then some reading else none
  | .escaped => (unescape? c).map fun c => reading.push [c]
  | .quoted =>
    some (if c = '\'' then { reading with mode := .plain }
      else { reading with value := reading.value ++ [c] })
  | .name sofar =>
    some (if Text.isAlphanumeric c then { reading with mode := .name (sofar ++ [c]) }
      else if c = '{' ∧ sofar = [] then { reading with mode := .braced [] }
      else
        let replaced := reading.push (lookup environment sofar)
        if c = '$' then { replaced with mode := .name [] } else replaced.push [c])
  | .braced sofar =>
    some (if c = '}' then reading.push (lookup environment sofar)
      else { reading with mode := .braced (sofar ++ [c]) })
  | .plain => some (reading.plain c)

/-- The value when the line ends; nothing when quotes or braces are open. -/
def finish? (environment : Environment) (reading : Reading) : Option String :=
  if reading.isOpen then none
  else
    match reading.mode with
    | .quoted => none
    | .braced _ => none
    | .name sofar => some (String.ofList (reading.value ++ lookup environment sofar))
    | _ => some (String.ofList reading.value)

/-- Reads the characters of a value up to a comment. -/
def run? (environment : Environment) (reading : Reading) : List Char → Option String
  | [] => reading.finish? environment
  | c :: rest =>
    if reading.mode = .ended ∧ c = '#' then reading.finish? environment
    else
      match reading.step? environment c with
      | some next => next.run? environment rest
      | none => none

end Reading

def skipBlanks (text : List Char) : List Char := text.dropWhile Text.isBlank

def isNameStart (c : Char) : Bool := c.isAlpha || c = '_'

def isNameChar (c : Char) : Bool := c.isAlphanum || c = '_' || c = '.'

def name? (text : List Char) : Option (String × List Char) :=
  if text.head?.any isNameStart then
    some (String.ofList (text.takeWhile isNameChar), skipBlanks (text.dropWhile isNameChar))
  else none

def afterEquals? : List Char → Option (List Char)
  | '=' :: rest => some (skipBlanks rest)
  | _ => none

/-- The variable assigned to, and the text of its value. The word `export` may stand
before the variable. -/
def target? (text : List Char) : Option (String × List Char) := do
  let (name, rest) ← name? text
  match afterEquals? rest with
  | some value => return (name, value)
  | none =>
    if name = "export" then
      let (name, rest) ← name? rest
      return (name, ← afterEquals? rest)
    else none

/-- Whether nothing but a comment is left. -/
def isVoid (text : List Char) : Bool := text.isEmpty || text.head? = some '#'

def ofLine? (environment : Environment) (line : List Char) : Option (Option (String × String)) :=
  let text := skipBlanks (Text.trimEnd line)
  if isVoid text then some none
  else do
    let (name, value) ← target? text
    if isVoid value then return some (name, "")
    return some (name, ← Reading.start.run? environment value)

end Assignment

end GameBundle
