import GameBundle.Log.Level
import GameBundle.Text.Alphanumeric
import GameBundle.Text.Blank
import GameBundle.Text.Piece

/-!
# Directives on messages

A directive is a level, which holds for all messages, or a source with or without a level,
which holds for the messages of the sources that start so. Brackets behind the source name
a scope, and braces in them ask for a field, perhaps with a value; either may be left out.

A directive is read from its first character that is no blank to its last, but its parts
are cut out of the whole text by the same counts of bytes. So blanks before it shift the
parts, and a part may come to begin or end inside a character.
-/

namespace GameBundle

/-- Why directives cannot be used. -/
inductive LogFault where
  | malformed
  /-- A part begins or ends inside a character. -/
  | torn
deriving DecidableEq, Repr

structure LogDirective where
  /-- What the sources of its messages start with. -/
  source : Option (List Char)
  /-- Whether it holds only inside of a scope. -/
  isScoped : Bool
  /-- The field that its messages must have. -/
  field : Option (List Char)
  level : LogLevel
deriving DecidableEq, Repr

namespace LogDirective

def general (level : LogLevel) : LogDirective := ⟨none, false, none, level⟩

/-- Where in a directive a character stands, and where the part that it belongs to begins. -/
inductive Place where
  | start
  | source
  | scope (start : Nat)
  | field (start : Nat)
  | behindField
  | behindScope
  | level (start : Nat)
deriving DecidableEq, Repr

structure Reading where
  place : Place
  directive : LogDirective
deriving DecidableEq, Repr

def isSourceStart (c : Char) : Bool :=
  c = '-' || c = ':' || c = '_' || Text.isAlphanumeric c

def part (text : List Char) (start stop : Nat) : Except LogFault (List Char) :=
  match Text.piece? text start stop with
  | some part => .ok part
  | none => .error .torn

def lastPart (text : List Char) (start : Nat) : Except LogFault (List Char) :=
  match Text.dropBytes? start text with
  | some part => .ok part
  | none => .error .torn

namespace Reading

def start : Reading := ⟨.start, general .trace⟩

def withSource (reading : Reading) (source : List Char) (place : Place) : Reading :=
  ⟨place, { reading.directive with source := some source }⟩

/-- Enters a scope. A name may be empty, but not where braces follow it. -/
def withScope (reading : Reading) (isNamed : Bool) (place : Place) : Reading :=
  ⟨place, { reading.directive with isScoped := reading.directive.isScoped || isNamed }⟩

/-- Enters a field. Values belong to fields of scopes. -/
def withField (reading : Reading) (field : List Char) : Except LogFault Reading :=
  if field.isEmpty then .error .malformed
  else .ok ⟨.behindField, { reading.directive with
    isScoped := reading.directive.isScoped || field.contains '='
    field := some (field.takeWhile (· ≠ '=')) }⟩

def step (text : List Char) (reading : Reading) (count : Nat) (c : Char) :
    Except LogFault Reading :=
  match reading.place with
  | .start =>
    if c = '[' then .ok { reading with place := .scope (count + 1) }
    else if isSourceStart c then .ok { reading with place := .source }
    else .error .malformed
  | .source =>
    if c = '=' then do return reading.withSource (← part text 0 count) (.level (count + 1))
    else if c = '[' then do return reading.withSource (← part text 0 count) (.scope (count + 1))
    else .ok reading
  | .scope start =>
    if c = ']' then do
      let _ ← part text start count
      return reading.withScope true .behindScope
    else if c = '\x7b' then do
      return reading.withScope (!(← part text start count).isEmpty) (.field (count + 1))
    else .ok reading
  | .field start =>
    if c = '\x7d' then do reading.withField (← part text start count) else .ok reading
  | .behindField =>
    if c = ']' then .ok { reading with place := .behindScope } else .error .malformed
  | .behindScope =>
    if c = '=' then .ok { reading with place := .level (count + 1) } else .error .malformed
  | .level _ => .ok reading

def finish (text : List Char) (reading : Reading) : Except LogFault LogDirective :=
  match reading.place with
  | .source => .ok (match LogLevel.ofText? text with
    | some level => general level
    | none => { reading.directive with source := some text })
  | .level start => do
    let given ← lastPart text start
    if given.isEmpty then return reading.directive
    match LogLevel.ofText? given with
    | some level => return { reading.directive with level }
    | none => throw .malformed
  | .behindScope => .ok reading.directive
  | _ => .error .malformed

def run (text : List Char) (reading : Reading) (count : Nat) :
    List Char → Except LogFault LogDirective
  | [] => reading.finish text
  | c :: rest => do run text (← reading.step text count c) (count + c.utf8Size) rest

end Reading

def ofText (text : List Char) : Except LogFault LogDirective :=
  Reading.start.run text 0 (Text.trimEnd (text.dropWhile Text.isBlank))

def messageField : List Char := "message".toList

def holdsFor (source : String) (directive : LogDirective) : Bool :=
  !directive.isScoped && (directive.source.getD []).isPrefixOf source.toList &&
    (directive.field.getD messageField) == messageField

/-- What makes a directive more special: the length of its source, then a field. -/
def weight (directive : LogDirective) : Nat :=
  2 * (directive.source.map List.length).getD 0 + if directive.field.isSome then 1 else 0

end LogDirective

end GameBundle
