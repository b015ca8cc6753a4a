import GameBundle.Json.Basic
import GameBundle.Decimal.Shortest
import GameBundle.Text.UnitEscape

/-!
# Printing JSON

The compact form has no blanks; the indented form puts each item on a line of
its own, two blanks deeper than its container. Strings keep every character
except the quote, the backslash and the control characters below the blank.
-/

namespace GameBundle.Json.Printer

/-- The written form of one character inside a string. -/
def character (c : Char) : List Char :=
  if c = '"' then ['\\', '"']
  else if c = '\\' then ['\\', '\\']
  else if c = '\n' then ['\\', 'n']
  else if c = '\r' then ['\\', 'r']
  else if c = '\t' then ['\\', 't']
  else if c = '\x08' then ['\\', 'b']
  else if c = '\x0c' then ['\\', 'f']
  else if c.toNat < 32 then Text.unitEscape c.toNat
  else [c]

def string (value : String) : List Char :=
  '"' :: (value.toList.flatMap character ++ ['"'])

def number : Number → List Char
  | .integer value => (Decimal.signedText value).toList
  | .real value => Decimal.compact value

mutual

/-- Compact form. -/
def value : Json → List Char
  | .null => ['n', 'u', 'l', 'l']
  | .bool true => ['t', 'r', 'u', 'e']
  | .bool false => ['f', 'a', 'l', 's', 'e']
  | .number n => number n
  | .string s => string s
  | .array [] => ['[', ']']
  | .array (item :: rest) => '[' :: (value item ++ items rest)
  | .object [] => ['{', '}']
  | .object ((key, item) :: rest) => '{' :: (string key ++ ':' :: (value item ++ members rest))

/-- Items after the first, with the closing bracket. -/
def items : List Json → List Char
  | [] => [']']
  | item :: rest => ',' :: (value item ++ items rest)

/-- Members after the first, with the closing brace. -/
def members : List (String × Json) → List Char
  | [] => ['}']
  | (key, item) :: rest => ',' :: (string key ++ ':' :: (value item ++ members rest))

end

def newLine (depth : Nat) : List Char := '\n' :: List.replicate (2 * depth) ' '

mutual

/-- Indented form of a value whose container is `depth` levels deep. -/
def indented (depth : Nat) : Json → List Char
  | .null => ['n', 'u', 'l', 'l']
  | .bool true => ['t', 'r', 'u', 'e']
  | .bool false => ['f', 'a', 'l', 's', 'e']
  | .number n => number n
  | .string s => string s
  | .array [] => ['[', ']']
  | .array (item :: rest) =>
    '[' :: (newLine (depth + 1) ++ indented (depth + 1) item ++ indentedItems depth rest)
  | .object [] => ['{', '}']
  | .object ((key, item) :: rest) =>
    '{' :: (newLine (depth + 1) ++ string key ++ ':' :: ' ' ::
      (indented (depth + 1) item ++ indentedMembers depth rest))

def indentedItems (depth : Nat) : List Json → List Char
  | [] => newLine depth ++ [']']
  | item :: rest =>
    ',' :: (newLine (depth + 1) ++ indented (depth + 1) item ++ indentedItems depth rest)

def indentedMembers (depth : Nat) : List (String × Json) → List Char
  | [] => newLine depth ++ ['}']
  | (key, item) :: rest =>
    ',' :: (newLine (depth + 1) ++ string key ++ ':' :: ' ' ::
      (indented (depth + 1) item ++ indentedMembers depth rest))

end

end GameBundle.Json.Printer

namespace GameBundle.Json

/-- The document text of a value, without blanks. -/
def text (json : Json) : String := String.ofList (Printer.value json)

/-- The document text of a value, one item to a line. -/
def indentedText (json : Json) : String := String.ofList (Printer.indented 0 json)

end GameBundle.Json
