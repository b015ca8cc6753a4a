/-!
# Levels of messages

A level says how much is shown. It is given by its name or by its place in the order of
levels.
-/

namespace GameBundle

/-- How much is shown. -/
inductive LogLevel where
  | off
  | error
  | warning
  | information
  | debug
  | trace
deriving DecidableEq, Repr

namespace LogLevel

/-- Place in the order of levels, from nothing to everything. -/
def rank : LogLevel → Nat
  | off => 0
  | error => 1
  | warning => 2
  | information => 3
  | debug => 4
  | trace => 5

def ofRank? : Nat → Option LogLevel
  | 0 => some off
  | 1 => some error
  | 2 => some warning
  | 3 => some information
  | 4 => some debug
  | 5 => some trace
  | _ => none

def ofName? (name : List Char) : Option LogLevel :=
  match String.ofList (name.map Char.toLower) with
  | "off" => some off
  | "error" => some error
  | "warn" => some warning
  | "info" => some information
  | "debug" => some debug
  | "trace" => some trace
  | _ => none

/-- A level by its place in the order, which may have a plus sign and zeros before it. -/
def ofDigits? (text : List Char) : Option LogLevel :=
  let digits := if text.head? = some '+' then text.drop 1 else text
  if !digits.isEmpty && digits.all Char.isDigit then
    ofRank? (digits.foldl (fun sum digit => 10 * sum + (digit.toNat - 48)) 0)
  else none

def ofText? (text : List Char) : Option LogLevel := (ofDigits? text).or (ofName? text)

end LogLevel

end GameBundle
