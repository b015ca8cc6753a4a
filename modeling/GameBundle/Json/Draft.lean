import GameBundle.Json.Basic
import GameBundle.Json.Fault

/-!
# Drafts of documents

A draft is what can be made out of a text that may not be a document: values in
their order, with duplicate keys kept, down to the spot where reading stops. The
fault at such a spot depends on whether the value there is wanted or passed over,
so both are recorded. Passing over is more lenient: a number out of range or an
unpaired half of a character is no fault there.
-/

namespace GameBundle.Json

/-- A spot that cannot be read: the fault met by one who wants the value, and the
fault, if any, met by one who passes over it. -/
structure Flaw where
  wanted : Fault
  passed : Option Fault
deriving DecidableEq, Repr

namespace Flaw

def of (fault : Fault) : Flaw := ⟨fault, some fault⟩

/-- A flaw that only matters to one who wants the value. -/
def lenient (fault : Fault) : Flaw := ⟨fault, none⟩

end Flaw

inductive ItemsBreak where
  | endOfText
  | noComma
  | commaThenBracket
  | commaThenEnd
deriving DecidableEq, Repr

inductive MembersBreak where
  | endOfText
  | noComma
  | noKey
  | commaThenBrace
  | commaThenEnd
  | badKey (flaw : Flaw)
deriving DecidableEq, Repr

mutual

inductive Draft where
  | null
  | bool (value : Bool)
  | number (value : Number)
  | string (value : String)
  | flawed (flaw : Flaw)
  | array (items : Items)
  | object (members : Members)

inductive Items where
  | close
  | broken (cause : ItemsBreak)
  | item (value : Draft) (rest : Items)

/-- A key may be unreadable to one who wants it and yet be passed over. -/
inductive Members where
  | close
  | broken (cause : MembersBreak)
  | member (key : Except Fault String) (value : Draft) (rest : Members)

end

namespace ItemsBreak

def wanted : ItemsBreak → Fault
  | .endOfText => .endInList
  | .noComma => .expectedCommaOrBracket
  | .commaThenBracket => .trailingComma
  | .commaThenEnd => .endInValue

def passed : ItemsBreak → Fault
  | .endOfText => .endInList
  | .noComma => .expectedCommaOrBracket
  | .commaThenBracket => .expectedValue
  | .commaThenEnd => .endInValue

def afterLast : ItemsBreak → Fault
  | .endOfText => .endInList
  | .noComma => .trailingCharacters
  | .commaThenBracket => .trailingComma
  | .commaThenEnd => .trailingCharacters

end ItemsBreak

namespace MembersBreak

def wanted : MembersBreak → Fault
  | .endOfText => .endInObject
  | .noComma => .expectedCommaOrBrace
  | .noKey => .keyNotString
  | .commaThenBrace => .trailingComma
  | .commaThenEnd => .endInValue
  | .badKey flaw => flaw.wanted

def passed : MembersBreak → Fault
  | .endOfText => .endInObject
  | .noComma => .expectedCommaOrBrace
  | .noKey => .keyNotString
  | .commaThenBrace => .keyNotString
  | .commaThenEnd => .endInObject
  | .badKey flaw => flaw.passed.getD flaw.wanted

end MembersBreak

mutual

def Draft.passOver : Draft → Except Fault Unit
  | .null | .bool _ | .number _ | .string _ => .ok ()
  | .flawed flaw => match flaw.passed with
    | some fault => .error fault
    | none => .ok ()
  | .array items => items.passOver
  | .object members => members.passOver

def Items.passOver : Items → Except Fault Unit
  | .close => .ok ()
  | .broken cause => .error cause.passed
  | .item value rest => do value.passOver; rest.passOver

def Members.passOver : Members → Except Fault Unit
  | .close => .ok ()
  | .broken cause => .error cause.passed
  | .member _ value rest => do value.passOver; rest.passOver

end

mutual

/-- The draft of a value; it has no flaws. -/
def Draft.ofJson : Json → Draft
  | .null => .null
  | .bool value => .bool value
  | .number value => .number value
  | .string value => .string value
  | .array items => .array (Items.ofList items)
  | .object members => .object (Members.ofList members)

def Items.ofList : List Json → Items
  | [] => .close
  | value :: rest => .item (Draft.ofJson value) (Items.ofList rest)

def Members.ofList : List (String × Json) → Members
  | [] => .close
  | (key, value) :: rest => .member (.ok key) (Draft.ofJson value) (Members.ofList rest)

end

def Items.count : Items → Nat
  | .close => 0
  | .broken _ => 0
  | .item _ rest => rest.count + 1

end GameBundle.Json
