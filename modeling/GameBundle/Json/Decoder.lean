import GameBundle.Json.Reader

/-!
# Decoding drafts

A decoder turns a draft into a value of a domain type or reports the first fault
in the order of the document. A record is decoded from an object, whose members
may come in any order and may hold more than is asked for, or from an array that
lists its fields. Opening a container beyond the depth limit is a fault.
-/

namespace GameBundle.Json

/-- Where a draft comes from and how many containers may still be opened in it. -/
structure Setting where
  room : Nat
  fromText : Bool
deriving DecidableEq, Repr

namespace Setting

/-- A text may nest containers 127 levels deep. -/
def ofText : Setting := ⟨127, true⟩

def ofValue : Setting := ⟨127, false⟩

/-- Opens one container. -/
def enter (setting : Setting) : Except Fault Setting :=
  match setting.room with
  | 0 => .error .tooDeep
  | room + 1 => .ok { setting with room }

end Setting

abbrev Decoder (α : Type) := Setting → Draft → Except Fault α

def Draft.mismatch (expected : String) : Draft → Fault
  | .null => .wrongType .null expected
  | .bool value => .wrongType (.boolean value) expected
  | .number (.integer value) => .wrongType (.integer value) expected
  | .number (.real value) => .wrongType (.real value) expected
  | .string value => .wrongType (.text value) expected
  | .flawed flaw => flaw.wanted
  | .array _ => .wrongType .sequence expected
  | .object _ => .wrongType .map expected

def Items.decode {α : Type} (decode : Draft → Except Fault α) : Items → Except Fault (List α)
  | .close => .ok []
  | .broken cause => .error cause.wanted
  | .item value rest => do
    let first ← decode value
    return first :: (← rest.decode decode)

def Members.decode {α : Type} (decode : Draft → Except Fault α) (entries : Dictionary α) :
    Members → Except Fault (Dictionary α)
  | .close => .ok entries
  | .broken cause => .error cause.wanted
  | .member key value rest => do
    let key ← key
    let held ← decode value
    rest.decode decode (entries.insert key held)

mutual

def Draft.decodeValue (setting : Setting) : Draft → Except Fault Json
  | .null => .ok .null
  | .bool value => .ok (.bool value)
  | .number value => .ok (.number value)
  | .string value => .ok (.string value)
  | .flawed flaw => .error flaw.wanted
  | .array items => do
    let inner ← setting.enter
    return .array (← items.decodeValues inner)
  | .object members => do
    let inner ← setting.enter
    return .object (← members.decodeValues inner [])

def Items.decodeValues (setting : Setting) : Items → Except Fault (List Json)
  | .close => .ok []
  | .broken cause => .error cause.wanted
  | .item value rest => do
    let first ← value.decodeValue setting
    return first :: (← rest.decodeValues setting)

def Members.decodeValues (setting : Setting) (entries : Dictionary Json) :
    Members → Except Fault (Dictionary Json)
  | .close => .ok entries
  | .broken cause => .error cause.wanted
  | .member key value rest => do
    let key ← key
    let held ← value.decodeValue setting
    rest.decodeValues setting (entries.insert key held)

end

namespace Decoder

def value : Decoder Json := Draft.decodeValue

def textAs (expected : String) : Decoder String := fun _ draft =>
  match draft with
  | .string value => .ok value
  | _ => .error (draft.mismatch expected)

def text : Decoder String := textAs "a string"

def bool : Decoder Bool := fun _ draft =>
  match draft with
  | .bool value => .ok value
  | _ => .error (draft.mismatch "a boolean")

/-- A natural number below `2 ^ bits`. -/
def unsigned (bits : Nat) : Decoder Nat := fun _ draft =>
  let expected := "u" ++ Decimal.text bits
  match draft with
  | .number (.integer value) =>
    if 0 ≤ value ∧ value < Nat.pow 2 bits then .ok value.toNat
    else .error (.wrongValue (.integer value) expected)
  | _ => .error (draft.mismatch expected)

/-- Null stands for a missing value. -/
def nullable {α : Type} (decode : Decoder α) : Decoder (Option α) := fun setting draft =>
  match draft with
  | .null => .ok none
  | _ => do return some (← decode setting draft)

def list {α : Type} (decode : Decoder α) : Decoder (List α) := fun setting draft =>
  match draft with
  | .array items => do items.decode (decode (← setting.enter))
  | _ => .error (draft.mismatch "a sequence")

def dictionary {α : Type} (decode : Decoder α) : Decoder (Dictionary α) := fun setting draft =>
  match draft with
  | .object members => do members.decode (decode (← setting.enter)) []
  | _ => .error (draft.mismatch "a map")

def map {α β : Type} (f : α → β) (decode : Decoder α) : Decoder β := fun setting draft => do
  return f (← decode setting draft)

def named {α : Type} (table : List (String × α)) (name : String) : Except Fault α :=
  match table.lookup name with
  | some value => .ok value
  | none => .error (.unknownVariant name (table.map Prod.fst))

/-- One of a table of names, given as a string or as the only key of an object
that holds null. -/
def variant {α : Type} (table : List (String × α)) : Decoder α := fun _ draft =>
  match draft with
  | .string name => named table name
  | .object (.member key held .close) => do
    let value ← named table (← key)
    match held with
    | .null => return value
    | _ => .error (held.mismatch "unit")
  | .object _ => .error (.wrongValue .map "map with a single key")
  | _ => .error (draft.mismatch "string or map")

end Decoder

inductive Absence where
  /-- The field must be given. -/
  | fault
  /-- The field may be left out of an object, but not of an array. -/
  | faultInArray
  /-- The field keeps the value of the blank record. -/
  | blank
deriving DecidableEq, Repr

/-- A field of a record: its name and how to store what is decoded. -/
structure Field (ρ : Type) where
  name : String
  absence : Absence
  store : Setting → Draft → ρ → Except Fault ρ

namespace Field

variable {ρ α : Type}

def make (absence : Absence) (name : String) (decode : Decoder α) (set : α → ρ → ρ) : Field ρ where
  name
  absence
  store setting draft record := do return set (← decode setting draft) record

def required (name : String) (decode : Decoder α) (set : α → ρ → ρ) : Field ρ :=
  make .fault name decode set

def optional (name : String) (decode : Decoder α) (set : α → ρ → ρ) : Field ρ :=
  make .blank name decode set

def omissible (name : String) (decode : Decoder α) (set : α → ρ → ρ) : Field ρ :=
  make .faultInArray name decode set

end Field

/-- A record type: its name in messages, its fields in their order, and the record
that holds nothing but what stands for absent fields. -/
structure RecordType (ρ : Type) where
  name : String
  blank : ρ
  fields : List (Field ρ)

namespace RecordType

variable {ρ : Type}

def arrayExpectation (type : RecordType ρ) : String :=
  "struct " ++ type.name ++ " with " ++ Decimal.text type.fields.length ++
    (if type.fields.length = 1 then " element" else " elements")

/-- Stores members in the order of the document; returns the names of the fields met. -/
def storeMembers (type : RecordType ρ) (setting : Setting) :
    Members → List String → ρ → Except Fault (List String × ρ)
  | .close, met, record => .ok (met, record)
  | .broken cause, _, _ => .error cause.wanted
  | .member key value rest, met, record => do
    let key ← key
    match type.fields.find? fun field => field.name == key with
    | none =>
      value.passOver
      type.storeMembers setting rest met record
    | some field =>
      if met.contains key then .error (.duplicateField key)
      else
        let record ← field.store setting value record
        type.storeMembers setting rest (key :: met) record

/-- The first required field that was not met. -/
def missing? (type : RecordType ρ) (met : List String) : Option String :=
  (type.fields.find? fun field =>
    field.absence == .fault && !met.contains field.name).map Field.name

/-- Stores items under the fields in their order; `position` fields came before. -/
def storeItems (type : RecordType ρ) (setting : Setting) (total : Nat) :
    List (Field ρ) → Items → Nat → ρ → Except Fault ρ
  | [], .close, _, record => .ok record
  | [], .broken cause, _, _ => .error cause.afterLast
  | [], .item _ _, _, _ =>
    .error (if setting.fromText then .trailingCharacters
      else .wrongLength total "fewer elements in array")
  | field :: fields, .close, position, record =>
    if field.absence = .blank then type.storeItems setting total fields .close (position + 1) record
    else .error (.wrongLength position type.arrayExpectation)
  | _ :: _, .broken cause, _, _ => .error cause.wanted
  | field :: fields, .item value rest, position, record => do
    let record ← field.store setting value record
    type.storeItems setting total fields rest (position + 1) record

def decode (type : RecordType ρ) : Decoder ρ := fun setting draft =>
  match draft with
  | .object members => do
    let (met, record) ← type.storeMembers (← setting.enter) members [] type.blank
    match type.missing? met with
    | some name => .error (.missingField name)
    | none => .ok record
  | .array items => do
    type.storeItems (← setting.enter) items.count type.fields items 0 type.blank
  | _ => .error (draft.mismatch ("struct " ++ type.name))

end RecordType

namespace Decoder

/-- Decodes a whole text; only blanks may follow the value. -/
def ofText {α : Type} (decode : Decoder α) (text : String) : Except Fault α := do
  let (draft, rest) := Draft.ofText text
  let value ← decode .ofText draft
  match rest with
  | some rest =>
    if (Reader.skipBlanks rest).isEmpty then return value else .error .trailingCharacters
  | none => return value

def ofJson {α : Type} (decode : Decoder α) (json : Json) : Except Fault α :=
  decode .ofValue (Draft.ofJson json)

end Decoder

/-- Reads a document as a value. -/
def parse (text : String) : Except Fault Json := Decoder.value.ofText text

end GameBundle.Json
