import GameBundle.Decimal.Shortest
import GameBundle.Text.Debug

/-!
# Faults of a document

Why a text is no document, or why a document does not fit what is asked of it.
Each cause has one wording.
-/

namespace GameBundle.Json

/-- What stands in a document where something else was expected. -/
inductive Found where
  | null
  | boolean (value : Bool)
  | integer (value : Int)
  | real (value : Binary64)
  | text (value : String)
  | sequence
  | map
deriving DecidableEq, Repr

inductive Fault where
  | expectedValue
  | endInValue
  | endInList
  | endInObject
  | endInString
  | keyNotString
  | trailingComma
  | trailingCharacters
  | expectedColon
  | expectedCommaOrBrace
  | expectedCommaOrBracket
  | expectedWord
  | badNumber
  | numberTooLarge
  | badEscape
  | unfinishedPair
  | unpairedUnit
  | controlCharacter
  | tooDeep
  | duplicateField (name : String)
  | missingField (name : String)
  | wrongType (found : Found) (expected : String)
  | wrongValue (found : Found) (expected : String)
  | unknownVariant (name : String) (known : List String)
  | wrongLength (length : Nat) (expected : String)
deriving DecidableEq, Repr

def quoteName (name : String) : String := "`" ++ name ++ "`"

namespace Found

def describe : Found → String
  | .null => "null"
  | .boolean value => "boolean " ++ quoteName (if value then "true" else "false")
  | .integer value => "integer " ++ quoteName (Decimal.signedText value)
  | .real value => "floating point " ++ quoteName (String.ofList (Decimal.compact value))
  | .text value => "string " ++ Text.debug value
  | .sequence => "sequence"
  | .map => "map"

end Found

namespace Fault

def alternatives (names : List String) : String :=
  match names.map quoteName with
  | [] => "there are no variants"
  | [one] => one
  | [one, other] => one ++ " or " ++ other
  | many => "one of " ++ ", ".intercalate many

def message : Fault → String
  | .expectedValue => "expected value"
  | .endInValue => "EOF while parsing a value"
  | .endInList => "EOF while parsing a list"
  | .endInObject => "EOF while parsing an object"
  | .endInString => "EOF while parsing a string"
  | .keyNotString => "key must be a string"
  | .trailingComma => "trailing comma"
  | .trailingCharacters => "trailing characters"
  | .expectedColon => "expected `:`"
  | .expectedCommaOrBrace => "expected `,` or `\x7d`"
  | .expectedCommaOrBracket => "expected `,` or `]`"
  | .expectedWord => "expected ident"
  | .badNumber => "invalid number"
  | .numberTooLarge => "number out of range"
  | .badEscape => "invalid escape"
  | .unfinishedPair => "unexpected end of hex escape"
  | .unpairedUnit => "lone leading surrogate in hex escape"
  | .controlCharacter => "control character (\\u0000-\\u001F) found while parsing a string"
  | .tooDeep => "recursion limit exceeded"
  | .duplicateField name => "duplicate field " ++ quoteName name
  | .missingField name => "missing field " ++ quoteName name
  | .wrongType found expected => "invalid type: " ++ found.describe ++ ", expected " ++ expected
  | .wrongValue found expected => "invalid value: " ++ found.describe ++ ", expected " ++ expected
  | .unknownVariant name known =>
    "unknown variant " ++ quoteName name ++ ", expected " ++ alternatives known
  | .wrongLength length expected =>
    "invalid length " ++ Decimal.text length ++ ", expected " ++ expected

end Fault

end GameBundle.Json
