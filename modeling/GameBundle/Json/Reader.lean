import GameBundle.Json.Numeral
import GameBundle.Json.Quoted

/-!
# Reading drafts

One pass over the text makes a draft of the value at its start and returns the
rest of the text, or no rest where reading cannot go on. No more than three steps
are made without taking a character, so the length of the text bounds their number.
-/

namespace GameBundle.Json.Reader

def isBlank (c : Char) : Bool := c = ' ' || c = '\n' || c = '\t' || c = '\r'

def skipBlanks (text : List Char) : List Char := text.dropWhile isBlank

def word (value : Draft) : List Char → List Char → Draft × Option (List Char)
  | [], rest => (value, some rest)
  | _ :: _, [] => (.flawed (.of .endInValue), none)
  | letter :: letters, c :: rest =>
    if c = letter then word value letters rest else (.flawed (.of .expectedWord), none)

mutual

def value : Nat → List Char → Draft × Option (List Char)
  | 0, _ => (.flawed (.of .endInValue), none)
  | steps + 1, text =>
    match skipBlanks text with
    | [] => (.flawed (.of .endInValue), none)
    | 'n' :: rest => word .null ['u', 'l', 'l'] rest
    | 't' :: rest => word (.bool true) ['r', 'u', 'e'] rest
    | 'f' :: rest => word (.bool false) ['a', 'l', 's', 'e'] rest
    | '"' :: rest =>
      match Quoted.read rest with
      | (.ok text, rest) => (.string text, rest)
      | (.error flaw, rest) => (.flawed flaw, rest)
    | '[' :: rest =>
      let (items, rest) := firstItem steps rest
      (.array items, rest)
    | '{' :: rest =>
      let (members, rest) := firstMember steps rest
      (.object members, rest)
    | c :: rest =>
      if c = '-' || Decimal.isDigit c then Numeral.read (c :: rest)
      else (.flawed (.of .expectedValue), none)

/-- Reads the items that follow an opening bracket. -/
def firstItem : Nat → List Char → Items × Option (List Char)
  | 0, _ => (.broken .endOfText, none)
  | steps + 1, text =>
    match skipBlanks text with
    | [] => (.broken .endOfText, none)
    | ']' :: rest => (.close, some rest)
    | text => item steps text

def item : Nat → List Char → Items × Option (List Char)
  | 0, _ => (.broken .endOfText, none)
  | steps + 1, text =>
    match value steps text with
    | (draft, none) => (.item draft (.broken .endOfText), none)
    | (draft, some rest) =>
      let (items, rest) := nextItem steps rest
      (.item draft items, rest)

def nextItem : Nat → List Char → Items × Option (List Char)
  | 0, _ => (.broken .endOfText, none)
  | steps + 1, text =>
    match skipBlanks text with
    | [] => (.broken .endOfText, none)
    | ']' :: rest => (.close, some rest)
    | ',' :: rest =>
      match skipBlanks rest with
      | [] => (.broken .commaThenEnd, none)
      | ']' :: _ => (.broken .commaThenBracket, none)
      | text => item steps text
    | _ => (.broken .noComma, none)

/-- Reads the members that follow an opening brace. -/
def firstMember : Nat → List Char → Members × Option (List Char)
  | 0, _ => (.broken .endOfText, none)
  | steps + 1, text =>
    match skipBlanks text with
    | [] => (.broken .endOfText, none)
    | '}' :: rest => (.close, some rest)
    | '"' :: rest => member steps rest
    | _ => (.broken .noKey, none)

def member : Nat → List Char → Members × Option (List Char)
  | 0, _ => (.broken .endOfText, none)
  | steps + 1, text =>
    match Quoted.read text with
    | (.error flaw, none) => (.broken (.badKey flaw), none)
    | (.ok key, none) => (.member (.ok key) (.flawed (.of .endInString)) (.broken .endOfText), none)
    | (key, some rest) =>
      let key := match key with
        | .ok key => .ok key
        | .error flaw => .error flaw.wanted
      match skipBlanks rest with
      | [] => (.member key (.flawed (.of .endInObject)) (.broken .endOfText), none)
      | ':' :: rest =>
        match value steps rest with
        | (draft, none) => (.member key draft (.broken .endOfText), none)
        | (draft, some rest) =>
          let (members, rest) := nextMember steps rest
          (.member key draft members, rest)
      | _ => (.member key (.flawed (.of .expectedColon)) (.broken .endOfText), none)

def nextMember : Nat → List Char → Members × Option (List Char)
  | 0, _ => (.broken .endOfText, none)
  | steps + 1, text =>
    match skipBlanks text with
    | [] => (.broken .endOfText, none)
    | '}' :: rest => (.close, some rest)
    | ',' :: rest =>
      match skipBlanks rest with
      | [] => (.broken .commaThenEnd, none)
      | '}' :: _ => (.broken .commaThenBrace, none)
      | '"' :: rest => member steps rest
      | _ => (.broken .noKey, none)
    | _ => (.broken .noComma, none)

end

end GameBundle.Json.Reader

namespace GameBundle.Json

def Draft.ofText (text : String) : Draft × Option (List Char) :=
  Reader.value (3 * text.length + 3) text.toList

end GameBundle.Json
