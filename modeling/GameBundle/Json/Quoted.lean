import GameBundle.Json.Draft

/-!
# Reading quoted strings

What follows an opening quote is taken apart into characters and `\u` units, up
to the closing quote or to the first spot that is no part of a string. The pieces
are then joined: a unit of the upper half of a pair asks for one of the lower
half right behind it.
-/

namespace GameBundle.Json.Quoted

inductive Piece where
  | character (c : Char)
  | unit (value : Nat)
deriving DecidableEq, Repr

inductive Ending where
  | closed
  | endOfText
  | control
  | badEscape
  | badDigits
deriving DecidableEq, Repr

structure Scan where
  pieces : List Piece
  ending : Ending
  rest : List Char

def hexValue? (c : Char) : Option Nat :=
  if '0' ≤ c && c ≤ '9' then some (c.toNat - 48)
  else if 'a' ≤ c && c ≤ 'f' then some (c.toNat - 87)
  else if 'A' ≤ c && c ≤ 'F' then some (c.toNat - 55)
  else none

def unit? (a b c d : Char) : Option Nat := do
  return ((← hexValue? a) * 16 + (← hexValue? b)) * 256 + ((← hexValue? c) * 16 + (← hexValue? d))

/-- The character that a one-letter escape stands for. -/
def shortEscape? (c : Char) : Option Char :=
  if c = '"' || c = '\\' || c = '/' then some c
  else if c = 'b' then some '\x08'
  else if c = 'f' then some '\x0c'
  else if c = 'n' then some '\n'
  else if c = 'r' then some '\r'
  else if c = 't' then some '\t'
  else none

def Scan.prepend (piece : Piece) (scan : Scan) : Scan :=
  { scan with pieces := piece :: scan.pieces }

/-- A text of fewer than four bytes has no room for the digits of a unit. -/
def lacksDigits (text : List Char) : Bool :=
  (text.take 4).foldl (fun size c => size + c.utf8Size) 0 < 4

/-- Takes apart what follows an opening quote. -/
def scan : List Char → Scan
  | [] => ⟨[], .endOfText, []⟩
  | '"' :: rest => ⟨[], .closed, rest⟩
  | '\\' :: [] => ⟨[], .endOfText, []⟩
  | '\\' :: 'u' :: a :: b :: c :: d :: rest =>
    match unit? a b c d with
    | some value => (scan rest).prepend (.unit value)
    | none => ⟨[], if lacksDigits [a, b, c, d] then .endOfText else .badDigits, []⟩
  | '\\' :: 'u' :: rest => ⟨[], if lacksDigits rest then .endOfText else .badDigits, []⟩
  | '\\' :: letter :: rest =>
    match shortEscape? letter with
    | some c => (scan rest).prepend (.character c)
    | none => ⟨[], .badEscape, []⟩
  | c :: rest =>
    if c.toNat < 32 then ⟨[], .control, []⟩ else (scan rest).prepend (.character c)

def isUpperHalf (unit : Nat) : Bool := 0xD800 ≤ unit && unit ≤ 0xDBFF

def isLowerHalf (unit : Nat) : Bool := 0xDC00 ≤ unit && unit ≤ 0xDFFF

def Ending.fault? : Ending → Option Fault
  | .closed => none
  | .endOfText => some .endInString
  | .control => some .controlCharacter
  | .badEscape => some .badEscape
  | .badDigits => some .badEscape

/-- The fault when the pieces end right behind an upper half. -/
def Ending.faultInPair : Ending → Fault
  | .endOfText => .endInString
  | .badDigits => .badEscape
  | _ => .unfinishedPair

def join (ending : Ending) : List Piece → Except Fault (List Char)
  | [] => match ending.fault? with
    | none => .ok []
    | some fault => .error fault
  | .character c :: rest => do return c :: (← join ending rest)
  | .unit value :: rest =>
    if isLowerHalf value then .error .unpairedUnit
    else if isUpperHalf value then
      match rest with
      | [] => .error ending.faultInPair
      | .character _ :: _ => .error .unfinishedPair
      | .unit lower :: rest =>
        if isLowerHalf lower then do
          return Char.ofNat ((value - 0xD800) * 1024 + (lower - 0xDC00) + 0x10000) ::
            (← join ending rest)
        else .error .unpairedUnit
    else do return Char.ofNat value :: (← join ending rest)

/-- Reads what follows an opening quote; the rest is missing where reading stops. -/
def read (text : List Char) : Except Flaw String × Option (List Char) :=
  let scanned := scan text
  let rest := if scanned.ending = .closed then some scanned.rest else none
  match join scanned.ending scanned.pieces with
  | .ok characters => (.ok (String.ofList characters), rest)
  | .error fault => (.error ⟨fault, scanned.ending.fault?⟩, rest)

end GameBundle.Json.Quoted
