import GameBundle.Proofs.Json.Scalar
import GameBundle.Proofs.Script.Escaped
import GameBundle.Proofs.Script.Line
import GameBundle.Proofs.Text.Run

/-!
# String literals of scripts

A double-quoted literal is read from its opening quote up to the first quote that no backslash
takes away. Its value is a sequence of UTF-16 units: characters stand for their own, escapes for
those of the characters that they name, and a line end behind a backslash for none. A quoted
text is one literal, and scripts and JSON documents read it as that text.
-/

namespace GameBundle.Script

open Json.Quoted (hexValue? unit? Piece)
open Text (runAtEnd runAtEnd_concat even_runAtEnd_append unitEscape)

namespace Literal

/-- The UTF-16 units of a code point. -/
def units (point : Nat) : List Nat :=
  if point < 0x10000 then [point]
  else [0xD800 + (point - 0x10000) / 0x400, 0xDC00 + (point - 0x10000) % 0x400]

/-- The character that is named by a letter behind a backslash; most name themselves. -/
def named (letter : Char) : Char :=
  match letter with
  | 'b' => '\x08'
  | 't' => '\t'
  | 'n' => '\n'
  | 'v' => '\x0b'
  | 'f' => '\x0c'
  | 'r' => '\r'
  | _ => letter

def hexNumber? (digits : List Char) : Option Nat :=
  digits.foldlM (fun number digit => (hexValue? digit).map (number * 16 + ·)) 0

/-- An escape at the start of what follows a backslash: its units, and how many characters it
takes. Numbers of one to three digits are no escapes, a zero that stands alone apart. -/
def escape? : List Char → Option (List Nat × Nat)
  | [] => none
  | 'u' :: '{' :: rest =>
    let digits := rest.takeWhile (· ≠ '}')
    match hexNumber? digits with
    | some point =>
      if digits ≠ [] ∧ digits.length < rest.length ∧ point < 0x110000 then
        some (units point, digits.length + 3)
      else none
    | none => none
  | 'u' :: a :: b :: c :: d :: _ => (unit? a b c d).map fun unit => ([unit], 5)
  | 'x' :: a :: b :: _ => (hexNumber? [a, b]).map fun unit => ([unit], 3)
  | '0' :: rest => if rest.head?.any Decimal.isDigit then none else some ([0], 1)
  | '\r' :: '\n' :: _ => some ([], 2)
  | c :: _ =>
    if isLineEnd c then some ([], 1)
    else if c = 'u' || c = 'x' || Decimal.isDigit c then none
    else some (units (named c).toNat, 1)

/-- Reads a literal from behind its opening quote: its units, and what follows it. -/
def scan : List Char → Option (List Nat × List Char)
  | [] => none
  | '"' :: rest => some ([], rest)
  | '\\' :: rest =>
    match escape? rest with
    | some (own, size) => (scan (rest.drop size)).map fun (later, rest) => (own ++ later, rest)
    | none => none
  | c :: rest =>
    if isLineEnd c then none
    else (scan rest).map fun (later, rest) => (units c.toNat ++ later, rest)
termination_by text => text.length
decreasing_by all_goals simp [List.length_drop]; try omega

/-- Reads the literal at the start of a text: its units, and what follows it. -/
def read? : List Char → Option (List Nat × List Char)
  | '"' :: rest => scan rest
  | _ => none

variable {own later : List Nat} {escape rest behind : List Char}

theorem scan_escape (reads : escape? (escape ++ rest) = some (own, escape.length))
    (read : scan rest = some (later, behind)) :
    scan ('\\' :: (escape ++ rest)) = some (own ++ later, behind) := by
  rw [scan, reads]
  simp [read]

theorem scan_plain {c : Char} (quote : c ≠ '"') (backslash : c ≠ '\\')
    (inner : isLineEnd c = false) (read : scan rest = some (later, behind)) :
    scan (c :: rest) = some (units c.toNat ++ later, behind) := by
  rw [scan, if_neg (by simp [inner]), read]
  · rfl
  · exact quote
  · exact backslash

end Literal

/-- The letters that name a character behind a backslash, and what they name. -/
def shortForms : List (Char × Char) :=
  [('\\', '\\'), ('"', '"'), ('n', '\n'), ('r', '\r'), ('t', '\t')]

/-- A quoted character stands for itself, is named by a letter, or is given by its unit. -/
inductive QuotedForm (c : Char) : Prop
  | plain (form : quoteChar c = [c]) (quote : c ≠ '"') (backslash : c ≠ '\\')
      (visible : isControl c = false) (inner : isLineEnd c = false)
  | short (letter : Char) (form : quoteChar c = ['\\', letter]) (listed : (letter, c) ∈ shortForms)
  | unit (form : quoteChar c = unitEscape c.toNat) (low : c.toNat < 0xD800)

theorem quotedForm (c : Char) : QuotedForm c := by
  by_cases special : c ∈ ['\\', '"', '\n', '\r', '\t']
  · simp only [List.mem_cons, List.not_mem_nil, or_false] at special
    rcases special with rfl | rfl | rfl | rfl | rfl
    · exact .short '\\' rfl (by decide)
    · exact .short '"' rfl (by decide)
    · exact .short 'n' rfl (by decide)
    · exact .short 'r' rfl (by decide)
    · exact .short 't' rfl (by decide)
  · simp only [List.mem_cons, List.not_mem_nil, or_false, not_or] at special
    obtain ⟨backslash, quote, newline, carriage, tab⟩ := special
    by_cases escaped : (c = '\u2028' || c = '\u2029' || isControl c) = true
    · refine .unit (by simp [quoteChar, backslash, quote, newline, carriage, tab, escaped]) ?_
      simp only [Bool.or_eq_true, decide_eq_true_eq, isControl, Bool.and_eq_true] at escaped
      rcases escaped with (rfl | rfl) | below | ⟨-, between⟩
      · decide
      · decide
      · omega
      · omega
    · have plain : quoteChar c = [c] := by
        simp [quoteChar, backslash, quote, newline, carriage, tab, escaped]
      simp only [Bool.or_eq_true, decide_eq_true_eq, not_or, Bool.not_eq_true] at escaped
      obtain ⟨⟨line, paragraph⟩, visible⟩ := escaped
      exact .plain plain quote backslash visible
        (by simp [isLineEnd, newline, carriage, line, paragraph])

/-- Each quote is taken away by a backslash, and none is left at the end that would take away
what follows. Of backslashes in a row, every other one takes away the next. -/
structure IsSealed (text : List Char) : Prop where
  ended : Even (runAtEnd '\\' text)
  taken : ∀ position, text[position]? = some '"' →
    ¬Even (runAtEnd '\\' (text.take position))

namespace IsSealed

variable {text more : List Char}

theorem of_lt_length (ended : Even (runAtEnd '\\' text)) (taken : ∀ position < text.length,
    text[position]? = some '"' → ¬Even (runAtEnd '\\' (text.take position))) : IsSealed text :=
  ⟨ended, fun position quote =>
    taken position (List.getElem?_eq_some_iff.mp quote).1 quote⟩

theorem nil : IsSealed [] := of_lt_length (by decide) (by decide)

theorem append (first : IsSealed text) (second : IsSealed more) : IsSealed (text ++ more) := by
  refine ⟨(even_runAtEnd_append first.ended).mpr second.ended, fun position quote => ?_⟩
  rcases Nat.lt_or_ge position text.length with inside | behind
  · rw [List.getElem?_append_left inside] at quote
    rw [List.take_append_of_le_length inside.le]
    exact first.taken position quote
  · rw [List.getElem?_append_right behind] at quote
    rw [List.take_append, List.take_of_length_le behind, even_runAtEnd_append first.ended]
    exact second.taken _ quote

end IsSealed

/-- Text without quotes and backslashes behind one backslash and a letter. -/
theorem isSealed_unitEscape (unit : Nat) : IsSealed (unitEscape unit) := by
  have digit (n : Nat) : Text.hexDigit (n % 16) ≠ '"' ∧ Text.hexDigit (n % 16) ≠ '\\' := by
    have all : ∀ d : Fin 16, Text.hexDigit d ≠ '"' ∧ Text.hexDigit d ≠ '\\' := by decide
    exact all ⟨n % 16, Nat.mod_lt n (by decide)⟩
  constructor
  · simp [unitEscape, runAtEnd, digit]
  · intro position quote
    have member : '"' ∈ unitEscape unit := List.mem_of_getElem? quote
    simp [unitEscape, (digit _).1.symm] at member

theorem isSealed_quoteChar (c : Char) : IsSealed (quoteChar c) := by
  cases quotedForm c with
  | plain form quote backslash visible inner =>
    rw [form]
    refine ⟨by simp [runAtEnd, backslash], fun position found => ?_⟩
    exact absurd (List.mem_singleton.mp (List.mem_of_getElem? found)).symm quote
  | short letter form listed =>
    have all : ∀ entry ∈ shortForms, Even (runAtEnd '\\' ['\\', entry.1]) ∧
        ∀ position < 2, ['\\', entry.1][position]? = some '"' →
          ¬Even (runAtEnd '\\' (['\\', entry.1].take position)) := by decide
    rw [form]
    exact .of_lt_length (all _ listed).1 (all _ listed).2
  | unit form low =>
    rw [form]
    exact isSealed_unitEscape _

theorem isSealed_quoted (text : List Char) : IsSealed (text.flatMap quoteChar) := by
  induction text with
  | nil => exact .nil
  | cons c text ih =>
    rw [List.flatMap_cons]
    exact (isSealed_quoteChar c).append ih

def isQuiet (c : Char) : Bool := !isControl c && !isLineEnd c

theorem isQuiet_iff {c : Char} : isQuiet c = true ↔ isControl c = false ∧ isLineEnd c = false := by
  simp [isQuiet]

/-- A quoted text has no control characters and stays on its line. -/
theorem quiet_quoted (text : List Char) : ∀ c ∈ text.flatMap quoteChar, isQuiet c = true := by
  intro c member
  obtain ⟨source, -, written⟩ := List.mem_flatMap.mp member
  cases quotedForm source with
  | plain form quote backslash visible inner =>
    rw [form] at written
    rw [List.mem_singleton.mp written]
    exact isQuiet_iff.mpr ⟨visible, inner⟩
  | short letter form listed =>
    have all : shortForms.all (fun entry => ['\\', entry.1].all isQuiet) = true := by decide
    rw [form] at written
    exact List.all_eq_true.mp (List.all_eq_true.mp all _ listed) c written
  | unit form low =>
    have all : escapeChars.all isQuiet = true := by decide
    rw [form] at written
    exact List.all_eq_true.mp all c (unitEscape_subset _ written)

theorem escape?_unitEscape {unit : Nat} (fits : unit < 65536) (rest : List Char) :
    Literal.escape? ((unitEscape unit).tail ++ rest) = some ([unit], 5) := by
  have opening : Text.hexDigit (unit / 4096 % 16) ≠ '\x7b' := by
    have all : ∀ d : Fin 16, Text.hexDigit d ≠ '\x7b' := by decide
    exact all ⟨_, Nat.mod_lt _ (by decide)⟩
  have shape : (unitEscape unit).tail ++ rest = 'u' :: Text.hexDigit (unit / 4096 % 16) ::
      Text.hexDigit (unit / 256 % 16) :: Text.hexDigit (unit / 16 % 16) ::
        Text.hexDigit (unit % 16) :: rest := rfl
  rw [shape, Literal.escape?, Json.Quoted.unit?_unitEscape fits]
  · rfl
  · exact opening

variable {later : List Nat} {rest behind : List Char}

theorem scan_quoteChar (c : Char) (read : Literal.scan rest = some (later, behind)) :
    Literal.scan (quoteChar c ++ rest) = some (Literal.units c.toNat ++ later, behind) := by
  cases quotedForm c with
  | plain form quote backslash visible inner =>
    rw [form]
    exact Literal.scan_plain quote backslash inner read
  | short letter form listed =>
    rw [form]
    simp only [shortForms, List.mem_cons, Prod.mk.injEq, List.not_mem_nil, or_false] at listed
    rcases listed with ⟨rfl, rfl⟩ | ⟨rfl, rfl⟩ | ⟨rfl, rfl⟩ | ⟨rfl, rfl⟩ | ⟨rfl, rfl⟩ <;>
      exact Literal.scan_escape rfl read
  | unit form low =>
    have fits : c.toNat < 65536 := by omega
    have units : Literal.units c.toNat = [c.toNat] := if_pos fits
    rw [form, units]
    exact Literal.scan_escape (escape?_unitEscape fits rest) read

theorem scan_quoted (text rest : List Char) :
    Literal.scan (text.flatMap quoteChar ++ '"' :: rest) =
      some (text.flatMap fun c => Literal.units c.toNat, rest) := by
  induction text with
  | nil => simp [Literal.scan]
  | cons c text ih =>
    rw [List.flatMap_cons, List.append_assoc, scan_quoteChar c ih, List.flatMap_cons]

/-- What a quoted character is taken for in a JSON document. -/
def quotedPiece (c : Char) : Piece :=
  if quoteChar c = unitEscape c.toNat then .unit c.toNat else .character c

theorem jsonScan_quoteChar (c : Char) (rest : List Char) : Json.Quoted.scan (quoteChar c ++ rest) =
    (Json.Quoted.scan rest).prepend (quotedPiece c) := by
  cases quotedForm c with
  | plain form quote backslash visible inner =>
    have piece : quotedPiece c = .character c := if_neg (by rw [form]; simp [unitEscape])
    have printable : ¬c.toNat < 32 := fun low => by simp [isControl, low] at visible
    rw [form, piece]
    exact Json.Quoted.scan_plain quote backslash printable rest
  | short letter form listed =>
    have piece : quotedPiece c = .character c := if_neg (by rw [form]; simp [unitEscape])
    rw [form, piece]
    simp only [shortForms, List.mem_cons, Prod.mk.injEq, List.not_mem_nil, or_false] at listed
    rcases listed with ⟨rfl, rfl⟩ | ⟨rfl, rfl⟩ | ⟨rfl, rfl⟩ | ⟨rfl, rfl⟩ | ⟨rfl, rfl⟩ <;> rfl
  | unit form low =>
    have fits : c.toNat < 65536 := by omega
    have unit := Json.Quoted.unit?_unitEscape fits
    rw [quotedPiece, if_pos form, form]
    simp [unitEscape, Json.Quoted.scan, unit]

theorem jsonScan_quoted (text rest : List Char) :
    Json.Quoted.scan (text.flatMap quoteChar ++ '"' :: rest) =
      ⟨text.map quotedPiece, .closed, rest⟩ := by
  induction text with
  | nil => rfl
  | cons c text ih =>
    rw [List.flatMap_cons, List.append_assoc, jsonScan_quoteChar, ih]
    rfl

theorem quotedPiece_cases (c : Char) : quotedPiece c = .character c ∨
    (quotedPiece c = .unit c.toNat ∧ c.toNat < 0xD800) := by
  unfold quotedPiece
  split
  · rename_i escaped
    cases quotedForm c with
    | plain form => rw [form] at escaped; cases escaped
    | short letter form => rw [form] at escaped; cases escaped
    | unit form low => exact .inr ⟨rfl, low⟩
  · exact .inl rfl

theorem jsonRead_quoted (text : String) (rest : List Char) :
    Json.Quoted.read (text.toList.flatMap quoteChar ++ '"' :: rest) = (.ok text, some rest) := by
  simp [Json.Quoted.read, jsonScan_quoted, Json.Quoted.join_pieces quotedPiece_cases]

/-- A text that is one double-quoted literal for a value, wherever it stands in a script or in a
JSON document. -/
structure IsLiteral (literal value : String) : Prop where
  framed : ∃ inside, literal.toList = '"' :: (inside ++ ['"']) ∧ IsSealed inside ∧
    ∀ c ∈ inside, isControl c = false ∧ isLineEnd c = false
  script : ∀ rest, Literal.read? (literal.toList ++ rest) =
    some (value.toList.flatMap fun c => Literal.units c.toNat, rest)
  json : ∀ rest, ∃ behind, literal.toList ++ rest = '"' :: behind ∧
    Json.Quoted.read behind = (.ok value, some rest)

theorem IsLiteral.value_unique {literal one other : String} (first : IsLiteral literal one)
    (second : IsLiteral literal other) : one = other := by
  obtain ⟨behind, shape, read⟩ := first.json []
  obtain ⟨again, same, reread⟩ := second.json []
  obtain rfl := (List.cons.inj (shape.symm.trans same)).2
  exact Except.ok.inj (Prod.mk.inj (read.symm.trans reread)).1

theorem isLiteral_quote (text : String) : IsLiteral (quote text) text := by
  have shape : (quote text).toList = '"' :: (text.toList.flatMap quoteChar ++ ['"']) := by
    rw [quote, String.toList_ofList, quoteChars]
  have behind (rest : List Char) : (quote text).toList ++ rest =
      '"' :: (text.toList.flatMap quoteChar ++ '"' :: rest) := by simp [shape]
  refine ⟨⟨_, shape, isSealed_quoted _, fun c inside => isQuiet_iff.mp (quiet_quoted _ c inside)⟩,
    fun rest => ?_, fun rest => ?_⟩
  · rw [behind, Literal.read?, scan_quoted]
  · exact ⟨_, behind rest, jsonRead_quoted text rest⟩

theorem quote_injective : Function.Injective quote := fun one other same =>
  (isLiteral_quote one).value_unique (same ▸ isLiteral_quote other)

/-- A control character does not run into the digit behind it. -/
example : quote "\"\x7f0\\" = "\"\\\"\\u007f0\\\\\"" := rfl

end GameBundle.Script
