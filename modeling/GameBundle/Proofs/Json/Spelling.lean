import GameBundle.Proofs.Json.Letters
import GameBundle.Proofs.Json.Numerals
import GameBundle.Proofs.Json.Printed

/-!
# Spellings of documents

A document is spelled by a tree that keeps every blank, the letters of every string and the parts
of every number. The reader makes the draft of a spelling out of its characters, and decodes it to
the value of the spelling unless this is too deep.
-/

namespace GameBundle.Json

open Quoted (Letter textOf literal)

/-- Blanks between the parts of a document. -/
structure Blanks where
  chars : List Char
  blank : ∀ c ∈ chars, Reader.isBlank c = true

namespace Blanks

def none : Blanks := ⟨[], by simp⟩

def space : Blanks := ⟨[' '], List.forall_mem_singleton.mpr rfl⟩

def lineFeed : Blanks := ⟨['\n'], List.forall_mem_singleton.mpr rfl⟩

def append (front back : Blanks) : Blanks where
  chars := front.chars ++ back.chars
  blank c member := (List.mem_append.mp member).elim (front.blank c) (back.blank c)

@[simp] theorem chars_none : none.chars = [] := rfl

@[simp] theorem chars_space : space.chars = [' '] := rfl

@[simp] theorem chars_lineFeed : lineFeed.chars = ['\n'] := rfl

@[simp] theorem chars_append (front back : Blanks) :
    (front.append back).chars = front.chars ++ back.chars := rfl

end Blanks

mutual

/-- A value as a document spells it, from its first character to its last. -/
inductive Spelling where
  | null
  | bool (value : Bool)
  | number (numeral : NumberSpelling)
  | string (letters : List Letter)
  | array (items : ItemSpellings)
  | object (members : MemberSpellings)

inductive ItemSpellings where
  | close (front : Blanks)
  | item (front : Blanks) (value : Spelling) (back : Blanks) (rest : ItemSpellings)

/-- Members up to the closing brace. The colon stands between the blanks `middle` and `ahead`. -/
inductive MemberSpellings where
  | close (front : Blanks)
  | member (front : Blanks) (key : List Letter) (middle ahead : Blanks) (value : Spelling)
      (back : Blanks) (rest : MemberSpellings)

end

mutual

def Spelling.chars : Spelling → List Char
  | .null => ['n', 'u', 'l', 'l']
  | .bool true => ['t', 'r', 'u', 'e']
  | .bool false => ['f', 'a', 'l', 's', 'e']
  | .number numeral => numeral.spelling
  | .string letters => literal letters
  | .array items => '[' :: items.chars []
  | .object members => '{' :: members.chars []

/-- Items with what stands in front of the first of them: nothing or a comma. -/
def ItemSpellings.chars (lead : List Char) : ItemSpellings → List Char
  | .close front => front.chars ++ [']']
  | .item front value back rest =>
    lead ++ (front.chars ++ (value.chars ++ (back.chars ++ rest.chars [','])))

def MemberSpellings.chars (lead : List Char) : MemberSpellings → List Char
  | .close front => front.chars ++ ['}']
  | .member front key middle ahead value back rest =>
    lead ++ (front.chars ++ (literal key ++ (middle.chars ++ ':' ::
      (ahead.chars ++ (value.chars ++ (back.chars ++ rest.chars [',']))))))

end

mutual

def Spelling.draft : Spelling → Draft
  | .null => .null
  | .bool value => .bool value
  | .number numeral => .number numeral.value
  | .string letters => .string (textOf letters)
  | .array items => .array items.draft
  | .object members => .object members.draft

def ItemSpellings.draft : ItemSpellings → Items
  | .close _ => .close
  | .item _ value _ rest => .item value.draft rest.draft

def MemberSpellings.draft : MemberSpellings → Members
  | .close _ => .close
  | .member _ key _ _ value _ rest => .member (.ok (textOf key)) value.draft rest.draft

end

mutual

/-- The value that is spelled when the strings that are values stand for the texts that `read`
gives them. Of the members with one key the last counts. -/
def Spelling.valueBy (read : List Letter → String) : Spelling → Json
  | .null => .null
  | .bool value => .bool value
  | .number numeral => .number numeral.value
  | .string letters => .string (read letters)
  | .array items => .array (items.valuesBy read)
  | .object members => .object (members.valuesBy read [])

def ItemSpellings.valuesBy (read : List Letter → String) : ItemSpellings → List Json
  | .close _ => []
  | .item _ value _ rest => value.valueBy read :: rest.valuesBy read

def MemberSpellings.valuesBy (read : List Letter → String) :
    MemberSpellings → Dictionary Json → Dictionary Json
  | .close _, entries => entries
  | .member _ key _ _ value _ rest, entries =>
    rest.valuesBy read (entries.insert (textOf key) (value.valueBy read))

end

mutual

/-- How many containers are nested in each other. -/
def Spelling.depth : Spelling → Nat
  | .array items => items.depth + 1
  | .object members => members.depth + 1
  | _ => 0

def ItemSpellings.depth : ItemSpellings → Nat
  | .close _ => 0
  | .item _ value _ rest => max value.depth rest.depth

def MemberSpellings.depth : MemberSpellings → Nat
  | .close _ => 0
  | .member _ _ _ _ value _ rest => max value.depth rest.depth

end

/-- A document: a value between blanks. -/
structure Document where
  front : Blanks
  spelling : Spelling
  back : Blanks

namespace Document

def chars (document : Document) : List Char :=
  document.front.chars ++ (document.spelling.chars ++ document.back.chars)

def text (document : Document) : String := String.ofList document.chars

def valueBy (read : List Letter → String) (document : Document) : Json :=
  document.spelling.valueBy read

def value (document : Document) : Json := document.valueBy textOf

def depth (document : Document) : Nat := document.spelling.depth

@[simp] theorem toList_text (document : Document) : document.text.toList = document.chars := by
  simp [text]

end Document

namespace Reader

theorem skipBlanks_append (front : Blanks) (text : List Char) :
    skipBlanks (front.chars ++ text) = skipBlanks text :=
  List.dropWhile_append_of_pos front.blank

def blanksOf (text : List Char) : Blanks where
  chars := text.takeWhile isBlank
  blank _ member := List.mem_takeWhile_imp member

theorem blanksOf_append_skipBlanks (text : List Char) :
    (blanksOf text).chars ++ skipBlanks text = text :=
  List.takeWhile_append_dropWhile

theorem ends_of_isBlank {c : Char} (blank : isBlank c = true) (rest : List Char) :
    Numeral.Ends (c :: rest) := by
  simp only [isBlank, Bool.or_eq_true, decide_eq_true_eq] at blank
  rcases blank with ((rfl | rfl) | rfl) | rfl <;> simp [Numeral.Ends, Decimal.isDigit]

theorem ends_append (front : Blanks) {text : List Char} (ends : Numeral.Ends text) :
    Numeral.Ends (front.chars ++ text) := by
  rcases shape : front.chars with - | ⟨c, more⟩
  · exact ends
  · exact ends_of_isBlank (front.blank c (by simp [shape])) _

theorem ends_itemSpellings (items : ItemSpellings) (rest : List Char) :
    Numeral.Ends (items.chars [','] ++ rest) := by
  have bracket : Numeral.Ends (']' :: rest) := by simp [Numeral.Ends, Decimal.isDigit]
  cases items with
  | close front =>
    rw [ItemSpellings.chars, List.append_assoc]
    exact ends_append front bracket
  | item => simp [ItemSpellings.chars, Numeral.Ends, Decimal.isDigit]

theorem ends_memberSpellings (members : MemberSpellings) (rest : List Char) :
    Numeral.Ends (members.chars [','] ++ rest) := by
  have brace : Numeral.Ends ('}' :: rest) := by simp [Numeral.Ends, Decimal.isDigit]
  cases members with
  | close front =>
    rw [MemberSpellings.chars, List.append_assoc]
    exact ends_append front brace
  | member => simp [MemberSpellings.chars, Numeral.Ends, Decimal.isDigit]

theorem starts_digits (run : Digits) (rest : List Char) :
    ∃ c more, run.chars ++ rest = c :: more ∧ Decimal.isDigit c = true := by
  obtain ⟨c, more, shape⟩ := List.exists_cons_of_ne_nil run.inhabited
  exact ⟨c, more ++ rest, by simp [shape], run.digits c (by simp [shape])⟩

theorem starts_number (number : NumberSpelling) (rest : List Char) :
    ∃ c more, number.spelling ++ rest = c :: more ∧ (c = '-' ∨ Decimal.isDigit c = true) := by
  rw [NumberSpelling.spelling, NumeralParts.spelling]
  cases number.parts.negative with
  | true => exact ⟨'-', _, rfl, .inl rfl⟩
  | false =>
    obtain ⟨c, more, shape, digit⟩ := starts_digits number.parts.whole
      (number.parts.fractionSpelling ++ number.parts.exponentSpelling ++ rest)
    exact ⟨c, more, by simpa using shape, .inr digit⟩

theorem starts_spelling (spelling : Spelling) (rest : List Char) :
    Starts (spelling.chars ++ rest) := by
  cases spelling with
  | null => exact ⟨'n', _, rfl, by decide, by decide⟩
  | bool value => cases value <;> exact ⟨_, _, rfl, by decide, by decide⟩
  | string letters => exact ⟨'"', _, rfl, by decide, by decide⟩
  | array items => exact ⟨'[', _, rfl, by decide, by decide⟩
  | object members => exact ⟨'{', _, rfl, by decide, by decide⟩
  | number numeral =>
    obtain ⟨c, more, shape, first⟩ := starts_number numeral rest
    refine ⟨c, more, shape, ?_, ?_⟩
    · rcases first with rfl | digit
      · decide
      · exact not_isBlank_of_isDigit digit
    · rintro rfl
      simp [Decimal.isDigit] at first

theorem length_spelling_pos (spelling : Spelling) : 0 < spelling.chars.length := by
  obtain ⟨c, more, shape, -⟩ := starts_spelling spelling []
  rw [List.append_nil] at shape
  simp [shape]

theorem length_items_pos (lead : List Char) (items : ItemSpellings) :
    0 < (items.chars lead).length := by
  cases items with
  | close front => simp [ItemSpellings.chars]
  | item front value back rest =>
    have positive := length_spelling_pos value
    simp only [ItemSpellings.chars, List.length_append]
    omega

theorem length_members_pos (lead : List Char) (members : MemberSpellings) :
    0 < (members.chars lead).length := by
  cases members with
  | close front => simp [MemberSpellings.chars]
  | member =>
    simp only [MemberSpellings.chars, literal, List.length_append, List.length_cons]
    omega

section Steps

variable {steps : Nat} {text rest : List Char}

/-- What is skipped in front of a value does not count. -/
theorem skipBlanks_of_starts (front : Blanks) (starts : Starts text) :
    skipBlanks (front.chars ++ text) = text := by
  obtain ⟨c, more, rfl, solid, -⟩ := starts
  rw [skipBlanks_append, skipBlanks_of_solid solid]

/-- A reader that skips blanks first does not see them. -/
theorem value_append (front : Blanks) (text : List Char) :
    value steps (front.chars ++ text) = value steps text := by
  cases steps with
  | zero => rfl
  | succ steps => simp only [value, skipBlanks_append]

theorem firstItem_append (front : Blanks) (text : List Char) :
    firstItem steps (front.chars ++ text) = firstItem steps text := by
  cases steps with
  | zero => rfl
  | succ steps => simp only [firstItem, skipBlanks_append]

theorem nextItem_append (front : Blanks) (text : List Char) :
    nextItem steps (front.chars ++ text) = nextItem steps text := by
  cases steps with
  | zero => rfl
  | succ steps => simp only [nextItem, skipBlanks_append]

theorem firstMember_append (front : Blanks) (text : List Char) :
    firstMember steps (front.chars ++ text) = firstMember steps text := by
  cases steps with
  | zero => rfl
  | succ steps => simp only [firstMember, skipBlanks_append]

theorem nextMember_append (front : Blanks) (text : List Char) :
    nextMember steps (front.chars ++ text) = nextMember steps text := by
  cases steps with
  | zero => rfl
  | succ steps => simp only [nextMember, skipBlanks_append]

/-- Behind a comma items go on as behind a bracket, but for one that closes at once. -/
theorem nextItem_comma (front : Blanks) (starts : Starts text) :
    nextItem (steps + 1) (',' :: (front.chars ++ text)) = item steps text := by
  have comma (more : List Char) : skipBlanks (',' :: more) = ',' :: more := rfl
  have solid := skipBlanks_of_starts front starts
  obtain ⟨c, more, rfl, -, inner⟩ := starts
  simp [nextItem, comma, solid, inner]

theorem nextMember_comma (front : Blanks) (text : List Char) :
    nextMember (steps + 1) (',' :: (front.chars ++ '"' :: text)) = member steps text := by
  have comma (more : List Char) : skipBlanks (',' :: more) = ',' :: more := rfl
  have quote : skipBlanks ('"' :: text) = '"' :: text := rfl
  simp [nextMember, comma, skipBlanks_append, quote]

/-- A member is read up to its colon, whatever blanks surround it. -/
theorem member_of_letters {draft : Draft} (key : List Letter) (middle ahead : Blanks)
    (read : value steps text = (draft, some rest)) :
    member (steps + 1)
        (Quoted.spelling key ++ '"' :: (middle.chars ++ ':' :: (ahead.chars ++ text))) =
      (.member (.ok (textOf key)) draft (nextMember steps rest).1,
        (nextMember steps rest).2) := by
  have colon (more : List Char) : skipBlanks (':' :: more) = ':' :: more := rfl
  simp [member, Quoted.read_letters, skipBlanks_append, colon, value_append, read]

theorem value_letters (letters : List Letter) :
    value (steps + 1) (literal letters ++ rest) = (.string (textOf letters), some rest) := by
  have quote (more : List Char) : skipBlanks ('"' :: more) = '"' :: more := rfl
  simp [value, literal, quote, Quoted.read_letters]

theorem value_number (number : NumberSpelling) (ends : Numeral.Ends rest) :
    value (steps + 1) (number.spelling ++ rest) = (.number number.value, some rest) := by
  obtain ⟨c, more, shape, first⟩ := starts_number number rest
  rw [shape, value_numeral first, ← shape, Numeral.read_spelling number ends]

end Steps

mutual

/-- A spelling reads as its draft, whatever follows. The reader spends at most three steps on a
character. -/
theorem value_spelling : ∀ {spelling : Spelling} {steps : Nat} {rest : List Char},
    Numeral.Ends rest → 3 * spelling.chars.length ≤ steps →
      value steps (spelling.chars ++ rest) = (spelling.draft, some rest)
  | .null, steps + 1, rest, _, _ => rfl
  | .bool true, steps + 1, rest, _, _ => rfl
  | .bool false, steps + 1, rest, _, _ => rfl
  | .string letters, steps + 1, rest, _, _ => value_letters letters
  | .number numeral, steps + 1, rest, ends, _ => value_number numeral ends
  | .array items, steps + 1, rest, _, enough => by
    simp only [Spelling.chars, List.length_cons] at enough
    have inner := @firstItem_spelling items _ rest (show _ ≤ steps by omega)
    have bracket (more : List Char) : skipBlanks ('[' :: more) = '[' :: more := rfl
    simp [Spelling.chars, Spelling.draft, value, bracket, inner]
  | .object members, steps + 1, rest, _, enough => by
    simp only [Spelling.chars, List.length_cons] at enough
    have inner := @firstMember_spelling members _ rest
      (show _ ≤ steps by omega)
    have brace (more : List Char) : skipBlanks ('{' :: more) = '{' :: more := rfl
    simp [Spelling.chars, Spelling.draft, value, brace, inner]
  | spelling, 0, rest, _, enough => by
    have positive := length_spelling_pos spelling
    omega

theorem firstItem_spelling : ∀ {items : ItemSpellings} {steps : Nat} {rest : List Char},
    3 * (items.chars []).length ≤ steps →
      firstItem steps (items.chars [] ++ rest) = (items.draft, some rest)
  | items, 0, rest, enough => by
    have positive := length_items_pos [] items
    omega
  | .close front, steps + 1, rest, _ => by
    rw [ItemSpellings.chars, List.append_assoc, firstItem_append]
    rfl
  | .item front spelling back others, steps + 1, rest, enough => by
    simp only [ItemSpellings.chars, List.nil_append, List.length_append] at enough
    have positive := length_spelling_pos spelling
    have closed := length_items_pos [','] others
    obtain ⟨steps, rfl⟩ := Nat.exists_eq_add_of_le' (show 2 ≤ steps by omega)
    have first := @value_spelling spelling _ _
      (ends_append back (ends_itemSpellings others rest)) (show _ ≤ steps + 1 by omega)
    have later := @nextItem_spelling others _ rest
      (show _ ≤ steps + 1 by omega)
    simp only [ItemSpellings.chars, List.nil_append, List.append_assoc]
    rw [firstItem_append, firstItem_of_starts (starts_spelling spelling _), item_of_value first,
      nextItem_append, later]
    rfl

theorem nextItem_spelling : ∀ {items : ItemSpellings} {steps : Nat} {rest : List Char},
    3 * (items.chars [',']).length ≤ steps →
      nextItem steps (items.chars [','] ++ rest) = (items.draft, some rest)
  | items, 0, rest, enough => by
    have positive := length_items_pos [','] items
    omega
  | .close front, steps + 1, rest, _ => by
    rw [ItemSpellings.chars, List.append_assoc, nextItem_append]
    rfl
  | .item front spelling back others, steps + 1, rest, enough => by
    simp only [ItemSpellings.chars, List.length_cons, List.length_append] at enough
    obtain ⟨steps, rfl⟩ := Nat.exists_eq_add_of_le' (show 1 ≤ steps by omega)
    have first := @value_spelling spelling _ _
      (ends_append back (ends_itemSpellings others rest)) (show _ ≤ steps by omega)
    have later := @nextItem_spelling others _ rest (show _ ≤ steps by omega)
    simp only [ItemSpellings.chars, List.cons_append, List.nil_append, List.append_assoc]
    rw [nextItem_comma front (starts_spelling spelling _), item_of_value first, nextItem_append,
      later]
    rfl

theorem firstMember_spelling : ∀ {members : MemberSpellings} {steps : Nat} {rest : List Char},
    3 * (members.chars []).length ≤ steps →
      firstMember steps (members.chars [] ++ rest) = (members.draft, some rest)
  | members, 0, rest, enough => by
    have positive := length_members_pos [] members
    omega
  | .close front, steps + 1, rest, _ => by
    rw [MemberSpellings.chars, List.append_assoc, firstMember_append]
    rfl
  | .member front key middle ahead spelling back others, steps + 1, rest, enough => by
    simp only [MemberSpellings.chars, literal, List.nil_append, List.length_cons,
      List.length_append] at enough
    obtain ⟨steps, rfl⟩ := Nat.exists_eq_add_of_le' (show 2 ≤ steps by omega)
    have first := @value_spelling spelling _ _
      (ends_append back (ends_memberSpellings others rest)) (show _ ≤ steps + 1 by omega)
    have later := @nextMember_spelling others _ rest
      (show _ ≤ steps + 1 by omega)
    have opened (more : List Char) : firstMember (steps + 3) ('"' :: more) =
      member (steps + 2) more := rfl
    simp only [MemberSpellings.chars, literal, List.nil_append, List.cons_append,
      List.append_assoc]
    rw [firstMember_append, opened, member_of_letters key middle ahead first, nextMember_append,
      later]
    rfl

theorem nextMember_spelling : ∀ {members : MemberSpellings} {steps : Nat} {rest : List Char},
    3 * (members.chars [',']).length ≤ steps →
      nextMember steps (members.chars [','] ++ rest) = (members.draft, some rest)
  | members, 0, rest, enough => by
    have positive := length_members_pos [','] members
    omega
  | .close front, steps + 1, rest, _ => by
    rw [MemberSpellings.chars, List.append_assoc, nextMember_append]
    rfl
  | .member front key middle ahead spelling back others, steps + 1, rest, enough => by
    simp only [MemberSpellings.chars, literal, List.length_cons, List.length_append] at enough
    obtain ⟨steps, rfl⟩ := Nat.exists_eq_add_of_le' (show 1 ≤ steps by omega)
    have first := @value_spelling spelling _ _
      (ends_append back (ends_memberSpellings others rest)) (show _ ≤ steps by omega)
    have later := @nextMember_spelling others _ rest
      (show _ ≤ steps by omega)
    simp only [MemberSpellings.chars, literal, List.nil_append, List.cons_append,
      List.append_assoc]
    rw [nextMember_comma front, member_of_letters key middle ahead first, nextMember_append,
      later]
    rfl

end

end Reader

end GameBundle.Json
