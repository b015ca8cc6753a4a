import GameBundle.Json.Quoted
import GameBundle.Markup.Escape

/-!
# Inert texts

A text is inert when nothing in it is taken for markup: it has neither angle brackets nor quotes,
and every ampersand begins a reference to a character or to one of the five entities that need no
declaration. Escaped texts are inert, and so are texts put together from inert ones.
-/

namespace GameBundle.Markup

/-- Whether a number is the one of a character that documents may contain. -/
def isCharacter (n : Nat) : Bool :=
  n = 0x9 || n = 0xA || n = 0xD || (0x20 ≤ n && n ≤ 0xD7FF) || (0xE000 ≤ n && n ≤ 0xFFFD) ||
    (0x10000 ≤ n && n ≤ 0x10FFFF)

def isLegal (c : Char) : Bool := isCharacter c.toNat

def number? (base start : Nat) : List Char → Option Nat
  | [] => some start
  | c :: rest => do
    let digit ← Json.Quoted.hexValue? c
    if digit < base then number? base (start * base + digit) rest else none

/-- Whether a reference has a meaning without declarations; the name stands between the ampersand
and the semicolon. -/
def isReference : List Char → Bool
  | '#' :: 'x' :: c :: digits => (number? 16 0 (c :: digits)).any isCharacter
  | '#' :: c :: digits => (number? 10 0 (c :: digits)).any isCharacter
  | name => [['a', 'm', 'p'], ['l', 't'], ['g', 't'], ['q', 'u', 'o', 't'],
      ['a', 'p', 'o', 's']].contains name

/-- A character that markup gives a meaning to. -/
def isSpecial (c : Char) : Bool := c = '<' || c = '>' || c = '"' || c = '\'' || c = '&'

/-- Whether the rest of a text is inert, from inside a reference or from outside. -/
def isInertFrom : Option (List Char) → List Char → Bool
  | none, [] => true
  | some _, [] => false
  | none, c :: rest =>
    if c = '&' then isInertFrom (some []) rest else !isSpecial c && isInertFrom none rest
  | some name, c :: rest =>
    if c = ';' then isReference name && isInertFrom none rest
    else isInertFrom (some (name ++ [c])) rest

/-- Nothing in a text is taken for markup. -/
def Inert (text : String) : Prop := isInertFrom none text.toList = true

instance (text : String) : Decidable (Inert text) := inferInstanceAs (Decidable (_ = _))

/-- What is read inside a reference is its name, up to the semicolon. -/
theorem isInertFrom_name {name : List Char} (spelled : ';' ∉ name) (front rest : List Char) :
    isInertFrom (some front) (name ++ ';' :: rest) =
      (isReference (front ++ name) && isInertFrom none rest) := by
  induction name generalizing front with
  | nil => simp [isInertFrom]
  | cons c name ih =>
    rw [List.mem_cons, not_or] at spelled
    rw [List.cons_append, isInertFrom, if_neg (Ne.symm spelled.1), ih spelled.2]
    simp

theorem isInertFrom_reference {name : List Char} (spelled : ';' ∉ name)
    (known : isReference name = true) (rest : List Char) :
    isInertFrom none ('&' :: (name ++ ';' :: rest)) = isInertFrom none rest := by
  rw [isInertFrom, if_pos rfl, isInertFrom_name spelled, List.nil_append, known, Bool.true_and]

/-- The entities are the references to the five characters with a meaning. -/
theorem isReference_of_entity? {c : Char} {name : List Char} (entity : entity? c = some name) :
    isReference name = true ∧ ';' ∉ name := by
  unfold entity? at entity
  repeat' split at entity
  all_goals first | cases entity; done | (cases entity; decide)

theorem not_isSpecial_of_entity? {c : Char} (plain : entity? c = none) : isSpecial c = false := by
  unfold entity? at plain
  repeat' split at plain
  all_goals first | cases plain; done | skip
  rename_i amp lt gt quote apostrophe
  simp [isSpecial, amp, lt, gt, quote, apostrophe]

theorem isInertFrom_escapeChars (text : List Char) :
    isInertFrom none (escapeChars text) = true := by
  induction text with
  | nil => rfl
  | cons c text ih =>
    rw [escapeChars] at ih ⊢
    rw [List.flatMap_cons, escapeChar]
    cases entity : entity? c with
    | some name =>
      obtain ⟨known, spelled⟩ := isReference_of_entity? entity
      simpa [isInertFrom_reference spelled known] using ih
    | none =>
      have plain := not_isSpecial_of_entity? entity
      have apart : c ≠ '&' := by
        rintro rfl
        cases plain
      simpa [isInertFrom, apart, plain] using ih

theorem inert_escape (text : String) : Inert (escape text) := by
  rw [Inert, escape, String.toList_ofList]
  exact isInertFrom_escapeChars text.toList

theorem inert_of_plain {text : String} (plain : ∀ c ∈ text.toList, isSpecial c = false) :
    Inert text := by
  unfold Inert
  generalize text.toList = chars at plain
  induction chars with
  | nil => rfl
  | cons c rest ih =>
    rw [List.forall_mem_cons] at plain
    have apart : c ≠ '&' := by
      rintro rfl
      cases plain.1
    rw [isInertFrom, if_neg apart, plain.1, ih plain.2]
    rfl

end GameBundle.Markup
