import GameBundle.Json.Printer

/-!
# Printed values stay on one line

The compact form of a value has no control character, whatever the value contains: strings
escape them, and outside of strings there are only marks, digits and a few letters.
-/

namespace GameBundle

namespace Text

/-- No control character stands in a text. -/
def Visible (text : List Char) : Prop := ∀ c ∈ text, 32 ≤ c.toNat

@[simp] theorem visible_nil : Visible [] := by simp [Visible]

@[simp] theorem visible_cons {c : Char} {text : List Char} :
    Visible (c :: text) ↔ 32 ≤ c.toNat ∧ Visible text := by
  simp [Visible]

@[simp] theorem visible_append {front back : List Char} :
    Visible (front ++ back) ↔ Visible front ∧ Visible back := by
  simp [Visible, or_imp, forall_and]

theorem Visible.of_subset {part whole : List Char} (visible : Visible whole)
    (inside : part ⊆ whole) : Visible part :=
  fun c member => visible c (inside member)

theorem Visible.newline_not_mem {text : List Char} (visible : Visible text) : '\n' ∉ text :=
  fun member => absurd (visible _ member) (by decide)

theorem le_toNat_hexDigit {digit : Nat} (small : digit < 16) : 32 ≤ (hexDigit digit).toNat := by
  have all : ∀ d : Fin 16, 32 ≤ (hexDigit d).toNat := by decide
  exact all ⟨digit, small⟩

theorem visible_unitEscape (unit : Nat) : Visible (unitEscape unit) := by
  have digit (n : Nat) : 32 ≤ (hexDigit (n % 16)).toNat :=
    le_toNat_hexDigit (Nat.mod_lt n (by decide))
  simp [unitEscape, digit]

end Text

namespace Decimal

open Text

theorem visible_digits (n : Nat) : Visible (digits n) := by
  intro c member
  have digit := isDigit_of_mem_digits member
  simp only [isDigit, Bool.and_eq_true, decide_eq_true_eq] at digit
  exact Nat.le_trans (by decide : 32 ≤ '0'.toNat) digit.1

theorem visible_zeros (count : Nat) : Visible (List.replicate count '0') := by
  intro c member
  rw [List.eq_of_mem_replicate member]
  decide

theorem visible_signedText (value : Int) : Visible (signedText value).toList := by
  cases value with
  | ofNat n => simpa [signedText, text] using visible_digits n
  | negSucc n => simpa [signedText, text] using visible_digits (n + 1)

theorem visible_positional (scaled : Scaled) : Visible (positional scaled) := by
  have digits := visible_digits scaled.digits
  unfold positional
  dsimp only
  split
  · simp [digits, visible_zeros]
  · split
    · simp [digits.of_subset (List.take_subset _ _), digits.of_subset (List.drop_subset _ _)]
    · simp [digits, visible_zeros]

theorem visible_scientific (scaled : Scaled) : Visible (scientific scaled) := by
  have mantissa := visible_digits scaled.digits
  unfold scientific
  dsimp only
  simp only [visible_append, visible_cons]
  refine ⟨?_, by decide, ?_, visible_digits _⟩
  · split
    · exact visible_nil
    · rename_i digit single
      rwa [single] at mantissa
    · rename_i digit rest _ shape
      rw [shape, visible_cons] at mantissa
      exact visible_cons.mpr ⟨mantissa.1, visible_cons.mpr ⟨by decide, mantissa.2⟩⟩
  · split <;> decide

theorem visible_compact (x : Binary64) : Visible (compact x) := by
  unfold compact
  dsimp only
  unfold signed
  split <;> split <;> simp [visible_positional, visible_scientific]

end Decimal

namespace Json.Printer

open Text

theorem visible_character (c : Char) : Visible (character c) := by
  by_cases short : c ∈ ['"', '\\', '\n', '\r', '\t', '\x08', '\x0c']
  · simp only [List.mem_cons, List.not_mem_nil, or_false] at short
    rcases short with rfl | rfl | rfl | rfl | rfl | rfl | rfl <;> simp [character]
  · simp only [List.mem_cons, List.not_mem_nil, or_false, not_or] at short
    obtain ⟨quote, backslash, newline, carriage, tab, back, feed⟩ := short
    simp only [character, quote, backslash, newline, carriage, tab, back, feed, if_false]
    split
    · exact visible_unitEscape _
    · rename_i large
      simpa using large

theorem visible_string (value : String) : Visible (string value) := by
  have inside : Visible (value.toList.flatMap character) := by
    intro c member
    obtain ⟨source, -, written⟩ := List.mem_flatMap.mp member
    exact visible_character source c written
  simp [string, inside]

theorem visible_number (n : Number) : Visible (number n) := by
  cases n with
  | integer value => exact Decimal.visible_signedText value
  | real value => exact Decimal.visible_compact value

mutual

theorem visible_value : ∀ json : Json, Visible (value json)
  | .null => by simp [value]
  | .bool true => by simp [value]
  | .bool false => by simp [value]
  | .number n => visible_number n
  | .string text => visible_string text
  | .array [] => by simp [value]
  | .object [] => by simp [value]
  | .array (item :: rest) => by simp [value, visible_value item, visible_items rest]
  | .object ((key, item) :: rest) => by
    simp [value, visible_string, visible_value item, visible_members rest]

theorem visible_items : ∀ rest : List Json, Visible (items rest)
  | [] => by simp [items]
  | item :: rest => by simp [items, visible_value item, visible_items rest]

theorem visible_members : ∀ rest : List (String × Json), Visible (members rest)
  | [] => by simp [members]
  | (key, item) :: rest => by
    simp [members, visible_string, visible_value item, visible_members rest]

end

end Json.Printer

/-- A printed value has no control character. -/
theorem Json.visible_text (json : Json) : Text.Visible json.text.toList := by
  simpa [text] using Printer.visible_value json

end GameBundle
