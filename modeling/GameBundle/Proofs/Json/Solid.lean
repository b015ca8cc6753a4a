import GameBundle.Proofs.Json.Spelling

/-!
# Room for escapes

An escape takes up more characters that are no blanks than what it stands for. A list of strings
that has no more of them than the strings themselves, with their quotes and commas, is therefore
spelled without escapes.
-/

namespace GameBundle.Json

open Quoted (Letter UnitEscape IsPlain textOf literal spelling)

/-- How many characters of a text are no blanks. -/
def solid (text : List Char) : Nat := text.countP fun c => !Reader.isBlank c

@[simp] theorem solid_nil : solid [] = 0 := rfl

@[simp] theorem solid_append (front back : List Char) :
    solid (front ++ back) = solid front + solid back := List.countP_append

theorem solid_cons_of_solid {c : Char} (inked : Reader.isBlank c = false) (text : List Char) :
    solid (c :: text) = solid text + 1 := by
  simp [solid, inked]

theorem solid_cons (c : Char) (text : List Char) : solid (c :: text) = solid [c] + solid text :=
  solid_append [c] text

theorem solid_le_one (c : Char) : solid [c] ≤ 1 := List.countP_le_length

@[simp] theorem solid_blanks (blanks : Blanks) : solid blanks.chars = 0 := by
  rw [solid, List.countP_eq_zero]
  intro c member
  simp [blanks.blank c member]

theorem solid_literal (letters : List Letter) :
    solid (literal letters) = solid (spelling letters) + 2 := by
  have quote (text : List Char) : solid ('"' :: text) = solid text + 1 :=
    solid_cons_of_solid (by decide) text
  simp [literal, quote]

theorem one_lt_solid_escape (escape : UnitEscape) : 1 < solid escape.spelling := by
  have shape : escape.spelling = ['\\', 'u'] ++ [escape.a, escape.b, escape.c, escape.d] := rfl
  have two : solid ['\\', 'u'] = 2 := by decide
  rw [shape, solid_append, two]
  omega

/-- A letter has no fewer such characters than it stands for, and as many only if it is plain. -/
theorem solid_letter (letter : Letter) : IsPlain letter.value ∧ letter.spelling = [letter.value] ∨
    solid [letter.value] < solid letter.spelling := by
  have few := solid_le_one letter.value
  cases letter with
  | plain c apart => exact .inl ⟨apart, rfl⟩
  | short letter c names =>
    have inked : Reader.isBlank letter = false := by
      cases blank : Reader.isBlank letter with
      | false => rfl
      | true =>
        simp only [Reader.isBlank, Bool.or_eq_true, decide_eq_true_eq] at blank
        rcases blank with ((rfl | rfl) | rfl) | rfl <;> cases names
    have two : solid ['\\', letter] = 2 := by
      rw [solid_cons_of_solid (by decide), solid_cons_of_solid inked, solid_nil]
    rw [Letter.spelling, two]
    exact .inr (by omega)
  | unit escape whole =>
    have long := one_lt_solid_escape escape
    rw [Letter.spelling]
    exact .inr (by omega)
  | pair upper lower halves =>
    have long := one_lt_solid_escape upper
    rw [Letter.spelling, solid_append]
    exact .inr (by omega)

theorem solid_letters (letters : List Letter) :
    solid (textOf letters).toList ≤ solid (spelling letters) ∧
      (solid (textOf letters).toList = solid (spelling letters) →
        ∀ c ∈ (textOf letters).toList, IsPlain c) := by
  rw [Quoted.toList_textOf]
  induction letters with
  | nil => exact ⟨le_rfl, by simp⟩
  | cons letter letters ih =>
    obtain ⟨bound, exact⟩ := ih
    rw [List.map_cons, Quoted.spelling_cons, solid_append, solid_cons]
    rcases solid_letter letter with ⟨plain, same⟩ | less
    · rw [same, List.forall_mem_cons]
      exact ⟨by omega, fun equal => ⟨plain, exact (by omega)⟩⟩
    · exact ⟨by omega, fun equal => absurd equal (by omega)⟩

/-- What texts amount to in a list, with two quotes and a comma for each. -/
def weight : List String → Nat
  | [] => 0
  | text :: texts => solid text.toList + 3 + weight texts

@[simp] theorem weight_nil : weight [] = 0 := rfl

@[simp] theorem weight_cons (text : String) (texts : List String) :
    weight (text :: texts) = solid text.toList + 3 + weight texts := rfl

theorem exists_letters_of_value {value : Spelling} {text : String}
    (valued : value.valueBy textOf = .string text) :
    ∃ letters, value = .string letters ∧ textOf letters = text := by
  cases value with
  | string letters => exact ⟨letters, rfl, Json.string.inj valued⟩
  | array items => rw [Spelling.valueBy] at valued; cases valued
  | object members => rw [Spelling.valueBy] at valued; cases valued
  | _ => cases valued

theorem exists_items_of_value {value : Spelling} {items : List Json}
    (valued : value.valueBy textOf = .array items) :
    ∃ spelled, value = .array spelled ∧ spelled.valuesBy textOf = items := by
  cases value with
  | array spelled =>
    rw [Spelling.valueBy] at valued
    exact ⟨spelled, rfl, Json.array.inj valued⟩
  | object members => rw [Spelling.valueBy] at valued; cases valued
  | _ => cases valued

theorem solid_items : ∀ {items : ItemSpellings} {texts : List String},
    items.valuesBy textOf = texts.map .string →
      weight texts + 1 ≤ solid (items.chars [',']) ∧
      (weight texts + 1 = solid (items.chars [',']) →
        ∀ text ∈ texts, ∀ c ∈ text.toList, IsPlain c)
  | .close front, texts, values => by
    rw [ItemSpellings.valuesBy] at values
    obtain rfl := List.map_eq_nil_iff.mp values.symm
    have bracket : solid [']'] = 1 := by decide
    simp [ItemSpellings.chars, bracket]
  | .item front value back rest, [], values => by
    rw [ItemSpellings.valuesBy] at values
    cases values
  | .item front value back rest, text :: texts, values => by
    rw [ItemSpellings.valuesBy, List.map_cons] at values
    obtain ⟨first, later⟩ := List.cons.inj values
    obtain ⟨letters, rfl, rfl⟩ := exists_letters_of_value first
    obtain ⟨bound, exact⟩ := solid_letters letters
    obtain ⟨bounds, exacts⟩ := solid_items later
    have comma : solid [','] = 1 := by decide
    simp only [ItemSpellings.chars, Spelling.chars, solid_append, solid_blanks, solid_literal,
      comma, weight_cons, List.forall_mem_cons]
    exact ⟨by omega, fun equal => ⟨exact (by omega), exacts (by omega)⟩⟩

end GameBundle.Json
