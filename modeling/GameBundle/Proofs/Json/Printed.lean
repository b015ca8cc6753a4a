import GameBundle.Json.Decoder
import GameBundle.Proofs.Json.Scalar

/-!
# Reading what was printed

The compact form of a value whose numbers are integers of 64 bits reads as the draft of that
value, and reading stops right behind it, so that nothing inside the value can end it early.
-/

namespace GameBundle

namespace Json

mutual

def isIntegral : Json → Bool
  | .number (.integer value) => decide (Numeral.Short value)
  | .number (.real _) => false
  | .array items => areIntegral items
  | .object members => hasIntegral members
  | _ => true

def areIntegral : List Json → Bool
  | [] => true
  | item :: rest => isIntegral item && areIntegral rest

def hasIntegral : List (String × Json) → Bool
  | [] => true
  | (_, value) :: rest => isIntegral value && hasIntegral rest

end

theorem areIntegral_iff {items : List Json} :
    areIntegral items = true ↔ ∀ item ∈ items, item.isIntegral = true := by
  induction items with
  | nil => simp [areIntegral]
  | cons item rest ih => simp [areIntegral, ih]

theorem hasIntegral_iff {members : List (String × Json)} :
    hasIntegral members = true ↔ ∀ member ∈ members, member.2.isIntegral = true := by
  induction members with
  | nil => simp [hasIntegral]
  | cons member rest ih => simp [hasIntegral, ih]

@[simp] theorem isIntegral_string (text : String) : (string text).isIntegral = true := rfl

@[simp] theorem isIntegral_bool (value : Bool) : (bool value).isIntegral = true := rfl

theorem isIntegral_natural {value : Nat} (fits : value < Nat.pow 2 32) :
    (natural value).isIntegral = true := by
  have wider : Nat.pow 2 32 < Nat.pow 2 64 := by decide
  have short : Numeral.Short value := ⟨by omega, by omega⟩
  rw [natural, integer, isIntegral]
  exact decide_eq_true short

@[simp] theorem isIntegral_array {items : List Json} :
    (array items).isIntegral = true ↔ ∀ item ∈ items, item.isIntegral = true :=
  areIntegral_iff

@[simp] theorem isIntegral_object {members : List (String × Json)} :
    (object members).isIntegral = true ↔ ∀ member ∈ members, member.2.isIntegral = true :=
  hasIntegral_iff

@[simp] theorem isIntegral_list {α : Type} {encode : α → Json} {values : List α} :
    (list encode values).isIntegral = true ↔
      ∀ value ∈ values, (encode value).isIntegral = true := by
  simp [list]

namespace Reader

/-- A text that starts a value, and can neither be skipped nor close a list. -/
def Starts (text : List Char) : Prop :=
  ∃ c more, text = c :: more ∧ isBlank c = false ∧ c ≠ ']'

theorem skipBlanks_of_solid {c : Char} (solid : isBlank c = false) (rest : List Char) :
    skipBlanks (c :: rest) = c :: rest := by
  simp [skipBlanks, solid]

theorem not_isBlank_of_isDigit {c : Char} (digit : Decimal.isDigit c = true) :
    isBlank c = false := by
  cases blank : isBlank c with
  | false => rfl
  | true =>
    simp only [isBlank, Bool.or_eq_true, decide_eq_true_eq] at blank
    rcases blank with ((rfl | rfl) | rfl) | rfl <;> exact absurd digit (by decide)

theorem starts_signedText (value : Int) (rest : List Char) :
    ∃ c more, (Decimal.signedText value).toList ++ rest = c :: more ∧
      (c = '-' ∨ Decimal.isDigit c = true) := by
  cases value with
  | ofNat n =>
    obtain ⟨c, more, shape, digit⟩ := Decimal.digits_inhabited n
    refine ⟨c, more ++ rest, ?_, .inr digit⟩
    simp [Decimal.signedText, Decimal.text, shape]
  | negSucc n =>
    refine ⟨'-', Decimal.digits (n + 1) ++ rest, ?_, .inl rfl⟩
    simp [Decimal.signedText, Decimal.text]

theorem starts_value {json : Json} (integral : json.isIntegral = true) (rest : List Char) :
    Starts (Printer.value json ++ rest) := by
  cases json with
  | null => exact ⟨'n', _, rfl, by decide, by decide⟩
  | bool value => cases value <;> exact ⟨_, _, rfl, by decide, by decide⟩
  | string value => exact ⟨'"', _, rfl, by decide, by decide⟩
  | array items => cases items <;> exact ⟨'[', _, rfl, by decide, by decide⟩
  | object members =>
    rcases members with - | ⟨⟨key, value⟩, more⟩ <;> exact ⟨_, _, rfl, by decide, by decide⟩
  | number n =>
    cases n with
    | real value => simp [isIntegral] at integral
    | integer value =>
      obtain ⟨c, more, shape, first⟩ := starts_signedText value rest
      refine ⟨c, more, shape, ?_, ?_⟩
      · rcases first with rfl | digit
        · decide
        · exact not_isBlank_of_isDigit digit
      · rintro rfl
        simp [Decimal.isDigit] at first

section Steps

variable {steps : Nat} {text rest : List Char} {draft : Draft}

theorem firstItem_of_starts (starts : Starts text) :
    firstItem (steps + 1) text = item steps text := by
  obtain ⟨c, more, rfl, solid, inner⟩ := starts
  simp [firstItem, skipBlanks_of_solid solid, inner]

theorem nextItem_of_starts (starts : Starts text) :
    nextItem (steps + 1) (',' :: text) = item steps text := by
  obtain ⟨c, more, rfl, solid, inner⟩ := starts
  have comma : skipBlanks (',' :: c :: more) = ',' :: c :: more := rfl
  simp [nextItem, comma, skipBlanks_of_solid solid, inner]

theorem item_of_value (read : value steps text = (draft, some rest)) :
    item (steps + 1) text = (.item draft (nextItem steps rest).1, (nextItem steps rest).2) := by
  simp [item, read]

theorem member_of_value (key : String) (read : value steps text = (draft, some rest)) :
    member (steps + 1) (key.toList.flatMap Printer.character ++ '"' :: ':' :: text) =
      (.member (.ok key) draft (nextMember steps rest).1, (nextMember steps rest).2) := by
  have colon : skipBlanks (':' :: text) = ':' :: text := rfl
  simp [member, Quoted.read_string, colon, read]

theorem value_string (text : String) (rest : List Char) :
    value (steps + 1) (Printer.string text ++ rest) = (.string text, some rest) := by
  have quote (more : List Char) : skipBlanks ('"' :: more) = '"' :: more := rfl
  simp [value, Printer.string, quote, Quoted.read_string]

theorem value_numeral {c : Char} (numeral : c = '-' ∨ Decimal.isDigit c = true)
    (more : List Char) : value (steps + 1) (c :: more) = Numeral.read (c :: more) := by
  have solid : isBlank c = false := by
    rcases numeral with rfl | digit
    · rfl
    · exact not_isBlank_of_isDigit digit
  have apart (letter : Char) (foreign : ¬(letter = '-' ∨ Decimal.isDigit letter = true)) :
      c ≠ letter := by
    rintro rfl
    exact foreign numeral
  simp [value, skipBlanks_of_solid solid, apart 'n' (by decide), apart 't' (by decide),
    apart 'f' (by decide), apart '"' (by decide), apart '[' (by decide), apart '{' (by decide),
    numeral]

theorem value_integer {n : Int} (short : Numeral.Short n) (ends : Numeral.Ends rest) :
    value (steps + 1) ((Decimal.signedText n).toList ++ rest) =
      (.number (.integer n), some rest) := by
  obtain ⟨c, more, shape, first⟩ := starts_signedText n rest
  rw [shape, value_numeral first, ← shape, Numeral.read_signedText short ends]

end Steps

theorem ends_items (items : List Json) (rest : List Char) :
    Numeral.Ends (Printer.items items ++ rest) := by
  cases items <;> simp [Numeral.Ends, Printer.items, Decimal.isDigit]

theorem ends_members (members : List (String × Json)) (rest : List Char) :
    Numeral.Ends (Printer.members members ++ rest) := by
  rcases members with - | ⟨⟨key, value⟩, more⟩ <;>
    simp [Numeral.Ends, Printer.members, Decimal.isDigit]

mutual

/-- The printed form of a value reads as its draft, whatever follows. The reader spends at most
three steps on a character. -/
theorem value_printed : ∀ {json : Json} {steps : Nat} {rest : List Char},
    json.isIntegral = true → Numeral.Ends rest → 3 * (Printer.value json).length ≤ steps →
      value steps (Printer.value json ++ rest) = (Draft.ofJson json, some rest)
  | .null, steps + 3, rest, _, _, _ => rfl
  | .bool true, steps + 3, rest, _, _, _ => rfl
  | .bool false, steps + 3, rest, _, _, _ => rfl
  | .string text, steps + 1, rest, _, _, _ => value_string text rest
  | .number (.integer n), 0, rest, _, _, enough => by
    obtain ⟨c, more, shape, -⟩ := starts_signedText n []
    rw [List.append_nil] at shape
    simp [Printer.value, Printer.number, shape] at enough
  | .number (.integer n), steps + 1, rest, integral, ends, _ =>
    value_integer (of_decide_eq_true integral) ends
  | .array [], steps + 3, rest, _, _, _ => rfl
  | .object [], steps + 3, rest, _, _, _ => rfl
  | .array (item :: items), steps + 3, rest, integral, ends, enough => by
    simp only [isIntegral, areIntegral, Bool.and_eq_true] at integral
    simp only [Printer.value, List.length_cons, List.length_append] at enough
    have first := value_printed integral.1 (ends_items items rest) (show _ ≤ steps by omega)
    have others : nextItem steps (Printer.items items ++ rest) = (Items.ofList items, some rest) :=
      nextItem_printed integral.2 (by omega)
    have bracket (more : List Char) : skipBlanks ('[' :: more) = '[' :: more := rfl
    simp only [Printer.value, List.cons_append, List.append_assoc, value, bracket]
    rw [firstItem_of_starts (starts_value integral.1 _), item_of_value first, others]
    rfl
  | .object ((key, json) :: members), steps + 3, rest, integral, ends, enough => by
    simp only [isIntegral, hasIntegral, Bool.and_eq_true] at integral
    simp only [Printer.value, List.length_cons, List.length_append] at enough
    have first := value_printed integral.1 (ends_members members rest) (show _ ≤ steps by omega)
    have others : nextMember steps (Printer.members members ++ rest) =
        (Members.ofList members, some rest) := nextMember_printed integral.2 (by omega)
    have brace (more : List Char) : skipBlanks ('{' :: more) = '{' :: more := rfl
    have opened (more : List Char) : firstMember (steps + 2) ('"' :: more) =
      member (steps + 1) more := rfl
    simp only [Printer.value, Printer.string, List.cons_append, List.append_assoc, value, brace,
      List.nil_append]
    rw [opened, member_of_value key first, others]
    rfl

theorem nextItem_printed : ∀ {items : List Json} {steps : Nat} {rest : List Char},
    areIntegral items = true → 3 * (Printer.items items).length ≤ steps →
      nextItem steps (Printer.items items ++ rest) = (Items.ofList items, some rest)
  | [], steps + 1, rest, _, _ => rfl
  | item :: items, steps + 2, rest, integral, enough => by
    simp only [areIntegral, Bool.and_eq_true] at integral
    simp only [Printer.items, List.length_cons, List.length_append] at enough
    have first := value_printed integral.1 (ends_items items rest) (show _ ≤ steps by omega)
    have others : nextItem steps (Printer.items items ++ rest) = (Items.ofList items, some rest) :=
      nextItem_printed integral.2 (by omega)
    simp only [Printer.items, List.cons_append, List.append_assoc]
    rw [nextItem_of_starts (starts_value integral.1 _), item_of_value first, others]
    rfl

theorem nextMember_printed : ∀ {members : List (String × Json)} {steps : Nat} {rest : List Char},
    hasIntegral members = true → 3 * (Printer.members members).length ≤ steps →
      nextMember steps (Printer.members members ++ rest) = (Members.ofList members, some rest)
  | [], steps + 1, rest, _, _ => rfl
  | (key, json) :: members, steps + 2, rest, integral, enough => by
    simp only [hasIntegral, Bool.and_eq_true] at integral
    simp only [Printer.members, List.length_cons, List.length_append] at enough
    have first := value_printed integral.1 (ends_members members rest) (show _ ≤ steps by omega)
    have others : nextMember steps (Printer.members members ++ rest) =
        (Members.ofList members, some rest) := nextMember_printed integral.2 (by omega)
    have opened (more : List Char) : nextMember (steps + 2) (',' :: '"' :: more) =
      member (steps + 1) more := rfl
    simp only [Printer.members, Printer.string, List.cons_append, List.append_assoc,
      List.nil_append]
    rw [opened, member_of_value key first, others]
    rfl

end

end Reader

/-- A printed value is read up to its end, and what follows is left as it is. -/
theorem Draft.ofText_append {json : Json} (integral : json.isIntegral = true) {more : String}
    (ends : Numeral.Ends more.toList) :
    Draft.ofText (json.text ++ more) = (.ofJson json, some more.toList) := by
  have chars : (json.text ++ more).toList = Printer.value json ++ more.toList := by
    simp [text]
  have enough : 3 * (Printer.value json).length ≤ 3 * (json.text ++ more).length + 3 := by
    rw [← String.length_toList, chars, List.length_append]
    omega
  rw [Draft.ofText, chars]
  exact Reader.value_printed integral ends enough

theorem Decoder.ofText_text {α : Type} (decode : Decoder α) {json : Json}
    (integral : json.isIntegral = true) :
    decode.ofText json.text = decode .ofText (.ofJson json) := by
  have ends : Numeral.Ends "".toList := Numeral.ends_nil
  have read : Draft.ofText json.text = (.ofJson json, some []) := by
    simpa using Draft.ofText_append integral ends
  unfold Decoder.ofText
  rw [read]
  dsimp only
  cases decode .ofText (.ofJson json) with
  | error cause => rfl
  | ok value => rfl

end Json

end GameBundle
