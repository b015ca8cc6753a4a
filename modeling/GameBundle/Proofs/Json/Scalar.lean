import GameBundle.Json.Printer
import GameBundle.Json.Reader

/-!
# Reading printed numerals and strings

An integer of 64 bits reads back from its digits, when no character behind them carries the
numeral on. A string reads back whatever it contains: each printed character is one piece of the
string, and only the quote behind the last one closes it.
-/

namespace GameBundle

namespace Decimal

theorem digits_inhabited (n : Nat) : ∃ c rest, digits n = c :: rest ∧ isDigit c = true := by
  cases shape : digits n with
  | nil =>
    rw [digits] at shape
    split at shape <;> simp at shape
  | cons c rest =>
    exact ⟨c, rest, rfl, isDigit_of_mem_digits (n := n) (by simp [shape])⟩

theorem head?_digits_ne_zero {n : Nat} (positive : 0 < n) : (digits n).head? ≠ some '0' := by
  induction n using Nat.strongRecOn with
  | ind n ih =>
    rw [digits]
    split
    · rename_i small
      have all : ∀ d : Fin 10, 0 < d.val → digitChar d ≠ '0' := by decide
      simpa using all ⟨n, small⟩ positive
    · obtain ⟨c, rest, shape, -⟩ := digits_inhabited (n / 10)
      have front := ih (n / 10) (by omega) (by omega)
      rw [shape] at front ⊢
      simpa using front

theorem length_digits_zero : (digits 0).length = 1 := by
  rw [digits]
  rfl

theorem le_value (digits : List Char) (start : Nat) : start ≤ value digits start := by
  induction digits generalizing start with
  | nil => simp [value]
  | cons c rest ih =>
    have step := ih (start * 10 + digitValue c)
    simp only [value, List.foldl_cons] at step ⊢
    omega

end Decimal

namespace Json

namespace Numeral

/-- Nothing that would carry a numeral on stands at the start of a text. -/
def Ends (text : List Char) : Prop :=
  ∀ c ∈ text.head?, Decimal.isDigit c = false ∧ c ≠ '.' ∧ c ≠ 'e' ∧ c ≠ 'E'

theorem ends_nil : Ends [] := by simp [Ends]

theorem takeWhile_digits {whole rest : List Char} (digits : ∀ c ∈ whole, Decimal.isDigit c = true)
    (ends : Ends rest) : (whole ++ rest).takeWhile Decimal.isDigit = whole := by
  rw [List.takeWhile_append_of_pos digits]
  cases rest with
  | nil => simp
  | cons c rest => simp [(ends c rfl).1]

theorem dropWhile_digits {whole rest : List Char} (digits : ∀ c ∈ whole, Decimal.isDigit c = true)
    (ends : Ends rest) : (whole ++ rest).dropWhile Decimal.isDigit = rest := by
  rw [List.dropWhile_append_of_pos digits]
  cases rest with
  | nil => simp
  | cons c rest => simp [(ends c rfl).1]

/-- Digits are taken to the last while their number fits. -/
theorem extend_of_le {digits : List Char} {start : Nat}
    (fits : Decimal.value digits start ≤ largest) :
    extend start digits = (Decimal.value digits start, []) := by
  induction digits generalizing start with
  | nil => rfl
  | cons c rest ih =>
    have shorter : start * 10 + Decimal.digitValue c ≤ largest :=
      Nat.le_trans (Decimal.le_value rest _) fits
    rw [extend, if_pos shorter, ih fits]
    rfl

theorem readMagnitude_digits {negative : Bool} {n : Nat} {rest : List Char} (ends : Ends rest) :
    readMagnitude negative (Decimal.digits n ++ rest) =
      finish ⟨negative, Decimal.digits n, [], 0, true⟩ rest := by
  have digits : ∀ c ∈ Decimal.digits n, Decimal.isDigit c = true :=
    fun _ => Decimal.isDigit_of_mem_digits
  have led : ¬((Decimal.digits n).head? = some '0' ∧ 1 < (Decimal.digits n).length) := by
    rintro ⟨zero, long⟩
    rcases Nat.eq_zero_or_pos n with rfl | positive
    · rw [Decimal.length_digits_zero] at long
      omega
    · exact Decimal.head?_digits_ne_zero positive zero
  obtain ⟨c, more, shape, -⟩ := Decimal.digits_inhabited n
  have inhabited : (Decimal.digits n).isEmpty = false := by rw [shape]; rfl
  have exponent (numeral : Numeral) : readExponent numeral rest = finish numeral rest := by
    unfold readExponent
    split
    · exact absurd rfl (ends _ rfl).2.2.1
    · exact absurd rfl (ends _ rfl).2.2.2
    · rfl
  unfold readMagnitude
  simp only [takeWhile_digits digits ends, dropWhile_digits digits ends, inhabited]
  rw [if_neg (by simp), if_neg (by simpa using led)]
  split
  · exact absurd rfl (ends _ rfl).2.1
  · exact exponent _

theorem value?_digits {negative : Bool} {n : Nat}
    (fits : if negative then 0 < n ∧ n ≤ Nat.pow 2 63 else n < Nat.pow 2 64) :
    value? ⟨negative, Decimal.digits n, [], 0, true⟩ =
      some (.integer (if negative then -n else n)) := by
  have taken : extend 0 (Decimal.digits n) = (n, []) := by
    rw [extend_of_le] <;> rw [Decimal.value_digits]
    show n ≤ Nat.pow 2 64 - 1
    have wider : Nat.pow 2 63 < Nat.pow 2 64 := by decide
    split at fits <;> omega
  unfold value?
  simp only [taken, extend]
  cases negative with
  | false => simp
  | true =>
    have whole : ¬(n = 0 ∨ Nat.pow 2 63 < n) := by
      simp only [if_true] at fits
      omega
    simp [whole]

/-- An integer of 64 bits, with or without sign. -/
def Short (value : Int) : Prop := -Nat.pow 2 63 ≤ value ∧ value < Nat.pow 2 64

instance (value : Int) : Decidable (Short value) := inferInstanceAs (Decidable (_ ∧ _))

theorem read_signedText {value : Int} (short : Short value) {rest : List Char} (ends : Ends rest) :
    read ((Decimal.signedText value).toList ++ rest) = (.number (.integer value), some rest) := by
  obtain ⟨low, high⟩ := short
  cases value with
  | ofNat n =>
    have unsigned : ∀ more, (Decimal.digits n ++ rest) ≠ '-' :: more := by
      obtain ⟨c, digits, shape, digit⟩ := Decimal.digits_inhabited n
      rintro more same
      rw [shape] at same
      obtain ⟨rfl, -⟩ := List.cons.inj same
      exact absurd digit (by decide)
    have fits : n < Nat.pow 2 64 := by
      simp only [Int.ofNat_eq_natCast] at high
      omega
    simp only [Decimal.signedText, Decimal.text, String.toList_ofList]
    unfold read
    split
    · rename_i more same
      exact absurd same (unsigned more)
    · rw [readMagnitude_digits ends, finish, value?_digits (by simpa using fits)]
      rfl
  | negSucc n =>
    have fits : n + 1 ≤ Nat.pow 2 63 := by
      rw [Int.negSucc_eq] at low
      omega
    simp only [Decimal.signedText, Decimal.text, String.toList_append, String.toList_ofList]
    show readMagnitude true (Decimal.digits (n + 1) ++ rest) = _
    rw [readMagnitude_digits ends, finish, value?_digits (by simpa using fits)]
    rfl

end Numeral


namespace Quoted

/-- What a printed character is taken for: the control characters without a short form are
units, and all others stand for themselves. -/
def printed (c : Char) : Piece :=
  if c.toNat < 32 ∧ c ∉ ['\n', '\r', '\t', '\x08', '\x0c'] then .unit c.toNat else .character c

theorem hexValue?_hexDigit {digit : Nat} (small : digit < 16) :
    hexValue? (Text.hexDigit digit) = some digit := by
  have all : ∀ d : Fin 16, hexValue? (Text.hexDigit d) = some d.val := by decide
  exact all ⟨digit, small⟩

theorem unit?_unitEscape {unit : Nat} (fits : unit < 65536) :
    unit? (Text.hexDigit (unit / 4096 % 16)) (Text.hexDigit (unit / 256 % 16))
      (Text.hexDigit (unit / 16 % 16)) (Text.hexDigit (unit % 16)) = some unit := by
  have digit (n : Nat) : hexValue? (Text.hexDigit (n % 16)) = some (n % 16) :=
    hexValue?_hexDigit (Nat.mod_lt n (by decide))
  have whole : (unit / 4096 % 16 * 16 + unit / 256 % 16) * 256 +
      (unit / 16 % 16 * 16 + unit % 16) = unit := by omega
  simp [unit?, digit, whole]

/-- A character that is neither a quote nor a backslash, nor a control character, stands for
itself. -/
theorem scan_plain {c : Char} (quote : c ≠ '"') (backslash : c ≠ '\\') (visible : ¬c.toNat < 32)
    (rest : List Char) : scan (c :: rest) = (scan rest).prepend (.character c) := by
  have head {other : Char} {more : List Char} (same : c :: rest = other :: more) : c = other :=
    (List.cons.inj same).1
  rw [scan.eq_def]
  split
  case h_1 same => cases same
  case h_2 same => exact absurd (head same) quote
  case h_3 same => exact absurd (head same) backslash
  case h_4 same => exact absurd (head same) backslash
  case h_5 same => exact absurd (head same) backslash
  case h_6 same => exact absurd (head same) backslash
  case h_7 same =>
    obtain ⟨rfl, rfl⟩ := List.cons.inj same
    rw [if_neg visible]

theorem scan_character (c : Char) (rest : List Char) :
    scan (Printer.character c ++ rest) = (scan rest).prepend (printed c) := by
  by_cases short : c ∈ ['"', '\\', '\n', '\r', '\t', '\x08', '\x0c']
  · simp only [List.mem_cons, List.not_mem_nil, or_false] at short
    rcases short with rfl | rfl | rfl | rfl | rfl | rfl | rfl <;> rfl
  · simp only [List.mem_cons, List.not_mem_nil, or_false, not_or] at short
    obtain ⟨quote, backslash, newline, carriage, tab, back, feed⟩ := short
    by_cases small : c.toNat < 32
    · have unit := unit?_unitEscape (Nat.lt_trans small (by decide))
      simp [Printer.character, printed, quote, backslash, newline, carriage, tab, back, feed, small,
        Text.unitEscape, scan, unit]
    · simp [Printer.character, printed, quote, backslash, newline, carriage, tab, back, feed, small,
        scan_plain]

theorem scan_string (text rest : List Char) :
    scan (text.flatMap Printer.character ++ '"' :: rest) = ⟨text.map printed, .closed, rest⟩ := by
  induction text with
  | nil => rfl
  | cons c text ih =>
    rw [List.flatMap_cons, List.append_assoc, scan_character, ih]
    rfl

theorem join_pieces {piece : Char → Piece} (faithful : ∀ c,
    piece c = .character c ∨ (piece c = .unit c.toNat ∧ c.toNat < 0xD800)) (text : List Char) :
    join .closed (text.map piece) = .ok text := by
  induction text with
  | nil => rfl
  | cons c text ih =>
    rw [List.map_cons]
    rcases faithful c with character | ⟨unit, low⟩
    · rw [character]
      simp [join, ih, bind, Except.bind, pure, Except.pure]
    · have upper : isUpperHalf c.toNat = false := by simp [isUpperHalf]; omega
      have lower : isLowerHalf c.toNat = false := by simp [isLowerHalf]; omega
      rw [unit, join.eq_def]
      simp [upper, lower, ih, bind, Except.bind, pure, Except.pure]

theorem join_printed (text : List Char) : join .closed (text.map printed) = .ok text := by
  refine join_pieces (fun c => ?_) text
  unfold printed
  split
  · rename_i control
    exact .inr ⟨rfl, by omega⟩
  · exact .inl rfl

/-- A printed string reads as its text, up to the quote that closes it. -/
theorem read_string (text : String) (rest : List Char) :
    read (text.toList.flatMap Printer.character ++ '"' :: rest) = (.ok text, some rest) := by
  simp [read, scan_string, join_printed]

end Quoted

end Json

end GameBundle
