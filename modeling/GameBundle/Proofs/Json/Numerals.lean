import GameBundle.Proofs.Json.Scalar
import Mathlib.Data.List.TakeWhile

/-!
# Spellings of numbers

A number is spelled by a sign, a whole part without leading zeros, and possibly a fraction and an
exponent. Where nothing behind them carries a numeral on, it is read as a number exactly when
its characters are such a spelling.
-/

namespace GameBundle.Json

structure Digits where
  chars : List Char
  digits : ∀ c ∈ chars, Decimal.isDigit c = true
  inhabited : chars ≠ []

structure Exponent where
  letter : Char
  announces : letter = 'e' ∨ letter = 'E'
  sign : List Char
  isSign : sign = [] ∨ sign = ['-'] ∨ sign = ['+']
  size : Digits

namespace Exponent

def spelling (exponent : Exponent) : List Char :=
  exponent.letter :: (exponent.sign ++ exponent.size.chars)

def value (exponent : Exponent) : Int :=
  let size : Int := Decimal.value exponent.size.chars 0
  if exponent.sign = ['-'] then -size else size

end Exponent

structure NumeralParts where
  negative : Bool
  whole : Digits
  unled : ¬(whole.chars.head? = some '0' ∧ 1 < whole.chars.length)
  fraction : Option Digits
  exponent : Option Exponent

namespace NumeralParts

def fractionSpelling (parts : NumeralParts) : List Char :=
  match parts.fraction with
  | some digits => '.' :: digits.chars
  | none => []

def exponentSpelling (parts : NumeralParts) : List Char :=
  match parts.exponent with
  | some exponent => exponent.spelling
  | none => []

def spelling (parts : NumeralParts) : List Char :=
  (if parts.negative then ['-'] else []) ++
    (parts.whole.chars ++ (parts.fractionSpelling ++ parts.exponentSpelling))

def numeral (parts : NumeralParts) : Numeral where
  negative := parts.negative
  whole := parts.whole.chars
  fraction := (parts.fraction.map Digits.chars).getD []
  exponent := (parts.exponent.map Exponent.value).getD 0
  isInteger := parts.fraction.isNone && parts.exponent.isNone

end NumeralParts

structure NumberSpelling where
  parts : NumeralParts
  value : Number
  gives : parts.numeral.value? = some value

def NumberSpelling.spelling (number : NumberSpelling) : List Char := number.parts.spelling

namespace Numeral

/-- No digit stands at the start of a text. -/
def Stops (text : List Char) : Prop := ∀ c ∈ text.head?, Decimal.isDigit c = false

theorem Ends.stops {rest : List Char} (ends : Ends rest) : Stops rest :=
  fun c first => (ends c first).1

theorem stops_cons {c : Char} {rest : List Char} (other : Decimal.isDigit c = false) :
    Stops (c :: rest) := by
  simpa [Stops] using other

theorem takeWhile_run (run : Digits) {rest : List Char} (stops : Stops rest) :
    (run.chars ++ rest).takeWhile Decimal.isDigit = run.chars := by
  rw [List.takeWhile_append_of_pos run.digits]
  cases rest with
  | nil => simp
  | cons c rest => simp [stops c rfl]

theorem dropWhile_run (run : Digits) {rest : List Char} (stops : Stops rest) :
    (run.chars ++ rest).dropWhile Decimal.isDigit = rest := by
  rw [List.dropWhile_append_of_pos run.digits]
  cases rest with
  | nil => simp
  | cons c rest => simp [stops c rfl]

theorem isEmpty_run (run : Digits) : run.chars.isEmpty = false := by
  simpa using run.inhabited

def runOf (text : List Char) (inhabited : (text.takeWhile Decimal.isDigit).isEmpty = false) :
    Digits where
  chars := text.takeWhile Decimal.isDigit
  digits := fun _ member => List.mem_takeWhile_imp member
  inhabited := by simpa using inhabited

@[simp] theorem chars_runOf {text : List Char}
    (inhabited : (text.takeWhile Decimal.isDigit).isEmpty = false) :
    (runOf text inhabited).chars = text.takeWhile Decimal.isDigit := rfl

theorem run_ne_cons (run : Digits) {c : Char} (other : Decimal.isDigit c = false)
    (rest more : List Char) : run.chars ++ rest ≠ c :: more := by
  rcases shape : run.chars with _ | ⟨first, behind⟩
  · exact absurd shape run.inhabited
  · have digit : Decimal.isDigit first = true := run.digits first (by simp [shape])
    rintro same
    rw [(List.cons.inj same).1, other] at digit
    cases digit

variable {rest : List Char}

theorem exponent?_spelling (exponent : Exponent) (stops : Stops rest) :
    exponent? (exponent.sign ++ (exponent.size.chars ++ rest)) = .ok (exponent.value, rest) := by
  have run := takeWhile_run exponent.size stops
  have behind := dropWhile_run exponent.size stops
  have inhabited := isEmpty_run exponent.size
  rcases exponent.isSign with sign | sign | sign
  · have bare : ∀ c more, Decimal.isDigit c = false → exponent.size.chars ++ rest ≠ c :: more :=
      fun c more other => run_ne_cons _ other _ _
    rw [sign, List.nil_append, Exponent.value, sign]
    unfold exponent?
    split
    rename_i same
    split at same
    · rename_i shape
      exact absurd shape (bare _ _ rfl)
    · rename_i shape
      exact absurd shape (bare _ _ rfl)
    · cases same
      simp [run, behind, inhabited]
  · simp [exponent?, Exponent.value, sign, run, behind, inhabited]
  · simp [exponent?, Exponent.value, sign, run, behind, inhabited]

theorem readExponent_spelling (parts : NumeralParts) (ends : Ends rest) :
    readExponent ⟨parts.negative, parts.whole.chars, (parts.fraction.map Digits.chars).getD [], 0,
        parts.fraction.isNone⟩ (parts.exponentSpelling ++ rest) =
      finish parts.numeral rest := by
  rcases shape : parts.exponent with _ | exponent
  · have none : parts.exponentSpelling = [] := by simp [NumeralParts.exponentSpelling, shape]
    rw [none, List.nil_append]
    unfold readExponent
    split
    · exact absurd rfl (ends _ rfl).2.2.1
    · exact absurd rfl (ends _ rfl).2.2.2
    · simp [NumeralParts.numeral, shape]
  · have read := exponent?_spelling exponent ends.stops
    have found : parts.exponentSpelling = exponent.spelling := by
      simp [NumeralParts.exponentSpelling, shape]
    rw [found, Exponent.spelling, List.cons_append, List.append_assoc]
    rcases exponent.announces with letter | letter <;>
      simp [readExponent, letter, read, NumeralParts.numeral, shape]

/-- Neither a digit nor a point comes first where an exponent may stand. -/
theorem head_exponentSpelling (parts : NumeralParts) (ends : Ends rest) :
    ∀ c ∈ (parts.exponentSpelling ++ rest).head?, Decimal.isDigit c = false ∧ c ≠ '.' := by
  unfold NumeralParts.exponentSpelling
  split
  · rename_i exponent _
    rcases exponent.announces with letter | letter <;>
      simp [Exponent.spelling, letter, Decimal.isDigit]
  · exact fun c first => ⟨(ends c first).1, (ends c first).2.1⟩

theorem readMagnitude_spelling (parts : NumeralParts) (ends : Ends rest) :
    readMagnitude parts.negative
        (parts.whole.chars ++ (parts.fractionSpelling ++ (parts.exponentSpelling ++ rest))) =
      finish parts.numeral rest := by
  have later := readExponent_spelling parts ends
  have stops : Stops (parts.exponentSpelling ++ rest) :=
    fun c first => (head_exponentSpelling parts ends c first).1
  have inhabited := isEmpty_run parts.whole
  have unled : ¬((parts.whole.chars.head? = some '0' && 1 < parts.whole.chars.length) = true) := by
    simpa using parts.unled
  rcases shape : parts.fraction with _ | fraction
  · rw [shape] at later
    have none : parts.fractionSpelling = [] := by simp [NumeralParts.fractionSpelling, shape]
    rw [none, List.nil_append]
    unfold readMagnitude
    simp only [takeWhile_run parts.whole stops, dropWhile_run parts.whole stops, inhabited]
    rw [if_neg (by simp), if_neg unled]
    split
    · rename_i point
      have apart := (head_exponentSpelling parts ends '.' (by rw [point]; rfl)).2
      exact absurd rfl apart
    · exact later
  · rw [shape] at later
    have found : parts.fractionSpelling = '.' :: fraction.chars := by
      simp [NumeralParts.fractionSpelling, shape]
    have point (more : List Char) : Stops ('.' :: more) := stops_cons rfl
    rw [found, List.cons_append]
    unfold readMagnitude
    simp only [takeWhile_run parts.whole (point _), dropWhile_run parts.whole (point _), inhabited,
      takeWhile_run fraction stops, dropWhile_run fraction stops, isEmpty_run fraction]
    rw [if_neg (by simp), if_neg unled, if_neg (by simp)]
    exact later

theorem read_spelling (number : NumberSpelling) (ends : Ends rest) :
    read (number.spelling ++ rest) = (.number number.value, some rest) := by
  have done : finish number.parts.numeral rest = (.number number.value, some rest) := by
    rw [finish, number.gives]
  have magnitude := readMagnitude_spelling number.parts ends
  rw [done] at magnitude
  rw [NumberSpelling.spelling, NumeralParts.spelling]
  cases sign : number.parts.negative with
  | true =>
    rw [sign] at magnitude
    simpa [read] using magnitude
  | false =>
    rw [sign] at magnitude
    simp only [List.append_assoc, Bool.false_eq_true]
    unfold read
    split
    · rename_i same
      exact absurd same (run_ne_cons _ rfl _ _)
    · exact magnitude

theorem exponent?_eq_ok {text : List Char} {value : Int} (done : exponent? text = .ok (value, rest))
    {letter : Char} (announces : letter = 'e' ∨ letter = 'E') :
    ∃ exponent : Exponent, letter :: text = exponent.spelling ++ rest ∧ exponent.value = value := by
  have found {sign digits : List Char} (isSign : sign = [] ∨ sign = ['-'] ∨ sign = ['+'])
      (whole : text = sign ++ digits)
      (ran : (if (digits.takeWhile Decimal.isDigit).isEmpty then
          Except.error (digits.dropWhile Decimal.isDigit)
        else .ok (if sign = ['-'] then -(Decimal.value (digits.takeWhile Decimal.isDigit) 0 : Int)
          else Decimal.value (digits.takeWhile Decimal.isDigit) 0,
            digits.dropWhile Decimal.isDigit)) = .ok (value, rest)) :
      ∃ exponent : Exponent,
        letter :: text = exponent.spelling ++ rest ∧ exponent.value = value := by
    split at ran
    · cases ran
    · rename_i inhabited
      rw [Bool.not_eq_true] at inhabited
      cases ran
      refine ⟨⟨letter, announces, sign, isSign, runOf digits inhabited⟩, ?_, rfl⟩
      rw [Exponent.spelling, whole, List.cons_append, List.append_assoc, chars_runOf,
        List.takeWhile_append_dropWhile]
  unfold exponent? at done
  split at done
  rename_i same
  split at same
  · cases same
    exact found (.inr (.inl rfl)) rfl done
  · cases same
    exact found (.inr (.inr rfl)) rfl done
  · cases same
    exact found (.inl rfl) rfl done

theorem finish_eq_number {numeral : Numeral} {text : List Char} {value : Number}
    (done : finish numeral text = (.number value, some rest)) :
    numeral.value? = some value ∧ text = rest := by
  unfold finish at done
  split at done
  · rename_i given
    cases done
    exact ⟨given, rfl⟩
  · cases done

theorem readExponent_eq_number {numeral : Numeral} {text : List Char} {value : Number}
    (done : readExponent numeral text = (.number value, some rest)) :
    ∃ exponent : Option Exponent,
      text = (exponent.map Exponent.spelling).getD [] ++ rest ∧
      value? { numeral with
        exponent := (exponent.map Exponent.value).getD numeral.exponent
        isInteger := numeral.isInteger && exponent.isNone } = some value := by
  have announced {letter : Char} {more behind : List Char} {power : Int}
      (announces : letter = 'e' ∨ letter = 'E') (read : exponent? more = .ok (power, behind))
      (ran : finish { numeral with exponent := power, isInteger := false } behind =
        (.number value, some rest)) :
      ∃ exponent : Option Exponent,
        letter :: more = (exponent.map Exponent.spelling).getD [] ++ rest ∧
        value? { numeral with
          exponent := (exponent.map Exponent.value).getD numeral.exponent
          isInteger := numeral.isInteger && exponent.isNone } = some value := by
    obtain ⟨given, rfl⟩ := finish_eq_number ran
    obtain ⟨exponent, whole, rfl⟩ := exponent?_eq_ok read announces
    exact ⟨some exponent, whole, by simpa using given⟩
  unfold readExponent at done
  split at done
  · split at done
    · rename_i read
      exact announced (.inl rfl) read done
    · cases done
  · split at done
    · rename_i read
      exact announced (.inr rfl) read done
    · cases done
  · obtain ⟨given, rfl⟩ := finish_eq_number done
    exact ⟨none, rfl, by simpa using given⟩

theorem readMagnitude_eq_number {negative : Bool} {text : List Char} {value : Number}
    (done : readMagnitude negative text = (.number value, some rest)) :
    ∃ parts : NumeralParts, parts.negative = negative ∧ parts.numeral.value? = some value ∧
      text = parts.whole.chars ++ (parts.fractionSpelling ++ parts.exponentSpelling) ++ rest := by
  unfold readMagnitude at done
  dsimp only at done
  split at done
  · cases done
  · rename_i inhabited
    rw [Bool.not_eq_true] at inhabited
    split at done
    · cases done
    · rename_i unled
      have unled : ¬((runOf text inhabited).chars.head? = some '0' ∧
          1 < (runOf text inhabited).chars.length) := by
        simpa using unled
      have front := (@List.takeWhile_append_dropWhile _ Decimal.isDigit text).symm
      split at done
      · rename_i behind point
        split at done
        · cases done
        · rename_i some
          rw [Bool.not_eq_true] at some
          obtain ⟨exponent, left, given⟩ := readExponent_eq_number done
          refine ⟨⟨negative, runOf text inhabited, unled, runOf behind some, exponent⟩, rfl, ?_, ?_⟩
          · cases exponent <;> simpa [NumeralParts.numeral] using given
          · have fraction := (@List.takeWhile_append_dropWhile _ Decimal.isDigit behind).symm
            rw [left] at fraction
            rw [point, fraction] at front
            cases exponent <;>
              simpa [NumeralParts.fractionSpelling, NumeralParts.exponentSpelling] using front
      · obtain ⟨exponent, left, given⟩ := readExponent_eq_number done
        refine ⟨⟨negative, runOf text inhabited, unled, none, exponent⟩, rfl, ?_, ?_⟩
        · cases exponent <;> simpa [NumeralParts.numeral] using given
        · rw [left] at front
          cases exponent <;>
            simpa [NumeralParts.fractionSpelling, NumeralParts.exponentSpelling] using front

theorem read_eq_number {text : List Char} {value : Number}
    (done : read text = (.number value, some rest)) :
    ∃ number : NumberSpelling, text = number.spelling ++ rest ∧ number.value = value := by
  unfold read at done
  split at done
  · obtain ⟨parts, negative, given, whole⟩ := readMagnitude_eq_number done
    refine ⟨⟨parts, value, given⟩, ?_, rfl⟩
    simp [NumberSpelling.spelling, NumeralParts.spelling, negative, whole]
  · obtain ⟨parts, negative, given, whole⟩ := readMagnitude_eq_number done
    refine ⟨⟨parts, value, given⟩, ?_, rfl⟩
    simp [NumberSpelling.spelling, NumeralParts.spelling, negative, whole]

end Numeral

end GameBundle.Json
