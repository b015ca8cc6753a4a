import GameBundle.Proofs.Json.Scalar
import GameBundle.Proofs.Json.Stable

/-!
# Spellings of strings

A string is spelled letter by letter. A letter is a character that stands for itself, a short
escape, an escape of one unit, or two escapes of the halves of a pair. What follows an opening
quote is read as a text exactly when it spells the text in letters, up to a closing quote.
-/

namespace GameBundle.Json.Quoted

structure UnitEscape where
  a : Char
  b : Char
  c : Char
  d : Char
  unit : Nat
  gives : unit? a b c d = some unit

def UnitEscape.spelling (escape : UnitEscape) : List Char :=
  ['\\', 'u', escape.a, escape.b, escape.c, escape.d]

/-- A character that stands for itself in a string. -/
abbrev IsPlain (c : Char) : Prop := c ≠ '"' ∧ c ≠ '\\' ∧ ¬c.toNat < 32

/-- A character of a string as a document spells it. -/
inductive Letter where
  | plain (c : Char) (apart : IsPlain c)
  | short (letter c : Char) (names : shortEscape? letter = some c)
  | unit (escape : UnitEscape)
      (whole : isLowerHalf escape.unit = false ∧ isUpperHalf escape.unit = false)
  | pair (upper lower : UnitEscape)
      (halves : isUpperHalf upper.unit = true ∧ isLowerHalf lower.unit = true)

namespace Letter

def spelling : Letter → List Char
  | .plain c _ => [c]
  | .short letter _ _ => ['\\', letter]
  | .unit escape _ => escape.spelling
  | .pair upper lower _ => upper.spelling ++ lower.spelling

def value : Letter → Char
  | .plain c _ => c
  | .short _ c _ => c
  | .unit escape _ => Char.ofNat escape.unit
  | .pair upper lower _ =>
    Char.ofNat ((upper.unit - 0xD800) * 1024 + (lower.unit - 0xDC00) + 0x10000)

def pieces : Letter → List Piece
  | .plain c _ => [.character c]
  | .short _ c _ => [.character c]
  | .unit escape _ => [.unit escape.unit]
  | .pair upper lower _ => [.unit upper.unit, .unit lower.unit]

end Letter

def spelling (letters : List Letter) : List Char := letters.flatMap Letter.spelling

def textOf (letters : List Letter) : String := String.ofList (letters.map Letter.value)

/-- A string from quote to quote. -/
def literal (letters : List Letter) : List Char := '"' :: (spelling letters ++ ['"'])

@[simp] theorem spelling_cons (letter : Letter) (letters : List Letter) :
    spelling (letter :: letters) = letter.spelling ++ spelling letters := rfl

@[simp] theorem toList_textOf (letters : List Letter) :
    (textOf letters).toList = letters.map Letter.value := by
  simp [textOf]

@[simp] theorem length_literal (letters : List Letter) :
    (literal letters).length = (spelling letters).length + 2 := by
  simp [literal]

/-- Characters that stand for themselves, with all others left out. -/
def plainly (text : List Char) : List Letter :=
  text.filterMap fun c => if apart : IsPlain c then some (.plain c apart) else none

theorem plainly_cons {c : Char} (apart : IsPlain c) (text : List Char) :
    plainly (c :: text) = .plain c apart :: plainly text := by
  rw [plainly, List.filterMap_cons_some (dif_pos apart), plainly]

theorem spelling_plainly {text : List Char} (plain : ∀ c ∈ text, IsPlain c) :
    spelling (plainly text) = text := by
  induction text with
  | nil => rfl
  | cons c text ih =>
    rw [List.forall_mem_cons] at plain
    rw [plainly_cons plain.1, spelling_cons, ih plain.2, Letter.spelling, List.singleton_append]

theorem map_value_plainly {text : List Char} (plain : ∀ c ∈ text, IsPlain c) :
    (plainly text).map Letter.value = text := by
  induction text with
  | nil => rfl
  | cons c text ih =>
    rw [List.forall_mem_cons] at plain
    rw [plainly_cons plain.1, List.map_cons, ih plain.2, Letter.value]

theorem UnitEscape.scan (escape : UnitEscape) (rest : List Char) :
    scan (escape.spelling ++ rest) = (Quoted.scan rest).prepend (.unit escape.unit) := by
  simp [spelling, Quoted.scan, escape.gives]

/-- A letter behind a backslash names at most one character, and the letter of units none. -/
theorem scan_short {letter c : Char} (names : shortEscape? letter = some c) (rest : List Char) :
    scan ('\\' :: letter :: rest) = (scan rest).prepend (.character c) := by
  have other : letter ≠ 'u' := by
    rintro rfl
    cases names
  rw [scan.eq_def]
  simp [names, other]

theorem Letter.scan (letter : Letter) (rest : List Char) :
    scan (letter.spelling ++ rest) =
      ⟨letter.pieces ++ (Quoted.scan rest).pieces, (Quoted.scan rest).ending,
        (Quoted.scan rest).rest⟩ := by
  cases letter with
  | plain c apart => exact scan_plain apart.1 apart.2.1 apart.2.2 rest
  | short letter c names => exact scan_short names rest
  | unit escape whole => exact escape.scan rest
  | pair upper lower halves =>
    rw [spelling, List.append_assoc, upper.scan, lower.scan]
    rfl

theorem Letter.join (letter : Letter) {pieces : List Piece} {text : List Char}
    (joined : join .closed pieces = .ok text) :
    join .closed (letter.pieces ++ pieces) = .ok (letter.value :: text) := by
  cases letter with
  | plain c apart =>
    simp [Letter.pieces, Quoted.join, joined, value, bind, Except.bind, pure, Except.pure]
  | short letter c names =>
    simp [Letter.pieces, Quoted.join, joined, value, bind, Except.bind, pure, Except.pure]
  | unit escape whole =>
    rw [Letter.pieces, List.singleton_append, Quoted.join.eq_def]
    simp [whole, joined, value, bind, Except.bind, pure, Except.pure]
  | pair upper lower halves =>
    have above : isLowerHalf upper.unit = false := by
      have bounds := halves.1
      simp [isUpperHalf, isLowerHalf] at bounds ⊢
      omega
    simp [Letter.pieces, Quoted.join, above, halves, joined, value, bind, Except.bind, pure,
      Except.pure]

theorem scan_letters (letters : List Letter) (rest : List Char) :
    scan (spelling letters ++ '"' :: rest) = ⟨letters.flatMap Letter.pieces, .closed, rest⟩ := by
  induction letters with
  | nil => rfl
  | cons letter letters ih =>
    rw [spelling_cons, List.append_assoc, letter.scan, ih, List.flatMap_cons]

theorem join_letters (letters : List Letter) :
    join .closed (letters.flatMap Letter.pieces) = .ok (letters.map Letter.value) := by
  induction letters with
  | nil => rfl
  | cons letter letters ih =>
    rw [List.flatMap_cons, List.map_cons]
    exact letter.join ih

/-- Letters read as the text that they spell, whatever follows the quote behind them. -/
theorem read_letters (letters : List Letter) (rest : List Char) :
    read (spelling letters ++ '"' :: rest) = (.ok (textOf letters), some rest) := by
  simp [read, scan_letters, join_letters, textOf]

/-- The characters that a piece of a string is taken from. -/
inductive Marks : List Char → Piece → Prop
  | plain {c : Char} (apart : IsPlain c) : Marks [c] (.character c)
  | short {letter c : Char} (names : shortEscape? letter = some c) :
      Marks ['\\', letter] (.character c)
  | unit (escape : UnitEscape) : Marks escape.spelling (.unit escape.unit)

/-- A closed string without pieces is closed at once, and pieces are found one by one. -/
theorem scan_eq_closed {text rest : List Char} {pieces : List Piece}
    (scanned : scan text = ⟨pieces, .closed, rest⟩) :
    (pieces = [] ∧ text = '"' :: rest) ∨
      ∃ mark piece behind later, text = mark ++ behind ∧ pieces = piece :: later ∧
        Marks mark piece ∧ scan behind = ⟨later, .closed, rest⟩ := by
  have step {mark : List Char} {piece : Piece} {behind : List Char} (marks : Marks mark piece)
      (whole : text = mark ++ behind)
      (prepended : (scan behind).prepend piece = ⟨pieces, .closed, rest⟩) :
      ∃ mark piece behind later, text = mark ++ behind ∧ pieces = piece :: later ∧
        Marks mark piece ∧ scan behind = ⟨later, .closed, rest⟩ := by
    rcases found : scan behind with ⟨later, ending, left⟩
    rw [found, Scan.prepend, Scan.mk.injEq] at prepended
    obtain ⟨front, closed, same⟩ := prepended
    exact ⟨mark, piece, behind, later, whole, front.symm, marks, by rw [found, ← closed, ← same]⟩
  rw [scan.eq_def] at scanned
  split at scanned
  case h_1 => cases scanned
  case h_2 behind =>
    injection scanned with none _ same
    exact .inl ⟨none.symm, by rw [same]⟩
  case h_3 => cases scanned
  case h_4 a b c d behind =>
    split at scanned
    · rename_i unit gives
      exact .inr (step (.unit ⟨a, b, c, d, unit, gives⟩) rfl scanned)
    · split at scanned <;> cases scanned
  case h_5 =>
    split at scanned <;> cases scanned
  case h_6 letter behind _ _ =>
    split at scanned
    · rename_i c names
      exact .inr (step (.short names) rfl scanned)
    · cases scanned
  case h_7 c behind quote last digits unit short =>
    split at scanned
    · cases scanned
    · rename_i visible
      have backslash : c ≠ '\\' := by
        intro same
        cases behind with
        | nil => exact last same rfl
        | cons letter more => exact short letter more same rfl
      exact .inr (step (.plain ⟨quote, backslash, visible⟩) rfl scanned)

theorem Marks.exists_escape {mark : List Char} {unit : Nat} (marks : Marks mark (.unit unit)) :
    ∃ escape : UnitEscape, mark = escape.spelling ∧ unit = escape.unit := by
  cases marks with
  | unit escape => exact ⟨escape, rfl, rfl⟩

theorem Marks.exists_letter {mark : List Char} {c : Char} (marks : Marks mark (.character c)) :
    ∃ letter : Letter, mark = letter.spelling ∧ c = letter.value := by
  cases marks with
  | plain apart => exact ⟨.plain c apart, rfl, rfl⟩
  | short names => exact ⟨.short _ c names, rfl, rfl⟩

theorem join_unit_eq_ok {unit : Nat} {pieces : List Piece} {characters : List Char}
    (joined : join .closed (.unit unit :: pieces) = .ok characters) :
    (isLowerHalf unit = false ∧ isUpperHalf unit = false ∧
      ∃ later, join .closed pieces = .ok later ∧ characters = Char.ofNat unit :: later) ∨
    ∃ lower rest, pieces = .unit lower :: rest ∧ isUpperHalf unit = true ∧
      isLowerHalf lower = true ∧ ∃ later, join .closed rest = .ok later ∧
        characters = Char.ofNat ((unit - 0xD800) * 1024 + (lower - 0xDC00) + 0x10000) :: later := by
  rw [join.eq_def] at joined
  dsimp only at joined
  split at joined
  · cases joined
  · rename_i above
    split at joined
    · rename_i upper
      split at joined
      · cases joined
      · cases joined
      · rename_i lower rest
        split at joined
        · rename_i half
          obtain ⟨later, first, last⟩ := bind_eq_ok joined
          cases last
          exact .inr ⟨lower, rest, rfl, upper, half, later, first, rfl⟩
        · cases joined
    · rename_i below
      obtain ⟨later, first, last⟩ := bind_eq_ok joined
      cases last
      exact .inl ⟨by simpa using above, by simpa using below, later, first, rfl⟩

theorem scan_eq_cons {text rest : List Char} {piece : Piece} {pieces : List Piece}
    (scanned : scan text = ⟨piece :: pieces, .closed, rest⟩) :
    ∃ mark behind, text = mark ++ behind ∧ Marks mark piece ∧
      scan behind = ⟨pieces, .closed, rest⟩ := by
  rcases scan_eq_closed scanned with ⟨none, -⟩ | ⟨mark, _, behind, _, whole, same, marks, later⟩
  · cases none
  · obtain ⟨rfl, rfl⟩ := List.cons.inj same
    exact ⟨mark, behind, whole, marks, later⟩

/-- Pieces that are joined come from letters. The recursion takes a letter at a time, and with it
one piece or two. -/
theorem exists_letters : ∀ {pieces : List Piece} {text rest characters : List Char},
    scan text = ⟨pieces, .closed, rest⟩ → join .closed pieces = .ok characters →
      ∃ letters, text = spelling letters ++ '"' :: rest ∧ letters.map Letter.value = characters
  | [], text, rest, characters, scanned, joined => by
    rcases scan_eq_closed scanned with ⟨-, rfl⟩ | ⟨_, _, _, _, _, none, _⟩
    · cases joined
      exact ⟨[], rfl, rfl⟩
    · cases none
  | .character c :: pieces, text, rest, characters, scanned, joined => by
    obtain ⟨mark, behind, rfl, marks, inner⟩ := scan_eq_cons scanned
    obtain ⟨letter, rfl, rfl⟩ := marks.exists_letter
    obtain ⟨later, held, ended⟩ := bind_eq_ok joined
    cases ended
    obtain ⟨letters, rfl, rfl⟩ := exists_letters inner held
    exact ⟨letter :: letters, by simp, rfl⟩
  | .unit unit :: pieces, text, rest, characters, scanned, joined => by
    obtain ⟨mark, behind, rfl, marks, inner⟩ := scan_eq_cons scanned
    obtain ⟨escape, rfl, rfl⟩ := marks.exists_escape
    rcases join_unit_eq_ok joined with ⟨above, below, later, held, rfl⟩ |
        ⟨lower, pieces, rfl, upper, half, later, held, rfl⟩
    · obtain ⟨letters, rfl, rfl⟩ := exists_letters inner held
      exact ⟨.unit escape ⟨above, below⟩ :: letters, by simp [Letter.spelling], rfl⟩
    · obtain ⟨next, last, rfl, found, innermost⟩ := scan_eq_cons inner
      obtain ⟨second, rfl, rfl⟩ := found.exists_escape
      obtain ⟨letters, rfl, rfl⟩ := exists_letters innermost held
      exact ⟨.pair escape second ⟨upper, half⟩ :: letters, by simp [Letter.spelling], rfl⟩

theorem closed_of_join {ending : Ending} {pieces : List Piece} {characters : List Char}
    (joined : join ending pieces = .ok characters) : ending = .closed := by
  fun_induction join ending pieces generalizing characters with
  | case1 none =>
    cases ending with
    | closed => rfl
    | _ => cases none
  | case3 _ _ ih =>
    obtain ⟨later, held, -⟩ := bind_eq_ok joined
    exact ih held
  | case7 _ _ _ _ _ _ ih =>
    obtain ⟨later, held, -⟩ := bind_eq_ok joined
    exact ih held
  | case9 _ _ _ _ ih =>
    obtain ⟨later, held, -⟩ := bind_eq_ok joined
    exact ih held
  | _ => cases joined

theorem read_ne_unfinished {source : List Char} {text : String} :
    read source ≠ (.ok text, none) := by
  intro done
  rcases scanned : scan source with ⟨pieces, ending, left⟩
  rw [read, scanned] at done
  dsimp only at done
  split at done
  · rename_i joined
    rw [closed_of_join joined] at done
    cases done
  · cases done

theorem read_eq_ok {source rest : List Char} {text : String}
    (done : read source = (.ok text, some rest)) :
    ∃ letters, source = spelling letters ++ '"' :: rest ∧ textOf letters = text := by
  rcases scanned : scan source with ⟨pieces, ending, left⟩
  rw [read, scanned] at done
  dsimp only at done
  by_cases closed : ending = .closed
  · subst closed
    cases joined : join .closed pieces with
    | error fault =>
      rw [joined] at done
      cases done
    | ok characters =>
      rw [joined] at done
      cases done
      obtain ⟨letters, whole, rfl⟩ := exists_letters scanned joined
      exact ⟨letters, whole, rfl⟩
  · rw [if_neg closed] at done
    split at done <;> cases done

theorem exists_printed (text : String) :
    ∃ letters, literal letters = Printer.string text ∧ textOf letters = text := by
  obtain ⟨letters, whole, same⟩ := read_eq_ok (read_string text [])
  exact ⟨letters, by rw [literal, Printer.string, whole], same⟩

end GameBundle.Json.Quoted
