import Mathlib.Data.List.Basic

/-!
# Lines of scripts

A line of a script ends at a line feed, a carriage return, both together or one of the two
separators of Unicode. Text without such a character leaves the number of lines as it is.
-/

namespace GameBundle.Script

variable {front back line text : List Char} {more : List (List Char)} {c : Char}

def isLineEnd (c : Char) : Bool := c = '\n' || c = '\r' || c = '\u2028' || c = '\u2029'

/-- The lines of a script without their ends. Nothing follows the last line end but a line with
something in it. -/
def lines : List Char → List (List Char)
  | [] => []
  | '\r' :: '\n' :: rest => [] :: lines rest
  | c :: rest =>
    if isLineEnd c then [] :: lines rest
    else match lines rest with
      | [] => [[c]]
      | line :: more => (c :: line) :: more

theorem lines_cons (inner : isLineEnd c = false) (split : lines text = line :: more) :
    lines (c :: text) = (c :: line) :: more := by
  rw [lines, if_neg (by simp [inner]), split]
  rintro rest rfl rfl
  exact absurd inner (by decide)

theorem lines_end (ended : isLineEnd c = true) (apart : c = '\r' → text.head? ≠ some '\n') :
    lines (c :: text) = [] :: lines text := by
  rw [lines, if_pos ended]
  rintro rest rfl rfl
  exact apart rfl rfl

/-- Text without line ends goes to the first line of what follows it. -/
theorem lines_append (free : ∀ c ∈ front, isLineEnd c = false) (split : lines back = line :: more) :
    lines (front ++ back) = (front ++ line) :: more := by
  induction front with
  | nil => exact split
  | cons c front ih =>
    rw [List.forall_mem_cons] at free
    exact lines_cons free.1 (ih free.2)

theorem lines_ne_nil (inhabited : text ≠ []) : lines text ≠ [] := by
  unfold lines
  split
  · exact absurd rfl inhabited
  · exact List.cons_ne_nil _ _
  · split
    · exact List.cons_ne_nil _ _
    · split <;> exact List.cons_ne_nil _ _

/-- A line feed ends its line, whatever follows it. -/
theorem lines_append_lineFeed (front back : List Char) :
    lines (front ++ '\n' :: back) = lines (front ++ ['\n']) ++ lines back := by
  have lineFeed (text : List Char) : lines ('\n' :: text) = [] :: lines text :=
    lines_end rfl fun same => absurd same (by decide)
  have inside {c : Char} {rest : List Char} (inner : isLineEnd c = false)
      (ih : lines (rest ++ '\n' :: back) = lines (rest ++ ['\n']) ++ lines back) :
      lines (c :: rest ++ '\n' :: back) = lines (c :: rest ++ ['\n']) ++ lines back := by
    obtain ⟨line, more, split⟩ := List.exists_cons_of_ne_nil
      (lines_ne_nil (show rest ++ ['\n'] ≠ [] by simp))
    rw [split] at ih
    rw [List.cons_append, List.cons_append, lines_cons inner split, lines_cons inner ih]
    rfl
  -- along the recursion of `lines`; in the last two cases only what stands behind differs
  fun_induction lines front with
  | case1 => simp [lineFeed, lines]
  | case2 rest ih => simp [lines, ih]
  | case3 c rest joined ended ih =>
    by_cases last : c = '\r' ∧ rest = []
    · -- the line feed is taken together with the carriage return in front of it
      obtain ⟨rfl, rfl⟩ := last
      simp [lines]
    · have apart (text : List Char) : c = '\r' → (rest ++ '\n' :: text).head? ≠ some '\n' := by
        rintro rfl
        cases rest with
        | nil => exact absurd ⟨rfl, rfl⟩ last
        | cons d rest =>
          intro same
          exact joined rest rfl (by simpa using same)
      rw [List.cons_append, List.cons_append, lines_end ended (apart back),
        lines_end ended (apart []), ih, List.cons_append]
  | case4 c rest joined inner none ih => exact inside (by simpa using inner) ih
  | case5 c rest joined inner line more split ih => exact inside (by simpa using inner) ih

end GameBundle.Script
