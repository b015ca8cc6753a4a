import Mathlib.Algebra.Group.Nat.Even
import Mathlib.Data.List.Induction

/-!
# Runs at the end of a text

How often a character stands in a row at the end of a text. Scanners that take characters in
pairs, such as braces or backslashes, go by whether that number is even: behind text with an
even run, every run is even or odd as it would be without that text.
-/

namespace GameBundle.Text

variable {c d : Char} {front back text : List Char}

/-- How often a character stands in a row at the end of a text. -/
def runAtEnd (c : Char) (text : List Char) : Nat := (text.reverse.takeWhile (· = c)).length

@[simp] theorem runAtEnd_nil : runAtEnd c [] = 0 := rfl

theorem runAtEnd_concat :
    runAtEnd c (text ++ [d]) = if d = c then runAtEnd c text + 1 else 0 := by
  by_cases same : d = c <;> simp [runAtEnd, same]

/-- A run does not go beyond another character. -/
theorem runAtEnd_append_of_ne (within : d ∈ back) (other : d ≠ c) :
    runAtEnd c (front ++ back) = runAtEnd c back := by
  induction back using List.reverseRecOn with
  | nil => simp at within
  | append_singleton back last ih =>
    rw [← List.append_assoc, runAtEnd_concat, runAtEnd_concat]
    split
    · rename_i same
      have before : d ∈ back := by
        rcases List.mem_append.mp within with before | here
        · exact before
        · exact absurd ((List.mem_singleton.mp here).trans same) other
      rw [ih before]
    · rfl

theorem even_runAtEnd_append (even : Even (runAtEnd c front)) :
    Even (runAtEnd c (front ++ back)) ↔ Even (runAtEnd c back) := by
  induction back using List.reverseRecOn with
  | nil => simpa using even
  | append_singleton back last ih =>
    rw [← List.append_assoc, runAtEnd_concat, runAtEnd_concat]
    split
    · rw [Nat.even_add_one, Nat.even_add_one, ih]
    · rfl

end GameBundle.Text
