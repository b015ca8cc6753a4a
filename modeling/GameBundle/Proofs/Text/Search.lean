import GameBundle.Text.Search
import Mathlib.Data.List.Infix

/-!
# Occurrences across separators

Where a text is put together around a separator, a pattern without the separator occurs in
one of its parts. A pattern put together the same way occurs where its halves meet the
separator from both sides, or further on.
-/

namespace GameBundle.Text

variable {pattern front back left right : List Char} {separator : Char}

theorem contains_iff {text pattern : String} :
    contains text pattern = true ↔ pattern.toList <:+: text.toList := by
  unfold contains
  rw [occurs_iff]
  exact exists_congr fun _ => exists_congr fun _ => eq_comm

/-- A pattern without the separator occurs in one of the parts. -/
theorem infix_separated (free : separator ∉ pattern) :
    pattern <:+: front ++ separator :: back ↔ pattern <:+: front ∨ pattern <:+: back := by
  have behind : pattern <:+: separator :: back ↔ pattern <:+: back := by
    rw [List.infix_cons_iff, or_iff_right_of_imp]
    intro start
    cases pattern with
    | nil => exact List.nil_infix
    | cons c rest =>
      rw [(List.cons_prefix_cons.mp start).1] at free
      exact absurd List.mem_cons_self free
  rw [List.infix_append_iff, behind, ← or_assoc, or_iff_left_of_imp]
  rintro ⟨start, ending, rfl, before, after⟩
  cases ending with
  | nil =>
    rw [List.append_nil]
    exact .inl before.isInfix
  | cons c rest =>
    rw [(List.cons_prefix_cons.mp after).1] at free
    exact absurd (List.mem_append_right start List.mem_cons_self) free

/-- A pattern around the separator occurs around the first separator of a text or behind it. -/
theorem infix_around (left_free : separator ∉ left) (front_free : separator ∉ front) :
    left ++ separator :: right <:+: front ++ separator :: back ↔
      (left <:+ front ∧ right <+: back) ∨ left ++ separator :: right <:+: back := by
  constructor
  · rintro ⟨start, ending, whole⟩
    have parted : (start ++ left) ++ separator :: (right ++ ending) =
        front ++ separator :: back := by
      rw [← whole]
      simp
    rcases List.append_eq_append_iff.mp parted with ⟨rest, same, tail⟩ | ⟨rest, same, tail⟩
    · -- the first separator of the text cannot lie further on
      cases rest with
      | nil =>
        obtain rfl := (List.cons.inj tail).2
        exact .inl ⟨⟨start, by simpa using same.symm⟩, List.prefix_append _ _⟩
      | cons c rest =>
        obtain rfl := (List.cons.inj tail).1
        rw [same] at front_free
        simp at front_free
    · cases rest with
      | nil =>
        obtain rfl := (List.cons.inj tail).2
        exact .inl ⟨⟨start, by simpa using same⟩, List.prefix_append _ _⟩
      | cons c rest =>
        obtain ⟨rfl, rfl⟩ := List.cons.inj tail
        -- the text has an earlier separator, and the pattern begins behind it
        have later : start ++ left = (front ++ [separator]) ++ rest := by simpa using same
        right
        rcases List.append_eq_append_iff.mp later with ⟨more, inside, rfl⟩ | ⟨more, rfl, rfl⟩
        · rcases List.eq_nil_or_concat more with rfl | ⟨init, last, rfl⟩
          · exact ⟨[], ending, by simp⟩
          · rw [List.concat_eq_append, ← List.append_assoc] at inside
            obtain rfl : separator = last := by simpa using (List.append_inj' inside rfl).2
            simp at left_free
        · exact ⟨more, ending, by simp⟩
  · rintro (⟨⟨start, rfl⟩, ending, rfl⟩ | ⟨start, ending, rfl⟩)
    · exact ⟨start, ending, by simp⟩
    · exact ⟨front ++ separator :: start, ending, by simp⟩

end GameBundle.Text
