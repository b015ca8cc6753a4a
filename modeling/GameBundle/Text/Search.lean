/-!
# Searching in texts

Occurrences are counted and replaced from left to right without overlap; the text
put in place of an occurrence is not searched again.
-/

namespace GameBundle.Text

def occurs (pattern : List Char) : List Char → Bool
  | [] => pattern.isEmpty
  | c :: rest => pattern.isPrefixOf (c :: rest) || occurs pattern rest

def contains (text pattern : String) : Bool := occurs pattern.toList text.toList

def replaceAll (first : Char) (more replacement : List Char) : List Char → List Char
  | [] => []
  | c :: rest =>
    if c = first ∧ more.isPrefixOf rest then
      replacement ++ replaceAll first more replacement (rest.drop more.length)
    else c :: replaceAll first more replacement rest
termination_by text => text.length
decreasing_by all_goals simp [List.length_drop]; try omega

def countAll (first : Char) (more : List Char) : List Char → Nat
  | [] => 0
  | c :: rest =>
    if c = first ∧ more.isPrefixOf rest then
      countAll first more (rest.drop more.length) + 1
    else countAll first more rest
termination_by text => text.length
decreasing_by all_goals simp [List.length_drop]; try omega

/-- Number of occurrences of a text; the empty text is not counted. -/
def count (pattern text : String) : Nat :=
  match pattern.toList with
  | [] => 0
  | first :: more => countAll first more text.toList

theorem occurs_iff {pattern text : List Char} :
    occurs pattern text = true ↔ ∃ front back, text = front ++ pattern ++ back := by
  induction text with
  | nil =>
    simp only [occurs, List.isEmpty_iff]
    constructor
    · rintro rfl
      exact ⟨[], [], rfl⟩
    · rintro ⟨front, back, same⟩
      simp at same
      exact same.2.1
  | cons c rest ih =>
    simp only [occurs, Bool.or_eq_true, List.isPrefixOf_iff_prefix, ih]
    constructor
    · rintro (⟨back, same⟩ | ⟨front, back, same⟩)
      · exact ⟨[], back, by simpa using same.symm⟩
      · exact ⟨c :: front, back, by simp [same]⟩
    · rintro ⟨front, back, same⟩
      cases front with
      | nil => exact .inl ⟨back, by simpa using same.symm⟩
      | cons d front =>
        refine .inr ⟨front, back, ?_⟩
        simp only [List.cons_append, List.cons.injEq] at same
        exact same.2

end GameBundle.Text
