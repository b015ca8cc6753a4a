/-!
# Texts in order

Lists of texts that grow strictly by code point, which is also the order of their
UTF-8 bytes.
-/

namespace GameBundle.Text

/-- Enters a text at its place in a strictly increasing list. -/
def insertOrdered (text : String) : List String → List String
  | [] => [text]
  | other :: rest =>
    if text < other then text :: other :: rest
    else if text = other then other :: rest
    else other :: insertOrdered text rest

def ordered (texts : List String) : List String := texts.foldr insertOrdered []

theorem mem_insertOrdered {sought text : String} {texts : List String} :
    sought ∈ insertOrdered text texts ↔ sought = text ∨ sought ∈ texts := by
  induction texts with
  | nil => simp [insertOrdered]
  | cons other rest ih =>
    simp only [insertOrdered]
    split
    · simp
    · split
      · rename_i same
        subst same
        simp
      · simp only [List.mem_cons, ih]
        constructor
        · rintro (h | h | h) <;> simp [h]
        · rintro (h | h | h) <;> simp [h]

theorem mem_ordered {sought : String} {texts : List String} :
    sought ∈ ordered texts ↔ sought ∈ texts := by
  induction texts with
  | nil => simp [ordered]
  | cons text rest ih =>
    have step : ordered (text :: rest) = insertOrdered text (ordered rest) := rfl
    rw [step, mem_insertOrdered, ih, List.mem_cons]

end GameBundle.Text
