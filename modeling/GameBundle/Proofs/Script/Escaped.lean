import GameBundle.Proofs.Template.Seam
import GameBundle.Script.Comment
import GameBundle.Script.Quoted

/-!
# Occurrences in escaped texts

Escapes put characters of their own into a text, but no plain text arises from them: what is
found in a quoted string, or in a text made safe for a comment, was in the text before, if
nothing of it is special there.
-/

namespace GameBundle.Script

open Text (contains contains_iff infix_append_of_first infix_separated)

variable {first : Char} {more pattern text : List Char}

def escapeChars : List Char := '\\' :: '"' :: "nrtu0123456789abcdef".toList

/-- Whether a text needs no escape, and does not start like the rest of one. -/
def isUnescaped (text : List Char) : Bool :=
  !text.contains '\\' && !text.contains '"' && !text.head?.any escapeChars.contains

theorem hexDigit_mem_escapeChars (n : Nat) : Text.hexDigit (n % 16) ∈ escapeChars := by
  have all : ∀ digit < 16, Text.hexDigit digit ∈ escapeChars := by decide
  exact all _ (Nat.mod_lt _ (by decide))

theorem unitEscape_subset (unit : Nat) : Text.unitEscape unit ⊆ escapeChars := by
  have fixed : '\\' ∈ escapeChars ∧ 'u' ∈ escapeChars := by decide
  simp [Text.unitEscape, fixed, hexDigit_mem_escapeChars]

/-- A character stands for itself or gets an escape. -/
theorem quoteChar_cases (c : Char) : quoteChar c = [c] ∨
    ((quoteChar c).head? = some '\\' ∧ quoteChar c ⊆ escapeChars) := by
  unfold quoteChar
  split
  · exact .inr (by decide)
  split
  · exact .inr (by decide)
  split
  · exact .inr (by decide)
  split
  · exact .inr (by decide)
  split
  · exact .inr (by decide)
  split
  · exact .inr ⟨rfl, unitEscape_subset _⟩
  · exact .inl rfl

theorem prefix_of_prefix_quoted (plain : '\\' ∉ pattern)
    (starts : pattern <+: text.flatMap quoteChar) : pattern <+: text := by
  induction text generalizing pattern with
  | nil => exact starts
  | cons c text ih =>
    cases pattern with
    | nil => exact List.nil_prefix
    | cons d pattern =>
      rw [List.flatMap_cons] at starts
      rcases quoteChar_cases c with own | ⟨escaped, -⟩
      · rw [own] at starts
        obtain ⟨rfl, later⟩ := List.cons_prefix_cons.mp starts
        exact List.cons_prefix_cons.mpr
          ⟨rfl, ih (fun special => plain (List.mem_cons_of_mem _ special)) later⟩
      · obtain ⟨tail, shape⟩ := List.head?_eq_some_iff.mp escaped
        rw [shape] at starts
        obtain ⟨rfl, -⟩ := List.cons_prefix_cons.mp starts
        exact absurd List.mem_cons_self plain

theorem infix_of_infix_quoted (plain : '\\' ∉ first :: more) (apart : first ∉ escapeChars)
    (holds : first :: more <:+: text.flatMap quoteChar) : first :: more <:+: text := by
  induction text with
  | nil => exact holds
  | cons c text ih =>
    have behind (holds : first :: more <:+: text.flatMap quoteChar) :
        first :: more <:+: c :: text := List.infix_cons (ih holds)
    rw [List.flatMap_cons] at holds
    rcases quoteChar_cases c with own | ⟨-, within⟩
    · rw [own, List.singleton_append, List.infix_cons_iff] at holds
      rcases holds with starts | holds
      · have whole : first :: more <+: (c :: text).flatMap quoteChar := by
          rwa [List.flatMap_cons, own]
        exact (prefix_of_prefix_quoted plain whole).isInfix
      · exact behind holds
    · exact behind ((infix_append_of_first fun held => apart (within held)).mp holds)

theorem contains_quote {pattern text : String} (inhabited : pattern ≠ "")
    (plain : isUnescaped pattern.toList = true) (free : contains text pattern = false) :
    contains (quote text) pattern = false := by
  rw [← Bool.not_eq_true, contains_iff] at free ⊢
  have shape : pattern.toList ≠ [] := by simpa using inhabited
  obtain ⟨first, more, shape⟩ := List.exists_cons_of_ne_nil shape
  rw [shape] at plain free ⊢
  simp only [isUnescaped, Bool.and_eq_true, Bool.not_eq_true', List.contains_eq_mem,
    decide_eq_false_iff_not, List.head?_cons, Option.any_some] at plain
  obtain ⟨⟨backslash, mark⟩, apart⟩ := plain
  have nowhere : ¬first :: more <:+: [] := by simp
  rw [quote, String.toList_ofList, quoteChars, ← List.nil_append ('"' :: _), infix_separated mark,
    infix_separated mark, or_iff_right nowhere, or_iff_left nowhere]
  exact fun holds => free (infix_of_infix_quoted backslash apart holds)

theorem commentSafeChars_terminator (rest : List Char) :
    commentSafeChars ('*' :: '/' :: rest) = '*' :: ' ' :: '/' :: commentSafeChars rest := by
  simp [commentSafeChars, Text.replaceAll]

theorem commentSafeChars_cons {c : Char} {rest : List Char} (safe : ¬['*', '/'] <+: c :: rest) :
    commentSafeChars (c :: rest) = c :: commentSafeChars rest := by
  rw [commentSafeChars, Text.replaceAll, if_neg]
  · rfl
  · rintro ⟨rfl, slash⟩
    exact safe (List.cons_prefix_cons.mpr ⟨rfl, List.isPrefixOf_iff_prefix.mp slash⟩)

/-- A text is taken apart at its terminators. -/
theorem comment_induction {motive : List Char → Prop} (nil : motive [])
    (terminator : ∀ rest, motive rest → motive ('*' :: '/' :: rest))
    (cons : ∀ c rest, ¬['*', '/'] <+: c :: rest → motive rest → motive (c :: rest))
    (text : List Char) : motive text := by
  induction measured : text.length using Nat.strongRecOn generalizing text with
  | ind size ih =>
  cases text with
  | nil => exact nil
  | cons c rest =>
    by_cases ends : ['*', '/'] <+: c :: rest
    · obtain ⟨behind, whole⟩ := ends
      rw [← whole] at measured ⊢
      exact terminator behind (ih behind.length (by simp at measured; omega) behind rfl)
    · exact cons c rest ends (ih rest.length (by simp at measured; omega) rest rfl)

theorem prefix_of_prefix_commentSafe (star : '*' ∉ pattern)
    (starts : pattern <+: commentSafeChars text) : pattern <+: text := by
  induction text using comment_induction generalizing pattern with
  | nil => simpa [commentSafeChars, Text.replaceAll] using starts
  | terminator rest ih =>
    rw [commentSafeChars_terminator] at starts
    cases pattern with
    | nil => exact List.nil_prefix
    | cons d pattern =>
      obtain ⟨rfl, -⟩ := List.cons_prefix_cons.mp starts
      exact absurd List.mem_cons_self star
  | cons c rest safe ih =>
    rw [commentSafeChars_cons safe] at starts
    cases pattern with
    | nil => exact List.nil_prefix
    | cons d pattern =>
      obtain ⟨rfl, later⟩ := List.cons_prefix_cons.mp starts
      exact List.cons_prefix_cons.mpr
        ⟨rfl, ih (fun special => star (List.mem_cons_of_mem _ special)) later⟩

theorem infix_of_infix_commentSafe (star : '*' ∉ first :: more) (broken : first ∉ ['*', ' ', '/'])
    (holds : first :: more <:+: commentSafeChars text) : first :: more <:+: text := by
  induction text using comment_induction with
  | nil => simp [commentSafeChars, Text.replaceAll] at holds
  | terminator rest ih =>
    rw [commentSafeChars_terminator] at holds
    have behind : first :: more <:+: ['*', ' ', '/'] ++ commentSafeChars rest ↔
      first :: more <:+: commentSafeChars rest := infix_append_of_first broken
    exact List.infix_cons (List.infix_cons (ih (behind.mp holds)))
  | cons c rest safe ih =>
    rw [commentSafeChars_cons safe, List.infix_cons_iff] at holds
    rcases holds with starts | holds
    · rw [← commentSafeChars_cons safe] at starts
      exact (prefix_of_prefix_commentSafe star starts).isInfix
    · exact List.infix_cons (ih holds)

theorem no_terminator (text : List Char) : ¬['*', '/'] <:+: commentSafeChars text := by
  induction text using comment_induction with
  | nil => simp [commentSafeChars, Text.replaceAll]
  | terminator rest ih =>
    rw [commentSafeChars_terminator]
    simp [List.infix_cons_iff, List.cons_prefix_cons, ih]
  | cons c rest safe ih =>
    rw [commentSafeChars_cons safe, List.infix_cons_iff, or_iff_left ih]
    intro starts
    obtain ⟨rfl, slash⟩ := List.cons_prefix_cons.mp starts
    have slash := prefix_of_prefix_commentSafe (by decide) slash
    exact safe (List.cons_prefix_cons.mpr ⟨rfl, slash⟩)

/-- Whether a text has a terminator, or nothing that a broken terminator has. -/
def isCommentFree (text : List Char) : Bool :=
  Text.occurs ['*', '/'] text || (!text.contains '*' && !text.head?.any ['*', ' ', '/'].contains)

theorem contains_commentSafe {pattern text : String} (inhabited : pattern ≠ "")
    (plain : isCommentFree pattern.toList = true) (free : contains text pattern = false) :
    contains (commentSafe text) pattern = false := by
  rw [← Bool.not_eq_true, contains_iff] at free ⊢
  rw [commentSafe, String.toList_ofList]
  intro holds
  rcases (Bool.or_eq_true _ _).mp plain with ended | plain
  · have terminator : ['*', '/'] <:+: pattern.toList := by
      obtain ⟨front, back, whole⟩ := Text.occurs_iff.mp ended
      exact ⟨front, back, whole.symm⟩
    exact no_terminator _ (terminator.trans holds)
  · have shape : pattern.toList ≠ [] := by simpa using inhabited
    obtain ⟨first, more, shape⟩ := List.exists_cons_of_ne_nil shape
    rw [shape] at plain free holds
    simp only [Bool.and_eq_true, Bool.not_eq_true', List.contains_eq_mem, decide_eq_false_iff_not,
      List.head?_cons, Option.any_some] at plain
    exact free (infix_of_infix_commentSafe plain.1 plain.2 holds)

end GameBundle.Script
