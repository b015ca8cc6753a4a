import GameBundle.Proofs.Template.Parts
import GameBundle.Proofs.Text.Search
import GameBundle.Text.Blank

/-!
# Seams between parts

Where texts are put side by side, a pattern may occur across a seam although neither text has
it. Literal text can rule that out: either nothing that the pattern begins with stands at its
end, or nothing that the pattern ends with could stand at its front. A template whose literals
do so at each seam has no occurrence unless one of its values has.
-/

namespace GameBundle

namespace Text

variable {pattern front text back : List Char}

/-- Whether no occurrence of a pattern can begin in a text and end behind it. -/
def closes (pattern text : List Char) : Bool :=
  text.tails.all fun start => start.isEmpty || !start.isPrefixOf pattern

/-- Whether no occurrence of a pattern can begin before a text and end in it or behind it. -/
def opens (pattern text : List Char) : Bool :=
  pattern.tails.all fun ending =>
    ending.isEmpty || !(ending.isPrefixOf text || text.isPrefixOf ending)

theorem infix_append_of_closes (closed : closes pattern front = true) :
    pattern <:+: front ++ back ↔ pattern <:+: front ∨ pattern <:+: back := by
  rw [List.infix_append_iff, ← or_assoc, or_iff_left_of_imp]
  rintro ⟨start, ending, rfl, before, after⟩
  have no_start := List.all_eq_true.mp closed start ((List.mem_tails _ _).mpr before)
  cases start with
  | nil => exact .inr after.isInfix
  | cons c start =>
    have starts := List.isPrefixOf_iff_prefix.mpr (List.prefix_append (c :: start) ending)
    rw [starts] at no_start
    cases no_start

theorem infix_append_of_opens (opened : opens pattern text = true) :
    pattern <:+: front ++ (text ++ back) ↔ pattern <:+: front ∨ pattern <:+: text ++ back := by
  rw [List.infix_append_iff, ← or_assoc, or_iff_left_of_imp]
  rintro ⟨start, ending, rfl, before, after⟩
  have no_ending := List.all_eq_true.mp opened ending
    ((List.mem_tails _ _).mpr (List.suffix_append start ending))
  cases ending with
  | nil =>
    rw [List.append_nil]
    exact .inl before.isInfix
  | cons c ending =>
    rcases List.prefix_or_prefix_of_prefix after (List.prefix_append text back) with
      within | beyond
    · simp [List.isPrefixOf_iff_prefix.mpr within] at no_ending
    · simp [List.isPrefixOf_iff_prefix.mpr beyond] at no_ending

/-- A pattern occurs only behind text without its first character. -/
theorem infix_append_of_first {first : Char} {more : List Char} (free : first ∉ front) :
    first :: more <:+: front ++ back ↔ first :: more <:+: back := by
  induction front with
  | nil => rfl
  | cons c front ih =>
    obtain ⟨apart, free⟩ := (List.mem_cons.not.trans not_or).mp free
    rw [List.cons_append, List.infix_cons_iff, ih free, or_iff_right]
    exact fun starts => apart (List.cons_prefix_cons.mp starts).1

def EndsLine (text : String) : Prop := text = "" ∨ ∃ body, text = body ++ "\n"

theorem EndsLine.behind {text : String} (ends : EndsLine text) (inhabited : text ≠ "")
    (front : String) : EndsLine (front ++ text) := by
  rcases ends with rfl | ⟨body, rfl⟩
  · exact absurd rfl inhabited
  · exact .inr ⟨front ++ body, String.append_assoc.symm⟩

theorem EndsLine.append {one other : String} (first : EndsLine one) (second : EndsLine other) :
    EndsLine (one ++ other) := by
  by_cases inhabited : other = ""
  · rwa [inhabited, String.append_empty]
  · exact second.behind inhabited one

theorem contains_false_iff {text pattern : String} :
    contains text pattern = false ↔ ¬pattern.toList <:+: text.toList := by
  rw [← Bool.not_eq_true, contains_iff]

theorem contains_of_within {text whole pattern : String} (within : text.toList <:+: whole.toList)
    (free : contains whole pattern = false) : contains text pattern = false := by
  rw [contains_false_iff] at free ⊢
  exact fun holds => free (holds.trans within)

theorem prefix_trimEndBy (strip : Char → Bool) (text : List Char) :
    trimEndBy strip text <+: text := by
  rw [trimEndBy, ← List.reverse_suffix, List.reverse_reverse]
  exact List.dropWhile_suffix _

/-- A pattern without line feeds occurs before or behind a line feed. -/
theorem contains_around_newline {one other pattern : String} (line : '\n' ∉ pattern.toList)
    (free : contains one pattern = false) (later : contains other pattern = false) :
    contains (one ++ "\n" ++ other) pattern = false := by
  rw [contains_false_iff] at free later ⊢
  have parted : (one ++ "\n" ++ other).toList = one.toList ++ '\n' :: other.toList := by simp
  rw [parted, infix_separated line, not_or]
  exact ⟨free, later⟩

theorem contains_append_of_endsLine {one other pattern : String} (ends : EndsLine one)
    (line : '\n' ∉ pattern.toList) (free : contains one pattern = false)
    (later : contains other pattern = false) : contains (one ++ other) pattern = false := by
  rcases ends with rfl | ⟨body, rfl⟩
  · rwa [String.empty_append]
  · have before : body.toList <:+: (body ++ "\n").toList := ⟨[], "\n".toList, by simp⟩
    exact contains_around_newline line (contains_of_within before free) later

theorem contains_join_lines {texts : List String} {pattern : String} (inhabited : pattern ≠ "")
    (line : '\n' ∉ pattern.toList) (ends : ∀ text ∈ texts, EndsLine text)
    (free : ∀ text ∈ texts, contains text pattern = false) :
    contains (String.join texts) pattern = false := by
  induction texts with
  | nil => simp [contains, occurs, inhabited]
  | cons text texts ih =>
    rw [List.forall_mem_cons] at ends free
    rw [String.join_cons]
    exact contains_append_of_endsLine ends.1 line free.1 (ih ends.2 free.2)

end Text

namespace Template

open Text (closes opens contains contains_iff)

namespace Part

def lacks (pattern : List Char) : Part → Bool
  | .literal text => !Text.occurs pattern text.toList
  | .hole _ => true

/-- Whether no occurrence of a pattern can lie across the seam of two parts. -/
def parted (pattern : List Char) : Part → Part → Bool
  | .literal text, .literal next => closes pattern text.toList || opens pattern next.toList
  | .literal text, .hole _ => closes pattern text.toList
  | .hole _, .literal next => opens pattern next.toList
  | .hole _, .hole _ => false

end Part

def keepsOut (pattern : List Char) : List Part → Bool
  | [] => true
  | [part] => part.lacks pattern
  | part :: next :: rest =>
    part.lacks pattern && part.parted pattern next && keepsOut pattern (next :: rest)

variable {pattern : String} {parts : List Part} {values : List (String × String)}

theorem contains_filled_part {part : Part} (inhabited : pattern ≠ "")
    (lacks : part.lacks pattern.toList = true)
    (free : ∀ entry ∈ values, contains entry.2 pattern = false) :
    contains (part.filled values) pattern = false := by
  cases part with
  | literal text => simpa [Part.lacks, Part.filled, contains] using lacks
  | hole name =>
    rw [Part.filled]
    cases looked : values.lookup name with
    | none => simp [contains, Text.occurs, inhabited]
    | some value =>
      obtain ⟨front, back, whole, -⟩ := List.lookup_eq_some_iff.mp looked
      exact free (name, value) (by simp [whole])

/-- A part stands somewhere in the parts put together. -/
theorem exists_around {part : Part} (member : part ∈ parts) : ∃ front back,
    String.join (parts.map (Part.filled values)) = front ++ part.filled values ++ back := by
  obtain ⟨front, back, rfl⟩ := List.append_of_mem member
  refine ⟨String.join (front.map (Part.filled values)),
    String.join (back.map (Part.filled values)), ?_⟩
  rw [List.map_append, List.map_cons, String.join_append, String.join_cons, String.append_assoc]

/-- An occurrence in parts put together is in the first one or behind it. -/
theorem infix_seam {part next : Part} {rest : List Part} {pattern : List Char}
    (parted : part.parted pattern next = true) :
    pattern <:+: (String.join ((part :: next :: rest).map (Part.filled values))).toList ↔
      pattern <:+: (part.filled values).toList ∨
        pattern <:+: (String.join ((next :: rest).map (Part.filled values))).toList := by
  rw [List.map_cons, String.join_cons, String.toList_append]
  have opened (text : String) (front : List Char) (opened : opens pattern text.toList = true) :
      pattern <:+: front ++
          (String.join ((.literal text :: rest).map (Part.filled values))).toList ↔
        pattern <:+: front ∨
          pattern <:+: (String.join ((.literal text :: rest).map (Part.filled values))).toList := by
    rw [List.map_cons, String.join_cons, String.toList_append]
    exact Text.infix_append_of_opens opened
  cases part with
  | literal text =>
    cases next with
    | literal other =>
      rcases (Bool.or_eq_true _ _).mp parted with before | behind
      · exact Text.infix_append_of_closes before
      · exact opened other _ behind
    | hole name => exact Text.infix_append_of_closes parted
  | hole name =>
    cases next with
    | literal other => exact opened other _ parted
    | hole other => cases parted

theorem contains_filled (inhabited : pattern ≠ "") (out : keepsOut pattern.toList parts = true)
    (free : ∀ entry ∈ values, contains entry.2 pattern = false) :
    contains (String.join (parts.map (Part.filled values))) pattern = false := by
  induction parts with
  | nil => simp [contains, Text.occurs, inhabited]
  | cons part rest ih =>
    cases rest with
    | nil =>
      rw [List.map_singleton, String.join_cons, String.join_nil, String.append_empty]
      exact contains_filled_part inhabited out free
    | cons next rest =>
      simp only [keepsOut, Bool.and_eq_true] at out
      have own := contains_filled_part inhabited out.1.1 free
      have later := ih out.2
      rw [← Bool.not_eq_true, contains_iff] at own later ⊢
      rw [infix_seam out.1.2, not_or]
      exact ⟨own, later⟩

end Template

end GameBundle
