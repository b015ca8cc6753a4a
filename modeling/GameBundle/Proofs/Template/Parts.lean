import GameBundle.Proofs.Template.Segmentation

/-!
# Templates in parts

A template that is written down as literal texts and placeholders is filled part by part:
literals stay, and each placeholder gives way to its value. No literal may contain two
braces that open a placeholder, alone or together with the part behind it. What stands in
the values does not matter.
-/

namespace GameBundle.Template

inductive Part where
  | literal (text : String)
  | hole (name : String)

/-- Whether a text neither contains two opening braces nor ends with one. -/
def isLiteral : List Char → Bool
  | [] => true
  | [c] => c != '{'
  | c :: d :: rest => !(c == '{' && d == '{') && isLiteral (d :: rest)

/-- Substitutions for placeholders of the given names. -/
def placeholders (values : List (String × String)) : List (String × String) :=
  values.map fun (name, value) => (placeholder name, value)

namespace Part

def source : Part → String
  | .literal text => text
  | .hole name => placeholder name

/-- What becomes of the part; a placeholder gives way to the value of its name. -/
def filled (values : List (String × String)) : Part → String
  | .literal text => text
  | .hole name => (values.lookup name).getD ""

def fits (names : List String) : Part → Bool
  | .literal text => isLiteral text.toList
  | .hole name => names.contains name

theorem filled_literal (values : List (String × String)) (text : String) :
    filled values (.literal text) = text := rfl

theorem filled_hole_self (name value : String) (values : List (String × String)) :
    filled ((name, value) :: values) (.hole name) = value := by
  rw [filled, List.lookup_cons_self, Option.getD_some]

theorem filled_hole_of_ne {name other : String} (apart : name ≠ other) (value : String)
    (values : List (String × String)) :
    filled ((other, value) :: values) (.hole name) = filled values (.hole name) := by
  rw [filled, filled, List.lookup_cons, beq_false_of_ne apart]

end Part

def areNames (names : List String) : Bool :=
  decide names.Nodup && names.all fun name => !name.toList.contains '}'

variable {tokens : List (List Char)} {rest : List Char} {segments : List Segment}

/-- A token with two opening braces in front, and two closing braces behind a name without
such. -/
def IsPlaceholder (token : List Char) : Prop :=
  ∃ name : List Char, '}' ∉ name ∧ token = '{' :: '{' :: (name ++ ['}', '}'])

theorem IsPlaceholder.not_starts {token literal : List Char} {c : Char}
    (isPlaceholder : IsPlaceholder token) (closed : isLiteral (c :: literal) = true)
    (rest : List Char) : ¬token <+: c :: literal ++ rest := by
  obtain ⟨name, -, rfl⟩ := isPlaceholder
  intro starts
  obtain ⟨rfl, more⟩ := List.cons_prefix_cons.mp starts
  cases literal with
  | nil => simp [isLiteral] at closed
  | cons d literal =>
    obtain ⟨rfl, -⟩ := List.cons_prefix_cons.mp more
    simp [isLiteral] at closed

theorem isLiteral_tail {literal : List Char} {c : Char} (closed : isLiteral (c :: literal) = true) :
    isLiteral literal = true := by
  cases literal with
  | nil => rfl
  | cons d literal => exact (Bool.and_eq_true _ _ ▸ closed).2

/-- A literal is cut into its characters. -/
theorem Segmentation.literal (all : ∀ token ∈ tokens, IsPlaceholder token) {literal : List Char}
    (closed : isLiteral literal = true) (later : Segmentation tokens rest segments) :
    Segmentation tokens (literal ++ rest) (literal.map .plain ++ segments) := by
  induction literal with
  | nil => exact later
  | cons c literal ih =>
    refine .plain (fun token listed _ => ?_) (ih (isLiteral_tail closed))
    exact (all token listed).not_starts closed rest

theorem IsPlaceholder.eq_of_starts {token other : List Char} (one : IsPlaceholder token)
    (two : IsPlaceholder other) (starts : other <+: token ++ rest) : other = token := by
  obtain ⟨name, clean, rfl⟩ := one
  obtain ⟨more, other_clean, rfl⟩ := two
  obtain ⟨behind, same⟩ := starts
  have names : more ++ '}' :: '}' :: behind = name ++ '}' :: '}' :: rest := by simpa using same
  have until_brace {front : List Char} (free : '}' ∉ front) (back : List Char) :
      (front ++ '}' :: back).takeWhile (· ≠ '}') = front := by
    rw [List.takeWhile_append_of_pos]
    · simp
    · intro c member
      simpa using ne_of_mem_of_not_mem member free
  have equal := congrArg (List.takeWhile (· ≠ '}')) names
  rw [until_brace other_clean, until_brace clean] at equal
  rw [equal]

/-- A placeholder is cut off as a whole. -/
theorem Segmentation.placeholder (all : ∀ token ∈ tokens, IsPlaceholder token)
    {token : List Char} (listed : token ∈ tokens) (later : Segmentation tokens rest segments) :
    Segmentation tokens (token ++ rest) (.token token :: segments) := by
  have own := all token listed
  refine .token ⟨listed, ?_, List.prefix_append _ _, fun other other_listed starts => ?_⟩ ?_
  · obtain ⟨name, -, rfl⟩ := own
    simp
  · rw [own.eq_of_starts (all other other_listed) starts]
  · rwa [List.drop_left]

variable {names : List String} {values : List (String × String)}

theorem isPlaceholder_of_mem (areNames : areNames names = true)
    (named : values.map Prod.fst = names) :
    ∀ token ∈ (characters (placeholders values)).map Prod.fst, IsPlaceholder token := by
  intro token listed
  simp only [characters, placeholders, List.map_map, List.mem_map] at listed
  obtain ⟨entry, member, rfl⟩ := listed
  simp only [Template.areNames, Bool.and_eq_true, List.all_eq_true] at areNames
  have clean := areNames.2 entry.1 (named ▸ List.mem_map_of_mem member)
  exact ⟨entry.1.toList, by simpa using clean, by simp [placeholder]⟩

theorem placeholder_injective {one other : String} (same : placeholder one = placeholder other) :
    one = other := by
  simpa [placeholder, ← String.toList_inj] using same

theorem nodup_placeholders (areNames : areNames names = true)
    (named : values.map Prod.fst = names) :
    ((characters (placeholders values)).map Prod.fst).Nodup := by
  simp only [Template.areNames, Bool.and_eq_true, decide_eq_true_eq] at areNames
  have tokens : (placeholders values).map Prod.fst = (values.map Prod.fst).map placeholder := by
    simp [placeholders]
  apply nodup_characters
  rw [tokens, named]
  exact areNames.1.map fun _ _ => placeholder_injective

theorem fillChars_part {part : Part} (areNames : areNames names = true)
    (named : values.map Prod.fst = names) (fits : part.fits names = true) (rest : List Char) :
    fillChars (characters (placeholders values)) (part.source.toList ++ rest) =
      (part.filled values).toList ++ fillChars (characters (placeholders values)) rest := by
  have all := isPlaceholder_of_mem areNames named
  obtain ⟨segments, later⟩ :=
    exists_segmentation ((characters (placeholders values)).map Prod.fst) rest
  rw [fillChars_eq_of_segmentation later]
  cases part with
  | literal text =>
    rw [Part.source, Part.filled, fillChars_eq_of_segmentation (later.literal all fits),
      List.flatMap_append, List.flatMap_map]
    congr 1
    exact List.flatMap_singleton' _
  | hole name =>
    have listed : name ∈ values.map Prod.fst := named ▸ List.contains_iff_mem.mp fits
    obtain ⟨entry, member, same⟩ := List.mem_map.mp listed
    have found : (values.lookup name).isSome = true :=
      List.lookup_isSome_iff.mpr ⟨entry, member, by simp [same]⟩
    obtain ⟨value, looked⟩ := Option.isSome_iff_exists.mp found
    obtain ⟨front, back, whole, -⟩ := List.lookup_eq_some_iff.mp looked
    have entered : ((placeholder name).toList, value.toList) ∈ characters (placeholders values) :=
      List.mem_map_of_mem (List.mem_map_of_mem (show (name, value) ∈ values by simp [whole]))
    rw [Part.source, Part.filled, looked, Option.getD_some,
      fillChars_eq_of_segmentation (later.placeholder all (List.mem_map_of_mem entered)),
      List.flatMap_cons, Segment.fill, valueOf_of_mem (nodup_placeholders areNames named) entered]

theorem fill_parts {template : String} (parts : List Part) (values : List (String × String))
    (whole : template = String.join (parts.map Part.source)) (areNames : areNames names = true)
    (fits : parts.all (Part.fits names) = true) (named : values.map Prod.fst = names) :
    fill template (placeholders values) = String.join (parts.map (Part.filled values)) := by
  subst whole
  rw [← String.toList_inj, fill, String.toList_ofList, String.toList_join, String.toList_join]
  induction parts with
  | nil => simp [fillChars, scan]
  | cons part parts ih =>
    rw [List.all_cons, Bool.and_eq_true] at fits
    rw [List.map_cons, List.map_cons, List.flatMap_cons, List.flatMap_cons,
      fillChars_part areNames named fits.1, ih fits.2]

end GameBundle.Template
