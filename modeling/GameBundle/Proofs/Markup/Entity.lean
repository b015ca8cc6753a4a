import GameBundle.Proofs.Markup.Inert

/-!
# Entities read back

A reader of markup puts characters in the place of entities, from left to right, and does not
look again at what it has put there. So a text that is escaped is read as itself, whatever it
was, also when it looked like entities or like parts of them.
-/

namespace GameBundle.Markup

/-- The entities that need no declaration, with the characters that they stand for. -/
def entities : List (List Char × Char) :=
  [(['&', 'a', 'm', 'p', ';'], '&'), (['&', 'l', 't', ';'], '<'), (['&', 'g', 't', ';'], '>'),
    (['&', 'q', 'u', 'o', 't', ';'], '"'), (['&', 'a', 'p', 'o', 's', ';'], '\'')]

/-- The entity that a text starts with. -/
def entityAt? (text : List Char) : Option (List Char × Char) :=
  entities.find? fun entity => entity.1.isPrefixOf text

/-- A text with characters in the place of the entities in it. -/
def unescapeChars : List Char → List Char
  | [] => []
  | c :: rest =>
    match entityAt? (c :: rest) with
    | some (name, character) => character :: unescapeChars (rest.drop (name.length - 1))
    | none => c :: unescapeChars rest
termination_by text => text.length
decreasing_by
  · rw [List.length_drop, List.length_cons]
    omega
  · exact Nat.lt_succ_self rest.length

def unescape (text : String) : String := String.ofList (unescapeChars text.toList)

/-- No entity starts another one. -/
theorem entityAt?_append {name : List Char} {character : Char}
    (entity : (name, character) ∈ entities) (rest : List Char) :
    entityAt? (name ++ rest) = some (name, character) := by
  have all : ∀ entity ∈ entities, entityAt? (entity.1 ++ rest) = some entity := by
    simp [entities, entityAt?, List.isPrefixOf]
  exact all _ entity

theorem entityAt?_of_ne {c : Char} (other : c ≠ '&') (rest : List Char) :
    entityAt? (c :: rest) = none := by
  simp [entityAt?, entities, Ne.symm other]

theorem unescapeChars_append {name : List Char} {character : Char}
    (entity : (name, character) ∈ entities) (rest : List Char) :
    unescapeChars (name ++ rest) = character :: unescapeChars rest := by
  have inhabited : name ≠ [] := by
    have all : ∀ entity ∈ entities, entity.1 ≠ [] := by decide
    exact all _ entity
  obtain ⟨c, more, rfl⟩ := List.exists_cons_of_ne_nil inhabited
  rw [List.cons_append, unescapeChars, ← List.cons_append, entityAt?_append entity]
  simp

theorem unescapeChars_cons {c : Char} (other : c ≠ '&') (rest : List Char) :
    unescapeChars (c :: rest) = c :: unescapeChars rest := by
  rw [unescapeChars, entityAt?_of_ne other]

/-- A character is escaped by its entity, or it is plain and stands for itself. -/
theorem escapeChar_cases (c : Char) :
    (escapeChar c, c) ∈ entities ∨ (escapeChar c = [c] ∧ isSpecial c = false) := by
  cases plain : entity? c with
  | none => exact .inr ⟨by rw [escapeChar, plain], not_isSpecial_of_entity? plain⟩
  | some name =>
    left
    rw [escapeChar, plain]
    unfold entity? at plain
    repeat' split at plain
    all_goals first | cases plain; done | (cases plain; simp_all [entities])

theorem unescapeChars_escapeChars (text : List Char) :
    unescapeChars (escapeChars text) = text := by
  induction text with
  | nil => simp [escapeChars, unescapeChars]
  | cons c text ih =>
    rw [escapeChars] at ih ⊢
    rw [List.flatMap_cons]
    rcases escapeChar_cases c with entity | ⟨same, plain⟩
    · rw [unescapeChars_append entity, ih]
    · have other : c ≠ '&' := by
        rintro rfl
        cases plain
      rw [same, List.singleton_append, unescapeChars_cons other, ih]

/-- A character of an escaped text belongs to an entity or is plain. -/
theorem mem_escapeChars {c : Char} {text : List Char} (member : c ∈ escapeChars text) :
    isSpecial c = false ∨ ∃ entity ∈ entities, c ∈ entity.1 := by
  obtain ⟨origin, -, inside⟩ := List.mem_flatMap.mp member
  rcases escapeChar_cases origin with entity | ⟨same, plain⟩
  · exact .inr ⟨_, entity, inside⟩
  · rw [same, List.mem_singleton] at inside
    exact .inl (inside ▸ plain)

theorem prefix_of_ampersand {name front back : List Char} {character : Char}
    (entity : (name, character) ∈ entities) (cut : name = front ++ '&' :: back) : front = [] := by
  have all : ∀ entity ∈ entities, '&' ∉ entity.1.tail := by decide
  have alone := all _ entity
  rw [cut] at alone
  rcases front with _ | ⟨c, front⟩
  · rfl
  · simp at alone

theorem exists_entity_of_ampersand {text front back : List Char}
    (cut : escapeChars text = front ++ '&' :: back) :
    ∃ entity ∈ entities, entity.1 <+: '&' :: back := by
  induction text generalizing front with
  | nil => simp [escapeChars] at cut
  | cons c text ih =>
    rw [escapeChars, List.flatMap_cons] at cut
    -- the ampersand stands behind what the first character became, or inside it
    rcases List.append_eq_append_iff.mp cut with ⟨between, rfl, later⟩ | ⟨between, inside, later⟩
    · exact ih later
    · rcases between with _ | ⟨d, between⟩
      · exact ih (show escapeChars text = [] ++ '&' :: back from later.symm)
      obtain ⟨rfl, rfl⟩ := List.cons.inj later
      rcases escapeChar_cases c with entity | ⟨same, plain⟩
      · obtain rfl := prefix_of_ampersand entity inside
        refine ⟨_, entity, ?_⟩
        rw [inside]
        exact List.prefix_append ('&' :: between) _
      · rw [same] at inside
        have there : '&' ∈ [c] := inside ▸ List.mem_append_right _ List.mem_cons_self
        rw [← List.mem_singleton.mp there] at plain
        cases plain

/-- An escaped text has no angle brackets and no quotes, and its ampersands begin entities.
Reading the entities gives the text back, so no two texts are escaped to the same one. -/
theorem escape_faithful (text : String) :
    (∀ c ∈ (escape text).toList, c ≠ '<' ∧ c ≠ '>' ∧ c ≠ '"' ∧ c ≠ '\'') ∧
    (∀ front back, (escape text).toList = front ++ '&' :: back →
      ∃ entity ∈ entities, entity.1 <+: '&' :: back) ∧
    unescape (escape text) = text ∧
    ∀ other, escape other = escape text → other = text := by
  have readBack (text : String) : unescape (escape text) = text := by
    rw [unescape, escape, String.toList_ofList, unescapeChars_escapeChars, String.ofList_toList]
  refine ⟨?_, ?_, readBack text, ?_⟩
  · intro c member
    rw [escape, String.toList_ofList] at member
    rcases mem_escapeChars member with plain | ⟨entity, listed, inside⟩
    · simp only [isSpecial, Bool.or_eq_false_iff, decide_eq_false_iff_not] at plain
      obtain ⟨⟨⟨⟨opens, closes⟩, quote⟩, apostrophe⟩, -⟩ := plain
      exact ⟨opens, closes, quote, apostrophe⟩
    · have clean : (entities.all fun entity => entity.1.all fun c =>
          c != '<' && c != '>' && c != '"' && c != '\'') = true := by decide
      have harmless := List.all_eq_true.mp (List.all_eq_true.mp clean entity listed) c inside
      simpa only [Bool.and_eq_true, bne_iff_ne, and_assoc] using harmless
  · intro front back cut
    rw [escape, String.toList_ofList] at cut
    exact exists_entity_of_ampersand cut
  · intro other same
    rw [← readBack other, same, readBack text]

example : escape "&lt;" = "&amp;lt;" := by decide

end GameBundle.Markup
