import GameBundle.Proofs.Json.Spelling

/-!
# The grammar of documents

A text is read as a value exactly when it is the text of a document of that value that is not
nested too deep. One direction reads a spelling. In the other the reader's run is followed step by
step, and each spot that it does not give up on is found to be spelled.
-/

namespace GameBundle.Json

open Quoted (Letter textOf literal)

mutual

/-- The draft of a spelling has one fault at most, that of being too deep. -/
theorem Spelling.decodeValue_draft : ∀ (spelling : Spelling) (setting : Setting),
    spelling.draft.decodeValue setting =
      if spelling.depth ≤ setting.room then .ok (spelling.valueBy textOf) else .error .tooDeep
  | .null, _ => rfl
  | .bool _, _ => rfl
  | .number _, _ => rfl
  | .string _, _ => rfl
  | .array items, ⟨0, fromText⟩ => rfl
  | .object members, ⟨0, fromText⟩ => rfl
  | .array items, ⟨room + 1, fromText⟩ => by
    have inner := ItemSpellings.decodeValues_draft items ⟨room, fromText⟩
    simp only [Spelling.draft, Draft.decodeValue, Setting.enter, bind, Except.bind, inner,
      Spelling.depth, Spelling.valueBy, Nat.add_le_add_iff_right]
    by_cases high : items.depth ≤ room <;> simp [high, pure, Except.pure]
  | .object members, ⟨room + 1, fromText⟩ => by
    have inner := MemberSpellings.decodeValues_draft members ⟨room, fromText⟩ []
    simp only [Spelling.draft, Draft.decodeValue, Setting.enter, bind, Except.bind, inner,
      Spelling.depth, Spelling.valueBy, Nat.add_le_add_iff_right]
    by_cases high : members.depth ≤ room <;> simp [high, pure, Except.pure]

theorem ItemSpellings.decodeValues_draft : ∀ (items : ItemSpellings) (setting : Setting),
    items.draft.decodeValues setting =
      if items.depth ≤ setting.room then .ok (items.valuesBy textOf) else .error .tooDeep
  | .close _, _ => by simp [ItemSpellings.draft, Items.decodeValues, ItemSpellings.depth,
      ItemSpellings.valuesBy]
  | .item _ value _ rest, setting => by
    have first := Spelling.decodeValue_draft value setting
    have later := ItemSpellings.decodeValues_draft rest setting
    simp only [ItemSpellings.draft, Items.decodeValues, first, later, ItemSpellings.depth,
      ItemSpellings.valuesBy, Nat.max_le]
    by_cases high : value.depth ≤ setting.room <;> by_cases wide : rest.depth ≤ setting.room <;>
      simp [high, wide, bind, Except.bind, pure, Except.pure]

theorem MemberSpellings.decodeValues_draft : ∀ (members : MemberSpellings) (setting : Setting)
    (entries : Dictionary Json), members.draft.decodeValues setting entries =
      if members.depth ≤ setting.room then .ok (members.valuesBy textOf entries)
      else .error .tooDeep
  | .close _, _, _ => by simp [MemberSpellings.draft, Members.decodeValues, MemberSpellings.depth,
      MemberSpellings.valuesBy]
  | .member _ key _ _ value _ rest, setting, entries => by
    have first := Spelling.decodeValue_draft value setting
    have later (known : Dictionary Json) := MemberSpellings.decodeValues_draft rest setting known
    simp only [MemberSpellings.draft, Members.decodeValues, first, later, MemberSpellings.depth,
      MemberSpellings.valuesBy, Nat.max_le]
    by_cases high : value.depth ≤ setting.room <;> by_cases wide : rest.depth ≤ setting.room <;>
      simp [high, wide, bind, Except.bind]

end

/-- A draft that can be decoded to a value. -/
def Draft.Whole (draft : Draft) : Prop := ∃ setting value, draft.decodeValue setting = .ok value

def Items.Whole (items : Items) : Prop := ∃ setting values, items.decodeValues setting = .ok values

def Members.Whole (members : Members) : Prop :=
  ∃ setting entries result, members.decodeValues setting entries = .ok result

theorem Draft.not_whole_flawed {flaw : Flaw} : ¬(Draft.flawed flaw).Whole :=
  fun ⟨_, _, taken⟩ => nomatch taken

theorem Items.not_whole_broken {cause : ItemsBreak} : ¬(Items.broken cause).Whole :=
  fun ⟨_, _, taken⟩ => nomatch taken

theorem Members.not_whole_broken {cause : MembersBreak} : ¬(Members.broken cause).Whole :=
  fun ⟨_, _, _, taken⟩ => nomatch taken

theorem Draft.Whole.items {items : Items} (whole : (Draft.array items).Whole) : items.Whole := by
  obtain ⟨setting, value, taken⟩ := whole
  obtain ⟨inner, -, taken⟩ := bind_eq_ok taken
  obtain ⟨values, held, -⟩ := bind_eq_ok taken
  exact ⟨inner, values, held⟩

theorem Draft.Whole.members {members : Members} (whole : (Draft.object members).Whole) :
    members.Whole := by
  obtain ⟨setting, value, taken⟩ := whole
  obtain ⟨inner, -, taken⟩ := bind_eq_ok taken
  obtain ⟨entries, held, -⟩ := bind_eq_ok taken
  exact ⟨inner, [], entries, held⟩

theorem Items.Whole.parts {value : Draft} {rest : Items} (whole : (Items.item value rest).Whole) :
    value.Whole ∧ rest.Whole := by
  obtain ⟨setting, values, taken⟩ := whole
  obtain ⟨first, head, taken⟩ := bind_eq_ok taken
  obtain ⟨others, tail, -⟩ := bind_eq_ok taken
  exact ⟨⟨setting, first, head⟩, setting, others, tail⟩

theorem Members.Whole.parts {key : Except Fault String} {value : Draft} {rest : Members}
    (whole : (Members.member key value rest).Whole) :
    (∃ name, key = .ok name) ∧ value.Whole ∧ rest.Whole := by
  obtain ⟨setting, entries, result, taken⟩ := whole
  obtain ⟨name, named, taken⟩ := bind_eq_ok taken
  obtain ⟨held, head, taken⟩ := bind_eq_ok taken
  exact ⟨⟨name, named⟩, ⟨setting, held, head⟩, setting, _, result, taken⟩

namespace Numeral

theorem finish_cases (numeral : Numeral) (text : List Char) :
    (∃ value rest, finish numeral text = (.number value, some rest)) ∨
      ∃ flaw, (finish numeral text).1 = .flawed flaw := by
  unfold finish
  split
  · exact .inl ⟨_, _, rfl⟩
  · exact .inr ⟨_, rfl⟩

theorem readExponent_cases (numeral : Numeral) (text : List Char) :
    (∃ value rest, readExponent numeral text = (.number value, some rest)) ∨
      ∃ flaw, (readExponent numeral text).1 = .flawed flaw := by
  unfold readExponent
  split
  · split
    · exact finish_cases _ _
    · exact .inr ⟨_, rfl⟩
  · split
    · exact finish_cases _ _
    · exact .inr ⟨_, rfl⟩
  · exact finish_cases _ _

theorem readMagnitude_cases (negative : Bool) (text : List Char) :
    (∃ value rest, readMagnitude negative text = (.number value, some rest)) ∨
      ∃ flaw, (readMagnitude negative text).1 = .flawed flaw := by
  unfold readMagnitude
  dsimp only
  split
  · exact .inr ⟨_, rfl⟩
  · split
    · exact .inr ⟨_, rfl⟩
    · split
      · split
        · exact .inr ⟨_, rfl⟩
        · exact readExponent_cases _ _
      · exact readExponent_cases _ _

theorem exists_of_read {text : List Char} {draft : Draft} {left : Option (List Char)}
    (done : read text = (draft, left)) (whole : draft.Whole) :
    ∃ (number : NumberSpelling) (rest : List Char), text = number.spelling ++ rest ∧
      draft = .number number.value ∧ left = some rest := by
  have cases : (∃ value rest, read text = (.number value, some rest)) ∨
      ∃ flaw, (read text).1 = .flawed flaw := by
    unfold read
    split
    · exact readMagnitude_cases _ _
    · exact readMagnitude_cases _ _
  rcases cases with ⟨value, rest, found⟩ | ⟨flaw, found⟩
  · obtain ⟨number, same, rfl⟩ := read_eq_number found
    rw [found] at done
    cases done
    exact ⟨number, rest, same, rfl, rfl⟩
  · rw [done] at found
    dsimp only at found
    subst found
    exact absurd whole Draft.not_whole_flawed

end Numeral

namespace Reader

variable {text : List Char} {left : Option (List Char)}

/-- A word that is read to its end stands in the text letter by letter. -/
theorem exists_of_word {made draft : Draft} : ∀ {letters text : List Char},
    word made letters text = (draft, left) → draft.Whole →
      draft = made ∧ ∃ rest, text = letters ++ rest ∧ left = some rest
  | [], text, done, _ => by
    cases done
    exact ⟨rfl, text, rfl, rfl⟩
  | _ :: _, [], done, whole => by
    cases done
    exact absurd whole Draft.not_whole_flawed
  | letter :: letters, c :: text, done, whole => by
    rw [word] at done
    split at done
    · rename_i same
      obtain ⟨made, rest, rfl, ended⟩ := exists_of_word done whole
      exact ⟨made, rest, by rw [same, List.cons_append], ended⟩
    · cases done
      exact absurd whole Draft.not_whole_flawed

theorem exists_string {draft : Draft} (done : (match Quoted.read text with
      | (.ok text, rest) => (Draft.string text, rest)
      | (.error flaw, rest) => (.flawed flaw, rest)) = (draft, left)) (whole : draft.Whole) :
    ∃ letters rest, text = Quoted.spelling letters ++ '"' :: rest ∧
      draft = .string (textOf letters) ∧ left = some rest := by
  split at done
  · rename_i read
    cases done
    cases left with
    | none => exact absurd read Quoted.read_ne_unfinished
    | some rest =>
      obtain ⟨letters, same, rfl⟩ := Quoted.read_eq_ok read
      exact ⟨letters, rest, same, rfl, rfl⟩
  · cases done
    exact absurd whole Draft.not_whole_flawed

theorem exists_blanks {behind : List Char} (skipped : skipBlanks text = behind) :
    ∃ front : Blanks, text = front.chars ++ behind :=
  ⟨blanksOf text, by rw [← skipped, blanksOf_append_skipBlanks]⟩

mutual

/-- A value that is read without flaws is spelled, and what follows is left. Each recursive call
follows one of the reader's own. -/
theorem exists_spelling : ∀ {steps : Nat} {text : List Char} {draft : Draft}
    {left : Option (List Char)}, value steps text = (draft, left) → draft.Whole →
      ∃ (front : Blanks) (spelling : Spelling) (rest : List Char),
        text = front.chars ++ (spelling.chars ++ rest) ∧ draft = spelling.draft ∧
          left = some rest
  | 0, text, draft, left, done, whole => by
    cases done
    exact absurd whole Draft.not_whole_flawed
  | steps + 1, text, draft, left, done, whole => by
    rw [value] at done
    split at done
    case h_1 =>
      cases done
      exact absurd whole Draft.not_whole_flawed
    case h_2 rest skipped =>
      obtain ⟨front, rfl⟩ := exists_blanks skipped
      obtain ⟨rfl, rest, rfl, rfl⟩ := exists_of_word done whole
      exact ⟨front, .null, rest, rfl, rfl, rfl⟩
    case h_3 rest skipped =>
      obtain ⟨front, rfl⟩ := exists_blanks skipped
      obtain ⟨rfl, rest, rfl, rfl⟩ := exists_of_word done whole
      exact ⟨front, .bool true, rest, rfl, rfl, rfl⟩
    case h_4 rest skipped =>
      obtain ⟨front, rfl⟩ := exists_blanks skipped
      obtain ⟨rfl, rest, rfl, rfl⟩ := exists_of_word done whole
      exact ⟨front, .bool false, rest, rfl, rfl, rfl⟩
    case h_5 rest skipped =>
      obtain ⟨front, rfl⟩ := exists_blanks skipped
      obtain ⟨letters, behind, rfl, rfl, rfl⟩ := exists_string done whole
      exact ⟨front, .string letters, behind, by simp [Spelling.chars, literal], rfl, rfl⟩
    case h_6 rest skipped =>
      obtain ⟨front, rfl⟩ := exists_blanks skipped
      obtain ⟨rfl, rfl⟩ := Prod.mk.inj done
      obtain ⟨items, behind, rfl, made, ended⟩ := exists_firstItem rfl whole.items
      exact ⟨front, .array items, behind, rfl, by rw [made, Spelling.draft], ended⟩
    case h_7 rest skipped =>
      obtain ⟨front, rfl⟩ := exists_blanks skipped
      obtain ⟨rfl, rfl⟩ := Prod.mk.inj done
      obtain ⟨members, behind, rfl, made, ended⟩ := exists_firstMember rfl whole.members
      exact ⟨front, .object members, behind, rfl, by rw [made, Spelling.draft], ended⟩
    case h_8 c rest _ _ _ _ _ _ skipped =>
      split at done
      · obtain ⟨number, behind, same, rfl, rfl⟩ := Numeral.exists_of_read done whole
        obtain ⟨front, rfl⟩ := exists_blanks skipped
        exact ⟨front, .number number, behind, by rw [same, Spelling.chars], rfl, rfl⟩
      · cases done
        exact absurd whole Draft.not_whole_flawed

theorem exists_firstItem : ∀ {steps : Nat} {text : List Char} {made : Items}
    {left : Option (List Char)}, firstItem steps text = (made, left) → made.Whole →
      ∃ (items : ItemSpellings) (rest : List Char),
        text = items.chars [] ++ rest ∧ made = items.draft ∧ left = some rest
  | 0, text, made, left, done, whole => by
    cases done
    exact absurd whole Items.not_whole_broken
  | steps + 1, text, made, left, done, whole => by
    rw [firstItem] at done
    split at done
    case h_1 =>
      cases done
      exact absurd whole Items.not_whole_broken
    case h_2 rest skipped =>
      obtain ⟨front, rfl⟩ := exists_blanks skipped
      cases done
      exact ⟨.close front, rest, by simp [ItemSpellings.chars], rfl, rfl⟩
    case h_3 =>
      obtain ⟨front, spelling, back, others, rest, same, rfl, rfl⟩ := exists_item done whole
      obtain ⟨gap, rfl⟩ := exists_blanks same
      exact ⟨.item (gap.append front) spelling back others, rest, by simp [ItemSpellings.chars],
        rfl, rfl⟩

theorem exists_item : ∀ {steps : Nat} {text : List Char} {made : Items}
    {left : Option (List Char)}, item steps text = (made, left) → made.Whole →
      ∃ (front : Blanks) (spelling : Spelling) (back : Blanks) (others : ItemSpellings)
        (rest : List Char), text = front.chars ++ (spelling.chars ++ (back.chars ++
            (others.chars [','] ++ rest))) ∧
          made = .item spelling.draft others.draft ∧ left = some rest
  | 0, text, made, left, done, whole => by
    cases done
    exact absurd whole Items.not_whole_broken
  | steps + 1, text, made, left, done, whole => by
    rw [item] at done
    split at done
    case h_1 draft first =>
      cases done
      exact absurd whole.parts.2 Items.not_whole_broken
    case h_2 draft behind first =>
      obtain ⟨rfl, rfl⟩ := Prod.mk.inj done
      obtain ⟨front, spelling, rest, rfl, rfl, ended⟩ := exists_spelling first whole.parts.1
      obtain rfl := Option.some.inj ended
      obtain ⟨back, others, rest, rfl, made, ended⟩ := exists_nextItem rfl whole.parts.2
      exact ⟨front, spelling, back, others, rest, rfl, by rw [made], ended⟩

theorem exists_nextItem : ∀ {steps : Nat} {text : List Char} {made : Items}
    {left : Option (List Char)}, nextItem steps text = (made, left) → made.Whole →
      ∃ (back : Blanks) (items : ItemSpellings) (rest : List Char),
        text = back.chars ++ (items.chars [','] ++ rest) ∧ made = items.draft ∧ left = some rest
  | 0, text, made, left, done, whole => by
    cases done
    exact absurd whole Items.not_whole_broken
  | steps + 1, text, made, left, done, whole => by
    rw [nextItem] at done
    split at done
    case h_1 =>
      cases done
      exact absurd whole Items.not_whole_broken
    case h_2 rest skipped =>
      obtain ⟨back, rfl⟩ := exists_blanks skipped
      cases done
      exact ⟨back, .close .none, rest, rfl, rfl, rfl⟩
    case h_3 behind skipped =>
      split at done
      case h_1 =>
        cases done
        exact absurd whole Items.not_whole_broken
      case h_2 =>
        cases done
        exact absurd whole Items.not_whole_broken
      case h_3 =>
        obtain ⟨front, spelling, back, others, rest, same, rfl, rfl⟩ := exists_item done whole
        obtain ⟨gap, rfl⟩ := exists_blanks skipped
        obtain ⟨ahead, rfl⟩ := exists_blanks same
        exact ⟨gap, .item (ahead.append front) spelling back others, rest,
          by simp [ItemSpellings.chars], rfl, rfl⟩
    case h_4 =>
      cases done
      exact absurd whole Items.not_whole_broken

theorem exists_firstMember : ∀ {steps : Nat} {text : List Char} {made : Members}
    {left : Option (List Char)}, firstMember steps text = (made, left) → made.Whole →
      ∃ (members : MemberSpellings) (rest : List Char),
        text = members.chars [] ++ rest ∧ made = members.draft ∧ left = some rest
  | 0, text, made, left, done, whole => by
    cases done
    exact absurd whole Members.not_whole_broken
  | steps + 1, text, made, left, done, whole => by
    rw [firstMember] at done
    split at done
    case h_1 =>
      cases done
      exact absurd whole Members.not_whole_broken
    case h_2 rest skipped =>
      obtain ⟨front, rfl⟩ := exists_blanks skipped
      cases done
      exact ⟨.close front, rest, by simp [MemberSpellings.chars], rfl, rfl⟩
    case h_3 behind skipped =>
      obtain ⟨key, middle, ahead, spelling, back, others, rest, rfl, rfl, rfl⟩ :=
        exists_member done whole
      obtain ⟨front, rfl⟩ := exists_blanks skipped
      exact ⟨.member front key middle ahead spelling back others, rest,
        by simp [MemberSpellings.chars, literal], rfl, rfl⟩
    case h_4 =>
      cases done
      exact absurd whole Members.not_whole_broken

theorem exists_member : ∀ {steps : Nat} {text : List Char} {made : Members}
    {left : Option (List Char)}, member steps text = (made, left) → made.Whole →
      ∃ (key : List Letter) (middle ahead : Blanks) (spelling : Spelling) (back : Blanks)
        (others : MemberSpellings) (rest : List Char),
        text = Quoted.spelling key ++ '"' :: (middle.chars ++ ':' :: (ahead.chars ++
            (spelling.chars ++ (back.chars ++ (others.chars [','] ++ rest))))) ∧
          made = .member (.ok (textOf key)) spelling.draft others.draft ∧ left = some rest
  | 0, text, made, left, done, whole => by
    cases done
    exact absurd whole Members.not_whole_broken
  | steps + 1, text, made, left, done, whole => by
    rw [member] at done
    split at done
    case h_1 =>
      cases done
      exact absurd whole Members.not_whole_broken
    case h_2 =>
      cases done
      exact absurd whole.parts.2.2 Members.not_whole_broken
    case h_3 key behind read =>
      dsimp only at done
      split at done
      case h_1 =>
        cases done
        exact absurd whole.parts.2.2 Members.not_whole_broken
      case h_2 follower skipped =>
        split at done
        case h_1 =>
          cases done
          exact absurd whole.parts.2.2 Members.not_whole_broken
        case h_2 draft next first =>
          obtain ⟨rfl, rfl⟩ := Prod.mk.inj done
          obtain ⟨name, named⟩ := whole.parts.1
          obtain ⟨ahead, spelling, rest, rfl, rfl, ended⟩ := exists_spelling first whole.parts.2.1
          obtain rfl := Option.some.inj ended
          obtain ⟨back, others, rest, rfl, made, ended⟩ := exists_nextMember rfl whole.parts.2.2
          cases key with
          | error flaw => cases named
          | ok text =>
            obtain ⟨letters, rfl, rfl⟩ := Quoted.read_eq_ok read
            obtain ⟨middle, rfl⟩ := exists_blanks skipped
            exact ⟨letters, middle, ahead, spelling, back, others, rest, rfl, by rw [made], ended⟩
      case h_3 =>
        cases done
        exact absurd whole.parts.2.2 Members.not_whole_broken

theorem exists_nextMember : ∀ {steps : Nat} {text : List Char} {made : Members}
    {left : Option (List Char)}, nextMember steps text = (made, left) → made.Whole →
      ∃ (back : Blanks) (members : MemberSpellings) (rest : List Char),
        text = back.chars ++ (members.chars [','] ++ rest) ∧ made = members.draft ∧
          left = some rest
  | 0, text, made, left, done, whole => by
    cases done
    exact absurd whole Members.not_whole_broken
  | steps + 1, text, made, left, done, whole => by
    rw [nextMember] at done
    split at done
    case h_1 =>
      cases done
      exact absurd whole Members.not_whole_broken
    case h_2 rest skipped =>
      obtain ⟨back, rfl⟩ := exists_blanks skipped
      cases done
      exact ⟨back, .close .none, rest, rfl, rfl, rfl⟩
    case h_3 behind skipped =>
      split at done
      case h_1 =>
        cases done
        exact absurd whole Members.not_whole_broken
      case h_2 =>
        cases done
        exact absurd whole Members.not_whole_broken
      case h_3 inner same =>
        obtain ⟨key, middle, ahead, spelling, back, others, rest, rfl, rfl, rfl⟩ :=
          exists_member done whole
        obtain ⟨gap, rfl⟩ := exists_blanks skipped
        obtain ⟨front, rfl⟩ := exists_blanks same
        exact ⟨gap, .member front key middle ahead spelling back others, rest,
          by simp [MemberSpellings.chars, literal], rfl, rfl⟩
      case h_4 =>
        cases done
        exact absurd whole Members.not_whole_broken
    case h_4 =>
      cases done
      exact absurd whole Members.not_whole_broken

end

end Reader

/-- The text of a document is read up to the blanks at its end. -/
theorem Document.ofText_text (document : Document) :
    Draft.ofText document.text = (document.spelling.draft, some document.back.chars) := by
  have ends : Numeral.Ends document.back.chars := by
    simpa using Reader.ends_append document.back Numeral.ends_nil
  have enough : 3 * document.spelling.chars.length ≤ 3 * document.text.length + 3 := by
    rw [← String.length_toList, toList_text, chars, List.length_append, List.length_append]
    omega
  rw [Draft.ofText, toList_text, chars, Reader.value_append]
  exact Reader.value_spelling ends enough

theorem Document.parse_spelling (document : Document) :
    parse document.text =
      if document.depth ≤ 127 then .ok document.value else .error .tooDeep := by
  have decoded : document.spelling.draft.decodeValue .ofText =
      if document.depth ≤ 127 then .ok document.value else .error .tooDeep :=
    document.spelling.decodeValue_draft .ofText
  have blank : Reader.skipBlanks document.back.chars = [] :=
    List.dropWhile_eq_nil_iff.mpr document.back.blank
  unfold parse Decoder.ofText
  rw [document.ofText_text, Decoder.value]
  dsimp only
  rw [decoded, blank]
  split <;> rfl

theorem exists_document {text : String} {value : Json} (done : parse text = .ok value) :
    ∃ document : Document, document.text = text := by
  rcases read : Draft.ofText text with ⟨draft, left⟩
  unfold parse Decoder.ofText at done
  rw [read] at done
  obtain ⟨decoded, taken, ended⟩ := bind_eq_ok done
  obtain ⟨front, spelling, rest, same, -, rfl⟩ :=
    Reader.exists_spelling read ⟨.ofText, decoded, taken⟩
  dsimp only at ended
  split at ended
  · rename_i blank
    obtain ⟨back, rfl⟩ := Reader.exists_blanks (List.isEmpty_iff.mp blank)
    refine ⟨⟨front, spelling, back⟩, String.toList_inj.mp ?_⟩
    rw [Document.toList_text, Document.chars, same, List.append_nil]
  · cases ended

/-- A text is read as a value exactly when it is the text of a document of this value in which
at most 127 containers are nested in each other. -/
theorem parse_eq_ok_iff {text : String} {value : Json} :
    parse text = .ok value ↔
      ∃ document : Document, document.text = text ∧ document.depth ≤ 127 ∧
        document.value = value := by
  constructor
  · intro done
    obtain ⟨document, rfl⟩ := exists_document done
    rw [document.parse_spelling] at done
    split at done
    · rename_i flat
      exact ⟨document, rfl, flat, Except.ok.inj done⟩
    · cases done
  · rintro ⟨document, rfl, flat, rfl⟩
    rw [document.parse_spelling, if_pos flat]

end GameBundle.Json
