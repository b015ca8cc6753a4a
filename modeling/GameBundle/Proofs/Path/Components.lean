import GameBundle.Path
import Mathlib.Data.List.Basic

/-!
# Components of joined paths

A path is its lead and the parts that carry a meaning. Joining a single part to a
path adds one component at the end, whatever slashes and dots the path has, so a
name joined to a directory is the file name of the whole.
-/

namespace GameBundle.Path

theorem splitParts_cons {c : Char} (hc : c ≠ '/') (rest : List Char) :
    splitParts (c :: rest) = match splitParts rest with
      | [] => [[c]]
      | part :: parts => (c :: part) :: parts :=
  splitParts.eq_3 c rest hc

theorem splitParts_ne_nil (text : List Char) : splitParts text ≠ [] := by
  cases text with
  | nil => simp [splitParts]
  | cons c rest =>
    by_cases hc : c = '/'
    · subst hc
      simp [splitParts]
    · rw [splitParts_cons hc]
      cases splitParts rest <;> simp

theorem splitParts_append_slash (front back : List Char) :
    splitParts (front ++ '/' :: back) = splitParts front ++ splitParts back := by
  induction front with
  | nil => simp [splitParts]
  | cons c rest ih =>
    by_cases hc : c = '/'
    · subst hc
      simp [splitParts, ih]
    · rw [List.cons_append, splitParts_cons hc, splitParts_cons hc, ih]
      cases h : splitParts rest with
      | nil => exact absurd h (splitParts_ne_nil rest)
      | cons part parts => rfl

theorem splitParts_of_clean {text : List Char} (clean : '/' ∉ text) : splitParts text = [text] := by
  induction text with
  | nil => rfl
  | cons c rest ih =>
    rw [List.mem_cons, not_or] at clean
    rw [splitParts_cons (Ne.symm clean.1), ih clean.2]

theorem clean_of_mem_splitParts {part text : List Char} (member : part ∈ splitParts text) :
    '/' ∉ part := by
  induction text generalizing part with
  | nil => simp_all [splitParts]
  | cons c rest ih =>
    by_cases hc : c = '/'
    · subst hc
      rw [splitParts, List.mem_cons] at member
      rcases member with rfl | later
      · simp
      · exact ih later
    · rw [splitParts_cons hc] at member
      cases h : splitParts rest with
      | nil => exact absurd h (splitParts_ne_nil rest)
      | cons first others =>
        rw [h] at member ih
        rcases List.mem_cons.mp member with rfl | later
        · rw [List.mem_cons, not_or]
          exact ⟨Ne.symm hc, ih List.mem_cons_self⟩
        · exact ih (List.mem_cons_of_mem first later)

theorem joinParts_splitParts (text : List Char) : joinParts (splitParts text) = text := by
  induction text with
  | nil => rfl
  | cons c rest ih =>
    cases parts : splitParts rest with
    | nil => exact absurd parts (splitParts_ne_nil rest)
    | cons part others =>
      rw [parts] at ih
      by_cases hc : c = '/'
      · subst hc
        rw [splitParts, parts, joinParts, ih]
        · rfl
        · simp
      · rw [splitParts_cons hc, parts]
        cases others with
        | nil => exact congrArg (List.cons c) ih
        | cons next others => exact congrArg (List.cons c) ih

def lead (path : Path) : Lead := (split path.text.toList).1

def solidParts (path : Path) : List (List Char) :=
  (splitParts path.text.toList).filter fun part => !isVoid part

/-- What follows the beginning of a path has the meaningful parts of the whole. -/
theorem solidParts_split (text : List Char) :
    (splitParts (split text).2).filter (fun part => !isVoid part) =
      (splitParts text).filter fun part => !isVoid part := by
  rcases text with _ | ⟨c, rest⟩
  · rfl
  · by_cases hc : c = '/'
    · subst hc
      simp [split, splitParts, isVoid]
    · by_cases hd : c = '.'
      · subst hd
        rcases rest with _ | ⟨d, rest⟩
        · simp [split, splitParts, isVoid]
        · by_cases hs : d = '/'
          · subst hs
            simp [split, splitParts, isVoid]
          · simp [split, hs]
      · simp [split, hc, hd]

theorem components_eq (path : Path) :
    path.components = path.lead.components ++ path.solidParts.map Component.ofPart := by
  unfold components lead solidParts
  rw [← solidParts_split]

theorem split_join {base more : List Char} (inhabited : base ≠ []) (relative : more.head? ≠ some '/') :
    (split (joinText base more)).1 = (split base).1 := by
  unfold joinText
  rw [if_neg relative]
  rcases base with _ | ⟨c, rest⟩
  · exact absurd rfl inhabited
  · by_cases hc : c = '/'
    · subst hc
      split <;> rfl
    · by_cases hd : c = '.'
      · subst hd
        rcases rest with _ | ⟨d, rest⟩
        · simp [Path.split]
        · by_cases hs : d = '/'
          · subst hs
            split <;> rfl
          · split <;> simp [Path.split, hs]
      · split <;> simp [Path.split, hc, hd]

theorem split_of_solid {part : List Char} (clean : '/' ∉ part) (solid : isVoid part = false) :
    (split part).1 = .bare := by
  rcases part with _ | ⟨c, rest⟩
  · simp [isVoid] at solid
  · rw [List.mem_cons, not_or] at clean
    by_cases hd : c = '.'
    · subst hd
      rcases rest with _ | ⟨d, rest⟩
      · simp [isVoid] at solid
      · have hs : d ≠ '/' := fun h => clean.2 (by simp [h])
        simp [split, hs]
    · simp [split, hd, Ne.symm clean.1]

theorem solidParts_join {base more : List Char} (relative : more.head? ≠ some '/') :
    (splitParts (joinText base more)).filter (fun part => !isVoid part) =
      (splitParts base ++ splitParts more).filter fun part => !isVoid part := by
  unfold joinText
  rw [if_neg relative]
  split
  · rename_i h
    rcases h with rfl | slash
    · simp [splitParts, isVoid]
    · obtain ⟨front, rfl⟩ : ∃ front, base = front ++ ['/'] := by
        rw [List.getLast?_eq_some_iff] at slash
        exact slash
      rw [List.append_assoc, List.singleton_append, splitParts_append_slash,
        splitParts_append_slash]
      simp [splitParts, isVoid]
  · rw [splitParts_append_slash]

theorem head?_ne_slash {part : List Char} (clean : '/' ∉ part) : part.head? ≠ some '/' := by
  intro h
  exact clean (List.mem_of_mem_head? h)

theorem solidParts_join_part {path : Path} {part : String} (clean : '/' ∉ part.toList)
    (solid : isVoid part.toList = false) :
    (path / part).solidParts = path.solidParts ++ [part.toList] := by
  change List.filter _ (splitParts (String.ofList _).toList) = _
  rw [String.toList_ofList, solidParts_join (head?_ne_slash clean), List.filter_append,
    splitParts_of_clean clean]
  simp [solidParts, solid]

theorem components_join {path : Path} {part : String} (clean : '/' ∉ part.toList)
    (solid : isVoid part.toList = false) :
    (path / part).components = path.components ++ [Component.ofPart part.toList] := by
  have relative := head?_ne_slash clean
  have begins : (path / part).lead.components = path.lead.components := by
    change (split (String.ofList _).toList).1.components = (split path.text.toList).1.components
    rw [String.toList_ofList]
    by_cases blank : path.text.toList = []
    · have joined : joinText path.text.toList part.toList = part.toList := by
        simp [joinText, blank]
      rw [joined, split_of_solid clean solid, blank]
      rfl
    · rw [split_join blank relative]
  rw [components_eq, components_eq, solidParts_join_part clean solid, begins]
  simp

/-- A text that can stand as the name of something inside a directory. -/
def IsName (text : String) : Prop :=
  '/' ∉ text.toList ∧ text.toList ≠ [] ∧ text.toList ≠ ['.'] ∧ text.toList ≠ ['.', '.']

instance (text : String) : Decidable (IsName text) :=
  inferInstanceAs (Decidable (_ ∧ _))

namespace IsName

variable {text : String}

theorem clean (name : IsName text) : '/' ∉ text.toList := name.1

theorem solid (name : IsName text) : isVoid text.toList = false := by
  simp [isVoid, name.2.1, name.2.2.1]

theorem level (name : IsName text) : text.toList ≠ ['.', '.'] := name.2.2.2

theorem ofPart (name : IsName text) : Component.ofPart text.toList = .name text := by
  simp [Component.ofPart, name.level]

theorem of_length (clean : '/' ∉ text.toList) (long : 2 < text.toList.length) : IsName text := by
  refine ⟨clean, ?_, ?_, ?_⟩ <;>
  · intro same
    simp [same] at long

end IsName

/-- Joining to the nameless path changes nothing. -/
theorem blank_join (text : String) : Path.mk "" / text = ⟨text⟩ := by
  change Path.mk (String.ofList (joinText "".toList text.toList)) = _
  simp [joinText]

theorem components_join_name {path : Path} {text : String} (name : IsName text) :
    (path / text).components = path.components ++ [.name text] := by
  rw [components_join name.clean name.solid, name.ofPart]

theorem text_join_ne {path : Path} {text : String} (name : IsName text) :
    (path / text).text ≠ "" := by
  intro blank
  have whole : (path / text).components = path.components ++ [.name text] :=
    components_join_name name
  rw [show path / text = ⟨""⟩ from congrArg Path.mk blank] at whole
  simp [components, split, splitParts, isVoid, Lead.components] at whole

theorem fileName?_join {path : Path} {text : String} (name : IsName text) :
    (path / text).fileName? = some text := by
  simp [fileName?, components_join_name name]

theorem isName_of_mem_components {path : Path} {text : String}
    (member : Component.name text ∈ path.components) : IsName text := by
  rw [components_eq, List.mem_append] at member
  rcases member with first | later
  · cases h : path.lead <;> simp [h, Lead.components] at first
  · obtain ⟨part, inside, same⟩ := List.mem_map.mp later
    rw [solidParts, List.mem_filter] at inside
    by_cases up : part = ['.', '.']
    · simp [Component.ofPart, up] at same
    · simp only [Component.ofPart, up, if_false, Component.name.injEq] at same
      subst same
      have solid : isVoid part = false := by simpa using inside.2
      simp only [isVoid, Bool.or_eq_false_iff, beq_eq_false_iff_ne] at solid
      refine ⟨?_, ?_, ?_, ?_⟩ <;> rw [String.toList_ofList]
      · exact clean_of_mem_splitParts inside.1
      · exact solid.1
      · exact solid.2
      · exact up

theorem isName_of_fileName? {path : Path} {text : String} (h : path.fileName? = some text) :
    IsName text := by
  unfold fileName? at h
  cases last : path.components.getLast? with
  | none => simp [last] at h
  | some component =>
    cases component with
    | name other =>
      simp only [last, Option.some.injEq] at h
      subst h
      exact isName_of_mem_components (List.mem_of_getLast? last)
    | root => simp [last] at h
    | here => simp [last] at h
    | up => simp [last] at h

end GameBundle.Path
