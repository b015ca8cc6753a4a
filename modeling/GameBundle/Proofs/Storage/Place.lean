import GameBundle.Proofs.Path.Components
import GameBundle.Storage.Memory

/-!
# Places of paths in memory

The place of a path follows its components from the home directory, so it depends on
the components alone. A path joined to another leads below it as long as no double
dots are on the way.
-/

namespace GameBundle

def Path.Component.follow (place : Place) : Component → Place
  | .root => []
  | .here => place
  | .up => place.dropLast
  | .name text => place ++ [text]

namespace Memory

open GameBundle.Path (splitParts isVoid Component)

theorem step_of_void {place : Place} {part : List Char} (void : isVoid part = true) :
    step place part = place := by
  simp [step, void]

theorem step_eq_follow {place : Place} {part : List Char} (solid : isVoid part = false) :
    step place part = (Component.ofPart part).follow place := by
  unfold step Component.ofPart
  rw [solid]
  by_cases up : part = ['.', '.'] <;> simp [up, Component.follow]

theorem foldl_step_solid (parts : List (List Char)) (place : Place) :
    parts.foldl step place = (parts.filter fun part => !isVoid part).foldl step place := by
  induction parts generalizing place with
  | nil => rfl
  | cons part parts ih =>
    cases void : isVoid part with
    | true => simp [void, step_of_void void, ih]
    | false => simp [void, ih]

theorem foldl_step_eq_follow {parts : List (List Char)} (place : Place)
    (solid : ∀ part ∈ parts, isVoid part = false) :
    parts.foldl step place = (parts.map Component.ofPart).foldl Component.follow place := by
  induction parts generalizing place with
  | nil => rfl
  | cons part parts ih =>
    rw [List.foldl_cons, List.map_cons, List.foldl_cons, step_eq_follow (solid part (by simp)),
      ih _ (fun other member => solid other (by simp [member]))]

theorem lead_eq_root_iff (path : Path) : path.lead = .root ↔ path.isAbsolute = true := by
  unfold Path.lead Path.isAbsolute
  rcases path.text.toList with _ | ⟨c, rest⟩
  · simp [Path.split]
  · by_cases hc : c = '/'
    · simp [hc, Path.split]
    · have notRoot : (Path.split (c :: rest)).1 ≠ .root := by
        by_cases hd : c = '.'
        · subst hd
          rcases rest with _ | ⟨d, rest⟩
          · simp [Path.split]
          · by_cases hs : d = '/' <;> simp [Path.split, hs]
        · simp [Path.split, hc, hd]
      simp [notRoot, hc]

theorem locate_eq_solidParts (home : Place) (path : Path) :
    locate home path = (path.solidParts.map Component.ofPart).foldl Component.follow
      (if path.isAbsolute then [] else home) := by
  have solid : ∀ part ∈ path.solidParts, isVoid part = false := by
    intro part member
    have := (List.mem_filter.mp member).2
    simpa using this
  rw [locate, foldl_step_solid, ← foldl_step_eq_follow _ solid]
  rfl

theorem locate_eq_follow (home : Place) (path : Path) :
    locate home path = path.components.foldl Component.follow home := by
  have begins : path.lead.components.foldl Component.follow home =
      if path.isAbsolute then [] else home := by
    by_cases h : path.isAbsolute = true
    · rw [(lead_eq_root_iff path).mpr h, if_pos h]
      rfl
    · rw [if_neg h]
      cases hl : path.lead with
      | root => exact absurd ((lead_eq_root_iff path).mp hl) h
      | here => rfl
      | bare => rfl
  rw [Path.components_eq, List.foldl_append, begins, locate_eq_solidParts]

theorem foldl_follow_name (place names : Place) :
    (names.map Component.name).foldl Component.follow place = place ++ names := by
  induction names generalizing place with
  | nil => simp
  | cons name names ih =>
    rw [List.map_cons, List.foldl_cons, ih, Component.follow, List.append_assoc]
    rfl

/-- Paths that agree component by component lead to the same place. -/
theorem locate_congr {home : Place} {path other : Path} (same : path.same other = true) :
    locate home path = locate home other := by
  rw [locate_eq_follow, locate_eq_follow, beq_iff_eq.mp same]

theorem locate_join_name {home : Place} {path : Path} {text : String} (name : Path.IsName text) :
    locate home (path / text) = locate home path ++ [text] := by
  rw [locate_eq_follow, locate_eq_follow, Path.components_join_name name, List.foldl_append]
  rfl

/-- A relative path joined to another is followed from where that one leads. -/
theorem locate_join {home : Place} {path : Path} {more : String}
    (relative : (Path.mk more).isAbsolute = false) :
    locate home (path / more) = (splitParts more.toList).foldl step (locate home path) := by
  have head : more.toList.head? ≠ some '/' := by simpa [Path.isAbsolute] using relative
  have start : (path / more).isAbsolute = path.isAbsolute := by
    have same : (path / more).lead = .root ↔ path.lead = .root := by
      change (Path.split (String.ofList _).toList).1 = _ ↔ (Path.split path.text.toList).1 = _
      rw [String.toList_ofList]
      by_cases blank : path.text.toList = []
      · have joined : Path.joinText path.text.toList more.toList = more.toList := by
          simp [Path.joinText, blank]
        have other := lead_eq_root_iff ⟨more⟩
        rw [relative] at other
        rw [joined, blank]
        exact ⟨fun h => absurd (other.mp h) (by simp), fun h => by simp [Path.split] at h⟩
      · rw [Path.split_join blank head]
    rw [lead_eq_root_iff, lead_eq_root_iff] at same
    exact Bool.eq_iff_iff.mpr same
  unfold locate
  rw [start, foldl_step_solid]
  change (List.filter _ (splitParts (String.ofList _).toList)).foldl step _ = _
  rw [String.toList_ofList, Path.solidParts_join head, List.filter_append, List.foldl_append,
    ← foldl_step_solid, ← foldl_step_solid]

theorem prefix_foldl_step {parts : List (List Char)} (level : ∀ part ∈ parts, part ≠ ['.', '.'])
    (place : Place) : place <+: parts.foldl step place := by
  induction parts generalizing place with
  | nil => exact List.prefix_rfl
  | cons part parts ih =>
    have later := ih (fun other member => level other (by simp [member])) (step place part)
    refine List.IsPrefix.trans ?_ later
    unfold step
    split
    · exact List.prefix_rfl
    · rw [if_neg (level part (by simp))]
      exact List.prefix_append place _

end Memory

namespace Path

/-- Whether a text is a relative path without double dots. -/
def isInner (more : String) : Bool :=
  !(Path.mk more).isAbsolute && (splitParts more.toList).all fun part => part != ['.', '.']

theorem relative_of_isInner {more : String} (inner : isInner more = true) :
    (Path.mk more).isAbsolute = false := by
  simp only [isInner, Bool.and_eq_true, Bool.not_eq_true'] at inner
  exact inner.1

theorem isInner_of_isName {text : String} (name : IsName text) : isInner text = true := by
  have relative := head?_ne_slash name.clean
  simp [isInner, isAbsolute, relative, splitParts_of_clean name.clean, name.level]

/-- Whether the parts of a text are all names. -/
def isPlain (more : List Char) : Bool :=
  (splitParts more).all fun part => !isVoid part && part != ['.', '.']

theorem isInner_of_isPlain {more : String} (plain : isPlain more.toList = true) :
    isInner more = true := by
  have relative : (Path.mk more).isAbsolute = false := by
    unfold isAbsolute
    rcases chars : more.toList with _ | ⟨c, rest⟩
    · rfl
    · by_cases hc : c = '/'
      · subst hc
        simp [isPlain, chars, splitParts, isVoid] at plain
      · simp [hc]
  simp only [isPlain, List.all_eq_true, Bool.and_eq_true, bne_iff_ne] at plain
  simp only [isInner, relative, Bool.not_false, Bool.true_and, List.all_eq_true, bne_iff_ne]
  exact fun part member => (plain part member).2

end Path

namespace Memory

open GameBundle.Path (splitParts isVoid)

/-- An inner path joined to another leads to the place of that one or below it. -/
theorem prefix_locate_join {home : Place} {path : Path} {more : String}
    (inner : Path.isInner more = true) : locate home path <+: locate home (path / more) := by
  simp only [Path.isInner, Bool.and_eq_true, Bool.not_eq_true', List.all_eq_true, bne_iff_ne] at inner
  rw [locate_join inner.1]
  exact prefix_foldl_step inner.2 _

example : Path.isInner "effects/../../glow.js" = false := by decide

theorem foldl_step_plain {parts : List (List Char)}
    (plain : ∀ part ∈ parts, isVoid part = false ∧ part ≠ ['.', '.']) (place : Place) :
    parts.foldl step place = place ++ parts.map String.ofList := by
  induction parts generalizing place with
  | nil => simp
  | cons part parts ih =>
    obtain ⟨solid, level⟩ := plain part (by simp)
    have first : step place part = place ++ [String.ofList part] := by simp [step, solid, level]
    rw [List.foldl_cons, first, ih fun other member => plain other (by simp [member])]
    simp

theorem locate_join_plain {home : Place} {path : Path} {more : String}
    (plain : Path.isPlain more.toList = true) :
    locate home (path / more) = locate home path ++ (splitParts more.toList).map String.ofList := by
  rw [locate_join (Path.relative_of_isInner (Path.isInner_of_isPlain plain))]
  apply foldl_step_plain
  simpa [Path.isPlain] using plain

/-- A path without double dots is followed from wherever it is joined to. -/
theorem locate_join_inner {home : Place} {path : Path} {more : String}
    (inner : Path.isInner more = true) :
    locate home (path / more) = locate home path ++ locate [] ⟨more⟩ := by
  simp only [Path.isInner, Bool.and_eq_true, Bool.not_eq_true', List.all_eq_true,
    bne_iff_ne] at inner
  have plain : ∀ part ∈ (splitParts more.toList).filter fun part => !isVoid part,
      isVoid part = false ∧ part ≠ ['.', '.'] := by
    intro part member
    obtain ⟨inside, solid⟩ := List.mem_filter.mp member
    exact ⟨by simpa using solid, inner.2 part inside⟩
  rw [locate_join inner.1, foldl_step_solid, foldl_step_plain plain]
  congr 1
  rw [locate, foldl_step_solid, inner.1, foldl_step_plain plain]
  simp

theorem getLast?_locate_join {home : Place} {path : Path} {more : String}
    (plain : Path.isPlain more.toList = true) :
    (locate home (path / more)).getLast? =
      ((splitParts more.toList).map String.ofList).getLast? := by
  have inhabited := Path.splitParts_ne_nil more.toList
  rw [locate_join_plain plain, List.getLast?_append]
  simp [List.getLast?_eq_some_getLast inhabited]

end Memory

end GameBundle
