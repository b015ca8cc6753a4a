import GameBundle.Proofs.Path.Components
import Mathlib.Data.List.TakeWhile

/-!
# The path above a name

Above a name that is joined to a path is that path, less the void parts at its end: a
beginning of the whole text that has the same meaningful parts.
-/

namespace GameBundle.Path

theorem lead_append_split (text : List Char) : (split text).1.text ++ (split text).2 = text := by
  unfold split
  split <;> rfl

theorem joinParts_append {front back : List (List Char)} (first : front ≠ []) (second : back ≠ []) :
    joinParts (front ++ back) = joinParts front ++ '/' :: joinParts back := by
  induction front with
  | nil => exact absurd rfl first
  | cons part parts ih =>
    cases parts with
    | nil =>
      obtain ⟨next, others, rfl⟩ := List.exists_cons_of_ne_nil second
      rfl
    | cons next others =>
      change part ++ '/' :: joinParts (next :: others ++ back) =
        part ++ '/' :: joinParts (next :: others) ++ _
      rw [ih (List.cons_ne_nil next others), List.append_assoc, List.cons_append]

theorem splitParts_joinParts {parts : List (List Char)} (inhabited : parts ≠ [])
    (clean : ∀ part ∈ parts, '/' ∉ part) : splitParts (joinParts parts) = parts := by
  induction parts with
  | nil => exact absurd rfl inhabited
  | cons part parts ih =>
    rw [List.forall_mem_cons] at clean
    by_cases last : parts = []
    · subst last
      exact splitParts_of_clean clean.1
    · rw [← List.singleton_append, joinParts_append (by simp) last]
      change splitParts (part ++ _) = _
      rw [splitParts_append_slash, splitParts_of_clean clean.1, ih last clean.2]

theorem dropVoidEnd_concat {parts : List (List Char)} {part : List Char}
    (solid : isVoid part = false) : dropVoidEnd (parts ++ [part]) = parts ++ [part] := by
  simp [dropVoidEnd, solid]

theorem exists_dropVoidEnd_append (parts : List (List Char)) :
    ∃ voids, parts = dropVoidEnd parts ++ voids ∧ ∀ part ∈ voids, isVoid part = true := by
  refine ⟨(parts.reverse.takeWhile isVoid).reverse, ?_, fun part member => ?_⟩
  · rw [dropVoidEnd, ← List.reverse_append, List.takeWhile_append_dropWhile, List.reverse_reverse]
  · exact List.mem_takeWhile_imp (List.mem_reverse.mp member)

/-- The last part of a text with a slash is that of what follows its beginning. -/
theorem splitParts_split_concat (front : List Char) {name : List Char} (clean : '/' ∉ name) :
    ∃ parts, splitParts (split (front ++ '/' :: name)).2 = parts ++ [name] := by
  have whole : splitParts (front ++ '/' :: name) = splitParts front ++ [name] := by
    rw [splitParts_append_slash, splitParts_of_clean clean]
  have later {part rest : List Char} (shape : part :: splitParts rest = splitParts front ++ [name]) :
      ∃ parts, splitParts rest = parts ++ [name] := by
    rcases List.cons_eq_append_iff.mp shape with ⟨-, single⟩ | ⟨parts, -, same⟩
    · rw [List.cons.injEq] at single
      exact absurd single.2.symm (splitParts_ne_nil rest)
    · exact ⟨parts, same⟩
  generalize front ++ '/' :: name = text at whole
  unfold split
  split
  · rename_i rest
    exact later whole
  · have single : [['.']] = splitParts front ++ [name] := whole
    rcases List.cons_eq_append_iff.mp single with ⟨none, -⟩ | ⟨parts, -, same⟩
    · exact absurd none (splitParts_ne_nil front)
    · cases parts <;> cases same
  · rename_i rest
    have shape : ['.'] :: splitParts rest = splitParts front ++ [name] := whole
    obtain ⟨parts, same⟩ := later shape
    exact ⟨[] :: parts, congrArg (List.cons []) same⟩
  · exact ⟨_, whole⟩

/-- A name joined to a path stands behind a slash. -/
theorem toList_join_name {path : Path} {text : String} (name : IsName text)
    (named : path.text ≠ "") :
    ∃ front, (path / text).text.toList = front ++ '/' :: text.toList := by
  have inhabited : path.text.toList ≠ [] := by simpa using named
  change ∃ front, (String.ofList (joinText _ _)).toList = _
  rw [String.toList_ofList, joinText, if_neg (head?_ne_slash name.clean)]
  split
  · rename_i slash
    obtain ⟨front, same⟩ := List.getLast?_eq_some_iff.mp (slash.resolve_left inhabited)
    exact ⟨front, by rw [same, List.append_assoc, List.singleton_append]⟩
  · exact ⟨_, rfl⟩

theorem solidParts_lead (lead : Lead) : (Path.mk (String.ofList lead.text)).solidParts = [] := by
  cases lead <;> decide

theorem parent?_join_name {path : Path} {text : String} (name : IsName text)
    (named : path.text ≠ "") : ∃ above : Path, (path / text).parent? = some above ∧
      above.text.toList <+: (path / text).text.toList ∧ above.solidParts = path.solidParts := by
  let whole := (path / text).text.toList
  let lead := (split whole).1
  obtain ⟨front, shape⟩ := toList_join_name name named
  obtain ⟨parts, body⟩ := splitParts_split_concat front name.clean
  rw [← shape] at body
  obtain ⟨voids, ends, void⟩ := exists_dropVoidEnd_append parts
  have text_eq : lead.text ++ joinParts (dropVoidEnd parts ++ (voids ++ [text.toList])) = whole := by
    rw [← List.append_assoc, ← ends, ← body, joinParts_splitParts]
    exact lead_append_split whole
  have joined : (path / text).solidParts = path.solidParts ++ [text.toList] :=
    solidParts_join_part name.clean name.solid
  have last : (voids ++ [text.toList]).filter (fun part => !isVoid part) = [text.toList] := by
    rw [List.filter_append, List.filter_eq_nil_iff.mpr (by simpa using void)]
    simp [name.solid]
  refine ⟨⟨String.ofList (lead.text ++ joinParts (dropVoidEnd parts))⟩, ?_, ?_, ?_⟩
  · unfold parent?
    dsimp only
    rw [show splitParts (split (path / text).text.toList).2 = _ from body,
      dropVoidEnd_concat name.solid, List.reverse_concat]
    dsimp only
    rw [List.reverse_reverse]
  · change (String.ofList _).toList <+: whole
    rw [String.toList_ofList, ← text_eq, List.prefix_append_right_inj]
    by_cases blank : dropVoidEnd parts = []
    · rw [blank]
      exact List.nil_prefix
    · rw [joinParts_append blank (by simp)]
      exact List.prefix_append _ _
  · rw [← List.append_left_inj [text.toList], ← joined]
    by_cases blank : dropVoidEnd parts = []
    · rw [blank, joinParts, List.append_nil, solidParts_lead, List.nil_append, solidParts,
        ← solidParts_split, show splitParts (split (path / text).text.toList).2 = _ from body, ends,
        blank, List.nil_append, last]
    · rw [joinParts_append blank (by simp), ← List.append_assoc] at text_eq
      have clean : ∀ part ∈ voids ++ [text.toList], '/' ∉ part := by
        intro part member
        have inside : part ∈ splitParts (split whole).2 := by
          rw [body, ends, List.append_assoc]
          exact List.mem_append_right _ member
        exact clean_of_mem_splitParts inside
      rw [show (path / text).solidParts = List.filter _ (splitParts whole) from rfl, ← text_eq,
        splitParts_append_slash, splitParts_joinParts (by simp) clean, List.filter_append, last,
        solidParts, String.toList_ofList]

end GameBundle.Path
