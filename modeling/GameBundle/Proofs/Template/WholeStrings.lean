import GameBundle.Proofs.Json.Fragments
import GameBundle.Proofs.Template.Segmentation

/-!
# Documents as templates

Where a token stands in a document only as a whole string that is a value, a token that stands at
some place is the fragment there. The cut of the document into tokens and characters is then one
of its fragments, and filling spells the strings anew that are tokens.
-/

namespace GameBundle

open Template Json
open Json.Quoted (Letter literal)

/-- Wherever a token stands in a document, it is a string that is a value, from quote to quote. -/
def Json.Document.HoldsWhole (document : Document) (token : List Char) : Prop :=
  ∀ before after, document.chars = before ++ (token ++ after) →
    ∃ front letters back, document.fragments = front ++ .string letters :: back ∧
      front.flatMap Fragment.chars = before ∧ literal letters = token

def Json.Fragment.isString (token : List Char) : Fragment → Bool
  | .char _ => false
  | .string letters => literal letters == token

theorem Json.Fragment.isString_iff {token : List Char} {fragment : Fragment} :
    fragment.isString token = true ↔
      ∃ letters, fragment = .string letters ∧ literal letters = token := by
  cases fragment <;> simp [isString]

/-- A place in a document is told by how many characters stand in front of it. -/
theorem Json.Document.holdsWhole_iff {document : Document} {token : List Char} :
    document.HoldsWhole token ↔ ∀ place ∈ List.range (document.chars.length + 1),
      token <+: document.chars.drop place → ∃ count ∈ List.range document.fragments.length,
        ((document.fragments.take count).flatMap Fragment.chars).length = place ∧
          document.fragments[count]?.any (Fragment.isString token) = true := by
  constructor
  · rintro held place inside ⟨after, behind⟩
    rw [List.mem_range, Nat.lt_succ_iff] at inside
    have whole : document.chars = document.chars.take place ++ (token ++ after) := by
      rw [behind, List.take_append_drop]
    obtain ⟨front, letters, back, parted, ends, made⟩ := held _ _ whole
    refine ⟨front.length, by simp [parted], ?_, ?_⟩
    · rw [parted, List.take_left, ends, List.length_take_of_le inside]
    · simp [parted, Fragment.isString, made]
  · rintro every before after whole
    have inside : before.length ∈ List.range (document.chars.length + 1) := by
      rw [List.mem_range, whole, List.length_append]
      omega
    obtain ⟨count, -, place, found⟩ := every before.length inside (by simp [whole])
    obtain ⟨fragment, shape, isString⟩ := Option.any_eq_true _ _ |>.mp found
    obtain ⟨letters, rfl, made⟩ := Fragment.isString_iff.mp isString
    obtain ⟨listed, at_count⟩ := List.getElem?_eq_some_iff.mp shape
    have parted : document.fragments = document.fragments.take count ++
        .string letters :: document.fragments.drop (count + 1) := by
      rw [← at_count, ← List.drop_eq_getElem_cons listed, List.take_append_drop]
    have chars := document.flatMap_fragments
    rw [parted, List.flatMap_append, whole] at chars
    exact ⟨_, letters, _, parted, (List.append_inj chars place).1, made⟩

instance (document : Document) (token : List Char) : Decidable (document.HoldsWhole token) :=
  decidable_of_iff _ Document.holdsWhole_iff.symm

namespace Template

variable {tokens : List (List Char)}

theorem eq_of_starts_within {front back others rest : List Fragment} {fragment other : Fragment}
    {inside more : List Char} (same : front ++ fragment :: back = others ++ other :: rest)
    (whole : fragment.chars = inside ++ more) (proper : more ≠ [])
    (starts : others.flatMap Fragment.chars = front.flatMap Fragment.chars ++ inside) :
    inside = [] ∧ fragment = other := by
  have inhabited := List.length_pos_iff.mpr other.chars_ne_nil
  have left := List.length_pos_iff.mpr proper
  have lengths := congrArg List.length starts
  have wide := congrArg List.length whole
  simp only [List.length_append] at lengths wide
  rcases List.append_eq_append_iff.mp same with ⟨between, rfl, shape⟩ | ⟨between, rfl, shape⟩
  · cases between with
    | nil =>
      obtain ⟨rfl, -⟩ := List.cons.inj shape
      simpa using starts
    | cons first between =>
      obtain ⟨rfl, -⟩ := List.cons.inj shape
      simp only [List.flatMap_append, List.flatMap_cons, List.length_append] at lengths
      omega
  · cases between with
    | nil =>
      obtain ⟨rfl, -⟩ := List.cons.inj shape
      simpa using starts
    | cons first between =>
      obtain ⟨rfl, -⟩ := List.cons.inj shape
      simp only [List.flatMap_append, List.flatMap_cons, List.length_append] at lengths
      omega

section Fragments

variable {document : Document} {front back : List Fragment} {fragment : Fragment}
  {inside more token : List Char}

theorem eq_literal_of_starts (held : document.HoldsWhole token)
    (parted : document.fragments = front ++ fragment :: back)
    (whole : fragment.chars = inside ++ more) (proper : more ≠ [])
    (starts : token <+: more ++ back.flatMap Fragment.chars) :
    inside = [] ∧ ∃ letters, fragment = .string letters ∧ literal letters = token := by
  obtain ⟨after, rest⟩ := starts
  have place : document.chars =
      (front.flatMap Fragment.chars ++ inside) ++ (token ++ after) := by
    rw [← document.flatMap_fragments, parted, rest, List.flatMap_append, List.flatMap_cons, whole]
    simp
  obtain ⟨others, letters, behind, same, ends, made⟩ := held _ _ place
  obtain ⟨none, rfl⟩ := eq_of_starts_within (parted.symm.trans same) whole proper ends
  exact ⟨none, letters, rfl, made⟩

/-- A text is cut into its characters where no token starts within it. -/
theorem Segmentation.scattered {rest : List Char} {segments : List Segment} {piece : List Char}
    (none : ∀ inside more, piece = inside ++ more → more ≠ [] → NoneStarts tokens (more ++ rest))
    (later : Segmentation tokens rest segments) :
    Segmentation tokens (piece ++ rest) (piece.map .plain ++ segments) := by
  induction piece with
  | nil => exact later
  | cons c piece ih =>
    refine .plain (none [] (c :: piece) rfl (by simp)) (ih fun inside more split => ?_)
    exact none (c :: inside) more (by rw [split, List.cons_append])

theorem flatMap_fill_plain (substitutions : List Substitution) (text : List Char) :
    (text.map Segment.plain).flatMap (Segment.fill substitutions) = text := by
  rw [List.flatMap_map]
  exact List.flatMap_singleton' _

variable {substitutions : List Substitution} {f : List Letter → List Letter}

/-- What is no token stands for itself. -/
theorem valueOf_of_absent (absent : token ∉ substitutions.map Prod.fst) :
    valueOf substitutions token = token := by
  have missing : substitutions.reverse.lookup token = none := by
    rw [List.lookup_eq_none_iff]
    rintro ⟨other, value⟩ member
    rw [bne_iff_ne]
    rintro rfl
    exact absent (List.mem_map_of_mem (List.mem_reverse.mp member))
  rw [valueOf, missing, Option.getD_none]

/-- A fragment that is no token keeps its characters. -/
theorem chars_respell
    (fills : ∀ letters, literal (f letters) = valueOf substitutions (literal letters))
    (other : ¬∃ letters,
      fragment = .string letters ∧ literal letters ∈ substitutions.map Prod.fst) :
    (fragment.respell f).chars = fragment.chars := by
  cases fragment with
  | char c => rfl
  | string letters =>
    have absent : literal letters ∉ substitutions.map Prod.fst :=
      fun listed => other ⟨letters, rfl, listed⟩
    rw [Fragment.respell, Fragment.chars_string, fills, valueOf_of_absent absent,
      Fragment.chars_string]

/-- The cut goes fragment by fragment. The induction is on the fragments that are left. -/
theorem exists_cut (held : ∀ token ∈ substitutions.map Prod.fst, document.HoldsWhole token)
    (fills : ∀ letters, literal (f letters) = valueOf substitutions (literal letters)) :
    ∀ back front : List Fragment, document.fragments = front ++ back →
      ∃ segments,
        Segmentation (substitutions.map Prod.fst) (back.flatMap Fragment.chars) segments ∧
        segments.flatMap (Segment.fill substitutions) =
          (back.map (Fragment.respell f)).flatMap Fragment.chars := by
  intro back
  induction back with
  | nil => exact fun _ _ => ⟨[], .done, rfl⟩
  | cons fragment back ih =>
    intro front parted
    obtain ⟨segments, later, filled⟩ := ih (front ++ [fragment]) (by simp [parted])
    by_cases listed :
      ∃ letters, fragment = .string letters ∧ literal letters ∈ substitutions.map Prod.fst
    · obtain ⟨letters, rfl, listed⟩ := listed
      have longest : IsLongest (substitutions.map Prod.fst)
          ((Fragment.string letters :: back).flatMap Fragment.chars) (literal letters) := by
        refine ⟨listed, by simp [literal], List.prefix_append _ _, ?_⟩
        intro other other_listed starts
        obtain ⟨-, again, same, made⟩ := eq_literal_of_starts (held other other_listed) parted
          (List.nil_append _).symm (by simp [literal]) starts
        cases same
        exact (congrArg List.length made).ge
      refine ⟨.token (literal letters) :: segments, .token longest ?_, ?_⟩
      · simpa using later
      · simp [Segment.fill, filled, Fragment.respell, fills]
    · refine ⟨fragment.chars.map .plain ++ segments, .scattered ?_ later, ?_⟩
      · intro inside more split proper token token_listed _ starts
        obtain ⟨-, letters, same, rfl⟩ :=
          eq_literal_of_starts (held token token_listed) parted split proper starts
        exact listed ⟨letters, same, token_listed⟩
      · simp [flatMap_fill_plain, filled, chars_respell fills listed]

end Fragments

theorem fillChars_document {document : Document} {substitutions : List Substitution}
    {f : List Letter → List Letter}
    (held : ∀ token ∈ substitutions.map Prod.fst, document.HoldsWhole token)
    (fills : ∀ letters, literal (f letters) = valueOf substitutions (literal letters)) :
    fillChars substitutions document.chars = (document.respell f).chars := by
  obtain ⟨segments, cut, filled⟩ := exists_cut held fills document.fragments [] rfl
  rw [document.flatMap_fragments] at cut
  rw [fillChars_eq_of_segmentation cut, filled, ← document.fragments_respell,
    Document.flatMap_fragments]

end Template

end GameBundle
