import GameBundle.Proofs.Markup.Slots
import GameBundle.Proofs.Template.Segmentation

/-!
# Documents made from templates

When the tokens of a template stand for pieces of a document, with slots for texts, filling the
template puts the texts in the slots of one document, which the template and the tokens decide.
-/

namespace GameBundle

namespace Template

/-- The cut of a template into tokens and characters. -/
def segments (substitutions : List Substitution) : List Char → List Segment
  | [] => []
  | c :: rest =>
    match longest? substitutions (c :: rest) with
    | some (token, _) =>
      .token token :: segments substitutions (rest.drop (token.length - 1))
    | none => .plain c :: segments substitutions rest
termination_by text => text.length
decreasing_by all_goals simp [List.length_drop]; try omega

theorem segmentation_segments (substitutions : List Substitution) (text : List Char) :
    Segmentation (substitutions.map Prod.fst) text (segments substitutions text) := by
  induction text using segments.induct substitutions with
  | case1 =>
    rw [segments]
    exact .done
  | case2 c rest token value found ih =>
    obtain ⟨longest, -⟩ := longest?_eq_some found
    obtain ⟨size, positive⟩ := Nat.exists_eq_succ_of_ne_zero
      (List.length_pos_iff.mpr longest.nonempty).ne'
    have behind : rest.drop (token.length - 1) = (c :: rest).drop token.length := by
      rw [positive, List.drop_succ_cons, Nat.succ_sub_one]
    rw [behind] at ih
    rw [segments, found]
    dsimp only
    rw [behind]
    exact .token longest ih
  | case3 c rest missing ih =>
    rw [segments, missing]
    exact .plain (longest?_eq_none missing) ih

end Template

namespace Markup

open Template (Segment Segmentation characters)

variable {α : Type}

/-- What the tokens of a template stand for. -/
abbrev Layout (α : Type) := List (String × List (Piece α))

namespace Layout

variable (layout : Layout α) (texts : α → String)

def substitutions : List (String × String) :=
  layout.map fun entry => (entry.1, String.ofList (render texts entry.2))

/-- What a segment of a template stands for; of several entries for a token the last counts. -/
def expand : Segment → List (Piece α)
  | .plain c => [.char c]
  | .token name =>
    ((layout.map fun entry => (entry.1.toList, entry.2)).reverse.lookup name).getD
      (fixed name)

def pieces (template : String) : List (Piece α) :=
  (Template.segments (layout.map fun entry => (entry.1.toList, [])) template.toList).flatMap
    layout.expand

/-- Whether a text has a slot in what the tokens stand for. -/
def Holds (text : α) : Prop := ∃ entry ∈ layout, .slot text ∈ entry.2

theorem lookup_render (token : List Char) (entries : List (List Char × List (Piece α))) :
    (entries.map fun entry => (entry.1, render texts entry.2)).lookup token =
      (entries.lookup token).map (render texts) := by
  induction entries with
  | nil => rfl
  | cons entry rest ih =>
    rw [List.map_cons, List.lookup_cons, List.lookup_cons]
    split
    · rfl
    · exact ih

theorem render_expand (segment : Segment) :
    render texts (layout.expand segment) =
      segment.fill (characters (layout.substitutions texts)) := by
  cases segment with
  | plain c => rfl
  | token name =>
    have same : (characters (layout.substitutions texts)).reverse =
        (layout.map fun entry => (entry.1.toList, entry.2)).reverse.map fun entry =>
          (entry.1, render texts entry.2) := by
      simp [characters, substitutions]
    rw [expand, Segment.fill, Template.valueOf, same, lookup_render]
    cases (layout.map fun entry => (entry.1.toList, entry.2)).reverse.lookup name with
    | none => exact render_fixed texts name
    | some found => rfl

theorem fill_substitutions (template : String) :
    Template.fill template (layout.substitutions texts) =
      String.ofList (render texts (layout.pieces template)) := by
  have tokens : (layout.map fun entry => (entry.1.toList, ([] : List Char))).map Prod.fst =
      (characters (layout.substitutions texts)).map Prod.fst := by
    simp [characters, substitutions]
  have cut := Template.segmentation_segments
    (layout.map fun entry => (entry.1.toList, [])) template.toList
  rw [tokens] at cut
  rw [Template.fill, Template.fillChars_eq_of_segmentation cut, pieces, render,
    List.flatMap_assoc]
  refine congrArg String.ofList (List.flatMap_congr fun segment _ => ?_)
  exact (layout.render_expand texts segment).symm

/-- The slots of the document are those in what the tokens stand for. -/
theorem holds_of_mem_pieces {template : String} {text : α}
    (member : .slot text ∈ layout.pieces template) : layout.Holds text := by
  obtain ⟨segment, -, inside⟩ := List.mem_flatMap.mp member
  cases segment with
  | plain c => simp [expand] at inside
  | token name =>
    rw [expand] at inside
    cases looked : (layout.map fun entry => (entry.1.toList, entry.2)).reverse.lookup name with
    | none => exact absurd (looked ▸ inside) slot_not_mem_fixed
    | some found =>
      rw [looked, Option.getD_some] at inside
      obtain ⟨front, back, whole, -⟩ := List.lookup_eq_some_iff.mp looked
      have listed : (name, found) ∈ layout.map fun entry => (entry.1.toList, entry.2) :=
        List.mem_reverse.mp (by simp [whole])
      obtain ⟨entry, entered, same⟩ := List.mem_map.mp listed
      cases same
      exact ⟨entry, entered, inside⟩

/-- Texts that fit do not decide whether a filled template is well-formed. -/
theorem wellFormed_fill {template : String} (placed : Placed (layout.pieces template))
    {texts others : α → String} (fit : ∀ text, layout.Holds text → Fits (texts text))
    (fitting : ∀ text, layout.Holds text → Fits (others text)) :
    WellFormed (Template.fill template (layout.substitutions texts)) ↔
      WellFormed (Template.fill template (layout.substitutions others)) := by
  rw [fill_substitutions, fill_substitutions, WellFormed, WellFormed, String.toList_ofList,
    String.toList_ofList, isDocument_render placed]
  · exact fun text member => fit text (layout.holds_of_mem_pieces member)
  · exact fun text member => fitting text (layout.holds_of_mem_pieces member)

end Layout

end Markup

end GameBundle
