import GameBundle.Proofs.Text.Run
import GameBundle.Template
import Mathlib.Data.List.Basic
import Mathlib.Data.List.Infix
import Mathlib.Data.List.Perm.Subperm
import Mathlib.Data.List.Sort
import Mathlib.Data.List.TakeWhile

/-!
# Placeholders left in a text

The search for placeholders takes opening braces in pairs. A placeholder behind an odd number
of further braces has the first of its own taken together with the brace in front of it, and is
passed over. All others are found, in the order of their positions, and nothing else is.
-/

namespace GameBundle.Template

open Text (runAtEnd runAtEnd_append_of_ne even_runAtEnd_append)

variable {text rest front behind name : List Char} {position : Nat}

/-- A placeholder of a name stands at a position of a text. -/
structure Stands (text : List Char) (position : Nat) (name : List Char) : Prop where
  named : name ≠ []
  spelled : ∀ c ∈ name, isNameChar c = true
  starts : '{' :: '{' :: (name ++ ['}', '}']) <+: text.drop position

/-- The opening braces right in front of a position come in pairs. -/
def IsPaired (text : List Char) (position : Nat) : Prop :=
  Even (runAtEnd '{' (text.take position))

theorem not_isNameChar_brace : isNameChar '{' = false ∧ isNameChar '}' = false := by decide

theorem takeWhile_name (spelled : ∀ c ∈ name, isNameChar c = true) (behind : List Char) :
    (name ++ '}' :: behind).takeWhile isNameChar = name := by
  rw [List.takeWhile_append_of_pos spelled, List.takeWhile_cons_of_neg, List.append_nil]
  simp [not_isNameChar_brace]

theorem placeholderNames_found (named : name ≠ []) (spelled : ∀ c ∈ name, isNameChar c = true)
    (behind : List Char) :
    placeholderNames ('{' :: '{' :: (name ++ '}' :: '}' :: behind)) =
      name :: placeholderNames behind := by
  rw [placeholderNames, takeWhile_name spelled, List.drop_left, if_pos ⟨named, rfl⟩]
  rfl

theorem placeholderNames_skip (none : ∀ name, ¬Stands ('{' :: '{' :: rest) 0 name) :
    placeholderNames ('{' :: '{' :: rest) = placeholderNames rest := by
  rw [placeholderNames, if_neg]
  rintro ⟨named, closed⟩
  refine none _ ⟨named, fun c => List.mem_takeWhile_imp, ?_⟩
  have parted := List.prefix_append_drop (List.takeWhile_prefix isNameChar (l := rest))
  have starts := List.prefix_append_right_inj (rest.takeWhile isNameChar) |>.mpr
    (List.isPrefixOf_iff_prefix.mp closed)
  rw [← parted] at starts
  simpa using starts

theorem placeholderNames_cons {c : Char} (apart : ¬['{', '{'] <+: c :: rest) :
    placeholderNames (c :: rest) = placeholderNames rest := by
  rw [placeholderNames]
  rintro more rfl rfl
  exact apart ⟨more, rfl⟩

/-- A text is taken apart as the search does: at a placeholder, at two braces without one, and
at any other character. -/
theorem search_induction {motive : List Char → Prop} (nil : motive [])
    (found : ∀ name behind, name ≠ [] → (∀ c ∈ name, isNameChar c = true) → motive behind →
      motive ('{' :: '{' :: (name ++ '}' :: '}' :: behind)))
    (skip : ∀ rest, (∀ name, ¬Stands ('{' :: '{' :: rest) 0 name) → motive rest →
      motive ('{' :: '{' :: rest))
    (cons : ∀ c rest, ¬['{', '{'] <+: c :: rest → motive rest → motive (c :: rest))
    (text : List Char) : motive text := by
  induction measured : text.length using Nat.strongRecOn generalizing text with
  | ind size ih =>
  cases text with
  | nil => exact nil
  | cons c rest =>
    by_cases braces : ['{', '{'] <+: c :: rest
    · obtain ⟨more, whole⟩ := braces
      obtain ⟨rfl, rfl⟩ := List.cons.inj whole
      by_cases placed : ∃ name, Stands ('{' :: '{' :: more) 0 name
      · obtain ⟨name, named, spelled, behind, whole⟩ := placed
        obtain rfl : more = name ++ '}' :: '}' :: behind := by simpa using whole.symm
        exact found name behind named spelled
          (ih behind.length (by simp at measured; omega) behind rfl)
      · exact skip more (not_exists.mp placed)
          (ih more.length (by simp at measured; omega) more rfl)
    · exact cons c rest braces (ih rest.length (by simp at measured; omega) rest rfl)

/-- The first characters of a placeholder are braces. -/
theorem Stands.braces (stands : Stands text position name) : ['{', '{'] <+: text.drop position :=
  (List.prefix_append ['{', '{'] _).trans stands.starts

/-- Only one placeholder stands at a position. -/
theorem Stands.unique {other : List Char} (one : Stands text position name)
    (two : Stands text position other) : name = other := by
  obtain ⟨behind, whole⟩ := one.starts
  obtain ⟨more, again⟩ := two.starts
  have names : name ++ '}' :: '}' :: behind = other ++ '}' :: '}' :: more := by
    simpa using whole.trans again.symm
  rw [← takeWhile_name one.spelled ('}' :: behind), names, takeWhile_name two.spelled]

/-- A placeholder that the search comes upon: opening braces are taken in pairs up to its own. -/
def IsMet (text : List Char) (position : Nat) (name : List Char) : Prop :=
  Stands text position name ∧ IsPaired text position

theorem stands_behind : Stands (front ++ rest) (front.length + position) name ↔
    Stands rest position name := by
  have same : (front ++ rest).drop (front.length + position) = rest.drop position := by
    rw [List.drop_append, List.drop_eq_nil_of_le (Nat.le_add_right _ _), List.nil_append,
      Nat.add_sub_cancel_left]
  constructor <;> rintro ⟨named, spelled, starts⟩
  · exact ⟨named, spelled, same ▸ starts⟩
  · exact ⟨named, spelled, same.symm ▸ starts⟩

theorem take_behind : (front ++ rest).take (front.length + position) =
    front ++ rest.take position := by
  rw [List.take_append, List.take_of_length_le (Nat.le_add_right _ _), Nat.add_sub_cancel_left]

/-- Behind braces in pairs the search goes on as at the start of a text. -/
theorem isMet_behind (even : Even (runAtEnd '{' front)) :
    IsMet (front ++ rest) (front.length + position) name ↔ IsMet rest position name := by
  rw [IsMet, IsMet, IsPaired, IsPaired, stands_behind, take_behind, even_runAtEnd_append even]

/-- What the search finds: the placeholders that it comes upon, in order. -/
structure Finds (text : List Char) (spots : List (Nat × List Char)) : Prop where
  ordered : (spots.map Prod.fst).Pairwise (· < ·)
  complete : ∀ position name, (position, name) ∈ spots ↔ IsMet text position name

/-- Placeholders at the front come before those behind it. -/
theorem Finds.append {spots : List (Nat × List Char)} (later : Finds rest spots)
    (front : List Char) (early : List (Nat × List Char))
    (behind : ∀ position name, IsMet (front ++ rest) (front.length + position) name ↔
      IsMet rest position name)
    (ordered : (early.map Prod.fst).Pairwise (· < ·))
    (own : ∀ position name, (position, name) ∈ early ↔
      position < front.length ∧ IsMet (front ++ rest) position name) :
    Finds (front ++ rest)
      (early ++ spots.map fun spot => (front.length + spot.1, spot.2)) := by
  constructor
  · rw [List.map_append, List.map_map, List.pairwise_append]
    refine ⟨ordered, ?_, ?_⟩
    · have shifted := later.ordered.map (front.length + ·) fun _ _ less =>
        Nat.add_lt_add_left less front.length
      rwa [List.map_map] at shifted
    · intro one listed other behind
      obtain ⟨⟨place, name⟩, member, rfl⟩ := List.mem_map.mp listed
      obtain ⟨spot, -, rfl⟩ := List.mem_map.mp behind
      exact Nat.lt_of_lt_of_le ((own _ _).mp member).1 (Nat.le_add_right _ _)
  · intro position name
    rw [List.mem_append, own, List.mem_map]
    constructor
    · rintro (⟨-, met⟩ | ⟨⟨place, named⟩, member, same⟩)
      · exact met
      · obtain ⟨rfl, rfl⟩ := Prod.mk.inj same
        exact (behind _ _).mpr ((later.complete _ _).mp member)
    · intro met
      rcases Nat.lt_or_ge position front.length with inside | outside
      · exact .inl ⟨inside, met⟩
      · obtain ⟨further, rfl⟩ := Nat.exists_eq_add_of_le outside
        exact .inr ⟨(further, name), (later.complete _ _).mpr ((behind _ _).mp met), rfl⟩

theorem not_stands_nil : ¬Stands [] position name := fun stands => by
  have starts := stands.starts
  simp at starts

theorem Stands.brace_at (stands : Stands text position name) :
    text[position]? = some '{' ∧ text[position + 1]? = some '{' := by
  obtain ⟨behind, whole⟩ := stands.braces
  have first : (text.drop position)[0]? = some '{' := by rw [← whole]; rfl
  have second : (text.drop position)[1]? = some '{' := by rw [← whole]; rfl
  rw [List.getElem?_drop] at first second
  exact ⟨first, second⟩

/-- Inside a placeholder no other one begins. -/
theorem not_stands_inside {inside other : List Char} (free : '{' ∉ inside)
    (nonempty : inside ≠ []) (within : position < inside.length + 1) :
    ¬Stands ('{' :: '{' :: (inside ++ rest)) (position + 1) other := by
  intro stands
  have brace_free (index : Nat) (bound : index < inside.length) :
      (inside ++ rest)[index]? ≠ some '{' := by
    rw [List.getElem?_append_left bound]
    exact fun brace => free (List.mem_of_getElem? brace)
  obtain ⟨first, second⟩ := stands.brace_at
  cases position with
  | zero => exact brace_free 0 (List.length_pos_iff.mpr nonempty) second
  | succ index => exact brace_free index (by omega) first

variable {spots : List (Nat × List Char)}

theorem Finds.placeholder (later : Finds behind spots) (named : name ≠ [])
    (spelled : ∀ c ∈ name, isNameChar c = true) :
    Finds ('{' :: '{' :: (name ++ '}' :: '}' :: behind))
      ((0, name) :: spots.map fun spot => (name.length + 4 + spot.1, spot.2)) := by
  have free : '{' ∉ name ++ ['}', '}'] := by
    intro brace
    rcases List.mem_append.mp brace with inside | closing
    · exact absurd (spelled _ inside) (by simp [not_isNameChar_brace])
    · simp at closing
  have even : Even (runAtEnd '{' ('{' :: '{' :: (name ++ ['}', '}']))) := by
    have last : '{' :: '{' :: (name ++ ['}', '}']) = ('{' :: '{' :: (name ++ ['}'])) ++ ['}'] := by
      simp
    rw [last, Text.runAtEnd_concat]
    simp
  have whole : '{' :: '{' :: (name ++ '}' :: '}' :: behind) =
      '{' :: '{' :: (name ++ ['}', '}']) ++ behind := by simp
  have first : IsMet ('{' :: '{' :: (name ++ ['}', '}']) ++ behind) 0 name :=
    ⟨⟨named, spelled, List.prefix_append _ _⟩, Even.zero⟩
  have found := later.append ('{' :: '{' :: (name ++ ['}', '}'])) [(0, name)]
    (fun _ _ => isMet_behind even) (List.pairwise_singleton _ _) ?_
  · have size : ('{' :: '{' :: (name ++ ['}', '}'])).length = name.length + 4 := by simp
    rwa [← whole, size] at found
  · intro position other
    constructor
    · intro member
      obtain ⟨rfl, rfl⟩ := Prod.mk.inj (List.mem_singleton.mp member)
      exact ⟨Nat.zero_lt_succ _, first⟩
    · rintro ⟨within, met⟩
      cases position with
      | zero => rw [met.1.unique first.1, List.mem_singleton]
      | succ position =>
        exact absurd met.1 (not_stands_inside free (by simp) (by simpa using within))

/-- Of two braces without a placeholder the second begins none that the search comes upon. -/
theorem Finds.skip (later : Finds rest spots)
    (none : ∀ name, ¬Stands ('{' :: '{' :: rest) 0 name) :
    Finds ('{' :: '{' :: rest) (spots.map fun spot => (2 + spot.1, spot.2)) := by
  have even : Even (runAtEnd '{' ['{', '{']) := by decide
  refine later.append ['{', '{'] [] (fun _ _ => isMet_behind even) List.Pairwise.nil ?_
  intro position name
  refine iff_of_false List.not_mem_nil ?_
  rintro ⟨within, met⟩
  cases position with
  | zero => exact none name met.1
  | succ position =>
    obtain rfl : position = 0 := by simp at within; omega
    have odd : ¬Even (runAtEnd '{' ['{']) := by decide
    exact odd met.2

theorem Finds.cons {c : Char} (later : Finds rest spots) (apart : ¬['{', '{'] <+: c :: rest) :
    Finds (c :: rest) (spots.map fun spot => (1 + spot.1, spot.2)) := by
  refine later.append [c] [] (fun position name => ?_) List.Pairwise.nil fun position name => ?_
  · rw [IsMet, IsMet, stands_behind]
    refine and_congr_right fun stands => ?_
    rw [IsPaired, IsPaired, take_behind]
    by_cases brace : c = '{'
    · -- a brace that is left over does not reach beyond the character behind it
      subst brace
      cases rest with
      | nil => exact absurd stands not_stands_nil
      | cons d rest =>
        have other : d ≠ '{' := by
          rintro rfl
          exact apart (List.prefix_append ['{', '{'] rest)
        cases position with
        | zero => exact absurd (List.cons_prefix_cons.mp stands.braces).1.symm other
        | succ position =>
          rw [List.take_succ_cons, runAtEnd_append_of_ne List.mem_cons_self other]
    · exact even_runAtEnd_append (by simp [runAtEnd, brace])
  · refine iff_of_false List.not_mem_nil ?_
    rintro ⟨within, met⟩
    obtain rfl : position = 0 := by simpa using within
    exact apart met.1.braces

/-- The search finds the placeholders that it comes upon. -/
theorem exists_finds (text : List Char) :
    ∃ spots, Finds text spots ∧ placeholderNames text = spots.map Prod.snd := by
  induction text using search_induction with
  | nil =>
    refine ⟨[], ⟨List.Pairwise.nil, fun position name => ?_⟩, by rw [placeholderNames]; rfl⟩
    exact iff_of_false List.not_mem_nil fun met => not_stands_nil met.1
  | found name behind named spelled ih =>
    obtain ⟨spots, finds, names⟩ := ih
    refine ⟨_, finds.placeholder named spelled, ?_⟩
    rw [placeholderNames_found named spelled, names]
    simp
  | skip rest none ih =>
    obtain ⟨spots, finds, names⟩ := ih
    refine ⟨_, finds.skip none, ?_⟩
    rw [placeholderNames_skip none, names]
    simp
  | cons c rest apart ih =>
    obtain ⟨spots, finds, names⟩ := ih
    refine ⟨_, finds.cons apart, ?_⟩
    rw [placeholderNames_cons apart, names]
    simp

theorem nodup_of_ordered (ordered : (spots.map Prod.fst).Pairwise (· < ·)) : spots.Nodup :=
  ordered.of_map Prod.fst fun _ _ less same => absurd less (same ▸ Nat.lt_irrefl _)

/-- The search finds exactly the placeholders with braces in pairs in front of them, each at its
place in the order of positions. So all are found just when none stands behind an odd number of
further opening braces. -/
theorem unresolved_eq_paired (text : String) :
    (∃ spots : List (Nat × List Char),
      unresolved text = spots.map (fun spot => placeholder (String.ofList spot.2)) ∧
      (spots.map Prod.fst).Pairwise (· < ·) ∧
      ∀ position name, (position, name) ∈ spots ↔
        Stands text.toList position name ∧ IsPaired text.toList position) ∧
    ∀ all : List (Nat × List Char), (all.map Prod.fst).Pairwise (· < ·) →
      (∀ position name, (position, name) ∈ all ↔ Stands text.toList position name) →
      (unresolved text = all.map (fun spot => placeholder (String.ofList spot.2)) ↔
        ∀ position name, Stands text.toList position name → IsPaired text.toList position) := by
  obtain ⟨spots, finds, names⟩ := exists_finds text.toList
  have found : unresolved text = spots.map fun spot => placeholder (String.ofList spot.2) := by
    rw [unresolved, names, List.map_map]
    rfl
  refine ⟨⟨spots, found, finds.ordered, finds.complete⟩, fun all ordered complete => ?_⟩
  have subset : spots ⊆ all := fun spot listed =>
    (complete _ _).mpr ((finds.complete _ _).mp listed).1
  have subperm := (nodup_of_ordered finds.ordered).subperm subset
  constructor
  · intro same position name stands
    have lengths : all.length = spots.length := by
      simpa using (congrArg List.length (found.symm.trans same)).symm
    have listed := (subperm.perm_of_length_le lengths.le).mem_iff.mpr
      ((complete position name).mpr stands)
    exact ((finds.complete _ _).mp listed).2
  · intro paired
    have superset : all ⊆ spots := fun spot listed =>
      have stands := (complete _ _).mp listed
      (finds.complete _ _).mpr ⟨stands, paired _ _ stands⟩
    have perm := subperm.antisymm ((nodup_of_ordered ordered).subperm superset)
    have sorted (list : List (Nat × List Char)) (ordered : (list.map Prod.fst).Pairwise (· < ·)) :
        list.Pairwise fun one other => one.1 < other.1 := List.pairwise_map.mp ordered
    rw [found, perm.eq_of_pairwise (fun one other _ _ less more => absurd less (Nat.lt_asymm more))
      (sorted _ finds.ordered) (sorted _ ordered)]

/-- Behind three opening braces a placeholder is passed over, behind four it is found. -/
example : unresolved "\x7b\x7b\x7bA\x7d\x7d" = [] ∧
    unresolved "\x7b\x7b\x7b\x7bA\x7d\x7d" = ["\x7b\x7bA\x7d\x7d"] := by
  decide +kernel

end GameBundle.Template
