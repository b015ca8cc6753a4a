import GameBundle.Proofs.Bundle.LevelExport

/-!
# Paths of effect scripts

An effect script is named by its type in lower case. Lowering a text neither makes nor removes
slashes and dots, so a type without double dots names a script in the directory of effects.
-/

namespace GameBundle

namespace Text

def IsMark (c : Char) : Prop := c = '/' ∨ c = '.'

theorem not_isMark_ofNat {n : Nat} (beyond : 48 ≤ n) : ¬IsMark (Char.ofNat n) := by
  have value : (Char.ofNat n).toNat = n ∨ (Char.ofNat n).toNat = 0 := by
    by_cases valid : n.isValidChar
    · exact .inl (by rw [Char.ofNat, dif_pos valid]; rfl)
    · exact .inr (by rw [Char.ofNat, dif_neg valid]; rfl)
  have marks : '/'.toNat = 47 ∧ '.'.toNat = 46 := ⟨rfl, rfl⟩
  rintro (same | same) <;>
    · rw [same] at value
      omega

/-- A letter does not become a slash or a dot in lower case. -/
theorem not_isMark_lowerChar {c : Char} (letter : ¬IsMark c) : ¬IsMark (lowerChar c) := by
  unfold lowerChar
  split
  · rename_i small
    have ascii : ∀ n < 128, ¬(Char.ofNat n = '/' ∨ Char.ofNat n = '.') →
        ¬((Char.ofNat n).toLower = '/' ∨ (Char.ofNat n).toLower = '.') := by decide +kernel
    have lowered := ascii c.toNat small
    rw [Char.ofNat_toNat] at lowered
    exact lowered letter
  · split
    · rename_i run found
      have low : ∀ run ∈ caseRuns, 48 ≤ run.first + run.shift := by decide +kernel
      have here := low run (List.mem_of_find?_eq_some found)
      have inside := List.find?_some found
      simp only [Bool.and_eq_true, decide_eq_true_eq] at inside
      exact not_isMark_ofNat (by omega)
    · exact letter

end Text

namespace Path

/-- Whether a text is spelled like another: it has the same slashes and dots between letters that
need not be the same, and perhaps an ending. -/
inductive Respelled : List Char → List Char → Prop
  | nil : Respelled [] []
  | ending {text : List Char} (clean : '/' ∉ text) (named : ∃ c ∈ text, c ≠ '.') : Respelled [] text
  | mark {c : Char} {text other : List Char} (mark : Text.IsMark c) (rest : Respelled text other) :
      Respelled (c :: text) (c :: other)
  | letter {c d : Char} {text other : List Char} (letter : ¬Text.IsMark c)
      (lowered : ¬Text.IsMark d) (rest : Respelled text other) : Respelled (c :: text) (d :: other)
  | more {d : Char} {text other : List Char} (letter : ¬Text.IsMark d)
      (rest : Respelled text other) : Respelled text (d :: other)

theorem Respelled.eq_dots {part : List Char} {count : Nat}
    (respelled : Respelled part (List.replicate count '.')) : part = List.replicate count '.' := by
  have dot : Text.IsMark '.' := .inr rfl
  induction count generalizing part with
  | zero => cases respelled <;> rfl
  | succ count ih =>
    rw [List.replicate_succ] at respelled ⊢
    cases respelled with
    | ending _ named =>
      obtain ⟨c, listed, other⟩ := named
      rw [← List.replicate_succ] at listed
      exact absurd (List.eq_of_mem_replicate listed) other
    | mark _ rest => rw [ih rest]
    | letter _ lowered => exact absurd dot lowered
    | more letter => exact absurd dot letter

/-- A character other than a slash belongs to the first part. -/
theorem exists_splitParts_cons {c : Char} (inside : c ≠ '/') (text : List Char) :
    ∃ first rest, splitParts text = first :: rest ∧
      splitParts (c :: text) = (c :: first) :: rest := by
  obtain ⟨first, rest, parts⟩ := List.exists_cons_of_ne_nil (splitParts_ne_nil text)
  exact ⟨first, rest, parts, by rw [splitParts_cons inside, parts]⟩

/-- A text that is respelled is respelled between any two slashes. -/
theorem Respelled.parts {text other : List Char} (respelled : Respelled text other) :
    List.Forall₂ Respelled (splitParts text) (splitParts other) := by
  induction respelled with
  | nil => exact .cons .nil .nil
  | ending clean named =>
    rw [splitParts_of_clean clean]
    exact .cons (.ending clean named) .nil
  | @mark c text other mark rest ih =>
    rcases mark with rfl | rfl
    · exact .cons .nil ih
    · have inside : '.' ≠ '/' := by decide
      obtain ⟨first, later, parts, split⟩ := exists_splitParts_cons inside text
      obtain ⟨second, last, otherParts, otherSplit⟩ := exists_splitParts_cons inside other
      rw [parts, otherParts, List.forall₂_cons] at ih
      rw [split, otherSplit]
      exact .cons (.mark (.inr rfl) ih.1) ih.2
  | @letter c d text other letter lowered rest ih =>
    obtain ⟨first, later, parts, split⟩ :=
      exists_splitParts_cons (fun same => letter (.inl same)) text
    obtain ⟨second, last, otherParts, otherSplit⟩ :=
      exists_splitParts_cons (fun same => lowered (.inl same)) other
    rw [parts, otherParts, List.forall₂_cons] at ih
    rw [split, otherSplit]
    exact .cons (.letter letter lowered ih.1) ih.2
  | @more d text other letter rest ih =>
    obtain ⟨first, later, parts⟩ := List.exists_cons_of_ne_nil (splitParts_ne_nil text)
    obtain ⟨second, last, otherParts, otherSplit⟩ :=
      exists_splitParts_cons (fun same => letter (.inl same)) other
    rw [parts, otherParts, List.forall₂_cons] at ih
    rw [parts, otherSplit]
    exact .cons (.more letter ih.1) ih.2

theorem isFlat_of_respelled {text other : String} (respelled : Respelled text.toList other.toList)
    (flat : isFlat text = true) : isFlat other = true := by
  unfold isFlat at flat ⊢
  rw [List.all_eq_true] at flat ⊢
  have related := respelled.parts
  revert flat
  generalize splitParts text.toList = parts, splitParts other.toList = others at related
  intro flat
  induction related with
  | nil => exact flat
  | cons first _ ih =>
    rw [List.forall_mem_cons] at flat ⊢
    refine ⟨?_, ih flat.2⟩
    rw [bne_iff_ne] at flat ⊢
    rintro rfl
    exact flat.1 (show _ = List.replicate 2 '.' from first.eq_dots)

end Path

/-- Lowering keeps slashes and dots where they are. -/
theorem Text.respelled_lowerFrom {ending : List Char} (clean : '/' ∉ ending)
    (named : ∃ c ∈ ending, c ≠ '.') (before text : List Char) :
    Path.Respelled text (lowerFrom before text ++ ending) := by
  induction text generalizing before with
  | nil => exact .ending clean named
  | cons c rest ih =>
    have rest := ih (c :: before)
    rw [lowerFrom]
    by_cases sigma : c = 'Σ'
    · subst sigma
      exact .letter (by simp [IsMark]) (by split_ifs <;> simp [IsMark]) rest
    rw [if_neg sigma]
    by_cases dotted : c = 'İ'
    · subst dotted
      exact .letter (by simp [IsMark]) (by simp [IsMark]) (.more (by simp [IsMark]) rest)
    rw [if_neg dotted]
    by_cases mark : IsMark c
    · have kept : lowerChar c = c := by rcases mark with rfl | rfl <;> rfl
      rw [kept]
      exact .mark mark rest
    · exact .letter mark (not_isMark_lowerChar mark) rest

/-- The script of an effect whose type has no double dots lies in the directory of effects. -/
theorem Project.isInner_effectScript {effectType : String}
    (flat : Path.isFlat effectType = true) : Path.isInner (effectScript effectType) = true := by
  have respelled : Path.Respelled effectType.toList (Text.lower effectType ++ ".js").toList := by
    rw [String.toList_append, Text.lower, String.toList_ofList]
    exact Text.respelled_lowerFrom (by decide) ⟨'j', by decide⟩ [] _
  have path : effectScript effectType = "effects" ++ "/" ++ (Text.lower effectType ++ ".js") := by
    rw [← String.append_assoc]
    rfl
  rw [path]
  exact Path.isInner_of_flat (by decide) (by decide) (by decide)
    (Path.isFlat_of_respelled respelled flat)

end GameBundle
