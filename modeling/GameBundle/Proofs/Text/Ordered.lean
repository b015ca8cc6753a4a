import GameBundle.Text.Ordered
import Mathlib.Data.List.Nodup

/-!
# Ordered texts

Entering texts one by one sorts them, so the outcome is that of any other sort of the
distinct texts. In UTF-8 no character begins with the bytes of another, and the first byte in
which two characters differ is smaller for the smaller code point. So texts are in the same
order by their bytes as by their characters.
-/

namespace GameBundle.Text

theorem pairwise_insertOrdered {text : String} {texts : List String}
    (increasing : texts.Pairwise (· < ·)) : (insertOrdered text texts).Pairwise (· < ·) := by
  induction texts with
  | nil => simp [insertOrdered]
  | cons other rest ih =>
    obtain ⟨least, later⟩ := List.pairwise_cons.mp increasing
    unfold insertOrdered
    split
    · rename_i before
      refine List.pairwise_cons.mpr ⟨?_, increasing⟩
      intro held member
      rcases List.mem_cons.mp member with rfl | behind
      · exact before
      · exact String.lt_trans before (least held behind)
    · split
      · exact increasing
      · rename_i notBefore apart
        refine List.pairwise_cons.mpr ⟨?_, ih later⟩
        intro held member
        rcases mem_insertOrdered.mp member with rfl | behind
        · have after : other ≤ held := String.not_lt.mp notBefore
          have strict : ¬held ≤ other := fun back => apart (String.le_antisymm back after)
          exact String.not_le.mp strict
        · exact least held behind

theorem pairwise_ordered (texts : List String) : (ordered texts).Pairwise (· < ·) := by
  induction texts with
  | nil => exact .nil
  | cons text rest ih => exact pairwise_insertOrdered ih

theorem nodup_ordered (texts : List String) : (ordered texts).Nodup := by
  refine (pairwise_ordered texts).imp ?_
  rintro one other before rfl
  exact String.lt_irrefl one before

theorem ordered_eq_mergeSort {texts distinct : List String} (nodup : distinct.Nodup)
    (same : ∀ text, text ∈ distinct ↔ text ∈ texts) :
    ordered texts = distinct.mergeSort fun one other => decide (one ≤ other) := by
  have arranged : (ordered texts).Perm (distinct.mergeSort fun one other => decide (one ≤ other)) := by
    refine List.Perm.trans ?_ (List.mergeSort_perm _ _).symm
    rw [List.perm_ext_iff_of_nodup (nodup_ordered texts) nodup]
    intro text
    rw [mem_ordered, same]
  refine arranged.eq_of_pairwise ?_
    ((pairwise_ordered texts).imp fun before => String.not_lt.mp (String.lt_asymm before)) ?_
  · intro one other _ _ front back
    exact String.le_antisymm front back
  · refine (List.pairwise_mergeSort ?_ ?_ distinct).imp of_decide_eq_true
    · intro one middle other front back
      exact decide_eq_true (String.le_trans (of_decide_eq_true front) (of_decide_eq_true back))
    · intro one other
      simpa using String.le_total one other

theorem ordered_congr {one other : List String} (same : ∀ text, text ∈ one ↔ text ∈ other) :
    ordered one = ordered other := by
  rw [ordered_eq_mergeSort (nodup_ordered other) fun text => mem_ordered.trans (same text).symm]
  exact (ordered_eq_mergeSort (nodup_ordered other) fun text => mem_ordered).symm

def bytes (text : String) : List UInt8 := text.toUTF8.data.toList

theorem bytes_eq (text : String) : bytes text = text.toList.flatMap String.utf8EncodeChar := by
  unfold bytes
  conv => lhs; rw [← String.ofList_toList (s := text)]
  rw [String.toUTF8_eq_toByteArray, String.toByteArray_ofList, List.utf8Encode,
    List.toList_data_toByteArray]

variable {front back : List UInt8}

theorem ofNat_cons_lt_iff {m n : Nat} (small : m < 256) (otherSmall : n < 256) :
    UInt8.ofNat m :: front < UInt8.ofNat n :: back ↔ m < n ∨ m = n ∧ front < back := by
  have first : (UInt8.ofNat m).toNat = m := UInt8.toNat_ofNat_of_lt' small
  have second : (UInt8.ofNat n).toNat = n := UInt8.toNat_ofNat_of_lt' otherSmall
  rw [List.cons_lt_cons_iff, UInt8.lt_iff_toNat_lt, ← UInt8.toNat_inj, first, second]

/-- A smaller character has smaller bytes, whatever stands behind the two. -/
theorem encode_append_lt {c d : Char} (before : c < d) :
    String.utf8EncodeChar c ++ front < String.utf8EncodeChar d ++ back := by
  have less : c.val.toNat < d.val.toNat := before
  have bound : d.val.toNat < 0x110000 := by
    have valid := d.valid
    simp only [UInt32.isValidChar, Nat.isValidChar] at valid
    omega
  unfold String.utf8EncodeChar
  dsimp only
  generalize c.val.toNat = m at less ⊢
  generalize d.val.toNat = n at less bound ⊢
  -- one case for each pair of widths; a longer character has the larger first byte
  repeat' split
  all_goals
    simp (disch := omega) only [List.cons_append, List.nil_append, ofNat_cons_lt_iff,
      Nat.mod_eq_of_lt]
    omega

theorem encode_lt {one other : List Char} (before : one < other) :
    one.flatMap String.utf8EncodeChar < other.flatMap String.utf8EncodeChar := by
  rw [← List.lex_lt] at before
  induction before with
  | @nil c rest =>
    rw [List.flatMap_nil, List.flatMap_cons]
    cases bytes : String.utf8EncodeChar c with
    | nil => exact absurd bytes String.utf8EncodeChar_ne_nil
    | cons byte bytes => exact List.nil_lt_cons _ _
  | rel before => exact encode_append_lt before
  | cons _ ih => exact List.append_left_lt ih

theorem bytes_lt_iff {one other : String} : bytes one < bytes other ↔ one < other := by
  have forth {one other : String} (before : one < other) : bytes one < bytes other := by
    rw [bytes_eq, bytes_eq]
    exact encode_lt before
  refine ⟨fun before => String.not_le.mp fun back => ?_, forth⟩
  by_cases same : one = other
  · subst same
    exact List.lt_irrefl _ before
  · have after : other < one := String.not_le.mp fun less => same (String.le_antisymm less back)
    exact List.lt_asymm before (forth after)

end GameBundle.Text
