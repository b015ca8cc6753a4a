import GameBundle.Proofs.Text.Search

/-!
# Counting occurrences

Counting from left to right, an occurrence may be missed for one that begins before it and ends
in it, but never without another one counted. So behind any text as many are counted as
without it, and a text put together from parts has at least one for each part with an
occurrence.
-/

namespace GameBundle.Text

variable {first : Char} {more text front back : List Char}

theorem countAll_of_starts (starts : more <+: text) :
    countAll first more (first :: text) = countAll first more (text.drop more.length) + 1 := by
  rw [countAll, if_pos ⟨rfl, List.isPrefixOf_iff_prefix.mpr starts⟩]

/-- Without its first characters a text has no more occurrences; fewer characters than the
pattern has take away one at most. -/
theorem countAll_drop (k : Nat) (text : List Char) :
    countAll first more (text.drop k) ≤ countAll first more text ∧
      (k ≤ more.length → countAll first more text ≤ countAll first more (text.drop k) + 1) := by
  induction measured : text.length using Nat.strongRecOn generalizing k text with
  | ind size ih =>
  cases k with
  | zero => simp
  | succ k =>
  cases text with
  | nil => simp
  | cons c rest =>
    have shrink : (rest.drop k).length < size := by
      rw [← measured, List.length_drop, List.length_cons]
      omega
    have behind : (rest.drop more.length).length < size := by
      rw [← measured, List.length_drop, List.length_cons]
      omega
    rw [List.drop_succ_cons, countAll]
    split
    · rcases Nat.le_total k more.length with inside | outside
      · have same : (rest.drop k).drop (more.length - k) = rest.drop more.length := by
          rw [List.drop_drop, Nat.add_sub_cancel' inside]
        obtain ⟨fewer, one⟩ := ih _ shrink (more.length - k) (rest.drop k) rfl
        rw [same] at fewer one
        exact ⟨one (Nat.sub_le _ _), fun _ => Nat.add_le_add_right fewer 1⟩
      · have same : (rest.drop more.length).drop (k - more.length) = rest.drop k := by
          rw [List.drop_drop, Nat.add_sub_cancel' outside]
        have fewer := (ih _ behind (k - more.length) (rest.drop more.length) rfl).1
        rw [same] at fewer
        exact ⟨Nat.le_succ_of_le fewer, fun small => absurd outside (by omega)⟩
    · obtain ⟨fewer, one⟩ := ih _ (by rw [← measured]; exact Nat.lt_succ_self _) k rest rfl
      exact ⟨fewer, fun small => one (Nat.le_of_succ_le small)⟩

theorem countAll_le_append (front back : List Char) :
    countAll first more back ≤ countAll first more (front ++ back) := by
  have fewer : countAll first more ((front ++ back).drop front.length) ≤
      countAll first more (front ++ back) := (countAll_drop _ _).1
  rwa [List.drop_left] at fewer

theorem countAll_lt_append (holds : first :: more <:+: front) :
    countAll first more back < countAll first more (front ++ back) := by
  obtain ⟨start, ending, rfl⟩ := holds
  calc countAll first more back
      ≤ countAll first more (ending ++ back) := countAll_le_append _ _
    _ < countAll first more (first :: (more ++ (ending ++ back))) := by
      rw [countAll_of_starts (List.prefix_append _ _), List.drop_left]
      exact Nat.lt_succ_self _
    _ ≤ countAll first more (start ++ first :: more ++ ending ++ back) := by
      simpa using countAll_le_append start (first :: (more ++ (ending ++ back)))

/-- Something is counted exactly when there is an occurrence. -/
theorem countAll_pos_iff : 0 < countAll first more text ↔ first :: more <:+: text := by
  constructor
  · intro counted
    induction measured : text.length using Nat.strongRecOn generalizing text with
    | ind size ih =>
    cases text with
    | nil => simp [countAll] at counted
    | cons c rest =>
      rw [countAll] at counted
      split at counted
      · rename_i starts
        obtain ⟨rfl, starts⟩ := starts
        exact (List.cons_prefix_cons.mpr ⟨rfl, List.isPrefixOf_iff_prefix.mp starts⟩).isInfix
      · refine (ih _ ?_ counted rfl).trans (List.suffix_cons c rest).isInfix
        rw [← measured]
        exact Nat.lt_succ_self _
  · intro holds
    have counted : countAll first more [] < countAll first more (text ++ []) :=
      countAll_lt_append holds
    rw [List.append_nil] at counted
    exact Nat.zero_lt_of_lt counted

variable {pattern : String}

theorem exists_count (inhabited : pattern ≠ "") : ∃ first more, pattern.toList = first :: more ∧
    ∀ text, count pattern text = countAll first more text.toList := by
  have shape : pattern.toList ≠ [] := by simpa using inhabited
  obtain ⟨first, more, shape⟩ := List.exists_cons_of_ne_nil shape
  exact ⟨first, more, shape, fun text => by simp [count, shape]⟩

theorem count_pos_iff (inhabited : pattern ≠ "") {text : String} :
    0 < count pattern text ↔ contains text pattern = true := by
  obtain ⟨first, more, shape, counts⟩ := exists_count inhabited
  rw [counts, countAll_pos_iff, contains_iff, shape]

/-- Each part with an occurrence counts, whatever stands around them. -/
theorem countP_contains_le_count (inhabited : pattern ≠ "") (front back : String)
    (parts : List String) : parts.countP (contains · pattern) ≤
      count pattern (front ++ String.join parts ++ back) := by
  obtain ⟨first, more, shape, counts⟩ := exists_count inhabited
  have together : parts.countP (contains · pattern) ≤
      countAll first more ((String.join parts).toList ++ back.toList) := by
    induction parts with
    | nil => exact Nat.zero_le _
    | cons part parts ih =>
      rw [String.join_cons, String.toList_append, List.append_assoc, List.countP_cons]
      split
      · rename_i holds
        rw [contains_iff, shape] at holds
        exact Nat.succ_le_of_lt (Nat.lt_of_le_of_lt ih (countAll_lt_append holds))
      · exact ih.trans (countAll_le_append _ _)
  rw [counts, String.toList_append, String.toList_append, List.append_assoc]
  exact together.trans (countAll_le_append _ _)

end GameBundle.Text
