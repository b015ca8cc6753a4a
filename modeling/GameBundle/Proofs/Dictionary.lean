import GameBundle.Dictionary

/-!
# Entering into dictionaries

Entering keeps keys increasing. A key behind all others is entered at the end, so a
dictionary entered entry by entry comes out as it was.
-/

namespace GameBundle.Dictionary

variable {α : Type} {key : String} {value : α} {entries : Dictionary α}

theorem mem_of_mem_insert {entry : String × α} (member : entry ∈ insert key value entries) :
    entry = (key, value) ∨ entry ∈ entries := by
  induction entries with
  | nil => simpa [insert] using member
  | cons first rest ih =>
    obtain ⟨other, held⟩ := first
    unfold insert at member
    split at member
    · exact List.mem_cons.mp member
    · split at member
      · exact (List.mem_cons.mp member).imp_right (List.mem_cons_of_mem _)
      · rcases List.mem_cons.mp member with rfl | behind
        · exact .inr List.mem_cons_self
        · exact (ih behind).imp_right (List.mem_cons_of_mem _)

theorem Increasing.insert (increasing : Increasing entries) :
    Increasing (entries.insert key value) := by
  induction entries with
  | nil => exact List.pairwise_singleton _ _
  | cons first rest ih =>
    obtain ⟨other, held⟩ := first
    obtain ⟨least, later⟩ := List.pairwise_cons.mp increasing
    unfold Dictionary.insert
    split
    · rename_i before
      refine List.pairwise_cons.mpr ⟨?_, increasing⟩
      intro entry member
      rcases List.mem_cons.mp member with rfl | behind
      · exact before
      · exact String.lt_trans before (least entry behind)
    · split
      · rename_i same
        exact List.pairwise_cons.mpr ⟨fun entry behind => same ▸ least entry behind, later⟩
      · rename_i notBefore apart
        refine List.pairwise_cons.mpr ⟨?_, ih later⟩
        intro entry member
        rcases mem_of_mem_insert member with rfl | behind
        · have after : other ≤ key := String.not_lt.mp notBefore
          have strict : ¬key ≤ other := fun back => apart (String.le_antisymm back after)
          exact String.not_le.mp strict
        · exact least entry behind

theorem insert_of_last (last : ∀ entry ∈ entries, entry.1 < key) :
    insert key value entries = entries ++ [(key, value)] := by
  induction entries with
  | nil => rfl
  | cons first rest ih =>
    obtain ⟨other, held⟩ := first
    have before : other < key := last _ List.mem_cons_self
    have apart : key ≠ other := by
      rintro rfl
      exact String.lt_irrefl key before
    rw [insert, if_neg (String.lt_asymm before), if_neg apart,
      ih fun entry member => last entry (List.mem_cons_of_mem _ member)]
    rfl

/-- Where the value of an entry depends on its key alone, the keys entered have their values. -/
theorem find?_ofEntries (worth : String → α) (keys : List String) (key : String) :
    (ofEntries (keys.map fun key => (key, worth key))).find? key =
      if key ∈ keys then some (worth key) else none := by
  have entered (keys : List String) (start : Dictionary α) :
      ((keys.map fun key => (key, worth key)).foldl
          (fun dictionary entry => dictionary.insert entry.1 entry.2) start).find? key =
        if key ∈ keys then some (worth key) else start.find? key := by
    induction keys generalizing start with
    | nil => simp
    | cons first keys ih =>
      rw [List.map_cons, List.foldl_cons, ih]
      by_cases own : key = first
      · simp [own, find?_insert_self]
      · simp [own, find?_insert_of_ne _ _ own]
  exact entered keys []

end GameBundle.Dictionary
