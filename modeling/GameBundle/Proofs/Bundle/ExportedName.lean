import GameBundle.Bundle.ResourceExport
import GameBundle.Proofs.Bundle.GeneratedScript
import Mathlib.Data.List.Nodup
import Mathlib.Data.List.Perm.Subperm

/-!
# Names of exported resources

The names tried for a file are pairwise distinct, so those that are taken cannot use up
one try more than there are taken names: the name found is free or was given to this
very source. Every name tried stands for a file directly inside the destination.
-/

namespace GameBundle

namespace Path

/-- What stands behind the stem of a name. -/
def ending (name : String) : String :=
  match extension? name with
  | some extension => "." ++ extension
  | none => ""

theorem splitName_append (name : List Char) :
    (splitName name).1 ++ (match (splitName name).2 with
      | some behind => '.' :: behind
      | none => []) = name := by
  have cut := List.takeWhile_append_dropWhile (p := (· != '.')) (l := name.reverse)
  unfold splitName
  generalize name.reverse.takeWhile (· != '.') = last at cut ⊢
  dsimp only
  split
  · simp
  · rename_i partly
    rcases rest : name.reverse.dropWhile (· != '.') with _ | ⟨dot, front⟩
    · rw [rest, List.append_nil] at cut
      exact absurd (.inl (by rw [cut, List.reverse_reverse])) partly
    · have isDot : dot = '.' := by
        have head := List.head?_dropWhile_not (p := (· != '.')) (l := name.reverse)
        rw [rest] at head
        simpa using head
      have parts : name = front.reverse ++ '.' :: last.reverse := by
        rw [rest, isDot] at cut
        have turned := congrArg List.reverse cut
        simpa using turned.symm
      have size : name.length - last.reverse.length - 1 = front.reverse.length := by
        rw [parts]
        simp
        omega
      rw [size]
      nth_rewrite 1 [parts]
      rw [List.take_left, ← parts]

theorem stem_append_ending (name : String) : stem name ++ ending name = name := by
  have parts := splitName_append name.toList
  have front : (stem name).toList = (splitName name.toList).1 := String.toList_ofList
  have back : (ending name).toList = match (splitName name.toList).2 with
      | some behind => '.' :: behind
      | none => [] := by
    unfold ending extension?
    cases (splitName name.toList).2 with
    | none => rfl
    | some behind => simp
  rw [← String.toList_inj, String.toList_append, front, back, parts]

end Path

namespace ResourceExport

theorem numbered_eq (name : String) (n : Nat) :
    numbered name n = Path.stem name ++ Decimal.text n ++ Path.ending name := rfl

theorem toList_numbered (name : String) (n : Nat) : (numbered name n).toList =
    (Path.stem name).toList ++ (Decimal.digits n ++ (Path.ending name).toList) := by
  rw [numbered_eq, String.toList_append, String.toList_append, Decimal.text,
    String.toList_ofList, List.append_assoc]

theorem digits_ne_nil (n : Nat) : Decimal.digits n ≠ [] := by
  rw [Decimal.digits]
  split <;> simp

theorem numbered_ne_self (name : String) (n : Nat) : numbered name n ≠ name := by
  intro same
  have sizes := congrArg (fun text => text.toList.length) same
  have whole := congrArg (fun text => text.toList.length) (Path.stem_append_ending name)
  have inhabited := List.length_pos_iff.mpr (digits_ne_nil n)
  simp only [toList_numbered, String.toList_append, List.length_append] at sizes whole
  omega

theorem numbered_injective {name : String} {m n : Nat} (same : numbered name m = numbered name n) :
    m = n := by
  have chars := congrArg String.toList same
  rw [toList_numbered, toList_numbered, List.append_cancel_left_eq,
    List.append_cancel_right_eq] at chars
  exact Decimal.digits_injective chars

/-- No name is tried twice. -/
theorem candidate_injective (name : String) : Function.Injective (candidate name) := by
  intro m n same
  cases m with
  | zero =>
    cases n with
    | zero => rfl
    | succ n => exact absurd same.symm (numbered_ne_self name (n + 2))
  | succ m =>
    cases n with
    | zero => exact absurd same (numbered_ne_self name (m + 2))
    | succ n =>
      have := numbered_injective same
      omega

theorem isName_sourceName (source : Path) : Path.IsName (sourceName source) := by
  unfold sourceName
  cases named : source.fileName? with
  | none => exact (by decide : Path.IsName "resource")
  | some name => exact Path.isName_of_fileName? named

theorem isName_numbered {name : String} (isName : Path.IsName name) (n : Nat) :
    Path.IsName (numbered name n) := by
  have clean := isName.clean
  rw [← Path.stem_append_ending name, String.toList_append, List.mem_append, not_or] at clean
  obtain ⟨c, rest, digits⟩ := List.exists_cons_of_ne_nil (digits_ne_nil n)
  have digit : c ≠ '.' := by
    have member : c ∈ Decimal.digits n := by simp [digits]
    have isDigit := Decimal.isDigit_of_mem_digits member
    rintro rfl
    revert isDigit
    decide
  have member : c ∈ (numbered name n).toList := by simp [toList_numbered, digits]
  refine ⟨?_, ?_, ?_, ?_⟩
  · rw [toList_numbered, List.mem_append, List.mem_append, not_or, not_or]
    exact ⟨clean.1, Decimal.slash_not_mem_digits n, clean.2⟩
  all_goals
    intro same
    rw [same] at member
    simp [digit] at member

theorem isName_candidate {name : String} (isName : Path.IsName name) (n : Nat) :
    Path.IsName (candidate name n) := by
  cases n with
  | zero => exact isName
  | succ n => exact isName_numbered isName (n + 2)

/-- The search stops at a candidate behind which all earlier ones do not suit. -/
theorem firstFrom_spec (taken : Taken) (source : Path) (n tries : Nat) :
    ∃ k, firstFrom taken source n tries = candidate (sourceName source) k ∧ k ≤ n + tries ∧
      (∀ j, n ≤ j → j < k → isFor taken source (candidate (sourceName source) j) = false) ∧
      (k < n + tries → isFor taken source (candidate (sourceName source) k) = true) := by
  induction tries generalizing n with
  | zero => exact ⟨n, rfl, by omega, fun j _ _ => by omega, fun _ => by omega⟩
  | succ tries ih =>
    unfold firstFrom
    by_cases suits : isFor taken source (candidate (sourceName source) n) = true
    · refine ⟨n, by simp [suits], by omega, fun j _ _ => by omega, fun _ => suits⟩
    · obtain ⟨k, found, bound, earlier, last⟩ := ih (n + 1)
      refine ⟨k, by simp [suits, found], by omega, ?_, fun _ => last (by omega)⟩
      intro j from_n before
      by_cases same : j = n
      · subst same
        simpa using suits
      · exact earlier j (by omega) before

theorem isName_exportedName (taken : Taken) (source : Path) :
    Path.IsName (exportedName taken source) := by
  obtain ⟨k, found, -⟩ := firstFrom_spec taken source 0 taken.length
  rw [exportedName, found]
  exact isName_candidate (isName_sourceName source) k

theorem mem_names_of_not_isFor {taken : Taken} {source : Path} {name : String}
    (unsuited : isFor taken source name = false) : name ∈ taken.map Prod.fst := by
  unfold isFor at unsuited
  induction taken with
  | nil => simp [Dictionary.find?] at unsuited
  | cons entry rest ih =>
    obtain ⟨held, other⟩ := entry
    by_cases same : name = held
    · simp [same]
    · rw [List.map_cons, List.mem_cons]
      refine .inr (ih ?_)
      simpa [Dictionary.find?, same] using unsuited

/-- The name found for a source is free or was given to this very source: of one candidate
more than there are taken names, one must suit. -/
theorem isFor_exportedName (taken : Taken) (source : Path) :
    isFor taken source (exportedName taken source) = true := by
  obtain ⟨k, found, bound, earlier, last⟩ := firstFrom_spec taken source 0 taken.length
  rw [exportedName, found]
  by_cases before : k < 0 + taken.length
  · exact last before
  · by_contra unsuited
    have unsuited : isFor taken source (candidate (sourceName source) k) = false := by
      simpa using unsuited
    have all : (List.range (k + 1)).map (candidate (sourceName source)) ⊆ taken.map Prod.fst := by
      intro name member
      obtain ⟨j, inside, rfl⟩ := List.mem_map.mp member
      apply mem_names_of_not_isFor
      by_cases same : j = k
      · exact same ▸ unsuited
      · have := List.mem_range.mp inside
        exact earlier j (by omega) (by omega)
    have distinct : ((List.range (k + 1)).map (candidate (sourceName source))).Nodup :=
      List.Nodup.map (candidate_injective (sourceName source)) List.nodup_range
    have fits := (List.subperm_of_subset distinct all).length_le
    simp only [List.length_map, List.length_range] at fits
    omega

end ResourceExport

end GameBundle
