import GameBundle.Storage.Tree
import Mathlib.Data.List.Basic

/-!
# What stands in a changed tree

Every operation on a tree is described by what stands at a place afterwards: clearing
takes away what lies below, and making directories fills only places where nothing
stood.
-/

namespace GameBundle.Tree

theorem isFile_iff {tree : Tree} {place : Place} :
    tree.isFile place = true ↔ ∃ contents, tree.get? place = some (.file contents) := by
  unfold isFile
  cases h : tree.get? place with
  | none => simp
  | some node => cases node <;> simp

theorem isBelow_iff {place above : Place} :
    isBelow place above = true ↔ above <+: place ∧ place ≠ above := by
  simp [isBelow]

theorem mem_upTo {sought place : Place} : sought ∈ upTo place ↔ sought ≠ [] ∧ sought <+: place := by
  induction place generalizing sought with
  | nil => simp [upTo]
  | cons name rest ih =>
    rw [upTo, List.mem_cons, List.mem_map]
    constructor
    · rintro (rfl | ⟨other, member, rfl⟩)
      · exact ⟨by simp, by simp⟩
      · exact ⟨by simp, (List.prefix_cons_inj name).mpr (ih.mp member).2⟩
    · rintro ⟨inhabited, before⟩
      cases sought with
      | nil => exact absurd rfl inhabited
      | cons first others =>
        obtain ⟨rfl, later⟩ := List.cons_prefix_cons.mp before
        cases others with
        | nil => exact .inl rfl
        | cons second others => exact .inr ⟨_, ih.mpr ⟨by simp, later⟩, rfl⟩

private theorem lookup_filter_key (keep : Place → Bool) (sought : Place)
    (entries : List (Place × Node)) :
    (entries.filter fun entry => keep entry.1).lookup sought =
      if keep sought then entries.lookup sought else none := by
  induction entries with
  | nil => simp
  | cons entry rest ih =>
    obtain ⟨held, node⟩ := entry
    by_cases same : sought = held
    · subst same
      cases kept : keep sought <;> simp [kept] at ih ⊢
      exact ih
    · have apart : (sought == held) = false := by simpa using same
      cases kept : keep held <;> simp [kept, List.lookup_cons, apart, ih]

theorem get?_clear (tree : Tree) (place sought : Place) :
    (tree.clear place).get? sought = if isBelow sought place then none else tree.get? sought := by
  unfold get? clear
  by_cases root : sought = []
  · subst root
    have high : isBelow [] place = false := by
      cases place <;> simp [isBelow]
    simp [high]
  · rw [if_neg root, if_neg root, lookup_filter_key (fun held => !isBelow held place)]
    cases isBelow sought place <;> rfl

theorem isFile_clear (tree : Tree) (place sought : Place) :
    (tree.clear place).isFile sought = (!isBelow sought place && tree.isFile sought) := by
  unfold isFile
  rw [get?_clear]
  cases isBelow sought place <;> rfl

private theorem get?_foldl_dirs (places : List Place) (inside : [] ∉ places) (tree : Tree)
    (sought : Place) :
    (places.foldl (fun tree above =>
      match tree.get? above with
      | some _ => tree
      | none => tree.set above .directory) tree).get? sought =
    if sought ∈ places ∧ tree.get? sought = none then some .directory else tree.get? sought := by
  induction places generalizing tree with
  | nil => simp
  | cons place places ih =>
    rw [List.mem_cons, not_or] at inside
    rw [List.foldl_cons, ih inside.2]
    cases held : tree.get? place with
    | some node =>
      by_cases same : sought = place
      · subst same
        simp [held]
      · simp [same]
    | none =>
      by_cases same : sought = place
      · subst same
        simp [get?_set_self (Ne.symm inside.1), held]
      · simp [get?_set_of_ne same, same]

/-- Making directories fills the places on the way where nothing stood. -/
theorem get?_withDirs (tree : Tree) (place sought : Place) :
    (tree.withDirs place).get? sought =
      if sought <+: place ∧ tree.get? sought = none then some .directory
      else tree.get? sought := by
  refine (get?_foldl_dirs (upTo place) (by simp [mem_upTo]) tree sought).trans ?_
  by_cases root : sought = []
  · subst root
    simp [get?]
  · simp [mem_upTo, root]

theorem isFile_withDirs (tree : Tree) (place sought : Place) :
    (tree.withDirs place).isFile sought = tree.isFile sought := by
  unfold isFile
  rw [get?_withDirs]
  by_cases missing : sought <+: place ∧ tree.get? sought = none
  · rw [if_pos missing, missing.2]
  · rw [if_neg missing]

theorem isFile_set_of_isFile {tree : Tree} {place sought : Place}
    (held : tree.isFile sought = true) (contents : ByteArray) :
    (tree.set place (.file contents)).isFile sought = true := by
  by_cases same : sought = place
  · subst same
    have inside : sought ≠ [] := by
      rintro rfl
      cases held
    exact isFile_iff.mpr ⟨contents, get?_set_self inside⟩
  · unfold isFile
    rw [get?_set_of_ne same]
    exact held

/-- Only free places change, apart from directories that appear where `above` holds. -/
def Confined (free above : Place → Prop) (before after : Tree) : Prop :=
  ∀ place, free place ∨ after.get? place = before.get? place ∨
    (above place ∧ before.get? place = none ∧ after.get? place = some .directory)

namespace Confined

variable {free above : Place → Prop} {tree before middle after : Tree} {place : Place}

theorem refl (tree : Tree) : Confined free above tree tree := fun _ => .inr (.inl rfl)

theorem trans (first : Confined free above before middle) (second : Confined free above middle after) :
    Confined free above before after := by
  intro place
  rcases first place with h | same | ⟨high, absent, made⟩
  · exact .inl h
  · rw [← same]
    exact second place
  · rcases second place with h | same | ⟨_, again, _⟩
    · exact .inl h
    · exact .inr (.inr ⟨high, absent, same.trans made⟩)
    · simp [made] at again

theorem mono {wider higher : Place → Prop} (confined : Confined free above before after)
    (free_wider : ∀ place, free place → wider place)
    (above_higher : ∀ place, above place → higher place) : Confined wider higher before after := by
  intro place
  rcases confined place with h | same | ⟨high, made⟩
  · exact .inl (free_wider place h)
  · exact .inr (.inl same)
  · exact .inr (.inr ⟨above_higher place high, made⟩)

theorem file_stays (confined : Confined free above before after) (kept : ¬free place)
    {contents : ByteArray} (held : before.get? place = some (.file contents)) :
    after.get? place = some (.file contents) := by
  rcases confined place with h | same | ⟨_, absent, _⟩
  · exact absurd h kept
  · exact same.trans held
  · simp [held] at absent

theorem set (h : free place) (node : Node) : Confined free above tree (tree.set place node) := by
  intro other
  by_cases same : other = place
  · exact .inl (same ▸ h)
  · exact .inr (.inl (get?_set_of_ne same))

theorem clear (h : ∀ other, place <+: other → free other) :
    Confined free above tree (tree.clear place) := by
  intro other
  rw [get?_clear]
  by_cases below : isBelow other place = true
  · exact .inl (h other (isBelow_iff.mp below).1)
  · exact .inr (.inl (if_neg below))

theorem withDirs (h : ∀ other, other <+: place → free other ∨ above other) :
    Confined free above tree (tree.withDirs place) := by
  intro other
  rw [get?_withDirs]
  by_cases missing : other <+: place ∧ tree.get? other = none
  · rw [if_pos missing]
    rcases h other missing.1 with inside | high
    · exact .inl inside
    · exact .inr (.inr ⟨high, missing.2, rfl⟩)
  · exact .inr (.inl (if_neg missing))

end Confined

end GameBundle.Tree
