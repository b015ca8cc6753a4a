import GameBundle.Proofs.Bundle.ResourceCopies

/-!
# Which names resources get

Names in use are never given up. So the name that a source gets is still found for it once
more names are in use, and resources are renamed as if all names were in use from the start:
sources share a name exactly when they agree component by component. Numbers go in front
of what stands behind the stem, so a name keeps the extension of its source.
-/

namespace GameBundle

namespace Path

def ownExtension? (path : Path) : Option String := path.fileName?.bind extension?

theorem splitName_of_dot {front behind : List Char} (started : front ≠ []) (last : '.' ∉ behind) :
    splitName (front ++ '.' :: behind) = (front, some behind) := by
  have turned : ((front ++ '.' :: behind).reverse.takeWhile (· != '.')).reverse = behind := by
    have clean : ∀ c ∈ behind.reverse, (c != '.') = true := by
      intro c member
      rw [List.mem_reverse] at member
      rw [bne_iff_ne]
      rintro rfl
      exact last member
    simp [List.takeWhile_append_of_pos clean]
  have size : (front ++ '.' :: behind).length - behind.length - 1 = front.length := by
    simp
    omega
  have longer : behind.length ≠ (front ++ '.' :: behind).length := by
    simp
    omega
  unfold splitName
  simp only [turned, size, List.take_left]
  rw [if_neg (not_or.mpr ⟨longer, started⟩)]

theorem splitName_of_no_dot {name : List Char} (single : '.' ∉ name.tail) :
    splitName name = (name, none) := by
  rcases name with _ | ⟨c, rest⟩
  · rfl
  · have clean : ∀ d ∈ rest.reverse, (d != '.') = true := by
      intro d member
      rw [List.mem_reverse] at member
      rw [bne_iff_ne]
      rintro rfl
      exact single member
    unfold splitName
    rw [List.reverse_cons, List.takeWhile_append_of_pos clean]
    refine if_pos ?_
    by_cases dot : c = '.'
    · simp [dot]
    · simp [dot]

/-- A name is split at its last dot, unless there is none but at the start. -/
theorem splitName_cases (name : List Char) :
    ('.' ∉ name.tail ∧ splitName name = (name, none)) ∨
      ∃ front behind, front ≠ [] ∧ '.' ∉ behind ∧ splitName name = (front, some behind) := by
  by_cases dot : '.' ∈ name.tail
  · right
    obtain ⟨behind, before, parts, last⟩ := List.eq_append_cons_of_mem (List.mem_reverse.mpr dot)
    obtain ⟨c, whole⟩ : ∃ c, name = (c :: before.reverse) ++ '.' :: behind.reverse := by
      rcases name with _ | ⟨c, rest⟩
      · cases dot
      · refine ⟨c, ?_⟩
        have turned := congrArg List.reverse parts
        simp only [List.tail_cons, List.reverse_reverse] at turned
        simp [turned]
    have clean : '.' ∉ behind.reverse := by simpa using last
    rw [whole]
    exact ⟨_, _, List.cons_ne_nil _ _, clean, splitName_of_dot (List.cons_ne_nil _ _) clean⟩
  · exact .inl ⟨dot, splitName_of_no_dot dot⟩

theorem fileName?_of_isName {name : String} (isName : IsName name) :
    (Path.mk name).fileName? = some name := by
  rw [← blank_join name]
  exact fileName?_join isName

theorem components_of_isName {name : String} (isName : IsName name) :
    (Path.mk name).components = [.name name] := by
  rw [← blank_join name, components_join_name isName]
  rfl

theorem fileName?_congr {path other : Path} (same : path.same other = true) :
    path.fileName? = other.fileName? := by
  unfold fileName?
  rw [eq_of_beq same]

theorem same_symm {path other : Path} (same : path.same other = true) : other.same path = true := by
  unfold Path.same at same ⊢
  rw [eq_of_beq same, beq_self_eq_true]

theorem same_trans {path middle other : Path} (first : path.same middle = true)
    (second : middle.same other = true) : path.same other = true := by
  unfold Path.same at first second ⊢
  rw [eq_of_beq first, eq_of_beq second, beq_self_eq_true]

end Path

namespace ResourceExport

theorem extension?_numbered (name : String) (n : Nat) :
    Path.extension? (numbered name n) = Path.extension? name := by
  have dotless : '.' ∉ Decimal.digits n := by
    intro member
    exact absurd (Decimal.isDigit_of_mem_digits member) (by decide)
  have stem : (Path.stem name).toList = (Path.splitName name.toList).1 := String.toList_ofList
  rcases Path.splitName_cases name.toList with ⟨single, split⟩ | ⟨front, behind, started, last, split⟩
  · have plain : Path.extension? name = none := by rw [Path.extension?, split]; rfl
    have parts : (numbered name n).toList = name.toList ++ Decimal.digits n := by
      rw [toList_numbered, stem, split, Path.ending, plain]
      simp
    have still : '.' ∉ (name.toList ++ Decimal.digits n).tail := by
      generalize name.toList = text at single
      rcases text with _ | ⟨c, rest⟩
      · exact fun member => dotless (List.mem_of_mem_tail member)
      · rw [List.tail_cons] at single
        simp only [List.cons_append, List.tail_cons, List.mem_append, not_or]
        exact ⟨single, dotless⟩
    rw [plain, Path.extension?, parts, Path.splitName_of_no_dot still]
    rfl
  · have dotted : Path.extension? name = some (String.ofList behind) := by
      rw [Path.extension?, split]; rfl
    have parts : (numbered name n).toList = (front ++ Decimal.digits n) ++ '.' :: behind := by
      rw [toList_numbered, stem, split, Path.ending, dotted]
      simp
    rw [dotted, Path.extension?, parts, Path.splitName_of_dot (by simp [started]) last]
    rfl

theorem extension?_candidate (name : String) (n : Nat) :
    Path.extension? (candidate name n) = Path.extension? name := by
  cases n with
  | zero => rfl
  | succ n => exact extension?_numbered name (n + 2)

theorem extension?_sourceName (source : Path) :
    Path.extension? (sourceName source) = source.ownExtension? := by
  unfold sourceName Path.ownExtension?
  cases source.fileName? with
  | none => decide
  | some name => rfl

theorem ownExtension?_exportedName (taken : Taken) (source : Path) :
    (Path.mk (exportedName taken source)).ownExtension? = source.ownExtension? := by
  have isName := isName_exportedName taken source
  obtain ⟨k, found, -⟩ := firstFrom_spec taken source 0 taken.length
  rw [Path.ownExtension?, Path.fileName?_of_isName isName, Option.bind_some, exportedName, found,
    extension?_candidate, extension?_sourceName]

/-- Names that are in use stay with the sources they were given to. -/
def Extends (names larger : Taken) : Prop :=
  ∀ name source, names.find? name = some source → larger.find? name = some source

theorem Extends.refl (names : Taken) : Extends names names := fun _ _ held => held

theorem Extends.trans {names middle larger : Taken} (first : Extends names middle)
    (second : Extends middle larger) : Extends names larger :=
  fun name source held => second name source (first name source held)

theorem extends_takeName (names : Taken) (source : Path) (name : String) :
    Extends names (takeName names source name) := by
  intro sought holder held
  rw [Dictionary.find?_takeName]
  split
  · rename_i free
    rw [free.1, free.2] at held
    cases held
  · exact held

theorem extends_takenAfter (home : Path) (names : Taken) (resources : List Resource) :
    Extends names (takenAfter home names resources) := by
  induction resources generalizing names with
  | nil => exact .refl names
  | cons resource rest ih =>
    rw [takenAfter]
    split
    · exact ih names
    · exact (extends_takeName _ _ _).trans (ih _)

/-- A name is the first to suit a source, and it was given to that source. -/
structure Gives (names : Taken) (source : Path) (name : String) : Prop where
  first : ∃ k, candidate (sourceName source) k = name ∧
    ∀ j < k, isFor names source (candidate (sourceName source) j) = false
  given : ∃ holder, names.find? name = some holder ∧ holder.same source = true

namespace Gives

variable {names larger : Taken} {source other : Path} {name : String}

theorem isFor (gives : Gives names source name) : isFor names source name = true := by
  obtain ⟨holder, held, same⟩ := gives.given
  rw [ResourceExport.isFor, held]
  exact same

/-- What does not suit a source goes on not to suit it, because its holder keeps it. -/
theorem not_isFor_mono (grown : Extends names larger)
    (unsuited : ResourceExport.isFor names source name = false) :
    ResourceExport.isFor larger source name = false := by
  unfold ResourceExport.isFor at unsuited ⊢
  cases held : names.find? name with
  | none => simp [held] at unsuited
  | some holder =>
    rw [held] at unsuited
    rw [grown name holder held]
    exact unsuited

theorem mono (gives : Gives names source name) (grown : Extends names larger) :
    Gives larger source name := by
  obtain ⟨⟨k, found, earlier⟩, holder, held, same⟩ := gives
  exact ⟨⟨k, found, fun j before => not_isFor_mono grown (earlier j before)⟩,
    holder, grown name holder held, same⟩

theorem isFor_congr (same : source.same other = true) (names : Taken) (name : String) :
    ResourceExport.isFor names source name = ResourceExport.isFor names other name := by
  unfold ResourceExport.isFor Path.same
  rw [eq_of_beq same]

theorem congr (gives : Gives names source name) (same : source.same other = true) :
    Gives names other name := by
  obtain ⟨⟨k, found, earlier⟩, holder, held, agrees⟩ := gives
  have label : sourceName source = sourceName other := by
    rw [sourceName, Path.fileName?_congr same, sourceName]
  refine ⟨⟨k, label ▸ found, fun j before => ?_⟩, holder, held, Path.same_trans agrees same⟩
  rw [← isFor_congr same, ← label]
  exact earlier j before

/-- The name that a source was given is found for it again. -/
theorem exportedName_eq (gives : Gives names source name) : exportedName names source = name := by
  obtain ⟨k, found, earlier⟩ := gives.first
  obtain ⟨n, found', -, earlier', -⟩ := firstFrom_spec names source 0 names.length
  have suits := isFor_exportedName names source
  rw [exportedName, found'] at suits
  have same : n = k := by
    rcases Nat.lt_trichotomy n k with before | same | behind
    · rw [earlier n before] at suits
      cases suits
    · exact same
    · have unsuited := earlier' k (Nat.zero_le k) behind
      rw [found, gives.isFor] at unsuited
      cases unsuited
  rw [exportedName, found', same, found]

end Gives

theorem gives_takeName (names : Taken) (source : Path) :
    Gives (takeName names source (exportedName names source)) source (exportedName names source) := by
  obtain ⟨k, found, -, earlier, -⟩ := firstFrom_spec names source 0 names.length
  refine ⟨⟨k, found.symm, fun j before => ?_⟩, find?_takeName_self (isFor_exportedName names source)⟩
  exact Gives.not_isFor_mono (extends_takeName _ _ _) (earlier j (Nat.zero_le j) before)

/-- Sources that were given names share one exactly when they agree. -/
theorem exportedName_eq_iff {names : Taken} {source other : Path}
    (given : Gives names source (exportedName names source))
    (otherGiven : Gives names other (exportedName names other)) :
    exportedName names source = exportedName names other ↔ source.same other = true := by
  constructor
  · intro shared
    obtain ⟨holder, held, same⟩ := given.given
    obtain ⟨otherHolder, otherHeld, otherSame⟩ := otherGiven.given
    rw [shared, otherHeld] at held
    cases held
    exact Path.same_trans (Path.same_symm same) otherSame
  · exact fun same => (given.congr same).exportedName_eq.symm

theorem gives_takenAfter {home : Path} {names : Taken} {resources : List Resource}
    {resource : Resource} (member : resource ∈ resources) (named : resource.file ≠ "") :
    let final := takenAfter home names resources
    Gives final (home / resource.file) (exportedName final (home / resource.file)) := by
  induction resources generalizing names with
  | nil => cases member
  | cons first rest ih =>
    rw [takenAfter]
    rcases List.mem_cons.mp member with rfl | later
    · rw [if_neg named]
      have given := (gives_takeName names (home / resource.file)).mono
        (extends_takenAfter home _ rest)
      dsimp only
      rwa [given.exportedName_eq]
    · split
      · exact ih later
      · exact ih later

def renamed (home : Path) (names : Taken) (resource : Resource) : Resource :=
  if resource.file = "" then resource
  else { resource with file := exportedName names (home / resource.file) }

/-- Exported without fault, resources are renamed as if all names had been in use before. -/
theorem resources_exportFrom {σ : Type} [Storage σ] {home destination : Path} {names : Taken}
    {resources : List Resource} {session : Session σ}
    (whole : ((exportFrom home destination names resources).run session).1.fault? = none) :
    ((exportFrom home destination names resources).run session).1.resources =
      resources.map (renamed home (takenAfter home names resources)) := by
  induction resources generalizing names session with
  | nil => rfl
  | cons resource rest ih =>
    rw [run_exportFrom_cons] at whole ⊢
    rw [takenAfter, List.map_cons]
    by_cases blank : resource.file = ""
    · simp only [blank, if_true] at whole ⊢
      rw [renamed, if_pos blank]
      exact congrArg (resource :: ·) (ih whole)
    · simp only [blank, if_false] at whole ⊢
      rcases ran : (exportFile resource.name (home / resource.file)
        (destination / exportedName names (home / resource.file))).exec session with
        ⟨outcome, middle⟩
      rw [ran] at whole
      cases outcome with
      | error fault => cases whole
      | ok done =>
        have given := (gives_takeName names (home / resource.file)).mono
          (extends_takenAfter home _ rest)
        rw [renamed, if_neg blank, given.exportedName_eq]
        exact congrArg (Resource.mk resource.name resource.kind
          (exportedName names (home / resource.file)) :: ·) (ih whole)

end ResourceExport

end GameBundle
