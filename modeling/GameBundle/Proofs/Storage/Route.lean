import GameBundle.Proofs.Storage.Place
import Mathlib.Data.List.Induction

/-!
# Routes from the root

Made absolute, a path keeps its double dots, so it names a route from the root rather
than a place. For paths without double dots the route is the place, and one of them
begins another exactly when its place does.
-/

namespace GameBundle

namespace Path

/-- The parts that may be joined one after the other. -/
def IsSolid (part : List Char) : Prop := '/' ∉ part ∧ isVoid part = false

theorem isSolid_of_mem_solidParts {path : Path} {part : List Char}
    (member : part ∈ path.solidParts) : IsSolid part := by
  obtain ⟨inside, solid⟩ := List.mem_filter.mp member
  exact ⟨clean_of_mem_splitParts inside, by simpa using solid⟩

theorem components_foldl_joinText {parts : List (List Char)} (start : List Char)
    (solid : ∀ part ∈ parts, IsSolid part) :
    (Path.mk (String.ofList (parts.foldl joinText start))).components =
      (Path.mk (String.ofList start)).components ++ parts.map Component.ofPart := by
  induction parts generalizing start with
  | nil => simp
  | cons part parts ih =>
    obtain ⟨clean, whole⟩ := solid part List.mem_cons_self
    have joined : Path.mk (String.ofList (joinText start part)) =
        Path.mk (String.ofList start) / String.ofList part := by
      change _ = Path.mk (String.ofList (joinText (String.ofList start).toList _))
      rw [String.toList_ofList, String.toList_ofList]
    have first : (Path.mk (String.ofList start) / String.ofList part).components =
        (Path.mk (String.ofList start)).components ++ [Component.ofPart part] := by
      rw [components_join, String.toList_ofList] <;> rwa [String.toList_ofList]
    rw [List.foldl_cons, ih _ fun other member => solid other (List.mem_cons_of_mem _ member),
      joined, first, List.append_assoc]
    rfl

/-- A slash at the end adds no component. -/
theorem components_join_empty (text : List Char) :
    (Path.mk (String.ofList (joinText text []))).components =
      (Path.mk (String.ofList text)).components := by
  by_cases blank : text = []
  · subst blank
    rfl
  · have begins : (Path.mk (String.ofList (joinText text []))).lead =
        (Path.mk (String.ofList text)).lead := by
      unfold lead
      rw [String.toList_ofList, String.toList_ofList, split_join blank (by simp)]
    have parts : (Path.mk (String.ofList (joinText text []))).solidParts =
        (Path.mk (String.ofList text)).solidParts := by
      unfold solidParts
      rw [String.toList_ofList, String.toList_ofList, solidParts_join (by simp), List.filter_append]
      simp [splitParts, isVoid]
    rw [components_eq, components_eq, begins, parts]

theorem components_absolute {path : Path} (named : path.text ≠ "") (home : Path) :
    (absolute home path).components =
      (if path.isAbsolute then [.root] else home.components) ++
        path.solidParts.map Component.ofPart := by
  have parts : (splitParts (split path.text.toList).2).filter (fun part => !isVoid part) =
      path.solidParts := solidParts_split path.text.toList
  have closed (whole : List Char) : (Path.mk (String.ofList
      (if path.text.toList.getLast? = some '/' then joinText whole [] else whole))).components =
        (Path.mk (String.ofList whole)).components := by
    split
    · exact components_join_empty whole
    · rfl
  unfold absolute
  rw [if_neg (by simpa using named)]
  dsimp only
  rw [parts, closed, components_foldl_joinText _ fun _ => isSolid_of_mem_solidParts]
  congr 1
  by_cases rooted : path.isAbsolute = true
  · have begins : (split path.text.toList).1 = .root := (Memory.lead_eq_root_iff path).mpr rooted
    rw [if_pos rooted, if_neg (not_not.mpr begins)]
    split <;> decide
  · have begins : (split path.text.toList).1 ≠ .root :=
      fun same => rooted ((Memory.lead_eq_root_iff path).mp same)
    rw [if_neg rooted, if_pos begins, String.ofList_toList]

theorem isAbsolute_iff {path : Path} :
    path.isAbsolute = true ↔ path.components.head? = some .root := by
  rw [← Memory.lead_eq_root_iff, components_eq]
  cases begins : path.lead with
  | root => simp [Lead.components]
  | here => simp [Lead.components]
  | bare =>
    rcases path.solidParts with _ | ⟨part, parts⟩
    · simp [Lead.components]
    · by_cases up : part = ['.', '.'] <;> simp [Lead.components, Component.ofPart, up]

theorem isAbsolute_join {path : Path} {text : String} (name : IsName text) :
    (path / text).isAbsolute = path.isAbsolute := by
  rw [Bool.eq_iff_iff, isAbsolute_iff, isAbsolute_iff, components_join_name name]
  cases path.components <;> simp

theorem isAbsolute_join_name {path : Path} {text : String} (absolute : path.isAbsolute = true)
    (name : IsName text) : (path / text).isAbsolute = true :=
  (isAbsolute_join name).trans absolute

theorem isAbsolute_absolute {home path : Path} (named : path.text ≠ "")
    (rooted : home.isAbsolute = true) : (absolute home path).isAbsolute = true := by
  rw [isAbsolute_iff] at rooted ⊢
  rw [components_absolute named, List.head?_append]
  split
  · rfl
  · rw [rooted]
    rfl

end Path

theorem Place.toList_text {place : Place} (inhabited : place ≠ []) :
    place.text.toList = place.flatMap fun name => '/' :: name.toList := by
  have joined : (String.join (place.map ("/" ++ ·))).toList =
      place.flatMap fun name => '/' :: name.toList := by
    rw [String.toList_join, List.flatMap_map]
    congr 1
    funext name
    rw [String.toList_append]
    rfl
  rw [← joined, Place.text, if_neg inhabited]

theorem Place.splitParts_text {place : Place} (proper : ∀ name ∈ place, Path.IsName name) :
    Path.splitParts (place.flatMap fun name => '/' :: name.toList) =
      [] :: place.map String.toList := by
  induction place using List.reverseRecOn with
  | nil => rfl
  | append_singleton place name ih =>
    have earlier := ih fun other member => proper other (List.mem_append_left _ member)
    have clean := (proper name (by simp)).clean
    rw [List.flatMap_append, List.flatMap_singleton, Path.splitParts_append_slash, earlier,
      Path.splitParts_of_clean clean]
    simp

theorem Place.isAbsolute_text (place : Place) : (Path.mk place.text).isAbsolute = true := by
  unfold Path.isAbsolute
  rcases place with _ | ⟨name, rest⟩
  · rfl
  · rw [Place.toList_text (by simp), List.flatMap_cons]
    rfl

theorem Place.components_text {place : Place} (proper : ∀ name ∈ place, Path.IsName name) :
    (Path.mk place.text).components = .root :: place.map Path.Component.name := by
  have begins := (Memory.lead_eq_root_iff ⟨place.text⟩).mpr (Place.isAbsolute_text place)
  have parts : (Path.mk place.text).solidParts = place.map String.toList := by
    unfold Path.solidParts
    by_cases root : place = []
    · subst root
      rfl
    · rw [Place.toList_text root, Place.splitParts_text proper, List.filter_cons_of_neg (by decide),
        List.filter_eq_self]
      intro part member
      obtain ⟨name, inside, rfl⟩ := List.mem_map.mp member
      simp [(proper name inside).solid]
  rw [Path.components_eq, begins, parts, List.map_map]
  change Path.Component.root :: _ = _
  congr 1
  apply List.map_congr_left
  intro name inside
  exact (proper name inside).ofPart

namespace Memory

open GameBundle.Path (Component)

/-- The components of a path from the root, as it is written; the empty path has none. -/
def route (home : Place) (path : Path) : List Component :=
  if path.text = "" then []
  else
    (if path.isAbsolute then [.root] else (Path.mk home.text).components) ++
      path.solidParts.map Component.ofPart

theorem components_absolute (memory : Memory) (path : Path) :
    (Storage.absolute path memory).components = route memory.home path := by
  change (Path.absolute ⟨memory.home.text⟩ path).components = _
  unfold route
  by_cases blank : path.text = ""
  · rw [if_pos blank, Path.absolute, if_pos (by simpa using blank)]
    obtain ⟨text⟩ := path
    subst blank
    rfl
  · rw [if_neg blank, Path.components_absolute blank]

theorem place_absolute {memory : Memory} (proper : ∀ name ∈ memory.home, Path.IsName name)
    (path : Path) : memory.place (Storage.absolute path memory) = memory.place path := by
  unfold place
  rw [locate_eq_follow, components_absolute, route]
  by_cases blank : path.text = ""
  · obtain ⟨text⟩ := path
    subst blank
    rfl
  · rw [if_neg blank, List.foldl_append, locate_eq_solidParts]
    split
    · rfl
    · rw [Place.components_text proper, List.foldl_cons, foldl_follow_name]
      rfl

/-- The route that names joined to a path come behind; the empty path stands for home. -/
def stem (home : Place) (path : Path) : List Component :=
  if path.text = "" then (Path.mk home.text).components else route home path

theorem route_join_name (home : Place) {path : Path} {text : String} (name : Path.IsName text) :
    route home (path / text) = stem home path ++ [.name text] := by
  rw [route, if_neg (Path.text_join_ne name), Path.isAbsolute_join name,
    Path.solidParts_join_part name.clean name.solid, stem, route]
  by_cases blank : path.text = ""
  · obtain ⟨given⟩ := path
    subst blank
    simp [Path.isAbsolute, Path.solidParts, Path.splitParts, Path.isVoid, name.ofPart]
  · simp [blank, name.ofPart]

theorem stem_join_name {home : Place} {path : Path} {text : String} (name : Path.IsName text) :
    stem home (path / text) = route home (path / text) :=
  if_neg (Path.text_join_ne name)

/-- Whether a path has a text and no double dots. -/
def IsLevel (path : Path) : Prop :=
  path.text ≠ "" ∧ .up ∉ path.components

instance (path : Path) : Decidable (IsLevel path) :=
  inferInstanceAs (Decidable (_ ∧ _))

/-- Without double dots the route is the place. -/
theorem route_eq_of_isLevel {home : Place} (proper : ∀ name ∈ home, Path.IsName name)
    {path : Path} (level : IsLevel path) :
    route home path = .root :: (locate home path).map Component.name := by
  have names : path.solidParts.map Component.ofPart =
      (path.solidParts.map String.ofList).map Component.name := by
    rw [List.map_map]
    apply List.map_congr_left
    intro part member
    have flat : part ≠ ['.', '.'] := by
      rintro rfl
      apply level.2
      rw [Path.components_eq]
      exact List.mem_append_right _ (List.mem_map.mpr ⟨_, member, rfl⟩)
    simp [Component.ofPart, flat]
  rw [route, if_neg level.1, locate_eq_solidParts, names, foldl_follow_name, List.map_append]
  split
  · rfl
  · rw [Place.components_text proper]
    rfl

/-- Of two paths without double dots, one begins the other as its place does. -/
theorem prefix_route_iff {home : Place} (proper : ∀ name ∈ home, Path.IsName name)
    {path other : Path} (level : IsLevel path) (otherLevel : IsLevel other) :
    route home path <+: route home other ↔ locate home path <+: locate home other := by
  have injective : Function.Injective Component.name := fun _ _ same => Component.name.inj same
  rw [route_eq_of_isLevel proper level, route_eq_of_isLevel proper otherLevel,
    List.prefix_cons_inj, List.prefix_map_iff_of_injective injective]

-- one place, two routes
example : locate ["cwd"] ⟨"/out/b/../a"⟩ = locate ["cwd"] ⟨"/out/a"⟩ ∧
    ¬route ["cwd"] ⟨"/out/a"⟩ <+: route ["cwd"] ⟨"/out/b/../a"⟩ := by decide

end Memory

end GameBundle
