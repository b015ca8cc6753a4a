import GameBundle.Proofs.Bundle.ResourceNames
import GameBundle.Proofs.Storage.Listing
import GameBundle.Storage.Changes

/-!
# Fonts declared as resources

The fonts of a directory that no resource is named after become resources behind those that
are there, in the order of the listing. After that every font has a resource, so declaring
them once more adds nothing.
-/

namespace GameBundle.ResourceTable

variable {table : ResourceTable} {url name : String}

/-- A name ends in a dot and the letters of fonts, in any case, and does not begin there. -/
def NamesFont (name : String) : Prop :=
  ∃ stem ending, name = stem ++ "." ++ ending ∧ stem ≠ "" ∧ Text.lowerAscii ending = "ttf"

theorem toList_of_lowerAscii {ending : String} (lowered : Text.lowerAscii ending = "ttf") :
    ending.toList.map Char.toLower = ['t', 't', 'f'] := by
  rw [Text.lowerAscii, ← String.toList_inj, String.toList_ofList] at lowered
  rw [lowered]
  decide

theorem dot_not_mem_of_lowerAscii {ending : String} (lowered : Text.lowerAscii ending = "ttf") :
    '.' ∉ ending.toList := by
  intro dot
  have member : Char.toLower '.' ∈ ending.toList.map Char.toLower := List.mem_map_of_mem dot
  rw [toList_of_lowerAscii lowered] at member
  exact absurd member (by decide)

theorem isFontName_iff : isFontName name = true ↔ NamesFont name := by
  unfold isFontName Path.extension?
  rw [Option.any_eq_true]
  constructor
  · rintro ⟨ending, found, lowered⟩
    obtain ⟨behind, cut, rfl⟩ := Option.map_eq_some_iff.mp found
    have whole := Path.splitName_append name.toList
    rcases Path.splitName_cases name.toList with ⟨-, none⟩ | ⟨front, rest, started, -, parts⟩
    · rw [none] at cut
      cases cut
    · rw [parts] at cut whole
      cases cut
      refine ⟨String.ofList front, String.ofList behind, ?_, ?_, beq_iff_eq.mp lowered⟩
      · rw [← String.toList_inj, ← whole]
        simp
      · rwa [ne_eq, String.ofList_eq_empty_iff]
  · rintro ⟨stem, ending, rfl, started, lowered⟩
    have shown : (stem ++ "." ++ ending).toList = stem.toList ++ '.' :: ending.toList := by simp
    have inhabited : stem.toList ≠ [] := fun empty => started (String.toList_eq_nil_iff.mp empty)
    refine ⟨ending, ?_, beq_iff_eq.mpr lowered⟩
    rw [shown, Path.splitName_of_dot inhabited (dot_not_mem_of_lowerAscii lowered)]
    simp

theorem has_iff : table.has name = true ↔ ∃ resource ∈ table.resources, resource.name = name := by
  simp [has, find?]

theorem has_eq_false_iff :
    table.has name = false ↔ ∀ resource ∈ table.resources, resource.name ≠ name := by
  rw [← Bool.not_eq_true, has_iff]
  simp

theorem has_append_fonts (fonts : List String) :
    (ResourceTable.mk (table.resources ++ fonts.map (fontResource url))).has name = true ↔
      table.has name = true ∨ name ∈ fonts := by
  simp [has_iff, fontResource, or_and_right, exists_or]

/-- The fonts among file names that no resource of the table is named after, each once and
in the order of the file names. -/
structure NewFonts (table : ResourceTable) (fileNames fonts : List String) : Prop where
  within : fonts.Sublist fileNames
  nodup : fonts.Nodup
  mem_iff : ∀ name, name ∈ fonts ↔
    name ∈ fileNames ∧ NamesFont name ∧ ∀ resource ∈ table.resources, resource.name ≠ name

theorem declareFont_of_has {declared : Nat × ResourceTable} (held : declared.2.has name = true) :
    declareFont url declared name = declared := if_pos held

theorem declareFont_of_free {declared : Nat × ResourceTable}
    (free : declared.2.has name = false) : declareFont url declared name =
      (declared.1 + 1, ⟨declared.2.resources ++ [name].map (fontResource url)⟩) := by
  have absent : declared.2.has (fontResource url name).name = false := free
  rw [declareFont, free, if_neg Bool.false_ne_true, add, absent, if_neg Bool.false_ne_true]
  rfl

/-- Declaring fonts one by one adds those whose names are free, each once and in order. -/
theorem foldl_declareFont (url : String) (names : List String) (count : Nat)
    (table : ResourceTable) :
    ∃ fonts : List String, fonts.Sublist names ∧ fonts.Nodup ∧
      (∀ name, name ∈ fonts ↔ name ∈ names ∧ table.has name = false) ∧
      names.foldl (declareFont url) (count, table) =
        (count + fonts.length, ⟨table.resources ++ fonts.map (fontResource url)⟩) := by
  induction names generalizing count table with
  | nil => exact ⟨[], .slnil, .nil, by simp, by simp⟩
  | cons first names ih =>
    cases taken : table.has first with
    | true =>
      obtain ⟨fonts, within, nodup, members, folded⟩ := ih count table
      refine ⟨fonts, within.cons first, nodup, fun name => ?_, ?_⟩
      · rw [members, List.mem_cons]
        grind
      · rw [List.foldl_cons, declareFont_of_has taken, folded]
    | false =>
      obtain ⟨fonts, within, nodup, members, folded⟩ :=
        ih (count + 1) ⟨table.resources ++ [first].map (fontResource url)⟩
      simp only [← Bool.not_eq_true, has_append_fonts, List.mem_singleton, not_or] at members
      simp only [Bool.not_eq_true] at members
      refine ⟨first :: fonts, within.cons_cons first, ?_, fun name => ?_, ?_⟩
      · exact List.nodup_cons.mpr ⟨fun member => ((members first).mp member).2.2 rfl, nodup⟩
      · rw [List.mem_cons, List.mem_cons, members]
        grind
      · rw [List.foldl_cons, declareFont_of_free taken, folded]
        simp [Nat.add_comm, Nat.add_left_comm]

theorem exists_newFonts (table : ResourceTable) (url : String) (fileNames : List String) :
    ∃ fonts, table.NewFonts fileNames fonts ∧ table.declareFonts url fileNames =
      (fonts.length, ⟨table.resources ++ fonts.map (fontResource url)⟩) := by
  obtain ⟨fonts, within, nodup, members, folded⟩ :=
    foldl_declareFont url (fileNames.filter isFontName) 0 table
  rw [Nat.zero_add] at folded
  refine ⟨fonts, ⟨within.trans List.filter_sublist, nodup, fun name => ?_⟩, folded⟩
  rw [members, List.mem_filter, isFontName_iff, has_eq_false_iff, and_assoc]

theorem declareFonts_snd (table : ResourceTable) (url : String) (fileNames : List String) :
    (table.declareFonts url fileNames).2 = table.addFonts url fileNames := by
  have step (declared : Nat × ResourceTable) (name : String) :
      declared.2.add (fontResource url name) = (declareFont url declared name).2 := by
    cases taken : declared.2.has name with
    | true =>
      rw [declareFont_of_has taken]
      exact if_pos taken
    | false =>
      rw [declareFont, taken]
      rfl
  exact (List.foldl_hom Prod.snd step).symm

theorem NewFonts.nothing_new {fileNames fonts more : List String}
    (new : table.NewFonts fileNames fonts)
    (later : NewFonts ⟨table.resources ++ fonts.map (fontResource url)⟩ fileNames more) :
    more = [] := by
  rw [List.eq_nil_iff_forall_not_mem]
  intro name member
  obtain ⟨listed, font, free⟩ := (later.mem_iff name).mp member
  have own : name ∈ fonts := (new.mem_iff name).mpr
    ⟨listed, font, fun resource held => free resource (List.mem_append_left _ held)⟩
  exact free (fontResource url name) (List.mem_append_right _ (List.mem_map_of_mem own)) rfl

theorem declareFonts_declareFonts (table : ResourceTable) (url again : String)
    (fileNames : List String) :
    (table.declareFonts url fileNames).2.declareFonts again fileNames =
      (0, (table.declareFonts url fileNames).2) := by
  obtain ⟨fonts, new, declared⟩ := exists_newFonts table url fileNames
  rw [declared]
  obtain ⟨more, later, repeated⟩ := exists_newFonts
    ⟨table.resources ++ fonts.map (fontResource url)⟩ again fileNames
  obtain rfl := new.nothing_new later
  rw [repeated]
  simp

theorem NewFonts.nodup_names_iff {fileNames fonts : List String}
    (new : table.NewFonts fileNames fonts) :
    ((table.resources ++ fonts.map (fontResource url)).map Resource.name).Nodup ↔
      (table.resources.map Resource.name).Nodup := by
  have names : (fonts.map (fontResource url)).map Resource.name = fonts := by
    rw [List.map_map]
    exact List.map_id fonts
  rw [List.map_append, names, List.nodup_append]
  refine ⟨fun whole => whole.1, fun nodup => ⟨nodup, new.nodup, ?_⟩⟩
  intro name held font member same
  obtain ⟨resource, listed, rfl⟩ := List.mem_map.mp held
  exact ((new.mem_iff font).mp member).2.2 resource listed same

section

variable {σ : Type} [Storage σ] {directory : Path} {disk : σ} {fileNames : List String}
  {fault : StorageFault}

theorem declareFontsIn_of_ok (listed : Storage.fileNames directory disk = .ok fileNames) :
    table.declareFontsIn directory url disk = table.declareFonts url fileNames := by
  rw [declareFontsIn, listed]

theorem declareFontsIn_of_error (failed : Storage.fileNames directory disk = .error fault) :
    table.declareFontsIn directory url disk = (0, table) := by
  rw [declareFontsIn, failed]

theorem declareFontsIn_snd (table : ResourceTable) (directory : Path) (url : String) (disk : σ) :
    (table.declareFontsIn directory url disk).2 = table.addFontsIn directory url disk := by
  unfold declareFontsIn addFontsIn
  cases Storage.fileNames directory disk with
  | ok fileNames => exact declareFonts_snd table url fileNames
  | error fault => rfl

theorem exists_newFonts_of_ok (table : ResourceTable) (url : String)
    (listed : Storage.fileNames directory disk = .ok fileNames) :
    ∃ fonts, table.NewFonts fileNames fonts ∧ table.declareFontsIn directory url disk =
      (fonts.length, ⟨table.resources ++ fonts.map (fontResource url)⟩) := by
  rw [declareFontsIn_of_ok listed]
  exact exists_newFonts table url fileNames

theorem nodup_names_declareFontsIn (table : ResourceTable) (directory : Path) (url : String)
    (disk : σ) :
    ((table.declareFontsIn directory url disk).2.resources.map Resource.name).Nodup ↔
      (table.resources.map Resource.name).Nodup := by
  cases outcome : Storage.fileNames directory disk with
  | ok fileNames =>
    obtain ⟨fonts, new, declared⟩ := exists_newFonts_of_ok table url outcome
    rw [declared]
    exact new.nodup_names_iff
  | error fault => rw [declareFontsIn_of_error outcome]

theorem declareFontsIn_declareFontsIn (table : ResourceTable) (directory : Path)
    (url again : String) (disk : σ) :
    (table.declareFontsIn directory url disk).2.declareFontsIn directory again disk =
      (0, (table.declareFontsIn directory url disk).2) := by
  cases outcome : Storage.fileNames directory disk with
  | ok fileNames =>
    rw [declareFontsIn_of_ok outcome, declareFontsIn_of_ok outcome]
    exact declareFonts_declareFonts table url again fileNames
  | error fault => rw [declareFontsIn_of_error outcome, declareFontsIn_of_error outcome]

end

/-- The fonts among the files directly inside a place that no resource of the table is named
after, by increasing name. -/
structure NewFontFiles (table : ResourceTable) (tree : Tree) (place : Place)
    (fonts : List String) : Prop where
  increasing : fonts.Pairwise (· < ·)
  mem_iff : ∀ name, name ∈ fonts ↔ tree.isFile (place ++ [name]) = true ∧ NamesFont name ∧
    ∀ resource ∈ table.resources, resource.name ≠ name

theorem NewFonts.files {tree : Tree} (distinct : tree.Distinct) {place : Place}
    {fonts : List String} (new : table.NewFonts (tree.fileNames place) fonts) :
    table.NewFontFiles tree place fonts where
  increasing := (Text.pairwise_ordered _).sublist new.within
  mem_iff name := by rw [new.mem_iff, distinct.mem_fileNames]

theorem exists_newFontFiles {σ : Type} [Storage σ] {disk : σ} (table : ResourceTable)
    {directory : Path} (url : String) {tree : Tree} (distinct : tree.Distinct) {place : Place}
    (listed : Storage.fileNames directory disk = .ok (tree.fileNames place)) :
    ∃ fonts, table.NewFontFiles tree place fonts ∧
      (table.addFontsIn directory url disk).resources =
        table.resources ++ fonts.map (fontResource url) := by
  obtain ⟨fonts, new, declared⟩ := exists_newFonts_of_ok table url listed
  refine ⟨fonts, new.files distinct, ?_⟩
  rw [← declareFontsIn_snd, declared]

/-- Declaring the fonts of a directory keeps the table and appends the new fonts of the
listing, and tells how many. A directory that cannot be listed adds none. Names stay
distinct, and declaring again adds nothing. In memory and on the local disk, where each
place has one entry, the new fonts are known by the files directly inside the directory. -/
theorem fonts_declared (table : ResourceTable) (directory : Path) (url : String) :
    (∀ (σ : Type) [Storage σ] (disk : σ),
      let declared := table.declareFontsIn directory url disk
      declared.2 = table.addFontsIn directory url disk ∧
      (∀ fileNames, Storage.fileNames directory disk = .ok fileNames →
        ∃ fonts, table.NewFonts fileNames fonts ∧
          declared = (fonts.length, ⟨table.resources ++
            fonts.map fun name => { name, kind := .font, file := url ++ name }⟩)) ∧
      (∀ fault, Storage.fileNames directory disk = .error fault → declared = (0, table)) ∧
      ((declared.2.resources.map Resource.name).Nodup ↔
        (table.resources.map Resource.name).Nodup) ∧
      ∀ again, declared.2.declareFontsIn directory again disk = (0, declared.2)) ∧
    (∀ (memory : Memory) (fileNames : List String), memory.tree.Distinct →
      Storage.fileNames directory memory = .ok fileNames →
      ∃ fonts, table.NewFontFiles memory.tree (memory.place directory) fonts ∧
        (table.addFontsIn directory url memory).resources =
          table.resources ++ fonts.map fun name => { name, kind := .font, file := url ++ name }) ∧
    ∀ (disk : Local) (place : Place), disk.tree.Distinct → disk.directory directory = .ok place →
      ∃ fonts, table.NewFontFiles disk.tree place fonts ∧
        (table.addFontsIn directory url disk).resources =
          table.resources ++ fonts.map fun name => { name, kind := .font, file := url ++ name } := by
  refine ⟨fun σ _ disk => ?_, fun memory fileNames distinct listed => ?_,
    fun disk place distinct leads => ?_⟩
  · exact ⟨declareFontsIn_snd table directory url disk,
      fun _ listed => exists_newFonts_of_ok table url listed,
      fun _ failed => declareFontsIn_of_error failed,
      nodup_names_declareFontsIn table directory url disk,
      fun again => declareFontsIn_declareFontsIn table directory url again disk⟩
  · obtain rfl := Memory.fileNames_eq_ok listed
    exact exists_newFontFiles table url distinct listed
  · exact exists_newFontFiles table url distinct (Local.fileNames_of_directory leads)

/-- A directory with two fonts, a file that begins with its only dot, and a directory. -/
def fontTree : Tree := Tree.ofEntries [
  (["out"], .directory), (["out", "Title.TTF"], .file .empty),
  (["out", "body.ttf"], .file .empty), (["out", ".ttf"], .file .empty),
  (["out", "old.ttf"], .directory), (["out", "old.ttf", "thin.ttf"], .file .empty)]

def fontMemory : Memory := ⟨fontTree, [], []⟩

def fontDisk : Local := ⟨fontTree, []⟩

def bodyTable : ResourceTable := ⟨[⟨"body.ttf", .other "custom", "x"⟩]⟩

theorem NewFontFiles.title {fonts : List String}
    (new : bodyTable.NewFontFiles fontTree ["out"] fonts) :
    "Title.TTF" ∈ fonts ∧ "body.ttf" ∉ fonts ∧ ".ttf" ∉ fonts ∧ "old.ttf" ∉ fonts := by
  have font (name : String) : NamesFont name ↔ isFontName name = true := isFontName_iff.symm
  simp only [new.mem_iff, font]
  decide +kernel

/-- A new font is entered with the path of its file. -/
theorem title_declared :
    (∃ fonts : List String, "Title.TTF" ∈ fonts ∧ "body.ttf" ∉ fonts ∧ ".ttf" ∉ fonts ∧
      "old.ttf" ∉ fonts ∧ (bodyTable.addFontsIn ⟨"/out"⟩ "fonts/" fontMemory).resources =
        bodyTable.resources ++
          fonts.map fun name => { name, kind := .font, file := "fonts/" ++ name }) ∧
    ∃ fonts : List String, "Title.TTF" ∈ fonts ∧ "body.ttf" ∉ fonts ∧ ".ttf" ∉ fonts ∧
      "old.ttf" ∉ fonts ∧ (bodyTable.addFontsIn ⟨"/out"⟩ "fonts/" fontDisk).resources =
        bodyTable.resources ++
          fonts.map fun name => { name, kind := .font, file := "fonts/" ++ name } := by
  have distinct : fontTree.Distinct := Tree.distinct_ofEntries _
  have listed : Storage.fileNames ⟨"/out"⟩ fontMemory =
      .ok [".ttf", "Title.TTF", "body.ttf"] := rfl
  have place : fontMemory.place ⟨"/out"⟩ = ["out"] := rfl
  have leads : fontDisk.directory ⟨"/out"⟩ = .ok ["out"] := rfl
  constructor
  · obtain ⟨fonts, new, appended⟩ :=
      (fonts_declared bodyTable ⟨"/out"⟩ "fonts/").2.1 fontMemory _ distinct listed
    rw [place] at new
    obtain ⟨title, body, bare, old⟩ := new.title
    exact ⟨fonts, title, body, bare, old, appended⟩
  · obtain ⟨fonts, new, appended⟩ :=
      (fonts_declared bodyTable ⟨"/out"⟩ "fonts/").2.2 fontDisk _ distinct leads
    obtain ⟨title, body, bare, old⟩ := new.title
    exact ⟨fonts, title, body, bare, old, appended⟩

end GameBundle.ResourceTable
