import GameBundle.Proofs.Json.Grammar
import GameBundle.Proofs.Json.Solid
import GameBundle.Proofs.Package.Steps
import GameBundle.Storage.Changes
import GameBundle.Storage.Memory

/-!
# The list of scripts of a native package

The project file lists paths between quotes as they are. The list is read back as these paths
exactly when all of their characters stand for themselves in a string.
-/

namespace GameBundle.Native

open Json
open Json.Quoted (IsPlain textOf literal plainly)

theorem toList_entry (path : String) :
    (entry path).toList = '"' :: (path.toList ++ ['"', '\n']) := by
  simp [entry]

/-- Behind the first path each comes after a comma and a blank. -/
theorem toList_entries (path : String) (rest : List String) :
    (", ".intercalate ((path :: rest).map entry)).toList =
      (entry path).toList ++ rest.flatMap fun path => ',' :: ' ' :: (entry path).toList := by
  induction rest generalizing path with
  | nil => simp
  | cons next rest ih =>
    rw [List.map_cons, List.map_cons, String.intercalate_cons_cons, ← List.map_cons,
      String.toList_append, ih, List.flatMap_cons]
    simp

theorem solid_entries (path : String) (rest : List String) :
    solid (", ".intercalate ((path :: rest).map entry)).toList + 1 = weight (path :: rest) := by
  have one (path : String) : solid (entry path).toList = solid path.toList + 2 := by
    have quote (text : List Char) : solid ('"' :: text) = solid text + 1 :=
      solid_cons_of_solid (by decide) text
    have closing : solid ['"', '\n'] = 1 := by decide
    rw [toList_entry, quote, solid_append, closing]
  have others : solid (rest.flatMap fun path => ',' :: ' ' :: (entry path).toList) =
      weight rest := by
    induction rest with
    | nil => rfl
    | cons next rest ih =>
      have gap (text : List Char) : solid (',' :: ' ' :: text) = solid text + 1 := by
        simp [solid, Reader.isBlank]
      rw [List.flatMap_cons, solid_append, gap, one, ih, weight_cons]
  rw [toList_entries, solid_append, one, others, weight_cons]
  omega

/-- The items that paths are spelled as when all characters stand for themselves. -/
def listed (front : Blanks) : List String → ItemSpellings
  | [] => .close .none
  | path :: rest =>
    .item front (.string (plainly path.toList)) .lineFeed (listed .space rest)

def listDocument (paths : List String) : Document := ⟨.none, .array (listed .none paths), .none⟩

theorem depth_listed (front : Blanks) (paths : List String) : (listed front paths).depth = 0 := by
  induction paths generalizing front with
  | nil => rfl
  | cons path rest ih =>
    rw [listed, ItemSpellings.depth, ih]
    rfl

section Plain

variable {paths : List String} (plain : ∀ path ∈ paths, ∀ c ∈ path.toList, IsPlain c)

include plain

theorem chars_listed : (listed .space paths).chars [','] =
    (paths.flatMap fun path => ',' :: ' ' :: (entry path).toList) ++ [']'] := by
  induction paths with
  | nil => rfl
  | cons path rest ih =>
    rw [List.forall_mem_cons] at plain
    rw [listed, ItemSpellings.chars, ih plain.2, List.flatMap_cons, Spelling.chars, literal,
      Quoted.spelling_plainly plain.1, toList_entry]
    simp

theorem valuesBy_listed (front : Blanks) :
    (listed front paths).valuesBy textOf = paths.map .string := by
  induction paths generalizing front with
  | nil => rfl
  | cons path rest ih =>
    rw [List.forall_mem_cons] at plain
    have same : textOf (plainly path.toList) = path := by
      rw [textOf, Quoted.map_value_plainly plain.1, String.ofList_toList]
    rw [listed, ItemSpellings.valuesBy, ih plain.2, Spelling.valueBy, same, List.map_cons]

theorem text_listDocument :
    (listDocument paths).text = "[" ++ ", ".intercalate (paths.map entry) ++ "]" := by
  rw [← String.toList_inj, Document.toList_text]
  cases paths with
  | nil => rfl
  | cons path rest =>
    rw [List.forall_mem_cons] at plain
    simp only [Document.chars, listDocument, Spelling.chars, listed, ItemSpellings.chars,
      chars_listed plain.2, literal, Quoted.spelling_plainly plain.1, String.toList_append,
      toList_entries, toList_entry]
    simp

theorem parse_entries :
    Json.parse ("[" ++ ", ".intercalate (paths.map entry) ++ "]") = .ok (.strings paths) := by
  have flat : (listDocument paths).depth ≤ 127 := by
    simp [Document.depth, listDocument, Spelling.depth, depth_listed]
  have value : (listDocument paths).value = .strings paths := by
    rw [Document.value, Document.valueBy, listDocument, Spelling.valueBy, valuesBy_listed plain]
    rfl
  rw [← text_listDocument plain, Document.parse_spelling, if_pos flat, value]

end Plain

/-- The list is read as its paths exactly when all their characters stand for themselves. -/
theorem parse_entries_iff (paths : List String) :
    Json.parse ("[" ++ ", ".intercalate (paths.map entry) ++ "]") = .ok (.strings paths) ↔
      ∀ path ∈ paths, ∀ c ∈ path.toList, IsPlain c := by
  refine ⟨fun read => ?_, parse_entries⟩
  obtain ⟨⟨front, spelling, back⟩, text, -, value⟩ := parse_eq_ok_iff.mp read
  obtain ⟨items, rfl, values⟩ := exists_items_of_value value
  have chars := congrArg (fun text => solid text.toList) text
  have open_bracket (text : List Char) : solid ('[' :: text) = solid text + 1 :=
    solid_cons_of_solid (by decide) text
  have close_bracket : solid [']'] = 1 := by decide
  have both : solid "[".toList = 1 ∧ solid "]".toList = 1 := by decide
  simp only [Document.toList_text, Document.chars, Spelling.chars, solid_append, solid_blanks,
    open_bracket, String.toList_append, both] at chars
  obtain ⟨-, exact⟩ := solid_items values
  cases paths with
  | nil => simp
  | cons path rest =>
    have heavy := solid_entries path rest
    cases items with
    | close front =>
      rw [ItemSpellings.valuesBy] at values
      cases values
    | item front value back others =>
      have comma : solid [','] = 1 := by decide
      simp only [ItemSpellings.chars, solid_append, solid_nil, comma] at chars exact
      exact exact (by omega)

/-- A native package lists the scripts that are found in the bundle once the engine is there, in
their order, and reports each of the others. The list stands for their paths exactly when these
need no escapes. -/
theorem package_lists_scripts {σ : Type} [Storage σ] {source : PackageSource}
    {session later : Session σ} {written : List Path}
    (ran : (package source).exec session = (.ok written, later)) :
    ∃ (engine : Path) (copied : Session σ) (template : String),
      (source.copyTemplate "Cocos2d/main.js" "main.js" >>= fun _ =>
        source.copyTemplate "Cocos2d/cocos2d-js-v3.10.js" "cocos2d-js-v3.10.js").exec session =
          (.ok engine, copied) ∧
      let paths := source.scripts.map (scriptPath source)
      let found := fun path => Storage.isFile (source.directory / path) copied.disk
      let list := ", ".intercalate ((paths.filter found).map entry)
      Storage.readText (source.runtime / "Cocos2d/project.json") copied.disk = .ok template ∧
      Storage.write (source.directory / "project.json")
          (Template.fill template [("// KILN_INCLUDE_FILES", list),
            ("/*KILN_SHOW_FPS*/", if source.profile.isPreview then "true" else "false")])
          copied.disk = (.ok (), later.disk) ∧
      later.diagnostics = copied.diagnostics.append
        ⟨(paths.filter fun path => !found path).map missingScript⟩ ∧
      (Json.parse ("[" ++ list ++ "]") = .ok (.strings (paths.filter found)) ↔
        ∀ path ∈ paths.filter found, ∀ c ∈ path.toList, IsPlain c) := by
  obtain ⟨engine, copied, template, copy, read, wrote, reported⟩ := package_run ran
  exact ⟨engine, copied, template, copy, read, wrote, reported, parse_entries_iff _⟩

/-- A bundle with one of two scripts, and the templates of a native package. -/
def halfDisk : Memory where
  tree := Tree.ofEntries [
    (["rt", "Cocos2d", "main.js"], .file "main();".toUTF8),
    (["rt", "Cocos2d", "cocos2d-js-v3.10.js"], .file "engine();".toUTF8),
    (["rt", "Cocos2d", "project.json"], .file "[// KILN_INCLUDE_FILES\n]".toUTF8),
    (["out", "src", "a.js"], .file "a();".toUTF8)]
  home := []
  denied := []

def halfSource : PackageSource where
  project := .blank "Half"
  profile := Target.cocos2d.profile
  runtime := ⟨"/rt"⟩
  directory := ⟨"/out"⟩
  scripts := ["gone.js", "a.js"]

def halfStart : Session Memory := ⟨halfDisk, .empty⟩

theorem half_lists_script : ∃ written later copied template,
    (package halfSource).exec halfStart = (.ok written, later) ∧
    Storage.write (halfSource.directory / "project.json")
      (Template.fill template [("// KILN_INCLUDE_FILES", "\"src/a.js\"\n"),
        ("/*KILN_SHOW_FPS*/", "false")]) copied = (.ok (), later.disk) ∧
    later.diagnostics.items = [missingScript "src/gone.js"] ∧
    Json.parse "[\"src/a.js\"\n]" = .ok (.strings ["src/a.js"]) := by
  have done : ((package halfSource).exec halfStart).1.map (fun _ => ()) = .ok () := by
    decide +kernel
  obtain ⟨written, later, ran, -⟩ := Work.exec_eq_ok_of_map done
  obtain ⟨engine, copied, template, copy, -, wrote, reported, list⟩ := package_lists_scripts ran
  have after : copied =
      ((halfSource.copyTemplate "Cocos2d/main.js" "main.js" >>= fun _ =>
        halfSource.copyTemplate "Cocos2d/cocos2d-js-v3.10.js" "cocos2d-js-v3.10.js").exec
          halfStart).2 := by
    rw [copy]
  have present : (halfSource.scripts.map (scriptPath halfSource)).filter
      (fun path => Storage.isFile (halfSource.directory / path) copied.disk) = ["src/a.js"] := by
    rw [after]
    decide +kernel
  have missing : (halfSource.scripts.map (scriptPath halfSource)).filter
      (fun path => !Storage.isFile (halfSource.directory / path) copied.disk) =
        ["src/gone.js"] := by
    rw [after]
    decide +kernel
  have quiet : copied.diagnostics = .empty := by
    rw [after]
    decide +kernel
  have plain : "src/a.js".toList.all (fun c => decide (IsPlain c)) = true := rfl
  rw [present] at wrote list
  rw [missing, quiet] at reported
  refine ⟨written, later, copied.disk, template, ran, wrote, by rw [reported]; rfl, ?_⟩
  refine list.mpr (List.forall_mem_singleton.mpr fun c member => ?_)
  exact of_decide_eq_true (List.all_eq_true.mp plain c member)

end GameBundle.Native
