import GameBundle.Package.Basic
import GameBundle.Proofs.Json.Grammar
import GameBundle.Proofs.Template.WholeStrings

/-!
# Package manifests

A manifest is made from a document in which the quoted names of project metadata are whole
strings. It is a document again, of the same value but for these strings, which are the texts of
the project.
-/

namespace GameBundle

open Json (Document)
open Json.Quoted (Letter textOf literal exists_printed)

/-- What a string of the template is in the manifest: a text of the project if it is spelled as one
of the quoted names, and else what it is in the template. -/
def Project.manifestReading (project : Project) (letters : List Letter) : String :=
  if literal letters = "\"KILN_GAME_NAME\"".toList then project.name
  else if literal letters = "\"KILN_GAME_AUTHOR\"".toList then project.author
  else if literal letters = "\"KILN_GAME_VERSION\"".toList then project.version
  else if literal letters = "\"KILN_GAME_MANGLED_NAME\"".toList then
    Script.packageIdentifier project.name
  else textOf letters

namespace Project

variable (project : Project)

/-- The quoted names of metadata, with the texts they stand for. -/
def quotedTexts : List (List Char × String) := [
  ("\"KILN_GAME_NAME\"".toList, project.name),
  ("\"KILN_GAME_AUTHOR\"".toList, project.author),
  ("\"KILN_GAME_VERSION\"".toList, project.version),
  ("\"KILN_GAME_MANGLED_NAME\"".toList, Script.packageIdentifier project.name)]

def manifestSubstitutions : List Template.Substitution :=
  project.quotedTexts.map fun (token, text) => (token, Json.Printer.string text)

theorem characters_manifestTexts :
    Template.characters (project.manifestTexts.map fun (name, text) =>
        ("\"" ++ name ++ "\"", jsonLiteral text)) = project.manifestSubstitutions := by
  simp [Template.characters, jsonLiteral, Json.text, Json.Printer.value, manifestTexts,
    manifestSubstitutions, quotedTexts]

theorem map_fst_manifestSubstitutions : project.manifestSubstitutions.map Prod.fst =
    ["\"KILN_GAME_NAME\"", "\"KILN_GAME_AUTHOR\"", "\"KILN_GAME_VERSION\"",
      "\"KILN_GAME_MANGLED_NAME\""].map String.toList := rfl

theorem nodup_manifestSubstitutions : (project.manifestSubstitutions.map Prod.fst).Nodup := by
  rw [map_fst_manifestSubstitutions]
  decide

theorem manifestReading_cases (letters : List Letter) :
    (literal letters, project.manifestReading letters) ∈ project.quotedTexts ∨
      literal letters ∉ project.quotedTexts.map Prod.fst ∧
        project.manifestReading letters = textOf letters := by
  unfold manifestReading quotedTexts
  split_ifs <;> simp_all

/-- A string is spelled anew by the printed text of what it is in the manifest. -/
theorem exists_respelled (letters : List Letter) : ∃ spelled,
    textOf spelled = project.manifestReading letters ∧
      literal spelled = Template.valueOf project.manifestSubstitutions (literal letters) := by
  rcases project.manifestReading_cases letters with entered | ⟨absent, same⟩
  · obtain ⟨spelled, printed, reads⟩ := exists_printed (project.manifestReading letters)
    refine ⟨spelled, reads, ?_⟩
    rw [printed, Template.valueOf_of_mem project.nodup_manifestSubstitutions]
    exact List.mem_map_of_mem entered
  · refine ⟨letters, same.symm, ?_⟩
    rw [Template.valueOf_of_absent]
    simpa [manifestSubstitutions, Function.comp_def] using absent

/-- Where the quoted names of metadata are whole strings of a template, and values, the manifest
is a document of the template's value, but that these strings are the texts of the project. Any
text that is read as a value is such a template, and the manifest made from it is read, too. -/
theorem manifest_document (project : Project) :
    (∀ text value, Json.parse text = .ok value →
      ∃ template : Document, template.text = text ∧ template.value = value) ∧
    ∀ template : Document,
      (∀ token ∈ ["\"KILN_GAME_NAME\"", "\"KILN_GAME_AUTHOR\"", "\"KILN_GAME_VERSION\"",
        "\"KILN_GAME_MANGLED_NAME\""], template.HoldsWhole token.toList) →
      ∃ manifest : Document, manifest.text = project.manifest template.text ∧
        manifest.value = template.valueBy project.manifestReading ∧
        ∀ value, Json.parse template.text = .ok value →
          value = template.value ∧
            Json.parse (project.manifest template.text) = .ok manifest.value := by
  refine ⟨fun text value read => ?_, fun template whole => ?_⟩
  · obtain ⟨template, same, -, valued⟩ := Json.parse_eq_ok_iff.mp read
    exact ⟨template, same, valued⟩
  · choose f reads fills using project.exists_respelled
    have held : ∀ token ∈ project.manifestSubstitutions.map Prod.fst,
        template.HoldsWhole token := by
      rwa [map_fst_manifestSubstitutions, List.forall_mem_map]
    have text : (template.respell f).text = project.manifest template.text := by
      rw [manifest, Template.fill, characters_manifestTexts, Document.toList_text,
        Template.fillChars_document held fills, Document.text]
    have value : (template.respell f).value = template.valueBy project.manifestReading := by
      rw [Document.value, Document.valueBy_respell]
      exact congrArg (template.valueBy ·) (funext reads)
    refine ⟨template.respell f, text, value, fun old read => ?_⟩
    rw [template.parse_spelling] at read
    split at read
    · rename_i flat
      rw [← text, Document.parse_spelling, template.depth_respell f, if_pos flat]
      exact ⟨(Except.ok.inj read).symm, rfl⟩
    · cases read

open Json (Blanks Spelling MemberSpellings ItemSpellings)
open Json.Quoted (plainly)

/-- A template with the name of a game, and its author, version and identifier in an array. -/
def nestedTemplate : Document where
  front := .none
  spelling := .object <|
    .member .none (plainly ['g', 'a', 'm', 'e']) .none .space
      (.string (plainly "KILN_GAME_NAME".toList)) .none <|
    .member .lineFeed (plainly ['t', 'a', 'g', 's']) .none .none
      (.array <| .item .none (.string (plainly "KILN_GAME_AUTHOR".toList)) .none <|
        .item .space (.string (plainly "KILN_GAME_VERSION".toList)) .none <|
        .item .space (.string (plainly "KILN_GAME_MANGLED_NAME".toList)) .none <|
        .close .none) .none <|
    .close .none
  back := .none

/-- A game whose name is a quoted name of metadata, by an author whose name has quotes and a tab. -/
def quotedGame : Project := { blank "\"KILN_GAME_VERSION\"" with author := "The \"Kid\"\tO" }

/-- A name that holds a quoted name of metadata is not taken for it. -/
theorem manifest_nestedTemplate :
    (∀ token ∈ ["\"KILN_GAME_NAME\"", "\"KILN_GAME_AUTHOR\"", "\"KILN_GAME_VERSION\"",
      "\"KILN_GAME_MANGLED_NAME\""], nestedTemplate.HoldsWhole token.toList) ∧
    ∃ manifest : Document,
      manifest.text = quotedGame.manifest nestedTemplate.text ∧
        manifest.value = .object [("game", .string "\"KILN_GAME_VERSION\""),
          ("tags", .array [.string "The \"Kid\"\tO", .string "1.0.0",
            .string "_34kiln_95game_95version_34"])] := by
  have whole : ∀ token ∈ ["\"KILN_GAME_NAME\"", "\"KILN_GAME_AUTHOR\"", "\"KILN_GAME_VERSION\"",
      "\"KILN_GAME_MANGLED_NAME\""], nestedTemplate.HoldsWhole token.toList := by decide +kernel
  obtain ⟨manifest, text, value, -⟩ := (manifest_document _).2 nestedTemplate whole
  exact ⟨whole, manifest, text, value.trans (by decide +kernel)⟩

end Project

end GameBundle
