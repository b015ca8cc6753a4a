import GameBundle.Bundle.DataScript
import GameBundle.Proofs.Json.Visible
import GameBundle.Proofs.Project.ReadBack

/-!
# The two statements of a data script

The data script assigns two documents, each on its own line. Neither document can end its line
or its statement early: it has no control character, and a reader of values stops behind it at
the semicolon, whatever stands in it. Both documents are read back as what was written.
-/

namespace GameBundle

open Json

theorem ScriptFile.faithful :
    recordType.Faithful toJson 0 fun _ file => file.hash < Nat.pow 2 32 where
  blank _ := by decide
  keeps _ := .skip id (.cons (fun taken _ => Decoder.lt_of_unsigned taken) .nil)
  covers := RecordType.covers_of_blank (fun _ => rfl) (by decide)
  stores {setting _} small := ⟨_, rfl, .cons rfl rfl (.cons rfl
    (Field.store_of_reads (Decoder.unsigned_reads small setting) _) .nil)⟩

namespace GameOptions

theorem covers (options : GameOptions) : recordType.Covers options.toJson.keys := by
  obtain ⟨isPreview, injectedLayout, scripts⟩ := options
  cases injectedLayout with
  | none => exact (by decide : recordType.Covers ["isPreview", "scriptFiles"])
  | some name =>
    exact (by decide : recordType.Covers ["isPreview", "injectExternalLayout", "scriptFiles"])

theorem faithful : recordType.Faithful toJson 2 fun setting options =>
    (Decoder.list ScriptFile.recordType.decode).Reads (.list ScriptFile.toJson) setting
      options.scripts where
  blank free := Decoder.list_reads_nil (Nat.le_of_succ_le free)
  keeps free := .skip id (.skip id (.cons (fun taken _ =>
    Decoder.list_stable ScriptFile.faithful.stable free taken) .nil))
  covers := covers
  stores {_ options} scripts := by
    obtain ⟨isPreview, injectedLayout, files⟩ := options
    cases injectedLayout with
    | none => exact ⟨_, rfl, .cons rfl rfl (.cons rfl (Field.store_of_reads scripts _) .nil)⟩
    | some name =>
      exact ⟨_, rfl, .cons rfl rfl (.cons rfl rfl
        (.cons rfl (Field.store_of_reads scripts _) .nil))⟩

variable {options : GameOptions}

theorem isIntegral_toJson (words : ∀ script ∈ options.scripts, script.hash < Nat.pow 2 32) :
    options.toJson.isIntegral = true := by
  have scripts : ∀ script ∈ options.scripts, script.toJson.isIntegral = true := by
    intro script member
    simp [ScriptFile.toJson, isIntegral_natural (words script member)]
  unfold toJson
  cases options.injectedLayout <;> simpa using scripts

/-- Options whose fingerprints are words are read again from their document. -/
theorem parse_of_words (words : ∀ script ∈ options.scripts, script.hash < Nat.pow 2 32) :
    parse options.text = .ok options := by
  -- a record of options holds a list, which holds records of scripts
  have opened : Setting.ofText.enter = .ok ⟨126, true⟩ := rfl
  have entered : Setting.enter ⟨126, true⟩ = .ok ⟨125, true⟩ := rfl
  have inside : Setting.enter ⟨125, true⟩ = .ok ⟨124, true⟩ := rfl
  have scripts := Decoder.list_reads entered fun script member =>
    ScriptFile.faithful.reads inside (words script member)
  unfold parse text
  rw [Decoder.ofText_text _ (isIntegral_toJson words)]
  exact faithful.reads opened scripts

end GameOptions

section

variable {json : Json}

/-- A reader of values takes a document for what it is and stops at the semicolon behind it. -/
theorem Json.Draft.ofText_statement (integral : json.isIntegral = true) (more : String) :
    Draft.ofText (json.text ++ ";" ++ more) =
      ((Draft.ofText json.text).1, some (';' :: more.toList)) := by
  have alone : Draft.ofText (json.text ++ "") = (.ofJson json, some []) :=
    Draft.ofText_append integral Numeral.ends_nil
  have semicolon : Numeral.Ends (";" ++ more).toList := by
    simp [Numeral.Ends, Decimal.isDigit]
  rw [String.append_empty] at alone
  rw [alone, String.append_assoc, Draft.ofText_append integral semicolon]
  simp

theorem newline_not_mem_statement {start : String} (plain : '\n' ∉ start.toList) (json : Json) :
    '\n' ∉ (start ++ json.text ++ ";").toList := by
  have document := (Json.visible_text json).newline_not_mem
  simp [plain, document]

end

theorem splitOn_two_lines {first second : String} (plain : '\n' ∉ first.toList)
    (solid : '\n' ∉ second.toList) :
    (first ++ "\n" ++ second ++ "\n").toList.splitOn '\n' = [first.toList, second.toList, []] := by
  have joined : (first ++ "\n" ++ second ++ "\n").toList =
      ['\n'].intercalate [first.toList, second.toList, []] := by
    simp [List.intercalate]
  rw [joined]
  exact List.splitOn_intercalate '\n' (by simp [plain, solid]) (by simp)

/-- A data script has two lines, whatever its project and its options contain. -/
theorem splitOn_dataScript (project : Project) (options : GameOptions) :
    (dataScript project options).toList.splitOn '\n' =
      [("kiln.projectData = " ++ project.text ++ ";").toList,
        ("kiln.runtimeGameOptions = " ++ options.text ++ ";").toList, []] := by
  have between : ";\nkiln.runtimeGameOptions = " = ";" ++ "\n" ++ "kiln.runtimeGameOptions = " := by
    simp
  have last : ";\n" = ";" ++ "\n" := by simp
  have framed : dataScript project options =
      ("kiln.projectData = " ++ project.text ++ ";") ++ "\n" ++
        ("kiln.runtimeGameOptions = " ++ options.text ++ ";") ++ "\n" := by
    unfold dataScript
    rw [between, last]
    simp only [String.append_assoc]
  rw [framed]
  exact splitOn_two_lines (newline_not_mem_statement (by decide) project.toJson)
    (newline_not_mem_statement (by decide) options.toJson)

/-- The data script of a project that was read has two lines, and each assigns one document. Both
documents are read back, and a reader that meets one of them inside of a script stops at the
semicolon behind it, whatever follows. -/
theorem dataScript_statements {text : String} {project : Project} {options : GameOptions}
    (read : Project.parse text = .ok project)
    (integral : ∀ value ∈ project.untypedValues, value.isIntegral = true)
    (words : ∀ script ∈ options.scripts, script.hash < Nat.pow 2 32) :
    ∃ document settings : String,
      (dataScript project options).toList.splitOn '\n' =
        [("kiln.projectData = " ++ document ++ ";").toList,
          ("kiln.runtimeGameOptions = " ++ settings ++ ";").toList, []] ∧
      Project.parse document = .ok project ∧
      GameOptions.parse settings = .ok options ∧
      (∀ more, Draft.ofText (document ++ ";" ++ more) =
        ((Draft.ofText document).1, some (';' :: more.toList))) ∧
      ∀ more, Draft.ofText (settings ++ ";" ++ more) =
        ((Draft.ofText settings).1, some (';' :: more.toList)) := by
  obtain ⟨inner, opened, held⟩ := Project.holds_of_parse read
  have document :=
    Project.isIntegral_toJson held.gameResolutionWidth held.gameResolutionHeight integral
  exact ⟨project.text, options.text, splitOn_dataScript project options,
    Project.parse_of_holds opened held integral, GameOptions.parse_of_words words,
    Draft.ofText_statement document, Draft.ofText_statement (GameOptions.isIntegral_toJson words)⟩

theorem stored_dataScript_statements :
    let options : GameOptions := ⟨true, some "Main\n", [⟨"pixi.js", 4294967295⟩]⟩
    Project.parse Project.storedText = .ok Project.storedProject ∧
      (∀ value ∈ Project.storedProject.untypedValues, value.isIntegral = true) ∧
      (∀ script ∈ options.scripts, script.hash < Nat.pow 2 32) ∧
      ∃ document settings : String,
        (dataScript Project.storedProject options).toList.splitOn '\n' =
          [("kiln.projectData = " ++ document ++ ";").toList,
            ("kiln.runtimeGameOptions = " ++ settings ++ ";").toList, []] ∧
        Project.parse document = .ok Project.storedProject ∧
        GameOptions.parse settings = .ok options := by
  intro options
  have integral : ∀ value ∈ Project.storedProject.untypedValues, value.isIntegral = true := by
    decide
  have words : ∀ script ∈ options.scripts, script.hash < Nat.pow 2 32 := by decide
  obtain ⟨document, settings, lines, project, taken, -⟩ :=
    dataScript_statements Project.parse_storedText integral words
  exact ⟨Project.parse_storedText, integral, words, document, settings, lines, project, taken⟩

end GameBundle
