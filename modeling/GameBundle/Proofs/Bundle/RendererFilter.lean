import GameBundle.Proofs.Bundle.Supply
import GameBundle.Proofs.Text.Search

/-!
# Scripts that the renderer filter takes out

A script is taken for one of the other renderer when its path contains a marker. The paths
of generated scripts begin with a directory that the author chooses and end with names made
from those of extensions and behaviors. The data and the scripts of the engine always stay;
of the generated scripts it is determined here which ones are taken out.
-/

namespace GameBundle

open Text (contains_iff infix_separated infix_around)

namespace Script

variable {letters name : List Char}

theorem not_isAlpha_of_isDigit {c : Char} (digit : Decimal.isDigit c = true) :
    c.isAlpha = false := by
  have below : c.val ≤ '9'.val := of_decide_eq_true (Bool.and_eq_true _ _ ▸ digit).2
  rw [← Bool.not_eq_true]
  intro alpha
  rcases (Bool.or_eq_true _ _).mp alpha with upper | lower
  · have above : 'A'.val ≤ c.val := (of_decide_eq_true upper).1
    exact absurd (UInt32.le_trans above below) (by decide)
  · have above : 'a'.val ≤ c.val := of_decide_eq_true ((Bool.and_eq_true _ _).mp lower).1
    exact absurd (UInt32.le_trans above below) (by decide)

theorem not_isAlpha_of_not_isPlain {c : Char} (foreign : isPlain c = false) : c.isAlpha = false :=
  (Bool.or_eq_false_iff.mp foreign).1

theorem prefix_mangleChars (alpha : ∀ c ∈ letters, c.isAlpha = true) (ending : List Char) :
    letters <+: mangleChars name ++ '.' :: ending ↔ letters <+: name := by
  induction name generalizing letters with
  | nil =>
    cases letters with
    | nil => simp
    | cons letter letters =>
      have dot : letter ≠ '.' := by
        rintro rfl
        exact absurd (alpha '.' List.mem_cons_self) (by decide)
      simp [mangleChars, List.cons_prefix_cons, dot]
  | cons c name ih =>
    cases letters with
    | nil => simp
    | cons letter letters =>
      rw [List.forall_mem_cons] at alpha
      have step : mangleChars (c :: name) = mangleChar c ++ mangleChars name := rfl
      rw [step, mangleChar, List.cons_prefix_cons]
      split
      · rw [List.append_assoc, List.singleton_append, List.cons_prefix_cons, ih alpha.2]
      · rename_i foreign
        have under : letter ≠ '_' := by
          rintro rfl
          exact absurd alpha.1 (by decide)
        have apart : letter ≠ c := by
          rintro rfl
          rw [not_isAlpha_of_not_isPlain (Bool.not_eq_true _ ▸ foreign)] at alpha
          cases alpha.1
        rw [List.cons_append, List.cons_append, List.cons_prefix_cons]
        simp [under, apart]

/-- Nothing but letters ends a text whose last character is none. -/
theorem suffix_concat_of_not_isAlpha (alpha : ∀ c ∈ letters, c.isAlpha = true) {text : List Char}
    {last : Char} (foreign : last.isAlpha = false) : letters <:+ text ++ [last] ↔ letters = [] := by
  rw [List.suffix_concat_iff, or_iff_left]
  rintro ⟨rest, rfl, -⟩
  rw [alpha last (by simp)] at foreign
  cases foreign

theorem suffix_mangleChars (alpha : ∀ c ∈ letters, c.isAlpha = true) :
    letters <:+ mangleChars name ↔ letters <:+ name := by
  induction name using List.reverseRecOn generalizing letters with
  | nil => rfl
  | append_singleton name c ih =>
    have step : mangleChars (name ++ [c]) = mangleChars name ++ mangleChar c := by
      simp [mangleChars]
    rw [step, mangleChar]
    split
    · rw [List.suffix_concat_iff, List.suffix_concat_iff]
      refine or_congr_right (exists_congr fun rest => and_congr_right fun same => ih ?_)
      subst same
      exact fun other member => alpha other (List.mem_append_left _ member)
    · rename_i foreign
      have numeral : ∀ d ∈ '_' :: Decimal.digits c.toNat, d.isAlpha = false := by
        rw [List.forall_mem_cons]
        exact ⟨by decide, fun d member =>
          not_isAlpha_of_isDigit (Decimal.isDigit_of_mem_digits member)⟩
      rcases List.eq_nil_or_concat ('_' :: Decimal.digits c.toNat) with none | ⟨front, last, whole⟩
      · cases none
      · rw [whole] at numeral ⊢
        rw [List.concat_eq_append, ← List.append_assoc,
          suffix_concat_of_not_isAlpha alpha (numeral last (by simp)),
          suffix_concat_of_not_isAlpha alpha
            (not_isAlpha_of_not_isPlain (Bool.not_eq_true _ ▸ foreign))]

end Script

/-- A pattern without slashes occurs in a path in the directory or in the name. -/
theorem Path.infix_joinText {pattern base more : List Char} (free : '/' ∉ pattern)
    (clean : '/' ∉ more) :
    pattern <:+: joinText base more ↔ pattern <:+: base ∨ pattern <:+: more := by
  have relative : more.head? ≠ some '/' := fun head => clean (List.mem_of_mem_head? head)
  unfold joinText
  rw [if_neg relative]
  split
  · rename_i closed
    rcases closed with rfl | slash
    · rw [List.nil_append, or_iff_right_of_imp]
      intro blank
      rw [List.infix_nil.mp blank]
      exact List.nil_infix
    · obtain ⟨front, rfl⟩ := List.getLast?_eq_some_iff.mp slash
      have blank : pattern <:+: [] → pattern <:+: front := fun inside => by
        rw [List.infix_nil.mp inside]
        exact List.nil_infix
      rw [List.append_assoc, List.singleton_append, infix_separated free, infix_separated free,
        or_iff_left_of_imp blank]
  · exact infix_separated free

namespace Renderer

/-- The name that begins the markers of a renderer. -/
def owner : Renderer → String
  | .pixi => "pixi"
  | .cocos => "cocos"

def kinds : Renderer → List String
  | .pixi => ["renderer", "filter"]
  | .cocos => ["renderer", "shader"]

theorem markers_eq (renderer : Renderer) :
    renderer.markers = renderer.kinds.map (renderer.owner ++ "-" ++ ·) := by
  cases renderer <;> decide

/-- A behavior whose script is taken for one of a renderer: the name of the extension ends with
the renderer, and that of the behavior begins with what the renderer marks. -/
def Takes (renderer : Renderer) (extension behavior : String) : Prop :=
  renderer.owner.toList <:+ extension.toList ∧
    ∃ kind ∈ renderer.kinds, kind.toList <+: behavior.toList

instance (renderer : Renderer) (extension behavior : String) :
    Decidable (renderer.Takes extension behavior) :=
  inferInstanceAs (Decidable (_ ∧ ∃ kind ∈ _, _))

variable {renderer : Renderer} {path : String}

theorem isMarked_iff : IncludeList.isMarked renderer.markers path = true ↔
    ∃ kind ∈ renderer.kinds, renderer.owner.toList ++ '-' :: kind.toList <:+: path.toList := by
  have marker (kind : String) : (renderer.owner ++ "-" ++ kind).toList =
      renderer.owner.toList ++ '-' :: kind.toList := by simp
  simp only [IncludeList.isMarked, markers_eq, List.any_eq_true, contains_iff,
    List.mem_map, exists_exists_and_eq_and, marker]

theorem isAlpha_owner : ∀ c ∈ renderer.owner.toList, c.isAlpha = true :=
  List.all_eq_true.mp (by cases renderer <;> decide)

theorem isAlpha_kind {kind : String} (listed : kind ∈ renderer.kinds) :
    ∀ c ∈ kind.toList, c.isAlpha = true := by
  have all : renderer.kinds.all (·.toList.all Char.isAlpha) = true := by
    cases renderer <;> decide
  exact List.all_eq_true.mp (List.all_eq_true.mp all kind listed)

theorem free_of_isAlpha {letters : List Char} (alpha : ∀ c ∈ letters, c.isAlpha = true)
    {mark : Char} (foreign : mark.isAlpha = false) : mark ∉ letters := by
  intro member
  rw [alpha mark member] at foreign
  cases foreign

theorem isMarked_join {directory : Path} {name : String} (isName : Path.IsName name) :
    IncludeList.isMarked renderer.markers (directory / name).text =
      (IncludeList.isMarked renderer.markers directory.text ||
        IncludeList.isMarked renderer.markers name) := by
  have text : (directory / name).text.toList = Path.joinText directory.text.toList name.toList :=
    String.toList_ofList
  rw [Bool.eq_iff_iff, Bool.or_eq_true]
  simp only [isMarked_iff, text]
  rw [← exists_or]
  refine exists_congr fun kind => ?_
  rw [← and_or_left]
  refine and_congr_right fun listed => Path.infix_joinText ?_ isName.clean
  simp [free_of_isAlpha isAlpha_owner, free_of_isAlpha (isAlpha_kind listed)]

theorem isMarked_layoutFile (index : Nat) :
    IncludeList.isMarked renderer.markers (GeneratedScript.layoutFile index) = false := by
  rw [← Bool.not_eq_true, isMarked_iff]
  rintro ⟨kind, -, inside⟩
  have dash : '-' ∈ (GeneratedScript.layoutFile index).toList :=
    inside.subset (by simp)
  have free : '-' ∉ Decimal.digits index := Decimal.not_mem_digits (by decide) index
  simp [GeneratedScript.layoutFile, Decimal.text, free] at dash

/-- The script of a behavior is marked exactly when it is taken for one of the renderer. -/
theorem isMarked_behaviorFile (extension behavior : String) :
    IncludeList.isMarked renderer.markers (GeneratedScript.behaviorFile extension behavior) = true ↔
      renderer.Takes extension behavior := by
  have text : (GeneratedScript.behaviorFile extension behavior).toList =
      "behavior".toList ++ '-' :: ((Script.mangle extension).toList ++
        '-' :: (Script.mangleChars behavior.toList ++ '.' :: ['j', 's'])) := by
    simp [GeneratedScript.behaviorFile, Script.mangle]
  have free (name : String) : '-' ∉ (Script.mangle name).toList :=
    Script.not_mem_mangle (by decide) (by decide) name
  rw [isMarked_iff, text, Takes, ← exists_and_left]
  refine exists_congr fun kind => ?_
  rw [and_left_comm]
  refine and_congr_right fun listed => ?_
  have owner : '-' ∉ renderer.owner.toList := free_of_isAlpha isAlpha_owner (by decide)
  -- a marker lies around the dash between the two names, not around the one before them
  have first : ¬renderer.owner.toList <:+ "behavior".toList := by
    cases renderer <;> decide
  have last : ¬renderer.owner.toList ++ '-' :: kind.toList <:+:
      Script.mangleChars behavior.toList ++ '.' :: ['j', 's'] := by
    intro inside
    have dash : '-' ∈ Script.mangleChars behavior.toList ++ '.' :: ['j', 's'] :=
      inside.subset (by simp)
    have clean := free behavior
    rw [Script.mangle, String.toList_ofList] at clean
    simp [clean] at dash
  rw [infix_around owner (by decide), infix_around owner (free extension), or_iff_left last,
    or_iff_right (fun around => first around.1), Script.mangle, String.toList_ofList,
    Script.suffix_mangleChars isAlpha_owner, Script.prefix_mangleChars (isAlpha_kind listed)]

/-- A behavior of an author is taken for one of the renderer by its names alone. -/
example : Renderer.cocos.Takes "cocos" "renderer" ∧ ¬Renderer.pixi.Takes "cocos" "renderer" := by
  decide

theorem isMarked_engine {script : String}
    (member : script ∈ coreScripts ++ eventsToolScripts ++ debuggerScripts ++ renderer.scripts) :
    IncludeList.isMarked renderer.other.markers script = false := by
  have of_chars {chars : List Char}
      (free : ((renderer.other.markers.map String.toList).any (Text.occurs · chars)) = false) :
      IncludeList.isMarked renderer.other.markers (String.ofList chars) = false := by
    simpa [IncludeList.isMarked, Text.contains] using free
  revert script
  unfold coreScripts eventsToolScripts debuggerScripts Renderer.scripts
  cases renderer
  all_goals
    simp only [List.cons_append, List.nil_append, List.forall_mem_cons]
    repeat' apply And.intro
    all_goals first
      | exact of_chars (by decide)
      | simp

end Renderer

namespace Exporter

variable {σ : Type} [Storage σ] {exporter : Exporter} {request : ExportRequest}
  {place : OutputPlace} {project : Project}

/-- Another script of the bundle has the name of a generated one. -/
def Namesake (exporter : Exporter) (request : ExportRequest) (place : OutputPlace)
    (project : Project) (name : String) : Prop :=
  ∃ script ∈ (exporter.allScripts request place project).paths,
    script ≠ (place.code / name).text ∧ LoadOrder.bundleName script = name

/-- The files of generated scripts, in order. -/
def generatedNames (project : Project) : List String :=
  (project.extensions.flatMap fun extension => extension.behaviors.map fun behavior =>
      GeneratedScript.behaviorFile extension.name behavior.name) ++
    (List.range project.layouts.length).map GeneratedScript.layoutFile ++ ["data.js"]

/-- Which scripts of a bundle are listed. A script of a layout is dropped exactly when the
directory of code is taken for the other renderer's, and one of a behavior also when its name
is; another script may still go by the name. -/
structure Listed (exporter : Exporter) (request : ExportRequest) (place : OutputPlace)
    (exported : Project) (report : ExportReport) : Prop where
  generated : report.generated = (generatedNames exported).map (place.code / ·)
  data : "data.js" ∈ report.includes
  engine : ∀ script ∈ request.target.profile.engineParts.scripts, script ∈ report.includes
  layouts : ∀ index < exported.layouts.length,
    GeneratedScript.layoutFile index ∈ report.includes ↔
      IncludeList.isMarked request.target.profile.renderer.other.markers place.code.text = false ∨
        exporter.Namesake request place exported (GeneratedScript.layoutFile index)
  behaviors : ∀ extension ∈ exported.extensions, ∀ behavior ∈ extension.behaviors,
    GeneratedScript.behaviorFile extension.name behavior.name ∈ report.includes ↔
      IncludeList.isMarked request.target.profile.renderer.other.markers place.code.text = false ∧
          ¬request.target.profile.renderer.other.Takes extension.name behavior.name ∨
        exporter.Namesake request place exported
          (GeneratedScript.behaviorFile extension.name behavior.name)

theorem mem_allScripts_iff {script : String}
    (asked : script ∈ LoadOrder.asked exporter.events request.target.profile project project
      place.code) (other : script ≠ (place.code / "data.js").text) :
    script ∈ (exporter.allScripts request place project).paths ↔
      IncludeList.isMarked request.target.profile.renderer.other.markers script = false := by
  have kept : script ∈ LoadOrder.kept exporter.events request.target.profile project project
      place.code ↔
        IncludeList.isMarked request.target.profile.renderer.other.markers script = false := by
    rw [LoadOrder.kept_eq, List.mem_filter, List.mem_eraseDups, and_iff_right asked,
      Bool.not_eq_true']
  unfold allScripts
  rw [IncludeList.paths_insert (wellFormed_scriptsOf _ _), paths_scriptsOf, ← kept]
  split
  · rfl
  · rw [List.mem_append, List.mem_singleton, or_iff_left other]

theorem layoutFile_ne_data (index : Nat) : GeneratedScript.layoutFile index ≠ "data.js" := by
  intro same
  have first := congrArg (·.toList.head?) same
  simp [GeneratedScript.layoutFile] at first

theorem behaviorFile_ne_data (extension behavior : String) :
    GeneratedScript.behaviorFile extension behavior ≠ "data.js" := by
  intro same
  have first := congrArg (·.toList.head?) same
  simp [GeneratedScript.behaviorFile] at first

theorem mem_bundleNames_iff
    (rooted : place.code.isAbsolute = true ∨ place.code.text = "") {name : String}
    (isName : Path.IsName name) (other : name ≠ "data.js")
    (asked : (place.code / name).text ∈ LoadOrder.asked exporter.events request.target.profile
      project project place.code) :
    name ∈ LoadOrder.bundleNames (exporter.allScripts request place project) ↔
      IncludeList.isMarked request.target.profile.renderer.other.markers
          (place.code / name).text = false ∨ exporter.Namesake request place project name := by
  have bundled : LoadOrder.bundleName (place.code / name).text = name :=
    LoadOrder.bundleName_join rooted isName
  have apart : (place.code / name).text ≠ (place.code / "data.js").text := by
    intro same
    rw [same, LoadOrder.bundleName_join rooted (by decide)] at bundled
    exact other bundled.symm
  rw [LoadOrder.mem_bundleNames, ← mem_allScripts_iff asked apart]
  constructor
  · rintro ⟨script, member, named⟩
    by_cases same : script = (place.code / name).text
    · exact .inl (same ▸ member)
    · exact .inr ⟨script, member, same, named⟩
  · rintro (member | ⟨script, member, -, named⟩)
    · exact ⟨_, member, bundled⟩
    · exact ⟨script, member, named⟩

theorem generated_eq (events : EventsCompiler) (forRuntime : Bool) (code : Path) :
    (GeneratedScript.ofProject events project code forRuntime).map GeneratedScript.path ++
      [code / "data.js"] = (generatedNames project).map (code / ·) := by
  unfold GeneratedScript.ofProject generatedNames
  simp only [List.map_append, List.map_flatMap, List.map_map, List.map_cons, List.map_nil]
  congr 2
  apply List.ext_getElem <;> simp [GeneratedScript.ofLayout]

theorem assemble_generated {session final : Session σ} {report : ExportReport}
    (ran : (exporter.assemble request place project).exec session = (.ok report, final)) :
    report.generated = (generatedNames project).map (place.code / ·) := by
  rw [assemble_eq] at ran
  obtain ⟨_, supplied, -, ran⟩ := Work.exec_bind_eq_ok ran
  obtain ⟨page, rendered, files, -, -, rfl⟩ := finish_eq_ok ran
  rw [reportOf_generated]
  exact generated_eq exporter.events _ place.code

theorem asked_layout (events : EventsCompiler) (profile : TargetProfile) (code : Path) {index : Nat}
    (bound : index < project.layouts.length) :
    (code / GeneratedScript.layoutFile index).text ∈
      LoadOrder.asked events profile project project code := by
  have laid : (code / GeneratedScript.layoutFile index).text ∈
      (project.layouts.mapIdx (LoadOrder.ofLayout events project code !profile.isPreview)).flatten := by
    refine List.mem_flatten.mpr ⟨_, List.mem_mapIdx.mpr ⟨index, bound, rfl⟩, ?_⟩
    rw [LoadOrder.layoutFile_eq]
    exact List.mem_append_right _ List.mem_cons_self
  unfold LoadOrder.asked
  simp only [List.mem_append]
  tauto

theorem asked_behavior (events : EventsCompiler) (profile : TargetProfile) (code : Path)
    {extension : Extension} (declared : extension ∈ project.extensions) {behavior : Behavior}
    (member : behavior ∈ extension.behaviors) :
    (code / GeneratedScript.behaviorFile extension.name behavior.name).text ∈
      LoadOrder.asked events profile project project code := by
  have laid : (code / GeneratedScript.behaviorFile extension.name behavior.name).text ∈
      project.extensions.flatMap fun extension => extension.behaviors.flatMap
        (LoadOrder.ofBehavior events project code (!profile.isPreview) extension) := by
    refine List.mem_flatMap.mpr ⟨extension, declared, List.mem_flatMap.mpr ⟨behavior, member, ?_⟩⟩
    exact List.mem_append_right _ List.mem_cons_self
  unfold LoadOrder.asked
  simp only [List.mem_append]
  tauto

theorem asked_engine (events : EventsCompiler) (profile : TargetProfile) (code : Path)
    {script : String} (member : script ∈ profile.engineParts.scripts) :
    script ∈ LoadOrder.asked events profile project project code := by
  rw [LoadOrder.engineParts_scripts] at member
  unfold LoadOrder.asked
  simp only [List.mem_append] at member ⊢
  tauto

theorem mem_bundleNames_engine (place : OutputPlace) (project : Project) {script : String}
    (member : script ∈ request.target.profile.engineParts.scripts) :
    script ∈ LoadOrder.bundleNames (exporter.allScripts request place project) := by
  have listed : script ∈ coreScripts ++ eventsToolScripts ++ debuggerScripts ++
      request.target.profile.renderer.scripts := by
    rw [LoadOrder.engineParts_scripts] at member
    split at member <;> simp only [List.mem_append, List.not_mem_nil] at member ⊢ <;> tauto
  have plain : Path.isPlain script.toList = true := by
    apply isPlain_engine
    cases renderer : request.target.profile.renderer <;> rw [renderer] at listed <;>
      simp only [List.mem_append] at listed ⊢ <;> tauto
  have relative : (Path.mk script).isAbsolute = false :=
    Path.relative_of_isInner (Path.isInner_of_isPlain plain)
  refine LoadOrder.mem_bundleNames.mpr ⟨script, ?_, ?_⟩
  · by_cases data : script = (place.code / "data.js").text
    · rw [data]
      exact mem_allScripts_data exporter request place project
    · exact (mem_allScripts_iff (asked_engine _ _ _ member) data).mpr
        (Renderer.isMarked_engine listed)
  · rw [LoadOrder.bundleName, if_neg (by simp [relative])]

/-- A successful export lists the data and the scripts of the engine, and of the generated
scripts those that are not taken for the other renderer's. -/
theorem generated_listed {codeDirectory : Path} {disk after : σ} {report : ExportReport}
    (rooted : (outputPlace request codeDirectory disk).code.isAbsolute = true ∨
      (outputPlace request codeDirectory disk).code.text = "")
    (done : exporter.exportWith request codeDirectory disk = (.ok report, after)) :
    let place := outputPlace request codeDirectory disk
    ∃ exported session, (exportedProject request place).start disk = (.ok exported, session) ∧
      exported.extensions = request.project.extensions ∧
      exported.layouts = request.project.layouts ∧
      exporter.Listed request place exported report := by
  intro place
  obtain ⟨exported, session, final, first, second, -⟩ := exportWith_eq_ok done
  obtain ⟨extensions, layouts, -⟩ := exportedProject_declares first
  refine ⟨exported, session, first, extensions, layouts, ?_, ?_, ?_, ?_, ?_⟩
  · exact assemble_generated second
  · rw [assemble_includes second]
    refine LoadOrder.mem_bundleNames.mpr
      ⟨_, mem_allScripts_data exporter request place exported, ?_⟩
    exact LoadOrder.bundleName_join rooted (by decide)
  · intro script member
    rw [assemble_includes second]
    exact mem_bundleNames_engine place exported member
  · intro index bound
    have isName := GeneratedScript.isName_layoutFile index
    rw [assemble_includes second, mem_bundleNames_iff rooted isName (layoutFile_ne_data index)
      (asked_layout _ _ _ bound), Renderer.isMarked_join isName, Renderer.isMarked_layoutFile,
      Bool.or_false]
  · intro extension declared behavior member
    have isName := GeneratedScript.isName_behaviorFile extension.name behavior.name
    rw [assemble_includes second, mem_bundleNames_iff rooted isName
      (behaviorFile_ne_data extension.name behavior.name) (asked_behavior _ _ _ declared member),
      Renderer.isMarked_join isName, Bool.or_eq_false_iff, ← Renderer.isMarked_behaviorFile,
      Bool.not_eq_true]

/-- The scripts of the level are listed, and the conditions for that are met. -/
theorem level_generated_listed : ∃ report after exported session,
    lone.exportWith levelRequest ⟨"/out/code"⟩ heroDisk = (.ok report, after) ∧
      (exportedProject levelRequest heroPlace).start heroDisk = (.ok exported, session) ∧
      exported.extensions = levelRequest.project.extensions ∧
      exported.layouts = levelRequest.project.layouts ∧
      lone.Listed levelRequest heroPlace exported report ∧
      report.generated = [⟨"/out/code/behavior-Tools-Clock.js"⟩, ⟨"/out/code/code0.js"⟩,
        ⟨"/out/code/data.js"⟩] ∧
      "behavior-Tools-Clock.js" ∈ report.includes ∧ "code0.js" ∈ report.includes := by
  obtain ⟨report, after, done⟩ := level_succeeds
  obtain ⟨exported, session, first, extensions, layouts, listed⟩ :=
    generated_listed (isAbsolute_outputPlace levelRequest ⟨"/out/code"⟩ heroDisk) done
  refine ⟨report, after, exported, session, done, first, extensions, layouts, listed, ?_, ?_, ?_⟩
  · obtain ⟨rfl, -⟩ := Work.ok_unique level_exported first
    exact listed.generated.trans (by decide +kernel)
  · have named : GeneratedScript.behaviorFile "Tools" "Clock" = "behavior-Tools-Clock.js" := by
      rfl
    have declared :
        ⟨"Tools", "", [⟨"Clock", "", "", [], [clockFunction]⟩]⟩ ∈ exported.extensions := by
      rw [extensions]
      exact List.mem_cons_self
    rw [← named]
    refine (listed.behaviors _ declared _ List.mem_cons_self).mpr (.inl ⟨?_, ?_⟩) <;>
      decide +kernel
  · have named : GeneratedScript.layoutFile 0 = "code0.js" := by decide +kernel
    rw [← named]
    exact (listed.layouts 0 (by rw [layouts]; decide)).mpr (.inl rfl)

end Exporter

end GameBundle
