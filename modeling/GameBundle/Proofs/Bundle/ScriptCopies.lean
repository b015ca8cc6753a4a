import GameBundle.Proofs.Bundle.Containment
import Mathlib.Data.Nat.Find

/-!
# Scripts that share a place

Scripts are copied into the bundle one by one. Those of the engine keep their path there
and all others their file name, so two scripts can go to one place. The last one that is
found stays, and what the ones before it brought is lost.
-/

namespace GameBundle

open Memory (locate)

namespace LoadOrder

/-- Whether a script with an absolute path has a file name, and any other lies inside the
directory that its path starts from. -/
def isUsual (script : String) : Bool :=
  if (Path.mk script).isAbsolute then (Path.mk script).fileName?.isSome else Path.isInner script

def copyNames (script : String) : Place :=
  if (Path.mk script).isAbsolute then (Path.mk script).fileName?.toList else locate [] ⟨script⟩

theorem locate_copy {home : Place} {includesDir : Path} {script : String}
    (usual : isUsual script = true) :
    locate home (includesDir / bundleName script) =
      locate home includesDir ++ copyNames script := by
  unfold isUsual at usual
  unfold bundleName copyNames
  split at usual
  · rename_i absolute
    obtain ⟨name, named⟩ := Option.isSome_iff_exists.mp usual
    simp only [absolute, if_true, named, Option.getD_some, Option.toList_some]
    exact Memory.locate_join_name (Path.isName_of_fileName? named)
  · rename_i relative
    rw [if_neg relative, if_neg relative, Memory.locate_join_inner usual]

/-- Two scripts go to one place exactly when they have the same names there. -/
theorem locate_copy_eq_iff {home : Place} {includesDir : Path} {one other : String}
    (usual : isUsual one = true) (otherUsual : isUsual other = true) :
    locate home (includesDir / bundleName one) = locate home (includesDir / bundleName other) ↔
      copyNames one = copyNames other := by
  rw [locate_copy usual, locate_copy otherUsual, List.append_cancel_left_eq]

/-- Scripts of the engine that go to one place come from one place. -/
theorem locate_source_eq {home : Place} {runtime : Path} {one other : String}
    (inner : Path.isInner one = true) (otherInner : Path.isInner other = true)
    (same : copyNames one = copyNames other) :
    locate home (source runtime one) = locate home (source runtime other) := by
  have relative := Path.relative_of_isInner inner
  have otherRelative := Path.relative_of_isInner otherInner
  simp only [copyNames, relative, otherRelative, Bool.false_eq_true, if_false] at same
  simp only [source, relative, otherRelative, Bool.false_eq_true, if_false]
  rw [Memory.locate_join_inner inner, Memory.locate_join_inner otherInner, same]

end LoadOrder

namespace LoadOrder

/-- The scripts of the engine are not named like those that an export makes. -/
theorem not_isMade_engine {script : String} (listed : script ∈ coreScripts ++ eventsToolScripts ++
    debuggerScripts ++ Renderer.pixi.scripts ++ Renderer.cocos.scripts) :
    isMade script = false := by
  have of_chars {chars : List Char}
      (other : (madeFronts.map String.toList).any (·.isPrefixOf chars) = false) :
      isMade (String.ofList chars) = false := by
    simpa [isMade] using other
  revert script
  unfold coreScripts eventsToolScripts debuggerScripts Renderer.scripts
  simp only [List.cons_append, List.nil_append, List.forall_mem_cons]
  repeat' apply And.intro
  all_goals first
    | exact of_chars (by decide)
    | simp

theorem copyNames_made {code : Path} (absolute : code.isAbsolute = true) {name : String}
    (isName : Path.IsName name) : copyNames (code / name).text = [name] := by
  have joined : (Path.mk (code / name).text).isAbsolute = true :=
    Path.isAbsolute_join_name absolute isName
  have named : (Path.mk (code / name).text).fileName? = some name := Path.fileName?_join isName
  rw [copyNames, if_pos joined, named, Option.toList_some]

/-- A script of the engine directly inside the runtime directory keeps its name. -/
theorem eq_of_copyNames_plain {script name : String} (plain : Path.isPlain script.toList = true)
    (alone : copyNames script = [name]) : script = name := by
  have relative := Path.relative_of_isInner (Path.isInner_of_isPlain plain)
  have parts : ∀ part ∈ Path.splitParts script.toList,
      Path.isVoid part = false ∧ part ≠ ['.', '.'] := by
    simpa [Path.isPlain] using plain
  have names : copyNames script = (Path.splitParts script.toList).map String.ofList := by
    simp [copyNames, relative, locate, Memory.foldl_step_plain parts]
  rw [names] at alone
  obtain ⟨part, single, rfl⟩ := List.map_eq_singleton_iff.mp alone
  have whole := Path.joinParts_splitParts script.toList
  rw [single, Path.joinParts] at whole
  rw [whole, String.ofList_toList]

/-- Effects lie in a directory of their own. -/
theorem prefix_copyNames_effect {effectType : String}
    (inner : Path.isInner (Project.effectScript effectType) = true) :
    ["effects"] <+: copyNames (Project.effectScript effectType) := by
  have relative := Path.relative_of_isInner inner
  have parts : Path.splitParts (Project.effectScript effectType).toList =
      "effects".toList :: Path.splitParts (Text.lower effectType ++ ".js").toList := by
    have text : (Project.effectScript effectType).toList =
        "effects".toList ++ '/' :: (Text.lower effectType ++ ".js").toList := by
      simp [Project.effectScript]
    rw [text, Path.splitParts_append_slash, Path.splitParts_of_clean (by decide)]
    rfl
  simp only [Path.isInner, Bool.and_eq_true, List.all_eq_true, bne_iff_ne] at inner
  have level : ∀ part ∈ Path.splitParts (Text.lower effectType ++ ".js").toList,
      part ≠ ['.', '.'] := by
    intro part member
    exact inner.2 part (parts ▸ List.mem_cons_of_mem _ member)
  have names : copyNames (Project.effectScript effectType) =
      (Path.splitParts (Text.lower effectType ++ ".js").toList).foldl Memory.step ["effects"] := by
    rw [copyNames, if_neg (by simp [relative]), locate, parts, List.foldl_cons]
    simp [Memory.step, Path.isVoid]
  rw [names]
  exact Memory.prefix_foldl_step level ["effects"]

/-- Scripts of the engine, of effects inside their directory, and those that an export makes. -/
def IsTame (code : Path) (script : String) : Prop :=
  IsOwn code script ∨ ∃ effectType, script = Project.effectScript effectType ∧
    Path.isInner script = true

/-- A tame script comes from the runtime directory and is not named like a made one, or it is
made. -/
theorem IsTame.inner_or_made {code : Path} {script : String} (tame : IsTame code script) :
    (Path.isInner script = true ∧ ∀ name, copyNames script = [name] → isMade name = false) ∨
      ∃ name, Path.IsName name ∧ isMade name = true ∧ script = (code / name).text := by
  rcases tame with own | ⟨effectType, rfl, inner⟩
  · cases own with
    | engine listed =>
      have plain := isPlain_engine listed
      refine .inl ⟨Path.isInner_of_isPlain plain, fun name alone => ?_⟩
      rw [← eq_of_copyNames_plain plain alone]
      exact not_isMade_engine listed
    | made isName made => exact .inr ⟨_, isName, made, rfl⟩
  · refine .inl ⟨inner, fun name alone => ?_⟩
    have front := prefix_copyNames_effect inner
    rw [alone, List.cons_prefix_cons] at front
    rw [← front.1]
    decide

theorem IsTame.isUsual {code : Path} (absolute : code.isAbsolute = true) {script : String}
    (tame : IsTame code script) : isUsual script = true := by
  rcases tame.inner_or_made with ⟨inner, -⟩ | ⟨name, isName, -, rfl⟩
  · rw [LoadOrder.isUsual, if_neg (by simp [Path.relative_of_isInner inner]), inner]
  · have joined : (Path.mk (code / name).text).isAbsolute = true :=
      Path.isAbsolute_join_name absolute isName
    have named : (Path.mk (code / name).text).fileName? = some name := Path.fileName?_join isName
    rw [LoadOrder.isUsual, if_pos joined, named, Option.isSome_some]

theorem IsTame.source_eq {code : Path} (absolute : code.isAbsolute = true) {one other : String}
    (tame : IsTame code one) (otherTame : IsTame code other)
    (same : copyNames one = copyNames other) (home : Place) (runtime : Path) :
    locate home (source runtime one) = locate home (source runtime other) := by
  rcases tame.inner_or_made with ⟨inner, apart⟩ | ⟨name, isName, made, rfl⟩ <;>
    rcases otherTame.inner_or_made with ⟨otherInner, otherApart⟩ | ⟨more, moreName, moreMade, rfl⟩
  · exact locate_source_eq inner otherInner same
  · rw [apart more (same.trans (copyNames_made absolute moreName))] at moreMade
    cases moreMade
  · rw [otherApart name (same.symm.trans (copyNames_made absolute isName))] at made
    cases made
  · rw [copyNames_made absolute isName, copyNames_made absolute moreName,
      List.singleton_inj] at same
    rw [same]

end LoadOrder

/-- Unless events ask for scripts, or effects lie outside their directory, no two scripts of a
bundle go to one place, unless they come from one place. -/
theorem Exporter.copies_apart {exporter : Exporter} {request : ExportRequest}
    {place : OutputPlace} {project : Project} (absolute : place.code.isAbsolute = true)
    (asked : ∀ script ∈ LoadOrder.requested exporter.events request.target.profile project,
      ∃ effectType, script = Project.effectScript effectType ∧ Path.isInner script = true)
    {one other : String} (member : one ∈ (exporter.allScripts request place project).paths)
    (otherMember : other ∈ (exporter.allScripts request place project).paths) {home : Place}
    (same : locate home (exporter.scriptCopy request place one).2 =
      locate home (exporter.scriptCopy request place other).2) :
    locate home (exporter.scriptCopy request place one).1 =
      locate home (exporter.scriptCopy request place other).1 := by
  have tame {script : String} (member : script ∈ (exporter.allScripts request place project).paths) :
      LoadOrder.IsTame place.code script := by
    rcases asked_or_data_of_mem member with listed | rfl
    · exact (LoadOrder.own_or_requested listed).imp_right (asked script)
    · exact .inl (.made (by decide) (by decide))
  exact (tame member).source_eq absolute (tame otherMember)
    ((LoadOrder.locate_copy_eq_iff ((tame member).isUsual absolute)
      ((tame otherMember).isUsual absolute)).mp same) home _

namespace Exporter

section

variable (runtime includesDir : Path) (scripts : List String) (session : Session Memory)

def filesAt (index : Nat) : Memory :=
  (((scripts.take index).forM (materialize runtime includesDir)).exec session).2.disk

/-- The script at an index is found when it has its turn, and goes to a place. -/
def CopiesTo (index : Nat) (place : Place) (bytes : ByteArray) : Prop :=
  ∃ script, scripts[index]? = some script ∧
    locate session.disk.home (includesDir / LoadOrder.bundleName script) = place ∧
    (filesAt runtime includesDir scripts session index).tree.get?
      (locate session.disk.home (LoadOrder.source runtime script)) = some (.file bytes)

end

variable {runtime includesDir : Path} {scripts : List String} {session final : Session Memory}
  {index : Nat} {place : Place} {bytes : ByteArray}

theorem grows_filesAt (index : Nat) :
    Memory.Grows session.disk (filesAt runtime includesDir scripts session index) :=
  ((Work.Keeps.forM fun script _ => grows_materialize runtime includesDir script) session).1

theorem filesAt_length
    (ran : (scripts.forM (materialize runtime includesDir)).exec session = (.ok (), final)) :
    filesAt runtime includesDir scripts session scripts.length = final.disk := by
  rw [filesAt, List.take_length, ran]

/-- A turn copies the script that is found, and leaves all files alone otherwise. -/
theorem filesAt_succ
    (ran : (scripts.forM (materialize runtime includesDir)).exec session = (.ok (), final))
    {script : String} (listed : scripts[index]? = some script) :
    let files := filesAt runtime includesDir scripts session
    let source := locate session.disk.home (LoadOrder.source runtime script)
    let target := locate session.disk.home (includesDir / LoadOrder.bundleName script)
    ((files index).tree.isFile source = false ∧ files (index + 1) = files index) ∨
      ∃ bytes, (files index).tree.get? source = some (.file bytes) ∧ target ≠ [] ∧
        files (index + 1) = (files index).put target bytes := by
  intro files source target
  obtain ⟨inside, same⟩ := List.getElem?_eq_some_iff.mp listed
  have next : scripts.take (index + 1) = scripts.take index ++ [script] := by
    rw [List.take_add_one, listed]
    rfl
  have cut : scripts = scripts.take index ++ (script :: scripts.drop (index + 1)) := by
    rw [← same, ← List.drop_eq_getElem_cons inside, List.take_append_drop]
  rw [cut, Work.forM_append] at ran
  obtain ⟨_, before, earlier, ran⟩ := Work.exec_bind_eq_ok ran
  rw [Work.forM_cons] at ran
  obtain ⟨_, after, copied, -⟩ := Work.exec_bind_eq_ok ran
  have here : files index = before.disk := by
    simp only [files, filesAt, earlier]
  have there : files (index + 1) = after.disk := by
    simp only [files, filesAt, next, Work.forM_append]
    rw [Work.exec_bind_of_ok earlier, Work.forM_cons, Work.exec_bind_of_ok copied]
    rfl
  have base : before.disk.home = session.disk.home := here ▸ (grows_filesAt index).base
  have step := materialize_eq_ok copied
  simp only [Memory.isFile, Memory.place_eq_of_home base] at step
  rw [here, there]
  rcases step with ⟨missing, kept, -⟩ | ⟨bytes, read, proper, put, -⟩
  · exact .inl ⟨missing, kept⟩
  · exact .inr ⟨bytes, read, proper, put⟩

/-- What a turn brings to a place lies there afterwards. -/
theorem CopiesTo.arrives
    (ran : (scripts.forM (materialize runtime includesDir)).exec session = (.ok (), final))
    (copied : CopiesTo runtime includesDir scripts session index place bytes) :
    (filesAt runtime includesDir scripts session (index + 1)).tree.get? place =
      some (.file bytes) := by
  obtain ⟨script, listed, rfl, read⟩ := copied
  rcases filesAt_succ ran listed with ⟨missing, -⟩ | ⟨more, found, proper, put⟩
  · rw [Tree.isFile, read] at missing
    cases missing
  · rw [read] at found
    cases found
    rw [put]
    exact Memory.get?_put_self proper bytes

/-- A turn that brings nothing to a place neither changes a file there nor makes one. -/
theorem file_filesAt_succ
    (ran : (scripts.forM (materialize runtime includesDir)).exec session = (.ok (), final))
    (spared : ∀ more, ¬CopiesTo runtime includesDir scripts session index place more) :
    (filesAt runtime includesDir scripts session (index + 1)).tree.get? place =
        some (.file bytes) ↔
      (filesAt runtime includesDir scripts session index).tree.get? place =
        some (.file bytes) := by
  cases listed : scripts[index]? with
  | none =>
    have beyond := List.getElem?_eq_none_iff.mp listed
    rw [filesAt, filesAt, List.take_of_length_le beyond,
      List.take_of_length_le (Nat.le_succ_of_le beyond)]
  | some script =>
    rcases filesAt_succ ran listed with ⟨-, kept⟩ | ⟨more, found, proper, put⟩
    · rw [kept]
    · have apart : place ≠ locate session.disk.home (includesDir / LoadOrder.bundleName script) :=
        fun same => spared more ⟨script, listed, same.symm, found⟩
      rw [put, Memory.get?_put_of_ne apart]
      split
      · rename_i made
        simp [made.2]
      · rfl

/-- Turns that bring nothing to a place leave the file there as it is. -/
theorem file_filesAt
    (ran : (scripts.forM (materialize runtime includesDir)).exec session = (.ok (), final))
    {first last : Nat} (ordered : first ≤ last)
    (spared : ∀ index, first ≤ index → index < last →
      ∀ more, ¬CopiesTo runtime includesDir scripts session index place more) :
    (filesAt runtime includesDir scripts session last).tree.get? place = some (.file bytes) ↔
      (filesAt runtime includesDir scripts session first).tree.get? place =
        some (.file bytes) := by
  induction last, ordered using Nat.le_induction with
  | base => rfl
  | succ last ordered ih =>
    rw [file_filesAt_succ ran (spared last ordered (Nat.lt_succ_self last))]
    exact ih fun index low high => spared index low (high.trans (Nat.lt_succ_self last))

theorem CopiesTo.lt_length
    (copied : CopiesTo runtime includesDir scripts session index place bytes) :
    index < scripts.length := by
  obtain ⟨script, listed, -⟩ := copied
  exact (List.getElem?_eq_some_iff.mp listed).1

/-- Of the scripts that go to one place there is a last one. -/
theorem CopiesTo.exists_last
    (copied : CopiesTo runtime includesDir scripts session index place bytes) :
    ∃ last other, index ≤ last ∧ CopiesTo runtime includesDir scripts session last place other ∧
      ∀ later more, CopiesTo runtime includesDir scripts session later place more →
        later ≤ last := by
  classical
  let goes (index : Nat) : Prop :=
    ∃ more, CopiesTo runtime includesDir scripts session index place more
  have bounded {index : Nat} (there : goes index) : index ≤ scripts.length :=
    (there.choose_spec).lt_length.le
  have found : goes (Nat.findGreatest goes scripts.length) :=
    Nat.findGreatest_spec (bounded ⟨bytes, copied⟩) ⟨bytes, copied⟩
  obtain ⟨other, last⟩ := found
  exact ⟨_, other, Nat.le_findGreatest (bounded ⟨bytes, copied⟩) ⟨bytes, copied⟩, last,
    fun later more goes => Nat.le_findGreatest (bounded ⟨more, goes⟩) ⟨more, goes⟩⟩

/-- In the end a place holds what the last script that goes there brought. -/
theorem CopiesTo.stays
    (ran : (scripts.forM (materialize runtime includesDir)).exec session = (.ok (), final))
    (copied : CopiesTo runtime includesDir scripts session index place bytes)
    (last : ∀ later more, CopiesTo runtime includesDir scripts session later place more →
      later ≤ index) :
    final.disk.tree.get? place = some (.file bytes) := by
  rw [← filesAt_length ran]
  refine (file_filesAt ran copied.lt_length fun later low _ more goes => ?_).mpr
    (copied.arrives ran)
  exact absurd (last later more goes) (Nat.not_le.mpr low)

/-- Every script whose source is a file is copied. What lies at its target in the end is what
the last script that goes there brought: its own contents, unless a later script goes there
too or an earlier one went to its source. Two usual scripts go to one place exactly when they
have the same names there, which happens to scripts of the engine only when they come from
one place. -/
theorem script_copy_lasts {script : String}
    (ran : (scripts.forM (materialize runtime includesDir)).exec session = (.ok (), final))
    (listed : scripts[index]? = some script)
    (held : session.disk.tree.get? (locate session.disk.home (LoadOrder.source runtime script)) =
      some (.file bytes)) :
    let goes := CopiesTo runtime includesDir scripts session
    let source := fun script => locate session.disk.home (LoadOrder.source runtime script)
    let target := fun script =>
      locate session.disk.home (includesDir / LoadOrder.bundleName script)
    (∃ last brought, index ≤ last ∧ goes last (target script) brought ∧
      (∀ later more, goes later (target script) more → later ≤ last) ∧
      final.disk.tree.get? (target script) = some (.file brought)) ∧
    (final.disk.tree.get? (target script) = some (.file bytes) ∨
      (∃ later > index, ∃ more, goes later (target script) more) ∨
      ∃ earlier < index, ∃ more, goes earlier (source script) more) ∧
    ∀ other, LoadOrder.isUsual script = true → LoadOrder.isUsual other = true →
      (target other = target script ↔
        LoadOrder.copyNames other = LoadOrder.copyNames script) ∧
      (Path.isInner script = true → Path.isInner other = true →
        target other = target script → source other = source script) := by
  intro goes source target
  have base : Memory.Grows session.disk (filesAt runtime includesDir scripts session index) :=
    grows_filesAt index
  obtain ⟨found, read⟩ := Tree.isFile_iff.mp (base.files (source script)
    (Tree.isFile_iff.mpr ⟨bytes, held⟩))
  have copied : goes index (target script) found := ⟨script, listed, rfl, read⟩
  refine ⟨?_, ?_, fun other usual otherUsual => ?_⟩
  · obtain ⟨last, brought, low, there, none⟩ := copied.exists_last
    exact ⟨last, brought, low, there, none, there.stays ran none⟩
  · by_cases later : ∃ later > index, ∃ more, goes later (target script) more
    · exact .inr (.inl later)
    by_cases earlier : ∃ earlier < index, ∃ more, goes earlier (source script) more
    · exact .inr (.inr earlier)
    left
    have own : (filesAt runtime includesDir scripts session index).tree.get? (source script) =
        some (.file bytes) :=
      (file_filesAt ran (Nat.zero_le index) fun other _ high more there =>
        earlier ⟨other, high, more, there⟩).mpr held
    have whole : goes index (target script) bytes := ⟨script, listed, rfl, own⟩
    exact whole.stays ran fun other more there =>
      Nat.not_lt.mp fun high => later ⟨other, high, more, there⟩
  · have names : target other = target script ↔
        LoadOrder.copyNames other = LoadOrder.copyNames script :=
      LoadOrder.locate_copy_eq_iff otherUsual usual
    exact ⟨names, fun inner otherInner same =>
      LoadOrder.locate_source_eq otherInner inner (names.mp same)⟩

/-- Files of one name in two directories. -/
def namesakes : Session Memory where
  disk := {
    tree := ⟨[(["ext", "a", "tween.js"], .file ⟨#[1]⟩), (["ext", "b", "tween.js"], .file ⟨#[2]⟩)]⟩
    home := ["cwd"]
    denied := [] }
  diagnostics := .empty

def namesakeScripts : List String := ["/ext/a/tween.js", "/ext/b/tween.js"]

/-- The files once both have been copied. -/
def merged : Session Memory :=
  ((namesakeScripts.forM (materialize ⟨"/rt/Runtime"⟩ ⟨"/out"⟩)).exec namesakes).2

theorem merged_of_namesakes :
    (namesakeScripts.forM (materialize ⟨"/rt/Runtime"⟩ ⟨"/out"⟩)).exec namesakes =
      (.ok (), merged) := by
  have ok : ((namesakeScripts.forM (materialize ⟨"/rt/Runtime"⟩ ⟨"/out"⟩)).exec namesakes).1 =
      .ok () := by decide +kernel
  rw [merged, ← ok]

/-- Of two scripts with one name, the contents of the second stay. -/
theorem namesakes_copy_lasts :
    let goes := CopiesTo ⟨"/rt/Runtime"⟩ ⟨"/out"⟩ namesakeScripts namesakes
    merged.disk.tree.get? ["out", "tween.js"] = some (.file ⟨#[2]⟩) ∧
    ∃ last brought, goes last ["out", "tween.js"] brought ∧
      (∀ later more, goes later ["out", "tween.js"] more → later ≤ last) ∧
      merged.disk.tree.get? ["out", "tween.js"] = some (.file brought) := by
  intro goes
  have target : locate namesakes.disk.home
      (Path.mk "/out" / LoadOrder.bundleName "/ext/a/tween.js") = ["out", "tween.js"] := rfl
  have held : namesakes.disk.tree.get? (locate namesakes.disk.home
      (LoadOrder.source ⟨"/rt/Runtime"⟩ "/ext/a/tween.js")) = some (.file ⟨#[1]⟩) := rfl
  have listed : namesakeScripts[0]? = some "/ext/a/tween.js" := rfl
  obtain ⟨⟨last, brought, -, there, none, stays⟩, -⟩ :=
    script_copy_lasts merged_of_namesakes listed held
  simp only [target] at there none stays
  exact ⟨by decide +kernel, last, brought, there, none, stays⟩

end Exporter

end GameBundle
