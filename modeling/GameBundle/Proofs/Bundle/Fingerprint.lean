import GameBundle.Proofs.Bundle.Completeness
import GameBundle.Proofs.Bundle.DataScript
import GameBundle.Proofs.Dictionary

/-!
# Fingerprints in a bundle

An export looks at fingerprints only to tell the running game those of its scripts. Two exports
that differ in nothing else leave the same files when these scripts have the same fingerprints in
both. Otherwise the data tells them apart.
-/

namespace GameBundle

open Memory (locate)

namespace Dictionary

/-- The fingerprint of a script in a dictionary; one that has none there has zero. -/
def fingerprint (hashes : Dictionary Nat) (script : String) : Nat :=
  (hashes.find? script).getD 0

def HasWords (hashes : Dictionary Nat) : Prop :=
  ∀ script, hashes.fingerprint script < Nat.pow 2 32

theorem hasWords_nil : HasWords [] := fun _ => Nat.pow_pos (by decide)

end Dictionary

section

variable {σ : Type} [Storage σ]

def contentDigest? (digest : ByteArray → Nat) (root : Path) (disk : σ) (script : String) :
    Option Nat :=
  (Storage.read (runtimeDirectory root / script) disk).toOption.map digest

theorem scriptFingerprint?_eq (digest : ByteArray → Nat) (root : Path) (disk : σ)
    (script : String) : scriptFingerprint? digest (runtimeDirectory root) disk script =
      (contentDigest? digest root disk script).map (Prod.mk script) := by
  unfold scriptFingerprint? contentDigest?
  cases Storage.read (runtimeDirectory root / script) disk <;> rfl

theorem find?_scriptFingerprints (digest : ByteArray → Nat) (root : Path) (scripts : List String)
    (disk : σ) (script : String) : (scriptFingerprints digest root scripts disk).find? script =
      if script ∈ scripts then contentDigest? digest root disk script else none := by
  have entries : scripts.filterMap (scriptFingerprint? digest (runtimeDirectory root) disk) =
      (scripts.filter fun script => (contentDigest? digest root disk script).isSome).map
        fun script => (script, (contentDigest? digest root disk script).getD 0) := by
    induction scripts with
    | nil => rfl
    | cons first rest ih =>
      rw [List.filterMap_cons, scriptFingerprint?_eq, ih]
      cases found : contentDigest? digest root disk first <;> simp [found]
  rw [scriptFingerprints, entries, Dictionary.find?_ofEntries]
  cases found : contentDigest? digest root disk script <;> simp [List.mem_filter, found]

theorem hasWords_scriptFingerprints (root : Path) (scripts : List String) (disk : σ) :
    (scriptFingerprints Digest.fingerprint root scripts disk).HasWords := by
  intro script
  rw [Dictionary.fingerprint, find?_scriptFingerprints]
  split
  · unfold contentDigest?
    cases Storage.read (runtimeDirectory root / script) disk with
    | error fault => exact Dictionary.hasWords_nil script
    | ok contents => exact UInt32.toNat_lt _
  · exact Dictionary.hasWords_nil script

end

namespace GameOptions

variable {isPreview : Bool} {injected : Option String} {includes : List String}
  {hashes other : Dictionary Nat}

/-- The options of a game depend on the fingerprints of its scripts and on no others. -/
theorem ofIncludes_eq_iff : ofIncludes isPreview injected includes hashes =
    ofIncludes isPreview injected includes other ↔
      ∀ script ∈ includes, hashes.fingerprint script = other.fingerprint script := by
  simp only [ofIncludes, GameOptions.mk.injEq, true_and, List.map_inj_left, ScriptFile.mk.injEq,
    Dictionary.fingerprint]

theorem words_of_ofIncludes (words : hashes.HasWords) :
    ∀ script ∈ (ofIncludes isPreview injected includes hashes).scripts,
      script.hash < Nat.pow 2 32 := by
  intro script member
  obtain ⟨path, -, rfl⟩ := List.mem_map.mp member
  exact words path

end GameOptions

theorem options_of_dataScript {project : Project} {options other : GameOptions}
    (words : ∀ script ∈ options.scripts, script.hash < Nat.pow 2 32)
    (otherWords : ∀ script ∈ other.scripts, script.hash < Nat.pow 2 32)
    (same : dataScript project options = dataScript project other) : options = other := by
  have lines := splitOn_dataScript project options
  rw [same, splitOn_dataScript] at lines
  simp only [List.cons.injEq, true_and, and_true, String.toList_inj, String.append_left_inj,
    String.append_right_inj] at lines
  have read := GameOptions.parse_of_words words
  rw [← lines, GameOptions.parse_of_words otherWords] at read
  exact (Except.ok.inj read).symm

namespace ExportRequest

def withHashes (request : ExportRequest) (hashes : Dictionary Nat) : ExportRequest :=
  { request with hashes }

section

variable (request : ExportRequest) (hashes : Dictionary Nat)

@[simp] theorem withHashes_target : (request.withHashes hashes).target = request.target := rfl

@[simp] theorem withHashes_layout : (request.withHashes hashes).layout = request.layout := rfl

@[simp] theorem withHashes_externalLayout :
    (request.withHashes hashes).externalLayout = request.externalLayout := rfl

@[simp] theorem withHashes_hashes : (request.withHashes hashes).hashes = hashes := rfl

end

end ExportRequest

namespace Exporter

variable {σ : Type} [Storage σ] {exporter : Exporter} {request : ExportRequest}
  {place : OutputPlace} {exported : Project} {codeDirectory : Path}

@[simp] theorem outputPlace_withHashes (hashes : Dictionary Nat) (disk : σ) :
    outputPlace (request.withHashes hashes) codeDirectory disk =
      outputPlace request codeDirectory disk := rfl

@[simp] theorem exportedProject_withHashes (hashes : Dictionary Nat) :
    (exportedProject (request.withHashes hashes) place : Work σ Project) =
      exportedProject request place := rfl

@[simp] theorem scriptsOf_withHashes (hashes : Dictionary Nat) :
    exporter.scriptsOf (request.withHashes hashes) place exported =
      exporter.scriptsOf request place exported := rfl

/-- Whether a bundle tells the running game the same fingerprints from two dictionaries. -/
def TellsAlike (exporter : Exporter) (request : ExportRequest) (place : OutputPlace)
    (exported : Project) (hashes other : Dictionary Nat) : Prop :=
  ∀ script ∈ (exporter.scriptsOf request place exported).paths,
    hashes.fingerprint script = other.fingerprint script

theorem assemble_withHashes {hashes : Dictionary Nat}
    (alike : exporter.TellsAlike request place exported hashes request.hashes) :
    (exporter.assemble (request.withHashes hashes) place exported : Work σ ExportReport) =
      exporter.assemble request place exported := by
  have options : GameOptions.ofIncludes request.target.profile.isPreview request.externalLayout
      (exporter.scriptsOf request place exported).paths hashes = GameOptions.ofIncludes
        request.target.profile.isPreview request.externalLayout
        (exporter.scriptsOf request place exported).paths request.hashes :=
    GameOptions.ofIncludes_eq_iff.mpr alike
  unfold assemble
  simp only [ExportRequest.withHashes_target, ExportRequest.withHashes_layout,
    ExportRequest.withHashes_externalLayout, ExportRequest.withHashes_hashes, scriptsOf_withHashes,
    options]

theorem exportWith_withHashes {disk : σ} {hashes : Dictionary Nat}
    (alike : ∀ exported session,
      (exportedProject request (outputPlace request codeDirectory disk)).start disk =
        (.ok exported, session) →
      exporter.TellsAlike request (outputPlace request codeDirectory disk) exported hashes
        request.hashes) :
    exporter.exportWith (request.withHashes hashes) codeDirectory disk =
      exporter.exportWith request codeDirectory disk := by
  have built : (exporter.build (request.withHashes hashes)
      (outputPlace request codeDirectory disk)).start disk =
        (exporter.build request (outputPlace request codeDirectory disk)).start disk := by
    unfold build Work.start
    rw [exportedProject_withHashes, Work.exec_bind, Work.exec_bind]
    split
    · rename_i exported session ran
      rw [assemble_withHashes (alike exported session ran)]
    · rfl
  unfold exportWith
  rw [outputPlace_withHashes, built]
  rfl

section

variable {disk after last : Memory} {report other : ExportReport} {hashes : Dictionary Nat}

/-- Whether the data stays as it was written in the bundle of a request. -/
def KeepsData (exporter : Exporter) (request : ExportRequest) (place : OutputPlace)
    (disk : Memory) : Prop :=
  ∀ exported session, (exportedProject request place).start disk = (.ok exported, session) →
    exporter.SparesData request place exported disk.home

theorem KeepsData.withHashes (keeps : exporter.KeepsData request place disk)
    (hashes : Dictionary Nat) : exporter.KeepsData (request.withHashes hashes) place disk :=
  fun exported session ran script member => keeps exported session ran script member

theorem data_of_exportWith
    (rooted : (outputPlace request codeDirectory disk).code.isAbsolute = true)
    (keeps : exporter.KeepsData request (outputPlace request codeDirectory disk) disk)
    (done : exporter.exportWith request codeDirectory disk = (.ok report, after)) :
    let place := outputPlace request codeDirectory disk
    ∃ exported session, (exportedProject request place).start disk = (.ok exported, session) ∧
      after.tree.get? (locate disk.home (place.code / "data.js")) =
        some (.file (dataScript (shipped exported request.layout)
          (GameOptions.ofIncludes request.target.profile.isPreview request.externalLayout
            (exporter.scriptsOf request place exported).paths request.hashes)).toUTF8) := by
  obtain ⟨exported, session, final, first, second, rfl⟩ := exportWith_eq_ok done
  refine ⟨exported, session, first, ?_⟩
  have home : session.disk.home = disk.home := (within_exportedProject.of_exec first rfl).home
  rw [assemble_eq] at second
  obtain ⟨_, supplied, supplying, finishing⟩ := Work.exec_bind_eq_ok second
  obtain ⟨page, rendered, files, paged, packed, -⟩ := finish_eq_ok finishing
  have spares := keeps exported session first
  rw [← home] at spares ⊢
  have isName : Path.IsName "data.js" := by decide
  refine data_stays paged packed ?_
    ((supplied_of_exec supplying).document rooted spares _ List.mem_cons_self)
  rw [Memory.locate_join_name isName, List.getLast?_concat]

/-- Two exports that differ in fingerprints and leave the same data tell the game the same. -/
theorem tellsAlike_of_data (words : request.hashes.HasWords) (otherWords : hashes.HasWords)
    (rooted : (outputPlace request codeDirectory disk).code.isAbsolute = true)
    (keeps : exporter.KeepsData request (outputPlace request codeDirectory disk) disk)
    (done : exporter.exportWith request codeDirectory disk = (.ok report, after))
    (again : exporter.exportWith (request.withHashes hashes) codeDirectory disk = (.ok other, last))
    (same : after.tree.get? (locate disk.home
        ((outputPlace request codeDirectory disk).code / "data.js")) =
      last.tree.get? (locate disk.home
        ((outputPlace request codeDirectory disk).code / "data.js"))) :
    ∃ exported session,
      (exportedProject request (outputPlace request codeDirectory disk)).start disk =
        (.ok exported, session) ∧
      exporter.TellsAlike request (outputPlace request codeDirectory disk) exported hashes
        request.hashes := by
  obtain ⟨exported, session, first, stored⟩ := data_of_exportWith rooted keeps done
  rw [← outputPlace_withHashes hashes] at rooted keeps
  obtain ⟨copy, _, second, kept⟩ := data_of_exportWith rooted (keeps.withHashes hashes) again
  rw [outputPlace_withHashes] at second kept
  rw [exportedProject_withHashes, first] at second
  rw [scriptsOf_withHashes] at kept
  obtain rfl : exported = copy := Except.ok.inj (congrArg Prod.fst second)
  refine ⟨exported, session, first, ?_⟩
  rw [stored, kept, Option.some.injEq, Node.file.injEq] at same
  have options := options_of_dataScript (GameOptions.words_of_ofIncludes words)
    (GameOptions.words_of_ofIncludes otherWords) (String.toByteArray_inj.mp same)
  exact fun script member => (GameOptions.ofIncludes_eq_iff.mp options script member).symm

end

end Exporter

end GameBundle
