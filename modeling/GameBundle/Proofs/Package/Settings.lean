import GameBundle.Proofs.Markup.Layout
import GameBundle.Proofs.Package.Steps
import GameBundle.Proofs.Template.Parts
import GameBundle.Storage.Changes
import GameBundle.Storage.Memory

/-!
# Settings of mobile packages

The settings are a document with slots for the texts of a project. Of these texts the names and
the identifier for advertising are escaped; the orientation, the version and the paths of icons
are put in as they are.
-/

namespace GameBundle.Mobile

open Markup (Piece fixed render Inert Fits Placed WellFormed)
open Template (placeholder)

/-- The texts of a project that its settings have slots for. -/
inductive Slot where
  | name
  | packageName
  | orientation
  | version
  | advertising
  | icon (platform size : String)
deriving DecidableEq, Repr

def inserted (source : PackageSource) : Slot → String
  | .name => Markup.escape source.project.name
  | .packageName => Markup.escape source.project.packageName
  | .orientation => source.project.orientation
  | .version => source.project.version
  | .advertising => Markup.escape source.project.adMobAppId
  | .icon platform size => (iconPath? source platform size).getD ""

def androidPieces (size density : String) : List (Piece Slot) :=
  fixed "<icon src=\"".toList ++
    .slot (.icon "android" size) :: fixed ("\" density=\"" ++ density ++ "\" />\n").toList

def iosPieces (size : String) : List (Piece Slot) :=
  fixed "<icon src=\"".toList ++ .slot (.icon "ios" size) ::
    fixed ("\" width=\"" ++ size ++ "\" height=\"" ++ size ++ "\" />\n").toList

def advertisingPieces : List (Piece Slot) :=
  fixed ("<plugin name=\"cordova-plugin-admob-free\" spec=\"~0.21.0\">\n" ++
      "\t\t<variable name=\"ADMOB_APP_ID\" value=\"").toList ++
    .slot .advertising :: fixed ("\" />\n" ++ "\t</plugin>").toList

def layout (source : PackageSource) : Markup.Layout Slot :=
  [("KILN_PROJECTNAME", [.slot .name]),
    ("KILN_PACKAGENAME", [.slot .packageName]),
    ("KILN_ORIENTATION", [.slot .orientation]),
    ("KILN_PROJECTVERSION", [.slot .version]),
    ("<!-- KILN_ICONS_ANDROID -->", androidIcons.flatMap fun icon =>
      if (iconPath? source "android" icon.1).isSome then androidPieces icon.1 icon.2 else []),
    ("<!-- KILN_ICONS_IOS -->", iosIcons.flatMap fun size =>
      if (iconPath? source "ios" size).isSome then iosPieces size else [])] ++
  if source.project.adMobAppId = "" then []
  else [("<!-- KILN_ADMOB_PLUGIN_AND_APPLICATION_ID -->", advertisingPieces)]

def advertisingParts : List Template.Part := [
  .literal ("<plugin name=\"cordova-plugin-admob-free\" spec=\"~0.21.0\">\n" ++
    "\t\t<variable name=\"ADMOB_APP_ID\" value=\""),
  .hole "ADMOB_APP_ID", .literal ("\" />\n" ++ "\t</plugin>")]

theorem toList_advertising {source : PackageSource} (given : source.project.adMobAppId ≠ "") :
    (advertising source.project.adMobAppId).toList =
      render (inserted source) advertisingPieces := by
  have whole : "<plugin name=\"cordova-plugin-admob-free\" spec=\"~0.21.0\">\n" ++
      "\t\t<variable name=\"ADMOB_APP_ID\" value=\"" ++ placeholder "ADMOB_APP_ID" ++ "\" />\n" ++
        "\t</plugin>" = String.join (advertisingParts.map Template.Part.source) := rfl
  have fits : advertisingParts.all (Template.Part.fits ["ADMOB_APP_ID"]) = true := rfl
  have filled := Template.fill_parts advertisingParts
    [("ADMOB_APP_ID", Markup.escape source.project.adMobAppId)] whole (by decide) fits rfl
  rw [advertising, if_neg given]
  refine (congrArg String.toList filled).trans ?_
  simp [advertisingParts, Template.Part.filled, advertisingPieces, inserted]

theorem toList_elements {β : Type} (source : PackageSource) (platform : String) (icons : List β)
    (size : β → String) (element : β → String → String) (pieces : β → List (Piece Slot))
    (same : ∀ icon path, iconPath? source platform (size icon) = some path →
      (element icon path).toList = render (inserted source) (pieces icon)) :
    (String.join (icons.filterMap fun icon =>
        (iconPath? source platform (size icon)).map (element icon))).toList =
      render (inserted source) (icons.flatMap fun icon =>
        if (iconPath? source platform (size icon)).isSome then pieces icon else []) := by
  induction icons with
  | nil => rfl
  | cons icon icons ih =>
    rw [List.flatMap_cons, Markup.render_append, ← ih]
    cases path : iconPath? source platform (size icon) with
    | none => simp [path]
    | some found => simp [path, String.join_cons, same icon found path]

theorem toList_androidElements (source : PackageSource) :
    (androidElements source).toList = render (inserted source)
      (androidIcons.flatMap fun icon =>
        if (iconPath? source "android" icon.1).isSome then androidPieces icon.1 icon.2
        else []) := by
  refine toList_elements source "android" androidIcons Prod.fst
    (fun icon path => androidElement path icon.2) _ fun icon path found => ?_
  show ("<icon src=\"" ++ path ++ "\" density=\"" ++ icon.2 ++ "\" />\n").toList = _
  simp [androidPieces, inserted, found]

theorem toList_iosElements (source : PackageSource) :
    (iosElements source).toList = render (inserted source)
      (iosIcons.flatMap fun size =>
        if (iconPath? source "ios" size).isSome then iosPieces size else []) := by
  refine toList_elements source "ios" iosIcons id (fun size path => iosElement path size) _
    fun size path found => ?_
  show ("<icon src=\"" ++ path ++ "\" width=\"" ++ size ++ "\" height=\"" ++ size ++
    "\" />\n").toList = _
  simp [iosPieces, inserted, show iconPath? source "ios" size = some path from found]

theorem advertising_eq_empty_iff (source : PackageSource) :
    advertising source.project.adMobAppId = "" ↔ source.project.adMobAppId = "" := by
  by_cases given : source.project.adMobAppId = ""
  · simp [given, advertising]
  · have long := toList_advertising given
    rw [← String.toList_inj, long]
    simp [given, advertisingPieces]

/-- The settings are filled with the texts of the project in their slots. -/
theorem substitutions_eq (source : PackageSource) :
    substitutions source = (layout source).substitutions (inserted source) := by
  have slot (text : Slot) : String.ofList (render (inserted source) [.slot text]) =
      inserted source text := by simp
  unfold substitutions layout Markup.Layout.substitutions
  rw [List.map_append, List.map_cons, List.map_cons, List.map_cons, List.map_cons, List.map_cons,
    List.map_cons, List.map_nil, slot, slot, slot, slot, ← toList_androidElements,
    ← toList_iosElements, String.ofList_toList, String.ofList_toList]
  dsimp only
  by_cases given : source.project.adMobAppId = ""
  · rw [if_pos given, if_pos ((advertising_eq_empty_iff source).mpr given)]
    rfl
  · rw [if_neg given, if_neg (mt (advertising_eq_empty_iff source).mp given), List.map_cons,
      List.map_nil, ← toList_advertising given, String.ofList_toList]
    rfl

theorem slot_mem_androidPieces {slot : Slot} {size density : String}
    (member : .slot slot ∈ androidPieces size density) : slot = .icon "android" size := by
  simpa [androidPieces, fixed] using member

theorem slot_mem_iosPieces {slot : Slot} {size : String}
    (member : .slot slot ∈ iosPieces size) : slot = .icon "ios" size := by
  simpa [iosPieces, fixed] using member

theorem holds_layout {source : PackageSource} {slot : Slot} (held : (layout source).Holds slot) :
    slot ∈ [Slot.name, .packageName, .orientation, .version, .advertising] ∨
      (∃ icon ∈ androidIcons, ∃ path, iconPath? source "android" icon.1 = some path ∧
        slot = .icon "android" icon.1) ∨
      ∃ size ∈ iosIcons, ∃ path, iconPath? source "ios" size = some path ∧
        slot = .icon "ios" size := by
  obtain ⟨entry, listed, member⟩ := held
  rw [layout, List.mem_append] at listed
  rcases listed with listed | listed
  · simp only [List.mem_cons, List.not_mem_nil, or_false] at listed
    rcases listed with rfl | rfl | rfl | rfl | rfl | rfl
    · exact .inl (by simp_all)
    · exact .inl (by simp_all)
    · exact .inl (by simp_all)
    · exact .inl (by simp_all)
    · obtain ⟨icon, known, inside⟩ := List.mem_flatMap.mp member
      split at inside
      · rename_i found
        obtain ⟨path, found⟩ := Option.isSome_iff_exists.mp found
        exact .inr (.inl ⟨icon, known, path, found, slot_mem_androidPieces inside⟩)
      · cases inside
    · obtain ⟨size, known, inside⟩ := List.mem_flatMap.mp member
      split at inside
      · rename_i found
        obtain ⟨path, found⟩ := Option.isSome_iff_exists.mp found
        exact .inr (.inr ⟨size, known, path, found, slot_mem_iosPieces inside⟩)
      · cases inside
  · split at listed
    · cases listed
    · obtain rfl := List.mem_singleton.mp listed
      have advertising : slot = .advertising := by
        simpa [advertisingPieces, fixed] using member
      exact .inl (by simp [advertising])

theorem holds_android {source : PackageSource} {icon : String × String}
    (known : icon ∈ androidIcons) {path : String}
    (found : iconPath? source "android" icon.1 = some path) :
    (layout source).Holds (.icon "android" icon.1) := by
  refine ⟨("<!-- KILN_ICONS_ANDROID -->", androidIcons.flatMap fun icon =>
    if (iconPath? source "android" icon.1).isSome then androidPieces icon.1 icon.2 else []),
    by simp [layout], List.mem_flatMap.mpr ⟨icon, known, ?_⟩⟩
  simp [found, androidPieces]

theorem holds_ios {source : PackageSource} {size : String} (known : size ∈ iosIcons)
    {path : String} (found : iconPath? source "ios" size = some path) :
    (layout source).Holds (.icon "ios" size) := by
  refine ⟨("<!-- KILN_ICONS_IOS -->", iosIcons.flatMap fun size =>
    if (iconPath? source "ios" size).isSome then iosPieces size else []),
    by simp [layout], List.mem_flatMap.mpr ⟨size, known, ?_⟩⟩
  simp [found, iosPieces]

/-- Nothing in the texts that go into the settings as they are is taken for markup. -/
structure Tame (source : PackageSource) : Prop where
  orientation : Inert source.project.orientation
  version : Inert source.project.version
  android : ∀ icon ∈ androidIcons, ∀ path ∈ iconPath? source "android" icon.1, Inert path
  ios : ∀ size ∈ iosIcons, ∀ path ∈ iconPath? source "ios" size, Inert path

/-- The names and the identifier are escaped, so the other texts decide. -/
theorem inert_inserted_iff (source : PackageSource) :
    (∀ slot, (layout source).Holds slot → Inert (inserted source slot)) ↔ Tame source := by
  constructor
  · intro inert
    constructor
    · exact inert .orientation
        ⟨("KILN_ORIENTATION", [.slot .orientation]), by simp [layout], by simp⟩
    · exact inert .version
        ⟨("KILN_PROJECTVERSION", [.slot .version]), by simp [layout], by simp⟩
    · intro icon known path found
      simpa [inserted, Option.mem_def.mp found] using inert _ (holds_android known found)
    · intro size known path found
      simpa [inserted, Option.mem_def.mp found] using inert _ (holds_ios known found)
  · intro tame slot held
    rcases holds_layout held with plain | ⟨icon, known, path, found, rfl⟩ |
      ⟨size, known, path, found, rfl⟩
    · simp only [List.mem_cons, List.not_mem_nil, or_false] at plain
      rcases plain with rfl | rfl | rfl | rfl | rfl
      · exact Markup.inert_escape _
      · exact Markup.inert_escape _
      · exact tame.orientation
      · exact tame.version
      · exact Markup.inert_escape _
    · simpa [inserted, found] using tame.android icon known path found
    · simpa [inserted, found] using tame.ios size known path found

/-- The texts in the settings are inert exactly when those are that go in as they are. The settings
made from a template with its tokens in their places are then well-formed exactly when the template
is with letters in the place of all texts, unless a text has a character that no document may
contain. -/
theorem settings_well_formed {σ : Type} [Storage σ] (source : PackageSource) :
    ((∀ slot, (layout source).Holds slot → Inert (inserted source slot)) ↔ Tame source) ∧
    (∀ template, Placed ((layout source).pieces template) → Tame source →
      (∀ slot, (layout source).Holds slot → ∀ c ∈ (inserted source slot).toList,
        Markup.isLegal c = true) →
      ∀ letters : Slot → String, (∀ slot, ∀ c ∈ (letters slot).toList, c.isAlpha = true) →
        (WellFormed (Template.fill template (substitutions source)) ↔
          WellFormed (Template.fill template ((layout source).substitutions letters)))) ∧
    ∀ (session later : Session σ) (written : List Path),
      (package source).exec session = (.ok written, later) →
      ∃ (template : String) (settled : Session σ),
        Storage.readText (source.runtime / "Cordova/config.xml") session.disk = .ok template ∧
        Storage.write (source.directory / "config.xml")
          (Template.fill template (substitutions source)) session.disk =
            (.ok (), settled.disk) := by
  refine ⟨inert_inserted_iff source, fun template placed tame legal letters alpha => ?_,
    fun session later written ran => ?_⟩
  · have inert := (inert_inserted_iff source).mpr tame
    rw [substitutions_eq]
    exact (layout source).wellFormed_fill placed
      (fun slot held => ⟨inert slot held, legal slot held⟩)
      fun slot _ => Markup.fits_of_letters (alpha slot)
  · obtain ⟨template, settled, read, wrote, -⟩ := package_run ran
    exact ⟨template, settled, read, wrote⟩

/-- A project whose name has all characters with a meaning in it. -/
def oddSource : PackageSource where
  project := { Project.blank "<Tom> & \"Jerry's\"" with
    adMobAppId := "ca-app&1"
    resources := ⟨[⟨"logo", .image, "logo.png"⟩]⟩
    platformAssets := ⟨[("android", [("icon-36", "logo")])]⟩ }
  profile := Target.cordova.profile
  runtime := ⟨"/rt"⟩
  directory := ⟨"/out"⟩
  scripts := []

def settingsTemplate : String :=
  "<w><n>KILN_PROJECTNAME</n><!-- KILN_ICONS_ANDROID --></w>"

def oddStart : Session Memory where
  disk := {
    tree := Tree.ofEntries [
      (["rt", "Cordova", "config.xml"], .file settingsTemplate.toUTF8),
      (["rt", "Cordova", "package.json"], .file "\x7b\x7d".toUTF8)]
    home := []
    denied := [] }
  diagnostics := .empty

/-- The name is escaped, and the settings are as well-formed as with letters in all slots. -/
theorem odd_settings_well_formed :
    WellFormed (Template.fill settingsTemplate (substitutions oddSource)) ∧
    ∃ written later template settled,
      (package oddSource).exec oddStart = (.ok written, later) ∧
      Storage.write (⟨"/out/config.xml"⟩ : Path)
        (Template.fill template (substitutions oddSource)) oddStart.disk = (.ok (), settled) := by
  obtain ⟨-, form, settings⟩ := @settings_well_formed Memory _ oddSource
  have placed : Placed ((layout oddSource).pieces settingsTemplate) := by decide +kernel
  have tame : Tame oddSource := ⟨by decide, by decide, by decide +kernel, by decide +kernel⟩
  have android : ∀ icon ∈ androidIcons, ∀ path ∈ iconPath? oddSource "android" icon.1,
      path.toList.all Markup.isLegal = true := by decide +kernel
  have ios : ∀ size ∈ iosIcons, ∀ path ∈ iconPath? oddSource "ios" size,
      path.toList.all Markup.isLegal = true := by decide +kernel
  have legal : ∀ slot, (layout oddSource).Holds slot →
      ∀ c ∈ (inserted oddSource slot).toList, Markup.isLegal c = true := by
    intro slot held
    rcases holds_layout held with plain | ⟨icon, known, path, found, rfl⟩ |
      ⟨size, known, path, found, rfl⟩
    · have texts : ∀ slot ∈ [Slot.name, .packageName, .orientation, .version, .advertising],
          (inserted oddSource slot).toList.all Markup.isLegal = true := by decide +kernel
      exact List.all_eq_true.mp (texts slot plain)
    · rw [inserted, found, Option.getD_some]
      exact List.all_eq_true.mp (android icon known path found)
    · rw [inserted, found, Option.getD_some]
      exact List.all_eq_true.mp (ios size known path found)
  have letters : WellFormed
      (Template.fill settingsTemplate ((layout oddSource).substitutions fun _ => "a")) := by
    decide +kernel
  have done : ((package oddSource).exec oddStart).1.map (fun _ => ()) = .ok () := rfl
  obtain ⟨written, later, ran, -⟩ := Work.exec_eq_ok_of_map done
  obtain ⟨template, settled, -, wrote⟩ := settings oddStart later written ran
  refine ⟨?_, written, later, template, settled.disk, ran, wrote⟩
  have alpha : ∀ c ∈ "a".toList, c.isAlpha = true := List.all_eq_true.mp rfl
  exact (form settingsTemplate placed tame legal (fun _ => "a") fun _ => alpha).mpr letters

end GameBundle.Mobile
