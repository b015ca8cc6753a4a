import GameBundle.Markup.Escape
import GameBundle.Package.Basic

/-!
# Mobile packages

A mobile package has settings in XML and a manifest. The settings name the game, list
its icons for each platform, and ask for the advertising plugin when the project has
an identifier for it.
-/

namespace GameBundle.Mobile

def androidIcons : List (String × String) := [
  ("36", "ldpi"), ("48", "mdpi"), ("72", "hdpi"), ("96", "xhdpi"), ("144", "xxhdpi"),
  ("192", "xxxhdpi")]

/-- Sizes of iOS icons. -/
def iosIcons : List String := [
  "180", "60", "120", "76", "152", "40", "80", "57", "114", "72", "144", "167", "29", "58", "50",
  "100"]

def iconName (size : String) : String := "icon-" ++ size

def iconPath? (source : PackageSource) (platform size : String) : Option String :=
  let file := source.project.assetFile platform (iconName size)
  if file = "" then none else some (source.profile.webRoot ++ "/" ++ file)

def androidElement (path density : String) : String :=
  "<icon src=\"" ++ path ++ "\" density=\"" ++ density ++ "\" />\n"

def iosElement (path size : String) : String :=
  "<icon src=\"" ++ path ++ "\" width=\"" ++ size ++ "\" height=\"" ++ size ++ "\" />\n"

def androidElements (source : PackageSource) : String :=
  String.join (androidIcons.filterMap fun (size, density) =>
    (iconPath? source "android" size).map fun path => androidElement path density)

def iosElements (source : PackageSource) : String :=
  String.join (iosIcons.filterMap fun size =>
    (iconPath? source "ios" size).map fun path => iosElement path size)

open Template (placeholder)

/-- The element of the advertising plugin; without an identifier there is none. -/
def advertising (identifier : String) : String :=
  if identifier = "" then ""
  else
    Template.fill
      ("<plugin name=\"cordova-plugin-admob-free\" spec=\"~0.21.0\">\n" ++
        "\t\t<variable name=\"ADMOB_APP_ID\" value=\"" ++ placeholder "ADMOB_APP_ID" ++ "\" />\n" ++
        "\t</plugin>")
      [(placeholder "ADMOB_APP_ID", Markup.escape identifier)]

/-- What the tokens of the settings stand for. Without the advertising plugin its token
stays in the settings, where it is a comment. -/
def substitutions (source : PackageSource) : List (String × String) :=
  let project := source.project
  let plugin := advertising project.adMobAppId
  [("KILN_PROJECTNAME", Markup.escape project.name),
    ("KILN_PACKAGENAME", Markup.escape project.packageName),
    ("KILN_ORIENTATION", project.orientation),
    ("KILN_PROJECTVERSION", project.version),
    ("<!-- KILN_ICONS_ANDROID -->", androidElements source),
    ("<!-- KILN_ICONS_IOS -->", iosElements source)] ++
  if plugin = "" then [] else [("<!-- KILN_ADMOB_PLUGIN_AND_APPLICATION_ID -->", plugin)]

variable {σ : Type} [Storage σ]

/-- What is reported about an icon that the project has but the bundle lacks. -/
def missingIcon? (source : PackageSource) (platform : String) (disk : σ) (size : String) :
    Option Diagnostic :=
  match iconPath? source platform size with
  | some path =>
    if Storage.isFile (source.directory / path) disk then none
    else
      some (.warning .missingIconFile
        (platform ++ " icon " ++ Json.quoteName (iconName size) ++ " not found in export")
        (some path))
  | none => none

def missingIcons (source : PackageSource) (disk : σ) : List Diagnostic :=
  (androidIcons.map Prod.fst).filterMap (missingIcon? source "android" disk) ++
    iosIcons.filterMap (missingIcon? source "ios" disk)

def package (source : PackageSource) : Work σ (List Path) := do
  Work.report ⟨← Work.look (missingIcons source)⟩
  let template ← source.template "Cordova/config.xml"
  let settings ← source.write "config.xml" (Template.fill template (substitutions source))
  let manifest ← source.writeManifest "Cordova/package.json"
  return [settings, manifest]

end GameBundle.Mobile
