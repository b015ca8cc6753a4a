import GameBundle.Package.Desktop
import GameBundle.Package.InstantGames
import GameBundle.Package.Mobile
import GameBundle.Package.Native

/-!
# The package of a target
-/

namespace GameBundle

/-- Writes the files that wrap a bundle for its target and returns their paths. -/
def PackageSource.package {σ : Type} [Storage σ] (source : PackageSource) : Work σ (List Path) :=
  match source.profile.target with
  | .preview => return []
  | .html5 => return []
  | .facebookInstantGames => InstantGames.package source
  | .electron => Desktop.package source
  | .cordova => Mobile.package source
  | .cocos2d => Native.package source

end GameBundle
