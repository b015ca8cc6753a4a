import GameBundle.Dictionary
import GameBundle.Digest.Sha256
import GameBundle.Storage.Basic

/-!
# Fingerprints of scripts

A preview compares the fingerprints of the scripts it has loaded with those of the
scripts on disk. Scripts are found relative to the runtime directory; those that
cannot be read have no fingerprint.
-/

namespace GameBundle

variable {σ : Type} [Storage σ]

def runtimeDirectory (root : Path) : Path := root / "Runtime"

def scriptFingerprint? (digest : ByteArray → Nat) (runtime : Path) (disk : σ) (script : String) :
    Option (String × Nat) :=
  match Storage.read (runtime / script) disk with
  | .ok contents => some (script, digest contents)
  | .error _ => none

def scriptFingerprints (digest : ByteArray → Nat) (root : Path) (scripts : List String) (disk : σ) :
    Dictionary Nat :=
  .ofEntries (scripts.filterMap (scriptFingerprint? digest (runtimeDirectory root) disk))

end GameBundle
