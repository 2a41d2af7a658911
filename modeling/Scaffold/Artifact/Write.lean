import Scaffold.Artifact.Basic
import Scaffold.Files.Access

/-!
# Writing artifacts

An artifact is written only where nothing stands yet, unless existing files are to be replaced, so
that writing again does nothing.

The question whether something stands at the target is asked first, then the directories are made,
then the file is opened, which empties it, and only then is the text encoded and written. The order
matters in two places. A path that leads nowhere for want of a directory may lead to an old file
once the directory is made (`Files.Detours`). And a text that has no encoding, or for which there is
no room, is noticed when the file is already empty (`Proofs.Files.Failures`).

Nothing is undone when a step fails.
-/

namespace Scaffold

open Files (Access Path)

namespace Artifact

/-- Writes a file and says whether it did: something that stands there is left alone unless
`force` is given. -/
def write (target : Path) (content : Text) (force : Bool) : Access Bool := do
  if (← Files.pathExists target) && !force then return false
  Files.ensureDirectories target.parent
  Files.writeText target content
  return true

end Artifact

end Scaffold
