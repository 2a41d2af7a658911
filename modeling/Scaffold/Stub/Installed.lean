import Scaffold.Files.Tree
import Scaffold.Stub.Bundled

/-!
# Bundled stubs as files

Stubs are read from a directory, and so are the bundled ones: `install` puts them into the tree of a
run, under the name of their file.
-/

namespace Scaffold.Stub

open Files (Address Tree)

/-- The content of a stub's file. -/
def contentOf (text : Text) : Utf8.Bytes :=
  match Utf8.encode text with
  | .ok bytes => bytes
  | .error _ => []

/-- The tree with the bundled stubs in a directory. -/
def install (t : Tree) (directory : Address) : Tree :=
  bundled.foldl (fun t (name, text) => t.place (directory ++ [name]) (contentOf text))
    (t.withDirectories [] directory)

end Scaffold.Stub
