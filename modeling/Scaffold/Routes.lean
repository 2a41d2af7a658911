import Scaffold.Files.Access

/-!
# The routes file

All tables share one file of route declarations. A declaration is appended to it unless the file
holds it already, and nothing else in the file is touched, so that registering again does nothing.

A declaration is put into a form of its own first, without blanks around it and ended by one
semicolon (`normalize`). It is looked for in the text of the file, where every way to end a line
reads as a newline, but its own bytes are appended as they are. So a declaration with a carriage
return is never found again, and is appended every time.

It is looked for anywhere in the text and not line by line: one that stands inside another, or in a
comment, counts as registered.

The file is started with the opening tag if nothing stands at its path, before it is read.
-/

namespace Scaffold

open Files (Access Path)

namespace Route

/-- What a new routes file starts with. -/
def fileHeader : Text := "<?php\n\n"

/-- Whether a code point ends a declaration without being part of it. -/
def isTerminator (c : CodePoint) : Bool := c = ';'

/-- A declaration without blanks around it, ended by a semicolon in place of those at its end. -/
def normalize (declaration : Text) : Text :=
  Text.trimEnd CodePoint.isBlank (Text.trimEnd isTerminator (Text.trim declaration)) ++ [.char ';']

/-- Makes the routes file if it is missing. -/
def ensureFile (path : Path) : Access Unit := do
  if !(← Files.pathExists path) then
    Files.ensureDirectories path.parent
    Files.writeText path fileHeader

/-- Appends a declaration to the routes file, unless it stands there, and says whether it did. -/
def register (path : Path) (declaration : Text) : Access Bool := do
  let line := normalize declaration
  ensureFile path
  if Text.contains (← Files.readText path) line then return false
  Files.appendText path (Text.concat ["\n", line, "\n"])
  return true

end Route

end Scaffold
