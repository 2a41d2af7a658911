import Scaffold.CommandLine.Execution
import Scaffold.Console.Plain
import Scaffold.Schema.Snapshot
import Scaffold.Stub.Installed

/-!
# The program

Reads the files of the working directory, the environment and a snapshot of the database's catalog
(`catalog.json`, or the file that `TABLEGEN_CATALOG` names), executes the command line on them, and
then writes the files that changed. Nothing outside the working directory is seen or written, and no
inference server is reached.

This is the only module with effects. Everything else is a function of what is read here, so the
effects come before and after the execution and not during it: files are read as a tree and written
back from one, and messages are printed when the run is over.

So a run here differs in three ways from one on a live system. Links and devices are not seen. A
file that another program writes in the meantime is overwritten if the run wrote it too. And the
disk is asked only at the end: should it be full, the run does not notice.
-/

namespace Scaffold

/-- The text as a string. A lone surrogate, which no string holds, becomes U+FFFD; everything else
stays as it is. -/
def Text.toString (t : Text) : String :=
  String.ofList (t.map fun
    | .char c => c
    | .surrogate _ => '\ufffd')

/-- The address of a directory by its absolute path. -/
def addressOf (path : String) : Files.Address := (Files.Path.ofText path).segments

/-- The path of an address. -/
def pathOf (a : Files.Address) : String := Text.toString (Files.Path.toText ⟨.root, a⟩)

/-- The entries of a directory and of those in it, without what is neither file nor directory. -/
partial def readEntries (a : Files.Address) (entries : Array IO.FS.DirEntry) :
    IO (List (Files.Address × Files.Node)) := do
  let mut found := []
  for entry in entries do
    let here := a ++ [Text.ofString entry.fileName]
    match (← entry.path.symlinkMetadata).type with
    | .file =>
      let content ← IO.FS.readBinFile entry.path
      found := found ++ [(here, Files.Node.file content.toList)]
    | .dir =>
      let inner ← readEntries here (← entry.path.readDir)
      found := found ++ [(here, Files.Node.directory)] ++ inner
    | _ => pure ()
  return found

/-- The environment as far as it matters. -/
def readEnvironment : IO Environment := do
  let mut environment : Environment := []
  for name in Environment.names do
    match ← IO.getEnv name with
    | some value => environment := environment ++ [(Text.ofString name, Text.ofString value)]
    | none => pure ()
  return environment

/-- The catalog in a snapshot among the files. Without one the database cannot be opened. -/
def readCatalog (name : String) (tree : Files.Tree) : Schema.Catalog :=
  match Json.fieldsAt (Files.Path.ofText name) tree with
  | .ok (.ok fields) _ => Schema.Snapshot.catalog (.object fields)
  | .ok (.error error) _ => { closed := some ⟨.database, error.message⟩ }
  | .error failure _ => { closed := some ⟨.database, failure.message⟩ }

/-- The files that are new or have changed. -/
def changedFiles (before after : Files.Tree) : List (Files.Address × Utf8.Bytes) :=
  after.files.filter fun (a, content) => before.node? a ≠ some (.file content)

/-- Writes files, unless one of them lies outside the working directory. -/
def writeFiles (working : Files.Address) (files : List (Files.Address × Utf8.Bytes)) :
    IO Bool := do
  if files.all fun (a, _) => working.isPrefixOf a then
    for (a, content) in files do
      IO.FS.createDirAll (pathOf a.dropLast)
      IO.FS.writeBinFile (pathOf a) ⟨content.toArray⟩
    return true
  else return false

/-- The code with which the program ends. -/
def codeOf : CommandLine.Ending → UInt32
  | .code code => code.toUInt32
  | .crash _ => 1

end Scaffold

open Scaffold in
/-- Executes the command line on the working directory. -/
def main (arguments : List String) : IO UInt32 := do
  let directory ← IO.currentDir
  let working := addressOf directory.toString
  let entries ← readEntries working (← directory.readDir)
  let stubs : Files.Address := [Text.ofString "bundled stubs"]
  let tree : Files.Tree := { workingDirectory := working, entries }
  let tree := Stub.install (tree.withDirectories [] working) stubs
  let snapshot := (← IO.getEnv "TABLEGEN_CATALOG").getD "catalog.json"
  let around : CommandLine.Surroundings :=
    { environment := ← readEnvironment
      catalog := readCatalog snapshot tree
      network := .unreachable
      clock := fun _ => 0.0
      bundledStubs := ⟨.root, stubs⟩ }
  let (ending, session) := CommandLine.execute (arguments.map Text.ofString) around tree
  for message in session.messages do
    for line in message.plain do
      IO.println line.toString
  match ending with
  | .crash fault => IO.eprintln (Text.toString fault.message)
  | .code _ => pure ()
  if ← writeFiles working (changedFiles tree session.tree) then return codeOf ending
  else
    IO.eprintln "Nothing was written: a file would lie outside the working directory."
    return 2
