import Scaffold.CommandLine.Arguments
import Scaffold.Run.Batch

/-!
# Executing the command line

From arguments, environment and files follow the settings of a run, and from the run follows with
which code the program ends: 0 if every table was generated or help was asked for, 1 if a table
could not be generated, and 2 if the run could not take place.

Of the faults of a run only three are told to the user with a code of their own (`faultText?`): no
database, a structure file that cannot be used, and a database that cannot be opened or read. All
others end the program where they arise (`Ending.crash`), and so does a last line that the console
refuses (`endWith`).

The database is opened after the settings are complete and before anything is printed. What the
program finds around it is one structure (`Surroundings`), so that an execution is a function of
arguments, surroundings and files.
-/

namespace Scaffold.CommandLine

open Files (Path)
open Inference (Network)
open Run (Fault Generator Report Session Step)

/-- What the program finds around it. -/
structure Surroundings where
  environment : Environment
  catalog : Schema.Catalog
  network : Network
  clock : (reading : Nat) → Float
  bundledStubs : Path
  console : Console := .lenient
  attributes : Pattern.Attributes := .none

/-- How the program ends. -/
inductive Ending where
  | code (code : Nat)
  /-- Something went wrong that no code is meant for. -/
  | crash (fault : Fault)

/-- The code of success. -/
def Ending.done : Ending := .code 0

/-- The code of an incomplete run. -/
def Ending.incomplete : Ending := .code 1

/-- The code of a run that could not take place. -/
def Ending.failed : Ending := .code 2

/-- The line about an error. -/
def errorLine (text : Text) : Message := .line ("[bold red]Error:[/bold red] " ++ text)

/-- The error that no database is given. -/
def noDatabaseText : Text :=
  "No database URL. Pass --database-url or set TABLEGEN_DATABASE_URL."

/-- The catalog that settings lead to, if the database can be opened. -/
def connect (s : Settings) (c : Schema.Catalog) : Except Fault Schema.Catalog :=
  match s.databaseUrl with
  | some (_ :: _) =>
    match c.closed with
    | some e => .error (.catalog e)
    | none => .ok c
  | _ => .error .noDatabase

/-- The generator for settings. -/
def generatorFor (s : Settings) (around : Surroundings) : Except Fault Generator := do
  return {
    settings := s
    backend := .ofSettings s.backend
    catalog := ← connect s around.catalog
    network := around.network
    clock := around.clock
    bundledStubs := around.bundledStubs
    console := around.console
    attributes := around.attributes }

/-- Generates tables with some settings. -/
def generateWith (s : Settings) (around : Surroundings) (tables : List Text) : Step Report := do
  let g ← Step.orFault id (generatorFor s around)
  Run.generate g tables none

/-- The error of a fault, if a user can do something about it. -/
def faultText? (databaseUrl : Text) : Fault → Option Text
  | .noDatabase => some Fault.noDatabase.message
  | .structureFile error => some error.message
  | .catalog error =>
    if error.isOfDatabase || error.kind = .missingDriver then
      some (Text.concat ["Cannot open database ", databaseUrl.quoted, ": ", error.message])
    else none
  | _ => none

/-- Ends with a last message, if the console shows it. -/
def endWith (console : Console) (ending : Ending) (m : Message) (session : Session) :
    Ending × Session :=
  match console.refusal? m with
  | none => (ending, { session with messages := session.messages ++ [m] })
  | some reason => (.crash (.console m reason), session)

/-- The end of a run. -/
def concludeRun (s : Settings) (console : Console) :
    EStateM.Result Fault Session Report → Ending × Session
  | .ok report session =>
    if report.succeeded then
      endWith console .done (.success "Generation completed successfully!") session
    else
      endWith console .incomplete (.failure "Generation failed for one or more tables.") session
  | .error fault session =>
    match faultText? (s.databaseUrl.getD []) fault with
    | some text => endWith console .failed (errorLine text) session
    | none => (.crash fault, session)

/-- Generates tables as options and surroundings say. -/
def generate (tables : List Text) (options : Options) (around : Surroundings)
    (tree : Files.Tree) : Ending × Session :=
  let fail (tree : Files.Tree) (text : Text) : Ending × Session :=
    endWith around.console .failed (errorLine text) { tree }
  let invalid (error : SettingsError) : Text := "Invalid configuration: " ++ error.message
  match options.settings around.environment tree with
  | .error failure tree => fail tree (invalid (.unreadable failure))
  | .ok (.error error) tree => fail tree (invalid error)
  | .ok (.ok s) tree =>
    match s.databaseUrl with
    | some (_ :: _) => concludeRun s around.console (generateWith s around tables { tree })
    | _ => fail tree noDatabaseText

/-- Executes the program. -/
def execute (arguments : List Text) (around : Surroundings) (tree : Files.Tree) :
    Ending × Session :=
  match Request.ofArguments arguments with
  | .help => (.done, { tree })
  | .misuse => (.failed, { tree })
  | .generate tables options => generate tables options around tree

end Scaffold.CommandLine
