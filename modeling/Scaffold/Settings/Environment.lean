import Scaffold.Files.Access
import Scaffold.Settings.Document
import Scaffold.Text.Quoted

/-!
# Settings from outside

Settings come from the environment or from a file, and options of the command line override them. An
empty variable or option is as good as none. The options are taken as they are; only a file and the
environment are checked.

A flag in the environment is on for four words and off for everything else, so a misspelled word is
no error. The timeout must be a whole number in the digits of any script (`readWhole`), and what it
says is checked afterwards like a field of a document.

Errors that come before the settings exist are values: a file that cannot be read, a timeout that is
no number, complaints. The command line tells about them, and a run never sees them.

Saving makes the directory of the file and writes the document as artifacts are written, without
asking whether something is there (`Settings.save`).
-/

namespace Scaffold

open Files (Access Path)

/-! ## Whole numbers of any script -/

/-- What a text is as a whole number. -/
inductive WholeReading where
  | number (n : Int)
  | malformed
  | oversized (digits : Nat)

/-- The values of digits of any script, between which single underscores may stand. -/
def digitValues? : (afterDigit : Bool) → Text → Option (List Nat)
  | afterDigit, [] => if afterDigit then some [] else none
  | afterDigit, c :: rest =>
    match c.digitValue? with
    | some d => (digitValues? true rest).map (d :: ·)
    | none => if c = '_' ∧ afterDigit then digitValues? false rest else none

/-- Reads a whole number with blanks around it and perhaps a sign. -/
def readWhole (t : Text) : WholeReading :=
  let trimmed := Text.trimEnd Checked.isPadding (Text.trimStart Checked.isPadding t)
  let (negative, unsigned) := match trimmed with
    | .char '-' :: rest => (true, rest)
    | .char '+' :: rest => (false, rest)
    | rest => (false, rest)
  match digitValues? false unsigned with
  | none => .malformed
  | some digits =>
    if Checked.maxDigits < digits.length then .oversized digits.length
    else
      let n : Nat := digits.foldl (fun n d => 10 * n + d) 0
      .number (if negative then -(n : Int) else n)

/-! ## Errors -/

/-- Why there are no settings. -/
inductive SettingsError where
  /-- The timeout in the environment is no whole number. -/
  | malformedTimeout (value : Text)
  /-- The timeout in the environment has too many digits. -/
  | oversizedTimeout (digits : Nat)
  /-- Something does not fit. -/
  | invalid (complaints : List Complaint)
  /-- The settings file cannot be read. -/
  | unreadable (failure : Files.Failure)

/-- How many code points of a value an error shows. -/
def shownLength : Nat := 200

/-- The wording of an error. -/
def SettingsError.message : SettingsError → Text
  | malformedTimeout value =>
    Text.concat ["invalid literal for int() with base 10: ", value.quoted.take shownLength]
  | oversizedTimeout digits => (Json.Fault.oversizedNumber digits).message
  | invalid complaints => Complaint.messages complaints
  | unreadable failure => failure.message

/-! ## The environment -/

/-- The variables of the environment. -/
abbrev Environment := Ordered Text

namespace Environment

/-- The variables that hold settings. -/
def names : List String :=
  ["TABLEGEN_DATABASE_URL", "TABLEGEN_BASE_DIR", "TABLEGEN_ROUTES_FILE",
   "TABLEGEN_TEMPLATES_PATH", "TABLEGEN_FORCE_OVERWRITE", "TABLEGEN_DEBUG", "TABLEGEN_PROVIDER",
   "TABLEGEN_MODEL", "TABLEGEN_BASE_URL", "TABLEGEN_ENABLED", "TABLEGEN_TIMEOUT"]

/-- A variable that is not empty. -/
def get? (env : Environment) (name : Text) : Option Text :=
  match Ordered.get? env name with
  | some (c :: rest) => some (c :: rest)
  | _ => none

/-- The words that switch a flag on, in any case and with blanks around them. -/
def flagWords : List Text := ["1", "true", "yes", "on"]

/-- A flag that is not empty. -/
def flag? (env : Environment) (name : Text) : Option Bool :=
  (get? env name).map fun t => flagWords.elem (Text.lower (Text.trim t))

/-- The timeout that the environment gives. -/
def timeout? (env : Environment) : Except SettingsError (Option Int) :=
  match get? env "TABLEGEN_TIMEOUT" with
  | none => .ok none
  | some t =>
    match readWhole t with
    | .number n => .ok (some n)
    | .malformed => .error (.malformedTimeout t)
    | .oversized digits => .error (.oversizedTimeout digits)

/-- The fields of a document that the environment gives for the backend. -/
def backendFields (env : Environment) (timeout : Option Int) : List (Text × Json) :=
  let given (name : Text) : Option Json → List (Text × Json)
    | some v => [(name, v)]
    | none => []
  given "provider" ((get? env "TABLEGEN_PROVIDER").map .text)
    ++ given "model" ((get? env "TABLEGEN_MODEL").map .text)
    ++ given "url" ((get? env "TABLEGEN_BASE_URL").map .text)
    ++ given "timeout" (timeout.map .int)
    ++ given "enabled" ((flag? env "TABLEGEN_ENABLED").map .bool)

/-- The settings that the environment gives. -/
def settings (env : Environment) : Except SettingsError Settings := do
  let timeout ← timeout? env
  match BackendSettings.ofFields (backendFields env timeout) with
  | .complaints cs => throw (.invalid cs)
  | .value backend =>
    let start : Settings := {}
    return { start with
      backend := backend
      databaseUrl := get? env "TABLEGEN_DATABASE_URL"
      baseDirectory := ((get? env "TABLEGEN_BASE_DIR").map Path.ofText).getD start.baseDirectory
      routesFile := (get? env "TABLEGEN_ROUTES_FILE").getD start.routesFile
      stubDirectory := (get? env "TABLEGEN_TEMPLATES_PATH").map Path.ofText
      forceOverwrite := (flag? env "TABLEGEN_FORCE_OVERWRITE").getD start.forceOverwrite
      debug := (flag? env "TABLEGEN_DEBUG").getD start.debug }

end Environment

/-! ## Files -/

namespace Settings

/-- The settings in a file. -/
def load (p : Path) : Access (Except SettingsError Settings) := fun t =>
  match Files.readText p t with
  | .ok text t =>
    match ofDocument text with
    | .value s => .ok (.ok s) t
    | .complaints cs => .ok (.error (.invalid cs)) t
  | .error failure t => .ok (.error (.unreadable failure)) t

/-- Writes the settings to a file. -/
def save (s : Settings) (p : Path) : Access Unit := do
  Files.ensureDirectories p.parent
  Files.writeText p s.toDocument

end Settings

/-! ## Options -/

/-- The options of the command line. -/
structure Options where
  provider : Option Text := none
  model : Option Text := none
  baseUrl : Option Text := none
  databaseUrl : Option Text := none
  baseDirectory : Option Text := none
  routesFile : Option Text := none
  stubDirectory : Option Text := none
  structureFile : Option Text := none
  /-- The file of settings to start from, instead of the environment. -/
  settingsFile : Option Text := none
  force : Bool := false
  debug : Bool := false
  deriving Inhabited

namespace Options

/-- An option that is not empty. -/
def given : Option Text → Option Text
  | some (c :: rest) => some (c :: rest)
  | _ => none

/-- The settings with the options in place of what they override. -/
def override (o : Options) (s : Settings) : Settings :=
  { s with
    backend :=
      { s.backend with
        provider := (given o.provider).getD s.backend.provider
        model := (given o.model).getD s.backend.model
        url := (given o.baseUrl).getD s.backend.url }
    databaseUrl := (given o.databaseUrl).or s.databaseUrl
    baseDirectory := ((given o.baseDirectory).map Path.ofText).getD s.baseDirectory
    routesFile := (given o.routesFile).getD s.routesFile
    stubDirectory := ((given o.stubDirectory).map Path.ofText).or s.stubDirectory
    structureFile := ((given o.structureFile).map Path.ofText).or s.structureFile
    forceOverwrite := o.force || s.forceOverwrite
    debug := o.debug || s.debug }

/-- The settings to which options lead: those of the named file, or of the environment, with the
options in place. -/
def settings (o : Options) (env : Environment) : Access (Except SettingsError Settings) := do
  let start ← match given o.settingsFile with
    | some name => Settings.load (Path.ofText name)
    | none => pure env.settings
  return start.map o.override

end Options

end Scaffold
