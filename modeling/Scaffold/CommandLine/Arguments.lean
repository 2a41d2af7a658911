import Scaffold.Settings.Environment

/-!
# Arguments of the command line

The arguments name tables and set options. A long option may be shortened as far as it stays
unambiguous, and its value may follow an equals sign or be the next argument. After two dashes every
argument names a table. The tables must stand together; an option may come before or after them, but
not in between.

Arguments are first sorted into tokens, each by its text alone (`token?`), and then read from left
to right (`read`). The two passes are kept apart because an option that could be several is an error
wherever it stands, even after one that asks for help.

What looks like a negative number, or holds a space, is a word although it starts with a dash, since
no option looks like that.

An outcome is a request for help, a misuse, or tables with options. The text of the help and the
wording of misuses are left out, since both end the program with a code and touch nothing.
-/

namespace Scaffold.CommandLine

/-- What an option does. -/
inductive Effect where
  | help
  | switch (set : Options → Options)
  /-- Takes a value, if it is one of those accepted. -/
  | value (accepts : Text → Bool) (set : Text → Options → Options)

/-- Accepts any value. -/
def anything : Text → Bool := fun _ => true

/-- Accepts the providers there are. -/
def isProvider (t : Text) : Bool := BackendSettings.providers.elem t

/-- The long options. -/
def longOptions : List (Text × Effect) :=
  [("--help", .help),
   ("--force", .switch fun o => { o with force := true }),
   ("--provider", .value isProvider fun t o => { o with provider := some t }),
   ("--model", .value anything fun t o => { o with model := some t }),
   ("--base-url", .value anything fun t o => { o with baseUrl := some t }),
   ("--database-url", .value anything fun t o => { o with databaseUrl := some t }),
   ("--base-dir", .value anything fun t o => { o with baseDirectory := some t }),
   ("--routes-file", .value anything fun t o => { o with routesFile := some t }),
   ("--templates-path", .value anything fun t o => { o with stubDirectory := some t }),
   ("--structure-file", .value anything fun t o => { o with structureFile := some t }),
   ("--config", .value anything fun t o => { o with settingsFile := some t }),
   ("--debug", .switch fun o => { o with debug := true })]

/-- What an argument is by its text. -/
inductive Token where
  | word (text : Text)
  /-- An option, with the value attached to it. -/
  | option (effect : Effect) (attached : Option Text)
  /-- Short options one after another, of which the first asks for help. -/
  | shortHelp (others : Text)
  | unknown
  /-- The two dashes after which all arguments are words. -/
  | separator

/-- The digits at the start of a text are all of it, up to a line feed at its end. -/
def isDigits (t : Text) : Bool :=
  let digits := Text.dropFinalLineFeed t
  !digits.isEmpty && digits.all fun c => c.digitValue?.isSome

/-- Whether what follows a dash makes a negative number of it. -/
def isNumber (t : Text) : Bool :=
  isDigits t ||
    match Text.cutAt "." t with
    | some (whole, places) => (whole.all fun c => c.digitValue?.isSome) && isDigits places
    | none => false

/-- What an argument is that starts with a dash and is no option: negative numbers and arguments
with spaces are words. -/
def plainToken (argument : Text) : Token :=
  if isNumber (argument.drop 1) || argument.any (· = ' ') then .word argument else .unknown

/-- An argument before an equals sign, and the value after it. -/
def splitValue (argument : Text) : Text × Option Text :=
  match Text.cutAt "=" argument with
  | some (name, value) => (name, some value)
  | none => (argument, none)

/-- What an argument with two dashes is; nothing if it could be several options. -/
def longToken? (argument : Text) : Option Token :=
  let (name, value) := splitValue argument
  match longOptions.lookup name with
  | some effect => some (.option effect value)
  | none =>
    match longOptions.filter fun o => Text.startsWith o.1 name with
    | [(_, effect)] => some (.option effect value)
    | [] => some (plainToken argument)
    | _ => none

/-- What an argument is; nothing if it could be several options. -/
def token? (argument : Text) : Option Token :=
  match argument with
  | [] => some (.word [])
  | [c] => some (.word [c])
  | c :: d :: rest =>
    if c ≠ '-' then some (.word argument)
    else if d = '-' then longToken? argument
    else if d = 'h' then some (.shortHelp rest)
    else some (plainToken argument)

/-- The tokens of arguments; none if one of them could be several options. -/
def tokens? : List Text → Option (List Token)
  | [] => some []
  | argument :: rest =>
    if argument = "--" then some (.separator :: rest.map .word)
    else do return (← token? argument) :: (← tokens? rest)

/-- What the arguments ask for. -/
inductive Request where
  | help
  | misuse
  | generate (tables : List Text) (options : Options)

/-- What has been read from the arguments. -/
structure Reading where
  options : Options := {}
  tables : List Text := []
  /-- Words since the last option. -/
  words : List Text := []
  /-- Whether the two dashes came since the last option. -/
  separated : Bool := false
  /-- Whether something has no place. -/
  stray : Bool := false

namespace Reading

/-- The reading where an option or the end follows: the words before it are the tables, unless
there are tables already. -/
def close (r : Reading) : Reading :=
  let closed := { r with words := [], separated := false }
  if r.words.isEmpty then { closed with stray := r.stray || r.separated }
  else if r.tables.isEmpty then { closed with tables := r.words }
  else { closed with stray := true }

/-- What a complete reading asks for. -/
def finish (r : Reading) : Request :=
  if r.tables.isEmpty || r.stray then .misuse else .generate r.tables r.options

end Reading

/-- What short options after the one for help come to: help, unless a value is attached. -/
def helpOf (others : Text) : Request :=
  match others.dropWhile fun c : CodePoint => c = 'h' with
  | [] => .help
  | c :: _ => if c = '-' || c = '=' then .misuse else .help

/-- Reads tokens. -/
def read (r : Reading) : List Token → Request
  | [] => r.close.finish
  | .word t :: rest => read { r with words := r.words ++ [t] } rest
  | .separator :: rest => read { r with separated := true } rest
  | .unknown :: rest => read { r.close with stray := true } rest
  | .shortHelp others :: _ => helpOf others
  | .option .help none :: _ => .help
  | .option (.switch set) none :: rest =>
    let r := r.close
    read { r with options := set r.options } rest
  | .option (.value accepts set) (some v) :: rest =>
    let r := r.close
    if accepts v then read { r with options := set v r.options } rest else .misuse
  | .option (.value accepts set) none :: .word v :: rest =>
    let r := r.close
    if accepts v then read { r with options := set v r.options } rest else .misuse
  | .option .. :: _ => .misuse

/-- What arguments ask for. -/
def Request.ofArguments (arguments : List Text) : Request :=
  match tokens? arguments with
  | some tokens => read {} tokens
  | none => .misuse

end Scaffold.CommandLine
