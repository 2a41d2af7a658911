import Scaffold.Artifact.Layout
import Scaffold.Json.Writer
import Scaffold.Stub.Template

/-!
# Prompts

The prompt for one artifact: what to write and under which name, what the file must contain, the
conventions, and everything that is known about the table. A model that answers it is told nothing
else, so the prompt closes with the facts themselves, as JSON.

Names and types of columns stand in it as they are, without quotes, in the lines about schema and
relations. The lists of fillable, hidden and unique columns and the map of casts are JSON on a
single line, from which they can be read back (`Proofs.Prompt.Facts`).

The requirements differ by kind and are one list of lines for each (`requirements`); a custom
artifact is asked for one class and nothing more. A custom opening replaces the first line and
nothing else.

The namespaces that are handed to `build` are those of the siblings, by which a service names its
model and a controller its service, request and resource.
-/

namespace Scaffold.Prompt

open Schema (Column Relation Metadata)

/-- The form of the answer. -/
def outputContract : Text := Text.concat
  ["Output format (strict):\n",
   "- Return exactly one complete PHP file starting with `<?php`.\n",
   "- Wrap the file in a single fenced code block tagged php (```php ... ```).\n",
   "- Do NOT include any explanation, commentary or text outside the code block.\n"]

/-- The conventions that every file follows. -/
def conventions : Text := Text.concat
  ["- PSR-12 formatting, one class per file\n",
   "- Fully-qualified imports via `use` statements at the top of the file\n",
   "- Docblocks on the class and on public methods\n"]

/-- A column: its name, its type if it has one, and whether it may be empty. -/
def column (c : Column) : Text :=
  let parts : List Text := [c.name, c.declaredType, if c.nullable then "NULL" else "NOT NULL"]
  Text.join " " (parts.filter (!·.isEmpty))

/-- A relation. -/
def relation (r : Relation) : Text :=
  Text.concat [r.localColumn, " -> ", r.referencedTable, "(", r.referencedColumn, ")"]

/-- The relations, or the word that there are none. -/
def relations (rs : List Relation) : Text :=
  if rs.isEmpty then "none" else Text.join "; " (rs.map relation)

/-- The rules of each column. -/
def ruleHints (rules : Ordered (List Text)) : Text :=
  if rules.isEmpty then "- (no writable columns)"
  else Text.join "\n" (rules.map fun (name, tokens) =>
    Text.concat ["- `", name, "` => ", Text.join "|" tokens])

/-- A list of texts as JSON. -/
def textList (ts : List Text) : Text := (Json.ofTexts ts).line

/-- A map of texts as JSON. -/
def textMap (pairs : Ordered Text) : Text :=
  (Json.object (pairs.map fun (k, v) => (k, .text v))).line

/-- What an artifact is. -/
def description (a : Artifact) : Text :=
  match a.kind with
  | .model => "a Laravel Eloquent model class"
  | .request => "a Laravel FormRequest class"
  | .resource => "a Laravel API Resource class"
  | .service => "a service class"
  | .controller => "a Laravel API controller"
  | .custom => Text.concat ["the ", a.name, " class"]

/-- The opening of a prompt that is not given by the artifact. -/
def opening (a : Artifact) (classNamespace : Text) : Text :=
  Text.concat ["Generate ", description a, " named `", a.className, "` in namespace `",
    classNamespace, "`."]

/-- The names that belong to the artifact. A table that is not called what its class suggests is
pointed out. -/
def target (a : Artifact) (m : Metadata) (classNamespace : Text) : Text :=
  let conventional := Naming.tableOfClass m.className
  let remark : List Text :=
    if conventional = m.tableName then []
    else [Text.concat ["- Conventional table name: ", conventional,
      " (the real table name wins)"]]
  let names : List Text :=
    ["Target:",
     Text.concat ["- Class: ", a.className],
     Text.concat ["- Namespace: ", classNamespace],
     Text.concat ["- Model: ", m.className],
     Text.concat ["- Table: ", m.tableName]]
  Text.join "\n" (names ++ remark)

/-- What a model must contain. -/
def modelRequirements (m : Metadata) : List Text :=
  ["- Extend `Illuminate\\Database\\Eloquent\\Model`.",
   Text.concat ["- Set `protected $table = '", m.tableName, "';`."],
   Text.concat ["- Set `protected $fillable` to exactly ", textList m.fillable, "."],
   Text.concat ["- Set `protected $hidden` to exactly ", textList m.hidden, "."],
   Text.concat ["- Set `protected $casts` from ", textMap m.casts, " using Laravel cast types."],
   Text.concat ["- Add a `belongsTo` method for each relation: ", relations m.relations, "."]]

/-- What a request must contain. -/
def requestRequirements (m : Metadata) : List Text :=
  ["- Extend `Illuminate\\Foundation\\Http\\FormRequest`.",
   "- Implement `authorize()` returning `true`.",
   "- Implement `rules()` with one entry per writable column.",
   "- Use `nullable` for optional columns and `required` otherwise.",
   Text.concat ["- Unique columns use `Rule::unique('", m.tableName,
     "', '<column>')` ignoring the current route parameter `",
     Naming.routeParameter m.tableName, "`."],
   "Suggested rules:",
   ruleHints m.validationRules]

/-- What a resource must contain. -/
def resourceRequirements (m : Metadata) : List Text :=
  let hidden := Text.join ", " m.hidden
  ["- Extend `Illuminate\\Http\\Resources\\Json\\JsonResource`.",
   Text.concat ["- Implement `toArray($request)` mapping attributes explicitly; do NOT return ",
     "`parent::toArray($request)`."],
   Text.concat ["- Never expose hidden fields: ", if hidden.isEmpty then "none" else hidden, "."],
   Text.concat ["- Include relations (", relations m.relations,
     ") as nested resources loaded conditionally with `whenLoaded()`."]]

/-- The full name of a sibling class of the artifact. -/
def sibling (namespaces : Ordered Text) (name className : Text) : Text :=
  Text.concat [Stub.namespaceOr namespaces name "App", "\\", className]

/-- What a service must contain. -/
def serviceRequirements (namespaces : Ordered Text) (m : Metadata) : List Text :=
  [Text.concat ["- Use the Eloquent model `", sibling namespaces "model" m.className,
     "` for persistence."],
   Text.concat ["- Implement `paginate(array $opts = [])`, `find(int $id)`, ",
     "`create(array $data)`, `update(int $id, array $data)` and `delete(int $id)`."],
   "- Wrap `create` and `update` in database transactions.",
   "- Use `findOrFail` so missing records raise."]

/-- What a controller must contain. -/
def controllerRequirements (namespaces : Ordered Text) (m : Metadata) : List Text :=
  let service := m.className ++ "Service"
  let request := m.className ++ "Request"
  let resource := m.className ++ "Resource"
  [Text.concat ["- Inject `", service, "` (", sibling namespaces "service" service,
     ") through the constructor."],
   Text.concat ["- Methods: `index()`, `store(", request, " $request)`, `show($id)`, `update(",
     request, " $request, $id)`, `destroy($id)`."],
   Text.concat ["- Validate input with `", request, "` (",
     sibling namespaces "request" request, ")."],
   Text.concat ["- Return `", resource, "` (", sibling namespaces "resource" resource,
     ") for single records and collections."],
   "- Respond 201 on create and 204 on delete."]

/-- What the artifact must contain. -/
def requirements (namespaces : Ordered Text) (a : Artifact) (m : Metadata) : List Text :=
  match a.kind with
  | .model => modelRequirements m
  | .request => requestRequirements m
  | .resource => resourceRequirements m
  | .service => serviceRequirements namespaces m
  | .controller => controllerRequirements namespaces m
  | .custom => [Text.concat ["- Declare exactly one class named `", a.className, "`."]]

/-- Everything that is known about the table. -/
def facts (m : Metadata) : Text :=
  let unique : List Text :=
    if m.uniqueFields.isEmpty then [] else [Text.concat ["Unique: ", textList m.uniqueFields]]
  let known : List Text :=
    ["Schema:",
     Text.join "; " (m.columns.map column),
     "",
     Text.concat ["Relations: ", relations m.relations],
     Text.concat ["Fillable: ", textList m.fillable],
     Text.concat ["Hidden: ", textList m.hidden],
     Text.concat ["Casts: ", textMap m.casts]]
  Text.join "\n" (known ++ unique)

/-- The opening of the prompt: that of a custom artifact, if it brings one. -/
def introduction (a : Artifact) (classNamespace : Text) : Text :=
  match a.kind, a.prompt with
  | .custom, some (c :: rest) => Text.trim (c :: rest)
  | _, _ => opening a classNamespace

/-- The prompt for an artifact of a table. The given namespaces hold those of the siblings. -/
def build (namespaces : Ordered Text) (a : Artifact) (m : Metadata) : Text :=
  let classNamespace := Stub.declaredNamespace namespaces a ""
  Text.join "\n"
    [introduction a classNamespace,
     "",
     target a m classNamespace,
     "",
     "Requirements:",
     Text.join "\n" (requirements namespaces a m),
     "",
     "Conventions:",
     conventions,
     facts m,
     "",
     outputContract]

end Scaffold.Prompt
