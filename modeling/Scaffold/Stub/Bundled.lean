import Scaffold.Text.Basic

/-!
# Bundled stubs

The stubs that a run uses when the settings name no directory of stubs. A stub is the text of a file
in which names between double braces stand for what differs from table to table.

Each is given line by line as it stands in its file. They are part of the model because what they
hold matters: which tokens they use and in which places, so that what is filled in can be read back
from the text (`Proofs.Stub`).
-/

namespace Scaffold.Stub

/-- Lines, each ended by a line feed. -/
def lines (ls : List String) : Text := ls.flatMap fun l => Text.ofString l ++ Text.ofString "\n"

/-- The model: the table, what may be assigned, what is hidden, casts and relations. -/
def modelStub : Text := lines
  ["<?php",
   "",
   "namespace \x7b\x7bnamespace\x7d\x7d;",
   "",
   "use Illuminate\\Database\\Eloquent\\Model;",
   "",
   "/**",
   " * Eloquent model for the `\x7b\x7btable\x7d\x7d` table.",
   " */",
   "class \x7b\x7bArtifactClass\x7d\x7d extends Model",
   "\x7b",
   "    /**",
   "     * @var string",
   "     */",
   "    protected $table = '\x7b\x7btable\x7d\x7d';",
   "",
   "    /**",
   "     * @var array<int, string>",
   "     */",
   "    protected $fillable = [",
   "        \x7b\x7bfillable\x7d\x7d",
   "    ];",
   "",
   "    /**",
   "     * @var array<int, string>",
   "     */",
   "    protected $hidden = [",
   "        \x7b\x7bhidden\x7d\x7d",
   "    ];",
   "",
   "    /**",
   "     * @var array<string, string>",
   "     */",
   "    protected $casts = [",
   "        \x7b\x7bcasts\x7d\x7d",
   "    ];",
   "",
   "\x7b\x7brelationships_methods\x7d\x7d",
   "\x7d"]

/-- The request: the validation rules. -/
def requestStub : Text := lines
  ["<?php",
   "",
   "namespace \x7b\x7bnamespace\x7d\x7d;",
   "",
   "use Illuminate\\Foundation\\Http\\FormRequest;",
   "use Illuminate\\Validation\\Rule;",
   "",
   "/**",
   " * Validates create and update payloads for \x7b\x7bClassName\x7d\x7d.",
   " */",
   "class \x7b\x7bArtifactClass\x7d\x7d extends FormRequest",
   "\x7b",
   "    public function authorize()",
   "    \x7b",
   "        return true;",
   "    \x7d",
   "",
   "    /**",
   "     * @return array<string, mixed>",
   "     */",
   "    public function rules()",
   "    \x7b",
   "        return [",
   "\x7b\x7bvalidation_rules\x7d\x7d",
   "        ];",
   "    \x7d",
   "\x7d"]

/-- The resource: attributes and relations as they are shown. -/
def resourceStub : Text := lines
  ["<?php",
   "",
   "namespace \x7b\x7bnamespace\x7d\x7d;",
   "",
   "use Illuminate\\Http\\Resources\\Json\\JsonResource;",
   "\x7b\x7bresource_imports\x7d\x7d",
   "",
   "/**",
   " * API representation of \x7b\x7bClassName\x7d\x7d.",
   " */",
   "class \x7b\x7bArtifactClass\x7d\x7d extends JsonResource",
   "\x7b",
   "    /**",
   "     * @param  \\Illuminate\\Http\\Request  $request",
   "     * @return array<string, mixed>",
   "     */",
   "    public function toArray($request)",
   "    \x7b",
   "        return [",
   "            'id' => $this->id,",
   "            \x7b\x7bfillable_mappings\x7d\x7d",
   "            \x7b\x7brelationship_mappings\x7d\x7d",
   "        ];",
   "    \x7d",
   "\x7d"]

/-- The service: the operations on rows. -/
def serviceStub : Text := lines
  ["<?php",
   "",
   "namespace \x7b\x7bnamespace\x7d\x7d;",
   "",
   "use \x7b\x7bmodel_namespace\x7d\x7d\\\x7b\x7bClassName\x7d\x7d;",
   "use Illuminate\\Http\\UploadedFile;",
   "use Illuminate\\Support\\Facades\\DB;",
   "",
   "/**",
   " * Persistence operations for \x7b\x7bClassName\x7d\x7d.",
   " */",
   "class \x7b\x7bArtifactClass\x7d\x7d",
   "\x7b",
   "    /**",
   "     * Columns accepted as list filters.",
   "     */",
   "    protected array $filterable = \x7b\x7bfilterable_array\x7d\x7d;",
   "",
   "    /**",
   "     * Columns holding uploaded files.",
   "     */",
   "    protected array $fileColumns = \x7b\x7bfile_columns_array\x7d\x7d;",
   "",
   "    public function paginate(array $opts = [])",
   "    \x7b",
   "        $query = \x7b\x7bClassName\x7d\x7d::query();",
   "",
   "        foreach ($this->filterable as $column) \x7b",
   "            if (array_key_exists($column, $opts) && $opts[$column] !== null) \x7b",
   "                $query->where($column, $opts[$column]);",
   "            \x7d",
   "        \x7d",
   "",
   "        return $query->paginate($opts['per_page'] ?? 15);",
   "    \x7d",
   "",
   "    public function find(int $id)",
   "    \x7b",
   "        return \x7b\x7bClassName\x7d\x7d::findOrFail($id);",
   "    \x7d",
   "",
   "    public function create(array $data)",
   "    \x7b",
   "        return DB::transaction(function () use ($data) \x7b",
   "            return \x7b\x7bClassName\x7d\x7d::create($this->storeFiles($data));",
   "        \x7d);",
   "    \x7d",
   "",
   "    public function update(int $id, array $data)",
   "    \x7b",
   "        return DB::transaction(function () use ($id, $data) \x7b",
   "            $record = \x7b\x7bClassName\x7d\x7d::findOrFail($id);",
   "            $record->update($this->storeFiles($data));",
   "",
   "            return $record;",
   "        \x7d);",
   "    \x7d",
   "",
   "    public function delete(int $id)",
   "    \x7b",
   "        $record = \x7b\x7bClassName\x7d\x7d::findOrFail($id);",
   "",
   "        return $record->delete();",
   "    \x7d",
   "",
   "    protected function storeFiles(array $data): array",
   "    \x7b",
   "        foreach ($this->fileColumns as $column) \x7b",
   "            if (isset($data[$column]) && $data[$column] instanceof UploadedFile) \x7b",
   "                $data[$column] = $data[$column]->store('\x7b\x7btable\x7d\x7d');",
   "            \x7d",
   "        \x7d",
   "",
   "        return $data;",
   "    \x7d",
   "\x7d"]

/-- The controller: the end points. -/
def controllerStub : Text := lines
  ["<?php",
   "",
   "namespace \x7b\x7bnamespace\x7d\x7d;",
   "",
   "use App\\Http\\Controllers\\Controller;",
   "use \x7b\x7brequest_namespace\x7d\x7d\\\x7b\x7bClassName\x7d\x7dRequest;",
   "use \x7b\x7bresource_namespace\x7d\x7d\\\x7b\x7bClassName\x7d\x7dResource;",
   "use \x7b\x7bservice_namespace\x7d\x7d\\\x7b\x7bClassName\x7d\x7dService;",
   "use Illuminate\\Http\\Request;",
   "",
   "/**",
   " * REST endpoints for `\x7b\x7btable\x7d\x7d`.",
   " */",
   "class \x7b\x7bArtifactClass\x7d\x7d extends Controller",
   "\x7b",
   "    protected \x7b\x7bClassName\x7d\x7dService $service;",
   "",
   "    public function __construct(\x7b\x7bClassName\x7d\x7dService $service)",
   "    \x7b",
   "        $this->service = $service;",
   "    \x7d",
   "",
   "    public function index(Request $request)",
   "    \x7b",
   "        $filters = $request->only([",
   "            \x7b\x7bfilterable_list\x7d\x7d",
   "        ]);",
   "",
   "        return \x7b\x7bClassName\x7d\x7dResource::collection(",
   "            $this->service->paginate($filters + $request->only(['per_page']))",
   "        );",
   "    \x7d",
   "",
   "    public function store(\x7b\x7bClassName\x7d\x7dRequest $request)",
   "    \x7b",
   "        $record = $this->service->create($request->validated());",
   "",
   "        return (new \x7b\x7bClassName\x7d\x7dResource($record))",
   "            ->response()",
   "            ->setStatusCode(201);",
   "    \x7d",
   "",
   "    public function show($\x7b\x7broute_param\x7d\x7d)",
   "    \x7b",
   "        return new \x7b\x7bClassName\x7d\x7dResource($this->service->find((int) $\x7b\x7broute_param\x7d\x7d));",
   "    \x7d",
   "",
   "    public function update(\x7b\x7bClassName\x7d\x7dRequest $request, $\x7b\x7broute_param\x7d\x7d)",
   "    \x7b",
   "        $record = $this->service->update((int) $\x7b\x7broute_param\x7d\x7d, $request->validated());",
   "",
   "        return new \x7b\x7bClassName\x7d\x7dResource($record);",
   "    \x7d",
   "",
   "    public function destroy($\x7b\x7broute_param\x7d\x7d)",
   "    \x7b",
   "        $this->service->delete((int) $\x7b\x7broute_param\x7d\x7d);",
   "",
   "        return response()->noContent();",
   "    \x7d",
   "\x7d"]

/-- The bundled stubs by file name. -/
def bundled : List (Text × Text) :=
  [("controller.stub", controllerStub),
   ("model.stub", modelStub),
   ("request.stub", requestStub),
   ("resource.stub", resourceStub),
   ("service.stub", serviceStub)]

end Scaffold.Stub
