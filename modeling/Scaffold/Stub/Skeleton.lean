import Scaffold.Artifact.Basic
import Scaffold.Stub.Bundled

/-!
# Skeletons

The least that declares the class of an artifact. A skeleton stands in for a stub that is missing or
does not declare the class.

Skeletons are filled like stubs, with the same tokens. They are texts of the program and not files,
so that there is always something to generate. A custom kind has one of its own, which declares a
class without members.
-/

namespace Scaffold.Stub

/-- The least model. -/
def modelSkeleton : Text := lines
  ["<?php",
   "",
   "namespace \x7b\x7bnamespace\x7d\x7d;",
   "",
   "use Illuminate\\Database\\Eloquent\\Model;",
   "",
   "class \x7b\x7bArtifactClass\x7d\x7d extends Model",
   "\x7b",
   "    protected $table = '\x7b\x7btable\x7d\x7d';",
   "",
   "    protected $fillable = \x7b\x7bfilterable_array\x7d\x7d;",
   "\x7d"]

/-- The least request. -/
def requestSkeleton : Text := lines
  ["<?php",
   "",
   "namespace \x7b\x7bnamespace\x7d\x7d;",
   "",
   "use Illuminate\\Foundation\\Http\\FormRequest;",
   "use Illuminate\\Validation\\Rule;",
   "",
   "class \x7b\x7bArtifactClass\x7d\x7d extends FormRequest",
   "\x7b",
   "    public function authorize()",
   "    \x7b",
   "        return true;",
   "    \x7d",
   "",
   "    public function rules()",
   "    \x7b",
   "        return [",
   "\x7b\x7bvalidation_rules\x7d\x7d",
   "        ];",
   "    \x7d",
   "\x7d"]

/-- The least resource. -/
def resourceSkeleton : Text := lines
  ["<?php",
   "",
   "namespace \x7b\x7bnamespace\x7d\x7d;",
   "",
   "use Illuminate\\Http\\Resources\\Json\\JsonResource;",
   "",
   "class \x7b\x7bArtifactClass\x7d\x7d extends JsonResource",
   "\x7b",
   "    public function toArray($request)",
   "    \x7b",
   "        return [",
   "            'id' => $this->id,",
   "            \x7b\x7bfillable_mappings\x7d\x7d",
   "        ];",
   "    \x7d",
   "\x7d"]

/-- The least service. -/
def serviceSkeleton : Text := lines
  ["<?php",
   "",
   "namespace \x7b\x7bnamespace\x7d\x7d;",
   "",
   "use \x7b\x7bmodel_namespace\x7d\x7d\\\x7b\x7bClassName\x7d\x7d;",
   "",
   "class \x7b\x7bArtifactClass\x7d\x7d",
   "\x7b",
   "    public function find(int $id)",
   "    \x7b",
   "        return \x7b\x7bClassName\x7d\x7d::findOrFail($id);",
   "    \x7d",
   "\x7d"]

/-- The least controller. -/
def controllerSkeleton : Text := lines
  ["<?php",
   "",
   "namespace \x7b\x7bnamespace\x7d\x7d;",
   "",
   "use App\\Http\\Controllers\\Controller;",
   "",
   "class \x7b\x7bArtifactClass\x7d\x7d extends Controller",
   "\x7b",
   "\x7d"]

/-- The least class of a custom kind. -/
def customSkeleton : Text := lines
  ["<?php",
   "",
   "namespace \x7b\x7bnamespace\x7d\x7d;",
   "",
   "use \x7b\x7bmodel_namespace\x7d\x7d\\\x7b\x7bClassName\x7d\x7d;",
   "",
   "class \x7b\x7bArtifactClass\x7d\x7d",
   "\x7b",
   "\x7d"]

/-- The skeleton of a kind. -/
def skeleton : Kind → Text
  | .model => modelSkeleton
  | .request => requestSkeleton
  | .resource => resourceSkeleton
  | .service => serviceSkeleton
  | .controller => controllerSkeleton
  | .custom => customSkeleton

end Scaffold.Stub
