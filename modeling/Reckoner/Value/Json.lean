import Reckoner.Json
import Reckoner.Value.Basic

/-!
# Values as JSON

Every kind of value has a JSON form of its own; a double that is not finite has none and becomes
`null` in writing.
-/

set_option autoImplicit false

namespace Reckoner.Value

mutual

/-- The JSON tree of a value. -/
def toJson : Value → Json
  | .int n => .int n
  | .float x => .float x
  | .text s => .string s
  | .bool b => .bool b
  | .list items => .array (toJsonAll items)

/-- The JSON trees of a list of values. -/
def toJsonAll : List Value → List Json
  | [] => []
  | item :: more => toJson item :: toJsonAll more

end

end Reckoner.Value
