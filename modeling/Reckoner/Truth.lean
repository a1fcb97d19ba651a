/-!
# Truth values as words
-/

set_option autoImplicit false

namespace Reckoner.Truth

/-- The word for a truth value. -/
def chars : Bool → List Char
  | true => ['t', 'r', 'u', 'e']
  | false => ['f', 'a', 'l', 's', 'e']

end Reckoner.Truth
