import Reckoner.Binary64.Nearest

/-!
# Values

A value is a 64-bit integer, a double, a text, a truth value or a list of values. Integers and
doubles are both numbers and compare with each other: two integers exactly, any other pair as
doubles. There are two equalities: `same` keeps the kinds apart, `equals` is that of the language.
-/

set_option autoImplicit false

namespace Reckoner

/-- The kind of a value. -/
inductive Kind where
  | int
  | float
  | text
  | bool
  | list
deriving DecidableEq

/-- The name of a kind in messages. -/
def Kind.name : Kind → String
  | .int => "int"
  | .float => "float"
  | .text => "text"
  | .bool => "bool"
  | .list => "list"

/-- What an expression evaluates to. -/
inductive Value where
  | int (n : Int64)
  | float (x : Float)
  | text (s : String)
  | bool (b : Bool)
  | list (items : List Value)

/-- An integer or a double. -/
inductive Number where
  | int (n : Int64)
  | float (x : Float)

namespace Number

/-- The number as a double, rounded if it is a large integer. -/
def toFloat : Number → Float
  | .int n => Binary64.ofInt n.toInt
  | .float x => x

/-- The number as a value. -/
def toValue : Number → Value
  | .int n => .int n
  | .float x => .float x

/-- The order of two numbers, absent when one of them is no number at all. -/
def compare? : Number → Number → Option Ordering
  | .int a, .int b => some (compare a.toInt b.toInt)
  | a, b => Binary64.compare? a.toFloat b.toFloat

/-- The number is zero, of either sign. -/
def isZero : Number → Bool
  | .int n => n.toInt == 0
  | .float x => Binary64.isZero x

end Number

namespace Value

/-- The kind of a value. -/
def kind : Value → Kind
  | .int _ => .int
  | .float _ => .float
  | .text _ => .text
  | .bool _ => .bool
  | .list _ => .list

/-- The value as a number, if it is one. -/
def number? : Value → Option Number
  | .int n => some (.int n)
  | .float x => some (.float x)
  | _ => none

mutual

/-- Equality of the language: numbers by their order, lists item by item. -/
def equals : Value → Value → Bool
  | .int a, .int b => Number.compare? (.int a) (.int b) == some .eq
  | .int a, .float b => Number.compare? (.int a) (.float b) == some .eq
  | .float a, .int b => Number.compare? (.float a) (.int b) == some .eq
  | .float a, .float b => Number.compare? (.float a) (.float b) == some .eq
  | .text a, .text b => a == b
  | .bool a, .bool b => a == b
  | .list as, .list bs => equalsAll as bs
  | _, _ => false

/-- Equality of two lists of values, item by item. -/
def equalsAll : List Value → List Value → Bool
  | [], [] => true
  | a :: as, b :: bs => equals a b && equalsAll as bs
  | _, _ => false

end

mutual

/-- Equality that keeps the kinds apart. The two zeros are the same double, and a double that is
no number is not the same as itself. -/
def same : Value → Value → Bool
  | .int a, .int b => a == b
  | .float a, .float b => Binary64.compare? a b == some .eq
  | .text a, .text b => a == b
  | .bool a, .bool b => a == b
  | .list as, .list bs => sameAll as bs
  | _, _ => false

/-- Two lists hold the same values, item by item. -/
def sameAll : List Value → List Value → Bool
  | [], [] => true
  | a :: as, b :: bs => same a b && sameAll as bs
  | _, _ => false

end

mutual

/-- Decides whether two values are identical. -/
def decEq (a b : Value) : Decidable (a = b) :=
  if hkind : a.kind = b.kind then
    match a, b, hkind with
    | .int m, .int n, _ => decidable_of_iff (m = n) ⟨congrArg int, int.inj⟩
    | .float x, .float y, _ => decidable_of_iff (x = y) ⟨congrArg float, float.inj⟩
    | .text s, .text t, _ => decidable_of_iff (s = t) ⟨congrArg text, text.inj⟩
    | .bool p, .bool q, _ => decidable_of_iff (p = q) ⟨congrArg bool, bool.inj⟩
    | .list as, .list bs, _ =>
      have := decEqAll as bs
      decidable_of_iff (as = bs) ⟨congrArg list, list.inj⟩
  else isFalse fun h => hkind (congrArg kind h)

/-- Decides whether two lists hold identical values, item by item. -/
def decEqAll : (as bs : List Value) → Decidable (as = bs)
  | [], [] => isTrue rfl
  | [], _ :: _ => isFalse nofun
  | _ :: _, [] => isFalse nofun
  | a :: as, b :: bs =>
    have := decEq a b
    have := decEqAll as bs
    decidable_of_iff (a = b ∧ as = bs) ⟨fun h => h.1 ▸ h.2 ▸ rfl, List.cons.inj⟩

end

instance : DecidableEq Value := decEq

end Value

end Reckoner
