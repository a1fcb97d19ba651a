import Reckoner.Decimal.Basic

/-!
# Written forms of decimals

The positional form spells out every place; the scientific form has one digit before the point
and a signed exponent. A positional form may be asked to show a fraction even where it is zero.
-/

set_option autoImplicit false

namespace Reckoner.Decimal

/-- Digits with a point before the last `places` of them, and zeros in front where they are too
few. -/
def pointed (digits : List Char) (places : Nat) : List Char :=
  if places < digits.length then
    digits.take (digits.length - places) ++ '.' :: digits.drop (digits.length - places)
  else
    ['0', '.'] ++ List.replicate (places - digits.length) '0' ++ digits

/-- Every place written out, without a point when the exponent is not negative. -/
def positional (d : Decimal) : List Char :=
  match d.exponent with
  | .ofNat zeros => d.digits ++ List.replicate zeros '0'
  | .negSucc k => pointed d.digits (k + 1)

/-- Every place written out, with `.0` for an absent fraction. -/
def positionalWithFraction (d : Decimal) : List Char :=
  match d.exponent with
  | .ofNat zeros => d.digits ++ List.replicate zeros '0' ++ ['.', '0']
  | .negSucc k => pointed d.digits (k + 1)

/-- One digit, the others after a point, and the exponent with its sign. -/
def scientific (d : Decimal) : List Char :=
  let mantissa :=
    match d.digits with
    | first :: second :: more => first :: '.' :: second :: more
    | short => short
  let sign := if d.leading < 0 then '-' else '+'
  mantissa ++ 'e' :: sign :: Nat.toDigits 10 d.leading.natAbs

end Reckoner.Decimal
