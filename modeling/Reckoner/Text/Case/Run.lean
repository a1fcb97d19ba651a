/-!
# Runs of a letter mapping

Letter mappings of Unicode come in runs: evenly spaced code points that all move by one distance.
-/

set_option autoImplicit false

namespace Reckoner.Text

/-- The code points `first, first + step, …, last`, sent in order to `target, target + step, …`. -/
structure CaseRun where
  first : Nat
  last : Nat
  step : Nat
  target : Nat

/-- The image of a code point, if the run holds it. -/
def CaseRun.image? (run : CaseRun) (n : Nat) : Option Nat :=
  if run.first ≤ n ∧ n ≤ run.last ∧ (n - run.first) % run.step = 0 then
    some (run.target + (n - run.first))
  else
    none

/-- A letter under a mapping given by its runs and by the letters with longer images. A letter
that neither mentions stays as it is. -/
def mapLetter (runs : List CaseRun) (sequences : List (Nat × List Nat)) (c : Char) : List Char :=
  match sequences.lookup c.toNat with
  | some image => image.map Char.ofNat
  | none =>
    match runs.findSome? (·.image? c.toNat) with
    | some n => [Char.ofNat n]
    | none => [c]

end Reckoner.Text
