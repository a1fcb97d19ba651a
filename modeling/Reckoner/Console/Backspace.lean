import Reckoner.Text.Cluster

/-!
# Backspaces in a typed line

A backspace takes back what was typed before it, one cluster at a time, and is not part of the
line itself. At the start of the line it does nothing.
-/

set_option autoImplicit false

namespace Reckoner.Backspace

/-- What is left of the clusters typed so far: the characters and the size of each cluster in
bytes, both last first. A size is counted in one byte and starts again after 255. -/
structure Typed where
  chars : List Char
  sizes : List UInt8

/-- Some characters, last first, without their last `count` bytes. -/
def dropBytes (count : Nat) : List Char → List Char
  | [] => []
  | c :: before => if count = 0 then c :: before else dropBytes (count - c.utf8Size) before

/-- The bytes that some characters take. -/
def byteCount : List Char → Nat
  | [] => 0
  | c :: more => c.utf8Size + byteCount more

namespace Typed

/-- Takes back as many bytes as the last cluster has. -/
def takeBack (typed : Typed) : Typed :=
  match typed.sizes with
  | [] => typed
  | size :: sizes => ⟨dropBytes size.toNat typed.chars, sizes⟩

/-- Types one more cluster. -/
def add (typed : Typed) (cluster : List Char) : Typed :=
  if cluster = ['\x08'] then typed.takeBack
  else ⟨cluster.reverse ++ typed.chars, (byteCount cluster).toUInt8 :: typed.sizes⟩

end Typed

/-- The line that is left once its backspaces have been obeyed. -/
def obey (line : String) : String :=
  String.ofList ((Text.clusters line.toList).foldl Typed.add ⟨[], []⟩).chars.reverse

end Reckoner.Backspace
