/-!
# Machine words

The ranges of the whole numbers that a word of a given width holds.
-/

namespace ReplicaPool

def wordCount (bits : Nat) : Nat :=
  1 <<< bits

def isUnsigned (bits : Nat) (value : Int) : Bool :=
  decide (0 ≤ value) && decide (value < (wordCount bits : Int))

def isSigned (bits : Nat) (value : Int) : Bool :=
  let half : Int := wordCount (bits - 1)
  decide (-half ≤ value) && decide (value < half)

end ReplicaPool
