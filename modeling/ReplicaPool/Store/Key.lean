import ReplicaPool.Json.Text

/-!
# Keys and their order

Any JSON value may be a key. `compareKeys` orders numbers by the double nearest to them, strings by
their characters, and any other two values by their JSON texts.
-/

namespace ReplicaPool

def Json.rank? : Json → Option Int
  | .integer value => some (integerRank value)
  | .double value => some value.rank
  | _ => none

def compareKeys (a b : Json) : Ordering :=
  match a.rank?, b.rank? with
  | some x, some y => compare x y
  | _, _ =>
      match a, b with
      | .string x, .string y => compare x y
      | _, _ => compare a.text b.text

def primaryKey? : Json → Option Json
  | .array (key :: _) => some key
  | _ => none

/-- The part of a search key that counts: the first element of an array, nothing of null, and any
other value as it is. -/
def keyPart? : Json → Option Json
  | .array parts => parts.head?
  | .null => none
  | key => some key

def compareRows (a b : Json) : Ordering :=
  match primaryKey? a, primaryKey? b with
  | some x, some y => compareKeys x y
  | _, _ => .eq

/-- The name a space is kept under: a string as it is, any other value as its text. -/
def spaceName : Json → String
  | .string name => name
  | other => other.text

end ReplicaPool
