import ReplicaPool.Number.Double
import ReplicaPool.Number.Word

/-!
# JSON values

Rows, keys, arguments and replies are JSON values. Whole numbers and doubles stay apart: `1` and
`1.0` are different values. The fields of an object are kept sorted by name.
-/

namespace ReplicaPool

inductive Json where
  | null
  | bool (value : Bool)
  | integer (value : Int)
  | double (value : Double)
  | string (text : String)
  | array (elements : List Json)
  | object (fields : List (String × Json))
deriving Inhabited

namespace Json

/-- Whether a whole number is kept exactly: it fits a 64-bit word, signed or unsigned. -/
def isExact (value : Int) : Bool :=
  isSigned 64 value || isUnsigned 64 value

def insertField (name : String) (value : Json) : List (String × Json) → List (String × Json)
  | [] => [(name, value)]
  | (other, present) :: rest =>
      if name < other then (name, value) :: (other, present) :: rest
      else if name = other then (name, value) :: rest
      else (other, present) :: insertField name value rest

/-- The object with the given fields, of which the last one of a name counts. -/
def ofFields (fields : List (String × Json)) : Json :=
  .object (fields.foldl (fun sorted (name, value) => insertField name value sorted) [])

def field? : Json → String → Option Json
  | .object fields, name => fields.lookup name
  | _, _ => none

def natural? : Json → Option Nat
  | .integer value => if 0 ≤ value then some value.toNat else none
  | _ => none

def signed64? : Json → Option Int
  | .integer value => if isSigned 64 value then some value else none
  | _ => none

def string? : Json → Option String
  | .string text => some text
  | _ => none

def array? : Json → Option (List Json)
  | .array elements => some elements
  | _ => none

def bool? : Json → Option Bool
  | .bool value => some value
  | _ => none

def ofNat (value : Nat) : Json := .integer value

def ofOption {α : Type} (encode : α → Json) : Option α → Json
  | some value => encode value
  | none => .null

end Json

end ReplicaPool
