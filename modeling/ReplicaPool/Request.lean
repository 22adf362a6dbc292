import ReplicaPool.Json.Basic

/-!
# Requests

The operations that an instance answers. Spaces and indexes may be referred to by name or by number,
so they are plain values.
-/

namespace ReplicaPool

inductive Iterator where
  | eq
  | req
  | all
  | lt
  | le
  | ge
  | gt
deriving DecidableEq, Repr, Inhabited

namespace Iterator

def name : Iterator → String
  | .eq => "Eq"
  | .req => "Req"
  | .all => "All"
  | .lt => "Lt"
  | .le => "Le"
  | .ge => "Ge"
  | .gt => "Gt"

def every : List Iterator := [.eq, .req, .all, .lt, .le, .ge, .gt]

def ofName? (name : String) : Option Iterator :=
  every.find? (·.name == name)

/-- Whether a row is selected whose primary key stands in the given order to the wanted key. -/
def admits : Iterator → Ordering → Bool
  | .eq, order | .req, order => order == .eq
  | .all, _ => true
  | .lt, order => order == .lt
  | .le, order => order != .gt
  | .ge, order => order != .lt
  | .gt, order => order == .gt

def descends : Iterator → Bool
  | .req | .lt | .le => true
  | _ => false

end Iterator

inductive Request where
  | ping
  | select (space index : Json) (offset limit : Nat) (iterator : Iterator) (key : Json)
  | insert (space tuple : Json)
  | replace (space tuple : Json)
  | delete (space index key : Json)
  | update (space index key operations : Json)
  | upsert (space tuple operations : Json)
  /-- A stored function whose results are each made an array. -/
  | call (function : String) (arguments : Json)
  /-- A stored function whose results come as they are. -/
  | call17 (function : String) (arguments : Json)
  | eval (expression : String) (arguments : Json)
deriving Inhabited

namespace Request

def name : Request → String
  | .ping => "ping"
  | .select .. => "select"
  | .insert .. => "insert"
  | .replace .. => "replace"
  | .delete .. => "delete"
  | .update .. => "update"
  | .upsert .. => "upsert"
  | .call .. => "call"
  | .call17 .. => "call17"
  | .eval .. => "eval"

def isWrite : Request → Bool
  | .insert .. | .replace .. | .delete .. | .update .. | .upsert .. => true
  | _ => false

end Request

/-- The function that reports on an instance, its read-only flag among others. -/
def introspection : String := "box.info"

namespace Request

def introspect : Request := .call17 introspection (.array [])

def isIntrospection : Request → Bool
  | .call17 function _ => function == introspection
  | _ => false

end Request

end ReplicaPool
