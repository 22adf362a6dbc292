import ReplicaPool.Request
import ReplicaPool.Store.Key

/-!
# The store of an instance

A store holds rows in named spaces, in the order in which they came. A row is a non-empty array whose
first field is its primary key.
-/

namespace ReplicaPool

structure Store where
  spaces : List (String × List Json) := []
deriving Inhabited

namespace Store

def empty : Store := {}

def rows (store : Store) (name : String) : List Json :=
  (store.spaces.lookup name).getD []

def replaceSpace (name : String) (rows : List Json) :
    List (String × List Json) → List (String × List Json)
  | [] => [(name, rows)]
  | (other, present) :: rest =>
      if name = other then (name, rows) :: rest else (other, present) :: replaceSpace name rows rest

def setRows (store : Store) (name : String) (rows : List Json) : Store :=
  { spaces := replaceSpace name rows store.spaces }

def hasKey (key row : Json) : Bool :=
  match primaryKey? row with
  | some present => compareKeys present key == .eq
  | none => false

def position? (store : Store) (name : String) (key : Json) : Option Nat :=
  (store.rows name).findIdx? (hasKey key)

def isSelected (iterator : Iterator) (part row : Json) : Bool :=
  match primaryKey? row with
  | some present => iterator.admits (compareKeys present part)
  | none => false

/-- The rows that stand in the iterator's relation to the key, by primary key, from `offset` on and
at most `limit` of them. -/
def select (store : Store) (space key : Json) (offset limit : Nat) (iterator : Iterator) :
    List Json :=
  let rows := store.rows (spaceName space)
  let found :=
    match keyPart? key with
    | some part => rows.filter (isSelected iterator part)
    | none => rows
  let ascending := found.mergeSort fun a b => compareRows a b != .gt
  let directed := if iterator.descends then ascending.reverse else ascending
  (directed.drop offset).take limit

def find? (store : Store) (name : String) (key : Json) : Option (Nat × Json) := do
  let part ← keyPart? key
  let index ← store.position? name part
  let row ← (store.rows name)[index]?
  return (index, row)

end Store

end ReplicaPool
