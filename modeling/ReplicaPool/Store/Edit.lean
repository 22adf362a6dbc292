import ReplicaPool.Store.Basic
import ReplicaPool.Store.Update

/-!
# Commands to a store

A store is edited in place. Nothing is taken back when an edit fails, by an error or by a crash: the store
stays as the edit has left it.
-/

namespace ReplicaPool

namespace Store

/-- An edit of a store. If it fails, it does so with the store as it is then. -/
abbrev Edit (α : Type) :=
  EStateM (Failure Rejection) Store α

namespace Edit

def primaryKey (tuple : Json) : Edit Json :=
  match primaryKey? tuple with
  | some key => return key
  | none => throw (.error .notATuple)

def append (name : String) (tuple : Json) : Edit Unit :=
  modify fun store => store.setRows name (store.rows name ++ [tuple])

def overwrite (name : String) (index : Nat) (tuple : Json) : Edit Unit :=
  modify fun store => store.setRows name ((store.rows name).set index tuple)

def insert (space tuple : Json) : Edit Json := do
  let name := spaceName space
  let key ← primaryKey tuple
  match (← get).position? name key with
  | some _ => throw (.error (.duplicateKey name))
  | none =>
      append name tuple
      return tuple

def replace (space tuple : Json) : Edit Json := do
  let name := spaceName space
  let key ← primaryKey tuple
  match (← get).position? name key with
  | some index => overwrite name index tuple
  | none => append name tuple
  return tuple

def delete (space key : Json) : Edit (Option Json) := do
  let name := spaceName space
  match (← get).find? name key with
  | some (index, row) =>
      modify fun store => store.setRows name ((store.rows name).eraseIdx index)
      return some row
  | none => return none

/-- Applies operations to a copy of the row that a key finds, writes the copy back and returns it. -/
def update (space key operations : Json) : Edit (Option Json) := do
  let name := spaceName space
  match (← get).find? name key with
  | some (index, row) =>
      let changed ← MonadExcept.ofExcept (updateRow row operations)
      overwrite name index changed
      return some changed
  | none => return none

/-- Applies operations to the row that the tuple's first field, taken as a search key, finds; without
such a row the tuple is inserted. -/
def upsert (space tuple operations : Json) : Edit Unit := do
  let key ← primaryKey tuple
  match ← update space key operations with
  | some _ => return ()
  | none => discard (insert space tuple)

end Edit

inductive Command where
  | select (space key : Json) (offset limit : Nat) (iterator : Iterator)
  | insert (space tuple : Json)
  | replace (space tuple : Json)
  | delete (space key : Json)
  | update (space key operations : Json)
  | upsert (space tuple operations : Json)
deriving Inhabited

inductive Answer where
  | rows (rows : List Json)
  | row (row : Json)
  | found (row : Option Json)
  | done
deriving Inhabited

def Answer.data : Answer → List Json
  | .rows several => several
  | .row one => [one]
  | .found one => one.toList
  | .done => []

def Command.edit : Command → Edit Answer
  | .select space key offset limit iterator => do
      return .rows ((← get).select space key offset limit iterator)
  | .insert space tuple => Answer.row <$> Edit.insert space tuple
  | .replace space tuple => Answer.row <$> Edit.replace space tuple
  | .delete space key => Answer.found <$> Edit.delete space key
  | .update space key operations => Answer.found <$> Edit.update space key operations
  | .upsert space tuple operations => do
      Edit.upsert space tuple operations
      return .done

/-- Carries out a command and gives the store as it is then, also when the command has failed. -/
def perform (store : Store) (command : Command) : Store × Except (Failure Rejection) Answer :=
  match command.edit.run store with
  | .ok answer later => (later, .ok answer)
  | .error failure later => (later, .error failure)

end Store

end ReplicaPool
