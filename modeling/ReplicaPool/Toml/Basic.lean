/-!
# TOML documents

The values of a TOML 1.0 document. Of doubles and points in time no setting uses the content, so only
their presence is kept. Tables remember how they came about, since that decides whether a later line
may still add to them.
-/

namespace ReplicaPool.Toml

inductive Origin where
  | header
  /-- A header below it needs it. -/
  | implied
  | dotted
  /-- It is written inline, and thereby complete. -/
  | inline
deriving DecidableEq, Repr, Inhabited

inductive Value where
  | string (text : String)
  | integer (value : Int)
  | double
  | boolean (value : Bool)
  | moment
  | array (elements : List Value)
  | table (origin : Origin) (entries : List (String × Value))
  /-- Tables under repeated headers, the latest first. -/
  | tables (latestFirst : List (List (String × Value)))
deriving Inhabited

abbrev Entries := List (String × Value)

/-- Puts a value under a name that is there, in its place, or else at the end. -/
def Entries.put (name : String) (value : Value) : Entries → Entries
  | [] => [(name, value)]
  | (other, present) :: rest =>
      if other = name then (name, value) :: rest else (other, present) :: Entries.put name value rest

def Entries.drop (name : String) (entries : Entries) : Entries :=
  entries.filter fun entry => entry.1 != name

end ReplicaPool.Toml
