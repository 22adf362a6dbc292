/-!
# Routing modes and roles

A request names the mode it is routed by; an instance is filed under the role it was last seen in.
-/

namespace ReplicaPool

/-- Which instances may answer a request, and which are asked first. -/
inductive Mode where
  | rw
  /-- A master, or a replica if there is no master. -/
  | preferRw
  /-- A replica, or a master if there is no replica. -/
  | preferRo
deriving DecidableEq, Repr, Inhabited

namespace Mode

def name : Mode → String
  | .rw => "rw"
  | .preferRw => "prefer_rw"
  | .preferRo => "prefer_ro"

def all : List Mode := [.rw, .preferRw, .preferRo]

/-- A text with its ASCII capitals made small. -/
def fold (text : String) : String :=
  text.map Char.toLower

/-- Reads a mode in any case; the underscore may be left out. -/
def ofText? (text : String) : Option Mode :=
  match fold text with
  | "rw" => some .rw
  | "prefer_rw" | "preferrw" => some .preferRw
  | "prefer_ro" | "preferro" => some .preferRo
  | _ => none

def unknownText (text : String) : String :=
  "unknown routing mode: " ++ fold text

def ofName? (name : String) : Option Mode :=
  all.find? (·.name == name)

end Mode

/-- Whether an instance takes writes. -/
inductive Role where
  | master
  | replica
deriving DecidableEq, Repr, Inhabited

namespace Role

def all : List Role := [.master, .replica]

/-- The word for a role in messages. -/
def name : Role → String
  | .master => "master"
  | .replica => "replica"

/-- The word for a role in status reports. -/
def label : Role → String
  | .master => "Master"
  | .replica => "Replica"

def ofReadOnly : Bool → Role
  | false => .master
  | true => .replica

end Role

end ReplicaPool
