/-!
# Round robin

Members are kept in order and found by address. `RoundRobin.next` passes over members that are not
alive without removing them: it advances a cursor and takes the first live member from there on. The
cursor is a 64-bit word and wraps.
-/

namespace ReplicaPool

structure RoundRobin (α : Type) where
  /-- Addresses and members in the order of rotation. -/
  members : List (String × α) := []
  /-- The place of every address among the members. -/
  positions : List (String × Nat) := []
  cursor : UInt64 := 0
deriving Inhabited

namespace RoundRobin

variable {α : Type}

def empty : RoundRobin α := {}

def size (ring : RoundRobin α) : Nat :=
  ring.members.length

def isEmpty (ring : RoundRobin α) : Bool :=
  ring.members.isEmpty

def addrs (ring : RoundRobin α) : List String :=
  ring.members.map Prod.fst

def contains (ring : RoundRobin α) (addr : String) : Bool :=
  (ring.positions.lookup addr).isSome

/-- Adds a member at the end; its address must be new. -/
def add (ring : RoundRobin α) (addr : String) (member : α) : RoundRobin α :=
  { ring with
    members := ring.members ++ [(addr, member)]
    positions := (addr, ring.members.length) :: ring.positions }

/-- `add` with its condition asserted: it fails if the address is already there. -/
def add? (ring : RoundRobin α) (addr : String) (member : α) : Option (RoundRobin α) :=
  if ring.contains addr then none else some (ring.add addr member)

def find? (ring : RoundRobin α) (addr : String) : Option α := do
  let index ← ring.positions.lookup addr
  let (_, member) ← ring.members[index]?
  return member

def positionsOf (members : List (String × α)) : List (String × Nat) :=
  members.zipIdx.map fun ((addr, _), index) => (addr, index)

def remove? (ring : RoundRobin α) (addr : String) : Option (α × RoundRobin α) := do
  let index ← ring.positions.lookup addr
  let (_, member) ← ring.members[index]?
  let members := ring.members.eraseIdx index
  return (member, { ring with members, positions := positionsOf members })

def isAliveAt (alive : α → Bool) (ring : RoundRobin α) (index : Nat) : Bool :=
  match ring.members[index]? with
  | some (_, member) => alive member
  | none => false

/-- Picks the next live member. If members were passed over, the cursor moves to the one found. -/
def next (alive : α → Bool) (ring : RoundRobin α) : Option α × RoundRobin α :=
  let size := ring.members.length
  if size = 0 then (none, ring)
  else
    let cursor := ring.cursor + 1
    let place (offset : Nat) := (cursor.toNat % size + offset) % size
    match (List.range size).find? fun offset => ring.isAliveAt alive (place offset) with
    | none => (none, { ring with cursor })
    | some offset =>
        let moved := if offset = 0 then cursor else UInt64.ofNat (place offset)
        ((ring.members[place offset]?).map Prod.snd, { ring with cursor := moved })

def closeAll {σ ε : Type} (close : α → σ → Option ε × σ) (ring : RoundRobin α) (state : σ) :
    List ε × σ :=
  ring.members.foldl
    (fun (errors, state) (_, member) =>
      let (error, state) := close member state
      (errors ++ error.toList, state))
    ([], state)

end RoundRobin

end ReplicaPool
