import ReplicaPool.Error
import ReplicaPool.RoundRobin

/-!
# Turning a round robin by hand

An experiment with one rotation over dummy connections, whose liveness it sets itself.
-/

namespace ReplicaPool

/-- A connection that only counts how often it is closed. -/
structure Dummy where
  addr : String
  alive : Bool
  closeFailure : Option String
  closes : Nat := 0
deriving DecidableEq, Repr, Inhabited

structure RingSession where
  ring : RoundRobin Nat := .empty
  /-- All dummies ever added; a dummy's number is its place. -/
  dummies : List Dummy := []
  /-- The dummies added under an address, the latest first. -/
  added : List (String × Nat) := []
deriving Inhabited

inductive RingCommand where
  | add (addr : String) (dummy : Dummy)
  | delete (addr : String)
  | setAlive (addr : String) (alive : Bool)
  | get (addr : String)
  | next (times : Nat)
  | info
  | closeAll
deriving Inhabited

inductive RingReply where
  | addrs (addrs : List String)
  | deleted (removed : Option String) (left : List String)
  | flags (flags : List Bool)
  | got (addr : Option String) (contains : Bool)
  | picks (addrs : List (Option String))
  | info (size : Nat) (isEmpty : Bool) (addrs : List String) (alive closed : List Bool)
  | closed (errors : List ConnectionError) (closes : List (String × Nat))
deriving Inhabited

namespace RingSession

def inRing (session : RingSession) : List Dummy :=
  session.ring.members.filterMap fun (_, id) => session.dummies[id]?

def addrOf (session : RingSession) (id : Nat) : Option String :=
  (session.dummies[id]?).map Dummy.addr

def isAlive (session : RingSession) (id : Nat) : Bool :=
  ((session.dummies[id]?).map Dummy.alive).getD false

def closeDummy (id : Nat) (dummies : List Dummy) : Option ConnectionError × List Dummy :=
  let failure := (dummies[id]?).bind Dummy.closeFailure
  (failure.map .client,
    dummies.modify id fun dummy => { dummy with alive := false, closes := dummy.closes + 1 })

def picks (session : RingSession) : Nat → RingSession × List (Option String)
  | 0 => (session, [])
  | times + 1 =>
      let (picked, ring) := session.ring.next session.isAlive
      let addr := picked.bind session.addrOf
      let (session, rest) := { session with ring }.picks times
      (session, addr :: rest)

def closeCounts (session : RingSession) : List (String × Nat) :=
  let addrs := (session.added.map Prod.fst).eraseDups.mergeSort fun a b => decide (a ≤ b)
  addrs.filterMap fun addr => do
    let id ← session.added.lookup addr
    let dummy ← session.dummies[id]?
    return (addr, dummy.closes)

def perform (session : RingSession) : RingCommand → RingSession × RingReply
  | .add addr dummy =>
      let id := session.dummies.length
      let session :=
        { ring := session.ring.add addr id
          dummies := session.dummies ++ [dummy]
          added := (addr, id) :: session.added }
      (session, .addrs session.ring.addrs)
  | .delete addr =>
      match session.ring.remove? addr with
      | some (id, ring) => ({ session with ring }, .deleted (session.addrOf id) ring.addrs)
      | none => (session, .deleted none session.ring.addrs)
  | .setAlive addr alive =>
      let dummies :=
        match session.added.lookup addr with
        | some id => session.dummies.modify id fun dummy => { dummy with alive }
        | none => session.dummies
      let session := { session with dummies }
      (session, .flags (session.inRing.map Dummy.alive))
  | .get addr =>
      (session, .got ((session.ring.find? addr).bind session.addrOf) (session.ring.contains addr))
  | .next times =>
      let (session, addrs) := session.picks times
      (session, .picks addrs)
  | .info =>
      let members := session.inRing
      (session, .info session.ring.size session.ring.isEmpty session.ring.addrs
        (members.map Dummy.alive) (members.map fun dummy => decide (0 < dummy.closes)))
  | .closeAll =>
      let (errors, dummies) := session.ring.closeAll closeDummy session.dummies
      let session := { session with dummies }
      (session, .closed errors session.closeCounts)

end RingSession

end ReplicaPool
