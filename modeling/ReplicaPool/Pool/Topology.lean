import ReplicaPool.Cluster.Basic
import ReplicaPool.RoundRobin

/-!
# Topology

The managed addresses and the two subpools: `rw` holds the connections to masters and `ro` those to
replicas. `Topology.resolve` picks the connection a mode is routed to.
-/

namespace ReplicaPool

structure Topology where
  addrs : List String
  rw : RoundRobin ConnectionId := .empty
  ro : RoundRobin ConnectionId := .empty
deriving Inhabited

namespace Topology

def subpool (topology : Topology) : Role → RoundRobin ConnectionId
  | .master => topology.rw
  | .replica => topology.ro

def setSubpool (topology : Topology) (role : Role) (ring : RoundRobin ConnectionId) : Topology :=
  match role with
  | .master => { topology with rw := ring }
  | .replica => { topology with ro := ring }

def lookup? (topology : Topology) (addr : String) : Option (ConnectionId × Role) :=
  match topology.rw.find? addr with
  | some connection => some (connection, .master)
  | none => (topology.ro.find? addr).map (·, .replica)

def remove (topology : Topology) (addr : String) : Option (ConnectionId × Role) × Topology :=
  match topology.rw.remove? addr with
  | some (connection, rw) => (some (connection, .master), { topology with rw })
  | none =>
      match topology.ro.remove? addr with
      | some (connection, ro) => (some (connection, .replica), { topology with ro })
      | none => (none, topology)

def add (topology : Topology) (role : Role) (addr : String) (connection : ConnectionId) :
    Topology :=
  topology.setSubpool role ((topology.subpool role).add addr connection)

def add? (topology : Topology) (role : Role) (addr : String) (connection : ConnectionId) :
    Option Topology :=
  ((topology.subpool role).add? addr connection).map (topology.setSubpool role)

def connections (topology : Topology) : List ConnectionId :=
  (topology.rw.members ++ topology.ro.members).map Prod.snd

/-- The subpool that answers a mode. Members count whether they are alive or not. -/
def choose (topology : Topology) : Mode → Except PoolError Role
  | .rw => if topology.rw.isEmpty then .error .noRwInstance else .ok .master
  | .preferRw =>
      if !topology.rw.isEmpty then .ok .master
      else if !topology.ro.isEmpty then .ok .replica
      else .error .noHealthyInstance
  | .preferRo =>
      if !topology.ro.isEmpty then .ok .replica
      else if !topology.rw.isEmpty then .ok .master
      else .error .noHealthyInstance

def resolve (alive : ConnectionId → Bool) (topology : Topology) (mode : Mode) :
    Except PoolError ConnectionId × Topology :=
  match topology.choose mode with
  | .error cause => (.error cause, topology)
  | .ok role =>
      let (picked, ring) := (topology.subpool role).next alive
      let moved := topology.setSubpool role ring
      match picked with
      | some connection => (.ok connection, moved)
      | none => (.error (.noAliveInstance role), moved)

end Topology

end ReplicaPool
