import ReplicaPool.Classify
import ReplicaPool.Pool.Basic

/-!
# Worlds

A world is a cluster, a clock in milliseconds, the scripts that make addresses slow or faulty, and the
pools that live on the cluster, each with its upkeep. A pool exists as long as its owner or its upkeep
holds it.
-/

namespace ReplicaPool

/-- How an address behaves beyond what its node does. -/
structure Script where
  /-- Time before a dial reaches the node. -/
  dialDelay : Nat := 0
  /-- Time before an introspection request is answered. -/
  infoDelay : Nat := 0
  /-- The answer to introspection in the place of the node's own. -/
  info : Option (List Json) := none
  /-- The server error that introspection fails with. -/
  infoFailure : Option (Nat × String) := none
  /-- The complaint that closing ends with. -/
  closeFailure : Option String := none
deriving Inhabited

inductive Purpose where
  /-- The address had a connection that is closed; without a new one it is evicted. -/
  | reopen
  /-- The address had none; nothing is lost. -/
  | enlist
deriving DecidableEq, Repr, Inhabited

inductive Goal where
  /-- To file a new connection. -/
  | file (addr : String) (purpose : Purpose)
  /-- To see whether a filed connection still has its role. -/
  | review (addr : String) (current : Role)
deriving DecidableEq, Repr, Inhabited

/-- One uninterrupted piece of upkeep. -/
inductive Job where
  /-- Nothing may happen before this time. -/
  | wait (due : Nat)
  /-- Look after the addresses one by one. -/
  | refresh (addrs : List String)
  | discover
  /-- Take the members from the answer to the discovery function. -/
  | learn (connection : ConnectionId) (script : Script)
  /-- Add the fresh addresses, drop the gone ones and adopt the members. -/
  | reconcile (fresh gone members : List String)
  /-- Begin to dial an address. -/
  | dial (addr : String) (purpose : Purpose)
  /-- Dial the node at an address. -/
  | reach (addr : String) (purpose : Purpose)
  /-- An address could not be reached. -/
  | fail (addr : String) (purpose : Purpose)
  /-- Begin to classify a connection. -/
  | probe (connection : ConnectionId) (goal : Goal)
  /-- Take the role from the instance's report. -/
  | classify (connection : ConnectionId) (goal : Goal) (script : Script)
  /-- The report did not come in time. -/
  | missed (connection : ConnectionId) (goal : Goal)
  | offer (addr : String) (connection : ConnectionId) (role : Role)
  | relocate (addr : String) (connection : ConnectionId) (role : Role)
  | close (connection : ConnectionId)
deriving Inhabited

structure Upkeep where
  running : Bool
  /-- What is still to do before the next event or tick is looked at. -/
  agenda : List Job := []
  /-- When all addresses are refreshed next. -/
  refreshDue : Nat
  /-- When the discovery function is called next. -/
  discoveryDue : Nat
deriving Inhabited

structure Service where
  pool : Pool
  upkeep : Upkeep
  /-- Whether its owner still has it. -/
  owned : Bool := true
deriving Inhabited

abbrev ServiceId := Nat

structure World where
  cluster : Cluster := {}
  scripts : List (String × Script) := []
  now : Nat := 0
  services : List Service := []
deriving Inhabited

namespace World

def script (world : World) (addr : String) : Script :=
  (world.scripts.lookup addr).getD {}

def isConnected (world : World) (connection : ConnectionId) : Bool :=
  world.cluster.isConnected connection

def dial (world : World) (addr : String) (queue : QueueId) :
    World × Except ConnectionError ConnectionId :=
  let (cluster, result) := world.cluster.dial addr queue
  ({ world with cluster }, result)

def execute (world : World) (connection : ConnectionId) (request : Request) :
    World × Except (Failure ConnectionError) (List Json) :=
  let (cluster, result) := world.cluster.execute connection request
  ({ world with cluster }, result)

/-- The script that applies to a request: only introspection is scripted. -/
def scriptFor (world : World) (connection : ConnectionId) (request : Request) : Script :=
  if request.isIntrospection then world.script (world.cluster.connectionAddr connection) else {}

def answer (world : World) (connection : ConnectionId) (request : Request) (script : Script) :
    World × Except (Failure ConnectionError) (List Json) :=
  match script.infoFailure, script.info with
  | some (code, reason), _ => (world, .error (.error (.server code reason)))
  | none, some rows => (world, .ok rows)
  | none, none => world.execute connection request

def close (world : World) (connection : ConnectionId) : World × Option ConnectionError :=
  let addr := world.cluster.connectionAddr connection
  ({ world with cluster := world.cluster.close connection },
    (world.script addr).closeFailure.map .client)

def closeAll (world : World) (ring : RoundRobin ConnectionId) :
    List ConnectionError × World :=
  ring.closeAll
    (fun connection (world : World) =>
      let (world, complaint) := world.close connection
      (complaint, world))
    world

def closeConnections (world : World) (topology : Topology) : List PoolError × World :=
  let (ofMasters, world) := world.closeAll topology.rw
  let (ofReplicas, world) := world.closeAll topology.ro
  ((ofMasters ++ ofReplicas).map .connection, world)

def modifyService (world : World) (service : ServiceId) (change : Service → Service) : World :=
  { world with services := world.services.modify service change }

def setPool (world : World) (service : ServiceId) (pool : Pool) : World :=
  world.modifyService service fun present => { present with pool }

/-- Lets go of the connections of a pool that nobody holds any more. -/
def reap (world : World) (service : ServiceId) : World :=
  match world.services[service]? with
  | some present =>
      if present.owned || present.upkeep.running then world
      else
        { world with
          cluster := world.cluster.release present.pool.topology.connections }
  | none => world

/-- The owner lets the pool go without closing it. -/
def disown (world : World) (service : ServiceId) : World :=
  (world.modifyService service fun present => { present with owned := false }).reap service

/-- Ends the upkeep of a pool; nobody reads its events any more. -/
def endUpkeep (world : World) (service : ServiceId) : World :=
  match world.services[service]? with
  | some present =>
      let upkeep := { present.upkeep with running := false, agenda := [] }
      let world := world.modifyService service fun present => { present with upkeep }
      { world with
        cluster := world.cluster.modifyQueue present.pool.queue EventQueue.dropReader }.reap service
  | none => world

def shutPool (world : World) (service : ServiceId) : World × Bool :=
  match world.services[service]? with
  | none => (world, false)
  | some present =>
      let (pool, wasOpen) := present.pool.shut
      (world.setPool service pool, wasOpen)

def closeMembers (world : World) (service : ServiceId) : List PoolError × World :=
  match world.services[service]? with
  | none => ([], world)
  | some present => world.closeConnections present.pool.topology

/-- Closes a pool. Only the first call does anything: it closes every connection and returns the
complaints. -/
def closePool (world : World) (service : ServiceId) : List PoolError × World :=
  let (world, wasOpen) := world.shutPool service
  if wasOpen then world.closeMembers service else ([], world)

def resolve (world : World) (service : ServiceId) (mode : Mode) :
    Except PoolError ConnectionId × World :=
  match world.services[service]? with
  | none => (.error .closed, world)
  | some present =>
      let (picked, pool) := present.pool.resolve world.isConnected mode
      (picked, world.setPool service pool)

end World

end ReplicaPool
