import ReplicaPool.Session.Nodes
import ReplicaPool.World.Operation

/-!
# Working with a pool

An experiment with one pool at a time on a cluster. After every command the world settles, so that all
upkeep that is due has been done, unless the command is held.
-/

namespace ReplicaPool

structure PooledSession where
  world : World := {}
  /-- The pool that is open to commands. -/
  current : Option ServiceId := none
deriving Inhabited

structure AsyncOperation where
  operation : Operation
  shape : Option Shape := none
deriving Inhabited

inductive PooledCommand where
  | cluster (command : ClusterCommand)
  | script (addr : String) (script : Script)
  | sleep (duration : Nat)
  /-- Connects to the given addresses, or to all of the cluster. -/
  | connect (addrs : Option (List String)) (options : Option PoolOptions)
  | drop
  | status
  | addrs
  | isClosed
  | discoveryFunction
  | options
  | resolve (mode : Mode) (times : Nat)
  | connectedNow (mode : Mode)
  | configuredTimeout (mode : Mode)
  | close
  | request (operation : Operation)
  | requestTyped (operation : Operation) (shape : Shape)
  | requestAsync (operation : AsyncOperation)
  | join (operations : List AsyncOperation)
deriving Inhabited

inductive PooledReply where
  | noPool
  | done
  | cluster (reply : ClusterReply)
  | connected (outcome : Except PoolError (List (String × Standing)))
  | status (status : List (String × Standing))
  | addrs (addrs : List String)
  | flag (value : Bool)
  | name (value : Option String)
  | options (options : PoolOptions)
  | picks (picks : List (Except PoolError String))
  | flagged (outcome : Except PoolError Bool)
  | counted (outcome : Except PoolError Nat)
  | errors (errors : List PoolError)
  | rows (outcome : Except (Failure PoolError) (List Json))
  | value (outcome : Except (Failure PoolError) Json)
  | values (outcomes : List (Except PoolError Json))
deriving Inhabited

namespace PooledSession

def start (nodes : List (String × Bool)) : PooledSession :=
  let cluster := nodes.foldl (fun cluster (addr, readOnly) => cluster.addNode addr readOnly) {}
  { world := { cluster } }

def pool? (session : PooledSession) : Option (ServiceId × Pool) := do
  let service ← session.current
  let present ← session.world.services[service]?
  return (service, present.pool)

def status (session : PooledSession) (pool : Pool) : List (String × Standing) :=
  pool.status session.world.isConnected

def drop (session : PooledSession) : PooledSession :=
  match session.current with
  | some service => { world := session.world.disown service, current := none }
  | none => session

/-- Connects in the place of any earlier pool. -/
def connect (session : PooledSession) (addrs : Option (List String))
    (options : Option PoolOptions) : PooledSession × PooledReply :=
  let world := session.drop.world
  match world.connect (addrs.getD world.cluster.addrs) (options.getD {}) with
  | (world, .error cause) => ({ world, current := none }, .connected (.error cause))
  | (world, .ok service) =>
      let session : PooledSession := { world, current := some service }
      match session.pool? with
      | some (_, pool) => (session, .connected (.ok (session.status pool)))
      | none => (session, .noPool)

def picks (service : ServiceId) (mode : Mode) :
    Nat → World → World × List (Except PoolError String)
  | 0, world => (world, [])
  | times + 1, world =>
      let (picked, world) := world.resolve service mode
      let addr := picked.map world.cluster.connectionAddr
      let (world, rest) := picks service mode times world
      (world, addr :: rest)

def finish (outcome : Except PoolError (List Json)) (shape : Option Shape) :
    Except PoolError Json := do
  let rows ← outcome
  match shape with
  | some shape => (shape.decodeRows rows).mapError .decode
  | none => return .array rows

def onPool (session : PooledSession) (service : ServiceId) (pool : Pool) :
    PooledCommand → PooledSession × PooledReply
  | .status => (session, .status (session.status pool))
  | .addrs => (session, .addrs pool.topology.addrs)
  | .isClosed => (session, .flag pool.isClosed)
  | .discoveryFunction => (session, .name pool.options.discoveryFunction)
  | .options => (session, .options pool.options)
  | .resolve mode times =>
      let (world, picks) := picks service mode times session.world
      ({ session with world }, .picks picks)
  | .connectedNow mode =>
      let (world, outcome) := session.world.connectedNow service mode
      ({ session with world }, .flagged outcome)
  | .configuredTimeout mode =>
      let (world, outcome) := session.world.configuredTimeout service mode
      ({ session with world }, .counted outcome)
  | .close =>
      let (errors, world) := session.world.closePool service
      ({ session with world }, .errors errors)
  | .request operation =>
      let (world, outcome) := session.world.request service operation
      ({ session with world }, .rows outcome)
  | .requestTyped operation shape =>
      let (world, outcome) := session.world.requestTyped service operation shape
      ({ session with world }, .value outcome)
  | .requestAsync issued =>
      let (world, outcomes) := session.world.requestAll service [issued.operation]
      let outcomes := outcomes.map fun outcome =>
        (finish outcome issued.shape).mapError Failure.error
      ({ session with world }, .value (outcomes.headD (.error (.error .closed))))
  | .join operations =>
      let (world, outcomes) :=
        session.world.requestAll service (operations.map AsyncOperation.operation)
      let shapes := operations.map AsyncOperation.shape
      ({ session with world }, .values (outcomes.zipWith finish shapes))
  | _ => (session, .done)

/-- Carries out a command without settling. -/
def perform (session : PooledSession) : PooledCommand → PooledSession × PooledReply
  | .cluster command =>
      let (cluster, reply) := session.world.cluster.steer command
      ({ session with world := { session.world with cluster } }, .cluster reply)
  | .script addr script =>
      let scripts := (addr, script) :: session.world.scripts
      ({ session with world := { session.world with scripts } }, .done)
  | .sleep duration => ({ session with world := session.world.sleep duration }, .done)
  | .connect addrs options => session.connect addrs options
  | .drop => (session.drop, .done)
  | command =>
      match session.pool? with
      | some (service, pool) => session.onPool service pool command
      | none => (session, .noPool)

/-- Carries out a command and lets the world settle unless the command is held. -/
def step (session : PooledSession) (command : PooledCommand) (held : Bool) :
    PooledSession × PooledReply :=
  let (session, reply) := session.perform command
  if held then (session, reply)
  else ({ session with world := session.world.settle }, reply)

end PooledSession

end ReplicaPool
