import ReplicaPool.World.Time

/-!
# Building a pool

`World.connect` dials and classifies all addresses side by side, files those that answered in the order
of the addresses, and starts the upkeep. Without a single live connection the pool is closed again.
-/

namespace ReplicaPool

structure Attempt where
  addr : String
  elapsed : Nat
  result : Except PoolError (ConnectionId × Role)

namespace World

def beginAttempt (world : World) (queue : QueueId) (limit : Nat) (addr : String) :
    World × Except Attempt (ConnectionId × Nat) :=
  match waitWithin limit (world.script addr).dialDelay with
  | none => (world, .error ⟨addr, limit, .error (.dialTimeout addr)⟩)
  | some dialled =>
      match world.dial addr queue with
      | (world, .error cause) => (world, .error ⟨addr, dialled, .error (.connection cause)⟩)
      | (world, .ok connection) => (world, .ok (connection, dialled))

def endAttempt (world : World) (limit : Nat) (addr : String) (connection : ConnectionId)
    (dialled : Nat) : World × Attempt :=
  let script := world.script addr
  match waitWithin limit script.infoDelay with
  | none => ((world.close connection).1, ⟨addr, dialled + limit, .error (.classifyTimeout addr)⟩)
  | some reported =>
      let (world, outcome) := world.answer connection .introspect script
      match Role.ofOutcome outcome with
      | .ok role => (world, ⟨addr, dialled + reported, .ok (connection, role)⟩)
      | .error cause => ((world.close connection).1, ⟨addr, dialled + reported, .error cause⟩)

def attempt (world : World) (queue : QueueId) (limit : Nat) (addr : String) : World × Attempt :=
  match world.beginAttempt queue limit addr with
  | (world, .error failed) => (world, failed)
  | (world, .ok (connection, dialled)) => world.endAttempt limit addr connection dialled

def attemptAll (world : World) (queue : QueueId) (limit : Nat) :
    List String → World × List Attempt
  | [] => (world, [])
  | addr :: rest =>
      let (world, first) := world.attempt queue limit addr
      let (world, others) := world.attemptAll queue limit rest
      (world, first :: others)

def fileAttempt (world : World) (filed : Pool × Bool) (attempt : Attempt) : Pool × Bool :=
  match attempt.result with
  | .ok (connection, role) =>
      ((filed.1.file attempt.addr connection role).1, filed.2 || world.isConnected connection)
  | .error _ => filed

def fileAll (world : World) (pool : Pool) (attempts : List Attempt) : Pool × Bool :=
  attempts.foldl world.fileAttempt (pool, false)

/-- Clocks count the seconds of an instant in a signed 64-bit word; later instants do not exist. -/
def instantLimit : Nat := wordCount 63 * 1000

/-- A clock shows at least one second when a world begins. -/
def clockStart : Nat := 1000

/-- Upkeep that starts now. It cannot start if a first tick lies beyond all instants. -/
def startUpkeep (now : Nat) (options : PoolOptions) : Upkeep :=
  let refreshDue := now + options.checkInterval
  let discoveryDue := now + options.discoveryInterval
  let running := decide (clockStart + refreshDue < instantLimit)
    && decide (clockStart + discoveryDue < instantLimit)
  { running, refreshDue, discoveryDue }

def prepare (world : World) (addrs : List String) (options : PoolOptions) :
    Except PoolError (World × Pool) :=
  let addrs := distinct addrs
  if addrs.isEmpty then .error (.config .emptyAddrs)
  else
    match options.validated with
    | .error cause => .error (.config cause)
    | .ok options =>
        let (queue, cluster) := world.cluster.addQueue (eventQueueFactor * addrs.length)
        .ok ({ world with cluster }, { topology := { addrs }, options, queue })

/-- Starts the upkeep of a pool if it has a live connection, and closes its connections otherwise. -/
def launch (world : World) (pool : Pool) (somebodyAlive : Bool) :
    World × Except PoolError ServiceId :=
  if somebodyAlive then
    let service : Service := { pool, upkeep := startUpkeep world.now pool.options }
    ({ world with services := world.services ++ [service] }, .ok world.services.length)
  else ((world.closeConnections pool.topology).2, .error .noConnection)

def connect (world : World) (addrs : List String) (options : PoolOptions) :
    World × Except PoolError ServiceId :=
  match world.prepare addrs options with
  | .error cause => (world, .error cause)
  | .ok (world, pool) =>
      let (world, attempts) :=
        world.attemptAll pool.queue pool.options.probeTimeout pool.topology.addrs
      let world := world.await ((attempts.map Attempt.elapsed).foldl max 0)
      let (pool, somebodyAlive) := world.fileAll pool attempts
      world.launch pool somebodyAlive

end World

end ReplicaPool
