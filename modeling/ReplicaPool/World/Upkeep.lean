import ReplicaPool.World.Basic

/-!
# Upkeep

Every pool has one background worker. It handles close events, refreshes all addresses periodically
and, if a discovery function is configured, brings the managed addresses in line with the cluster.
`World.stepUpkeep` performs one uninterrupted piece of this work, or nothing if the worker has to wait.
-/

namespace ReplicaPool

def World.beginDial (world : World) (limit : Nat) (addr : String) (purpose : Purpose) : List Job :=
  let delay := (world.script addr).dialDelay
  if delay = 0 then [.reach addr purpose]
  else
    match waitWithin limit delay with
    | some taken => [.wait (world.now + taken), .reach addr purpose]
    | none => [.wait (world.now + limit), .fail addr purpose]

def World.beginProbe (world : World) (limit : Nat) (connection : ConnectionId) (goal : Goal) :
    List Job :=
  let script := world.scriptFor connection .introspect
  if script.infoDelay = 0 then [.classify connection goal script]
  else
    match waitWithin limit script.infoDelay with
    | some taken => [.wait (world.now + taken), .classify connection goal script]
    | none => [.wait (world.now + limit), .missed connection goal]

def Goal.conclude (connection : ConnectionId) : Goal → Except PoolError Role → List Job
  | .file addr _, .ok role => [.offer addr connection role]
  | .file addr purpose, .error _ => [.close connection, .fail addr purpose]
  | .review addr current, .ok role =>
      if role = current then [] else [.relocate addr connection role]
  | .review _ _, .error _ => []

/-- How the addresses that a discovery function returned are read: the first row counts. -/
def membersOfReply (rows : List Json) : Except DecodeError (List String) := do
  match ← (Shape.sequence (.sequence .text)).decode (.array rows) with
  | .array (.array first :: _) => return distinct (first.filterMap Json.string?)
  | _ => return []

def Topology.reconciliation (topology : Topology) (members : List String) : List Job :=
  if members.isEmpty then []
  else
    [.reconcile (members.filter fun addr => !topology.addrs.contains addr)
      (topology.addrs.filter fun addr => !members.contains addr) members]

def World.refreshAddr (world : World) (pool : Pool) (addr : String) : List Job :=
  match pool.topology.lookup? addr with
  | some (connection, role) =>
      if world.cluster.isClosed connection then [.dial addr .reopen]
      else [.probe connection (.review addr role)]
  | none => [.dial addr .enlist]

/-- What a report of a connection gives rise to: only a close report whose address still has a closed
connection does. -/
def World.onEvent (world : World) (pool : Pool) (event : Event) : List Job :=
  match event.kind with
  | .closed =>
      match pool.topology.lookup? event.addr with
      | some (connection, _) =>
          if world.cluster.isClosed connection then [.dial event.addr .reopen] else []
      | none => []
  | _ => []

def World.beginDiscovery (world : World) (connection : ConnectionId) (function : String) :
    List Job :=
  let script := world.scriptFor connection (.call17 function (.array []))
  if script.infoDelay = 0 then [.learn connection script]
  else [.wait (world.now + script.infoDelay), .learn connection script]

def Topology.onReply (topology : Topology) :
    Except (Failure ConnectionError) (List Json) → List Job
  | .error _ => []
  | .ok rows =>
      match membersOfReply rows with
      | .error _ => []
      | .ok members => topology.reconciliation members

def Job.afterDial (addr : String) (purpose : Purpose) :
    Except ConnectionError ConnectionId → List Job
  | .ok connection => [.probe connection (.file addr purpose)]
  | .error _ => [.fail addr purpose]

/-- What becomes of connections after one was offered: the pool keeps it, or somebody has to be
closed. -/
def World.afterOffer (world : World) (connection : ConnectionId) : Admission → List Job
  | .refused => [.close connection]
  | .filed none => []
  | .filed (some earlier) =>
      if earlier = connection ∨ world.cluster.isClosed earlier then [] else [.close earlier]

def World.perform (world : World) (pool : Pool) : Job → World × Pool × List Job
  | .wait _ => (world, pool, [])
  | .refresh [] => (world, pool, [])
  | .refresh (addr :: rest) =>
      if pool.isClosed then (world, pool, [])
      else (world, pool, world.refreshAddr pool addr ++ [.refresh rest])
  | .discover =>
      match pool.options.discoveryFunction with
      | none => (world, pool, [])
      | some function =>
          let (picked, pool) := pool.resolve world.isConnected .rw
          match picked with
          | .error _ => (world, pool, [])
          | .ok connection => (world, pool, world.beginDiscovery connection function)
  | .learn connection script =>
      match pool.options.discoveryFunction with
      | none => (world, pool, [])
      | some function =>
          let (world, outcome) := world.answer connection (.call17 function (.array [])) script
          (world, pool, pool.topology.onReply outcome)
  | .reconcile (addr :: fresh) gone members =>
      if pool.isClosed then (world, pool, [])
      else (world, pool, [.dial addr .enlist, .reconcile fresh gone members])
  | .reconcile [] (addr :: gone) members =>
      let (pool, removed) := pool.evict addr
      let closing := removed.toList.map fun (connection, _) => Job.close connection
      (world, pool, closing ++ [.reconcile [] gone members])
  | .reconcile [] [] members => (world, pool.setAddrs members, [])
  | .dial addr purpose => (world, pool, world.beginDial pool.options.probeTimeout addr purpose)
  | .reach addr purpose =>
      let (world, result) := world.dial addr pool.queue
      (world, pool, Job.afterDial addr purpose result)
  | .fail addr .reopen => (world, (pool.evict addr).1, [])
  | .fail _ .enlist => (world, pool, [])
  | .probe connection goal =>
      (world, pool, world.beginProbe pool.options.probeTimeout connection goal)
  | .classify connection goal script =>
      let (world, outcome) := world.answer connection .introspect script
      (world, pool, goal.conclude connection (Role.ofOutcome outcome))
  | .missed connection goal =>
      let addr := world.cluster.connectionAddr connection
      (world, pool, goal.conclude connection (.error (.classifyTimeout addr)))
  | .offer addr connection role =>
      let (pool, admission) := pool.file addr connection role
      (world, pool, world.afterOffer connection admission)
  | .relocate addr connection role => (world, (pool.relocate addr connection role).1, [])
  | .close connection => ((world.close connection).1, pool, [])

def Job.isDue (now : Nat) : Job → Bool
  | .wait due => due ≤ now
  | _ => true

/-- Ticks handled later than this many milliseconds shift the following ones. -/
def lateness : Nat := 5

def nextTick (now due period : Nat) : Nat :=
  if due + lateness < now then now + period else due + period

/-- What a worker without a current job does: it ends with its pool, and otherwise turns to the first
of an event, a discovery tick and a refresh tick that has come up. -/
def World.wakeUpkeep (world : World) (service : ServiceId) (present : Service) : Option World :=
  let pool := present.pool
  let upkeep := present.upkeep
  let resume (world : World) (upkeep : Upkeep) : Option World :=
    some (world.modifyService service fun present => { present with upkeep })
  if pool.isClosed || !present.owned then some (world.endUpkeep service)
  else
    match world.cluster.queues[pool.queue]?.bind EventQueue.take? with
    | some (event, queue) =>
        let world := { world with cluster := world.cluster.modifyQueue pool.queue fun _ => queue }
        resume world { upkeep with agenda := world.onEvent pool event }
    | none =>
        if pool.discovers && decide (upkeep.discoveryDue ≤ world.now) then
          resume world { upkeep with
            agenda := [.discover]
            discoveryDue :=
              nextTick world.now upkeep.discoveryDue pool.options.discoveryInterval }
        else if upkeep.refreshDue ≤ world.now then
          resume world { upkeep with
            agenda := [.refresh pool.topology.addrs]
            refreshDue := nextTick world.now upkeep.refreshDue pool.options.checkInterval }
        else none

def World.setWork (world : World) (service : ServiceId) (pool : Pool) (agenda : List Job) : World :=
  world.modifyService service fun present =>
    { present with pool, upkeep := { present.upkeep with agenda } }

def World.stepUpkeep (world : World) (service : ServiceId) : Option World :=
  match world.services[service]? with
  | none => none
  | some present =>
      if present.upkeep.running then
        match present.upkeep.agenda with
        | [] => world.wakeUpkeep service present
        | job :: rest =>
            if job.isDue world.now then
              let (world, pool, next) := world.perform present.pool job
              some (world.setWork service pool (next ++ rest))
            else none
      else none

def World.wakeTime? (world : World) (present : Service) : Option Nat :=
  if present.upkeep.running then
    match present.upkeep.agenda with
    | .wait due :: _ => some due
    | _ :: _ => some world.now
    | [] =>
        if present.pool.discovers then
          some (min present.upkeep.discoveryDue present.upkeep.refreshDue)
        else some present.upkeep.refreshDue
  else none

end ReplicaPool
