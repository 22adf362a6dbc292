import ReplicaPool.World.Connect

/-!
# Systems

A system is a world with the calls to its pools that build or close one and are still under way. Changes
to the cluster, requests, upkeep and such calls interleave in any order: an `Action` is one uninterrupted
piece of any of them. The flag that closes a pool may be set while somebody else is in the middle of a
guarded section, but sections read it once, at their start, so that is the same as setting it after the
section.
-/

namespace ReplicaPool

inductive ClusterChange where
  | addNode (addr : String) (readOnly : Bool)
  | register (name : String) (results : List Json)
  | setReadOnly (node : NodeId) (readOnly : Bool)
  | stop (node : NodeId)
  | start (node : NodeId)
  | setLink (node : NodeId) (up : Bool)

def Cluster.change (cluster : Cluster) : ClusterChange → Cluster
  | .addNode addr readOnly => cluster.addNode addr readOnly
  | .register name results => cluster.register name results
  | .setReadOnly node readOnly => cluster.setReadOnly node readOnly
  | .stop node => cluster.stop node
  | .start node => cluster.start node
  | .setLink node up => cluster.setLink node up

inductive Slot where
  | waiting (addr : String)
  | dialled (addr : String) (connection : ConnectionId) (elapsed : Nat)
  | finished (attempt : Attempt)

namespace Slot

def attempt? : Slot → Option Attempt
  | .finished attempt => some attempt
  | _ => none

def advance (world : World) (pool : Pool) : Slot → World × Slot
  | .waiting addr =>
      match world.beginAttempt pool.queue pool.options.probeTimeout addr with
      | (world, .error attempt) => (world, .finished attempt)
      | (world, .ok (connection, elapsed)) => (world, .dialled addr connection elapsed)
  | .dialled addr connection elapsed =>
      let (world, attempt) :=
        world.endAttempt pool.options.probeTimeout addr connection elapsed
      (world, .finished attempt)
  | .finished attempt => (world, .finished attempt)

end Slot

inductive Call where
  /-- The addresses are dialled and classified side by side. -/
  | reach (pool : Pool) (slots : List Slot)
  /-- The connections are filed one after the other. -/
  | fill (pool : Pool) (somebodyAlive : Bool) (attempts : List Attempt)
  /-- The pool with this queue was built, or could not be. -/
  | built (queue : QueueId) (outcome : Except PoolError ServiceId)
  /-- The pool was shut; some of its connections are still to be closed. -/
  | close (service : ServiceId) (pending : List ConnectionId) (complaints : List PoolError)
  | closed (service : ServiceId) (complaints : List PoolError)

namespace Call

def closes (service : ServiceId) : Call → Bool
  | .close other _ _ => other == service
  | .closed other _ => other == service
  | _ => false

def pool? : Call → Option Pool
  | .reach pool _ => some pool
  | .fill pool _ _ => some pool
  | _ => none

/-- One uninterrupted piece of a call; `place` tells which address goes on if several can. -/
def advance (world : World) (place : Nat) : Call → World × Call
  | .reach pool slots =>
      if slots.all fun slot => slot.attempt?.isSome then
        (world, .fill pool false (slots.filterMap Slot.attempt?))
      else
        match slots[place]? with
        | none => (world, .reach pool slots)
        | some slot =>
            let (world, slot) := slot.advance world pool
            (world, .reach pool (slots.set place slot))
  | .fill pool somebodyAlive (attempt :: rest) =>
      let (pool, somebodyAlive) := world.fileAttempt (pool, somebodyAlive) attempt
      (world, .fill pool somebodyAlive rest)
  | .fill pool somebodyAlive [] =>
      let (world, outcome) := world.launch pool somebodyAlive
      (world, .built pool.queue outcome)
  | .close service (connection :: rest) complaints =>
      let (world, complaint) := world.close connection
      (world, .close service rest (complaints ++ complaint.toList.map .connection))
  | .close service [] complaints => (world, .closed service complaints)
  | .built queue outcome => (world, .built queue outcome)
  | .closed service complaints => (world, .closed service complaints)

end Call

structure System where
  world : World := {}
  calls : List Call := []

/-- One uninterrupted piece of whatever goes on in a system. -/
inductive Action where
  | change (change : ClusterChange)
  | script (addr : String) (script : Script)
  | elapse (duration : Nat)
  /-- The upkeep of a pool goes on, unless it has to wait. -/
  | upkeep (service : ServiceId)
  | resolve (service : ServiceId) (mode : Mode)
  /-- A request reaches its node. -/
  | execute (connection : ConnectionId) (request : Request)
  | disown (service : ServiceId)
  | prepare (addrs : List String) (options : PoolOptions)
  | shut (service : ServiceId)
  | advance (call place : Nat)

namespace System

/-- The system after an action; one that is impossible leaves it as it is. -/
def act (system : System) : Action → System
  | .change change =>
      { system with world.cluster := system.world.cluster.change change }
  | .script addr script =>
      { system with world.scripts := (addr, script) :: system.world.scripts }
  | .elapse duration => { system with world.now := system.world.now + duration }
  | .upkeep service =>
      { system with world := (system.world.stepUpkeep service).getD system.world }
  | .resolve service mode => { system with world := (system.world.resolve service mode).2 }
  | .execute connection request =>
      { system with world := (system.world.execute connection request).1 }
  | .disown service => { system with world := system.world.disown service }
  | .prepare addrs options =>
      match system.world.prepare addrs options with
      | .error _ => system
      | .ok (world, pool) =>
          { world, calls := system.calls ++ [.reach pool (pool.topology.addrs.map .waiting)] }
  | .shut service =>
      match system.world.services[service]? with
      | none => system
      | some present =>
          let (world, wasOpen) := system.world.shutPool service
          let call :=
            if wasOpen then .close service present.pool.topology.connections []
            else .closed service []
          { world, calls := system.calls ++ [call] }
  | .advance call place =>
      match system.calls[call]? with
      | none => system
      | some present =>
          let (world, present) := present.advance system.world place
          { world, calls := system.calls.set call present }

def run (system : System) (actions : List Action) : System :=
  actions.foldl act system

theorem run_cons (system : System) (action : Action) (actions : List Action) :
    system.run (action :: actions) = (system.act action).run actions := rfl

theorem run_append (system : System) (early late : List Action) :
    system.run (early ++ late) = (system.run early).run late :=
  List.foldl_append

def Reachable (system : System) : Prop :=
  ∃ actions, system = run {} actions

/-- The pools of a system, those that are being built included. -/
def pools (system : System) : List Pool :=
  system.world.services.map Service.pool ++ system.calls.filterMap Call.pool?

end System

end ReplicaPool
