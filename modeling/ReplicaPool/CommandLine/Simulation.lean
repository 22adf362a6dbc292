import ReplicaPool.Config.Basic
import ReplicaPool.World.Method

/-!
# Simulation

A pool on a simulated cluster whose instances fail over round by round. What happens to which instance
is given by draws, one for each round.
-/

namespace ReplicaPool

structure Draw where
  /-- The place of the instance that is hit. -/
  victim : Nat
  /-- Whether the instance stops or starts, and does not switch its role. -/
  stops : Bool
deriving DecidableEq, Repr, Inhabited

abbrev Report := List (String × Standing)

namespace Simulation

/-- A cluster of masters followed by replicas, on which the discovery function returns all of them. -/
def cluster (config : PoolConfig) (replicas : Nat) : Cluster :=
  let masters := config.addrs.length - replicas
  let nodes := config.addrs.zipIdx.foldl
    (fun (cluster : Cluster) (addr, place) => cluster.addNode addr (decide (masters ≤ place))) {}
  match config.discoveryFunction with
  | some function => nodes.register function [.array (config.addrs.map .string)]
  | none => nodes

def report (world : World) (service : ServiceId) : Report :=
  match world.services[service]? with
  | some present =>
      (present.pool.status world.isConnected).mergeSort fun a b => decide (a.1 ≤ b.1)
  | none => []

def perform (world : World) (service : ServiceId) (method : Method) (modes : List Mode) : World :=
  match method.plain? with
  | some plan => (world.request service (plan.operation modes)).1
  | none => world

def exchange (world : World) (service : ServiceId) (round : Nat) : World :=
  [Mode.rw, .preferRw, .preferRo].zipIdx.foldl
    (fun world (mode, place) =>
      let key : Json := .string ("round-" ++ toString round ++ "-" ++ toString place)
      let row : Json := .array [key, Json.ofNat round]
      let space : Json := .string "sim"
      let world := perform world service (.replace space row) []
      perform world service (.select space (.string "primary") 0 1 .eq (.array [key])) [mode])
    world

def failOver (cluster : Cluster) (addr : String) (stops : Bool) : Cluster :=
  match cluster.nodeAt? addr with
  | none => cluster
  | some id =>
      match cluster.nodes[id]? with
      | none => cluster
      | some node =>
          if stops then
            if node.running then cluster.stop id else cluster.start id
          else cluster.setReadOnly id (!node.readOnly)

def rounds (config : PoolConfig) (service : ServiceId) :
    Nat → List Draw → World → List Report
  | _, [], _ => []
  | round, draw :: rest, world =>
      let world := exchange world service round
      let victim := config.addrs.getD (draw.victim % config.addrs.length) ""
      let world := { world with cluster := failOver world.cluster victim draw.stops }
      let world := world.sleep (config.checkIntervalMs * 2)
      report world service :: rounds config service (round + 1) rest world

def run (config : PoolConfig) (replicas : Nat) (draws : List Draw) :
    Except PoolError (List Report) :=
  let world : World := { cluster := cluster config replicas }
  match world.connect config.addrs config.toOptions with
  | (_, .error cause) => .error cause
  | (world, .ok service) =>
      .ok (report world service :: rounds config service 1 draws world)

end Simulation

end ReplicaPool
