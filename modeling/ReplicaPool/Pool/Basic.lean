import ReplicaPool.Pool.Options
import ReplicaPool.Pool.Topology

/-!
# Pools

A pool guards its topology: `file`, `evict`, `relocate` and `setAddrs` each change it in one
uninterrupted section and do nothing once the pool is closed. Closing happens in two sections: `shut`
closes the pool to everybody else, after which its connections are closed.
-/

namespace ReplicaPool

structure Pool where
  topology : Topology
  options : PoolOptions
  /-- The queue its connections report to. -/
  queue : QueueId
  isClosed : Bool := false
deriving Inhabited

inductive Admission where
  /-- The pool is closed and does not take it. -/
  | refused
  /-- It was filed, in the place of an earlier connection if there was one. -/
  | filed (replaced : Option ConnectionId)
deriving DecidableEq, Repr, Inhabited

namespace Pool

/-- Files a connection under a role; it takes the place of the one at its address. -/
def file (pool : Pool) (addr : String) (connection : ConnectionId) (role : Role) :
    Pool × Admission :=
  if pool.isClosed then (pool, .refused)
  else
    let (replaced, topology) := pool.topology.remove addr
    ({ pool with topology := topology.add role addr connection },
      .filed (replaced.map Prod.fst))

/-- `file` with the condition of the subpool asserted. -/
def file? (pool : Pool) (addr : String) (connection : ConnectionId) (role : Role) :
    Option (Pool × Admission) :=
  if pool.isClosed then some (pool, .refused)
  else
    let (replaced, topology) := pool.topology.remove addr
    (topology.add? role addr connection).map fun topology =>
      ({ pool with topology }, .filed (replaced.map Prod.fst))

def evict (pool : Pool) (addr : String) : Pool × Option (ConnectionId × Role) :=
  if pool.isClosed then (pool, none)
  else
    let (removed, topology) := pool.topology.remove addr
    ({ pool with topology }, removed)

/-- Moves a connection to another role, provided that it is still the one at its address. -/
def relocate (pool : Pool) (addr : String) (connection : ConnectionId) (role : Role) :
    Pool × Bool :=
  if pool.isClosed then (pool, false)
  else
    match pool.topology.lookup? addr with
    | some (current, filed) =>
        if current = connection ∧ filed ≠ role then
          let (_, topology) := pool.topology.remove addr
          ({ pool with topology := topology.add role addr current }, true)
        else (pool, false)
    | none => (pool, false)

/-- `relocate` with the condition of the subpool asserted. -/
def relocate? (pool : Pool) (addr : String) (connection : ConnectionId) (role : Role) :
    Option (Pool × Bool) :=
  if pool.isClosed then some (pool, false)
  else
    match pool.topology.lookup? addr with
    | some (current, filed) =>
        if current = connection ∧ filed ≠ role then
          let (_, topology) := pool.topology.remove addr
          (topology.add? role addr current).map fun topology => ({ pool with topology }, true)
        else some (pool, false)
    | none => some (pool, false)

def setAddrs (pool : Pool) (addrs : List String) : Pool :=
  if pool.isClosed then pool else { pool with topology := { pool.topology with addrs } }

def shut (pool : Pool) : Pool × Bool :=
  if pool.isClosed then (pool, false) else ({ pool with isClosed := true }, true)

def resolve (alive : ConnectionId → Bool) (pool : Pool) (mode : Mode) :
    Except PoolError ConnectionId × Pool :=
  if pool.isClosed then (.error .closed, pool)
  else
    let (picked, topology) := pool.topology.resolve alive mode
    (picked, { pool with topology })

def discovers (pool : Pool) : Bool :=
  pool.options.discoveryFunction.isSome

end Pool

structure Standing where
  connectedNow : Bool
  role : Role
deriving DecidableEq, Repr, Inhabited

def Pool.status (alive : ConnectionId → Bool) (pool : Pool) : List (String × Standing) :=
  pool.topology.addrs.filterMap fun addr =>
    (pool.topology.lookup? addr).map fun (connection, role) => (addr, ⟨alive connection, role⟩)

def distinct (addrs : List String) : List String :=
  addrs.foldl (fun seen addr => if seen.contains addr then seen else seen ++ [addr]) []

def eventQueueFactor : Nat := 10

def selectMode (default : Mode) : List Mode → Except PoolError Mode
  | [] => .ok default
  | [mode] => .ok mode
  | _ => .error .tooManyModes

def Request.get (space index key : Json) : Request :=
  .select space index 0 1 .eq key

end ReplicaPool
