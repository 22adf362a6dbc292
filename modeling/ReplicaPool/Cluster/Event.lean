/-!
# Lifecycle events

A connection reports what happens to its link. Reports go to a bounded queue, which drops them when
it is full or nobody reads it any more, so a report never waits.
-/

namespace ReplicaPool

inductive EventKind where
  | connected
  | disconnected
  | closed
deriving DecidableEq, Repr, Inhabited

namespace EventKind

def name : EventKind → String
  | .connected => "connected"
  | .disconnected => "disconnected"
  | .closed => "closed"

def ofName? (name : String) : Option EventKind :=
  [EventKind.connected, .disconnected, .closed].find? (·.name == name)

end EventKind

structure Event where
  addr : String
  kind : EventKind
deriving DecidableEq, Repr, Inhabited

/-- Reports that wait for their reader, the oldest first. -/
structure EventQueue where
  capacity : Nat
  pending : List Event := []
  hasReader : Bool := true
deriving DecidableEq, Repr, Inhabited

namespace EventQueue

/-- Adds a report if there are a reader and a free place. -/
def emit (queue : EventQueue) (event : Event) : EventQueue :=
  if queue.hasReader && decide (queue.pending.length < queue.capacity) then
    { queue with pending := queue.pending ++ [event] }
  else queue

def emitAll (queue : EventQueue) (events : List Event) : EventQueue :=
  events.foldl emit queue

def take? (queue : EventQueue) : Option (Event × EventQueue) :=
  match queue.pending with
  | event :: rest => some (event, { queue with pending := rest })
  | [] => none

def drain (queue : EventQueue) : List Event × EventQueue :=
  (queue.pending, { queue with pending := [] })

/-- Lets the reader go; what waits is lost. -/
def dropReader (queue : EventQueue) : EventQueue :=
  { queue with pending := [], hasReader := false }

end EventQueue

inductive Link where
  | connected
  | disconnected
  | closed
deriving DecidableEq, Repr, Inhabited

namespace Link

def setUp : Bool → Link → Link × List EventKind
  | true, .disconnected => (.connected, [.connected])
  | false, .connected => (.disconnected, [.disconnected])
  | _, link => (link, [])

def terminate : Link → Link × List EventKind
  | .connected => (.closed, [.disconnected, .closed])
  | .disconnected => (.closed, [.closed])
  | .closed => (.closed, [])

def close : Link → Link × List EventKind
  | .closed => (.closed, [])
  | _ => (.closed, [.closed])

end Link

end ReplicaPool
