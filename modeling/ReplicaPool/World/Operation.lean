import ReplicaPool.World.Connect

/-!
# Operations on a pool

An operation is a plan with at most one mode override. It can be performed at once, performed and
its rows decoded, or issued together with others and awaited later.
-/

namespace ReplicaPool

/-- A request, and the mode that it is routed by unless the caller gives one. -/
structure Plan where
  default : Mode
  request : Request
deriving Inhabited

structure Operation extends Plan where
  modes : List Mode := []
deriving Inhabited

def Plan.operation (plan : Plan) (modes : List Mode) : Operation :=
  { plan with modes }

def Operation.mode (operation : Operation) : Except PoolError Mode :=
  selectMode operation.default operation.modes

def Failure.toPool : Failure ConnectionError → Failure PoolError :=
  Failure.map PoolError.connection

namespace World

def request (world : World) (service : ServiceId) (operation : Operation) :
    World × Except (Failure PoolError) (List Json) :=
  match operation.mode with
  | .error cause => (world, .error (.error cause))
  | .ok mode =>
      match world.resolve service mode with
      | (.error cause, world) => (world, .error (.error cause))
      | (.ok connection, world) =>
          let script := world.scriptFor connection operation.request
          let world := world.await script.infoDelay
          let (world, outcome) := world.answer connection operation.request script
          (world, outcome.mapError Failure.toPool)

def decodeRows (shape : Shape) (rows : List Json) : Except (Failure PoolError) Json :=
  (shape.decodeRows rows).mapError fun cause => .error (.decode cause)

def requestTyped (world : World) (service : ServiceId) (operation : Operation) (shape : Shape) :
    World × Except (Failure PoolError) Json :=
  let (world, outcome) := world.request service operation
  (world, outcome.bind (decodeRows shape))

structure Pending where
  /-- Its place among the requests issued together. -/
  place : Nat
  connection : ConnectionId
  request : Request
  script : Script
  due : Nat

/-- The outcome of an issued request as its caller sees it: an abrupt end is an internal error. -/
def settled (outcome : Except (Failure ConnectionError) (List Json)) :
    Except PoolError (List Json) :=
  outcome.mapError PoolError.ofFailure

structure Issued where
  pending : List Pending := []
  answered : List (Nat × Except PoolError (List Json)) := []

/-- Routes one issued request. One without delay is answered straight away. -/
def route (world : World) (service : ServiceId) (place : Nat) (operation : Operation)
    (issued : Issued) : World × Issued :=
  match operation.mode with
  | .error cause => (world, { issued with answered := issued.answered ++ [(place, .error cause)] })
  | .ok mode =>
      match world.resolve service mode with
      | (.error cause, world) =>
          (world, { issued with answered := issued.answered ++ [(place, .error cause)] })
      | (.ok connection, world) =>
          let script := world.scriptFor connection operation.request
          if script.infoDelay = 0 then
            let (world, outcome) := world.answer connection operation.request script
            (world, { issued with answered := issued.answered ++ [(place, settled outcome)] })
          else
            let due := world.now + script.infoDelay
            let request := operation.request
            (world, { issued with
              pending := issued.pending ++ [{ place, connection, request, script, due }] })

def routeAll (world : World) (service : ServiceId) :
    Nat → List Operation → Issued → World × Issued
  | _, [], issued => (world, issued)
  | place, operation :: rest, issued =>
      let (world, issued) := world.route service place operation issued
      world.routeAll service (place + 1) rest issued

/-- Waits for delayed requests one by one, in the order of their times. -/
def answerPending (world : World) :
    List Pending → List (Nat × Except PoolError (List Json)) →
      World × List (Nat × Except PoolError (List Json))
  | [], answered => (world, answered)
  | first :: rest, answered =>
      let world := world.await (first.due - world.now)
      let (world, outcome) := world.answer first.connection first.request first.script
      world.answerPending rest (answered ++ [(first.place, settled outcome)])

/-- Routes requests in the order in which they were issued, and waits for all of them. -/
def answerAll (world : World) (service : ServiceId) (operations : List Operation) :
    World × List (Except PoolError (List Json)) :=
  let (world, issued) := world.routeAll service 0 operations {}
  let ordered := issued.pending.mergeSort fun a b => decide (a.due ≤ b.due)
  let (world, answered) := world.answerPending ordered issued.answered
  (world, (answered.mergeSort fun a b => decide (a.1 ≤ b.1)).map Prod.snd)

/-- The world in which the first of the issued operations is routed. Waiting work on pools goes first, but
not if no operation gets as far as its routing. -/
def turn (world : World) (operations : List Operation) : World :=
  if operations.any fun operation => operation.mode.isOk then world.settle else world

def requestAll (world : World) (service : ServiceId) (operations : List Operation) :
    World × List (Except PoolError (List Json)) :=
  (world.turn operations).answerAll service operations

/-- Whether the connection that a mode is routed to is usable. Like every other routing it advances the
cursor. -/
def connectedNow (world : World) (service : ServiceId) (mode : Mode) :
    World × Except PoolError Bool :=
  match world.resolve service mode with
  | (.ok connection, world) => (world, .ok (world.isConnected connection))
  | (.error .closed, world) | (.error (.noAliveInstance _), world) => (world, .ok false)
  | (.error cause, world) => (world, .error cause)

def configuredTimeout (world : World) (service : ServiceId) (mode : Mode) :
    World × Except PoolError Nat :=
  match world.resolve service mode with
  | (.ok _, world) => (world, .ok requestTimeout)
  | (.error cause, world) => (world, .error cause)

end World

end ReplicaPool
