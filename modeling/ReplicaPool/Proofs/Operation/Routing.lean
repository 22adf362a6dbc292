import ReplicaPool.Proofs.Operation.Plans
import ReplicaPool.Proofs.Pool.Routing
import ReplicaPool.Proofs.System.Integrity

/-!
# Routing operations

An operation is routed by its mode and then sent once, over the connection that was picked. An operation
that cannot be routed is sent to nobody, and all that routing ever changes is a cursor. The same holds for
an operation that is issued to be awaited later, from the moment of its turn on.
-/

namespace ReplicaPool

/-- The error that an issued operation ends with: an abrupt end is an internal error. -/
def Failure.collapse : Failure PoolError → PoolError
  | .error cause => cause
  | .crash overflow => .internal overflow.message

theorem mapError_collapse_toPool (outcome : Except (Failure ConnectionError) (List Json)) :
    (outcome.mapError Failure.toPool).mapError Failure.collapse = World.settled outcome := by
  rcases outcome with (cause | overflow) | rows <;> rfl

namespace World

variable {world moved : World} {service : ServiceId} {present : Service} {mode : Mode}
  {operation : Operation} {connection : ConnectionId} {cause : PoolError}

/-! ### Sending a request -/

def send (world : World) (connection : ConnectionId) (request : Request) :
    World × Except (Failure ConnectionError) (List Json) :=
  let script := world.scriptFor connection request
  (world.await script.infoDelay).answer connection request script

theorem send_eq_execute {request : Request} (hplain : request.isIntrospection = false) :
    world.send connection request = world.execute connection request := by
  simp [send, scriptFor, hplain, await, answer]

theorem request_eq (hmode : operation.mode = .ok mode) :
    world.request service operation =
      match world.resolve service mode with
      | (.error cause, moved) => (moved, .error (.error cause))
      | (.ok connection, moved) =>
          ((moved.send connection operation.request).1,
            (moved.send connection operation.request).2.mapError Failure.toPool) := by
  simp only [request, hmode]
  rfl

theorem request_of_error (hmode : operation.mode = .ok mode)
    (hresolve : world.resolve service mode = (.error cause, moved)) :
    world.request service operation = (moved, .error (.error cause)) := by
  rw [request_eq hmode, hresolve]

theorem request_of_ok (hmode : operation.mode = .ok mode)
    (hresolve : world.resolve service mode = (.ok connection, moved)) :
    world.request service operation =
      ((moved.send connection operation.request).1,
        (moved.send connection operation.request).2.mapError Failure.toPool) := by
  rw [request_eq hmode, hresolve]

theorem resolve_eq (hpresent : world.services[service]? = some present) :
    world.resolve service mode =
      ((present.pool.resolve world.isConnected mode).1,
        world.setPool service (present.pool.resolve world.isConnected mode).2) := by
  rw [resolve, hpresent]

/-- Without a subpool to go to, an operation leaves everything as it is. -/
theorem request_of_unserved (hmode : operation.mode = .ok mode)
    (hpresent : world.services[service]? = some present) (hopen : present.pool.isClosed = false)
    (htarget : present.pool.topology.target? mode = none) :
    world.request service operation = (world, .error (.error mode.unserved)) := by
  rw [request_eq hmode, resolve_eq hpresent, Pool.resolve_of_unserved hopen htarget,
    setPool_self hpresent]

/-- An answer, good or bad, is never an error of the routing: those do not come from a connection. -/
theorem request_eq_error_iff (hmode : operation.mode = .ok mode)
    (hrouting : ∀ failure, cause ≠ .connection failure) :
    (world.request service operation).2 = .error (.error cause) ↔
      (world.resolve service mode).1 = .error cause := by
  rcases hresolve : world.resolve service mode with ⟨_ | connection, moved⟩
  · rw [request_of_error hmode hresolve]
    simp
  · rw [request_of_ok hmode hresolve]
    constructor
    · intro herror
      rcases hsent : (moved.send connection operation.request).2 with (failure | overflow) | rows
      · rw [hsent] at herror
        cases herror
        exact absurd rfl (hrouting failure)
      · rw [hsent] at herror
        cases herror
      · rw [hsent] at herror
        cases herror
    · intro herror
      cases herror

theorem request_of_usage (hmode : operation.mode = .error cause) :
    world.request service operation = (world, .error (.error cause)) := by
  simp only [request, hmode]

/-! ### Issuing a request -/

theorem answerAll_singleton (world : World) (service : ServiceId) (operation : Operation) :
    world.answerAll service [operation] =
      ((world.request service operation).1,
        [(world.request service operation).2.mapError Failure.collapse]) := by
  cases hmode : operation.mode with
  | error cause =>
      rw [request_of_usage hmode]
      simp [answerAll, routeAll, route, hmode, answerPending, Except.mapError, Failure.collapse]
  | ok mode =>
      rcases hresolve : world.resolve service mode with ⟨cause | connection, moved⟩
      · rw [request_of_error hmode hresolve]
        simp [answerAll, routeAll, route, hmode, hresolve, answerPending, Except.mapError,
          Failure.collapse]
      · rw [request_of_ok hmode hresolve, mapError_collapse_toPool]
        by_cases hdelay : (moved.scriptFor connection operation.request).infoDelay = 0
        · simp [answerAll, routeAll, route, hmode, hresolve, answerPending, hdelay, send, await]
        · simp [answerAll, routeAll, route, hmode, hresolve, answerPending, hdelay, send]

theorem answerAll_of_usage (hmode : operation.mode = .error cause) :
    world.answerAll service [operation] = (world, [.error cause]) := by
  rw [answerAll_singleton, request_of_usage hmode]
  rfl

theorem turn_of_routed (hmode : operation.mode = .ok mode) :
    world.turn [operation] = world.settle := by
  simp [turn, hmode, Except.isOk, Except.toBool]

theorem turn_of_usage (hmode : operation.mode = .error cause) : world.turn [operation] = world := by
  simp [turn, hmode, Except.isOk, Except.toBool]

theorem requestAll_singleton (hmode : operation.mode = .ok mode) :
    world.requestAll service [operation] =
      ((world.settle.request service operation).1,
        [(world.settle.request service operation).2.mapError Failure.collapse]) := by
  rw [requestAll, turn_of_routed hmode, answerAll_singleton]

theorem requestAll_of_usage (hmode : operation.mode = .error cause) :
    world.requestAll service [operation] = (world, [.error cause]) := by
  rw [requestAll, turn_of_usage hmode, answerAll_of_usage hmode]

/-! ### The law -/

structure RoutesBy (world : World) (service : ServiceId) (pool : Pool) (operation : Operation)
    (mode : Mode) : Prop where
  closed : (world.request service operation).2 = .error (.error .closed) ↔ pool.isClosed = true
  unserved : (world.request service operation).2 = .error (.error mode.unserved) ↔
    pool.isClosed = false ∧ pool.topology.target? mode = none
  noAlive : ∀ role, (world.request service operation).2 = .error (.error (.noAliveInstance role)) ↔
    pool.IsDown world.isConnected mode role
  /-- The request is sent once, over a connected member of the subpool of the mode. -/
  executed : pool.IsRoutable world.isConnected mode →
    ∃ moved role entry, pool.SameEntries moved ∧ pool.topology.target? mode = some role ∧
      entry ∈ (pool.topology.subpool role).members ∧ world.isConnected entry.2 = true ∧
      world.resolve service mode = (.ok entry.2, world.setPool service moved) ∧
      world.request service operation =
        (((world.setPool service moved).send entry.2 operation.request).1,
          ((world.setPool service moved).send entry.2 operation.request).2.mapError
            Failure.toPool) ∧
      (operation.request.isIntrospection = false →
        (world.setPool service moved).send entry.2 operation.request =
          (world.setPool service moved).execute entry.2 operation.request)
  /-- Nothing is sent, and at most a cursor moves. -/
  rejected : ¬ pool.IsRoutable world.isConnected mode →
    (world.request service operation).1.cluster = world.cluster ∧
      ∃ moved, pool.SameEntries moved ∧
        (world.request service operation).1 = world.setPool service moved
  /-- Decoding the answer changes nothing but the answer. -/
  typed : ∀ shape, (world.requestTyped service operation shape).1 =
      (world.request service operation).1 ∧
    ∀ cause, (world.request service operation).2 = .error cause →
      (world.requestTyped service operation shape).2 = .error cause
  /-- To await the answer later changes nothing but that the upkeep that waits goes first. -/
  issued : world.answerAll service [operation] =
      ((world.request service operation).1,
        [(world.request service operation).2.mapError Failure.collapse]) ∧
    world.requestAll service [operation] =
      ((world.settle.request service operation).1,
        [(world.settle.request service operation).2.mapError Failure.collapse])
  connected : (world.connectedNow service mode).2 = .ok true ↔
    pool.IsRoutable world.isConnected mode
  unconnected : (world.connectedNow service mode).2 = .ok false ↔
    pool.isClosed = true ∨ ∃ role, pool.IsDown world.isConnected mode role
  unknown : ∀ cause, (world.connectedNow service mode).2 = .error cause ↔
    cause = mode.unserved ∧ pool.isClosed = false ∧ pool.topology.target? mode = none

theorem connectedNow_snd (hpresent : world.services[service]? = some present) :
    (world.connectedNow service mode).2 =
      match (present.pool.resolve world.isConnected mode).1 with
      | .ok connection => .ok (world.isConnected connection)
      | .error .closed | .error (.noAliveInstance _) => .ok false
      | .error cause => .error cause := by
  simp only [connectedNow, resolve_eq hpresent]
  rcases (present.pool.resolve world.isConnected mode).1 with cause | connection
  · cases cause <;> rfl
  · rfl

theorem routesBy (hpresent : world.services[service]? = some present)
    (hmode : operation.mode = .ok mode) :
    world.RoutesBy service present.pool operation mode := by
  have hresolve : world.resolve service mode =
      ((present.pool.resolve world.isConnected mode).1,
        world.setPool service (present.pool.resolve world.isConnected mode).2) :=
    resolve_eq hpresent
  have hsame := Pool.sameEntries_resolve world.isConnected present.pool mode
  have hroutes := Pool.routes_resolve world.isConnected present.pool mode
  constructor
  case closed =>
    rw [request_eq_error_iff hmode (by simp), hresolve]
    exact Pool.resolve_eq_closed_iff
  case unserved =>
    rw [request_eq_error_iff hmode (by cases mode <;> simp [Mode.unserved]), hresolve]
    exact Pool.resolve_eq_unserved_iff
  case noAlive =>
    intro role
    rw [request_eq_error_iff hmode (by simp), hresolve]
    exact Pool.resolve_eq_noAlive_iff
  case executed =>
    intro hroutable
    obtain ⟨connection, hpicked⟩ := Pool.exists_resolve_eq_ok_iff.mpr hroutable
    rw [hpicked] at hroutes hresolve
    cases hroutes with
    | @live role entry hopen htarget hmem halive =>
        exact ⟨_, role, entry, hsame, htarget, hmem, halive, hresolve,
          request_of_ok hmode hresolve, send_eq_execute⟩
  case rejected =>
    intro hunroutable
    cases hpicked : (present.pool.resolve world.isConnected mode).1 with
    | ok connection => exact absurd (Pool.exists_resolve_eq_ok_iff.mp ⟨_, hpicked⟩) hunroutable
    | error cause =>
        rw [hpicked] at hresolve
        rw [request_of_error hmode hresolve]
        exact ⟨rfl, _, hsame, rfl⟩
  case typed =>
    intro shape
    refine ⟨rfl, fun cause hcause => ?_⟩
    change (world.request service operation).2.bind (decodeRows shape) = .error cause
    rw [hcause]
    rfl
  case issued =>
    exact ⟨answerAll_singleton world service operation, requestAll_singleton hmode⟩
  case connected =>
    rw [connectedNow_snd hpresent, ← Pool.exists_resolve_eq_ok_iff]
    generalize (present.pool.resolve world.isConnected mode).1 = picked at hroutes
    cases hroutes with
    | closed => simp
    | unserved => cases mode <;> simp [Mode.unserved]
    | dead => simp
    | live hopen htarget hmem halive => simp [halive]
  case unconnected =>
    have hclosed : (present.pool.resolve world.isConnected mode).1 = .error .closed ↔
        present.pool.isClosed = true := Pool.resolve_eq_closed_iff
    rw [connectedNow_snd hpresent, ← hclosed]
    simp only [← Pool.resolve_eq_noAlive_iff]
    generalize (present.pool.resolve world.isConnected mode).1 = picked at hroutes
    cases hroutes with
    | closed => simp
    | unserved => cases mode <;> simp [Mode.unserved]
    | dead => simp
    | live hopen htarget hmem halive => simp [halive]
  case unknown =>
    intro cause
    have hunserved : (present.pool.resolve world.isConnected mode).1 = .error mode.unserved ↔
        present.pool.isClosed = false ∧ present.pool.topology.target? mode = none :=
      Pool.resolve_eq_unserved_iff
    rw [connectedNow_snd hpresent, ← hunserved]
    generalize (present.pool.resolve world.isConnected mode).1 = picked at hroutes
    cases hroutes with
    | closed => cases mode <;> simp [Mode.unserved]
    | unserved => cases mode <;> simp [Mode.unserved, eq_comm]
    | dead => cases mode <;> simp [Mode.unserved]
    | live hopen htarget hmem halive => simp

/-- A method with at most one mode given is routed by that mode in every family that offers it. Without one,
what only reads prefers a replica, and all else needs a master. -/
theorem routing_law (hpresent : world.services[service]? = some present) (modes : List Mode)
    (hshort : modes.length ≤ 1) (family : Family) (method : Method) :
    ((method.plan? family).isSome = true ↔ family.Offers method) ∧
      ∀ plan, method.plan? family = some plan →
        world.RoutesBy service present.pool (plan.operation modes)
          (modes.headD method.ownMode) := by
  refine ⟨method.isSome_plan?_iff family, fun plan hplan => ?_⟩
  rw [← Method.default_of_plan? hplan]
  exact routesBy hpresent (Operation.mode_of_short hshort)

theorem RoutesBy.exists_execute (hlaw : world.RoutesBy service present.pool operation mode)
    (hpresent : world.services[service]? = some present)
    (hplain : operation.request.isIntrospection = false)
    (hpicked : (world.resolve service mode).1.toOption = some connection) :
    ∃ moved : World,
      (world.request service operation).1 = (moved.execute connection operation.request).1 ∧
      (∀ shape, (world.requestTyped service operation shape).1 =
        (moved.execute connection operation.request).1) ∧
      (world.answerAll service [operation]).1 = (moved.execute connection operation.request).1 := by
  have hroutable : present.pool.IsRoutable world.isConnected mode := by
    rw [resolve_eq hpresent] at hpicked
    apply Pool.exists_resolve_eq_ok_iff.mp
    cases hresult : (present.pool.resolve world.isConnected mode).1 with
    | error cause =>
        rw [hresult] at hpicked
        cases hpicked
    | ok picked => exact ⟨picked, rfl⟩
  obtain ⟨moved, -, entry, -, -, -, -, hresolve, hrequest, hsend⟩ := hlaw.executed hroutable
  rw [hresolve] at hpicked
  cases hpicked
  have hexecuted : (world.request service operation).1 =
      ((world.setPool service moved).execute entry.2 operation.request).1 := by
    rw [hrequest, hsend hplain]
  refine ⟨world.setPool service moved, hexecuted, fun shape => ?_, ?_⟩
  · rw [(hlaw.typed shape).1, hexecuted]
  · rw [hlaw.issued.1, hexecuted]

/-- A ping goes to the master that turned replica, and an issued insert to the one that came back. Who gets a
row may ask for a master. -/
theorem routing_law_recovered :
    let world := (System.run {} System.recoveredRun).world
    let space : Json := .string "test"
    let index : Json := .string "primary"
    let row : Json := .array [.integer 1]
    ∃ present, world.services[0]? = some present ∧
      (∃ plan, Method.ping.plan? .plain = some plan ∧
        world.RoutesBy 0 present.pool (plan.operation []) .preferRo ∧
        ∃ moved : World, (world.request 0 (plan.operation [])).1 = (moved.execute 0 .ping).1) ∧
      (∃ plan, (Method.insert space row).plan? .issued = some plan ∧
        world.RoutesBy 0 present.pool (plan.operation []) .rw ∧
        ∃ moved : World,
          (world.answerAll 0 [plan.operation []]).1 = (moved.execute 3 (.insert space row)).1) ∧
      ∃ plan, (Method.get space index row).plan? .typed = some plan ∧
        world.RoutesBy 0 present.pool (plan.operation [.rw]) .rw ∧
        ∃ moved : World, ∀ shape, (world.requestTyped 0 (plan.operation [.rw]) shape).1 =
          (moved.execute 3 (.select space index 0 1 .eq row)).1 := by
  intro world space index row
  have hservice : world.services[0]?.isSome = true := by
    decide +kernel
  have hpicked : (world.resolve 0 .preferRo).1.toOption = some 0 ∧
      (world.resolve 0 .rw).1.toOption = some 3 := by
    decide +kernel
  obtain ⟨present, hpresent⟩ := Option.isSome_iff_exists.mp hservice
  have hping := (routing_law hpresent [] (by decide) .plain .ping).2 _ rfl
  have hinsert := (routing_law hpresent [] (by decide) .issued (.insert space row)).2 _ rfl
  have hget := (routing_law hpresent [.rw] (by decide) .typed (.get space index row)).2 _ rfl
  obtain ⟨pinged, hpinged, -⟩ := hping.exists_execute hpresent rfl hpicked.1
  obtain ⟨inserted, -, -, hinserted⟩ := hinsert.exists_execute hpresent rfl hpicked.2
  obtain ⟨gotten, -, hgotten, -⟩ := hget.exists_execute hpresent rfl hpicked.2
  exact ⟨present, hpresent, ⟨_, rfl, hping, pinged, hpinged⟩, ⟨_, rfl, hinsert, inserted, hinserted⟩,
    _, rfl, hget, gotten, hgotten⟩

end World

end ReplicaPool
