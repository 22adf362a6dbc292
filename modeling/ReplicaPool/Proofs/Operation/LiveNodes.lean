import ReplicaPool.Proofs.Operation.Asynchronous
import ReplicaPool.Proofs.System.Holding
import ReplicaPool.Proofs.System.Sessions

/-!
# Operations reach live nodes

Routing looks at connections only. But a pool holds its connections, and these follow their nodes: so the
connection that an operation is routed to leads to a running node with its link up. This node handles the
request, nothing else happens to the cluster, and what it answers is the result.
-/

namespace ReplicaPool

/-- The errors of an operation that was sent to nobody. -/
def PoolError.IsRouting : PoolError → Prop
  | .tooManyModes | .closed | .noRwInstance | .noHealthyInstance | .noAliveInstance _ => True
  | _ => False

theorem isRouting_unserved (mode : Mode) : mode.unserved.IsRouting := by
  cases mode <;> exact trivial

theorem isRouting_of_mode_error {operation : Operation} {cause : PoolError}
    (hmode : operation.mode = .error cause) : cause.IsRouting := by
  unfold Operation.mode selectMode at hmode
  split at hmode
  · cases hmode
  · cases hmode
  · cases hmode
    exact trivial

namespace World

variable {world later : World} {service : ServiceId} {present : Service} {operation : Operation}
  {request : Request} {connection : ConnectionId}

/-- How a request fares in a world. Either it is turned down and nothing happens to the cluster, or one node
handles it, which runs and has its link up. -/
inductive Handled (world : World) (request : Request) :
    World → Except (Failure PoolError) (List Json) → Prop
  | rejected {later : World} {cause : PoolError} (hrouting : cause.IsRouting)
      (hcluster : later.cluster = world.cluster) : Handled world request later (.error (.error cause))
  | answered {later : World} {id : NodeId} {node : Node}
      (hnode : world.cluster.nodes[id]? = some node) (hrunning : node.running = true)
      (hlink : node.linkUp = true)
      (hcluster : later.cluster =
        { world.cluster with
          nodes := world.cluster.nodes.set id (node.handle world.cluster.functions request).1 })
      (hanswers : node.Answers request (node.handle world.cluster.functions request).2) :
      Handled world request later
        ((node.handle world.cluster.functions request).2.mapError Failure.toPool)

/-- Without scripts every request is sent straight to the node. -/
theorem send_eq_execute_of_unscripted
    (hplain : request.isIntrospection = false ∨ world.scripts = []) :
    world.send connection request = world.execute connection request := by
  rcases hplain with hplain | hscripts
  · exact send_eq_execute hplain
  · have hscript : world.scriptFor connection request = {} := by
      simp [scriptFor, script, hscripts]
    simp only [send, hscript]
    rfl

theorem execute_of_connected (world : World) {filed : Connection} {node : Node}
    (hfiled : world.cluster.connections[connection]? = some filed) (hlink : filed.link = .connected)
    (hnode : world.cluster.nodes[filed.node]? = some node) (request : Request) :
    world.execute connection request =
      ({ world with cluster := { world.cluster with
          nodes := world.cluster.nodes.set filed.node
            (node.handle world.cluster.functions request).1 } },
        (node.handle world.cluster.functions request).2) := by
  simp only [execute, Cluster.execute, hfiled, hlink, hnode]

/-- A request over a connection that leads to a live node is handled there. -/
theorem handled_send {moved : World} {filed : Connection} {node : Node}
    (hcluster : moved.cluster = world.cluster)
    (hplain : request.isIntrospection = false ∨ moved.scripts = [])
    (hfiled : world.cluster.connections[connection]? = some filed) (hlink : filed.link = .connected)
    (hnode : world.cluster.nodes[filed.node]? = some node) (hrunning : node.running = true)
    (hup : node.linkUp = true) :
    world.Handled request (moved.send connection request).1
      ((moved.send connection request).2.mapError Failure.toPool) := by
  rw [← hcluster] at hfiled hnode
  rw [send_eq_execute_of_unscripted hplain, execute_of_connected moved hfiled hlink hnode, hcluster]
  rw [hcluster] at hnode
  exact .answered hnode hrunning hup rfl (node.answers_handle _ _)

/-- A pool that has an owner sends a request to a live node or to nobody. -/
theorem handled_request {calls : List Call} (hreachable : (System.mk world calls).Reachable)
    (hpresent : world.services[service]? = some present) (howned : present.owned = true)
    (hplain : operation.request.isIntrospection = false ∨ world.scripts = []) :
    world.Handled operation.request (world.request service operation).1
      (world.request service operation).2 := by
  cases hmode : operation.mode with
  | error cause =>
      simp only [request, hmode]
      exact .rejected (isRouting_of_mode_error hmode) rfl
  | ok mode =>
      have hresolve : world.resolve service mode =
          ((present.pool.resolve world.isConnected mode).1,
            world.setPool service (present.pool.resolve world.isConnected mode).2) :=
        resolve_eq hpresent
      have hroutes := Pool.routes_resolve world.isConnected present.pool mode
      generalize (present.pool.resolve world.isConnected mode).1 = picked at hroutes hresolve
      cases hroutes with
      | closed hclosed =>
          rw [request_of_error hmode hresolve]
          exact .rejected trivial rfl
      | unserved hopen htarget =>
          rw [request_of_error hmode hresolve]
          exact .rejected (isRouting_unserved mode) rfl
      | dead hopen htarget hdead =>
          rw [request_of_error hmode hresolve]
          exact .rejected trivial rfl
      | @live role entry hopen htarget hmem halive =>
          have hentry : entry.2 ∈ present.pool.topology.connections :=
            Topology.mem_connections_iff.mpr ⟨role, entry.1, hmem⟩
          obtain ⟨filed, node, hfiled, hlink, hnode, hrunning, hup⟩ :=
            hreachable.exists_live_node hpresent howned hentry halive
          rw [request_of_ok hmode hresolve]
          exact handled_send rfl hplain hfiled hlink hnode hrunning hup

/-! ### Typed and issued operations -/

/-- Rows are decoded, or the error says why not; any other outcome stays as it is. -/
theorem requestTyped_cases (world : World) (service : ServiceId) (operation : Operation)
    (shape : Shape) :
    (world.requestTyped service operation shape).1 = (world.request service operation).1 ∧
      ((∃ rows, (world.request service operation).2 = .ok rows ∧
          (world.requestTyped service operation shape).2 =
            (shape.decodeRows rows).mapError fun cause => .error (.decode cause)) ∨
        ∃ failure, (world.request service operation).2 = .error failure ∧
          (world.requestTyped service operation shape).2 = .error failure) := by
  refine ⟨rfl, ?_⟩
  have htyped : (world.requestTyped service operation shape).2 =
      (world.request service operation).2.bind (decodeRows shape) := rfl
  cases houtcome : (world.request service operation).2 with
  | ok rows =>
      rw [houtcome] at htyped
      exact Or.inl ⟨rows, rfl, htyped⟩
  | error failure =>
      rw [houtcome] at htyped
      exact Or.inr ⟨failure, rfl, htyped⟩

/-- Waiting upkeep keeps a pool and its owner. -/
theorem settle_owned {calls : List Call} (hreachable : (System.mk world calls).Reachable)
    (hpresent : world.services[service]? = some present) (howned : present.owned = true) :
    (System.mk world.settle calls).Reachable ∧ world.settle.scripts = world.scripts ∧
      ∃ next, world.settle.services[service]? = some next ∧ next.owned = true := by
  refine @settle_induct world (fun later => (System.mk later calls).Reachable ∧
    later.scripts = world.scripts ∧
      ∃ next, later.services[service]? = some next ∧ next.owned = true)
    ⟨hreachable, rfl, present, hpresent, howned⟩ ?_
  rintro middle later other ⟨hmiddle, hscripts, next, hnext, hnextOwned⟩ hstep
  have hact : (System.mk middle calls).act (.upkeep other) = ⟨later, calls⟩ := by
    simp only [System.act, hstep, Option.getD_some]
  refine ⟨hact ▸ hmiddle.run [.upkeep other], (scripts_stepUpkeep hstep).trans hscripts, ?_⟩
  have hbefore : (System.mk middle calls).world.services[service]? = some next := hnext
  obtain ⟨after, hafter, ⟨rfl, -⟩ | hstepped⟩ := System.stepped_act hbefore (.upkeep other)
  · rw [hact] at hafter
    exact ⟨after, hafter, hnextOwned⟩
  · rw [hact] at hafter
    refine ⟨after, hafter, ?_⟩
    cases hstepped <;> exact hnextOwned

/-- Everything that an operation on a pool with an owner can come to, performed at once, with its rows
decoded, or issued and awaited: the routing turns it down, or a live node handles it and its answer is the
result. The network never fails it. Only for introspection this takes a world without scripts, as a script
may stand in for the node. -/
theorem routed_to_live_node {system : System} (hreachable : system.Reachable) {service : ServiceId}
    {present : Service} (hpresent : system.world.services[service]? = some present)
    (howned : present.owned = true) (operation : Operation)
    (hplain : operation.request.isIntrospection = false ∨ system.world.scripts = []) :
    system.world.Handled operation.request (system.world.request service operation).1
      (system.world.request service operation).2 ∧
    (∀ shape, (system.world.requestTyped service operation shape).1 =
        (system.world.request service operation).1 ∧
      ((∃ rows, (system.world.request service operation).2 = .ok rows ∧
          (system.world.requestTyped service operation shape).2 =
            (shape.decodeRows rows).mapError fun cause => .error (.decode cause)) ∨
        ∃ failure, (system.world.request service operation).2 = .error failure ∧
          (system.world.requestTyped service operation shape).2 = .error failure)) ∧
    ∃ (before later : World) (outcome : Except (Failure PoolError) (List Json)),
      (before = system.world ∨ before = system.world.settle) ∧
      before.Handled operation.request later outcome ∧
      system.world.requestAll service [operation] = (later, [outcome.mapError Failure.collapse]) := by
  refine ⟨handled_request hreachable hpresent howned hplain,
    requestTyped_cases system.world service operation, ?_⟩
  cases hmode : operation.mode with
  | error cause =>
      exact ⟨system.world, system.world, .error (.error cause), Or.inl rfl,
        .rejected (isRouting_of_mode_error hmode) rfl, requestAll_of_usage hmode⟩
  | ok mode =>
      obtain ⟨hsettled, hscripts, next, hnext, hnextOwned⟩ :=
        settle_owned hreachable hpresent howned
      have hhandled := handled_request hsettled hnext hnextOwned
        (hplain.imp_right fun hnone => hscripts.trans hnone)
      exact ⟨system.world.settle, _, _, Or.inr rfl, hhandled, requestAll_singleton hmode⟩

def fullRun : List Action :=
  System.soloRun ++
    [.execute 0 (.insert (.string "test") (.array [.integer 1, .integer 9223372036854775807]))]

def increment : Operation :=
  { default := .rw
    request := .update (.string "test") (.integer 0) (.array [.integer 1])
      (.array [.array [.string "+", .integer 1, .integer 1]]) }

theorem routed_to_live_node_solo :
    ∃ (before later : World) (outcome : Except (Failure PoolError) (List Json)),
      before.Handled whoListens.request later outcome ∧
      (System.run {} System.soloRun).world.requestAll 0 [whoListens] =
        (later, [outcome.mapError Failure.collapse]) := by
  have howned : (System.run {} System.soloRun).world.services[0]?.map Service.owned = some true := by
    decide +kernel
  obtain ⟨present, hpresent, howned⟩ := Option.map_eq_some_iff.mp howned
  have hreachable : (System.run {} System.soloRun).Reachable := ⟨System.soloRun, rfl⟩
  obtain ⟨-, -, before, later, outcome, -, hhandled, hissued⟩ :=
    routed_to_live_node hreachable hpresent howned whoListens (Or.inl rfl)
  exact ⟨before, later, outcome, hhandled, hissued⟩

set_option maxRecDepth 4000 in
/-- The node of the pool overflows: it neither answers nor turns the request down, and the caller gets an
internal error. -/
theorem routed_to_live_node_overflows :
    ((System.run {} fullRun).world.request 0 increment).2 = .error (.crash .add) ∧
    ((System.run {} fullRun).world.requestAll 0 [increment]).2 =
      [.error (.internal "attempt to add with overflow")] := by
  have hmode : increment.mode = .ok .rw := rfl
  constructor
  · rfl
  · have hcrash : ((System.run {} fullRun).world.settle.request 0 increment).2 =
        .error (.crash .add) := rfl
    rw [requestAll_singleton hmode, hcrash]
    rfl

end World

end ReplicaPool
