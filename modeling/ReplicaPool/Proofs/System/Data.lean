import ReplicaPool.Proofs.Cluster.Data
import ReplicaPool.Proofs.System.Moves

/-!
# The data of nodes in a system

Upkeep and the calls that build and close pools ask nodes about themselves and about their members, but never
write to them. So what a node has is what the requests of users have written to it.
-/

namespace ReplicaPool

/-- Nothing that upkeep and calls do is a write. -/
theorem Move.Reaches.written_eq_nil {move : Move} (hreaches : move.Reaches) (cluster : Cluster)
    (node : NodeId) : cluster.written node move = [] := by
  rw [List.eq_nil_iff_forall_not_mem]
  intro command hmem
  obtain ⟨connection, request, present, taker, rfl, hwrite, -⟩ := Cluster.mem_written_iff.mp hmem
  cases hreaches with
  | ask _ hreads =>
      rw [Request.write?_of_reads hreads] at hwrite
      cases hwrite

namespace System

variable {system : System} {action : Action} {move : Move}

def written (system : System) (node : NodeId) : Action → List Store.Command
  | .execute connection request =>
      system.world.cluster.written node (.execute connection request)
  | _ => []

def writes (system : System) (node : NodeId) : List Action → List Store.Command
  | [] => []
  | action :: rest => system.written node action ++ (system.act action).writes node rest

theorem Makes.written_eq_nil (hmakes : system.Makes action move)
    (hother : ∀ connection request, action ≠ .execute connection request) (cluster : Cluster)
    (node : NodeId) : cluster.written node move = [] := by
  cases hmakes with
  | execute connection request => exact absurd rfl (hother connection request)
  | upkeep service hreaches => exact hreaches.written_eq_nil cluster node
  | advance call place hreaches => exact hreaches.written_eq_nil cluster node
  | _ => rfl

theorem data_act_of_ne_execute
    (hother : ∀ connection request, action ≠ .execute connection request) (node : NodeId) :
    (system.act action).world.cluster.data node = system.world.cluster.data node := by
  obtain ⟨moves, hmoves, hmade⟩ := playsBy_act system action
  have hnothing : system.world.cluster.writes node moves = [] :=
    Cluster.writes_eq_nil fun move hmem cluster =>
      (hmade move hmem).written_eq_nil hother cluster node
  rw [hmoves, Cluster.data_play, hnothing]
  rfl

theorem data_act (system : System) (action : Action) (node : NodeId) :
    (system.act action).world.cluster.data node =
      (system.world.cluster.data node).run (system.written node action) := by
  cases action with
  | execute connection request =>
      exact Cluster.data_execute system.world.cluster connection request node
  | _ => exact data_act_of_ne_execute (by simp) node

theorem data_run (system : System) (actions : List Action) (node : NodeId) :
    (system.run actions).world.cluster.data node =
      (system.world.cluster.data node).run (system.writes node actions) := by
  induction actions generalizing system with
  | nil => rfl
  | cons action rest ih => rw [run_cons, ih, data_act, writes, Store.run_append]

/-- In every run of a cluster, and in every run of a system of pools on it, a node has what the writes that
it has accepted make of an empty store, carried out one after the other. It accepts just the writes that
come over a connected connection to it while it is not read-only, and nothing else changes what it has. -/
theorem data_eq_accepted_writes :
    (∀ moves node present, (Cluster.play {} moves).nodes[node]? = some present →
      present.store = Store.run .empty (Cluster.writes {} node moves)) ∧
    (∀ actions node present, (run {} actions).world.cluster.nodes[node]? = some present →
      present.store = Store.run .empty (writes {} node actions)) ∧
    (∀ (cluster : Cluster) node move command, command ∈ cluster.written node move ↔
      ∃ connection request present taker, move = .execute connection request ∧
        request.write? = some command ∧ cluster.Carries connection present taker ∧
        present.node = node ∧ taker.readOnly = false) ∧
    ∀ (cluster : Cluster) node move,
      (cluster.move move).data node = (cluster.data node).run (cluster.written node move) := by
  refine ⟨fun moves node present hpresent => ?_, fun actions node present hpresent => ?_,
    fun cluster node move command => Cluster.mem_written_iff,
    fun cluster node move => cluster.data_move move node⟩
  · rw [← Cluster.data_eq hpresent, Cluster.data_play]
    rfl
  · rw [← Cluster.data_eq hpresent, data_run]
    rfl

/-- A node is written to, turns a write down while it is read-only, and is replaced under its address. -/
def handoverRun : List Move :=
  [.change (.addNode "127.0.0.1:3301" false), .addQueue 16, .dial "127.0.0.1:3301" 0,
    .execute 0 (.insert (.string "test") (.array [.integer 1])), .change (.setReadOnly 0 true),
    .execute 0 (.insert (.string "test") (.array [.integer 2])),
    .change (.addNode "127.0.0.1:3301" false), .dial "127.0.0.1:3301" 0,
    .execute 1 (.insert (.string "test") (.array [.integer 3])), .change (.setReadOnly 0 false),
    .execute 0 (.delete (.string "test") .null (.array [.integer 1]))]

set_option maxRecDepth 4000 in
theorem data_eq_accepted_writes_handover :
    (∃ present, (Cluster.play {} handoverRun).nodes[0]? = some present ∧
      present.store = Store.run .empty [.insert (.string "test") (.array [.integer 1]),
        .delete (.string "test") (.array [.integer 1])]) ∧
    ∃ present, (Cluster.play {} handoverRun).nodes[1]? = some present ∧
      present.store = Store.run .empty [.insert (.string "test") (.array [.integer 3])] := by
  obtain ⟨hfold, -⟩ := data_eq_accepted_writes
  exact ⟨⟨_, rfl, hfold handoverRun 0 _ rfl⟩, ⟨_, rfl, hfold handoverRun 1 _ rfl⟩⟩

end System

end ReplicaPool
