import ReplicaPool.Proofs.Cluster.Links

/-!
# The data of nodes

A node changes its data only by the writes that it accepts: they come over a connected connection that leads
to it, while it is not read-only. `Cluster.written` says which write a node accepts with a move, and
`Cluster.writes` which it accepts in a run. Its data is what these make of an empty store.
-/

namespace ReplicaPool

def Request.write? : Request → Option Store.Command
  | .insert space tuple => some (.insert space tuple)
  | .replace space tuple => some (.replace space tuple)
  | .delete space _ key => some (.delete space key)
  | .update space _ key operations => some (.update space key operations)
  | .upsert space tuple operations => some (.upsert space tuple operations)
  | .ping | .select .. | .call .. | .call17 .. | .eval .. => none

/-- The writes that are turned down on a read-only node are those that change data. -/
theorem Request.isSome_write? (request : Request) : request.write?.isSome = request.isWrite := by
  cases request <;> rfl

theorem Request.write?_of_reads {request : Request} (hreads : request.isWrite = false) :
    request.write? = none := by
  rw [← isSome_write?] at hreads
  exact Option.isNone_iff_eq_none.mp (by rw [← Option.not_isSome, hreads, Bool.not_false])

theorem Store.run_append (store : Store) (early late : List Store.Command) :
    store.run (early ++ late) = (store.run early).run late :=
  List.foldl_append

namespace Node

variable {node : Node} {functions : Functions} {request : Request}

def accepted (node : Node) (request : Request) : List Store.Command :=
  if node.readOnly then [] else request.write?.toList

theorem mem_accepted_iff {command : Store.Command} : command ∈ node.accepted request ↔
    node.readOnly = false ∧ request.write? = some command := by
  unfold accepted
  split <;> simp_all

/-- Of all that a request can ask of a store only a write makes a difference. -/
theorem store_perform (store : Store) (request : Request) :
    ((storeCommand? request).elim store fun command => (store.perform command).1) =
      store.run request.write?.toList := by
  cases request <;> rfl

theorem store_handle (node : Node) (functions : Functions) (request : Request) :
    (node.handle functions request).1.store = node.store.run (node.accepted request) := by
  by_cases hrefused : request.isWrite && node.readOnly
  · have hreadOnly : node.readOnly = true := (Bool.and_eq_true_iff.mp hrefused).2
    rw [handle, if_pos hrefused, accepted, if_pos hreadOnly]
    rfl
  · have haccepted : node.accepted request = request.write?.toList := by
      unfold accepted
      split
      · rename_i hreadOnly
        have hreads : request.isWrite = false := by simpa [hreadOnly] using hrefused
        rw [Request.write?_of_reads hreads]
        rfl
      · rfl
    rw [haccepted, ← store_perform, handle, if_neg hrefused]
    cases storeCommand? request with
    | none => cases node.answer functions request <;> rfl
    | some command =>
        dsimp only [Option.elim_some]
        rcases node.store.perform command with ⟨store, _ | _⟩ <;> rfl

end Node

namespace Cluster

variable {cluster : Cluster} {node : NodeId} {move : Move}

def data (cluster : Cluster) (node : NodeId) : Store :=
  match cluster.nodes[node]? with
  | some present => present.store
  | none => .empty

def written (cluster : Cluster) (node : NodeId) : Move → List Store.Command
  | .execute connection request =>
      match cluster.connections[connection]?, cluster.nodes[node]? with
      | some present, some taker =>
          if present.link = .connected ∧ present.node = node then taker.accepted request else []
      | _, _ => []
  | _ => []

def writes (cluster : Cluster) (node : NodeId) : List Move → List Store.Command
  | [] => []
  | move :: rest => cluster.written node move ++ (cluster.move move).writes node rest

theorem data_eq {present : Node} (hpresent : cluster.nodes[node]? = some present) :
    cluster.data node = present.store := by
  simp only [data, hpresent]

theorem data_modifyNode (cluster : Cluster) (changed node : NodeId) {change : Node → Node}
    (hkeeps : ∀ present, (change present).store = present.store) :
    (cluster.modifyNode changed change).data node = cluster.data node := by
  simp only [data, modifyNode, List.getElem?_modify]
  cases cluster.nodes[node]? with
  | none => rfl
  | some present =>
      simp only [Option.map_some, Functor.map]
      split
      · exact hkeeps present
      · rfl

theorem data_congr {later : Cluster} (hnodes : later.nodes = cluster.nodes) (node : NodeId) :
    later.data node = cluster.data node := by
  simp only [data, hnodes]

theorem data_addNode (cluster : Cluster) (addr : String) (readOnly : Bool) (node : NodeId) :
    (cluster.addNode addr readOnly).data node = cluster.data node := by
  simp only [data, addNode]
  rcases Nat.lt_trichotomy node cluster.nodes.length with hold | rfl | hmissing
  · rw [List.getElem?_append_left hold]
  · simp
  · rw [List.getElem?_eq_none (Nat.le_of_lt hmissing), List.getElem?_eq_none]
    simpa using Nat.succ_le_of_lt hmissing

structure Carries (cluster : Cluster) (connection : ConnectionId) (present : Connection)
    (taker : Node) : Prop where
  present_eq : cluster.connections[connection]? = some present
  connected : present.link = .connected
  taker_eq : cluster.nodes[present.node]? = some taker

section Requests

variable {connection : ConnectionId} {present : Connection} {taker : Node}

theorem nodes_execute_of_carries (hcarries : cluster.Carries connection present taker)
    (request : Request) : (cluster.execute connection request).1.nodes =
      cluster.nodes.set present.node (taker.handle cluster.functions request).1 := by
  simp only [execute, hcarries.present_eq, hcarries.connected, hcarries.taker_eq]

theorem execute_of_not_carries
    (hlost : ∀ present taker, ¬cluster.Carries connection present taker) (request : Request) :
    (cluster.execute connection request).1 = cluster := by
  unfold execute
  split
  · rfl
  · rename_i present hpresent
    split
    · rfl
    · rfl
    · rename_i hconnected
      split
      · rfl
      · rename_i taker htaker
        exact absurd ⟨hpresent, hconnected, htaker⟩ (hlost present taker)

theorem written_of_carries (hcarries : cluster.Carries connection present taker)
    (request : Request) (node : NodeId) : cluster.written node (.execute connection request) =
      if present.node = node then taker.accepted request else [] := by
  by_cases hsame : present.node = node
  · subst hsame
    simp only [written, hcarries.present_eq, hcarries.taker_eq, hcarries.connected, and_self, if_true]
  · have hother : ¬(present.link = .connected ∧ present.node = node) := fun hboth => hsame hboth.2
    simp only [written, hcarries.present_eq, if_neg hsame]
    cases cluster.nodes[node]? with
    | none => rfl
    | some other => exact if_neg hother

theorem written_of_not_carries
    (hlost : ∀ present taker, ¬cluster.Carries connection present taker) (request : Request)
    (node : NodeId) : cluster.written node (.execute connection request) = [] := by
  simp only [written]
  split
  · rename_i present taker hpresent htaker
    refine if_neg ?_
    rintro ⟨hconnected, rfl⟩
    exact hlost present taker ⟨hpresent, hconnected, htaker⟩
  · rfl

/-- A node accepts what a connected connection to it carries, unless it is read-only. -/
theorem mem_written_iff {command : Store.Command} : command ∈ cluster.written node move ↔
    ∃ connection request present taker, move = .execute connection request ∧
      request.write? = some command ∧ cluster.Carries connection present taker ∧
      present.node = node ∧ taker.readOnly = false := by
  constructor
  · intro hmem
    cases move with
    | execute connection request =>
        by_cases hcarries : ∃ present taker, cluster.Carries connection present taker
        · obtain ⟨present, taker, hcarries⟩ := hcarries
          rw [written_of_carries hcarries] at hmem
          split at hmem
          · rename_i hnode
            obtain ⟨hwritable, hwrite⟩ := Node.mem_accepted_iff.mp hmem
            exact ⟨connection, request, present, taker, rfl, hwrite, hcarries, hnode, hwritable⟩
          · cases hmem
        · push Not at hcarries
          rw [written_of_not_carries hcarries] at hmem
          cases hmem
    | _ => cases hmem
  · rintro ⟨connection, request, present, taker, rfl, hwrite, hcarries, hnode, hwritable⟩
    rw [written_of_carries hcarries, if_pos hnode]
    exact Node.mem_accepted_iff.mpr ⟨hwritable, hwrite⟩

theorem data_execute (cluster : Cluster) (connection : ConnectionId) (request : Request)
    (node : NodeId) : (cluster.execute connection request).1.data node =
      (cluster.data node).run (cluster.written node (.execute connection request)) := by
  by_cases hcarries : ∃ present taker, cluster.Carries connection present taker
  · obtain ⟨present, taker, hcarries⟩ := hcarries
    have hnodes := nodes_execute_of_carries hcarries request
    rw [written_of_carries hcarries]
    by_cases hsame : present.node = node
    · subst hsame
      have hlater : (cluster.execute connection request).1.nodes[present.node]? =
          some (taker.handle cluster.functions request).1 := by
        rw [hnodes, List.getElem?_set_self (List.getElem?_eq_some_iff.mp hcarries.taker_eq).1]
      rw [if_pos rfl, data_eq hlater, data_eq hcarries.taker_eq, Node.store_handle]
    · rw [if_neg hsame, data, hnodes, List.getElem?_set_ne hsame]
      rfl
  · push Not at hcarries
    rw [written_of_not_carries hcarries, execute_of_not_carries hcarries]
    rfl

end Requests

theorem data_change (cluster : Cluster) (change : ClusterChange) (node : NodeId) :
    (cluster.change change).data node = cluster.data node := by
  cases change with
  | addNode addr readOnly => exact data_addNode cluster addr readOnly node
  | register name results => rfl
  | setReadOnly changed readOnly => exact data_modifyNode cluster changed node fun _ => rfl
  | stop stopped =>
      exact (data_congr nodes_shift node).trans (data_modifyNode cluster stopped node fun _ => rfl)
  | start started => exact data_modifyNode cluster started node fun _ => rfl
  | setLink changed up =>
      exact (data_congr nodes_shift node).trans (data_modifyNode cluster changed node fun _ => rfl)

/-- What a move makes of the data of a node are the writes that the node accepts with it. -/
theorem data_move (cluster : Cluster) (move : Move) (node : NodeId) :
    (cluster.move move).data node = (cluster.data node).run (cluster.written node move) := by
  cases move with
  | change change => exact data_change cluster change node
  | dial addr queue => exact data_congr (nodes_dial cluster addr queue) node
  | execute connection request => exact data_execute cluster connection request node
  | close connection => exact data_congr nodes_shift node
  | _ => rfl

theorem data_play (cluster : Cluster) (moves : List Move) (node : NodeId) :
    (cluster.play moves).data node = (cluster.data node).run (cluster.writes node moves) := by
  induction moves generalizing cluster with
  | nil => rfl
  | cons move rest ih => rw [play_cons, ih, data_move, writes, Store.run_append]

theorem writes_eq_nil {moves : List Move}
    (hquiet : ∀ move ∈ moves, ∀ cluster : Cluster, cluster.written node move = []) :
    cluster.writes node moves = [] := by
  induction moves generalizing cluster with
  | nil => rfl
  | cons move rest ih =>
      rw [writes, hquiet move List.mem_cons_self, List.nil_append]
      exact ih fun later hmem => hquiet later (List.mem_cons_of_mem _ hmem)

end Cluster

end ReplicaPool
