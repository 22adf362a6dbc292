import Mathlib.Data.List.Basic
import ReplicaPool.Cluster.Basic

/-!
# How a cluster evolves

Whatever happens to a cluster, its connections stay: they keep their address, node and queue, and one that
is closed stays closed. `Cluster.Evolves opened` says so of two states of a cluster, and that every
connection made in between reports to a queue that satisfies `opened`. It is reflexive and transitive,
and every operation on clusters is an instance.
-/

namespace ReplicaPool

structure Connection.Continues (earlier later : Connection) : Prop where
  addr_eq : later.addr = earlier.addr
  node_eq : later.node = earlier.node
  queue_eq : later.queue = earlier.queue
  closed : earlier.link = .closed → later.link = .closed

theorem Connection.Continues.refl (connection : Connection) : connection.Continues connection :=
  ⟨rfl, rfl, rfl, id⟩

theorem Connection.Continues.trans {first middle last : Connection}
    (hearly : first.Continues middle) (hlate : middle.Continues last) : first.Continues last where
  addr_eq := hlate.addr_eq.trans hearly.addr_eq
  node_eq := hlate.node_eq.trans hearly.node_eq
  queue_eq := hlate.queue_eq.trans hearly.queue_eq
  closed := fun hclosed => hlate.closed (hearly.closed hclosed)

namespace Cluster

variable {cluster earlier middle later : Cluster} {opened : QueueId → Prop}
  {id : ConnectionId} {present : Connection} {addr : String} {queue : QueueId}

/-- A connection of a cluster that was dialled to an address and reports to a queue. -/
def Serves (cluster : Cluster) (id : ConnectionId) (addr : String) (queue : QueueId) : Prop :=
  ∃ present, cluster.connections[id]? = some present ∧ present.addr = addr ∧ present.queue = queue

theorem link_eq (hpresent : cluster.connections[id]? = some present) :
    cluster.link id = present.link := by
  simp [link, hpresent]

theorem isClosed_iff : cluster.isClosed id = true ↔ cluster.link id = .closed := by
  simp [isClosed]

theorem Serves.addr_unique {other : String} {otherQueue : QueueId}
    (hserves : cluster.Serves id addr queue) (hother : cluster.Serves id other otherQueue) :
    addr = other := by
  obtain ⟨present, hpresent, rfl, -⟩ := hserves
  obtain ⟨present', hpresent', rfl, -⟩ := hother
  rw [hpresent] at hpresent'
  rw [Option.some.inj hpresent']

theorem Serves.queue_unique {other : String} {otherQueue : QueueId}
    (hserves : cluster.Serves id addr queue) (hother : cluster.Serves id other otherQueue) :
    queue = otherQueue := by
  obtain ⟨present, hpresent, -, rfl⟩ := hserves
  obtain ⟨present', hpresent', -, rfl⟩ := hother
  rw [hpresent] at hpresent'
  rw [Option.some.inj hpresent']

theorem Serves.connectionAddr_eq (hserves : cluster.Serves id addr queue) :
    cluster.connectionAddr id = addr := by
  obtain ⟨present, hpresent, rfl, -⟩ := hserves
  simp [connectionAddr, hpresent]

theorem Serves.lt_length (hserves : cluster.Serves id addr queue) :
    id < cluster.connections.length := by
  obtain ⟨present, hpresent, -⟩ := hserves
  exact (List.getElem?_eq_some_iff.mp hpresent).1

/-- What may become of a cluster in which only queues that satisfy `opened` got new connections. -/
structure Evolves (opened : QueueId → Prop) (earlier later : Cluster) : Prop where
  kept : ∀ {id : ConnectionId} {present : Connection}, earlier.connections[id]? = some present →
    ∃ continued, later.connections[id]? = some continued ∧ present.Continues continued
  made : ∀ {id : ConnectionId} {present : Connection}, later.connections[id]? = some present →
    earlier.connections.length ≤ id → opened present.queue
  nodes_le : earlier.nodes.length ≤ later.nodes.length
  queues_le : earlier.queues.length ≤ later.queues.length

theorem Evolves.refl (cluster : Cluster) : cluster.Evolves opened cluster where
  kept := fun hpresent => ⟨_, hpresent, .refl _⟩
  made := by
    intro id present hpresent hle
    exact absurd (List.getElem?_eq_some_iff.mp hpresent).1 (by omega)
  nodes_le := Nat.le_refl _
  queues_le := Nat.le_refl _

theorem evolves_self (cluster : Cluster) : cluster.Evolves (fun _ => False) cluster :=
  .refl cluster

/-- A later connection was there before, or it is new and reports to an opened queue. -/
theorem Evolves.origin (hevolves : earlier.Evolves opened later)
    (hpresent : later.connections[id]? = some present) :
    (∃ before, earlier.connections[id]? = some before ∧ before.Continues present) ∨
      (earlier.connections.length ≤ id ∧ opened present.queue) := by
  by_cases hid : id < earlier.connections.length
  · left
    have hbefore := List.getElem?_eq_getElem hid
    obtain ⟨continued, hcontinued, hcontinues⟩ := hevolves.kept hbefore
    rw [hpresent] at hcontinued
    exact ⟨_, hbefore, Option.some.inj hcontinued ▸ hcontinues⟩
  · have hle := Nat.le_of_not_lt hid
    exact Or.inr ⟨hle, hevolves.made hpresent hle⟩

theorem Evolves.length_le (hevolves : earlier.Evolves opened later) :
    earlier.connections.length ≤ later.connections.length := by
  by_contra hlt
  have hbefore : earlier.connections[later.connections.length]? =
      some earlier.connections[later.connections.length] := List.getElem?_eq_getElem (by omega)
  obtain ⟨continued, hcontinued, -⟩ := hevolves.kept hbefore
  exact absurd (List.getElem?_eq_some_iff.mp hcontinued).1 (Nat.lt_irrefl _)

theorem Evolves.trans (hearly : earlier.Evolves opened middle)
    (hlate : middle.Evolves opened later) : earlier.Evolves opened later where
  kept := by
    intro id present hpresent
    obtain ⟨halfway, hhalfway, hfirst⟩ := hearly.kept hpresent
    obtain ⟨continued, hcontinued, hsecond⟩ := hlate.kept hhalfway
    exact ⟨continued, hcontinued, hfirst.trans hsecond⟩
  made := by
    intro id present hpresent hle
    rcases hlate.origin hpresent with ⟨before, hbefore, hcontinues⟩ | ⟨-, hopened⟩
    · rw [hcontinues.queue_eq]
      exact hearly.made hbefore hle
    · exact hopened
  nodes_le := Nat.le_trans hearly.nodes_le hlate.nodes_le
  queues_le := Nat.le_trans hearly.queues_le hlate.queues_le

theorem Evolves.mono {wider : QueueId → Prop} (hevolves : earlier.Evolves opened later)
    (hwider : ∀ queue, opened queue → wider queue) : earlier.Evolves wider later :=
  { hevolves with made := fun hpresent hle => hwider _ (hevolves.made hpresent hle) }

theorem Evolves.serves (hevolves : earlier.Evolves opened later)
    (hserves : earlier.Serves id addr queue) : later.Serves id addr queue := by
  obtain ⟨present, hpresent, rfl, rfl⟩ := hserves
  obtain ⟨continued, hcontinued, hcontinues⟩ := hevolves.kept hpresent
  exact ⟨continued, hcontinued, hcontinues.addr_eq, hcontinues.queue_eq⟩

theorem Evolves.serves_origin (hevolves : earlier.Evolves opened later)
    (hserves : later.Serves id addr queue) :
    earlier.Serves id addr queue ∨ (earlier.connections.length ≤ id ∧ opened queue) := by
  obtain ⟨present, hpresent, rfl, rfl⟩ := hserves
  rcases hevolves.origin hpresent with ⟨before, hbefore, hcontinues⟩ | hnew
  · exact Or.inl ⟨before, hbefore, hcontinues.addr_eq.symm, hcontinues.queue_eq.symm⟩
  · exact Or.inr hnew

theorem Evolves.link_closed (hevolves : earlier.Evolves opened later)
    (hserves : earlier.Serves id addr queue) (hclosed : earlier.link id = .closed) :
    later.link id = .closed := by
  obtain ⟨present, hpresent, -⟩ := hserves
  obtain ⟨continued, hcontinued, hcontinues⟩ := hevolves.kept hpresent
  rw [link_eq hpresent] at hclosed
  rw [link_eq hcontinued]
  exact hcontinues.closed hclosed

theorem Evolves.of_connections_eq (hconnections : later.connections = earlier.connections)
    (hnodes : earlier.nodes.length ≤ later.nodes.length)
    (hqueues : earlier.queues.length ≤ later.queues.length) : earlier.Evolves opened later where
  kept := fun hpresent => ⟨_, hconnections ▸ hpresent, .refl _⟩
  made := by
    intro id present hpresent hle
    rw [hconnections] at hpresent
    exact absurd (List.getElem?_eq_some_iff.mp hpresent).1 (by omega)
  nodes_le := hnodes
  queues_le := hqueues

/-! ### Delivering reports -/

theorem deliver_eq (cluster : Cluster) (reports : List (QueueId × Event)) :
    cluster.deliver reports = { cluster with queues := (cluster.deliver reports).queues } := by
  induction reports generalizing cluster with
  | nil => rfl
  | cons report rest ih => exact ih (cluster.modifyQueue report.1 (·.emit report.2))

@[simp]
theorem connections_deliver (cluster : Cluster) (reports : List (QueueId × Event)) :
    (cluster.deliver reports).connections = cluster.connections := by
  rw [deliver_eq]

@[simp]
theorem nodes_deliver (cluster : Cluster) (reports : List (QueueId × Event)) :
    (cluster.deliver reports).nodes = cluster.nodes := by
  rw [deliver_eq]

@[simp]
theorem directory_deliver (cluster : Cluster) (reports : List (QueueId × Event)) :
    (cluster.deliver reports).directory = cluster.directory := by
  rw [deliver_eq]

@[simp]
theorem length_queues_deliver (cluster : Cluster) (reports : List (QueueId × Event)) :
    (cluster.deliver reports).queues.length = cluster.queues.length := by
  induction reports generalizing cluster with
  | nil => rfl
  | cons report rest ih =>
      calc (cluster.deliver (report :: rest)).queues.length
          = (cluster.modifyQueue report.1 (·.emit report.2)).queues.length := ih _
        _ = cluster.queues.length := by simp [modifyQueue]

/-! ### Changing links -/

section Shift

variable {concerns : ConnectionId → Connection → Bool} {change : Link → Link × List EventKind}

theorem getElem?_connections_shift :
    (cluster.shift concerns change).connections[id]? =
      (cluster.connections[id]?).map fun present =>
        if concerns id present then { present with link := (change present.link).1 }
        else present := by
  simp [shift, List.getElem?_mapIdx]

@[simp]
theorem nodes_shift : (cluster.shift concerns change).nodes = cluster.nodes := by
  simp [shift]

@[simp]
theorem directory_shift : (cluster.shift concerns change).directory = cluster.directory := by
  simp [shift]

/-- A shift that leaves closed links closed makes no new connections. -/
theorem evolves_shift (hclosed : (change .closed).1 = .closed) :
    cluster.Evolves opened (cluster.shift concerns change) where
  kept := by
    intro id present hpresent
    refine ⟨_, by rw [getElem?_connections_shift, hpresent, Option.map_some], ?_⟩
    split
    · refine ⟨rfl, rfl, rfl, fun hlink => ?_⟩
      simp only [hlink, hclosed]
    · exact .refl _
  made := by
    intro id present hpresent hle
    rw [getElem?_connections_shift, List.getElem?_eq_none hle] at hpresent
    cases hpresent
  nodes_le := by simp
  queues_le := by simp [shift]

end Shift

/-! ### The operations -/

theorem evolves_modifyNode (cluster : Cluster) (node : NodeId) (change : Node → Node) :
    cluster.Evolves opened (cluster.modifyNode node change) :=
  .of_connections_eq rfl (by simp [modifyNode]) (Nat.le_refl _)

theorem evolves_modifyQueue (cluster : Cluster) (queue : QueueId)
    (change : EventQueue → EventQueue) :
    cluster.Evolves opened (cluster.modifyQueue queue change) :=
  .of_connections_eq rfl (Nat.le_refl _) (by simp [modifyQueue])

theorem evolves_addNode (cluster : Cluster) (addr : String) (readOnly : Bool) :
    cluster.Evolves opened (cluster.addNode addr readOnly) :=
  .of_connections_eq rfl (by simp [addNode]) (Nat.le_refl _)

theorem evolves_register (cluster : Cluster) (name : String) (results : List Json) :
    cluster.Evolves opened (cluster.register name results) :=
  .of_connections_eq rfl (Nat.le_refl _) (Nat.le_refl _)

theorem evolves_addQueue (cluster : Cluster) (capacity : Nat) :
    cluster.Evolves opened (cluster.addQueue capacity).2 :=
  .of_connections_eq rfl (Nat.le_refl _) (by simp [addQueue])

theorem evolves_setReadOnly (cluster : Cluster) (node : NodeId) (readOnly : Bool) :
    cluster.Evolves opened (cluster.setReadOnly node readOnly) :=
  evolves_modifyNode _ _ _

theorem evolves_start (cluster : Cluster) (node : NodeId) :
    cluster.Evolves opened (cluster.start node) :=
  evolves_modifyNode _ _ _

theorem evolves_stop (cluster : Cluster) (node : NodeId) :
    cluster.Evolves opened (cluster.stop node) :=
  (evolves_modifyNode _ _ _).trans (evolves_shift rfl)

theorem evolves_setLink (cluster : Cluster) (node : NodeId) (up : Bool) :
    cluster.Evolves opened (cluster.setLink node up) :=
  (evolves_modifyNode _ _ _).trans (evolves_shift (by cases up <;> rfl))

theorem evolves_close (cluster : Cluster) (id : ConnectionId) :
    cluster.Evolves opened (cluster.close id) :=
  evolves_shift rfl

@[simp]
theorem link_close_self (cluster : Cluster) (id : ConnectionId) :
    (cluster.close id).link id = .closed := by
  rw [link, close, getElem?_connections_shift]
  cases cluster.connections[id]? with
  | none => rfl
  | some present => cases hlink : present.link <;> simp [Link.close, hlink]

theorem link_close_of_ne {other : ConnectionId} (hne : other ≠ id) :
    (cluster.close id).link other = cluster.link other := by
  rw [link, link, close, getElem?_connections_shift]
  cases cluster.connections[other]? <;> simp [hne]

theorem evolves_release (cluster : Cluster) (connections : List ConnectionId) :
    cluster.Evolves opened (cluster.release connections) where
  kept := by
    intro id present hpresent
    refine ⟨_, by rw [release, List.getElem?_mapIdx, hpresent, Option.map_some], ?_⟩
    split
    · exact ⟨rfl, rfl, rfl, fun hclosed => hclosed⟩
    · exact .refl _
  made := by
    intro id present hpresent hle
    rw [release, List.getElem?_mapIdx, List.getElem?_eq_none hle] at hpresent
    cases hpresent
  nodes_le := Nat.le_refl _
  queues_le := Nat.le_refl _

theorem evolves_execute (cluster : Cluster) (id : ConnectionId) (request : Request) :
    cluster.Evolves opened (cluster.execute id request).1 := by
  unfold execute
  split
  · exact .refl _
  · split
    · exact .refl _
    · exact .refl _
    · split
      · exact .refl _
      · exact .of_connections_eq rfl (by simp) (Nat.le_refl _)

@[simp]
theorem directory_execute (cluster : Cluster) (id : ConnectionId) (request : Request) :
    (cluster.execute id request).1.directory = cluster.directory := by
  unfold execute
  split
  · rfl
  · split
    · rfl
    · rfl
    · split <;> rfl

/-! ### Dialling -/

structure Accepts (cluster : Cluster) (addr : String) (node : NodeId) (taker : Node) : Prop where
  nodeAt : cluster.nodeAt? addr = some node
  node : cluster.nodes[node]? = some taker
  running : taker.running = true

def fresh (addr : String) (queue : QueueId) (node : NodeId) (taker : Node) : Connection :=
  { addr, node, queue, link := if taker.linkUp then .connected else .disconnected }

theorem dial_of_accepts {node : NodeId} {taker : Node} (haccepts : cluster.Accepts addr node taker) :
    cluster.dial addr queue =
      (({ cluster with
          dials := cluster.dials + 1
          connections := cluster.connections ++ [fresh addr queue node taker] } : Cluster).deliver
            [(queue, ⟨addr, .connected⟩)],
        .ok cluster.connections.length) := by
  have hnodeAt : nodeAt? { cluster with dials := cluster.dials + 1 } addr = some node :=
    haccepts.nodeAt
  simp [dial, hnodeAt, haccepts.node, haccepts.running, fresh]

theorem dial_of_refused (hrefused : ¬∃ node taker, cluster.Accepts addr node taker) :
    cluster.dial addr queue =
      ({ cluster with dials := cluster.dials + 1 }, .error (.refused addr)) := by
  simp only [dial]
  split
  · rfl
  · rename_i node hnodeAt
    split
    · rfl
    · rename_i taker hnode
      split
      · rename_i hrunning
        exact absurd ⟨node, taker, hnodeAt, hnode, hrunning⟩ hrefused
      · rfl

theorem exists_accepts_of_dial_eq_ok (hdial : (cluster.dial addr queue).2 = .ok id) :
    ∃ node taker, cluster.Accepts addr node taker := by
  by_contra hrefused
  rw [dial_of_refused hrefused] at hdial
  cases hdial

theorem connections_dial_error {cause : ConnectionError}
    (hdial : (cluster.dial addr queue).2 = .error cause) :
    (cluster.dial addr queue).1.connections = cluster.connections := by
  by_cases haccepts : ∃ node taker, cluster.Accepts addr node taker
  · obtain ⟨node, taker, haccepts⟩ := haccepts
    rw [dial_of_accepts haccepts] at hdial
    cases hdial
  · rw [dial_of_refused haccepts]

@[simp]
theorem nodes_dial (cluster : Cluster) (addr : String) (queue : QueueId) :
    (cluster.dial addr queue).1.nodes = cluster.nodes := by
  by_cases haccepts : ∃ node taker, cluster.Accepts addr node taker
  · obtain ⟨node, taker, haccepts⟩ := haccepts
    simp [dial_of_accepts haccepts]
  · rw [dial_of_refused haccepts]

@[simp]
theorem directory_dial (cluster : Cluster) (addr : String) (queue : QueueId) :
    (cluster.dial addr queue).1.directory = cluster.directory := by
  by_cases haccepts : ∃ node taker, cluster.Accepts addr node taker
  · obtain ⟨node, taker, haccepts⟩ := haccepts
    simp [dial_of_accepts haccepts]
  · rw [dial_of_refused haccepts]

theorem evolves_dial (cluster : Cluster) (addr : String) (queue : QueueId) :
    cluster.Evolves (· = queue) (cluster.dial addr queue).1 := by
  by_cases haccepts : ∃ node taker, cluster.Accepts addr node taker
  · obtain ⟨node, taker, haccepts⟩ := haccepts
    rw [dial_of_accepts haccepts]
    refine ⟨?_, ?_, by simp, by simp⟩
    · intro id present hpresent
      have hid := (List.getElem?_eq_some_iff.mp hpresent).1
      refine ⟨present, ?_, .refl _⟩
      rw [connections_deliver, List.getElem?_append_left hid, hpresent]
    · intro id present hpresent hle
      rw [connections_deliver, List.getElem?_append_right hle] at hpresent
      have hmem := List.mem_singleton.mp (List.mem_of_getElem? hpresent)
      rw [hmem, fresh]
  · rw [dial_of_refused haccepts]
    exact .of_connections_eq rfl (Nat.le_refl _) (Nat.le_refl _)

theorem serves_dial (hdial : (cluster.dial addr queue).2 = .ok id) :
    id = cluster.connections.length ∧ (cluster.dial addr queue).1.Serves id addr queue ∧
      (cluster.dial addr queue).1.connections.length = cluster.connections.length + 1 := by
  obtain ⟨node, taker, haccepts⟩ := exists_accepts_of_dial_eq_ok hdial
  rw [dial_of_accepts haccepts] at hdial ⊢
  have hid : cluster.connections.length = id := by injection hdial
  subst hid
  refine ⟨rfl, ⟨fresh addr queue node taker, ?_, rfl, rfl⟩, ?_⟩
  · rw [connections_deliver, List.getElem?_concat_length]
  · rw [connections_deliver, List.length_append, List.length_singleton]

/-! ### Nodes exist -/

structure WellFormed (cluster : Cluster) : Prop where
  node_lt : ∀ {id : ConnectionId} {present : Connection}, cluster.connections[id]? = some present →
    present.node < cluster.nodes.length
  directory_lt : ∀ {addr node}, cluster.nodeAt? addr = some node → node < cluster.nodes.length

theorem wellFormed_empty : WellFormed {} where
  node_lt := by
    intro id present hpresent
    simp at hpresent
  directory_lt := by
    intro addr node hnodeAt
    simp [nodeAt?] at hnodeAt

theorem WellFormed.evolves (hwellFormed : earlier.WellFormed)
    (hevolves : earlier.Evolves (fun _ => False) later)
    (hdirectory : later.directory = earlier.directory) : later.WellFormed where
  node_lt := by
    intro id present hpresent
    rcases hevolves.origin hpresent with ⟨before, hbefore, hcontinues⟩ | ⟨-, hfalse⟩
    · rw [hcontinues.node_eq]
      exact Nat.lt_of_lt_of_le (hwellFormed.node_lt hbefore) hevolves.nodes_le
    · exact hfalse.elim
  directory_lt := by
    intro addr node hnodeAt
    rw [nodeAt?, hdirectory] at hnodeAt
    exact Nat.lt_of_lt_of_le (hwellFormed.directory_lt hnodeAt) hevolves.nodes_le

theorem WellFormed.close (hwellFormed : cluster.WellFormed) (id : ConnectionId) :
    (cluster.close id).WellFormed :=
  hwellFormed.evolves (evolves_close cluster id) directory_shift

theorem WellFormed.execute (hwellFormed : cluster.WellFormed) (id : ConnectionId)
    (request : Request) : (cluster.execute id request).1.WellFormed :=
  hwellFormed.evolves (evolves_execute cluster id request) (directory_execute cluster id request)

theorem WellFormed.addNode (hwellFormed : cluster.WellFormed) (addr : String) (readOnly : Bool) :
    (cluster.addNode addr readOnly).WellFormed where
  node_lt := by
    intro id present hpresent
    simp only [Cluster.addNode, List.length_append, List.length_singleton]
    exact Nat.lt_succ_of_lt (hwellFormed.node_lt hpresent)
  directory_lt := by
    intro other node hnodeAt
    rw [Cluster.addNode, nodeAt?, List.lookup_cons] at hnodeAt
    simp only [Cluster.addNode, List.length_append, List.length_singleton]
    split at hnodeAt
    · rw [← Option.some.inj hnodeAt]
      exact Nat.lt_succ_self _
    · exact Nat.lt_succ_of_lt (hwellFormed.directory_lt hnodeAt)

theorem WellFormed.dial (hwellFormed : cluster.WellFormed) (addr : String) (queue : QueueId) :
    (cluster.dial addr queue).1.WellFormed where
  node_lt := by
    intro id present hpresent
    rw [nodes_dial]
    by_cases haccepts : ∃ node taker, cluster.Accepts addr node taker
    · obtain ⟨node, taker, haccepts⟩ := haccepts
      rw [dial_of_accepts haccepts, connections_deliver] at hpresent
      rcases List.mem_append.mp (List.mem_of_getElem? hpresent) with hold | hnew
      · obtain ⟨index, hindex⟩ := List.mem_iff_getElem?.mp hold
        exact hwellFormed.node_lt hindex
      · rw [List.mem_singleton.mp hnew]
        exact hwellFormed.directory_lt haccepts.nodeAt
    · rw [dial_of_refused haccepts] at hpresent
      exact hwellFormed.node_lt hpresent
  directory_lt := by
    intro other node hnodeAt
    rw [nodeAt?, directory_dial] at hnodeAt
    rw [nodes_dial]
    exact hwellFormed.directory_lt hnodeAt

end Cluster

end ReplicaPool
