import ReplicaPool.Proofs.Cluster.Answers
import ReplicaPool.Proofs.Cluster.Moves

/-!
# Links follow nodes

A connection follows its node: until it is closed the node runs, and the connection is up when the link of
the node is. Every move keeps this of every connection that is held, so it holds after every run. A closed
connection stays closed, and requests over it do not reach the node.
-/

namespace ReplicaPool

def Move.runs (move : Move) (id : NodeId) (node : Node) : Bool :=
  match move with
  | .change (.stop stopped) => if stopped = id then false else node.running
  | .change (.start started) => if started = id then true else node.running
  | _ => node.running

def Move.linksUp (move : Move) (id : NodeId) (node : Node) : Bool :=
  match move with
  | .change (.setLink changed up) => if changed = id then up else node.linkUp
  | _ => node.linkUp

/-- A connection that is closed, or that is up as the link of its running node is. -/
def Connection.Follows (present : Connection) (node : Node) : Prop :=
  present.link = .closed ∨
    node.running = true ∧ present.link = if node.linkUp then .connected else .disconnected

namespace Cluster

variable {cluster : Cluster} {id : NodeId} {node later : Node} {present : Connection}

/-! ### One move -/

theorem getElem?_nodes_modify (hnode : cluster.nodes[id]? = some node) (changed : NodeId)
    (change : Node → Node) : (cluster.modifyNode changed change).nodes[id]? =
      some (if changed = id then change node else node) := by
  rw [modifyNode, List.getElem?_modify, hnode]
  split <;> rfl

theorem exists_node_execute (hnode : cluster.nodes[id]? = some node) (connection : ConnectionId)
    (request : Request) : ∃ store,
      (cluster.execute connection request).1.nodes[id]? = some { node with store } := by
  have hsame : ∃ store, cluster.nodes[id]? = some { node with store } := ⟨node.store, hnode⟩
  unfold execute
  split
  · exact hsame
  · rename_i present hpresent
    split
    · exact hsame
    · exact hsame
    · split
      · exact hsame
      · rename_i taker htaker
        by_cases hid : present.node = id
        · rw [hid] at htaker ⊢
          obtain rfl : taker = node := Option.some.inj (htaker.symm.trans hnode)
          obtain ⟨store, hstore⟩ := taker.exists_store_handle cluster.functions request
          refine ⟨store, ?_⟩
          dsimp only
          rw [List.getElem?_set_self (List.getElem?_eq_some_iff.mp hnode).1, hstore]
        · refine ⟨node.store, ?_⟩
          dsimp only
          rw [List.getElem?_set_ne hid, hnode]

/-- A node stays, and changes from outside set whether it runs and whether its link is up. -/
theorem exists_node_move (hnode : cluster.nodes[id]? = some node) (move : Move) :
    ∃ later, (cluster.move move).nodes[id]? = some later ∧ later.running = move.runs id node ∧
      later.linkUp = move.linksUp id node := by
  cases move with
  | change change =>
      cases change with
      | addNode addr readOnly =>
          refine ⟨node, ?_, rfl, rfl⟩
          simp only [Cluster.move, Cluster.change, addNode]
          rw [List.getElem?_append_left (List.getElem?_eq_some_iff.mp hnode).1, hnode]
      | register name results => exact ⟨node, hnode, rfl, rfl⟩
      | setReadOnly changed readOnly =>
          refine ⟨_, getElem?_nodes_modify hnode changed _, ?_, ?_⟩
          · split <;> rfl
          · split <;> rfl
      | stop stopped =>
          refine ⟨_, (congrArg (·[id]?) nodes_shift).trans (getElem?_nodes_modify hnode stopped _), ?_, ?_⟩
          · simp only [Move.runs]
            split <;> rfl
          · split <;> rfl
      | start started =>
          refine ⟨_, getElem?_nodes_modify hnode started _, ?_, ?_⟩
          · simp only [Move.runs]
            split <;> rfl
          · split <;> rfl
      | setLink changed up =>
          refine ⟨_, (congrArg (·[id]?) nodes_shift).trans (getElem?_nodes_modify hnode changed _), ?_, ?_⟩
          · split <;> rfl
          · simp only [Move.linksUp]
            split <;> rfl
  | execute connection request =>
      obtain ⟨store, hstore⟩ := exists_node_execute hnode connection request
      exact ⟨_, hstore, rfl, rfl⟩
  | dial addr queue => exact ⟨node, by rw [Cluster.move, nodes_dial, hnode], rfl, rfl⟩
  | close connection => exact ⟨node, by rw [Cluster.move, close, nodes_shift, hnode], rfl, rfl⟩
  | _ => exact ⟨node, hnode, rfl, rfl⟩

end Cluster

/-! ### Connections that follow -/

theorem Link.terminate_fst (link : Link) : link.terminate.1 = .closed := by
  cases link <;> rfl

theorem Link.close_fst (link : Link) : link.close.1 = .closed := by
  cases link <;> rfl

section Follows

variable {present : Connection} {node later : Node} {id : ConnectionId}

/-- A move that leaves the link alone only has to keep the node running and its link as it is. -/
theorem Connection.Follows.of_idle {move : Move} (hfollows : present.Follows node)
    (hidle : (move.effect id present).1 = present.link)
    (hruns : node.running = true → later.running = true) (hlinks : later.linkUp = node.linkUp) :
    (move.onConnection id present).Follows later := by
  simp only [Connection.Follows, Move.onConnection, hidle, hlinks]
  exact hfollows.imp_right fun hopen => ⟨hruns hopen.1, hopen.2⟩

theorem Connection.Follows.stop {stopped : NodeId} (hfollows : present.Follows node)
    (hheld : present.held = true)
    (hruns : later.running = (Move.change (.stop stopped)).runs present.node node)
    (hlinks : later.linkUp = node.linkUp) :
    ((Move.change (.stop stopped)).onConnection id present).Follows later := by
  by_cases hsame : stopped = present.node
  · left
    simp [Move.onConnection, Move.effect, Cluster.isHeldBy, hheld, hsame, Link.terminate_fst]
  · have hother : Cluster.isHeldBy stopped present = false := by
      simp [Cluster.isHeldBy, Ne.symm hsame]
    refine hfollows.of_idle ?_ ?_ hlinks
    · simp [Move.effect, hother]
    · simp [hruns, Move.runs, hsame]

theorem Connection.Follows.setLink {changed : NodeId} {up : Bool} (hfollows : present.Follows node)
    (hheld : present.held = true) (hruns : later.running = node.running)
    (hlinks : later.linkUp = (Move.change (.setLink changed up)).linksUp present.node node) :
    ((Move.change (.setLink changed up)).onConnection id present).Follows later := by
  by_cases hsame : changed = present.node
  · have hup : later.linkUp = up := by simp [hlinks, Move.linksUp, hsame]
    have heffect : ((Move.change (.setLink changed up)).effect id present).1 =
        (present.link.setUp up).1 := by
      simp [Move.effect, Cluster.isHeldBy, hheld, hsame]
    simp only [Connection.Follows, Move.onConnection, heffect, hup, hruns]
    rcases hfollows with hclosed | ⟨hrunning, hlink⟩
    · left
      rw [hclosed]
      cases up <;> rfl
    · refine Or.inr ⟨hrunning, ?_⟩
      rw [hlink]
      cases up <;> cases node.linkUp <;> rfl
  · have hother : Cluster.isHeldBy changed present = false := by
      simp [Cluster.isHeldBy, Ne.symm hsame]
    refine hfollows.of_idle ?_ ?_ ?_
    · simp [Move.effect, hother]
    · simp [hruns]
    · simp [hlinks, Move.linksUp, hsame]

/-- A connection that is held follows its node through every move. -/
theorem Connection.Follows.move (hfollows : present.Follows node) (hheld : present.held = true)
    (move : Move) (hruns : later.running = move.runs present.node node)
    (hlinks : later.linkUp = move.linksUp present.node node) :
    (move.onConnection id present).Follows later := by
  cases move with
  | change change =>
      cases change with
      | stop stopped => exact hfollows.stop hheld hruns hlinks
      | start started =>
          refine hfollows.of_idle rfl ?_ hlinks
          rw [hruns, Move.runs]
          split <;> simp
      | setLink changed up => exact hfollows.setLink hheld hruns hlinks
      | _ => exact hfollows.of_idle rfl (fun hrunning => hruns.trans hrunning) hlinks
  | close connection =>
      by_cases hclosed : id = connection
      · left
        simp [Move.onConnection, Move.effect, hclosed, Link.close_fst]
      · refine hfollows.of_idle ?_ (fun hrunning => hruns.trans hrunning) hlinks
        simp [Move.effect, hclosed]
  | _ => exact hfollows.of_idle rfl (fun hrunning => hruns.trans hrunning) hlinks

end Follows

namespace Cluster

variable {cluster : Cluster} {id : ConnectionId} {present : Connection} {node : Node}

def Linked (cluster : Cluster) : Prop :=
  ∀ (id : ConnectionId) (present : Connection), cluster.connections[id]? = some present →
    present.held = true →
    ∃ node, cluster.nodes[present.node]? = some node ∧ present.Follows node

theorem linked_empty : Linked {} := by
  intro id present hpresent
  simp at hpresent

theorem follows_fresh {addr : String} {queue : QueueId} {node : NodeId} {taker : Node}
    (hrunning : taker.running = true) : (fresh addr queue node taker).Follows taker :=
  Or.inr ⟨hrunning, rfl⟩

theorem Linked.move (hlinked : cluster.Linked) (move : Move) : (cluster.move move).Linked := by
  intro id present hpresent hheld
  rcases Nat.lt_or_ge id cluster.connections.length with hold | hnew
  · have hbefore := List.getElem?_eq_getElem hold
    rw [getElem?_move hbefore] at hpresent
    obtain rfl := Option.some.inj hpresent
    have hwasHeld := (Bool.and_eq_true_iff.mp hheld).1
    obtain ⟨node, hnode, hfollows⟩ := hlinked id _ hbefore hwasHeld
    obtain ⟨later, hlater, hruns, hlinks⟩ := exists_node_move hnode move
    exact ⟨later, hlater, hfollows.move hwasHeld move hruns hlinks⟩
  · obtain ⟨addr, queue, node, taker, rfl, haccepts, hid, rfl⟩ := exists_dial_of_made hpresent hnew
    refine ⟨taker, ?_, follows_fresh haccepts.running⟩
    rw [Cluster.move, nodes_dial]
    exact haccepts.node

theorem linked_play (moves : List Move) : (play {} moves).Linked := by
  induction moves using List.reverseRecOn with
  | nil => exact linked_empty
  | append_singleton moves move ih =>
      rw [play_concat]
      exact ih.move move

/-! ### Closed connections -/

theorem isClosed_of_link (hpresent : cluster.connections[id]? = some present)
    (hclosed : present.link = .closed) : cluster.isClosed id = true := by
  rw [isClosed_iff, link_eq hpresent, hclosed]

theorem execute_of_closed (hpresent : cluster.connections[id]? = some present)
    (hclosed : present.link = .closed) (request : Request) :
    cluster.execute id request = (cluster, .error (.error (.closed present.addr))) := by
  simp only [execute, hpresent, hclosed]

/-- In every run, a connection that is held and not closed is connected exactly when the link of the node
that took its dial is up, and it is closed if that node does not run. A closed connection is closed for
ever, and a request over it is answered with that and reaches no node. -/
theorem connection_state_follows_node (moves : List Move) :
    (∀ id present, (play {} moves).connections[id]? = some present → present.held = true →
      ∃ early taker late node, Origin moves id present early taker late ∧
        (play {} moves).nodes[present.node]? = some node ∧
        (present.link ≠ .closed → (present.link = .connected ↔ node.linkUp = true)) ∧
        (node.running = false → present.link = .closed)) ∧
    (∀ id present, (play {} moves).connections[id]? = some present → present.link = .closed →
      ∀ more, (play {} (moves ++ more)).isClosed id = true ∧ ∀ request,
        (play {} (moves ++ more)).execute id request =
          (play {} (moves ++ more), .error (.error (.closed present.addr)))) := by
  constructor
  · intro id present hpresent hheld
    obtain ⟨early, taker, late, horigin⟩ := exists_origin moves id present hpresent
    obtain ⟨node, hnode, hfollows⟩ := linked_play moves id present hpresent hheld
    refine ⟨early, taker, late, node, horigin, hnode, ?_, ?_⟩
    · intro hopen
      rcases hfollows with hclosed | ⟨-, hlink⟩
      · exact absurd hclosed hopen
      · rw [hlink]
        cases node.linkUp <;> simp
    · intro hstopped
      rcases hfollows with hclosed | ⟨hrunning, -⟩
      · exact hclosed
      · rw [hstopped] at hrunning
        cases hrunning
  · intro id present hpresent hclosed more
    obtain ⟨continued, hcontinued, hcontinues⟩ := (evolves_play (play {} moves) more).kept hpresent
    rw [play_append]
    refine ⟨isClosed_of_link hcontinued (hcontinues.closed hclosed), fun request => ?_⟩
    rw [execute_of_closed hcontinued (hcontinues.closed hclosed), hcontinues.addr_eq]

def cutRun : List Move :=
  [.change (.addNode "127.0.0.1:3301" false), .addQueue 16, .dial "127.0.0.1:3301" 0,
    .change (.setLink 0 false)]

theorem connection_state_follows_node_cut :
    (∃ node, (play {} cutRun).nodes[0]? = some node ∧ node.linkUp = false) ∧
      (play {} ((cutRun ++ [.change (.stop 0)]) ++ [.change (.setLink 0 true)])).isClosed 0 = true := by
  constructor
  · have hpresent : (play {} cutRun).connections[0]? =
        some ⟨"127.0.0.1:3301", 0, 0, .disconnected, true⟩ := by
      decide +kernel
    obtain ⟨-, -, -, node, -, hnode, hlink, -⟩ :=
      (connection_state_follows_node cutRun).1 0 _ hpresent rfl
    refine ⟨node, hnode, Bool.eq_false_iff.mpr fun hup => ?_⟩
    cases (hlink nofun).mpr hup
  · have hpresent : (play {} (cutRun ++ [.change (.stop 0)])).connections[0]? =
        some ⟨"127.0.0.1:3301", 0, 0, .closed, true⟩ := by
      decide +kernel
    exact ((connection_state_follows_node (cutRun ++ [.change (.stop 0)])).2 0 _ hpresent rfl _).1

end Cluster

end ReplicaPool
