import Mathlib.Data.List.Induction
import ReplicaPool.Proofs.Cluster.Evolution
import ReplicaPool.World.System

/-!
# Runs of a cluster

Everything that happens to a cluster is a sequence of moves. `Move.effect` says what a move does to the link
of a connection and what the connection reports about it, and `Move.onConnection` all that it does to the
connection. A connection that a move has made was dialled by it, and every connection of a run can be traced
back to its dial.
-/

namespace ReplicaPool

inductive Move where
  | change (change : ClusterChange)
  | addQueue (capacity : Nat)
  | dial (addr : String) (queue : QueueId)
  | execute (connection : ConnectionId) (request : Request)
  | close (connection : ConnectionId)
  | release (connections : List ConnectionId)
  /-- The reader of a queue takes events from it. -/
  | read (queue : QueueId) (count : Nat)
  /-- The reader of a queue goes away. -/
  | leave (queue : QueueId)

/-- What a move does to the link of a connection that is there, and what the connection reports. -/
def Move.effect (move : Move) (id : ConnectionId) (present : Connection) : Link × List EventKind :=
  match move with
  | .change (.stop node) =>
      if Cluster.isHeldBy node present then present.link.terminate else (present.link, [])
  | .change (.setLink node up) =>
      if Cluster.isHeldBy node present then present.link.setUp up else (present.link, [])
  | .close connection => if id == connection then present.link.close else (present.link, [])
  | _ => (present.link, [])

def Move.releases (move : Move) (id : ConnectionId) : Bool :=
  match move with
  | .release connections => connections.contains id
  | _ => false

def Move.onConnection (move : Move) (id : ConnectionId) (present : Connection) : Connection :=
  { present with link := (move.effect id present).1, held := present.held && !move.releases id }

namespace Cluster

def move (cluster : Cluster) : Move → Cluster
  | .change change => cluster.change change
  | .addQueue capacity => (cluster.addQueue capacity).2
  | .dial addr queue => (cluster.dial addr queue).1
  | .execute connection request => (cluster.execute connection request).1
  | .close connection => cluster.close connection
  | .release connections => cluster.release connections
  | .read queue count => cluster.modifyQueue queue fun present =>
      { present with pending := present.pending.drop count }
  | .leave queue => cluster.modifyQueue queue EventQueue.dropReader

def play (cluster : Cluster) (moves : List Move) : Cluster :=
  moves.foldl move cluster

variable {cluster : Cluster} {moves early late : List Move} {id : ConnectionId} {present : Connection}
  {opened : QueueId → Prop}

@[simp]
theorem play_nil (cluster : Cluster) : cluster.play [] = cluster := rfl

theorem play_cons (cluster : Cluster) (move : Move) (rest : List Move) :
    cluster.play (move :: rest) = (cluster.move move).play rest := rfl

theorem play_append (cluster : Cluster) (early late : List Move) :
    cluster.play (early ++ late) = (cluster.play early).play late :=
  List.foldl_append

theorem play_concat (cluster : Cluster) (moves : List Move) (move : Move) :
    cluster.play (moves ++ [move]) = (cluster.play moves).move move :=
  play_append cluster moves [move]

/-! ### Changes from outside -/

theorem evolves_change (cluster : Cluster) (change : ClusterChange) :
    cluster.Evolves opened (cluster.change change) := by
  cases change with
  | addNode addr readOnly => exact evolves_addNode _ _ _
  | register name results => exact evolves_register _ _ _
  | setReadOnly node readOnly => exact evolves_setReadOnly _ _ _
  | stop node => exact evolves_stop _ _
  | start node => exact evolves_start _ _
  | setLink node up => exact evolves_setLink _ _ _

theorem WellFormed.change (hwellFormed : cluster.WellFormed) (change : ClusterChange) :
    (cluster.change change).WellFormed := by
  cases change with
  | addNode addr readOnly => exact hwellFormed.addNode addr readOnly
  | register name results => exact hwellFormed.evolves (evolves_register _ _ _) rfl
  | setReadOnly node readOnly => exact hwellFormed.evolves (evolves_setReadOnly _ _ _) rfl
  | stop node => exact hwellFormed.evolves (evolves_stop _ _) directory_shift
  | start node => exact hwellFormed.evolves (evolves_start _ _) rfl
  | setLink node up => exact hwellFormed.evolves (evolves_setLink _ _ _) directory_shift

/-! ### Connections -/

/-- No move but a dial makes a connection. -/
theorem evolves_move_of_ne_dial {move : Move} (hdial : ∀ addr queue, move ≠ .dial addr queue) :
    cluster.Evolves opened (cluster.move move) := by
  cases move with
  | change change => exact evolves_change cluster change
  | addQueue capacity => exact evolves_addQueue cluster capacity
  | dial addr queue => exact absurd rfl (hdial addr queue)
  | execute connection request => exact evolves_execute cluster connection request
  | close connection => exact evolves_close cluster connection
  | release connections => exact evolves_release cluster connections
  | read queue count => exact evolves_modifyQueue cluster queue _
  | leave queue => exact evolves_modifyQueue cluster queue _

theorem evolves_move (cluster : Cluster) (move : Move) :
    cluster.Evolves (fun _ => True) (cluster.move move) := by
  cases move with
  | dial addr queue => exact (evolves_dial cluster addr queue).mono fun _ _ => trivial
  | _ => exact evolves_move_of_ne_dial nofun

theorem evolves_play (cluster : Cluster) (moves : List Move) :
    cluster.Evolves (fun _ => True) (cluster.play moves) := by
  induction moves generalizing cluster with
  | nil => exact .refl cluster
  | cons move rest ih => exact (evolves_move cluster move).trans (ih (cluster.move move))

theorem getElem?_dial (hpresent : cluster.connections[id]? = some present) (addr : String)
    (queue : QueueId) : (cluster.dial addr queue).1.connections[id]? = some present := by
  by_cases haccepts : ∃ node taker, cluster.Accepts addr node taker
  · obtain ⟨node, taker, haccepts⟩ := haccepts
    rw [dial_of_accepts haccepts, connections_deliver,
      List.getElem?_append_left (List.getElem?_eq_some_iff.mp hpresent).1, hpresent]
  · rw [dial_of_refused haccepts, hpresent]

theorem connections_execute (cluster : Cluster) (connection : ConnectionId) (request : Request) :
    (cluster.execute connection request).1.connections = cluster.connections := by
  unfold execute
  split
  · rfl
  · split
    · rfl
    · rfl
    · split <;> rfl

theorem onConnection_of_idle {move : Move} (heffect : (move.effect id present).1 = present.link)
    (hkept : move.releases id = false) : move.onConnection id present = present := by
  rw [Move.onConnection, heffect, hkept, Bool.not_false, Bool.and_true]

/-- What becomes of a connection is told by the connection alone. -/
theorem getElem?_move (hpresent : cluster.connections[id]? = some present) (move : Move) :
    (cluster.move move).connections[id]? = some (move.onConnection id present) := by
  cases move with
  | change change =>
      cases change with
      | stop node =>
          simp only [Cluster.move, Cluster.change, stop, getElem?_connections_shift, modifyNode,
            hpresent, Option.map_some, Move.onConnection, Move.effect, Move.releases]
          split <;> simp
      | setLink node up =>
          simp only [Cluster.move, Cluster.change, setLink, getElem?_connections_shift, modifyNode,
            hpresent, Option.map_some, Move.onConnection, Move.effect, Move.releases]
          split <;> simp
      | _ =>
          rw [onConnection_of_idle rfl rfl]
          exact hpresent
  | dial addr queue =>
      rw [onConnection_of_idle rfl rfl]
      exact getElem?_dial hpresent addr queue
  | execute connection request =>
      rw [onConnection_of_idle rfl rfl, Cluster.move, connections_execute, hpresent]
  | close connection =>
      simp only [Cluster.move, close, getElem?_connections_shift, hpresent, Option.map_some,
        Move.onConnection, Move.effect, Move.releases]
      split <;> simp
  | release connections =>
      simp only [Cluster.move, release, List.getElem?_mapIdx, hpresent, Option.map_some,
        Move.onConnection, Move.effect, Move.releases]
      split <;> simp_all
  | _ =>
      rw [onConnection_of_idle rfl rfl]
      exact hpresent

/-- A connection that was not there before a move was dialled by it. -/
theorem exists_dial_of_made {move : Move} (hpresent : (cluster.move move).connections[id]? = some present)
    (hnew : cluster.connections.length ≤ id) : ∃ addr queue node taker,
      move = .dial addr queue ∧ cluster.Accepts addr node taker ∧ id = cluster.connections.length ∧
        present = fresh addr queue node taker := by
  by_cases hdial : ∀ addr queue, move ≠ .dial addr queue
  · have hevolves : cluster.Evolves (fun _ => False) (cluster.move move) :=
      evolves_move_of_ne_dial hdial
    exact (hevolves.made hpresent hnew).elim
  · push Not at hdial
    obtain ⟨addr, queue, rfl⟩ := hdial
    by_cases haccepts : ∃ node taker, cluster.Accepts addr node taker
    · obtain ⟨node, taker, haccepts⟩ := haccepts
      rw [Cluster.move, dial_of_accepts haccepts, connections_deliver,
        List.getElem?_append_right hnew, List.getElem?_singleton] at hpresent
      split at hpresent
      · rename_i hzero
        have hid := Nat.le_antisymm (Nat.sub_eq_zero_iff_le.mp hzero) hnew
        exact ⟨addr, queue, node, taker, rfl, haccepts, hid, (Option.some.inj hpresent).symm⟩
      · cases hpresent
    · rw [Cluster.move, dial_of_refused haccepts, List.getElem?_eq_none hnew] at hpresent
      cases hpresent

/-! ### Connections of a run -/

/-- What holds of a connection when it is dialled, and is kept by every move after that, holds of every
connection of a run. -/
theorem connection_induct {property : List Move → ConnectionId → Connection → Prop}
    (hdialled : ∀ early addr queue node taker, (play {} early).Accepts addr node taker →
      property (early ++ [.dial addr queue]) (play {} early).connections.length
        (fresh addr queue node taker))
    (hmoved : ∀ moves move id present, (play {} moves).connections[id]? = some present →
      property moves id present → property (moves ++ [move]) id (move.onConnection id present))
    (moves : List Move) (id : ConnectionId) (present : Connection)
    (hpresent : (play {} moves).connections[id]? = some present) : property moves id present := by
  induction moves using List.reverseRecOn generalizing present with
  | nil => simp at hpresent
  | append_singleton moves move ih =>
      rw [play_concat] at hpresent
      rcases Nat.lt_or_ge id (play {} moves).connections.length with hold | hnew
      · have hbefore := List.getElem?_eq_getElem hold
        rw [getElem?_move hbefore] at hpresent
        obtain rfl := Option.some.inj hpresent
        exact hmoved moves move id _ hbefore (ih _ hbefore)
      · obtain ⟨addr, queue, node, taker, rfl, haccepts, rfl, rfl⟩ :=
          exists_dial_of_made hpresent hnew
        exact hdialled moves addr queue node taker haccepts

/-- The dial of a run that a connection comes from, and the node that took it. -/
structure Origin (moves : List Move) (id : ConnectionId) (present : Connection) (early : List Move)
    (taker : Node) (late : List Move) : Prop where
  moves_eq : moves = early ++ .dial present.addr present.queue :: late
  accepts : (play {} early).Accepts present.addr present.node taker
  id_eq : id = (play {} early).connections.length

theorem origin_dial {addr : String} {queue : QueueId} {node : NodeId} {taker : Node}
    (haccepts : (play {} early).Accepts addr node taker) :
    Origin (early ++ [.dial addr queue]) (play {} early).connections.length
      (fresh addr queue node taker) early taker [] :=
  ⟨rfl, haccepts, rfl⟩

theorem Origin.concat {taker : Node} (horigin : Origin moves id present early taker late)
    (move : Move) :
    Origin (moves ++ [move]) id (move.onConnection id present) early taker (late ++ [move]) where
  moves_eq := by
    rw [horigin.moves_eq, List.append_assoc, List.cons_append]
    rfl
  accepts := horigin.accepts
  id_eq := horigin.id_eq

/-- Every connection of a run was dialled in it. -/
theorem exists_origin : ∀ (moves : List Move) (id : ConnectionId) (present : Connection),
    (play {} moves).connections[id]? = some present →
      ∃ early taker late, Origin moves id present early taker late := by
  apply connection_induct
  · exact fun early addr queue node taker haccepts => ⟨early, taker, [], origin_dial haccepts⟩
  · rintro moves move id present - ⟨early, taker, late, horigin⟩
    exact ⟨early, taker, late ++ [move], horigin.concat move⟩

end Cluster

end ReplicaPool
