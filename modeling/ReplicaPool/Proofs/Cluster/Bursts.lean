import Mathlib.Algebra.BigOperators.Group.List.Basic
import Mathlib.Algebra.Order.BigOperators.Group.List
import Mathlib.Algebra.Order.Ring.Nat
import Mathlib.Data.List.Perm.Subperm
import ReplicaPool.Proofs.Cluster.Reports

/-!
# Bursts of close events

When nodes stop, their connections report that they are disconnected and closed, two events at most for each.
`Cluster.stake` counts the events that the connections of a queue still owe. A stop takes from it what it
brings, so a burst is never longer than the stake. What a queue makes of it depends on its capacity only,
which no move changes.
-/

namespace ReplicaPool

def stops (nodes : List NodeId) : List Move :=
  nodes.map fun node => .change (.stop node)

/-- The number of events that a stop of its node would make a connection report to a queue. -/
def Connection.stake (present : Connection) (queue : QueueId) : Nat :=
  if present.queue = queue then present.link.terminate.2.length else 0

def Cluster.stake (cluster : Cluster) (queue : QueueId) : Nat :=
  (cluster.connections.map fun present => present.stake queue).sum

namespace Link

theorem terminate_terminate (link : Link) : link.terminate.1.terminate.2 = [] := by
  cases link <;> rfl

theorem length_terminate_le (link : Link) : link.terminate.2.length ≤ 2 := by
  cases link <;> decide

end Link

section Stop

variable {present : Connection} {node : NodeId} {queue : QueueId} {id : ConnectionId}

theorem Connection.stake_le (present : Connection) (queue : QueueId) : present.stake queue ≤ 2 := by
  unfold stake
  split
  · exact present.link.length_terminate_le
  · exact Nat.zero_le 2

theorem heard_reports (queue : QueueId) (present : Connection) (id : ConnectionId)
    (kinds : List EventKind) : heard queue (present.reports id kinds) =
      if present.queue = queue then kinds.map (Event.mk present.addr) else [] := by
  by_cases hqueue : present.queue = queue
  · simp [heard, Connection.reports, hqueue, List.filter_map, Function.comp_def]
  · simp [heard, Connection.reports, hqueue, List.filter_map, Function.comp_def]

/-- What a connection reports of a stop is what its stake loses by it. -/
theorem Connection.length_heard_add_stake (present : Connection) (node : NodeId) (queue : QueueId)
    (id : ConnectionId) :
    (heard queue (present.reports id ((Move.change (.stop node)).effect id present).2)).length +
      ((Move.change (.stop node)).onConnection id present).stake queue = present.stake queue := by
  rw [heard_reports]
  by_cases hqueue : present.queue = queue
  · simp only [Connection.stake, Move.onConnection, Move.effect, hqueue, if_true, List.length_map]
    split
    · rw [Link.terminate_terminate, List.length_nil, Nat.add_zero]
    · rw [List.length_nil, Nat.zero_add]
  · simp [Connection.stake, Move.onConnection, hqueue]

end Stop

namespace Cluster

variable {cluster : Cluster} {id : ConnectionId} {present : Connection} {node : NodeId}
  {nodes : List NodeId} {queue : QueueId} {moves : List Move}

theorem connections_stop (cluster : Cluster) (node : NodeId) :
    (cluster.move (.change (.stop node))).connections =
      cluster.connections.map ((Move.change (.stop node)).onConnection 0) := by
  refine List.ext_getElem? fun id => ?_
  rw [List.getElem?_map]
  cases hpresent : cluster.connections[id]? with
  | some present => exact getElem?_move hpresent _
  | none =>
      simp only [Cluster.move, Cluster.change, stop, getElem?_connections_shift, modifyNode, hpresent]
      rfl

theorem heard_stop (cluster : Cluster) (node : NodeId) (queue : QueueId) :
    heard queue (cluster.reports (.change (.stop node))) = cluster.connections.flatMap fun present =>
      heard queue (present.reports 0 ((Move.change (.stop node)).effect 0 present).2) := by
  have hreports : cluster.reports (.change (.stop node)) =
      (Move.change (.stop node)).reports cluster.connections :=
    List.append_nil _
  conv_rhs => rw [← List.zipIdx_map_fst 0 cluster.connections, List.flatMap_map]
  rw [hreports, heard, Move.reports, List.filter_flatMap, List.map_flatMap]
  refine congrArg (List.flatMap · cluster.connections.zipIdx) (funext fun entry => ?_)
  exact (heard_reports queue entry.1 entry.2 _).trans (heard_reports queue entry.1 0 _).symm

theorem length_heard_stop_add_stake (cluster : Cluster) (node : NodeId) (queue : QueueId) :
    (heard queue (cluster.reports (.change (.stop node)))).length +
      (cluster.move (.change (.stop node))).stake queue = cluster.stake queue := by
  rw [heard_stop, stake, connections_stop, stake, List.length_flatMap, List.map_map,
    ← List.sum_map_add]
  exact congrArg List.sum (List.map_congr_left fun present _ =>
    present.length_heard_add_stake node queue 0)

/-- Whatever nodes are stopped, what they bring was at stake before. -/
theorem length_heard_stops_add_stake (cluster : Cluster) (nodes : List NodeId) (queue : QueueId) :
    (heard queue (cluster.history (stops nodes))).length +
      (cluster.play (stops nodes)).stake queue = cluster.stake queue := by
  induction nodes generalizing cluster with
  | nil => exact Nat.zero_add _
  | cons node rest ih =>
      have hfirst := length_heard_stop_add_stake cluster node queue
      have hrest := ih (cluster.move (.change (.stop node)))
      have hhistory : cluster.history (stops (node :: rest)) =
          cluster.reports (.change (.stop node)) ++
            (cluster.move (.change (.stop node))).history (stops rest) := rfl
      have hplay : cluster.play (stops (node :: rest)) =
          (cluster.move (.change (.stop node))).play (stops rest) := rfl
      rw [hhistory, hplay, heard_append, List.length_append]
      omega

theorem length_heard_stops_le (cluster : Cluster) (nodes : List NodeId) (queue : QueueId) :
    (heard queue (cluster.history (stops nodes))).length ≤ cluster.stake queue := by
  have hsum := length_heard_stops_add_stake cluster nodes queue
  omega

/-- Only open connections have a stake, and none more than two events. -/
theorem stake_le {ids : List ConnectionId}
    (hopen : ∀ id present, cluster.connections[id]? = some present → present.queue = queue →
      present.link ≠ .closed → id ∈ ids) : cluster.stake queue ≤ 2 * ids.length := by
  let weight : Connection × ConnectionId → Nat := fun entry => entry.1.stake queue
  let listed := cluster.connections.zipIdx.filter fun entry => entry.2 ∈ ids
  let others := cluster.connections.zipIdx.filter fun entry => entry.2 ∉ ids
  have hstake : cluster.stake queue = (listed.map weight).sum + (others.map weight).sum := by
    have hplaces : cluster.stake queue = (cluster.connections.zipIdx.map weight).sum := by
      conv_lhs => rw [stake, ← List.zipIdx_map_fst 0 cluster.connections, List.map_map]
      rfl
    rw [hplaces]
    exact (List.sum_map_filter_add_sum_map_filter_not (fun entry => entry.2 ∈ ids) weight _).symm
  -- All others are closed, or report to another queue, and owe nothing.
  have hothers : (others.map weight).sum = 0 := by
    refine List.sum_eq_zero fun value hvalue => ?_
    obtain ⟨⟨present, id⟩, hmem, rfl⟩ := List.mem_map.mp hvalue
    obtain ⟨hplace, hmissing⟩ := List.mem_filter.mp hmem
    have hpresent : cluster.connections[id]? = some present :=
      List.mem_zipIdx_iff_getElem?.mp hplace
    by_cases hqueue : present.queue = queue
    · have hclosed : present.link = .closed := by
        by_contra hlink
        simp [hopen id present hpresent hqueue hlink] at hmissing
      simp [weight, Connection.stake, hclosed, Link.terminate]
    · exact if_neg hqueue
  -- A place in the list of connections occurs once.
  have hlength : listed.length ≤ ids.length := by
    have hnodup : (listed.map Prod.snd).Nodup := by
      have hplaces : (cluster.connections.zipIdx.map Prod.snd).Nodup := by
        rw [List.zipIdx_map_snd]
        exact List.nodup_range'
      exact hplaces.sublist (List.filter_sublist.map Prod.snd)
    have hsubset : listed.map Prod.snd ⊆ ids := by
      intro id hid
      obtain ⟨entry, hentry, rfl⟩ := List.mem_map.mp hid
      simpa using (List.mem_filter.mp hentry).2
    simpa using (hnodup.subperm hsubset).length_le
  have hlisted : (listed.map weight).sum ≤ 2 * listed.length := by
    have hbound : (listed.map weight).sum ≤ (listed.map weight).length * 2 := by
      refine List.sum_le_card_nsmul _ 2 fun value hvalue => ?_
      obtain ⟨entry, -, rfl⟩ := List.mem_map.mp hvalue
      exact entry.1.stake_le queue
    rw [List.length_map] at hbound
    omega
  omega

/-- A connection that somebody holds tells of a stop of its node, and of no other. -/
theorem told_stops (hpresent : cluster.connections[id]? = some present)
    (hheld : present.held = true) (nodes : List NodeId) :
    told id (cluster.history (stops nodes)) =
      if present.node ∈ nodes then present.link.terminate.2 else [] := by
  induction nodes generalizing cluster present with
  | nil => rfl
  | cons node rest ih =>
      have hnext := getElem?_move hpresent (.change (.stop node))
      have hrest := ih hnext (by simp [Move.onConnection, Move.releases, hheld])
      have hhistory : cluster.history (stops (node :: rest)) =
          cluster.reports (.change (.stop node)) ++
            (cluster.move (.change (.stop node))).history (stops rest) := rfl
      rw [hhistory, told_append, told_reports_of_present hpresent, hrest]
      by_cases hnode : present.node = node
      · simp [Move.onConnection, Move.effect, isHeldBy, hheld, hnode, Link.terminate_terminate]
      · simp [Move.onConnection, Move.effect, isHeldBy, hnode]

/-! ### What a queue takes -/

theorem getElem?_queues_play (hmoves : ∀ move ∈ moves, move.isForQueues = false)
    (queue : QueueId) : (cluster.play moves).queues[queue]? =
      (cluster.queues[queue]?).map fun present =>
        present.emitAll (heard queue (cluster.history moves)) := by
  induction moves generalizing cluster with
  | nil => exact Option.map_id'.symm
  | cons move rest ih =>
      rw [play_cons, ih fun later hmem => hmoves later (List.mem_cons_of_mem _ hmem),
        getElem?_queues_move (hmoves move List.mem_cons_self), Option.map_map, history, heard_append]
      simp only [EventQueue.emitAll_append, Function.comp_def]

theorem getElem?_queues_modify {before : EventQueue} (hqueue : cluster.queues[queue]? = some before)
    (other : QueueId) (change : EventQueue → EventQueue) :
    (cluster.modifyQueue other change).queues[queue]? =
      some (if other = queue then change before else before) := by
  rw [modifyQueue, List.getElem?_modify, hqueue]
  split <;> rfl

/-- No move changes the capacity of a queue, and its reader goes away only by leaving. -/
theorem exists_queue_move {before : EventQueue} (hqueue : cluster.queues[queue]? = some before)
    (move : Move) : ∃ after, (cluster.move move).queues[queue]? = some after ∧
      after.capacity = before.capacity ∧
      (move ≠ .leave queue → after.hasReader = before.hasReader) := by
  cases hmove : move.isForQueues with
  | false =>
      have hcapacity := before.capacity_emitAll (heard queue (cluster.reports move))
      refine ⟨_, ?_, hcapacity.1, fun _ => hcapacity.2⟩
      rw [getElem?_queues_move hmove, hqueue]
      rfl
  | true =>
      cases move with
      | addQueue capacity =>
          refine ⟨before, ?_, rfl, fun _ => rfl⟩
          exact (List.getElem?_append_left (List.getElem?_eq_some_iff.mp hqueue).1).trans hqueue
      | read other count =>
          refine ⟨_, getElem?_queues_modify hqueue other _, ?_, fun _ => ?_⟩
          · split <;> rfl
          · split <;> rfl
      | leave other =>
          refine ⟨_, getElem?_queues_modify hqueue other _, ?_, fun hstays => ?_⟩
          · split <;> rfl
          · rw [if_neg fun hsame => hstays (by rw [hsame])]
      | _ => cases hmove

theorem exists_queue_play {before : EventQueue} (hqueue : cluster.queues[queue]? = some before)
    (moves : List Move) : ∃ after, (cluster.play moves).queues[queue]? = some after ∧
      after.capacity = before.capacity ∧
      (.leave queue ∉ moves → after.hasReader = before.hasReader) := by
  induction moves generalizing cluster before with
  | nil => exact ⟨before, hqueue, rfl, fun _ => rfl⟩
  | cons move rest ih =>
      obtain ⟨middle, hmiddle, hcapacity, hreader⟩ := exists_queue_move hqueue move
      obtain ⟨after, hafter, hcapacities, hreaders⟩ := ih hmiddle
      refine ⟨after, hafter, hcapacities.trans hcapacity, fun hstays => ?_⟩
      rw [List.mem_cons, not_or] at hstays
      exact (hreaders hstays.2).trans (hreader (Ne.symm hstays.1))

theorem hasReader_of_made {move : Move} {after : EventQueue} (hmissing : cluster.queues[queue]? = none)
    (hafter : (cluster.move move).queues[queue]? = some after) : after.hasReader = true := by
  cases hmove : move.isForQueues with
  | false =>
      rw [getElem?_queues_move hmove, hmissing] at hafter
      cases hafter
  | true =>
      cases move with
      | addQueue capacity =>
          rw [Cluster.move, addQueue, List.getElem?_append_right
            (List.getElem?_eq_none_iff.mp hmissing)] at hafter
          rw [List.mem_singleton.mp (List.mem_of_getElem? hafter)]
      | read other count =>
          rw [Cluster.move, modifyQueue, List.getElem?_modify, hmissing] at hafter
          cases hafter
      | leave other =>
          rw [Cluster.move, modifyQueue, List.getElem?_modify, hmissing] at hafter
          cases hafter
      | _ => cases hmove

/-- The reader of a queue that has none has left it. -/
theorem leave_mem_of_unread {after : EventQueue}
    (hafter : (cluster.play moves).queues[queue]? = some after) (hunread : after.hasReader = false) :
    (∃ before, cluster.queues[queue]? = some before ∧ before.hasReader = false) ∨
      .leave queue ∈ moves := by
  induction moves generalizing cluster with
  | nil => exact Or.inl ⟨after, hafter, hunread⟩
  | cons move rest ih =>
      rcases ih hafter with ⟨middle, hmiddle, hmiddleUnread⟩ | hrest
      · by_cases hleaves : move = .leave queue
        · exact Or.inr (hleaves ▸ List.mem_cons_self)
        · left
          cases hbefore : cluster.queues[queue]? with
          | none =>
              rw [hasReader_of_made hbefore hmiddle] at hmiddleUnread
              cases hmiddleUnread
          | some before =>
              obtain ⟨same, hsame, -, hreader⟩ := exists_queue_move hbefore move
              obtain rfl : same = middle := Option.some.inj (hsame.symm.trans hmiddle)
              exact ⟨before, rfl, (hreader hleaves).symm.trans hmiddleUnread⟩
      · exact Or.inr (List.mem_cons_of_mem _ hrest)

/-- Of a burst an empty queue keeps as many events as it has places. -/
theorem waiting_stops {before : EventQueue} (hqueue : cluster.queues[queue]? = some before)
    (hreader : before.hasReader = true) (hempty : before.pending = []) (nodes : List NodeId) :
    (cluster.play (stops nodes)).waiting queue =
      (heard queue (cluster.history (stops nodes))).take before.capacity := by
  have hstops : ∀ move ∈ stops nodes, move.isForQueues = false := by
    intro move hmem
    obtain ⟨node, -, rfl⟩ := List.mem_map.mp hmem
    rfl
  rw [waiting, getElem?_queues_play hstops, hqueue, Option.map_some,
    EventQueue.emitAll_eq_take hreader, hempty]
  rfl

end Cluster

end ReplicaPool
