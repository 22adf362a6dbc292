import ReplicaPool.Proofs.System.Founding
import ReplicaPool.Proofs.System.Holding
import ReplicaPool.Proofs.Upkeep.Hands

/-!
# Room for close events

The queue of a pool has ten places for each address that the pool was given at the beginning, and it keeps
its reader as long as the upkeep runs. A burst of close events is at most two events for each connection that
is filed or in the hands of the worker. So no event is dropped as long as the pool has not grown to five times
the addresses that it was given, and a pool without a discovery function never drops one. Discovery can make
a pool grow beyond that, and then the queue is too short.
-/

namespace ReplicaPool

theorem singleHanded_of_takesUp {world : World} {pool : Pool} {agenda : List Job}
    (htakesUp : TakesUp world pool agenda) : SingleHanded agenda := by
  cases htakesUp with
  | nothing => exact singleHanded_nil
  | event event hopen =>
      rcases onEvent_cases world pool event with hnothing | hdial
      · rw [hnothing]
        exact singleHanded_nil
      · rw [hdial]
        exact singleHanded_singleton _
  | discover hopen => exact singleHanded_singleton _
  | refresh hopen => exact singleHanded_singleton _

/-- The number of connections of a pool that are filed or in the hands of its worker. -/
def Service.holds (present : Service) : Nat :=
  present.pool.topology.connections.length + (hands present.upkeep.agenda).length

namespace System

variable {system : System} {service : ServiceId} {present : Service} {actions : List Action}

theorem Reachable.singleHanded (hreachable : system.Reachable)
    (hpresent : system.world.services[service]? = some present) :
    SingleHanded present.upkeep.agenda := by
  let single : Service → Prop := fun present => SingleHanded present.upkeep.agenda
  have hsingle : single present := by
    refine hreachable.service_induct (fun _ _ => singleHanded_nil) ?_ hpresent
    intro system action service present next hsound hbefore hstepped hsingle
    cases hstepped with
    | @work job rest hagenda hdue hrunning =>
        have hbusy : SingleHanded (job :: rest) := hagenda ▸ hsingle
        exact hbusy.perform system.world present.pool
    | turn hagenda htakesUp => exact singleHanded_of_takesUp htakesUp
    | _ => exact hsingle
  exact hsingle

/-- A queue without a reader belongs to a pool whose upkeep has ended. -/
theorem Reachable.ended_of_unread (hreachable : system.Reachable) :
    ∀ (queue : QueueId) (present : EventQueue), system.world.cluster.queues[queue]? = some present →
      present.hasReader = false → system.Ended queue := by
  apply hreachable.induct
  · intro queue present hpresent
    simp at hpresent
  · intro system action hended queue after hafter hunread
    obtain ⟨moves, hmoves, hmade⟩ := playsBy_act system action
    rw [hmoves] at hafter
    rcases Cluster.leave_mem_of_unread hafter hunread with ⟨before, hbefore, hwas⟩ | hleaves
    · exact (hended queue before hbefore hwas).act action
    · exact (hmade _ hleaves).ended

theorem Reachable.hasReader {queue : EventQueue} (hreachable : system.Reachable)
    (hpresent : system.world.services[service]? = some present)
    (hrunning : present.upkeep.running = true)
    (hqueue : system.world.cluster.queues[present.pool.queue]? = some queue) :
    queue.hasReader = true := by
  by_contra hunread
  obtain ⟨other, another, hanother, hsame, hended⟩ :=
    hreachable.ended_of_unread _ queue hqueue (Bool.eq_false_iff.mpr hunread)
  obtain rfl : another = present := hreachable.sound.service_unique hpresent hanother hsame
  rw [hrunning] at hended
  cases hended

/-! ### Bursts -/

def burst (system : System) (queue : QueueId) (nodes : List NodeId) : List Event :=
  heard queue (system.world.cluster.history (stops nodes))

theorem cluster_run_stops (system : System) (nodes : List NodeId) :
    (system.run (nodes.map fun node => .change (.stop node))).world.cluster =
      system.world.cluster.play (stops nodes) := by
  induction nodes generalizing system with
  | nil => rfl
  | cons node rest ih => exact ih (system.act (.change (.stop node)))

/-- A burst is at most two events for each connection that is filed or in the hands of the worker. -/
theorem Reachable.length_burst_le (hreachable : system.Reachable)
    (hpresent : system.world.services[service]? = some present) (nodes : List NodeId) :
    (system.burst present.pool.queue nodes).length ≤ 2 * present.holds := by
  have hopen : ∀ id filed, system.world.cluster.connections[id]? = some filed →
      filed.queue = present.pool.queue → filed.link ≠ .closed →
        id ∈ present.pool.topology.connections ++ hands present.upkeep.agenda :=
    fun _ _ => (hreachable.sound.upkeep hpresent).mem_of_open
  calc (system.burst present.pool.queue nodes).length
      ≤ system.world.cluster.stake present.pool.queue := Cluster.length_heard_stops_le _ _ _
    _ ≤ 2 * (present.pool.topology.connections ++ hands present.upkeep.agenda).length :=
        Cluster.stake_le hopen
    _ = 2 * present.holds := by rw [List.length_append, Service.holds]

/-- An open pool has at most as many entries as it has addresses, unless it is just being brought in line
with a list of members. -/
theorem Reachable.length_connections_le (hreachable : system.Reachable)
    (hpresent : system.world.services[service]? = some present)
    (hopen : present.pool.isClosed = false) (hrests : present.upkeep.isReconciling = false) :
    present.pool.topology.connections.length ≤ present.pool.topology.addrs.length := by
  have hconsistent := (hreachable.sound.pool_sound hpresent).consistent
  have hconfined := hreachable.managed.confined hpresent hopen hrests
  have hsubset : present.pool.topology.rw.addrs ++ present.pool.topology.ro.addrs ⊆
      present.pool.topology.addrs := by
    intro addr hmem
    have hfiled : ∃ role, addr ∈ (present.pool.topology.subpool role).addrs :=
      (List.mem_append.mp hmem).elim (⟨.master, ·⟩) (⟨.replica, ·⟩)
    obtain ⟨role, hrole⟩ := hfiled
    obtain ⟨⟨key, connection⟩, hentry, rfl⟩ := List.mem_map.mp hrole
    exact hconfined key _ (hconsistent.lookup?_eq_some_iff.mpr hentry)
  calc present.pool.topology.connections.length
      = (present.pool.topology.rw.addrs ++ present.pool.topology.ro.addrs).length := by
        simp [Topology.connections, RoundRobin.addrs]
    _ ≤ present.pool.topology.addrs.length := (hconsistent.addrs_nodup.subperm hsubset).length_le

/-- A pool has room for all events of a burst if they cannot be more than the places of its queue. -/
structure Absorbs (system : System) (present : Service) (places : Nat) (nodes : List NodeId) :
    Prop where
  reported : ∀ connection ∈ present.pool.topology.connections, ∃ filed,
    system.world.cluster.connections[connection]? = some filed ∧
      filed.queue = present.pool.queue ∧
      told connection (system.world.cluster.history (stops nodes)) =
        if filed.node ∈ nodes then filed.link.terminate.2 else []
  bounded : (system.burst present.pool.queue nodes).length ≤ 2 * present.holds
  kept : (system.run (nodes.map fun node => .change (.stop node))).world.cluster.waiting
    present.pool.queue = (system.burst present.pool.queue nodes).take places
  whole : 2 * present.holds ≤ places →
    (system.run (nodes.map fun node => .change (.stop node))).world.cluster.waiting
      present.pool.queue = system.burst present.pool.queue nodes

theorem Reachable.absorbs {queue : EventQueue} (hreachable : system.Reachable)
    (hpresent : system.world.services[service]? = some present)
    (hrunning : present.upkeep.running = true)
    (hqueue : system.world.cluster.queues[present.pool.queue]? = some queue)
    (hempty : queue.pending = []) (nodes : List NodeId) :
    system.Absorbs present queue.capacity nodes := by
  have hreader := hreachable.hasReader hpresent hrunning hqueue
  have hbounded := hreachable.length_burst_le hpresent nodes
  have hkept : (system.run (nodes.map fun node => .change (.stop node))).world.cluster.waiting
      present.pool.queue = (system.burst present.pool.queue nodes).take queue.capacity := by
    rw [cluster_run_stops]
    exact Cluster.waiting_stops hqueue hreader hempty nodes
  refine ⟨?_, hbounded, hkept, fun hroom => ?_⟩
  · intro connection hmem
    obtain ⟨addr, filed, hfiled, -, hserves⟩ := (hreachable.sound.pool_sound hpresent).serves_of_mem hmem
    obtain ⟨same, hsame, hheld⟩ := hreachable.held hpresent (Or.inr hrunning) hmem
    obtain rfl : same = filed := Option.some.inj (hsame.symm.trans hfiled)
    exact ⟨same, hsame, hserves, Cluster.told_stops hsame hheld nodes⟩
  · rw [hkept, List.take_of_length_le (hbounded.trans hroom)]

/-- The queue of a pool has ten places for each address that the pool was given. When it is empty and nodes
stop, it takes two events at most for each connection that is filed or in the hands of the worker, and drops
only what comes after its last place. A pool without a discovery function has room for everything. -/
theorem close_burst_fits (hpresent : (run {} actions).world.services[service]? = some present)
    (hopen : present.pool.isClosed = false) (hrunning : present.upkeep.running = true)
    (hempty : (run {} actions).world.cluster.waiting present.pool.queue = []) :
    ∃ founded, Founds actions founded ∧ founded.Persists present.pool ∧
      present.holds ≤ present.pool.topology.connections.length + 1 ∧
      (present.pool.options.discoveryFunction = none →
        2 * present.holds ≤ eventQueueFactor * founded.topology.addrs.length) ∧
      ∀ nodes, (run {} actions).Absorbs present
        (eventQueueFactor * founded.topology.addrs.length) nodes := by
  have hreachable : (run {} actions).Reachable := ⟨actions, rfl⟩
  obtain ⟨founded, hfounds, hpersists⟩ := exists_founds
    (List.mem_append_left _ (List.mem_map_of_mem (List.mem_of_getElem? hpresent)))
  obtain ⟨queue, hqueue, hcapacity⟩ := hfounds.capacity_eq
  rw [← hpersists.queue_eq] at hqueue
  have hpending : queue.pending = [] := by
    rw [Cluster.waiting, hqueue] at hempty
    exact hempty
  have hhands := (hreachable.singleHanded hpresent).length_hands_le
  have hholds : present.holds ≤ present.pool.topology.connections.length + 1 :=
    Nat.add_le_add_left hhands _
  refine ⟨founded, hfounds, hpersists, hholds, fun hnone => ?_, fun nodes => ?_⟩
  -- Without a discovery function the addresses are those of the beginning, and ten places for each of them
  -- leave room for one connection more.
  · have hentries := hreachable.length_connections_le hpresent hopen
      (hreachable.steady hpresent hnone)
    have haddrs : present.pool.topology.addrs = founded.topology.addrs :=
      hpersists.addrs_eq (hpersists.options_eq ▸ hnone)
    have hsome := List.length_pos_iff.mpr (hreachable.sound.pool_sound hpresent).addrs_ne_nil
    rw [haddrs] at hentries hsome
    simp only [eventQueueFactor]
    omega
  · rw [← hcapacity]
    exact hreachable.absorbs hpresent hrunning hqueue hpending nodes

theorem close_burst_fits_recovered :
    ∃ present, (run {} recoveredRun).world.services[0]? = some present ∧
      (run {} recoveredRun).Absorbs present 30 [0, 1, 2] ∧ 2 * present.holds ≤ 30 := by
  have hservice : (run {} recoveredRun).world.services[0]?.map (fun present =>
      (present.pool.isClosed, present.upkeep.running, present.pool.queue,
        present.pool.options.discoveryFunction, present.pool.topology.addrs.length)) =
      some (false, true, 0, none, 3) := by
    decide +kernel
  obtain ⟨present, hpresent, hvalues⟩ := Option.map_eq_some_iff.mp hservice
  simp only [Prod.mk.injEq] at hvalues
  obtain ⟨hopen, hrunning, hqueue, hnone, hlength⟩ := hvalues
  have hempty : (run {} recoveredRun).world.cluster.waiting present.pool.queue = [] := by
    rw [hqueue]
    decide +kernel
  obtain ⟨founded, -, hpersists, -, hroom, habsorbs⟩ :=
    close_burst_fits hpresent hopen hrunning hempty
  have hfounded : founded.topology.addrs.length = 3 := by
    rw [← hpersists.addrs_eq (hpersists.options_eq ▸ hnone), hlength]
  rw [hfounded] at hroom habsorbs
  exact ⟨present, hpresent, habsorbs [0, 1, 2], hroom hnone⟩

/-- A pool that was given one address and has discovered five more. -/
def grownRun : List Action :=
  let addrs := ["127.0.0.1:3301", "127.0.0.1:3302", "127.0.0.1:3303", "127.0.0.1:3304",
    "127.0.0.1:3305", "127.0.0.1:3306"]
  let options : PoolOptions :=
    { checkInterval := 1000000, discoveryFunction := some "members", discoveryInterval := 1000 }
  addrs.map (fun addr => .change (.addNode addr false)) ++
    [.change (.register "members" [.array (addrs.map .string)]),
      .prepare ["127.0.0.1:3301"] options] ++
    List.replicate 5 (.advance 0 0) ++ [.elapse 1000] ++ List.replicate 40 (.upkeep 0)

theorem close_burst_overflows :
    (run {} grownRun).world.services[0]?.map (fun present =>
      (present.pool.isClosed, present.upkeep.running, present.upkeep.agenda.isEmpty,
        present.pool.queue, present.pool.topology.connections)) =
      some (false, true, true, 0, [0, 1, 2, 3, 4, 5]) ∧
    (run {} grownRun).world.cluster.waiting 0 = [] ∧
    ((run {} grownRun).burst 0 [0, 1, 2, 3, 4, 5]).length = 12 ∧
    ((run (run {} grownRun)
      ([0, 1, 2, 3, 4, 5].map fun node => .change (.stop node))).world.cluster.waiting 0).length =
        10 := by
  decide +kernel

end System

end ReplicaPool
