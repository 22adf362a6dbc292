import ReplicaPool.Proofs.Cluster.Links
import ReplicaPool.Proofs.System.Steps

/-!
# Actions are runs of the cluster

Whatever an action of a system does to the cluster is a sequence of moves, so what holds after every run of
a cluster holds in every reachable system. `System.Makes` says which moves an action makes: changes and
requests that somebody asked for are its own, upkeep and calls reach for nodes without writing to them, and
connections are let go of only with a pool that nobody holds any more.
-/

namespace ReplicaPool

inductive Move.Reaches : Move → Prop
  | dial (addr : String) (queue : QueueId) : Reaches (.dial addr queue)
  | ask (connection : ConnectionId) {request : Request} (hreads : request.isWrite = false) :
      Reaches (.execute connection request)
  | close (connection : ConnectionId) : Reaches (.close connection)

namespace Cluster

variable {earlier middle later : Cluster} {allowed other : Move → Prop}

def PlaysBy (allowed : Move → Prop) (earlier later : Cluster) : Prop :=
  ∃ moves, later = earlier.play moves ∧ ∀ move ∈ moves, allowed move

theorem PlaysBy.refl (cluster : Cluster) : PlaysBy allowed cluster cluster :=
  ⟨[], rfl, nofun⟩

theorem PlaysBy.trans (hearly : PlaysBy allowed earlier middle)
    (hlate : PlaysBy allowed middle later) : PlaysBy allowed earlier later := by
  obtain ⟨early, rfl, hearlyAllowed⟩ := hearly
  obtain ⟨late, rfl, hlateAllowed⟩ := hlate
  refine ⟨early ++ late, (play_append earlier early late).symm, fun move hmem => ?_⟩
  rcases List.mem_append.mp hmem with hfirst | hsecond
  · exact hearlyAllowed move hfirst
  · exact hlateAllowed move hsecond

theorem PlaysBy.mono (hplays : PlaysBy allowed earlier later)
    (himplies : ∀ move, allowed move → other move) : PlaysBy other earlier later := by
  obtain ⟨moves, hmoves, hallowed⟩ := hplays
  exact ⟨moves, hmoves, fun move hmem => himplies move (hallowed move hmem)⟩

theorem playsBy_move (cluster : Cluster) {move : Move} (hallowed : allowed move) :
    PlaysBy allowed cluster (cluster.move move) :=
  ⟨[move], rfl, fun _ hmem => List.mem_singleton.mp hmem ▸ hallowed⟩

theorem playsBy_closeEach (cluster : Cluster) (connections : List ConnectionId) :
    PlaysBy Move.Reaches cluster (cluster.closeEach connections) := by
  induction connections generalizing cluster with
  | nil => exact .refl cluster
  | cons first rest ih =>
      exact (playsBy_move cluster (Move.Reaches.close first)).trans (ih (cluster.close first))

theorem modifyQueue_eq_read {cluster : Cluster} {queue : QueueId} {event : Event} {rest : EventQueue}
    (htake : cluster.queues[queue]?.bind EventQueue.take? = some (event, rest)) :
    (cluster.modifyQueue queue fun _ => rest) = cluster.move (.read queue 1) := by
  obtain ⟨present, hpresent, htaken⟩ := Option.bind_eq_some_iff.mp htake
  have hrest : rest = { present with pending := present.pending.drop 1 } := by
    unfold EventQueue.take? at htaken
    split at htaken
    · rename_i first others hpending
      cases htaken
      rw [hpending, List.drop_one, List.tail_cons]
    · cases htaken
  rw [Cluster.move, modifyQueue, modifyQueue, modify_eq_set hpresent, modify_eq_set hpresent, hrest]

/-- A connection that nobody holds was let go of by a move. -/
theorem released_of_unheld {cluster : Cluster} {moves : List Move} {id : ConnectionId}
    {present : Connection} (hpresent : (cluster.play moves).connections[id]? = some present)
    (hunheld : present.held = false) :
    (∃ before, cluster.connections[id]? = some before ∧ before.held = false) ∨
      ∃ connections, .release connections ∈ moves ∧ id ∈ connections := by
  induction moves using List.reverseRecOn generalizing present with
  | nil => exact Or.inl ⟨present, hpresent, hunheld⟩
  | append_singleton moves move ih =>
      rw [play_concat] at hpresent
      rcases Nat.lt_or_ge id (cluster.play moves).connections.length with hold | hnew
      · have hbefore := List.getElem?_eq_getElem hold
        rw [getElem?_move hbefore] at hpresent
        obtain rfl := Option.some.inj hpresent
        rcases Bool.and_eq_false_iff.mp hunheld with hwas | hnow
        · refine (ih hbefore hwas).imp_right ?_
          rintro ⟨connections, hmem, hid⟩
          exact ⟨connections, List.mem_append_left _ hmem, hid⟩
        · right
          cases move with
          | release connections =>
              refine ⟨connections, List.mem_append_right _ List.mem_cons_self, ?_⟩
              simpa [Move.releases] using hnow
          | _ => cases hnow
      · obtain ⟨addr, queue, node, taker, -, -, -, rfl⟩ := exists_dial_of_made hpresent hnew
        cases hunheld

end Cluster

namespace World

variable {world later : World} {service : ServiceId} {present : Service} {queue : QueueId}
  {allowed : Move → Prop}

open Cluster (PlaysBy playsBy_move)

theorem Touched.playsBy (htouched : Touched world queue later) :
    PlaysBy Move.Reaches world.cluster later.cluster := by
  cases htouched with
  | same => exact .refl world.cluster
  | dial addr => exact playsBy_move world.cluster (Move.Reaches.dial addr queue)
  | execute connection hreads => exact playsBy_move world.cluster (Move.Reaches.ask connection hreads)
  | close connection => exact playsBy_move world.cluster (Move.Reaches.close connection)

/-- Nothing is let go of as long as somebody holds the pool. -/
theorem playsBy_reap (hpresent : world.services[service]? = some present)
    (hreleased : present.owned = false → present.upkeep.running = false →
      allowed (.release present.pool.topology.connections)) :
    PlaysBy allowed world.cluster (world.reap service).cluster := by
  simp only [reap, hpresent]
  split
  · exact .refl world.cluster
  · rename_i hnobody
    obtain ⟨howned, hrunning⟩ := Bool.or_eq_false_iff.mp (Bool.eq_false_iff.mpr hnobody)
    exact playsBy_move world.cluster (hreleased howned hrunning)

theorem playsBy_disown (hpresent : world.services[service]? = some present)
    (hreleased : present.upkeep.running = false →
      allowed (.release present.pool.topology.connections)) :
    PlaysBy allowed world.cluster (world.disown service).cluster := by
  have hdisowned : (world.modifyService service fun present =>
      { present with owned := false }).services[service]? = some { present with owned := false } :=
    getElem?_modifyService hpresent _
  exact playsBy_reap hdisowned fun _ => hreleased

theorem playsBy_endUpkeep (hpresent : world.services[service]? = some present)
    (hleaves : allowed (.leave present.pool.queue))
    (hreleased : present.owned = false → allowed (.release present.pool.topology.connections)) :
    PlaysBy allowed world.cluster (world.endUpkeep service).cluster := by
  let upkeep : Upkeep := { present.upkeep with running := false, agenda := [] }
  let unread : World := { world.modifyService service fun before => { before with upkeep } with
    cluster := world.cluster.modifyQueue present.pool.queue EventQueue.dropReader }
  have hend : world.endUpkeep service = unread.reap service := by
    simp only [endUpkeep, hpresent]
    rfl
  have hended : unread.services[service]? = some { present with upkeep } :=
    getElem?_modifyService hpresent _
  have hleave : PlaysBy allowed world.cluster unread.cluster := playsBy_move world.cluster hleaves
  rw [hend]
  exact hleave.trans (playsBy_reap hended fun howned _ => hreleased howned)

end World

namespace System

variable {system : System} {action : Action} {service : ServiceId} {present : Service}

open Cluster (PlaysBy playsBy_move)

def LetsGo (system : System) (action : Action) (connections : List ConnectionId) : Prop :=
  ∃ (service : ServiceId) (present next : Service),
    system.world.services[service]? = some present ∧
    connections = present.pool.topology.connections ∧
    (system.act action).world.services[service]? = some next ∧
    next.pool.queue = present.pool.queue ∧ next.owned = false ∧ next.upkeep.running = false

def Ended (system : System) (queue : QueueId) : Prop :=
  ∃ (service : ServiceId) (present : Service), system.world.services[service]? = some present ∧
    present.pool.queue = queue ∧ present.upkeep.running = false

inductive Makes (system : System) : Action → Move → Prop
  | change (change : ClusterChange) : Makes system (.change change) (.change change)
  | execute (connection : ConnectionId) (request : Request) :
      Makes system (.execute connection request) (.execute connection request)
  | addQueue (addrs : List String) (options : PoolOptions) (capacity : Nat) :
      Makes system (.prepare addrs options) (.addQueue capacity)
  | upkeep (service : ServiceId) {move : Move} (hreaches : move.Reaches) :
      Makes system (.upkeep service) move
  | advance (call place : Nat) {move : Move} (hreaches : move.Reaches) :
      Makes system (.advance call place) move
  | read {service : ServiceId} {present : Service}
      (hpresent : system.world.services[service]? = some present) :
      Makes system (.upkeep service) (.read present.pool.queue 1)
  | leave {action : Action} {queue : QueueId} (hended : (system.act action).Ended queue) :
      Makes system action (.leave queue)
  | release {action : Action} {connections : List ConnectionId}
      (hletsGo : system.LetsGo action connections) : Makes system action (.release connections)

theorem playsBy_upkeep (hpresent : system.world.services[service]? = some present) {later : World}
    (hact : system.act (.upkeep service) = { system with world := later })
    (hstep : UpkeepStep system.world service present later) :
    PlaysBy (system.Makes (.upkeep service)) system.world.cluster later.cluster := by
  cases hstep with
  | @work job rest hagenda hdue =>
      exact (World.touched_perform system.world present.pool job).playsBy.mono
        fun _ hreaches => .upkeep service hreaches
  | finish hagenda hover =>
      let upkeep : Upkeep := { present.upkeep with running := false, agenda := [] }
      have hended : (system.act (.upkeep service)).world.services[service]? =
          some { present with upkeep } := by
        rw [hact, (World.endUpkeep_spec hpresent).1]
        exact List.getElem?_set_self (List.getElem?_eq_some_iff.mp hpresent).1
      refine World.playsBy_endUpkeep hpresent (.leave ⟨service, _, hended, rfl, rfl⟩)
        fun howned => .release ?_
      exact ⟨service, present, _, hpresent, rfl, hended, rfl, howned, rfl⟩
  | hear hagenda hopen htake =>
      have hread : PlaysBy (system.Makes (.upkeep service)) system.world.cluster
          (system.world.cluster.move (.read present.pool.queue 1)) :=
        playsBy_move system.world.cluster (Makes.read hpresent)
      rwa [← Cluster.modifyQueue_eq_read htake] at hread
  | discover hagenda hopen => exact .refl system.world.cluster
  | refresh hagenda hopen => exact .refl system.world.cluster

/-- The pieces of a call dial, ask and close. -/
theorem playsBy_advance (world : World) (place : Nat) (call : Call) :
    PlaysBy Move.Reaches world.cluster (call.advance world place).1.cluster := by
  cases call with
  | reach pool slots =>
      simp only [Call.advance]
      split
      · exact .refl world.cluster
      · split
        · exact .refl world.cluster
        · rename_i slot hslot
          obtain ⟨middle, hfirst, hsecond⟩ := Slot.exists_touched_advance world pool slot
          exact hfirst.playsBy.trans hsecond.playsBy
  | fill pool somebodyAlive attempts =>
      cases attempts with
      | cons attempt rest => exact .refl world.cluster
      | nil =>
          cases somebodyAlive with
          | true => exact .refl world.cluster
          | false =>
              simp only [Call.advance, World.launch, Bool.false_eq_true, if_false,
                World.closeConnections_snd]
              exact Cluster.playsBy_closeEach world.cluster _
  | close service pending complaints =>
      cases pending with
      | nil => exact .refl world.cluster
      | cons connection rest => exact playsBy_move world.cluster (Move.Reaches.close connection)
  | built queue outcome => exact .refl world.cluster
  | closed service complaints => exact .refl world.cluster

theorem playsBy_act (system : System) (action : Action) :
    PlaysBy (system.Makes action) system.world.cluster (system.act action).world.cluster := by
  have hacted := acted_act system action
  generalize hact : system.act action = later at hacted ⊢
  cases hacted with
  | change change => exact playsBy_move system.world.cluster (Makes.change change)
  | upkeep hstep =>
      obtain ⟨present, hpresent, hkind⟩ := World.stepUpkeep_some hstep
      exact playsBy_upkeep hpresent hact hkind
  | execute connection request =>
      exact playsBy_move system.world.cluster (Makes.execute connection request)
  | @disown service present hpresent =>
      refine World.playsBy_disown hpresent fun hrunning => .release ?_
      refine ⟨service, present, { present with owned := false }, hpresent, rfl, ?_, rfl, rfl,
        hrunning⟩
      rw [hact, (World.disown_spec hpresent).1]
      exact List.getElem?_set_self (List.getElem?_eq_some_iff.mp hpresent).1
  | prepare hprepare =>
      obtain ⟨-, rfl, -⟩ := World.prepare_ok hprepare
      exact playsBy_move system.world.cluster (Makes.addQueue _ _ _)
  | @advance call present hcall place =>
      exact (playsBy_advance system.world place present).mono
        fun _ hreaches => .advance call place hreaches
  | _ => exact .refl system.world.cluster

theorem exists_moves_run (system : System) (actions : List Action) :
    ∃ moves, (system.run actions).world.cluster = system.world.cluster.play moves := by
  induction actions generalizing system with
  | nil => exact ⟨[], rfl⟩
  | cons action rest ih =>
      obtain ⟨first, hfirst, -⟩ := playsBy_act system action
      obtain ⟨more, hmore⟩ := ih (system.act action)
      exact ⟨first ++ more, by rw [run_cons, hmore, hfirst, Cluster.play_append]⟩

/-- The cluster of a reachable system is one after a run. -/
theorem Reachable.exists_moves (hreachable : system.Reachable) :
    ∃ moves, system.world.cluster = Cluster.play {} moves := by
  obtain ⟨actions, rfl⟩ := hreachable
  exact exists_moves_run {} actions

theorem Reachable.linked (hreachable : system.Reachable) : system.world.cluster.Linked := by
  obtain ⟨moves, hmoves⟩ := hreachable.exists_moves
  rw [hmoves]
  exact Cluster.linked_play moves

end System

end ReplicaPool
