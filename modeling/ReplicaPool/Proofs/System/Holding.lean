import ReplicaPool.Proofs.Pool.Routing
import ReplicaPool.Proofs.System.Integrity
import ReplicaPool.Proofs.System.Moves

/-!
# Pools hold their connections

A pool is abandoned when neither its owner nor its upkeep holds it, and it stays so. Only connections of
abandoned pools are let go of. So as long as a pool has an owner it holds all its connections, and they
follow their nodes.
-/

namespace ReplicaPool

namespace System

variable {system : System} {service : ServiceId} {present : Service} {queue : QueueId}

def Abandoned (system : System) (queue : QueueId) : Prop :=
  ∃ (service : ServiceId) (present : Service), system.world.services[service]? = some present ∧
    present.pool.queue = queue ∧ present.owned = false ∧ present.upkeep.running = false

theorem Makes.letsGo {action : Action} {connections : List ConnectionId}
    (hmakes : system.Makes action (.release connections)) : system.LetsGo action connections := by
  cases hmakes with
  | upkeep service hreaches => cases hreaches
  | advance call place hreaches => cases hreaches
  | release hletsGo => exact hletsGo

theorem Makes.ended {action : Action} (hmakes : system.Makes action (.leave queue)) :
    (system.act action).Ended queue := by
  cases hmakes with
  | upkeep service hreaches => cases hreaches
  | advance call place hreaches => cases hreaches
  | leave hended => exact hended

theorem LetsGo.abandoned {action : Action} {connections : List ConnectionId}
    (hletsGo : system.LetsGo action connections) :
    ∃ (service : ServiceId) (present : Service), system.world.services[service]? = some present ∧
      connections = present.pool.topology.connections ∧
      (system.act action).Abandoned present.pool.queue := by
  obtain ⟨service, present, next, hpresent, hconnections, hnext, hqueue, howned, hrunning⟩ := hletsGo
  exact ⟨service, present, hpresent, hconnections, service, next, hnext, hqueue, howned, hrunning⟩

theorem stepUpkeep_of_ended {world : World} (hpresent : world.services[service]? = some present)
    (hended : present.upkeep.running = false) : world.stepUpkeep service = none := by
  simp [World.stepUpkeep, hpresent, hended]

/-- Upkeep that has ended does not begin again, and nothing else gives a pool an owner or new entries. -/
theorem exists_ended_act (hpresent : system.world.services[service]? = some present)
    (hended : present.upkeep.running = false) (action : Action) :
    ∃ next, (system.act action).world.services[service]? = some next ∧
      next.upkeep.running = false ∧ (present.owned = false → next.owned = false) ∧
      Pool.SameEntries { present.pool with isClosed := next.pool.isClosed } next.pool := by
  obtain ⟨next, hnext, ⟨rfl, -⟩ | hstepped⟩ := stepped_act hpresent action
  · exact ⟨next, hnext, hended, id, .refl _⟩
  · refine ⟨next, hnext, ?_⟩
    have hstays : action = .upkeep service → next = present := by
      rintro rfl
      have hact : system.act (.upkeep service) = system := by
        simp only [System.act, stepUpkeep_of_ended hpresent hended, Option.getD_none]
      rw [hact, hpresent] at hnext
      exact (Option.some.inj hnext).symm
    cases hstepped with
    | route mode =>
        have hsame := Pool.sameEntries_resolve system.world.isConnected present.pool mode
        refine ⟨hended, id, ?_⟩
        dsimp only
        rw [hsame.isClosed_eq]
        exact hsame
    | disown => exact ⟨hended, fun _ => rfl, .refl _⟩
    | shut hopen => exact ⟨hended, id, .refl _⟩
    | work hagenda hdue hrunning =>
        rw [hended] at hrunning
        cases hrunning
    | turn hagenda htakesUp =>
        rw [hstays rfl]
        exact ⟨hended, id, .refl _⟩

theorem Ended.act (hended : system.Ended queue) (action : Action) :
    (system.act action).Ended queue := by
  obtain ⟨service, present, hpresent, rfl, hrunning⟩ := hended
  obtain ⟨next, hnext, hstays, -, hsame⟩ := exists_ended_act hpresent hrunning action
  exact ⟨service, next, hnext, hsame.queue_eq, hstays⟩

theorem Abandoned.act (habandoned : system.Abandoned queue) (action : Action) :
    (system.act action).Abandoned queue := by
  obtain ⟨service, present, hpresent, rfl, howned, hrunning⟩ := habandoned
  obtain ⟨next, hnext, hstays, hdisowned, hsame⟩ := exists_ended_act hpresent hrunning action
  exact ⟨service, next, hnext, hsame.queue_eq, hdisowned howned, hstays⟩

def Keeps (system : System) : Prop :=
  ∀ (id : ConnectionId) (present : Connection),
    system.world.cluster.connections[id]? = some present → present.held = false →
      system.Abandoned present.queue

theorem Keeps.act (hkeeps : system.Keeps) (hsound : system.Sound) (action : Action) :
    (system.act action).Keeps := by
  intro id present hpresent hunheld
  obtain ⟨moves, hmoves, hmade⟩ := playsBy_act system action
  have hevolves : system.world.cluster.Evolves (fun _ => True) (system.act action).world.cluster := by
    rw [hmoves]
    exact Cluster.evolves_play system.world.cluster moves
  have hsame : ∀ addr queue, system.world.cluster.Serves id addr queue → present.queue = queue := by
    intro addr queue hserves
    obtain ⟨later, hlater, -, rfl⟩ := hevolves.serves hserves
    rw [hpresent] at hlater
    rw [Option.some.inj hlater]
  rw [hmoves] at hpresent
  rcases Cluster.released_of_unheld hpresent hunheld with
    ⟨before, hbefore, hwas⟩ | ⟨connections, hmem, hid⟩
  · rw [hsame before.addr before.queue ⟨before, hbefore, rfl, rfl⟩]
    exact (hkeeps id before hbefore hwas).act action
  · obtain ⟨service, former, hformer, rfl, habandoned⟩ := (hmade _ hmem).letsGo.abandoned
    obtain ⟨addr, hserves⟩ := (hsound.pool_sound hformer).serves_of_mem hid
    rw [hsame addr _ hserves]
    exact habandoned

theorem Reachable.keeps (hreachable : system.Reachable) : system.Keeps := by
  have hboth : system.Sound ∧ system.Keeps := by
    apply hreachable.induct
    · refine ⟨sound_empty, fun id present hpresent => ?_⟩
      simp at hpresent
    · rintro system action ⟨hsound, hkeeps⟩
      exact ⟨hsound.act action, hkeeps.act hsound action⟩
  exact hboth.2

theorem Sound.service_unique {other : ServiceId} {another : Service} (hsound : system.Sound)
    (hpresent : system.world.services[service]? = some present)
    (hanother : system.world.services[other]? = some another)
    (hqueue : another.pool.queue = present.pool.queue) : another = present := by
  by_cases hother : other = service
  · subst hother
    exact Option.some.inj (hanother.symm.trans hpresent)
  · exact absurd hqueue (hsound.queue_ne_of_services hpresent hanother hother)

/-- A pool that is not abandoned holds its connections. -/
theorem Reachable.held {connection : ConnectionId} (hreachable : system.Reachable)
    (hpresent : system.world.services[service]? = some present)
    (hheld : present.owned = true ∨ present.upkeep.running = true)
    (hmem : connection ∈ present.pool.topology.connections) :
    ∃ filed, system.world.cluster.connections[connection]? = some filed ∧ filed.held = true := by
  obtain ⟨addr, filed, hfiled, -, hqueue⟩ := (hreachable.sound.pool_sound hpresent).serves_of_mem hmem
  refine ⟨filed, hfiled, ?_⟩
  by_contra hnot
  obtain ⟨other, another, hanother, hsame, hdisowned, hended⟩ :=
    hreachable.keeps connection filed hfiled (Bool.eq_false_iff.mpr hnot)
  obtain rfl : another = present :=
    hreachable.sound.service_unique hpresent hanother (hsame.trans hqueue)
  rw [hdisowned, hended] at hheld
  exact hheld.elim nofun nofun

/-- A connected connection of a pool that has an owner leads to a running node with its link up. -/
theorem Reachable.exists_live_node {connection : ConnectionId} (hreachable : system.Reachable)
    (hpresent : system.world.services[service]? = some present) (howned : present.owned = true)
    (hmem : connection ∈ present.pool.topology.connections)
    (hconnected : system.world.isConnected connection = true) :
    ∃ filed node, system.world.cluster.connections[connection]? = some filed ∧
      filed.link = .connected ∧ system.world.cluster.nodes[filed.node]? = some node ∧
      node.running = true ∧ node.linkUp = true := by
  obtain ⟨filed, hfiled, hheld⟩ := hreachable.held hpresent (Or.inl howned) hmem
  obtain ⟨node, hnode, hfollows⟩ := hreachable.linked connection filed hfiled hheld
  have hlink : filed.link = .connected := by
    rw [← Cluster.link_eq hfiled]
    simpa [World.isConnected, Cluster.isConnected] using hconnected
  rcases hfollows with hclosed | ⟨hrunning, hfollowed⟩
  · rw [hlink] at hclosed
    cases hclosed
  · refine ⟨filed, node, hfiled, hlink, hnode, hrunning, ?_⟩
    cases hup : node.linkUp with
    | true => rfl
    | false =>
        rw [hlink, hup] at hfollowed
        cases hfollowed

end System

end ReplicaPool
