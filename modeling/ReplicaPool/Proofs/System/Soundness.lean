import ReplicaPool.Proofs.System.Construction

/-!
# Sound systems

In a system every queue belongs to one pool: to a service, to a pool that is being built, or to one that
could not be built. So work on one pool leaves all others alone. `System.Sound` says that every pool is
sound in its own way, and that the connections of a closed pool are closed unless somebody is about to
close them. Every action keeps a system sound.
-/

namespace ReplicaPool

/-- The queue that a call answers for: that of a pool which it builds or could not build. -/
def Call.queue? : Call → Option QueueId
  | .reach pool _ => some pool.queue
  | .fill pool _ _ => some pool.queue
  | .built queue (.error _) => some queue
  | _ => none

def Call.Sound (cluster : Cluster) : Call → Prop
  | .reach pool slots => pool.Expects cluster (slots.map Slot.held)
  | .fill pool _ attempts => pool.Expects cluster (attempts.map Attempt.held)
  | .built queue (.error _) => ∀ connection addr, cluster.Serves connection addr queue →
      cluster.link connection = .closed
  | _ => True

theorem Call.Sound.evolves {cluster later : Cluster} {opened : QueueId → Prop} {call : Call}
    (hsound : call.Sound cluster) (hevolves : cluster.Evolves opened later)
    (hclosed : ∀ queue, call.queue? = some queue → ¬opened queue) : call.Sound later := by
  cases call with
  | reach pool slots => exact Pool.Expects.evolves hsound hevolves (hclosed _ rfl)
  | fill pool alive attempts => exact Pool.Expects.evolves hsound hevolves (hclosed _ rfl)
  | built queue outcome =>
      cases outcome with
      | error cause =>
          intro connection addr hserves
          rcases hevolves.serves_origin hserves with hbefore | ⟨-, hopened⟩
          · exact hevolves.link_closed hbefore (hsound connection addr hbefore)
          · exact absurd hopened (hclosed _ rfl)
      | ok service => trivial
  | close service pending complaints => trivial
  | closed service complaints => trivial

theorem Call.evolves_advance (world : World) (place : Nat) (call : Call) :
    world.cluster.Evolves (fun queue => call.queue? = some queue)
      (call.advance world place).1.cluster := by
  cases call with
  | reach pool slots =>
      simp only [advance]
      split
      · exact .refl _
      · split
        · exact .refl _
        · rename_i slot hslot
          obtain ⟨middle, hfirst, hsecond⟩ := Slot.exists_touched_advance world pool slot
          refine (hfirst.evolves.trans hsecond.evolves).mono ?_
          rintro queue rfl
          rfl
  | fill pool somebodyAlive attempts =>
      cases attempts with
      | cons attempt rest => exact .refl _
      | nil =>
          cases somebodyAlive with
          | true => exact .refl _
          | false =>
              simp only [advance, World.launch, Bool.false_eq_true, if_false,
                World.closeConnections_snd]
              exact Cluster.evolves_closeEach _ _
  | built queue outcome => exact .refl _
  | close service pending complaints =>
      cases pending with
      | cons connection rest => exact Cluster.evolves_close _ _
      | nil => exact .refl _
  | closed service complaints => exact .refl _

def Call.WillClose (service : ServiceId) (connection : ConnectionId) : Call → Prop
  | .close other pending _ => other = service ∧ connection ∈ pending
  | _ => False

theorem Pool.Sound.serves_of_mem {cluster : Cluster} {pool : Pool} {connection : ConnectionId}
    (hsound : pool.Sound cluster) (hmem : connection ∈ pool.topology.connections) :
    ∃ addr, cluster.Serves connection addr pool.queue := by
  obtain ⟨role, addr, hentry⟩ := Topology.mem_connections_iff.mp hmem
  exact ⟨addr, hsound.serves (hsound.consistent.lookup?_eq_some_iff.mpr hentry)⟩

theorem Pool.Sound.link_closed {cluster later : Cluster} {opened : QueueId → Prop} {pool : Pool}
    {connection : ConnectionId} (hsound : pool.Sound cluster)
    (hmem : connection ∈ pool.topology.connections) (hevolves : cluster.Evolves opened later)
    (hclosed : cluster.link connection = .closed) : later.link connection = .closed := by
  obtain ⟨addr, hserves⟩ := hsound.serves_of_mem hmem
  exact hevolves.link_closed hserves hclosed

namespace System

def queues (system : System) : List QueueId :=
  system.world.services.map (fun present => present.pool.queue) ++
    system.calls.filterMap Call.queue?

structure Sound (system : System) : Prop where
  wellFormed : system.world.cluster.WellFormed
  upkeep : ∀ {service : ServiceId} {present : Service},
    system.world.services[service]? = some present →
      SoundUpkeep system.world.cluster present.pool present.upkeep.agenda
  calls : ∀ {place : Nat} {call : Call}, system.calls[place]? = some call →
    call.Sound system.world.cluster
  queues_nodup : system.queues.Nodup
  queues_lt : ∀ {queue : QueueId}, queue ∈ system.queues →
    queue < system.world.cluster.queues.length
  owned : ∀ {connection : ConnectionId} {addr : String} {queue : QueueId},
    system.world.cluster.Serves connection addr queue → queue ∈ system.queues
  shut : ∀ {service : ServiceId} {present : Service} {connection : ConnectionId},
    system.world.services[service]? = some present → present.pool.isClosed = true →
      connection ∈ present.pool.topology.connections →
        system.world.cluster.link connection = .closed ∨
          ∃ call ∈ system.calls, call.WillClose service connection

theorem sound_empty : Sound {} where
  wellFormed := Cluster.wellFormed_empty
  upkeep := fun hpresent => by simp at hpresent
  calls := fun hcall => by simp at hcall
  queues_nodup := List.nodup_nil
  queues_lt := fun hqueue => by simp [queues] at hqueue
  owned := by
    rintro connection addr queue ⟨present, hpresent, -⟩
    simp at hpresent
  shut := fun hpresent => by simp at hpresent

namespace Sound

variable {system : System} {later : World} {opened : QueueId → Prop} {service other : ServiceId}
  {present another : Service} {place index : Nat} {call next : Call} {queue : QueueId}

/-! ### Different pools have different queues -/

theorem queue_ne_of_services (hsound : system.Sound)
    (hpresent : system.world.services[service]? = some present)
    (hanother : system.world.services[other]? = some another) (hne : other ≠ service) :
    another.pool.queue ≠ present.pool.queue := by
  intro hsame
  have hnodup := (List.nodup_append.mp hsound.queues_nodup).1
  have hlt := (List.getElem?_eq_some_iff.mp hanother).1
  refine hne ((List.getElem?_inj (by simpa using hlt) hnodup).mp ?_)
  rw [List.getElem?_map, List.getElem?_map, hpresent, hanother]
  exact congrArg some hsame

theorem queue_ne_of_call (hsound : system.Sound)
    (hpresent : system.world.services[service]? = some present)
    (hcall : system.calls[place]? = some call) (hqueue : call.queue? = some queue) :
    present.pool.queue ≠ queue := by
  refine (List.nodup_append.mp hsound.queues_nodup).2.2 _ ?_ _ ?_
  · exact List.mem_map.mpr ⟨present, List.mem_of_getElem? hpresent, rfl⟩
  · exact List.mem_filterMap.mpr ⟨call, List.mem_of_getElem? hcall, hqueue⟩

theorem queue_ne_of_calls (hsound : system.Sound) (hcall : system.calls[place]? = some call)
    (hnext : system.calls[index]? = some next) (hne : index ≠ place)
    (hqueue : call.queue? = some queue) : next.queue? ≠ some queue := by
  intro hsame
  have hpairwise := List.pairwise_filterMap.mp (List.nodup_append.mp hsound.queues_nodup).2.1
  rw [List.pairwise_iff_getElem] at hpairwise
  obtain ⟨hplace, rfl⟩ := List.getElem?_eq_some_iff.mp hcall
  obtain ⟨hindex, rfl⟩ := List.getElem?_eq_some_iff.mp hnext
  rcases Nat.lt_or_gt_of_ne hne with hlt | hgt
  · exact hpairwise index place hindex hplace hlt queue hsame queue hqueue rfl
  · exact hpairwise place index hplace hindex hgt queue hqueue queue hsame rfl

theorem service_queue_mem (hpresent : system.world.services[service]? = some present) :
    present.pool.queue ∈ system.queues :=
  List.mem_append_left _ (List.mem_map.mpr ⟨present, List.mem_of_getElem? hpresent, rfl⟩)

theorem call_queue_mem (hcall : system.calls[place]? = some call)
    (hqueue : call.queue? = some queue) : queue ∈ system.queues :=
  List.mem_append_right _ (List.mem_filterMap.mpr ⟨call, List.mem_of_getElem? hcall, hqueue⟩)

theorem pool_sound (hsound : system.Sound)
    (hpresent : system.world.services[service]? = some present) :
    present.pool.Sound system.world.cluster :=
  (hsound.upkeep hpresent).sound

theorem shut_evolves {connection : ConnectionId} (hsound : system.Sound)
    (hpresent : system.world.services[service]? = some present)
    (hevolves : system.world.cluster.Evolves opened later.cluster)
    (hclosed : present.pool.isClosed = true)
    (hmem : connection ∈ present.pool.topology.connections) :
    later.cluster.link connection = .closed ∨
      ∃ call ∈ system.calls, call.WillClose service connection :=
  (hsound.shut hpresent hclosed hmem).imp_left
    ((hsound.pool_sound hpresent).link_closed hmem hevolves)

/-! ### One thing changes at a time -/

theorem elsewhere (hsound : system.Sound) (later : World)
    (hservices : later.services = system.world.services)
    (hevolves : system.world.cluster.Evolves (fun _ => False) later.cluster)
    (hwellFormed : later.cluster.WellFormed) : Sound ⟨later, system.calls⟩ where
  wellFormed := hwellFormed
  upkeep := fun hpresent =>
    (hsound.upkeep (hservices ▸ hpresent)).evolves hevolves id
  calls := fun hcall => (hsound.calls hcall).evolves hevolves fun _ _ => id
  queues_nodup := by
    rw [queues, hservices]
    exact hsound.queues_nodup
  queues_lt := by
    intro queue hqueue
    rw [queues, hservices] at hqueue
    exact Nat.lt_of_lt_of_le (hsound.queues_lt hqueue) hevolves.queues_le
  owned := by
    intro connection addr queue hserves
    rw [queues, hservices]
    rcases hevolves.serves_origin hserves with hbefore | ⟨-, hfalse⟩
    · exact hsound.owned hbefore
    · exact hfalse.elim
  shut := by
    intro service present connection hpresent hclosed hmem
    rw [hservices] at hpresent
    exact hsound.shut_evolves hpresent hevolves hclosed hmem

theorem setService (hsound : system.Sound) (changed : Service)
    (hpresent : system.world.services[service]? = some present)
    (hservices : later.services = system.world.services.set service changed)
    (hevolves : system.world.cluster.Evolves (· = present.pool.queue) later.cluster)
    (hwellFormed : later.cluster.WellFormed)
    (hqueue : changed.pool.queue = present.pool.queue)
    (hupkeep : SoundUpkeep later.cluster changed.pool changed.upkeep.agenda)
    (hshut : changed.pool.isClosed = true →
      ∀ connection ∈ changed.pool.topology.connections,
        later.cluster.link connection = .closed ∨
          ∃ call ∈ system.calls, call.WillClose service connection) :
    Sound ⟨later, system.calls⟩ := by
  have hcases : ∀ {other another}, later.services[other]? = some another →
      (other = service ∧ another = changed) ∨
        (other ≠ service ∧ system.world.services[other]? = some another) := by
    intro other another hanother
    rw [hservices] at hanother
    by_cases hsame : other = service
    · subst hsame
      rw [List.getElem?_set_self (List.getElem?_eq_some_iff.mp hpresent).1] at hanother
      exact Or.inl ⟨rfl, (Option.some.inj hanother).symm⟩
    · rw [List.getElem?_set_ne (Ne.symm hsame)] at hanother
      exact Or.inr ⟨hsame, hanother⟩
  have hqueues : queues ⟨later, system.calls⟩ = system.queues := by
    rw [queues, hservices, map_set_of_eq hpresent hqueue]
    rfl
  refine ⟨hwellFormed, ?_, ?_, hqueues ▸ hsound.queues_nodup, ?_, ?_, ?_⟩
  · intro other another hanother
    rcases hcases hanother with ⟨rfl, rfl⟩ | ⟨hne, hbefore⟩
    · exact hupkeep
    · exact (hsound.upkeep hbefore).evolves hevolves
        (hsound.queue_ne_of_services hpresent hbefore hne)
  · intro place call hcall
    refine (hsound.calls hcall).evolves hevolves fun queue hcallQueue hsame => ?_
    exact hsound.queue_ne_of_call hpresent hcall hcallQueue hsame.symm
  · intro queue hmem
    rw [hqueues] at hmem
    exact Nat.lt_of_lt_of_le (hsound.queues_lt hmem) hevolves.queues_le
  · intro connection addr queue hserves
    rw [hqueues]
    rcases hevolves.serves_origin hserves with hbefore | ⟨-, hmine⟩
    · exact hsound.owned hbefore
    · rw [hmine]
      exact service_queue_mem hpresent
  · intro other another connection hanother hclosed hmem
    rcases hcases hanother with ⟨rfl, rfl⟩ | ⟨-, hbefore⟩
    · exact hshut hclosed connection hmem
    · exact hsound.shut_evolves hbefore hevolves hclosed hmem

/-- A call goes on and answers for the same queue. It closes what it was about to, now or later. -/
theorem setCall (hsound : system.Sound) (hcall : system.calls[place]? = some call)
    (hservices : later.services = system.world.services)
    (hevolves : system.world.cluster.Evolves (fun queue => call.queue? = some queue) later.cluster)
    (hwellFormed : later.cluster.WellFormed) (hqueue : next.queue? = call.queue?)
    (hnext : next.Sound later.cluster)
    (hclosing : ∀ {service connection}, call.WillClose service connection →
      later.cluster.link connection = .closed ∨ next.WillClose service connection) :
    Sound ⟨later, system.calls.set place next⟩ := by
  have hqueues : queues ⟨later, system.calls.set place next⟩ = system.queues := by
    rw [queues, hservices, filterMap_set_of_eq hcall hqueue]
    rfl
  refine ⟨hwellFormed, ?_, ?_, hqueues ▸ hsound.queues_nodup, ?_, ?_, ?_⟩
  · intro service present hpresent
    rw [hservices] at hpresent
    refine (hsound.upkeep hpresent).evolves hevolves fun hsame => ?_
    exact hsound.queue_ne_of_call hpresent hcall hsame rfl
  · intro index another hanother
    by_cases hsame : index = place
    · subst hsame
      rw [List.getElem?_set_self (List.getElem?_eq_some_iff.mp hcall).1] at hanother
      cases hanother
      exact hnext
    · rw [List.getElem?_set_ne (Ne.symm hsame)] at hanother
      refine (hsound.calls hanother).evolves hevolves fun queue hanotherQueue hcallQueue => ?_
      exact hsound.queue_ne_of_calls hcall hanother hsame hcallQueue hanotherQueue
  · intro queue hmem
    rw [hqueues] at hmem
    exact Nat.lt_of_lt_of_le (hsound.queues_lt hmem) hevolves.queues_le
  · intro connection addr queue hserves
    rw [hqueues]
    rcases hevolves.serves_origin hserves with hbefore | ⟨-, hmine⟩
    · exact hsound.owned hbefore
    · exact call_queue_mem hcall hmine
  · intro service present connection hpresent hclosed hmem
    rw [hservices] at hpresent
    have hset := List.mem_set (List.getElem?_eq_some_iff.mp hcall).1 next
    rcases hsound.shut_evolves hpresent hevolves hclosed hmem with hdone | ⟨closing, hold, hwill⟩
    · exact Or.inl hdone
    · obtain ⟨index, hindex⟩ := List.mem_iff_getElem?.mp hold
      by_cases hsame : index = place
      · subst hsame
        rw [hcall] at hindex
        cases hindex
        exact (hclosing hwill).imp_right fun hnextWill => ⟨next, hset, hnextWill⟩
      · refine Or.inr ⟨closing, List.mem_of_getElem? (i := index) ?_, hwill⟩
        rw [List.getElem?_set_ne (Ne.symm hsame), hindex]

end Sound

end System

end ReplicaPool
