import ReplicaPool.Proofs.Cluster.Bursts
import ReplicaPool.Proofs.System.Moves
import ReplicaPool.Proofs.System.Status

/-!
# How pools begin

A pool is set up once, with its queue, its options and the addresses that it was given. `System.Founds` says
which pools a run has set up. A pool keeps its queue and its options for ever, and the capacity of the queue
stays what it was at the beginning. Its addresses change only by discovery.
-/

namespace ReplicaPool

/-- The same pool later on. Without a discovery function it also manages the same addresses. -/
structure Pool.Persists (earlier later : Pool) : Prop where
  queue_eq : later.queue = earlier.queue
  options_eq : later.options = earlier.options
  addrs_eq : earlier.options.discoveryFunction = none →
    later.topology.addrs = earlier.topology.addrs

theorem Pool.Persists.refl (pool : Pool) : pool.Persists pool :=
  ⟨rfl, rfl, fun _ => rfl⟩

theorem Pool.Persists.trans {first middle last : Pool} (hearly : first.Persists middle)
    (hlate : middle.Persists last) : first.Persists last where
  queue_eq := hlate.queue_eq.trans hearly.queue_eq
  options_eq := hlate.options_eq.trans hearly.options_eq
  addrs_eq := by
    intro hnone
    rw [hlate.addrs_eq (by rw [hearly.options_eq, hnone]), hearly.addrs_eq hnone]

variable {world : World} {pool : Pool} {job : Job} {rest : List Job}

/-! ### Pools without a discovery function -/

theorem Job.reconciles_of_leads (hjob : job.leads = false) : job.reconciles = false := by
  cases job <;> first | rfl | cases hjob

/-- Only the answer to a discovery function leads to a reconciliation. -/
theorem not_reconciles_perform (hnone : pool.options.discoveryFunction = none)
    (hjob : job.reconciles = false) :
    (world.perform pool job).2.2.any Job.reconciles = false := by
  rw [List.any_eq_false]
  intro follower hmem
  cases hleads : job.leads with
  | false =>
      have hfollower := (ManagedUpkeep.aims_perform hleads hmem).1
      simp [Job.reconciles_of_leads hfollower]
  | true =>
      cases job with
      | discover => simp [World.perform, hnone] at hmem
      | learn connection script => simp [World.perform, hnone] at hmem
      | reconcile fresh gone members => cases hjob
      | _ => cases hleads

theorem persists_perform (hconsistent : pool.topology.Consistent)
    (hstatic : pool.options.discoveryFunction = none → job.reconciles = false) :
    pool.Persists (world.perform pool job).2.1 where
  queue_eq := (World.sectioned_perform world pool job).queue_eq
  options_eq := (World.sectioned_perform world pool job).options_eq
  addrs_eq := by
    intro hnone
    cases hleads : job.leads with
    | false => exact ManagedUpkeep.addrs_perform hconsistent hleads
    | true =>
        have hjob := hstatic hnone
        cases job with
        | discover => simp [World.perform, hnone]
        | learn connection script => simp [World.perform, hnone]
        | reconcile fresh gone members => cases hjob
        | _ => cases hleads

theorem persists_resolve (pool : Pool) (alive : ConnectionId → Bool) (mode : Mode) :
    pool.Persists (pool.resolve alive mode).2 where
  queue_eq := by rw [(Pool.resolve_snd alive pool mode).1]
  options_eq := by rw [(Pool.resolve_snd alive pool mode).1]
  addrs_eq := fun _ => (Pool.sameEntries_resolve alive pool mode).addrs

theorem persists_file (pool : Pool) (addr : String) (connection : ConnectionId) (role : Role) :
    pool.Persists (pool.file addr connection role).1 := by
  unfold Pool.file
  split
  · exact .refl pool
  · exact ⟨rfl, rfl, fun _ => (Topology.addrs_add _ _ _ _).trans (Topology.addrs_remove _ _)⟩

/-- The worker brings the addresses in line with others only if the pool has a discovery function. -/
def Service.Steady (present : Service) : Prop :=
  present.pool.options.discoveryFunction = none → present.upkeep.isReconciling = false

theorem not_reconciles_of_takesUp {agenda : List Job} (htakesUp : TakesUp world pool agenda) :
    agenda.any Job.reconciles = false := by
  cases htakesUp with
  | event event hopen =>
      unfold World.onEvent
      split
      · split
        · split <;> rfl
        · rfl
      · rfl
  | _ => rfl

namespace System

variable {system : System} {action : Action} {service : ServiceId} {present next : Service}
  {actions : List Action} {founded : Pool}

theorem Reachable.steady (hreachable : system.Reachable)
    (hpresent : system.world.services[service]? = some present) : present.Steady := by
  refine hreachable.service_induct (fun _ _ _ => rfl) ?_ hpresent
  intro system action service present next hsound hbefore hstepped hsteady
  cases hstepped with
  | route mode =>
      intro hnone
      rw [(persists_resolve present.pool _ mode).options_eq] at hnone
      exact hsteady hnone
  | disown => exact hsteady
  | shut hopen => exact hsteady
  | @work job rest hagenda hdue hrunning =>
      intro hnone
      rw [(World.sectioned_perform system.world present.pool job).options_eq] at hnone
      have hjobs := hsteady hnone
      rw [Upkeep.isReconciling, hagenda] at hjobs
      obtain ⟨hjob, hrest⟩ := Bool.or_eq_false_iff.mp hjobs
      have hnext : (system.world.perform present.pool job).2.2.any Job.reconciles = false :=
        not_reconciles_perform hnone hjob
      rw [Upkeep.isReconciling, List.any_append, hnext]
      exact hrest
  | turn hagenda htakesUp => exact fun _ => not_reconciles_of_takesUp htakesUp

/-! ### One pool through a run -/

def Founds (actions : List Action) (founded : Pool) : Prop :=
  ∃ early addrs options late world, actions = early ++ .prepare addrs options :: late ∧
    (run {} early).world.prepare addrs options = .ok (world, founded)

theorem Founds.concat (hfounds : Founds actions founded) (action : Action) :
    Founds (actions ++ [action]) founded := by
  obtain ⟨early, addrs, options, late, world, rfl, hprepare⟩ := hfounds
  exact ⟨early, addrs, options, late ++ [action], world, by simp, hprepare⟩

theorem persists_stepped (hsound : system.Sound) (hsteady : present.Steady)
    (hpresent : system.world.services[service]? = some present)
    (hstepped : present.Stepped system.world service action next) :
    present.pool.Persists next.pool := by
  cases hstepped with
  | route mode => exact persists_resolve present.pool _ mode
  | disown => exact .refl present.pool
  | shut hopen => exact ⟨rfl, rfl, fun _ => rfl⟩
  | @work job rest hagenda hdue hrunning =>
      refine persists_perform (hsound.pool_sound hpresent).consistent fun hnone => ?_
      have hjobs := hsteady hnone
      rw [Upkeep.isReconciling, hagenda] at hjobs
      exact (Bool.or_eq_false_iff.mp hjobs).1
  | turn hagenda htakesUp => exact .refl present.pool

theorem exists_persists_advance {call : Call} {world : World} {place : Nat} {later : Pool}
    (hlater : (call.advance world place).2.pool? = some later) :
    ∃ pool, call.pool? = some pool ∧ pool.Persists later := by
  cases call with
  | reach pool slots =>
      have hsame : (Call.advance world place (.reach pool slots)).2.pool? = some pool := by
        simp only [Call.advance]
        split
        · rfl
        · split <;> rfl
      rw [hsame] at hlater
      exact ⟨pool, rfl, Option.some.inj hlater ▸ .refl pool⟩
  | fill pool somebodyAlive attempts =>
      cases attempts with
      | nil => cases hlater
      | cons attempt rest =>
          refine ⟨pool, rfl, ?_⟩
          simp only [Call.advance, World.fileAttempt] at hlater
          split at hlater <;> obtain rfl := Option.some.inj hlater
          · exact persists_file pool _ _ _
          · exact .refl pool
  | close service pending complaints => cases pending <;> cases hlater
  | _ => cases hlater

/-- The pool of a service is an earlier one of the service, or that of the call which has built it. -/
theorem exists_persists_service (hreachable : system.Reachable)
    (hnext : next ∈ (system.act action).world.services) :
    ∃ pool ∈ system.pools, pool.Persists next.pool := by
  have hkept : next ∈ system.world.services → ∃ pool ∈ system.pools, pool.Persists next.pool :=
    fun hmem => ⟨next.pool, List.mem_append_left _ (List.mem_map_of_mem hmem), .refl next.pool⟩
  have hservices := servicesStep_act system action
  generalize (system.act action).world.services = services at hservices hnext
  cases hservices with
  | same hidle => exact hkept hnext
  | @set service present changed hpresent hstepped =>
      rcases List.mem_or_eq_of_mem_set hnext with hold | rfl
      · exact hkept hold
      · refine ⟨present.pool, ?_, persists_stepped hreachable.sound (hreachable.steady hpresent)
          hpresent hstepped⟩
        exact List.mem_append_left _ (List.mem_map_of_mem (List.mem_of_getElem? hpresent))
  | @launch place step pool haction hcall =>
      rcases List.mem_append.mp hnext with hold | hnew
      · exact hkept hold
      · rw [List.mem_singleton.mp hnew]
        exact ⟨pool, List.mem_append_right _
          (List.mem_filterMap.mpr ⟨_, List.mem_of_getElem? hcall, rfl⟩), .refl pool⟩

/-- The pool that a call builds is an earlier one, unless it is just set up. -/
theorem exists_persists_call {call : Call} {later : Pool} (hcall : call ∈ (system.act action).calls)
    (hlater : call.pool? = some later) :
    (∃ pool ∈ system.pools, pool.Persists later) ∨ ∃ addrs options world,
      action = .prepare addrs options ∧
        system.world.prepare addrs options = .ok (world, later) := by
  have hbuilt : ∀ {earlier : Call} {pool : Pool}, earlier ∈ system.calls →
      earlier.pool? = some pool → pool ∈ system.pools := fun hmem hpool =>
    List.mem_append_right _ (List.mem_filterMap.mpr ⟨_, hmem, hpool⟩)
  have hkept : call ∈ system.calls → ∃ pool ∈ system.pools, pool.Persists later :=
    fun hmem => ⟨later, hbuilt hmem hlater, .refl later⟩
  cases callsStep_act system action with
  | same hidle hcalls => exact Or.inl (hkept (hcalls ▸ hcall))
  | @build addrs options pool haction hprepare hcalls =>
      rcases List.mem_append.mp (hcalls ▸ hcall) with hold | hnew
      · exact Or.inl (hkept hold)
      · rw [List.mem_singleton.mp hnew] at hlater
        obtain rfl : pool = later := Option.some.inj hlater
        exact Or.inr ⟨addrs, options, _, haction, hprepare⟩
  | refuse haction hpresent hclosed hcalls =>
      rcases List.mem_append.mp (hcalls ▸ hcall) with hold | hnew
      · exact Or.inl (hkept hold)
      · rw [List.mem_singleton.mp hnew] at hlater
        cases hlater
  | shut haction hpresent hopen hnext hclosed hcalls =>
      rcases List.mem_append.mp (hcalls ▸ hcall) with hold | hnew
      · exact Or.inl (hkept hold)
      · rw [List.mem_singleton.mp hnew] at hlater
        cases hlater
  | @advance place step before haction hbefore hcalls =>
      left
      rcases List.mem_or_eq_of_mem_set (hcalls ▸ hcall) with hold | rfl
      · exact hkept hold
      · obtain ⟨pool, hpool, hpersists⟩ := exists_persists_advance hlater
        exact ⟨pool, hbuilt (List.mem_of_getElem? hbefore) hpool, hpersists⟩

theorem exists_founds {pool : Pool} (hpool : pool ∈ (run {} actions).pools) :
    ∃ founded, Founds actions founded ∧ founded.Persists pool := by
  induction actions using List.reverseRecOn generalizing pool with
  | nil => cases hpool
  | append_singleton actions action ih =>
      have hcontinues : ∀ {earlier : Pool}, earlier ∈ (run {} actions).pools →
          earlier.Persists pool →
            ∃ founded, Founds (actions ++ [action]) founded ∧ founded.Persists pool := by
        intro earlier hearlier hpersists
        obtain ⟨founded, hfounds, hbegan⟩ := ih hearlier
        exact ⟨founded, hfounds.concat action, hbegan.trans hpersists⟩
      rw [run_concat] at hpool
      rcases List.mem_append.mp hpool with hservice | hcall
      · obtain ⟨next, hnext, rfl⟩ := List.mem_map.mp hservice
        obtain ⟨earlier, hearlier, hpersists⟩ := exists_persists_service ⟨actions, rfl⟩ hnext
        exact hcontinues hearlier hpersists
      · obtain ⟨call, hmem, hlater⟩ := List.mem_filterMap.mp hcall
        rcases exists_persists_call hmem hlater with
          ⟨earlier, hearlier, hpersists⟩ | ⟨addrs, options, world, rfl, hprepare⟩
        · exact hcontinues hearlier hpersists
        · exact ⟨pool, ⟨actions, addrs, options, [], world, rfl, hprepare⟩, .refl pool⟩

/-- The queue of a pool has places for ten events of each address that the pool was given. -/
theorem Founds.capacity_eq (hfounds : Founds actions founded) :
    ∃ queue, (run {} actions).world.cluster.queues[founded.queue]? = some queue ∧
      queue.capacity = eventQueueFactor * founded.topology.addrs.length := by
  obtain ⟨early, addrs, options, late, world, rfl, hprepare⟩ := hfounds
  obtain ⟨-, hworld, htopology, hqueue, -⟩ := World.prepare_ok hprepare
  have hact : ((run {} early).act (.prepare addrs options)).world = world := by
    simp only [act, hprepare]
  have hnew : world.cluster.queues[founded.queue]? =
      some { capacity := eventQueueFactor * (distinct addrs).length } := by
    rw [hworld, hqueue]
    exact List.getElem?_concat_length
  obtain ⟨moves, hmoves⟩ := exists_moves_run ((run {} early).act (.prepare addrs options)) late
  obtain ⟨after, hafter, hcapacity, -⟩ := Cluster.exists_queue_play hnew moves
  refine ⟨after, ?_, by rw [hcapacity, htopology]⟩
  rw [run_append, run_cons, hmoves, hact, hafter]

end System

end ReplicaPool
