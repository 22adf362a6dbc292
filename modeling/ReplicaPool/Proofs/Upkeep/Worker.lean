import ReplicaPool.Proofs.Upkeep.Soundness

/-!
# One piece of upkeep

`UpkeepStep` lists what a worker does next: it goes on with its agenda, ends with its pool, or turns to an
event or a tick. A new agenda is sound, so upkeep as a whole stays sound.
-/

namespace ReplicaPool

variable {world later : World} {service : ServiceId} {present : Service}

inductive UpkeepStep (world : World) (service : ServiceId) (present : Service) : World → Prop
  | work {job : Job} {rest : List Job} (hagenda : present.upkeep.agenda = job :: rest)
      (hdue : job.isDue world.now = true) :
      UpkeepStep world service present
        ((world.perform present.pool job).1.setWork service (world.perform present.pool job).2.1
          ((world.perform present.pool job).2.2 ++ rest))
  | finish (hagenda : present.upkeep.agenda = [])
      (hover : present.pool.isClosed = true ∨ present.owned = false) :
      UpkeepStep world service present (world.endUpkeep service)
  | hear {event : Event} {queue : EventQueue} (hagenda : present.upkeep.agenda = [])
      (hopen : present.pool.isClosed = false)
      (htake : world.cluster.queues[present.pool.queue]?.bind EventQueue.take? = some (event, queue)) :
      UpkeepStep world service present
        (World.modifyService
          { world with cluster := world.cluster.modifyQueue present.pool.queue fun _ => queue }
          service fun present' => { present' with
            upkeep := { present.upkeep with agenda := world.onEvent present.pool event } })
  | discover {due : Nat} (hagenda : present.upkeep.agenda = [])
      (hopen : present.pool.isClosed = false) :
      UpkeepStep world service present
        (world.modifyService service fun present' => { present' with
          upkeep := { present.upkeep with agenda := [.discover], discoveryDue := due } })
  | refresh {due : Nat} (hagenda : present.upkeep.agenda = [])
      (hopen : present.pool.isClosed = false) :
      UpkeepStep world service present
        (world.modifyService service fun present' => { present' with
          upkeep := { present.upkeep with
            agenda := [.refresh present.pool.topology.addrs], refreshDue := due } })

theorem World.stepUpkeep_some (hstep : world.stepUpkeep service = some later) :
    ∃ present, world.services[service]? = some present ∧
      UpkeepStep world service present later := by
  unfold stepUpkeep at hstep
  split at hstep
  · cases hstep
  · rename_i present hpresent
    refine ⟨present, hpresent, ?_⟩
    split at hstep
    · split at hstep
      · rename_i hagenda
        unfold wakeUpkeep at hstep
        dsimp only at hstep
        split at hstep
        · rename_i hover
          cases hstep
          exact .finish hagenda (by simpa using hover)
        · rename_i hgoes
          have hopen : present.pool.isClosed = false := by
            simp only [Bool.or_eq_true, not_or] at hgoes
            exact Bool.eq_false_iff.mpr hgoes.1
          split at hstep
          · rename_i htake
            cases hstep
            exact .hear hagenda hopen htake
          · split at hstep
            · cases hstep
              exact .discover hagenda hopen
            · split at hstep
              · cases hstep
                exact .refresh hagenda hopen
              · cases hstep
      · rename_i job rest hagenda
        split at hstep
        · rename_i hdue
          cases hstep
          exact .work hagenda hdue
        · cases hstep
    · cases hstep

/-! ### Sound agendas -/

variable {cluster : Cluster} {pool : Pool} {agenda : List Job}

theorem SoundUpkeep.begin (hsound : SoundUpkeep cluster pool [])
    (hjobs : ∀ job ∈ agenda, job.Sound cluster pool) (hordered : Ordered agenda) :
    SoundUpkeep cluster pool agenda where
  sound := hsound.sound
  jobs := hjobs
  ordered := hordered
  accounts := fun hserves => by
    rcases hsound.accounts hserves with hclosed | hfiled | ⟨job, hjob, -⟩
    · exact Or.inl hclosed
    · exact Or.inr (Or.inl hfiled)
    · cases hjob

theorem SoundUpkeep.onEvent (hsound : SoundUpkeep world.cluster pool []) (event : Event) :
    SoundUpkeep world.cluster pool (world.onEvent pool event) := by
  rcases onEvent_eq_or world pool event with hnone | hrefresh
  · rw [hnone]
    exact hsound
  · rw [hrefresh]
    refine hsound.begin (fun job hjob => sound_refreshAddr hjob) ?_
    obtain ⟨job, hjob⟩ := List.length_eq_one_iff.mp (length_refreshAddr world pool event.addr)
    rw [hjob]
    exact List.pairwise_singleton _ _

theorem SoundUpkeep.beginDiscovery (hsound : SoundUpkeep cluster pool []) :
    SoundUpkeep cluster pool [.discover] := by
  refine hsound.begin ?_ (List.pairwise_singleton _ _)
  intro job hjob
  rw [List.mem_singleton.mp hjob]
  exact Job.sound_of_none rfl rfl rfl

theorem SoundUpkeep.beginRefresh (hsound : SoundUpkeep cluster pool []) (addrs : List String) :
    SoundUpkeep cluster pool [.refresh addrs] := by
  refine hsound.begin ?_ (List.pairwise_singleton _ _)
  intro job hjob
  rw [List.mem_singleton.mp hjob]
  exact Job.sound_of_none rfl rfl rfl

/-- Without an agenda every connection that reports to the queue of a pool is closed or filed once. -/
theorem SoundUpkeep.closed_or_count {connection : ConnectionId} {addr : String}
    (hsound : SoundUpkeep cluster pool []) (hserves : cluster.Serves connection addr pool.queue) :
    cluster.link connection = .closed ∨ pool.topology.connections.count connection = 1 := by
  rcases hsound.accounts hserves with hclosed | ⟨role, hfiled⟩ | ⟨job, hjob, -⟩
  · exact Or.inl hclosed
  · exact Or.inr (hsound.sound.count_connections hfiled)
  · cases hjob

end ReplicaPool
