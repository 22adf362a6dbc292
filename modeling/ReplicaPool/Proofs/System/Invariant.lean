import ReplicaPool.Proofs.Cluster.Moves
import ReplicaPool.Proofs.System.Actions
import ReplicaPool.Proofs.System.Soundness

/-!
# Reachable systems are sound

Every action keeps a system sound, whichever piece of whichever work it performs. By induction over the
actions every reachable system is sound.
-/

namespace ReplicaPool

namespace World

variable {world later : World} {service : ServiceId} {present : Service} {pool : Pool}

/-- Letting go of connections changes nothing that matters to pools. -/
theorem reap_spec (world : World) (service : ServiceId) :
    (world.reap service).services = world.services ∧
      world.cluster.Evolves (fun _ => False) (world.reap service).cluster ∧
      (world.reap service).cluster.directory = world.cluster.directory := by
  unfold reap
  split
  · split
    · exact ⟨rfl, .refl _, rfl⟩
    · exact ⟨rfl, Cluster.evolves_release _ _, rfl⟩
  · exact ⟨rfl, .refl _, rfl⟩

theorem disown_spec (hpresent : world.services[service]? = some present) :
    (world.disown service).services = world.services.set service { present with owned := false } ∧
      world.cluster.Evolves (fun _ => False) (world.disown service).cluster ∧
      (world.disown service).cluster.directory = world.cluster.directory := by
  have hreap := reap_spec
    (world.modifyService service fun present => { present with owned := false }) service
  rw [services_modifyService hpresent] at hreap
  exact hreap

theorem endUpkeep_spec (hpresent : world.services[service]? = some present) :
    (world.endUpkeep service).services =
        world.services.set service
          { present with upkeep := { present.upkeep with running := false, agenda := [] } } ∧
      world.cluster.Evolves (fun _ => False) (world.endUpkeep service).cluster ∧
      (world.endUpkeep service).cluster.directory = world.cluster.directory := by
  let ended := world.modifyService service fun present' =>
    { present' with upkeep := { present.upkeep with running := false, agenda := [] } }
  let unread : World := { ended with
    cluster := world.cluster.modifyQueue present.pool.queue EventQueue.dropReader }
  have hend : world.endUpkeep service = unread.reap service := by
    simp only [endUpkeep, hpresent]
    rfl
  obtain ⟨hservices, hevolves, hdirectory⟩ := reap_spec unread service
  rw [hend]
  refine ⟨hservices.trans (services_modifyService hpresent _), ?_, hdirectory⟩
  exact (Cluster.evolves_modifyQueue world.cluster present.pool.queue _).trans hevolves

/-- A pool that is set up has a new queue, with places for ten events of each address, and no entries. -/
theorem prepare_ok {addrs : List String} {options : PoolOptions}
    (hprepare : world.prepare addrs options = .ok (later, pool)) :
    distinct addrs ≠ [] ∧
      later = { world with
        cluster := (world.cluster.addQueue (eventQueueFactor * (distinct addrs).length)).2 } ∧
      pool.topology = { addrs := distinct addrs } ∧
      pool.queue = world.cluster.queues.length ∧ pool.isClosed = false := by
  unfold prepare at hprepare
  dsimp only at hprepare
  split at hprepare
  · cases hprepare
  · rename_i hne
    split at hprepare
    · cases hprepare
    · cases hprepare
      exact ⟨by simpa using hne, rfl, rfl, rfl, rfl⟩

end World

namespace System

namespace Sound

variable {system : System} {later : World} {service : ServiceId} {present : Service}
  {place : Nat} {call : Call} {pool : Pool}

/-! ### Upkeep -/

theorem upkeepStep (hsound : system.Sound)
    (hpresent : system.world.services[service]? = some present)
    (hstep : UpkeepStep system.world service present later) : Sound ⟨later, system.calls⟩ := by
  have hupkeep := hsound.upkeep hpresent
  cases hstep with
  | @work job rest hagenda hdue =>
      have htouched := World.touched_perform system.world present.pool job
      have hsectioned := World.sectioned_perform system.world present.pool job
      rw [hagenda] at hupkeep
      have hservices := hpresent
      rw [← htouched.services_eq] at hservices
      refine hsound.setService
        { present with
          pool := (system.world.perform present.pool job).2.1
          upkeep := { present.upkeep with
            agenda := (system.world.perform present.pool job).2.2 ++ rest } }
        hpresent ?_ htouched.evolves (htouched.wellFormed hsound.wellFormed)
        hsectioned.queue_eq hupkeep.perform ?_
      · rw [World.setWork, World.services_modifyService hservices, htouched.services_eq]
      · intro hclosed
        have hwasClosed := hsectioned.isClosed_eq ▸ hclosed
        rw [hsectioned.eq_of_closed hwasClosed]
        exact fun connection hmem =>
          hsound.shut_evolves hpresent htouched.evolves hwasClosed hmem
  | finish hagenda hover =>
      obtain ⟨hservices, hevolves, hdirectory⟩ := World.endUpkeep_spec hpresent
      rw [hagenda] at hupkeep
      refine hsound.setService _ hpresent hservices (hevolves.mono fun _ => False.elim)
        (hsound.wellFormed.evolves hevolves hdirectory) rfl (hupkeep.evolves hevolves id) ?_
      exact fun hclosed connection hmem => hsound.shut_evolves hpresent hevolves hclosed hmem
  | @hear event queue hagenda hopen =>
      have hevolves : system.world.cluster.Evolves (fun _ => False)
          (system.world.cluster.modifyQueue present.pool.queue fun _ => queue) :=
        Cluster.evolves_modifyQueue _ _ _
      rw [hagenda] at hupkeep
      refine hsound.setService _ hpresent (modify_eq_set hpresent _)
        (hevolves.mono fun _ => False.elim) (hsound.wellFormed.evolves hevolves rfl) rfl
        ((hupkeep.onEvent event).evolves hevolves id) ?_
      intro hclosed
      exact absurd hclosed (by simp [hopen])
  | discover hagenda hopen =>
      rw [hagenda] at hupkeep
      refine hsound.setService _ hpresent (modify_eq_set hpresent _) (.refl _) hsound.wellFormed rfl
        hupkeep.beginDiscovery ?_
      intro hclosed
      exact absurd hclosed (by simp [hopen])
  | refresh hagenda hopen =>
      rw [hagenda] at hupkeep
      refine hsound.setService _ hpresent (modify_eq_set hpresent _) (.refl _) hsound.wellFormed rfl
        (hupkeep.beginRefresh _) ?_
      intro hclosed
      exact absurd hclosed (by simp [hopen])

/-! ### Operations -/

theorem resolve (hsound : system.Sound) (hpresent : system.world.services[service]? = some present)
    (mode : Mode) :
    Sound ⟨system.world.setPool service (present.pool.resolve system.world.isConnected mode).2,
      system.calls⟩ := by
  have hsectioned : World.Sectioned present.pool
      (present.pool.resolve system.world.isConnected mode).2 := .resolve _ _
  refine hsound.setService
    { present with pool := (present.pool.resolve system.world.isConnected mode).2 } hpresent
    (modify_eq_set hpresent _) (.refl _) hsound.wellFormed hsectioned.queue_eq
    ((hsound.upkeep hpresent).resolve _ mode) ?_
  intro hclosed
  have hwasClosed := hsectioned.isClosed_eq ▸ hclosed
  rw [hsectioned.eq_of_closed hwasClosed]
  exact fun connection hmem => hsound.shut hpresent hwasClosed hmem

theorem disown (hsound : system.Sound) (hpresent : system.world.services[service]? = some present) :
    Sound ⟨system.world.disown service, system.calls⟩ := by
  obtain ⟨hservices, hevolves, hdirectory⟩ := World.disown_spec hpresent
  refine hsound.setService _ hpresent hservices (hevolves.mono fun _ => False.elim)
    (hsound.wellFormed.evolves hevolves hdirectory) rfl
    ((hsound.upkeep hpresent).evolves hevolves id) ?_
  exact fun hclosed connection hmem => hsound.shut_evolves hpresent hevolves hclosed hmem

/-! ### Calls -/

theorem appendCall (hsound : system.Sound) (hqueue : call.queue? = none)
    (hcall : call.Sound system.world.cluster) : Sound ⟨system.world, system.calls ++ [call]⟩ := by
  have hqueues : queues ⟨system.world, system.calls ++ [call]⟩ = system.queues := by
    simp only [queues, List.filterMap_append, List.filterMap_cons_none hqueue, List.filterMap_nil,
      List.append_nil]
  refine ⟨hsound.wellFormed, hsound.upkeep, ?_, hqueues ▸ hsound.queues_nodup, ?_, ?_, ?_⟩
  · intro place another hanother
    rw [List.getElem?_append] at hanother
    split at hanother
    · exact hsound.calls hanother
    · rw [List.mem_singleton.mp (List.mem_of_getElem? hanother)]
      exact hcall
  · intro queue hmem
    exact hsound.queues_lt (hqueues ▸ hmem)
  · intro connection addr queue hserves
    rw [hqueues]
    exact hsound.owned hserves
  · intro service present connection hpresent hclosed hmem
    refine (hsound.shut hpresent hclosed hmem).imp_right ?_
    rintro ⟨closing, hold, hwill⟩
    exact ⟨closing, List.mem_append_left _ hold, hwill⟩

theorem shutPool (hsound : system.Sound) (hpresent : system.world.services[service]? = some present) :
    Sound ⟨system.world.setPool service { present.pool with isClosed := true },
      system.calls ++ [.close service present.pool.topology.connections []]⟩ := by
  let closing : Call := .close service present.pool.topology.connections []
  have hcall : Sound ⟨system.world, system.calls ++ [closing]⟩ := hsound.appendCall rfl trivial
  refine hcall.setService { present with pool := { present.pool with isClosed := true } }
    hpresent (modify_eq_set hpresent _) (.refl _) hsound.wellFormed rfl
    (hsound.upkeep hpresent).shut ?_
  intro _ connection hmem
  exact Or.inr ⟨closing, List.mem_append_right _ List.mem_cons_self, rfl, hmem⟩

theorem prepare {addrs : List String} {options : PoolOptions} (hsound : system.Sound)
    (hprepare : system.world.prepare addrs options = .ok (later, pool)) :
    Sound ⟨later, system.calls ++ [.reach pool (pool.topology.addrs.map .waiting)]⟩ := by
  obtain ⟨hne, rfl, htopology, hqueue, hopen⟩ := World.prepare_ok hprepare
  generalize eventQueueFactor * (distinct addrs).length = capacity
  have hevolves : system.world.cluster.Evolves (fun _ => False)
      (system.world.cluster.addQueue capacity).2 := Cluster.evolves_addQueue _ _
  have hlater := hsound.elsewhere
    { system.world with cluster := (system.world.cluster.addQueue capacity).2 }
    rfl hevolves (hsound.wellFormed.evolves hevolves rfl)
  have hnew : pool.queue ∉ system.queues := fun hmem =>
    Nat.lt_irrefl _ (hqueue ▸ hsound.queues_lt hmem)
  have hexpects : pool.Expects (system.world.cluster.addQueue capacity).2
      ((pool.topology.addrs.map Slot.waiting).map Slot.held) := by
    rw [htopology, List.map_map]
    exact Pool.Expects.of_empty htopology hne (distinct_nodup addrs) hopen
      fun hserves => hnew (hsound.owned hserves)
  have hqueues : queues ⟨{ system.world with cluster := (system.world.cluster.addQueue capacity).2 },
      system.calls ++ [.reach pool (pool.topology.addrs.map .waiting)]⟩ =
        system.queues ++ [pool.queue] := by
    simp [queues, Call.queue?]
  refine ⟨hlater.wellFormed, hlater.upkeep, ?_, ?_, ?_, ?_, ?_⟩
  · intro place another hanother
    rw [List.getElem?_append] at hanother
    split at hanother
    · exact hlater.calls hanother
    · rw [List.mem_singleton.mp (List.mem_of_getElem? hanother)]
      exact hexpects
  · rw [hqueues, List.nodup_append]
    refine ⟨hsound.queues_nodup, List.nodup_singleton _, ?_⟩
    rintro queue hmem other hother rfl
    exact hnew (List.mem_singleton.mp hother ▸ hmem)
  · intro queue hmem
    rw [hqueues] at hmem
    rcases List.mem_append.mp hmem with hold | hown
    · exact hlater.queues_lt hold
    · rw [List.mem_singleton.mp hown, hqueue]
      simp [Cluster.addQueue]
  · intro connection addr queue hserves
    rw [hqueues]
    exact List.mem_append_left _ (hlater.owned hserves)
  · intro service present connection hpresent hclosed hmem
    refine (hlater.shut hpresent hclosed hmem).imp_right ?_
    rintro ⟨closing, hold, hwill⟩
    exact ⟨closing, List.mem_append_left _ hold, hwill⟩

theorem launchAlive {fresh : Service} {somebodyAlive : Bool} (hsound : system.Sound)
    (hcall : system.calls[place]? = some (.fill fresh.pool somebodyAlive []))
    (hagenda : fresh.upkeep.agenda = []) :
    Sound ⟨{ system.world with services := system.world.services ++ [fresh] },
      system.calls.set place (.built fresh.pool.queue (.ok system.world.services.length))⟩ := by
  have hexpects : fresh.pool.Expects system.world.cluster [] := hsound.calls hcall
  have hperm : (queues ⟨{ system.world with services := system.world.services ++ [fresh] },
      system.calls.set place (.built fresh.pool.queue
        (.ok system.world.services.length))⟩).Perm system.queues := by
    have hcalls : (system.calls.filterMap Call.queue?).Perm (fresh.pool.queue ::
        (system.calls.set place (.built fresh.pool.queue
          (.ok system.world.services.length))).filterMap Call.queue?) :=
      filterMap_perm_set hcall rfl rfl
    simp only [queues, List.map_append, List.map_cons, List.map_nil, List.append_assoc,
      List.singleton_append]
    exact (hcalls.append_left _).symm
  have hservice : ∀ {service : ServiceId} {present : Service},
      (system.world.services ++ [fresh])[service]? = some present →
        system.world.services[service]? = some present ∨ present = fresh := by
    intro service present hpresent
    rw [List.getElem?_append] at hpresent
    split at hpresent
    · exact Or.inl hpresent
    · exact Or.inr (List.mem_singleton.mp (List.mem_of_getElem? hpresent))
  refine ⟨hsound.wellFormed, ?_, ?_, hperm.nodup_iff.mpr hsound.queues_nodup, ?_, ?_, ?_⟩
  · intro service present hpresent
    rcases hservice hpresent with hold | rfl
    · exact hsound.upkeep hold
    · rw [hagenda]
      exact hexpects.soundUpkeep
  · intro index another hanother
    by_cases hsame : index = place
    · subst hsame
      rw [List.getElem?_set_self (List.getElem?_eq_some_iff.mp hcall).1] at hanother
      cases hanother
      trivial
    · rw [List.getElem?_set_ne (Ne.symm hsame)] at hanother
      exact hsound.calls hanother
  · exact fun hmem => hsound.queues_lt (hperm.mem_iff.mp hmem)
  · exact fun hserves => hperm.mem_iff.mpr (hsound.owned hserves)
  · intro service present connection hpresent hclosed hmem
    rcases hservice hpresent with hold | rfl
    · refine (hsound.shut hold hclosed hmem).imp_right ?_
      rintro ⟨closing, hclosing, hwill⟩
      obtain ⟨index, hindex⟩ := List.mem_iff_getElem?.mp hclosing
      refine ⟨closing, List.mem_of_getElem? (i := index) ?_, hwill⟩
      rw [List.getElem?_set_ne, hindex]
      rintro rfl
      rw [hcall] at hindex
      cases hindex
      exact hwill
    · rw [hexpects.isOpen] at hclosed
      cases hclosed

theorem advance (hsound : system.Sound) (hcall : system.calls[place]? = some call) (step : Nat) :
    Sound ⟨(call.advance system.world step).1,
      system.calls.set place (call.advance system.world step).2⟩ := by
  have hcallSound := hsound.calls hcall
  have hstays : Sound ⟨system.world, system.calls.set place call⟩ := by
    rw [set_eq_of_getElem? hcall]
    exact hsound
  cases call with
  | reach pool slots =>
      simp only [Call.advance]
      split
      · rename_i hover
        have hfill : pool.Expects system.world.cluster
            ((slots.filterMap Slot.attempt?).map Attempt.held) :=
          (held_of_all_finished hover).symm ▸ hcallSound
        exact hsound.setCall hcall rfl (.refl _) hsound.wellFormed rfl hfill
          (fun hwill => hwill.elim)
      · split
        · exact hstays
        · rename_i slot hslot
          obtain ⟨middle, hfirst, hsecond⟩ :=
            Slot.exists_touched_advance system.world pool slot
          have hevolves := hfirst.evolves.trans hsecond.evolves
          refine hsound.setCall hcall (hsecond.services_eq.trans hfirst.services_eq)
            (hevolves.mono ?_) (hsecond.wellFormed (hfirst.wellFormed hsound.wellFormed)) rfl
            (Pool.Expects.advance hcallSound hslot) (fun hwill => hwill.elim)
          rintro queue rfl
          rfl
  | fill pool somebodyAlive attempts =>
      cases attempts with
      | cons attempt rest =>
          simp only [Call.advance]
          refine hsound.setCall hcall rfl (.refl _) hsound.wellFormed ?_
            (Pool.Expects.fileAttempt hcallSound) (fun hwill => hwill.elim)
          exact congrArg some (queue_fileAttempt system.world pool somebodyAlive attempt)
      | nil =>
          cases somebodyAlive with
          | true =>
              let fresh : Service :=
                { pool, upkeep := World.startUpkeep system.world.now pool.options }
              have hfill : system.calls[place]? = some (.fill fresh.pool true []) := hcall
              exact hsound.launchAlive hfill rfl
          | false =>
              have hexpects : pool.Expects system.world.cluster [] := hcallSound
              simp only [Call.advance, World.launch, Bool.false_eq_true, if_false,
                World.closeConnections_snd]
              refine hsound.setCall hcall rfl (Cluster.evolves_closeEach _ _)
                (hsound.wellFormed.closeEach _) rfl ?_ (fun hwill => hwill.elim)
              exact fun connection addr hserves => hexpects.link_closeEach hserves
  | built queue outcome => exact hstays
  | close service pending complaints =>
      cases pending with
      | cons connection rest =>
          refine hsound.setCall hcall rfl (Cluster.evolves_close _ _)
            (hsound.wellFormed.close connection) rfl trivial ?_
          rintro other target ⟨rfl, hmem⟩
          rcases List.mem_cons.mp hmem with rfl | hrest
          · exact Or.inl (Cluster.link_close_self _ _)
          · exact Or.inr ⟨rfl, hrest⟩
      | nil =>
          refine hsound.setCall hcall rfl (.refl _) hsound.wellFormed rfl trivial ?_
          rintro other target ⟨-, hmem⟩
          cases hmem
  | closed service complaints => exact hstays

theorem act (hsound : system.Sound) (action : Action) : (system.act action).Sound := by
  have hacted := acted_act system action
  generalize system.act action = later at hacted ⊢
  cases hacted with
  | nothing hwaiting hmissing => exact hsound
  | change change =>
      exact hsound.elsewhere _ rfl (Cluster.evolves_change _ change)
        (hsound.wellFormed.change change)
  | script addr script => exact hsound.elsewhere _ rfl (.refl _) hsound.wellFormed
  | elapse duration => exact hsound.elsewhere _ rfl (.refl _) hsound.wellFormed
  | upkeep hstep =>
      obtain ⟨present, hpresent, hkind⟩ := World.stepUpkeep_some hstep
      exact hsound.upkeepStep hpresent hkind
  | resolve hpresent mode => exact hsound.resolve hpresent mode
  | execute connection request =>
      exact hsound.elsewhere _ rfl (Cluster.evolves_execute _ _ _)
        (hsound.wellFormed.execute connection request)
  | disown hpresent => exact hsound.disown hpresent
  | prepare hprepare => exact hsound.prepare hprepare
  | refuse hpresent hclosed => exact hsound.appendCall rfl trivial
  | shut hpresent hopen => exact hsound.shutPool hpresent
  | advance hcall place => exact hsound.advance hcall place

end Sound

variable {system : System}

/-- What holds in the beginning and is kept by every action holds of every reachable system. -/
theorem Reachable.induct {property : System → Prop} (hempty : property {})
    (hact : ∀ system action, property system → property (system.act action))
    (hreachable : system.Reachable) : property system := by
  obtain ⟨actions, rfl⟩ := hreachable
  have hrun : ∀ start : System, property start → property (start.run actions) := by
    induction actions with
    | nil => exact fun start hstart => hstart
    | cons action rest ih => exact fun start hstart => ih _ (hact start action hstart)
  exact hrun {} hempty

theorem Reachable.sound (hreachable : system.Reachable) : system.Sound :=
  hreachable.induct sound_empty fun _ action hsound => hsound.act action

theorem Reachable.run (hreachable : system.Reachable) (actions : List Action) :
    (system.run actions).Reachable := by
  obtain ⟨earlier, rfl⟩ := hreachable
  exact ⟨earlier ++ actions, List.foldl_append.symm⟩

end System

end ReplicaPool
