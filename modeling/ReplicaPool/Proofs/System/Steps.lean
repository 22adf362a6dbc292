import ReplicaPool.Proofs.System.Invariant

/-!
# What one action does

An action changes one service at most, or adds one. `Service.Stepped` lists what it can make of a service,
`ServicesStep` what it does to all of them and `CallsStep` what it does to the calls. `System.opens` tells
for which queues it may make connections: for one that belongs to somebody else it makes none.
-/

namespace ReplicaPool

inductive TakesUp (world : World) (pool : Pool) : List Job → Prop
  | nothing : TakesUp world pool []
  | event (event : Event) (hopen : pool.isClosed = false) :
      TakesUp world pool (world.onEvent pool event)
  | discover (hopen : pool.isClosed = false) : TakesUp world pool [.discover]
  | refresh (hopen : pool.isClosed = false) : TakesUp world pool [.refresh pool.topology.addrs]

inductive Service.Stepped (world : World) (service : ServiceId) (present : Service) :
    Action → Service → Prop
  | route (mode : Mode) : Stepped world service present (.resolve service mode)
      { present with pool := (present.pool.resolve world.isConnected mode).2 }
  | disown : Stepped world service present (.disown service) { present with owned := false }
  | shut (hopen : present.pool.isClosed = false) : Stepped world service present (.shut service)
      { present with pool := { present.pool with isClosed := true } }
  | work {job : Job} {rest : List Job} (hagenda : present.upkeep.agenda = job :: rest)
      (hdue : job.isDue world.now = true) (hrunning : present.upkeep.running = true) :
      Stepped world service present (.upkeep service)
        { present with
          pool := (world.perform present.pool job).2.1
          upkeep := { present.upkeep with agenda := (world.perform present.pool job).2.2 ++ rest } }
  | turn {upkeep : Upkeep} (hagenda : present.upkeep.agenda = [])
      (htakesUp : TakesUp world present.pool upkeep.agenda) :
      Stepped world service present (.upkeep service) { present with upkeep }

inductive ServicesStep (system : System) (action : Action) : List Service → Prop
  | same (hidle : ∀ service, action = .upkeep service → system.world.stepUpkeep service = none) :
      ServicesStep system action system.world.services
  | set {service : ServiceId} {present next : Service}
      (hpresent : system.world.services[service]? = some present)
      (hstepped : present.Stepped system.world service action next) :
      ServicesStep system action (system.world.services.set service next)
  | launch {place step : Nat} {pool : Pool} (haction : action = .advance place step)
      (hcall : system.calls[place]? = some (.fill pool true [])) :
      ServicesStep system action (system.world.services ++
        [{ pool, upkeep := World.startUpkeep system.world.now pool.options }])

variable {world later : World} {service : ServiceId} {present : Service}

theorem UpkeepStep.evolves (hpresent : world.services[service]? = some present)
    (hstep : UpkeepStep world service present later) :
    world.cluster.Evolves (· = present.pool.queue) later.cluster := by
  cases hstep with
  | @work job rest hagenda hdue => exact (World.touched_perform world present.pool job).evolves
  | finish hagenda hover => exact (World.endUpkeep_spec hpresent).2.1.mono fun _ => False.elim
  | hear hagenda hopen => exact Cluster.evolves_modifyQueue _ _ _
  | discover hagenda hopen => exact .refl _
  | refresh hagenda hopen => exact .refl _

theorem UpkeepStep.exists_stepped (hpresent : world.services[service]? = some present)
    (hrunning : present.upkeep.running = true) (hstep : UpkeepStep world service present later) :
    ∃ next, later.services = world.services.set service next ∧
      present.Stepped world service (.upkeep service) next := by
  cases hstep with
  | @work job rest hagenda hdue =>
      have htouched := World.touched_perform world present.pool job
      have hservices := hpresent
      rw [← htouched.services_eq] at hservices
      have hset := World.services_modifyService hservices fun present =>
        { present with
          pool := (world.perform present.pool job).2.1
          upkeep := { present.upkeep with
            agenda := (world.perform present.pool job).2.2 ++ rest } }
      refine ⟨_, ?_, .work hagenda hdue hrunning⟩
      rw [World.setWork, World.services_modifyService hservices, htouched.services_eq]
  | finish hagenda hover =>
      exact ⟨_, (World.endUpkeep_spec hpresent).1, .turn hagenda .nothing⟩
  | @hear event queue hagenda hopen =>
      exact ⟨_, modify_eq_set hpresent _, .turn hagenda (.event event hopen)⟩
  | discover hagenda hopen =>
      exact ⟨_, modify_eq_set hpresent _, .turn hagenda (.discover hopen)⟩
  | refresh hagenda hopen =>
      exact ⟨_, modify_eq_set hpresent _, .turn hagenda (.refresh hopen)⟩

theorem World.running_of_stepUpkeep (hstep : world.stepUpkeep service = some later)
    (hpresent : world.services[service]? = some present) : present.upkeep.running = true := by
  unfold stepUpkeep at hstep
  rw [hpresent] at hstep
  dsimp only at hstep
  split at hstep
  · assumption
  · cases hstep

theorem Call.services_advance (world : World) (place : Nat) (call : Call) :
    (call.advance world place).1.services = world.services ∨
      ∃ pool, call = .fill pool true [] ∧ (call.advance world place).1.services =
        world.services ++ [{ pool, upkeep := World.startUpkeep world.now pool.options }] := by
  cases call with
  | reach pool slots =>
      simp only [advance]
      split
      · exact Or.inl rfl
      · split
        · exact Or.inl rfl
        · rename_i slot hslot
          obtain ⟨middle, hfirst, hsecond⟩ := Slot.exists_touched_advance world pool slot
          exact Or.inl (hsecond.services_eq.trans hfirst.services_eq)
  | fill pool somebodyAlive attempts =>
      cases attempts with
      | cons attempt rest => exact Or.inl rfl
      | nil =>
          cases somebodyAlive with
          | true => exact Or.inr ⟨pool, rfl, rfl⟩
          | false =>
              refine Or.inl ?_
              simp only [advance, World.launch, Bool.false_eq_true, if_false,
                World.closeConnections_snd]
  | built queue outcome => exact Or.inl rfl
  | close service pending complaints => cases pending <;> exact Or.inl rfl
  | closed service complaints => exact Or.inl rfl

namespace System

variable {system : System} {action : Action} {present : Service}

theorem servicesStep_act (system : System) (action : Action) :
    ServicesStep system action (system.act action).world.services := by
  have hacted := acted_act system action
  generalize system.act action = later at hacted ⊢
  cases hacted with
  | nothing hwaiting hmissing => exact .same hwaiting
  | upkeep hstep =>
      obtain ⟨present, hpresent, hkind⟩ := World.stepUpkeep_some hstep
      obtain ⟨next, hservices, hstepped⟩ :=
        hkind.exists_stepped hpresent (World.running_of_stepUpkeep hstep hpresent)
      dsimp only
      rw [hservices]
      exact .set hpresent hstepped
  | resolve hpresent mode =>
      dsimp only
      rw [World.setPool, World.services_modifyService hpresent]
      exact .set hpresent (.route mode)
  | disown hpresent =>
      dsimp only
      rw [(World.disown_spec hpresent).1]
      exact .set hpresent .disown
  | prepare hprepare =>
      obtain ⟨-, rfl, -⟩ := World.prepare_ok hprepare
      exact .same (by simp)
  | shut hpresent hopen =>
      dsimp only
      rw [World.setPool, World.services_modifyService hpresent]
      exact .set hpresent (.shut hopen)
  | @advance _ call hcall place =>
      dsimp only
      rcases Call.services_advance system.world place call with hsame | ⟨pool, rfl, hfresh⟩
      · rw [hsame]
        exact .same (by simp)
      · rw [hfresh]
        exact .launch rfl hcall
  | _ => exact .same (by simp)

/-- A service stays, and an action that does not concern it leaves it as it is. -/
theorem stepped_act {service : ServiceId}
    (hpresent : system.world.services[service]? = some present) (action : Action) :
    ∃ next, (system.act action).world.services[service]? = some next ∧
      ((next = present ∧ (action = .upkeep service → system.world.stepUpkeep service = none)) ∨
        present.Stepped system.world service action next) := by
  have hlt := (List.getElem?_eq_some_iff.mp hpresent).1
  have hservices := servicesStep_act system action
  generalize (system.act action).world.services = services at hservices
  cases hservices with
  | same hidle => exact ⟨present, hpresent, Or.inl ⟨rfl, hidle service⟩⟩
  | @set other another next hanother hstepped =>
      by_cases hsame : service = other
      · subst hsame
        rw [hpresent] at hanother
        cases hanother
        exact ⟨next, List.getElem?_set_self hlt, Or.inr hstepped⟩
      · refine ⟨present, by rw [List.getElem?_set_ne (Ne.symm hsame), hpresent],
          Or.inl ⟨rfl, fun haction => ?_⟩⟩
        subst haction
        cases hstepped <;> exact absurd rfl hsame
  | launch haction hcall =>
      refine ⟨present, by rw [List.getElem?_append_left hlt, hpresent],
        Or.inl ⟨rfl, fun hupkeep => ?_⟩⟩
      rw [haction] at hupkeep
      cases hupkeep

theorem exists_service_run {service : ServiceId}
    (hpresent : system.world.services[service]? = some present) (actions : List Action) :
    ∃ later, (system.run actions).world.services[service]? = some later := by
  induction actions generalizing system present with
  | nil => exact ⟨present, hpresent⟩
  | cons action rest ih =>
      obtain ⟨next, hnext, -⟩ := stepped_act hpresent action
      exact ih hnext

/-- What every new service has and every action that concerns a service keeps, all services of a reachable
system have. -/
theorem Reachable.service_induct {property : Service → Prop}
    (hlaunch : ∀ now pool, property { pool, upkeep := World.startUpkeep now pool.options })
    (hstepped : ∀ (system : System) action service (present next : Service), system.Sound →
      system.world.services[service]? = some present →
      present.Stepped system.world service action next → property present → property next)
    (hreachable : system.Reachable) {service : ServiceId}
    (hpresent : system.world.services[service]? = some present) : property present := by
  have hboth : system.Sound ∧ ∀ (service : ServiceId) (present : Service),
      system.world.services[service]? = some present → property present := by
    apply hreachable.induct
    · exact ⟨sound_empty, fun service present hpresent => by simp at hpresent⟩
    · rintro system action ⟨hsound, hall⟩
      refine ⟨hsound.act action, fun service present hpresent => ?_⟩
      have hservices := servicesStep_act system action
      generalize (system.act action).world.services = services at hservices hpresent
      cases hservices with
      | same hidle => exact hall service present hpresent
      | @set other before next hbefore hchanged =>
          by_cases hsame : service = other
          · subst hsame
            rw [List.getElem?_set_self (List.getElem?_eq_some_iff.mp hbefore).1] at hpresent
            cases hpresent
            exact hstepped system action service before _ hsound hbefore hchanged
              (hall service before hbefore)
          · rw [List.getElem?_set_ne (Ne.symm hsame)] at hpresent
            exact hall service present hpresent
      | launch haction hcall =>
          rw [List.getElem?_append] at hpresent
          split at hpresent
          · exact hall service present hpresent
          · rw [List.mem_singleton.mp (List.mem_of_getElem? hpresent)]
            exact hlaunch _ _
  exact hboth.2 service present hpresent

inductive CallsStep (system : System) (action : Action) (later : System) : Prop
  | same (hidle : ∀ place step, action = .advance place step → system.calls[place]? = none)
      (hcalls : later.calls = system.calls)
  | build {addrs : List String} {options : PoolOptions} {pool : Pool}
      (haction : action = .prepare addrs options)
      (hprepare : system.world.prepare addrs options = .ok (later.world, pool))
      (hcalls : later.calls =
        system.calls ++ [.reach pool (pool.topology.addrs.map .waiting)])
  | refuse {service : ServiceId} {present : Service} (haction : action = .shut service)
      (hpresent : system.world.services[service]? = some present)
      (hclosed : present.pool.isClosed = true)
      (hcalls : later.calls = system.calls ++ [.closed service []])
  | shut {service : ServiceId} {present next : Service} (haction : action = .shut service)
      (hpresent : system.world.services[service]? = some present)
      (hopen : present.pool.isClosed = false)
      (hnext : later.world.services[service]? = some next) (hclosed : next.pool.isClosed = true)
      (hcalls : later.calls =
        system.calls ++ [.close service present.pool.topology.connections []])
  | advance {place step : Nat} {call : Call} (haction : action = .advance place step)
      (hcall : system.calls[place]? = some call)
      (hcalls : later.calls = system.calls.set place (call.advance system.world step).2)

theorem callsStep_act (system : System) (action : Action) :
    CallsStep system action (system.act action) := by
  have hacted := acted_act system action
  generalize system.act action = later at hacted ⊢
  cases hacted with
  | nothing hwaiting hmissing => exact .same hmissing rfl
  | prepare hprepare => exact .build rfl hprepare rfl
  | refuse hpresent hclosed => exact .refuse rfl hpresent hclosed rfl
  | @shut service present hpresent hopen =>
      let closed : Pool := { present.pool with isClosed := true }
      have hnext : (system.world.setPool service closed).services[service]? =
          some { present with pool := closed } := World.getElem?_modifyService hpresent _
      exact .shut rfl hpresent hopen hnext rfl rfl
  | advance hcall place => exact .advance rfl hcall rfl
  | _ => exact .same (by simp) rfl

/-! ### Whom an action makes connections for -/

def opens (system : System) : Action → QueueId → Prop
  | .upkeep service => fun queue =>
      ∃ present, system.world.services[service]? = some present ∧ present.pool.queue = queue
  | .advance place _ => fun queue =>
      ∃ call, system.calls[place]? = some call ∧ call.queue? = some queue
  | _ => fun _ => False

theorem evolves_act (system : System) (action : Action) :
    system.world.cluster.Evolves (system.opens action) (system.act action).world.cluster := by
  have hacted := acted_act system action
  generalize system.act action = later at hacted ⊢
  cases hacted with
  | change change => exact Cluster.evolves_change _ _
  | upkeep hstep =>
      obtain ⟨present, hpresent, hkind⟩ := World.stepUpkeep_some hstep
      refine (hkind.evolves hpresent).mono ?_
      rintro queue rfl
      exact ⟨present, hpresent, rfl⟩
  | execute connection request => exact Cluster.evolves_execute _ _ _
  | disown hpresent => exact (World.disown_spec hpresent).2.1
  | prepare hprepare =>
      obtain ⟨-, rfl, -⟩ := World.prepare_ok hprepare
      exact Cluster.evolves_addQueue _ _
  | @advance _ call hcall place =>
      refine (Call.evolves_advance system.world place call).mono fun queue hqueue => ?_
      exact ⟨call, hcall, hqueue⟩
  | _ => exact .refl _

theorem Sound.not_opens_of_service (hsound : system.Sound)
    (hpresent : system.world.services[service]? = some present)
    (hother : action ≠ .upkeep service) : ¬system.opens action present.pool.queue := by
  cases action with
  | upkeep other =>
      rintro ⟨another, hanother, hqueue⟩
      have hne : other ≠ service := fun hsame => hother (congrArg Action.upkeep hsame)
      exact hsound.queue_ne_of_services hpresent hanother hne hqueue
  | advance place step =>
      rintro ⟨call, hcall, hqueue⟩
      exact hsound.queue_ne_of_call hpresent hcall hqueue rfl
  | _ => exact id

theorem Sound.not_opens_of_call {place : Nat} {call : Call} {queue : QueueId}
    (hsound : system.Sound) (hcall : system.calls[place]? = some call)
    (hqueue : call.queue? = some queue) (hother : ∀ step, action ≠ .advance place step) :
    ¬system.opens action queue := by
  cases action with
  | upkeep service =>
      rintro ⟨present, hpresent, hsame⟩
      exact hsound.queue_ne_of_call hpresent hcall hqueue hsame
  | advance index step =>
      rintro ⟨another, hanother, hsame⟩
      have hne : index ≠ place := fun hindex => hother step (hindex ▸ rfl)
      exact hsound.queue_ne_of_calls hcall hanother hne hqueue hsame
  | _ => exact id

end System

end ReplicaPool
