import ReplicaPool.Proofs.Operation.Asynchronous
import ReplicaPool.Proofs.System.Sessions
import ReplicaPool.Proofs.System.Steps

/-!
# Closing is final

Several callers may close a pool while its upkeep is in the middle of a piece of work. The first of them
closes the connections that were filed, and the upkeep those that it still has in its hands. After that
nothing ever happens to the pool again.
-/

namespace ReplicaPool

/-- A service later on. Once its pool is closed, the pool stays as it is and no new work begins. -/
structure Service.Continues (present later : Service) : Prop where
  frozen : present.pool.isClosed = true → later.pool = present.pool
  idle : present.pool.isClosed = true → present.upkeep.agenda = [] → later.upkeep.agenda = []

theorem Service.Continues.refl (present : Service) : present.Continues present :=
  ⟨fun _ => rfl, fun _ hidle => hidle⟩

variable {world later : World} {service other : ServiceId} {present next : Service}

theorem UpkeepStep.eq_endUpkeep (hstep : UpkeepStep world service present later)
    (hclosed : present.pool.isClosed = true) (hidle : present.upkeep.agenda = []) :
    later = world.endUpkeep service := by
  cases hstep with
  | work hagenda hdue =>
      rw [hidle] at hagenda
      cases hagenda
  | finish hagenda hover => rfl
  | hear hagenda hopen =>
      rw [hclosed] at hopen
      cases hopen
  | discover hagenda hopen =>
      rw [hclosed] at hopen
      cases hopen
  | refresh hagenda hopen =>
      rw [hclosed] at hopen
      cases hopen

theorem Service.Stepped.continues {action : Action}
    (hstepped : present.Stepped world service action next) : present.Continues next := by
  cases hstepped with
  | route mode =>
      have hsectioned : World.Sectioned present.pool
        (present.pool.resolve world.isConnected mode).2 := .resolve _ _
      exact ⟨hsectioned.eq_of_closed, fun _ hidle => hidle⟩
  | disown => exact ⟨fun _ => rfl, fun _ hidle => hidle⟩
  | shut hopen =>
      refine ⟨fun hclosed => ?_, fun _ hidle => hidle⟩
      rw [hopen] at hclosed
      cases hclosed
  | @work job rest hagenda hdue hrunning =>
      refine ⟨(World.sectioned_perform world present.pool job).eq_of_closed, fun _ hidle => ?_⟩
      rw [hidle] at hagenda
      cases hagenda
  | @turn upkeep hagenda htakesUp =>
      refine ⟨fun _ => rfl, fun hclosed _ => ?_⟩
      generalize upkeep.agenda = jobs at htakesUp
      cases htakesUp with
      | nothing => rfl
      | event event hopen => simp [hclosed] at hopen
      | discover hopen => simp [hclosed] at hopen
      | refresh hopen => simp [hclosed] at hopen

namespace System

variable {system : System} {pool : Pool} {complaints : List PoolError}

/-- A service stays, and once its pool is closed that stays as it is. -/
theorem continues_act (hpresent : system.world.services[service]? = some present)
    (action : Action) :
    ∃ next, (system.act action).world.services[service]? = some next ∧ present.Continues next := by
  obtain ⟨next, hnext, ⟨rfl, -⟩ | hstepped⟩ := stepped_act hpresent action
  · exact ⟨next, hnext, .refl next⟩
  · exact ⟨next, hnext, hstepped.continues⟩

/-! ### Only one call closes a pool -/

theorem closes_advance (world : World) (place : Nat) (call : Call) (service : ServiceId) :
    (call.advance world place).2.closes service = call.closes service := by
  cases call with
  | reach pool slots =>
      simp only [Call.advance]
      split
      · rfl
      · split <;> rfl
  | fill pool somebodyAlive attempts => cases attempts <;> rfl
  | built queue outcome => rfl
  | close service pending complaints => cases pending <;> rfl
  | closed service complaints => rfl

/-- The pool that a call closes is shut, and the pool is closed by one call only: all later ones are over
at once and return no complaints. -/
structure ClosesOnce (system : System) : Prop where
  shut : ∀ {call : Call} {service : ServiceId}, call ∈ system.calls → call.closes service = true →
    ∃ present, system.world.services[service]? = some present ∧ present.pool.isClosed = true
  once : system.calls.Pairwise fun earlier later => ∀ service, earlier.closes service = true →
    later.closes service = true → later = .closed service []

theorem ClosesOnce.stays_shut {call : Call} (hcloses : system.ClosesOnce)
    (hmem : call ∈ system.calls) (hcall : call.closes service = true) (action : Action) :
    ∃ next, (system.act action).world.services[service]? = some next ∧
      next.pool.isClosed = true := by
  obtain ⟨present, hpresent, hclosed⟩ := hcloses.shut hmem hcall
  obtain ⟨next, hnext, hcontinues⟩ := continues_act hpresent action
  exact ⟨next, hnext, by rw [hcontinues.frozen hclosed, hclosed]⟩

theorem ClosesOnce.append {later : System} {call : Call} (hcloses : system.ClosesOnce)
    (hcalls : later.calls = system.calls ++ [call])
    (hstays : ∀ {earlier : Call} {service : ServiceId}, earlier ∈ system.calls →
      earlier.closes service = true →
        ∃ next, later.world.services[service]? = some next ∧ next.pool.isClosed = true)
    (hnew : ∀ service, call.closes service = true →
      (∃ next, later.world.services[service]? = some next ∧ next.pool.isClosed = true) ∧
      (call = .closed service [] ∨ ∀ earlier ∈ system.calls, earlier.closes service = false)) :
    later.ClosesOnce where
  shut := by
    intro other service hmem hother
    rw [hcalls] at hmem
    rcases List.mem_append.mp hmem with hold | hlast
    · exact hstays hold hother
    · rw [List.mem_singleton.mp hlast] at hother
      exact (hnew service hother).1
  once := by
    rw [hcalls, List.pairwise_append]
    refine ⟨hcloses.once, List.pairwise_singleton _ _, ?_⟩
    intro earlier hearlier last hlast service hfirst hsecond
    rw [List.mem_singleton.mp hlast] at hsecond ⊢
    rcases (hnew service hsecond).2 with hempty | hnone
    · exact hempty
    · rw [hnone earlier hearlier] at hfirst
      cases hfirst

theorem ClosesOnce.advance {later : System} {place step : Nat} {call : Call}
    (hcloses : system.ClosesOnce) (hcall : system.calls[place]? = some call)
    (hcalls : later.calls = system.calls.set place (call.advance system.world step).2)
    (hstays : ∀ {earlier : Call} {service : ServiceId}, earlier ∈ system.calls →
      earlier.closes service = true →
        ∃ next, later.world.services[service]? = some next ∧ next.pool.isClosed = true) :
    later.ClosesOnce := by
  constructor
  · intro other service hmem hother
    rw [hcalls] at hmem
    rcases List.mem_or_eq_of_mem_set hmem with hold | rfl
    · exact hstays hold hother
    · rw [closes_advance] at hother
      exact hstays (List.mem_of_getElem? hcall) hother
  · have honce := hcloses.once
    rw [hcalls]
    rw [List.pairwise_iff_getElem] at honce ⊢
    intro first second hfirst hsecond hlt service hearlier hlater
    rw [List.length_set] at hfirst hsecond
    have hbefore := honce first second hfirst hsecond hlt service
    obtain ⟨hplace, rfl⟩ := List.getElem?_eq_some_iff.mp hcall
    rw [List.getElem_set] at hearlier hlater ⊢
    split at hlater
    · rename_i hsame
      subst hsame
      rw [if_neg (Nat.ne_of_gt hlt)] at hearlier
      rw [closes_advance] at hlater
      rw [if_pos rfl, hbefore hearlier hlater]
      rfl
    · rename_i hne
      rw [if_neg hne]
      split at hearlier
      · rename_i hsame
        subst hsame
        rw [closes_advance] at hearlier
        exact hbefore hearlier hlater
      · exact hbefore hearlier hlater

theorem ClosesOnce.act (hcloses : system.ClosesOnce) (action : Action) :
    (system.act action).ClosesOnce := by
  have hstays : ∀ {call : Call} {service : ServiceId}, call ∈ system.calls →
      call.closes service = true → ∃ next,
        (system.act action).world.services[service]? = some next ∧ next.pool.isClosed = true :=
    fun hmem hcall => hcloses.stays_shut hmem hcall action
  cases callsStep_act system action with
  | same hidle hcalls =>
      exact ⟨fun hmem hcall => hstays (hcalls ▸ hmem) hcall, hcalls ▸ hcloses.once⟩
  | build haction hprepare hcalls => exact hcloses.append hcalls hstays fun service hcall => by cases hcall
  | @refuse service present haction hpresent hclosed hcalls =>
      refine hcloses.append hcalls hstays fun other hcall => ?_
      obtain rfl : service = other := by simpa [Call.closes] using hcall
      obtain ⟨next, hnext, hcontinues⟩ := continues_act hpresent action
      exact ⟨⟨next, hnext, by rw [hcontinues.frozen hclosed, hclosed]⟩, Or.inl rfl⟩
  | @shut service present next haction hpresent hopen hnext hclosed hcalls =>
      refine hcloses.append hcalls hstays fun other hcall => ?_
      obtain rfl : service = other := by simpa [Call.closes] using hcall
      refine ⟨⟨next, hnext, hclosed⟩, Or.inr fun earlier hmem => ?_⟩
      by_contra hearlier
      obtain ⟨shut, hshut, hshutClosed⟩ := hcloses.shut hmem (Bool.not_eq_false _ ▸ hearlier)
      rw [hpresent] at hshut
      cases hshut
      rw [hopen] at hshutClosed
      cases hshutClosed
  | advance haction hcall hcalls => exact hcloses.advance hcall hcalls hstays

theorem Reachable.closesOnce (hreachable : system.Reachable) : system.ClosesOnce :=
  hreachable.induct ⟨(fun hmem _ => by cases hmem), List.Pairwise.nil⟩
    fun _ action hcloses => hcloses.act action

/-! ### A closed pool at rest -/

/-- The pool of a service is closed, its upkeep has nothing left to do, and no call is still closing its
connections. -/
structure Rests (system : System) (service : ServiceId) (pool : Pool) : Prop where
  present : ∃ present, system.world.services[service]? = some present ∧ present.pool = pool ∧
    present.upkeep.agenda = []
  closed : pool.isClosed = true
  returned : ∀ pending complaints, .close service pending complaints ∉ system.calls

/-- If the first call that closes a pool has returned, nobody is still closing it. -/
theorem ClosesOnce.not_mem_close (hcloses : system.ClosesOnce)
    (hreturned : system.calls.find? (Call.closes service) = some (.closed service complaints))
    (pending : List ConnectionId) (others : List PoolError) :
    .close service pending others ∉ system.calls := by
  intro hmem
  obtain ⟨hfirst, index, hindex, hget, hbefore⟩ := List.find?_eq_some_iff_getElem.mp hreturned
  obtain ⟨place, hplace, hclose⟩ := List.mem_iff_getElem.mp hmem
  have honce := List.pairwise_iff_getElem.mp hcloses.once
  rcases Nat.lt_trichotomy place index with hlt | rfl | hgt
  · have hnone := hbefore place hlt
    rw [hclose] at hnone
    simp [Call.closes] at hnone
  · rw [hclose] at hget
    cases hget
  · have hlater := honce index place hindex hplace hgt service (by rw [hget]; exact hfirst)
      (by rw [hclose]; simp [Call.closes])
    rw [hclose] at hlater
    cases hlater

theorem Rests.act (hrests : system.Rests service pool) (action : Action) :
    (system.act action).Rests service pool := by
  obtain ⟨present, hpresent, rfl, hidle⟩ := hrests.present
  obtain ⟨next, hnext, hcontinues⟩ := continues_act hpresent action
  refine ⟨⟨next, hnext, hcontinues.frozen hrests.closed, hcontinues.idle hrests.closed hidle⟩,
    hrests.closed, ?_⟩
  intro pending complaints hmem
  cases callsStep_act system action with
  | same hidle hcalls => exact hrests.returned pending complaints (hcalls ▸ hmem)
  | build haction hprepare hcalls =>
      rw [hcalls] at hmem
      exact hrests.returned pending complaints (by simpa using hmem)
  | refuse haction hbefore hclosed hcalls =>
      rw [hcalls] at hmem
      exact hrests.returned pending complaints (by simpa using hmem)
  | shut haction hbefore hopen hshut hclosed hcalls =>
      rw [hcalls] at hmem
      rcases List.mem_append.mp hmem with hold | hlast
      · exact hrests.returned pending complaints hold
      · cases List.mem_singleton.mp hlast
        rw [hpresent] at hbefore
        cases hbefore
        rw [hrests.closed] at hopen
        cases hopen
  | @advance place step call haction hcall hcalls =>
      rw [hcalls] at hmem
      rcases List.mem_or_eq_of_mem_set hmem with hold | hadvanced
      · exact hrests.returned pending complaints hold
      · have hcloses := closes_advance system.world step call service
        rw [← hadvanced] at hcloses
        have hmemCall := List.mem_of_getElem? hcall
        cases call with
        | reach building slots => simp [Call.closes] at hcloses
        | fill building alive attempts => simp [Call.closes] at hcloses
        | built queue outcome => simp [Call.closes] at hcloses
        | close other rest earlier =>
            obtain rfl : other = service := by simpa [Call.closes] using hcloses.symm
            exact hrests.returned rest earlier hmemCall
        | closed other earlier => cases hadvanced

theorem Rests.run (hrests : system.Rests service pool) (actions : List Action) :
    (system.run actions).Rests service pool := by
  induction actions generalizing system with
  | nil => exact hrests
  | cons action rest ih => exact ih (hrests.act action)

theorem Sound.link_closed {connection : ConnectionId} {addr : String} (hsound : system.Sound)
    (hrests : system.Rests service pool)
    (hserves : system.world.cluster.Serves connection addr pool.queue) :
    system.world.cluster.link connection = .closed := by
  obtain ⟨present, hpresent, rfl, hidle⟩ := hrests.present
  have hupkeep := hsound.upkeep hpresent
  rw [hidle] at hupkeep
  rcases hupkeep.closed_or_count hserves with hclosed | hcount
  · exact hclosed
  · have hmem : connection ∈ present.pool.topology.connections :=
      List.count_pos_iff.mp (hcount ▸ Nat.one_pos)
    rcases hsound.shut hpresent hrests.closed hmem with hclosed | ⟨call, hcall, hwill⟩
    · exact hclosed
    · cases call with
      | close other pending complaints =>
          obtain ⟨rfl, -⟩ := hwill
          exact absurd hcall (hrests.returned pending complaints)
      | _ => exact hwill.elim

theorem Sound.evolves_of_rests (hsound : system.Sound) (hrests : system.Rests service pool)
    (action : Action) :
    system.world.cluster.Evolves (· ≠ pool.queue) (system.act action).world.cluster := by
  obtain ⟨present, hpresent, rfl, hidle⟩ := hrests.present
  by_cases hown : action = .upkeep service
  · subst hown
    simp only [System.act]
    cases hstep : system.world.stepUpkeep service with
    | none => exact .refl _
    | some later =>
        obtain ⟨found, hfound, hkind⟩ := World.stepUpkeep_some hstep
        rw [hpresent] at hfound
        cases hfound
        rw [Option.getD_some, hkind.eq_endUpkeep hrests.closed hidle]
        exact (World.endUpkeep_spec hpresent).2.1.mono fun _ => False.elim
  · refine (evolves_act system action).mono ?_
    rintro queue hopens rfl
    exact hsound.not_opens_of_service hpresent hown hopens

/-! ### What a closed pool answers -/

theorem closed_run (hpresent : system.world.services[service]? = some present)
    (hclosed : present.pool.isClosed = true) (actions : List Action) :
    ∃ next, (system.run actions).world.services[service]? = some next ∧
      next.pool = present.pool := by
  induction actions generalizing system present with
  | nil => exact ⟨present, hpresent, rfl⟩
  | cons action rest ih =>
      obtain ⟨next, hnext, hcontinues⟩ := continues_act hpresent action
      have hframe := hcontinues.frozen hclosed
      obtain ⟨last, hlast, hpool⟩ := ih hnext (hframe ▸ hclosed)
      exact ⟨last, hlast, hpool.trans hframe⟩

end System

namespace World

variable {mode : Mode} {operation : Operation}

theorem resolve_of_closed (hpresent : world.services[service]? = some present)
    (hclosed : present.pool.isClosed = true) :
    world.resolve service mode = (.error .closed, world) := by
  simp only [resolve, hpresent, Pool.resolve, hclosed, if_true, setPool_self hpresent]

theorem closePool_of_closed (hpresent : world.services[service]? = some present)
    (hclosed : present.pool.isClosed = true) : world.closePool service = ([], world) := by
  simp only [closePool, shutPool, hpresent, Pool.shut, hclosed, if_true,
    setPool_self hpresent, Bool.false_eq_true, if_false]

theorem request_of_closed (hpresent : world.services[service]? = some present)
    (hclosed : present.pool.isClosed = true) (hmodes : operation.modes.length ≤ 1) :
    world.request service operation = (world, .error (.error .closed)) := by
  simp only [request, Operation.mode_of_short hmodes, resolve_of_closed hpresent hclosed]

theorem routeAll_of_closed (hpresent : world.services[service]? = some present)
    (hclosed : present.pool.isClosed = true) {operations : List Operation}
    (hmodes : ∀ operation ∈ operations, operation.modes.length ≤ 1) :
    ∀ (place : Nat) (issued : Issued), world.routeAll service place operations issued =
      (world, { issued with answered :=
          issued.answered ++ numbered place (List.replicate operations.length (.error (.error .closed))) }) := by
  induction operations with
  | nil =>
      intro place issued
      simp [routeAll, numbered]
  | cons operation rest ih =>
      intro place issued
      have hmode := Operation.mode_of_short (hmodes operation List.mem_cons_self)
      have hroute : world.route service place operation issued =
          (world, { issued with answered := issued.answered ++ [(place, .error .closed)] }) := by
        simp only [route, hmode, resolve_of_closed hpresent hclosed]
      have hrest := ih (fun other hmem => hmodes other (List.mem_cons_of_mem _ hmem)) (place + 1)
        { issued with answered := issued.answered ++ [(place, .error .closed)] }
      simp only [routeAll, hroute, hrest, List.length_cons, List.replicate_succ, numbered_cons,
        List.append_assoc, List.singleton_append]
      rfl

theorem answerAll_of_closed (hpresent : world.services[service]? = some present)
    (hclosed : present.pool.isClosed = true) {operations : List Operation}
    (hmodes : ∀ operation ∈ operations, operation.modes.length ≤ 1) :
    (world.answerAll service operations).2 =
      List.replicate operations.length (.error .closed) := by
  rw [answerAll_of_routeAll (routeAll_of_closed hpresent hclosed hmodes 0 {}), List.map_replicate]
  rfl

/-- The upkeep that goes first cannot open the pool again. -/
theorem requestAll_of_closed (hpresent : world.services[service]? = some present)
    (hclosed : present.pool.isClosed = true) {operations : List Operation}
    (hmodes : ∀ operation ∈ operations, operation.modes.length ≤ 1) :
    (world.requestAll service operations).2 =
      List.replicate operations.length (.error .closed) := by
  obtain ⟨actions, hactions⟩ := becomes_turn world operations
  have hstart : (System.mk world []).world.services[service]? = some present := hpresent
  obtain ⟨next, hnext, hpool⟩ := System.closed_run hstart hclosed actions
  rw [hactions] at hnext
  exact answerAll_of_closed hnext (hpool ▸ hclosed) hmodes

end World

/-! ### Finality -/

namespace System

variable {system : System} {pool : Pool} {complaints : List PoolError}

/-- A pool that has come to its end: it has not changed, its connections are closed, its upkeep can only
end, and it turns down all operations. Only the first call that closed it did anything. -/
structure Final (system : System) (service : ServiceId) (pool : Pool) : Prop where
  unchanged : ∃ present, system.world.services[service]? = some present ∧ present.pool = pool ∧
    present.upkeep.agenda = []
  connections : ∀ connection addr, system.world.cluster.Serves connection addr pool.queue →
    system.world.cluster.link connection = .closed
  upkeep : system.world.stepUpkeep service = none ∨
    system.world.stepUpkeep service = some (system.world.endUpkeep service)
  resolve : ∀ mode, system.world.resolve service mode = (.error .closed, system.world)
  connectedNow : ∀ mode, system.world.connectedNow service mode = (system.world, .ok false)
  configuredTimeout : ∀ mode,
    system.world.configuredTimeout service mode = (system.world, .error .closed)
  request : ∀ operation : Operation, operation.modes.length ≤ 1 →
    system.world.request service operation = (system.world, .error (.error .closed))
  requestTyped : ∀ (operation : Operation) (shape : Shape), operation.modes.length ≤ 1 →
    system.world.requestTyped service operation shape = (system.world, .error (.error .closed))
  requestAll : ∀ operations : List Operation,
    (∀ operation ∈ operations, operation.modes.length ≤ 1) →
      (system.world.requestAll service operations).2 =
        List.replicate operations.length (.error .closed)
  closePool : system.world.closePool service = ([], system.world)
  others : ∀ call ∈ (system.calls.filter (Call.closes service)).tail, call = .closed service []

theorem ClosesOnce.others (hcloses : system.ClosesOnce) {call : Call}
    (hmem : call ∈ (system.calls.filter (Call.closes service)).tail) :
    call = .closed service [] := by
  have honce := hcloses.once.filter (Call.closes service)
  cases hfilter : system.calls.filter (Call.closes service) with
  | nil =>
      rw [hfilter] at hmem
      cases hmem
  | cons first rest =>
      rw [hfilter] at hmem honce
      have hcall : ∀ other ∈ first :: rest, other.closes service = true := by
        intro other hother
        rw [← hfilter] at hother
        exact (List.mem_filter.mp hother).2
      exact (List.pairwise_cons.mp honce).1 call hmem service (hcall first List.mem_cons_self)
        (hcall call (List.mem_cons_of_mem _ hmem))

theorem Rests.final (hrests : system.Rests service pool) (hreachable : system.Reachable) :
    system.Final service pool := by
  obtain ⟨present, hpresent, rfl, hidle⟩ := hrests.present
  have hclosed := hrests.closed
  refine ⟨⟨present, hpresent, rfl, hidle⟩,
    fun connection addr hserves => hreachable.sound.link_closed hrests hserves, ?_,
    fun mode => World.resolve_of_closed hpresent hclosed, ?_, ?_,
    fun operation hmodes => World.request_of_closed hpresent hclosed hmodes, ?_,
    fun operations hmodes => World.requestAll_of_closed hpresent hclosed hmodes,
    World.closePool_of_closed hpresent hclosed,
    fun call hmem => hreachable.closesOnce.others hmem⟩
  · cases hstep : system.world.stepUpkeep service with
    | none => exact Or.inl rfl
    | some later =>
        obtain ⟨found, hfound, hkind⟩ := World.stepUpkeep_some hstep
        rw [hpresent] at hfound
        cases hfound
        exact Or.inr (congrArg some (hkind.eq_endUpkeep hclosed hidle))
  · intro mode
    simp only [World.connectedNow, World.resolve_of_closed hpresent hclosed]
  · intro mode
    simp only [World.configuredTimeout, World.resolve_of_closed hpresent hclosed]
  · intro operation shape hmodes
    simp only [World.requestTyped, World.request_of_closed hpresent hclosed hmodes]
    rfl

/-- Once the first call that closes a pool has returned and the work of its upkeep is done, the pool is at
its end for good and nobody dials for it. A call that finds the pool closed closes nothing. -/
theorem close_final (hreachable : system.Reachable)
    (hpresent : system.world.services[service]? = some present)
    (hreturned : system.calls.find? (Call.closes service) = some (.closed service complaints))
    (hidle : present.upkeep.agenda = []) :
    (∀ actions, (system.run actions).Final service present.pool ∧
      ∀ connection addr,
        (system.run actions).world.cluster.Serves connection addr present.pool.queue →
          system.world.cluster.Serves connection addr present.pool.queue) ∧
      ∀ (before : System) (shut : Service), before.world.services[service]? = some shut →
        shut.pool.isClosed = true → before.act (.shut service) =
          { before with calls := before.calls ++ [.closed service []] } := by
  have hcloses := hreachable.closesOnce
  have hcall := List.find?_eq_some_iff_append.mp hreturned
  have hclosed : present.pool.isClosed = true := by
    obtain ⟨shut, hshut, hshutClosed⟩ :=
      hcloses.shut (List.mem_of_find?_eq_some hreturned) hcall.1
    rw [hpresent] at hshut
    cases hshut
    exact hshutClosed
  have hrests : system.Rests service present.pool :=
    ⟨⟨present, hpresent, rfl, hidle⟩, hclosed, hcloses.not_mem_close hreturned⟩
  refine ⟨fun actions => ⟨(hrests.run actions).final (hreachable.run actions), ?_⟩,
    fun before shut hshut hshutClosed => act_shut_of_closed hshut hshutClosed⟩
  -- No action dials for a pool at rest, so whatever reports to its queue was there before.
  have hnobody : ∀ (actions : List Action) (start : System), start.Reachable →
      start.Rests service present.pool →
        start.world.cluster.Evolves (· ≠ present.pool.queue) (start.run actions).world.cluster := by
    intro actions
    induction actions with
    | nil => exact fun start _ _ => .refl _
    | cons action rest ih =>
        intro start hstart hstartRests
        exact (hstart.sound.evolves_of_rests hstartRests action).trans
          (ih _ (hstart.run [action]) (hstartRests.act action))
  intro connection addr hserves
  rcases (hnobody actions system hreachable hrests).serves_origin hserves with hbefore | ⟨-, hne⟩
  · exact hbefore
  · exact absurd rfl hne

def closingRun : List Action :=
  soloRun ++ [.change (.stop 0), .change (.start 0)] ++ List.replicate 4 (.upkeep 0) ++
    [.shut 0, .upkeep 0, .shut 0] ++ List.replicate 2 (.advance 1 0) ++
      List.replicate 5 (.upkeep 0)

theorem close_final_closing :
    ∃ present, (run {} closingRun).world.services[0]? = some present ∧
      ∀ actions, ((run {} closingRun).run actions).Final 0 present.pool := by
  have hservice : (run {} closingRun).world.services[0]?.map
      (fun present => present.upkeep.agenda.isEmpty) = some true := by decide +kernel
  obtain ⟨present, hpresent, hidle⟩ := Option.map_eq_some_iff.mp hservice
  have hreturned : (run {} closingRun).calls.find? (Call.closes 0) = some (.closed 0 []) := rfl
  have hfinal := close_final ⟨closingRun, rfl⟩ hpresent hreturned (List.isEmpty_iff.mp hidle)
  exact ⟨present, hpresent, fun actions => (hfinal.1 actions).1⟩

end System

end ReplicaPool
