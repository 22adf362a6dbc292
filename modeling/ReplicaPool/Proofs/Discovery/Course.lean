import ReplicaPool.Proofs.Discovery.Management
import ReplicaPool.Proofs.Discovery.Reconciliation
import ReplicaPool.Proofs.Learning.Roles
import ReplicaPool.Proofs.System.Convergence

/-!
# The course of a discovery

While a worker is busy, everybody else goes on as well. `System.Finishes` says that a run takes a worker to
the end of its agenda, and `System.chronicle` what its pool dials and learns on the way. An action of the
worker performs one job and adds what comes of it to the chronicle; all other actions leave the agenda, the
entries and the chronicle of the pool alone.
-/

namespace ReplicaPool

namespace World

variable {world : World} {pool : Pool} {job : Job} {addr : String} {connection : ConnectionId}

theorem evolves_perform (hjob : ∀ addr purpose, job ≠ .reach addr purpose) :
    world.cluster.Evolves (fun _ => False) (world.perform pool job).1.cluster := by
  cases job with
  | reach addr purpose => exact absurd rfl (hjob addr purpose)
  | refresh addrs =>
      cases addrs with
      | nil => exact .refl _
      | cons addr addrs =>
          simp only [perform]
          split <;> exact .refl _
  | discover =>
      simp only [perform]
      split
      · exact .refl _
      · cases (pool.resolve world.isConnected .rw).1 <;> exact .refl _
  | learn connection script =>
      simp only [perform]
      split
      · exact .refl _
      · exact evolves_answer _ _ _ _
  | reconcile fresh gone members =>
      cases fresh with
      | cons addr fresh =>
          simp only [perform]
          split <;> exact .refl _
      | nil => cases gone <;> exact .refl _
  | fail addr purpose => cases purpose <;> exact .refl _
  | classify connection goal script => exact evolves_answer _ _ _ _
  | close connection => exact Cluster.evolves_close _ _
  | _ => exact .refl _

theorem serves_perform {queue : QueueId}
    (hserves : (world.perform pool job).1.cluster.Serves connection addr queue) :
    world.cluster.Serves connection addr queue ∨ ∃ purpose, job = .reach addr purpose ∧
      (world.cluster.dial addr pool.queue).2 = .ok connection := by
  by_cases hjob : ∃ target purpose, job = .reach target purpose
  · obtain ⟨target, purpose, rfl⟩ := hjob
    change (world.cluster.dial target pool.queue).1.Serves connection addr queue at hserves
    rcases (Cluster.evolves_dial world.cluster target pool.queue).serves_origin hserves with
      hbefore | ⟨hnew, -⟩
    · exact Or.inl hbefore
    · have hlt := hserves.lt_length
      cases hdial : (world.cluster.dial target pool.queue).2 with
      | error cause =>
          rw [Cluster.connections_dial_error hdial] at hlt
          exact absurd hlt (Nat.not_lt.mpr hnew)
      | ok made =>
          obtain ⟨hmade, hfresh, hlength⟩ := Cluster.serves_dial hdial
          rw [hlength] at hlt
          obtain rfl : connection = made :=
            (Nat.le_antisymm (Nat.le_of_lt_succ hlt) hnew).trans hmade.symm
          obtain rfl := hserves.addr_unique hfresh
          exact Or.inr ⟨purpose, rfl, hdial⟩
  · have hevolves : world.cluster.Evolves (fun _ => False) (world.perform pool job).1.cluster :=
      evolves_perform fun target purpose hreach => hjob ⟨target, purpose, hreach⟩
    exact Or.inl ((hevolves.serves_origin hserves).resolve_right And.right)

end World

namespace System

def agenda (system : System) (service : ServiceId) : List Job :=
  match system.world.services[service]? with
  | some present => present.upkeep.agenda
  | none => []

/-- A run that ends as soon as the worker of a service has nothing left to do. -/
def Finishes (service : ServiceId) (system : System) : List Action → Prop
  | [] => system.agenda service = []
  | action :: rest => system.agenda service ≠ [] ∧ (system.act action).Finishes service rest

instance Finishes.decidable (service : ServiceId) : (system : System) → (actions : List Action) →
    Decidable (system.Finishes service actions)
  | system, [] => inferInstanceAs (Decidable (system.agenda service = []))
  | system, action :: rest =>
      have := Finishes.decidable service (system.act action) rest
      inferInstanceAs (Decidable (system.agenda service ≠ [] ∧ _))

/-- What a run does for the pool with a queue: the addresses that its worker dials because they have no
connection, the connections that are made, and what classifications come to. -/
def chronicle (system : System) (service : ServiceId) (queue : QueueId) (actions : List Action) :
    Chronicle where
  dialled addr := ∃ early late, actions = early ++ .upkeep service :: late ∧
    (system.run early).world.dueJob? service = some (.dial addr .enlist)
  made addr connection := system.world.cluster.connections.length ≤ connection ∧
    (system.run actions).world.cluster.Serves connection addr queue
  found finding := finding ∈ system.findings actions

/-- An action makes no connection that reports to a queue, and it classifies none. -/
structure Quiet (system : System) (action : Action) (queue : QueueId) : Prop where
  made : ∀ {connection : ConnectionId} {addr : String},
    (system.act action).world.cluster.Serves connection addr queue →
      system.world.cluster.Serves connection addr queue
  found : ∀ {finding : Finding} {addr : String}, system.finding? action = some finding →
    ¬system.world.cluster.Serves finding.connection addr queue

variable {system : System} {service : ServiceId} {present : Service} {action : Action}
  {actions : List Action} {queue : QueueId} {job : Job} {rest : List Job} {findings : List Finding}

theorem agenda_eq (hpresent : system.world.services[service]? = some present) :
    system.agenda service = present.upkeep.agenda := by
  rw [agenda, hpresent]

theorem run_concat (system : System) (actions : List Action) (action : Action) :
    system.run (actions ++ [action]) = (system.run actions).act action :=
  run_append system actions [action]

theorem findings_concat (system : System) (actions : List Action) (action : Action) :
    system.findings (actions ++ [action]) =
      system.findings actions ++ ((system.run actions).finding? action).toList := by
  rw [findings_append, findings, findings, List.append_nil]

theorem Reachable.exists_informed (hreachable : system.Reachable) :
    ∃ findings, system.Informed findings := by
  obtain ⟨actions, rfl⟩ := hreachable
  exact ⟨_, informed_run actions⟩

theorem evolves_run (system : System) (actions : List Action) :
    system.world.cluster.Evolves (fun _ => True) (system.run actions).world.cluster := by
  induction actions generalizing system with
  | nil => exact .refl _
  | cons action rest ih =>
      exact ((evolves_act system action).mono fun _ _ => trivial).trans (ih (system.act action))

theorem lt_length_of_mem_findings (hreachable : system.Reachable) {finding : Finding}
    (hmem : finding ∈ system.findings actions) :
    finding.connection < (system.run actions).world.cluster.connections.length := by
  induction actions generalizing system with
  | nil => cases hmem
  | cons action rest ih =>
      rcases List.mem_append.mp hmem with hfirst | hlater
      · obtain ⟨findings, hinformed⟩ := hreachable.exists_informed
        obtain ⟨addr, queue, hserves, -⟩ :=
          hinformed.serves_of_finding? hreachable.sound (Option.mem_toList.mp hfirst)
        calc finding.connection
            < system.world.cluster.connections.length := hserves.lt_length
          _ ≤ (system.run (action :: rest)).world.cluster.connections.length :=
              (evolves_run system _).length_le
      · exact ih (hreachable.run [action]) hlater

/-! ### Actions that do not concern a pool -/

theorem quiet_of_not_opens (hsound : system.Sound) (hinformed : system.Informed findings)
    (hclosed : ¬system.opens action queue) : system.Quiet action queue where
  made := by
    intro connection addr hserves
    exact ((evolves_act system action).serves_origin hserves).resolve_right fun hnew =>
      hclosed hnew.2
  found := by
    intro finding addr hfinding hserves
    obtain ⟨target, other, hfound, hopens⟩ := hinformed.serves_of_finding? hsound hfinding
    exact hclosed (hserves.queue_unique hfound ▸ hopens)

theorem act_of_idle (hidle : system.world.stepUpkeep service = none) :
    system.act (.upkeep service) = system := by
  simp only [act, hidle, Option.getD_none]

theorem quiet_of_idle (hidle : system.world.stepUpkeep service = none) :
    system.Quiet (.upkeep service) queue where
  made := by
    rw [act_of_idle hidle]
    exact id
  found := by
    intro finding addr hfinding
    rw [finding?_of_idle hidle] at hfinding
    cases hfinding

theorem dialled_append {addr : String} (late : List Action)
    (hdialled : (system.chronicle service queue actions).dialled addr) :
    (system.chronicle service queue (actions ++ late)).dialled addr := by
  obtain ⟨early, between, rfl, hjob⟩ := hdialled
  exact ⟨early, between ++ late, by simp, hjob⟩

theorem agrees_of_quiet (hquiet : (system.run actions).Quiet action queue) (addr : String) :
    (system.chronicle service queue actions).Agrees
      (system.chronicle service queue (actions ++ [action])) addr where
  dialled := dialled_append _
  made := by
    intro connection
    simp only [chronicle, run_concat]
    exact and_congr_right fun _ =>
      ⟨hquiet.made, fun hserves => (evolves_act _ action).serves hserves⟩
  found := by
    rintro connection outcome ⟨-, hserves⟩
    simp only [chronicle, findings_concat, List.mem_append, Option.mem_toList]
    exact ⟨fun hboth => hboth.resolve_right fun hfinding => hquiet.found hfinding hserves, Or.inl⟩

/-! ### Actions of the worker -/

theorem act_of_work (hpresent : system.world.services[service]? = some present)
    (hagenda : present.upkeep.agenda = job :: rest) (hdue : job.isDue system.world.now = true)
    (hrunning : present.upkeep.running = true) :
    (system.act (.upkeep service)).world = (system.world.perform present.pool job).1.setWork service
      (system.world.perform present.pool job).2.1
      ((system.world.perform present.pool job).2.2 ++ rest) := by
  simp only [act, World.stepUpkeep, hpresent, hrunning, hagenda, hdue, if_true, Option.getD_some]

theorem cluster_act_of_work (hpresent : system.world.services[service]? = some present)
    (hagenda : present.upkeep.agenda = job :: rest) (hdue : job.isDue system.world.now = true)
    (hrunning : present.upkeep.running = true) :
    (system.act (.upkeep service)).world.cluster =
      (system.world.perform present.pool job).1.cluster := by
  rw [act_of_work hpresent hagenda hdue hrunning]
  rfl

theorem exists_act_of_work (hpresent : system.world.services[service]? = some present)
    (hagenda : present.upkeep.agenda = job :: rest) (hdue : job.isDue system.world.now = true)
    (hrunning : present.upkeep.running = true) :
    ∃ next, (system.act (.upkeep service)).world.services[service]? = some next ∧
      next.pool = (system.world.perform present.pool job).2.1 ∧
      next.upkeep.agenda = (system.world.perform present.pool job).2.2 ++ rest := by
  have hservices := (World.touched_perform system.world present.pool job).services_eq
  rw [act_of_work hpresent hagenda hdue hrunning]
  exact ⟨_, World.getElem?_services_setWork (hservices ▸ hpresent), rfl, rfl⟩

/-- A job adds what comes of it to the chronicle of its pool. -/
theorem chronicle_extends (hreachable : system.Reachable)
    (hpresent : (system.run actions).world.services[service]? = some present)
    (hagenda : present.upkeep.agenda = job :: rest)
    (hdue : job.isDue (system.run actions).world.now = true)
    (hrunning : present.upkeep.running = true) :
    (system.chronicle service present.pool.queue (actions ++ [.upkeep service])).Extends
      (system.chronicle service present.pool.queue actions) (system.run actions).world present.pool
      job where
  dialled := by
    rintro addr (hbefore | rfl)
    · exact dialled_append _ hbefore
    · exact ⟨actions, [], rfl, dueJob?_of_work hpresent hagenda hdue hrunning⟩
  made := by
    intro addr connection
    simp only [chronicle, run_concat, cluster_act_of_work hpresent hagenda hdue hrunning]
    constructor
    · rintro ⟨hnew, hserves⟩
      exact (World.serves_perform hserves).imp_left (And.intro hnew)
    · rintro (⟨hnew, hserves⟩ | ⟨purpose, rfl, hdial⟩)
      · exact ⟨hnew, (World.touched_perform _ _ _).evolves.serves hserves⟩
      · obtain ⟨rfl, hserves, -⟩ := Cluster.serves_dial hdial
        exact ⟨(evolves_run system actions).length_le, hserves⟩
  found := by
    intro finding
    simp only [chronicle, findings_concat, List.mem_append, Option.mem_toList,
      finding?_of_work hpresent hagenda hdue hrunning]
  serves := And.right
  found_lt := lt_length_of_mem_findings hreachable

/-- What an action does to a busy worker: its next job is performed, or nothing that concerns it happens,
but that its pool may be closed. -/
theorem busy_act (hreachable : system.Reachable)
    (hpresent : system.world.services[service]? = some present)
    (hbusy : present.upkeep.agenda ≠ []) (action : Action) :
    ∃ next, (system.act action).world.services[service]? = some next ∧
      ((∃ job rest, action = .upkeep service ∧ present.upkeep.agenda = job :: rest ∧
          job.isDue system.world.now = true ∧ present.upkeep.running = true ∧
          next.pool = (system.world.perform present.pool job).2.1 ∧
          next.upkeep.agenda = (system.world.perform present.pool job).2.2 ++ rest) ∨
        (system.Quiet action present.pool.queue ∧
          next.upkeep.agenda = present.upkeep.agenda ∧
          (next.pool.isClosed = true ∨ present.pool.SameEntries next.pool))) := by
  have hsound := hreachable.sound
  obtain ⟨findings, hinformed⟩ := hreachable.exists_informed
  have hquiet : action ≠ .upkeep service → system.Quiet action present.pool.queue :=
    fun hother => quiet_of_not_opens hsound hinformed (hsound.not_opens_of_service hpresent hother)
  have hsame := Pool.SameEntries.refl present.pool
  obtain ⟨next, hnext, ⟨rfl, hidle⟩ | hstepped⟩ := stepped_act hpresent action
  · refine ⟨next, hnext, Or.inr ⟨?_, rfl, Or.inr hsame⟩⟩
    by_cases hown : action = .upkeep service
    · subst hown
      exact quiet_of_idle (hidle rfl)
    · exact hquiet hown
  · refine ⟨next, hnext, ?_⟩
    cases hstepped with
    | route mode =>
        exact Or.inr ⟨hquiet (fun hown => by cases hown), rfl,
          Or.inr (Pool.sameEntries_resolve _ _ mode)⟩
    | disown => exact Or.inr ⟨hquiet (fun hown => by cases hown), rfl, Or.inr hsame⟩
    | shut hopen => exact Or.inr ⟨hquiet (fun hown => by cases hown), rfl, Or.inl rfl⟩
    | @work job rest hagenda hdue hrunning =>
        exact Or.inl ⟨job, rest, rfl, hagenda, hdue, hrunning, rfl, rfl⟩
    | turn hagenda htakesUp => exact absurd hagenda hbusy

/-- What every action keeps while the worker is busy is kept until it has finished. -/
theorem Finishes.keeps {property : List Action → Prop}
    (hact : ∀ actions action, property actions → (system.run actions).agenda service ≠ [] →
      property (actions ++ [action])) {early late : List Action} (hproperty : property actions)
    (hfinishes : (system.run actions).Finishes service (early ++ late)) :
    property (actions ++ early) ∧ (system.run (actions ++ early)).Finishes service late := by
  induction early generalizing actions with
  | nil =>
      rw [List.append_nil]
      exact ⟨hproperty, hfinishes⟩
  | cons action early ih =>
      obtain ⟨hbusy, hlater⟩ := hfinishes
      rw [← run_concat] at hlater
      have hrest := ih (hact actions action hproperty hbusy) hlater
      rwa [List.append_assoc, List.singleton_append] at hrest

end System

end ReplicaPool
