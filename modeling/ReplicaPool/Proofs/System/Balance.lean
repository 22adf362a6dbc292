import ReplicaPool.Proofs.Operation.Routing
import ReplicaPool.Proofs.Pool.Turns
import ReplicaPool.Proofs.System.Steps

/-!
# Balanced routing

Callers and the worker of a pool route requests in any order, among anything else that goes on. As long as a
subpool and the liveness of its members stay as they are, each request that lands there takes the next turn,
and nothing else takes one. So the members are served in rotation, whatever happens in the other subpool.
-/

namespace ReplicaPool

def Service.callsDiscovery (present : Service) : Bool :=
  present.upkeep.running && present.pool.discovers &&
    match present.upkeep.agenda with
    | .discover :: _ => true
    | _ => false

theorem Service.callsDiscovery_iff {present : Service} :
    present.callsDiscovery = true ↔ present.upkeep.running = true ∧ present.pool.discovers = true ∧
      ∃ rest, present.upkeep.agenda = .discover :: rest := by
  unfold callsDiscovery
  rw [Bool.and_eq_true, Bool.and_eq_true, and_assoc]
  apply and_congr_right'
  apply and_congr_right'
  split
  · rename_i rest hagenda
    exact iff_of_true rfl ⟨rest, hagenda⟩
  · rename_i hagenda
    exact iff_of_false Bool.false_ne_true fun ⟨rest, hdiscover⟩ => hagenda rest hdiscover

namespace System

variable {system : System} {service : ServiceId} {present : Service} {role : Role} {action : Action}
  {actions others : List Action} {mode : Mode}

/-! ### Turns -/

def subpool (system : System) (service : ServiceId) (role : Role) : RoundRobin ConnectionId :=
  match system.world.services[service]? with
  | some present => present.pool.topology.subpool role
  | none => .empty

def turns (system : System) (service : ServiceId) (role : Role) : List ConnectionId :=
  ((system.subpool service role).turns system.world.isConnected).map Prod.snd

/-- The mode by which an action routes a request through a pool. The worker does so too, to call the discovery
function. -/
def routes? (system : System) (service : ServiceId) : Action → Option Mode
  | .resolve other mode => if other = service then some mode else none
  | .upkeep other =>
      if other = service ∧ (system.world.services[service]?.any Service.callsDiscovery) = true then some .rw
      else none
  | _ => none

def lands (system : System) (service : ServiceId) (role : Role) (action : Action) : Bool :=
  match system.world.services[service]?, system.routes? service action with
  | some present, some mode => present.pool.landing? mode == some role
  | _, _ => false

def pick? (system : System) (service : ServiceId) (role : Role) (action : Action) : Option ConnectionId :=
  match system.routes? service action with
  | some mode =>
      if system.lands service role action then (system.world.resolve service mode).1.toOption else none
  | none => none

def picks (service : ServiceId) (role : Role) (system : System) : List Action → List ConnectionId
  | [] => []
  | action :: rest =>
      (system.pick? service role action).toList ++ (system.act action).picks service role rest

def landings (service : ServiceId) (role : Role) (system : System) : List Action → Nat
  | [] => 0
  | action :: rest =>
      (if system.lands service role action then 1 else 0) + (system.act action).landings service role rest

/-- The members of a subpool and their liveness outlast an action, and if it routes a request there, the
cursor does not pass the end of its word. -/
def Steady (system : System) (service : ServiceId) (role : Role) (action : Action) : Prop :=
  ((system.act action).subpool service role).members = (system.subpool service role).members ∧
    (∀ entry ∈ (system.subpool service role).members,
      (system.act action).world.isConnected entry.2 = system.world.isConnected entry.2) ∧
    (system.lands service role action = true → (system.subpool service role).HasRoom)

instance (system : System) (service : ServiceId) (role : Role) (action : Action) :
    Decidable (system.Steady service role action) :=
  inferInstanceAs (Decidable (_ ∧ _ ∧ _))

def StaysSteady (service : ServiceId) (role : Role) (system : System) : List Action → Prop
  | [] => True
  | action :: rest =>
      system.Steady service role action ∧ (system.act action).StaysSteady service role rest

instance StaysSteady.decidable (service : ServiceId) (role : Role) : (system : System) →
    (actions : List Action) → Decidable (system.StaysSteady service role actions)
  | _, [] => inferInstanceAs (Decidable True)
  | system, action :: rest =>
      have := StaysSteady.decidable service role (system.act action) rest
      inferInstanceAs (Decidable (system.Steady service role action ∧ _))

/-! ### One action -/

theorem subpool_eq (hpresent : system.world.services[service]? = some present) (role : Role) :
    system.subpool service role = present.pool.topology.subpool role := by
  rw [subpool, hpresent]

theorem subpool_act_resolve (hpresent : system.world.services[service]? = some present) (mode : Mode)
    (role : Role) : (system.act (.resolve service mode)).subpool service role =
      (present.pool.resolve system.world.isConnected mode).2.topology.subpool role := by
  have hlater : (system.act (.resolve service mode)).world.services = system.world.services.set service
      { present with pool := (present.pool.resolve system.world.isConnected mode).2 } := by
    rw [act, World.resolve_eq hpresent, World.setPool, World.services_modifyService hpresent]
  rw [subpool, hlater, List.getElem?_set_self (List.getElem?_eq_some_iff.mp hpresent).1]

theorem subpool_act_upkeep (hpresent : system.world.services[service]? = some present)
    (hcalls : present.callsDiscovery = true) (role : Role) :
    (system.act (.upkeep service)).subpool service role =
      (present.pool.resolve system.world.isConnected .rw).2.topology.subpool role := by
  obtain ⟨hrunning, hdiscovers, rest, hagenda⟩ := Service.callsDiscovery_iff.mp hcalls
  obtain ⟨next, hnext, ⟨-, hidle⟩ | hstepped⟩ := stepped_act hpresent (.upkeep service)
  · have hwaits := hidle rfl
    simp [World.stepUpkeep, hpresent, hrunning, hagenda, Job.isDue] at hwaits
  · rw [subpool_eq hnext]
    cases hstepped with
    | work hjob hdue _ =>
        rw [hagenda] at hjob
        cases hjob
        rw [World.pool_perform_discover hdiscovers]
    | turn hnothing htakesUp =>
        rw [hagenda] at hnothing
        cases hnothing

theorem subpool_act_of_routes (hpresent : system.world.services[service]? = some present)
    (hroutes : system.routes? service action = some mode) (role : Role) :
    (system.act action).subpool service role =
      (present.pool.resolve system.world.isConnected mode).2.topology.subpool role := by
  cases action with
  | resolve other chosen =>
      obtain ⟨rfl, rfl⟩ : other = service ∧ chosen = mode := by
        simpa [routes?] using hroutes
      exact subpool_act_resolve hpresent chosen role
  | upkeep other =>
      rw [routes?, hpresent, Option.any_some] at hroutes
      split_ifs at hroutes with hcalls
      obtain ⟨rfl, hcalls⟩ := hcalls
      cases hroutes
      exact subpool_act_upkeep hpresent hcalls role
  | _ => cases hroutes

theorem cursor_act_of_routes_none (hpresent : system.world.services[service]? = some present)
    (hroutes : system.routes? service action = none) (role : Role) :
    ((system.act action).subpool service role).cursor = (system.subpool service role).cursor := by
  obtain ⟨next, hnext, ⟨rfl, -⟩ | hstepped⟩ := stepped_act hpresent action
  · rw [subpool_eq hnext, subpool_eq hpresent]
  · rw [subpool_eq hnext, subpool_eq hpresent]
    cases hstepped with
    | route mode => simp [routes?] at hroutes
    | @work job rest hagenda hdue hrunning =>
        apply World.cursor_perform
        rintro rfl
        cases hdiscovers : present.pool.discovers with
        | false => rfl
        | true =>
            have hcalls := Service.callsDiscovery_iff.mpr ⟨hrunning, hdiscovers, rest, hagenda⟩
            simp [routes?, hpresent, hcalls] at hroutes
    | _ => rfl

theorem lands_iff (hpresent : system.world.services[service]? = some present) :
    system.lands service role action = true ↔
      ∃ mode, system.routes? service action = some mode ∧ present.pool.landing? mode = some role := by
  unfold lands
  rw [hpresent]
  cases system.routes? service action <;> simp

theorem next_of_lands (hpresent : system.world.services[service]? = some present)
    (hlands : system.lands service role action = true) :
    system.pick? service role action = ((system.subpool service role).next system.world.isConnected).1 ∧
      (system.act action).subpool service role =
        ((system.subpool service role).next system.world.isConnected).2 := by
  obtain ⟨mode, hroutes, hlanding⟩ := (lands_iff hpresent).mp hlands
  obtain ⟨hpicked, hmoved⟩ := @Pool.resolve_of_landing _ system.world.isConnected _ _ hlanding
  rw [subpool_act_of_routes hpresent hroutes, subpool_eq hpresent]
  refine ⟨?_, hmoved⟩
  simp only [pick?, hroutes, hlands, if_true, World.resolve_eq hpresent, hpicked]

theorem cursor_act_of_not_lands (hpresent : system.world.services[service]? = some present)
    (hlands : system.lands service role action = false) :
    ((system.act action).subpool service role).cursor = (system.subpool service role).cursor := by
  cases hroutes : system.routes? service action with
  | none => exact cursor_act_of_routes_none hpresent hroutes role
  | some mode =>
      have hlanding : present.pool.landing? mode ≠ some role := fun hlanding => by
        rw [(lands_iff hpresent).mpr ⟨mode, hroutes, hlanding⟩] at hlands
        cases hlands
      rw [subpool_act_of_routes hpresent hroutes, Pool.subpool_resolve_of_ne hlanding, subpool_eq hpresent]

theorem turns_act_of_lands (hpresent : system.world.services[service]? = some present)
    (hsteady : system.Steady service role action) (hlands : system.lands service role action = true) :
    (system.act action).turns service role = (system.turns service role).rotate 1 := by
  obtain ⟨hmembers, halive, hroom⟩ := hsteady
  have hnext := (next_of_lands hpresent hlands).2
  have hturns : ((system.act action).subpool service role).turns (system.act action).world.isConnected =
      ((system.subpool service role).turns system.world.isConnected).rotate 1 := by
    calc
      ((system.act action).subpool service role).turns (system.act action).world.isConnected =
          ((system.subpool service role).next system.world.isConnected).2.turns system.world.isConnected := by
        apply RoundRobin.turns_congr
        · rw [hnext]
        · rw [hnext]
        · rw [← hnext, hmembers]
          exact halive
      _ = ((system.subpool service role).turns system.world.isConnected).rotate 1 :=
        RoundRobin.turns_next _ (hroom hlands)
  rw [turns, hturns, List.map_rotate, turns]

theorem turns_act_of_not_lands (hpresent : system.world.services[service]? = some present)
    (hsteady : system.Steady service role action) (hlands : system.lands service role action = false) :
    (system.act action).turns service role = system.turns service role := by
  obtain ⟨hmembers, halive, -⟩ := hsteady
  rw [turns, turns, RoundRobin.turns_congr hmembers (cursor_act_of_not_lands hpresent hlands) halive]

theorem pick?_of_lands (hpresent : system.world.services[service]? = some present)
    (hsteady : system.Steady service role action) (hlands : system.lands service role action = true) :
    system.pick? service role action = (system.turns service role).head? := by
  rw [(next_of_lands hpresent hlands).1, RoundRobin.next_eq_head? _ (hsteady.2.2 hlands), turns,
    List.head?_map]

theorem pick?_of_not_lands (hlands : system.lands service role action = false) :
    system.pick? service role action = none := by
  unfold pick?
  cases system.routes? service action <;> simp [hlands]

/-! ### A whole run -/

theorem staysSteady_append {early late : List Action} :
    system.StaysSteady service role (early ++ late) ↔
      system.StaysSteady service role early ∧ (system.run early).StaysSteady service role late := by
  induction early generalizing system with
  | nil => exact (iff_of_eq (true_and _)).symm
  | cons action early ih => exact (and_congr_right' ih).trans and_assoc.symm

theorem inRotation_picks (hpresent : system.world.services[service]? = some present)
    (hsteady : system.StaysSteady service role actions) :
    InRotation (system.turns service role) (system.picks service role actions) := by
  induction actions generalizing system present with
  | nil => exact inRotation_nil _
  | cons action rest ih =>
      obtain ⟨hfirst, hlater⟩ := hsteady
      obtain ⟨next, hnext, -⟩ := stepped_act hpresent action
      have hrest := ih hnext hlater
      cases hlands : system.lands service role action with
      | false =>
          rw [turns_act_of_not_lands hpresent hfirst hlands] at hrest
          rw [picks, pick?_of_not_lands hlands]
          exact hrest
      | true =>
          rw [turns_act_of_lands hpresent hfirst hlands] at hrest
          rw [picks, pick?_of_lands hpresent hfirst hlands]
          cases hturns : system.turns service role with
          | nil =>
              rw [hturns] at hrest
              exact hrest
          | cons first others =>
              rw [hturns] at hrest
              exact .cons rfl hrest

theorem turns_run (hpresent : system.world.services[service]? = some present)
    (hsteady : system.StaysSteady service role actions) :
    (system.run actions).turns service role =
      (system.turns service role).rotate (system.landings service role actions) := by
  induction actions generalizing system present with
  | nil => exact (List.rotate_zero _).symm
  | cons action rest ih =>
      obtain ⟨hfirst, hlater⟩ := hsteady
      obtain ⟨next, hnext, -⟩ := stepped_act hpresent action
      rw [run_cons, ih hnext hlater, landings]
      cases hlands : system.lands service role action with
      | false => rw [turns_act_of_not_lands hpresent hfirst hlands, if_neg Bool.false_ne_true, Nat.zero_add]
      | true => rw [turns_act_of_lands hpresent hfirst hlands, List.rotate_rotate, if_pos rfl]

/-- As long as a member is alive, every request is served. -/
theorem length_picks (hpresent : system.world.services[service]? = some present)
    (hsteady : system.StaysSteady service role actions) (halive : system.turns service role ≠ []) :
    (system.picks service role actions).length = system.landings service role actions := by
  induction actions generalizing system present with
  | nil => rfl
  | cons action rest ih =>
      obtain ⟨hfirst, hlater⟩ := hsteady
      obtain ⟨next, hnext, -⟩ := stepped_act hpresent action
      have hone : system.StaysSteady service role [action] := ⟨hfirst, trivial⟩
      have hturns : (system.act action).turns service role =
          (system.turns service role).rotate (system.landings service role [action]) :=
        turns_run hpresent hone
      have hlive : (system.act action).turns service role ≠ [] := by
        rw [hturns]
        exact mt List.rotate_eq_nil_iff.mp halive
      have hrest := ih hnext hlater hlive
      rw [picks, landings, List.length_append, hrest]
      cases hlands : system.lands service role action with
      | false => rw [pick?_of_not_lands hlands]; rfl
      | true =>
          obtain ⟨first, others, hcons⟩ := List.exists_cons_of_ne_nil halive
          rw [pick?_of_lands hpresent hfirst hlands, hcons]
          rfl

/-! ### Balance -/

theorem turns_nodup (hreachable : system.Reachable)
    (hpresent : system.world.services[service]? = some present) (role : Role) :
    (system.turns service role).Nodup := by
  have hall := (hreachable.sound.pool_sound hpresent).connections_nodup
  rw [Topology.connections, List.map_append] at hall
  have hmembers : ((present.pool.topology.subpool role).members.map Prod.snd).Nodup := by
    cases role with
    | master => exact hall.of_append_left
    | replica => exact hall.of_append_right
  have hlive : (((present.pool.topology.subpool role).members.filter fun entry =>
      system.world.isConnected entry.2).map Prod.snd).Nodup :=
    hmembers.sublist (List.filter_sublist.map Prod.snd)
  rw [turns, subpool_eq hpresent]
  exact ((RoundRobin.turns_perm _ _).map Prod.snd).nodup_iff.mpr hlive

/-- The requests that land in a subpool are shared out evenly among its live members. -/
structure Balanced (system : System) (service : ServiceId) (role : Role) : Prop where
  /-- The turns follow the order of the subpool, from some place on and around its end. -/
  order : (((system.subpool service role).members.filter fun entry =>
      system.world.isConnected entry.2).map Prod.snd).IsRotated (system.turns service role)
  /-- Every live member has one turn. -/
  nodup : (system.turns service role).Nodup
  served : ∀ {actions : List Action}, system.StaysSteady service role actions →
    system.turns service role ≠ [] →
      (system.picks service role actions).length = system.landings service role actions
  rotation : ∀ {actions : List Action}, system.StaysSteady service role actions →
    InRotation (system.turns service role) (system.picks service role actions)
  /-- As many requests in a row as there are live members go to all of them. -/
  window : ∀ {actions : List Action} {start : Nat}, system.StaysSteady service role actions →
    start + (system.turns service role).length ≤ (system.picks service role actions).length →
      (((system.picks service role actions).drop start).take (system.turns service role).length).Nodup ∧
        (((system.picks service role actions).drop start).take (system.turns service role).length).Perm
          (system.turns service role)
  share : ∀ {actions : List Action} {rounds : Nat} {connection : ConnectionId},
    system.StaysSteady service role actions →
      rounds * (system.turns service role).length ≤ (system.picks service role actions).length →
        connection ∈ system.turns service role →
          ((system.picks service role actions).take
            (rounds * (system.turns service role).length)).count connection = rounds
  /-- Neither the number of requests that go elsewhere matters, nor when they come. -/
  independence : ∀ {actions others : List Action}, system.StaysSteady service role actions →
    system.StaysSteady service role others →
      system.landings service role others = system.landings service role actions →
        system.picks service role others = system.picks service role actions

theorem balanced_routing (hreachable : system.Reachable)
    (hpresent : system.world.services[service]? = some present) (role : Role) :
    system.Balanced service role := by
  have hnodup := turns_nodup hreachable hpresent role
  constructor
  case order => exact (RoundRobin.turns_isRotated _ _).map Prod.snd
  case nodup => exact hnodup
  case served => exact length_picks hpresent
  case rotation => exact inRotation_picks hpresent
  case window =>
    intro actions start hsteady hbound
    rw [(inRotation_picks hpresent hsteady).window hbound]
    exact ⟨List.nodup_rotate.mpr hnodup, List.rotate_perm _ start⟩
  case share =>
    intro actions rounds connection hsteady hbound hmem
    exact (inRotation_picks hpresent hsteady).count hnodup hbound hmem
  case independence =>
    intro actions others hsteady hothers hlandings
    have hpicks := inRotation_picks hpresent hsteady
    have hothersPicks := inRotation_picks hpresent hothers
    by_cases hnobody : system.turns service role = []
    · rw [hnobody] at hpicks hothersPicks
      rw [hpicks.eq_nil, hothersPicks.eq_nil]
    · apply hpicks.eq_of_length hothersPicks
      rw [length_picks hpresent hothers hnobody, hlandings, length_picks hpresent hsteady hnobody]

def mixedRequests : List Action :=
  [.resolve 0 .rw, .resolve 0 .preferRo, .resolve 0 .preferRw, .execute 0 .ping, .resolve 0 .preferRo,
    .change (.setReadOnly 1 true), .resolve 0 .rw, .resolve 0 .preferRw]

theorem balanced_routing_trio :
    (run {} trioRun).Balanced 0 .master ∧ (run {} trioRun).StaysSteady 0 .master mixedRequests ∧
      (run {} trioRun).turns 0 .master = [1, 0] ∧
      (run {} trioRun).picks 0 .master mixedRequests = [1, 0, 1, 0] := by
  have hservice : (run {} trioRun).world.services[0]?.isSome = true := by
    decide +kernel
  obtain ⟨present, hpresent⟩ := Option.isSome_iff_exists.mp hservice
  exact ⟨balanced_routing ⟨trioRun, rfl⟩ hpresent .master, by decide +kernel⟩

end System

end ReplicaPool
