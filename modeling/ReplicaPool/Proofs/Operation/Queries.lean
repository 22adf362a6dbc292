import Mathlib.Data.Nat.ModEq
import ReplicaPool.Proofs.System.Balance
import ReplicaPool.Session.Pooled

/-!
# Queries between requests

A caller may ask a pool about itself between requests. The status and the addresses are read off and change
nothing. But whoever asks about the connection of a mode has the mode routed: such a query takes a turn of the
subpool just as a request does, and the request after it is sent to the next live member. So requests are
sent to the same instances as without the queries if and only if the number of queries that landed in the
subpool is a multiple of the number of its live members.
-/

namespace ReplicaPool

/-- What a caller may ask a pool without sending anything. -/
inductive Query where
  | connectedNow (mode : Mode)
  | configuredTimeout (mode : Mode)
  | status
  | addrs

namespace Query

def command : Query → PooledCommand
  | .connectedNow mode => .connectedNow mode
  | .configuredTimeout mode => .configuredTimeout mode
  | .status => .status
  | .addrs => .addrs

def mode? : Query → Option Mode
  | .connectedNow mode => some mode
  | .configuredTimeout mode => some mode
  | .status => none
  | .addrs => none

end Query

def Action.requested? (service : ServiceId) : Action → Option Mode
  | .resolve other mode => if other = service then some mode else none
  | _ => none

/-- Whether an action is something else than work on the entries of a pool or its end. -/
def Action.isOutside (service : ServiceId) : Action → Bool
  | .upkeep other => other != service
  | .shut other => other != service
  | _ => true

abbrev Schedule := List (Action ⊕ Query)

namespace Schedule

variable {query : Query} {mode : Mode}

/-- A schedule with a request of the same mode in the place of every query that has one. -/
def actions (service : ServiceId) (schedule : Schedule) : List Action :=
  schedule.flatMap fun
    | .inl action => [action]
    | .inr query => (query.mode?.map (Action.resolve service)).toList

theorem actions_inl (service : ServiceId) (action : Action) (rest : Schedule) :
    Schedule.actions service (.inl action :: rest) = action :: rest.actions service := rfl

theorem actions_inr_of_mode (hmode : query.mode? = some mode) (service : ServiceId) (rest : Schedule) :
    Schedule.actions service (.inr query :: rest) = .resolve service mode :: rest.actions service := by
  simp [actions, hmode]

theorem actions_inr_of_none (hmode : query.mode? = none) (service : ServiceId) (rest : Schedule) :
    Schedule.actions service (.inr query :: rest) = rest.actions service := by
  simp [actions, hmode]

def requests (service : ServiceId) (pool : Pool) (role : Role) (schedule : Schedule) : Nat :=
  (schedule.filterMap Sum.getLeft?).countP fun action =>
    (action.requested? service).any fun mode => pool.landing? mode == some role

def queries (pool : Pool) (role : Role) (schedule : Schedule) : Nat :=
  (schedule.filterMap Sum.getRight?).countP fun query =>
    query.mode?.any fun mode => pool.landing? mode == some role

def unqueried (schedule : Schedule) : Schedule :=
  (schedule.filterMap Sum.getLeft?).map .inl

theorem filterMap_unqueried (schedule : Schedule) :
    schedule.unqueried.filterMap Sum.getLeft? = schedule.filterMap Sum.getLeft? := by
  rw [unqueried, List.filterMap_map]
  exact List.filterMap_some

theorem queries_unqueried (pool : Pool) (role : Role) (schedule : Schedule) :
    schedule.unqueried.queries pool role = 0 := by
  have hnone : schedule.unqueried.filterMap Sum.getRight? = [] := by
    simp [unqueried]
  rw [queries, hnone, List.countP_nil]

theorem countP_actions (service : ServiceId) (pool : Pool) (role : Role) (schedule : Schedule) :
    (schedule.actions service).countP (fun action =>
      (action.requested? service).any fun mode => pool.landing? mode == some role) =
        schedule.requests service pool role + schedule.queries pool role := by
  induction schedule with
  | nil => rfl
  | cons step rest ih =>
      cases step with
      | inl action =>
          rw [actions_inl, List.countP_cons, ih]
          simp only [requests, queries, List.filterMap_cons, Sum.getLeft?_inl, Sum.getRight?_inl,
            List.countP_cons]
          omega
      | inr query =>
          cases hmode : query.mode? with
          | none =>
              rw [actions_inr_of_none hmode, ih]
              simp [requests, queries, List.filterMap_cons, hmode]
          | some mode =>
              have hrequested : (Action.resolve service mode).requested? service = some mode := if_pos rfl
              rw [actions_inr_of_mode hmode, List.countP_cons, ih, hrequested]
              simp only [requests, queries, List.filterMap_cons, Sum.getLeft?_inr, Sum.getRight?_inr,
                List.countP_cons, hmode]
              omega

end Schedule

namespace System

variable {system : System} {service : ServiceId} {present : Service} {role : Role} {action : Action}
  {actions : List Action} {schedule : Schedule} {mode : Mode} {query : Query} {connection : ConnectionId}

def ask (system : System) (service : ServiceId) (query : Query) : System × PooledReply :=
  let session : PooledSession := { world := system.world, current := some service }
  let (session, reply) := session.perform query.command
  ({ system with world := session.world }, reply)

def follow (service : ServiceId) (system : System) : Schedule → System
  | [] => system
  | .inl action :: rest => (system.act action).follow service rest
  | .inr query :: rest => (system.ask service query).1.follow service rest

def recipient? (system : System) (service : ServiceId) (mode : Mode) : Option ConnectionId :=
  (system.world.resolve service mode).1.toOption

/-! ### Queries are requests -/

theorem pool?_session (hpresent : system.world.services[service]? = some present) :
    PooledSession.pool? { world := system.world, current := some service } =
      some (service, present.pool) := by
  simp [PooledSession.pool?, hpresent]

theorem ask_of_mode (hpresent : system.world.services[service]? = some present)
    (hmode : query.mode? = some mode) :
    (system.ask service query).1 = system.act (.resolve service mode) := by
  cases query with
  | connectedNow chosen =>
      cases hmode
      simp only [ask, Query.command, PooledSession.perform, pool?_session hpresent, PooledSession.onPool,
        World.connectedNow, act]
      rcases system.world.resolve service mode with ⟨cause | connection, moved⟩
      · cases cause <;> rfl
      · rfl
  | configuredTimeout chosen =>
      cases hmode
      simp only [ask, Query.command, PooledSession.perform, pool?_session hpresent, PooledSession.onPool,
        World.configuredTimeout, act]
      rcases system.world.resolve service mode with ⟨cause | connection, moved⟩ <;> rfl
  | _ => cases hmode

theorem ask_of_none (hpresent : system.world.services[service]? = some present)
    (hmode : query.mode? = none) : (system.ask service query).1 = system := by
  cases query with
  | status =>
      simp only [ask, Query.command, PooledSession.perform, pool?_session hpresent, PooledSession.onPool]
  | addrs =>
      simp only [ask, Query.command, PooledSession.perform, pool?_session hpresent, PooledSession.onPool]
  | _ => cases hmode

theorem resolve_of_recipient (hpresent : system.world.services[service]? = some present)
    (hrecipient : system.recipient? service mode = some connection) :
    system.world.resolve service mode = (.ok connection,
      system.world.setPool service (present.pool.resolve system.world.isConnected mode).2) := by
  rw [recipient?, World.resolve_eq hpresent] at hrecipient
  rw [World.resolve_eq hpresent]
  cases hpicked : (present.pool.resolve system.world.isConnected mode).1 with
  | error cause =>
      rw [hpicked] at hrecipient
      cases hrecipient
  | ok picked =>
      rw [hpicked] at hrecipient
      cases hrecipient
      rfl

theorem ask_connectedNow (hpresent : system.world.services[service]? = some present)
    (hrecipient : system.recipient? service mode = some connection) :
    (system.ask service (.connectedNow mode)).2 = .flagged (.ok (system.world.isConnected connection)) := by
  simp only [ask, Query.command, PooledSession.perform, pool?_session hpresent, PooledSession.onPool,
    World.connectedNow, resolve_of_recipient hpresent hrecipient]
  rfl

theorem ask_configuredTimeout (hpresent : system.world.services[service]? = some present)
    (hrecipient : system.recipient? service mode = some connection) :
    (system.ask service (.configuredTimeout mode)).2 = .counted (.ok requestTimeout) := by
  simp only [ask, Query.command, PooledSession.perform, pool?_session hpresent, PooledSession.onPool,
    World.configuredTimeout, resolve_of_recipient hpresent hrecipient]

theorem follow_eq_run (hpresent : system.world.services[service]? = some present) (schedule : Schedule) :
    system.follow service schedule = system.run (schedule.actions service) := by
  induction schedule generalizing system present with
  | nil => rfl
  | cons step rest ih =>
      cases step with
      | inl action =>
          obtain ⟨next, hnext, -⟩ := stepped_act hpresent action
          exact ih hnext
      | inr query =>
          cases hmode : query.mode? with
          | none => rw [follow, ask_of_none hpresent hmode, ih hpresent, Schedule.actions_inr_of_none hmode]
          | some mode =>
              obtain ⟨next, hnext, -⟩ := stepped_act hpresent (.resolve service mode)
              rw [follow, ask_of_mode hpresent hmode, ih hnext, Schedule.actions_inr_of_mode hmode, run_cons]

/-! ### Who takes turns -/

theorem sameEntries_act (hpresent : system.world.services[service]? = some present)
    (houtside : action.isOutside service = true) :
    ∃ next, (system.act action).world.services[service]? = some next ∧
      present.pool.SameEntries next.pool := by
  obtain ⟨next, hnext, ⟨rfl, -⟩ | hstepped⟩ := stepped_act hpresent action
  · exact ⟨next, hnext, .refl _⟩
  · refine ⟨next, hnext, ?_⟩
    cases hstepped with
    | route mode => exact Pool.sameEntries_resolve _ _ mode
    | disown => exact .refl _
    | _ => simp [Action.isOutside] at houtside

theorem sameEntries_run (hpresent : system.world.services[service]? = some present)
    (houtside : ∀ action ∈ actions, action.isOutside service = true) :
    ∃ later, (system.run actions).world.services[service]? = some later ∧
      present.pool.SameEntries later.pool := by
  induction actions generalizing system present with
  | nil => exact ⟨present, hpresent, .refl _⟩
  | cons action rest ih =>
      obtain ⟨next, hnext, hsame⟩ := sameEntries_act hpresent (houtside action List.mem_cons_self)
      have hrest : ∀ other ∈ rest, other.isOutside service = true :=
        fun other hmem => houtside other (List.mem_cons_of_mem _ hmem)
      obtain ⟨later, hlater, hlate⟩ := ih hnext hrest
      exact ⟨later, hlater, hsame.trans hlate⟩

theorem lands_eq (hpresent : system.world.services[service]? = some present)
    (houtside : action.isOutside service = true) (role : Role) :
    system.lands service role action =
      (action.requested? service).any fun mode => present.pool.landing? mode == some role := by
  have hroutes : system.routes? service action = action.requested? service := by
    cases action with
    | upkeep other =>
        have hother : other ≠ service := by
          simpa [Action.isOutside] using houtside
        rw [routes?, if_neg fun hboth => hother hboth.1]
        rfl
    | _ => rfl
  unfold lands
  rw [hpresent, hroutes]
  cases action.requested? service <;> rfl

theorem landings_eq_countP (hpresent : system.world.services[service]? = some present)
    (houtside : ∀ action ∈ actions, action.isOutside service = true) (role : Role) :
    system.landings service role actions = actions.countP fun action =>
      (action.requested? service).any fun mode => present.pool.landing? mode == some role := by
  induction actions generalizing system present with
  | nil => rfl
  | cons action rest ih =>
      have hfirst := houtside action List.mem_cons_self
      obtain ⟨next, hnext, hsame⟩ := sameEntries_act hpresent hfirst
      have hrest := ih hnext fun later hmem => houtside later (List.mem_cons_of_mem _ hmem)
      simp only [hsame.landing?_eq] at hrest
      rw [landings, hrest, lands_eq hpresent hfirst, List.countP_cons, Nat.add_comm]

/-- After the actions of a schedule, none of which is work on the entries of a pool, comes a request, and a
subpool stays as it is all the time. -/
structure Precedes (system : System) (service : ServiceId) (role : Role) (mode : Mode)
    (schedule : Schedule) : Prop where
  outside : ∀ action ∈ schedule.filterMap Sum.getLeft?, action.isOutside service = true
  steady : system.StaysSteady service role (schedule.actions service ++ [.resolve service mode])

theorem Precedes.isOutside (hprecedes : system.Precedes service role mode schedule) :
    ∀ action ∈ schedule.actions service, action.isOutside service = true := by
  intro action hmem
  obtain ⟨step, hstep, hof⟩ := List.mem_flatMap.mp hmem
  cases step with
  | inl other =>
      obtain rfl := List.mem_singleton.mp hof
      exact hprecedes.outside action (List.mem_filterMap.mpr ⟨_, hstep, rfl⟩)
  | inr query =>
      obtain ⟨asked, -, rfl⟩ : ∃ asked, query.mode? = some asked ∧ .resolve service asked = action := by
        simpa using hof
      rfl

/-- A request that lands in a subpool is sent to the member whose turn it is. -/
theorem recipient?_of_landing (hpresent : system.world.services[service]? = some present)
    (hsteady : system.Steady service role (.resolve service mode))
    (hlanding : present.pool.landing? mode = some role) :
    system.recipient? service mode = (system.turns service role).head? := by
  have hroutes : system.routes? service (.resolve service mode) = some mode := if_pos rfl
  have hlands := (lands_iff hpresent).mpr ⟨mode, hroutes, hlanding⟩
  have hpick : system.pick? service role (.resolve service mode) = system.recipient? service mode := by
    simp only [pick?, hroutes, hlands, if_true, recipient?]
  rw [← hpick, pick?_of_lands hpresent hsteady hlands]

theorem head?_rotate_eq {β : Type} (turns : List β) (taken : Nat) :
    (turns.rotate taken).head? = turns[taken % turns.length]? := by
  by_cases hnobody : turns = []
  · rw [hnobody, List.rotate_nil]
    rfl
  · rw [← List.rotate_mod]
    exact List.head?_rotate (Nat.mod_lt taken (List.length_pos_iff.mpr hnobody))

/-- After a schedule it is the turn of the member that comes after all requests and all queries. -/
theorem recipient?_follow (hpresent : system.world.services[service]? = some present)
    (hprecedes : system.Precedes service role mode schedule)
    (hlanding : present.pool.landing? mode = some role) :
    (system.follow service schedule).recipient? service mode = (system.turns service role)[
      (schedule.requests service present.pool role + schedule.queries present.pool role) %
        (system.turns service role).length]? := by
  obtain ⟨later, hlater, hsame⟩ := sameEntries_run hpresent hprecedes.isOutside
  obtain ⟨hearly, hlast, -⟩ := staysSteady_append.mp hprecedes.steady
  have hlandings : system.landings service role (schedule.actions service) =
      schedule.requests service present.pool role + schedule.queries present.pool role := by
    rw [landings_eq_countP hpresent hprecedes.isOutside, Schedule.countP_actions]
  calc
    (system.follow service schedule).recipient? service mode =
        (system.run (schedule.actions service)).recipient? service mode := by
      rw [follow_eq_run hpresent]
    _ = ((system.run (schedule.actions service)).turns service role).head? := by
      apply recipient?_of_landing hlater hlast
      rw [hsame.landing?_eq, hlanding]
    _ = ((system.turns service role).rotate
          (schedule.requests service present.pool role + schedule.queries present.pool role)).head? := by
      rw [turns_run hpresent hearly, hlandings]
    _ = _ := head?_rotate_eq _ _

/-! ### How queries disturb requests -/

structure TakesQueries (system : System) (service : ServiceId) (present : Service) : Prop where
  /-- The status and the addresses are read off. -/
  silent : ∀ {query : Query}, query.mode? = none → (system.ask service query).1 = system
  /-- Other queries do what a request in their place would do. -/
  routed : ∀ {query : Query} {mode : Mode}, query.mode? = some mode →
    (system.ask service query).1 = system.act (.resolve service mode)
  /-- They are about the connection to which a request in their place would be sent. -/
  connectedNow : ∀ {mode : Mode} {connection : ConnectionId},
    system.recipient? service mode = some connection →
      (system.ask service (.connectedNow mode)).2 = .flagged (.ok (system.world.isConnected connection))
  configuredTimeout : ∀ {mode : Mode} {connection : ConnectionId},
    system.recipient? service mode = some connection →
      (system.ask service (.configuredTimeout mode)).2 = .counted (.ok requestTimeout)
  /-- The requests and the queries that land in a subpool take turns there. -/
  recipient : ∀ {schedule : Schedule} {role : Role} {mode : Mode},
    system.Precedes service role mode schedule → present.pool.landing? mode = some role →
      (system.follow service schedule).recipient? service mode = (system.turns service role)[
        (schedule.requests service present.pool role + schedule.queries present.pool role) %
          (system.turns service role).length]?
  /-- A request is sent to the same instance as without the queries before it if and only if those that landed
  in its subpool make up whole rounds of the live members. -/
  disturbance : ∀ {schedule : Schedule} {role : Role} {mode : Mode},
    system.Precedes service role mode schedule → system.Precedes service role mode schedule.unqueried →
      present.pool.landing? mode = some role → system.turns service role ≠ [] →
        ((system.follow service schedule).recipient? service mode =
            (system.follow service schedule.unqueried).recipient? service mode ↔
          (system.turns service role).length ∣ schedule.queries present.pool role)

/-- Two numbers of turns lead to the same member if and only if they differ by whole rounds. -/
theorem getElem?_add_mod_eq_iff {β : Type} {turns : List β} (hnodup : turns.Nodup)
    (hsomebody : turns ≠ []) (early late : Nat) :
    turns[(early + late) % turns.length]? = turns[early % turns.length]? ↔ turns.length ∣ late := by
  have hbound : (early + late) % turns.length < turns.length :=
    Nat.mod_lt _ (List.length_pos_iff.mpr hsomebody)
  rw [← @Nat.add_modEq_left_iff turns.length early late]
  exact List.getElem?_inj hbound hnodup

theorem queries_take_turns (hreachable : system.Reachable)
    (hpresent : system.world.services[service]? = some present) : system.TakesQueries service present := by
  constructor
  case silent => exact ask_of_none hpresent
  case routed => exact ask_of_mode hpresent
  case connectedNow => exact ask_connectedNow hpresent
  case configuredTimeout => exact ask_configuredTimeout hpresent
  case recipient =>
    intro schedule role mode hprecedes hlanding
    exact recipient?_follow hpresent hprecedes hlanding
  case disturbance =>
    intro schedule role mode hprecedes hunqueried hlanding hsomebody
    have hrequests : schedule.unqueried.requests service present.pool role =
        schedule.requests service present.pool role := by
      rw [Schedule.requests, Schedule.filterMap_unqueried, Schedule.requests]
    rw [recipient?_follow hpresent hprecedes hlanding,
      recipient?_follow hpresent hunqueried hlanding, hrequests,
      Schedule.queries_unqueried, Nat.add_zero]
    exact getElem?_add_mod_eq_iff (turns_nodup hreachable hpresent role) hsomebody _ _

def queriedRequests : Schedule :=
  [.inl (.resolve 0 .rw), .inr (.connectedNow .rw), .inr .status]

theorem queries_take_turns_trio :
    ∃ present, (run {} trioRun).world.services[0]? = some present ∧
      (run {} trioRun).TakesQueries 0 present ∧
      (run {} trioRun).Precedes 0 .master .rw queriedRequests ∧
      (run {} trioRun).Precedes 0 .master .rw queriedRequests.unqueried ∧
      present.pool.landing? .rw = some .master := by
  have hservice : (run {} trioRun).world.services[0]?.map (fun present => present.pool.landing? .rw) =
      some (some .master) := by
    decide +kernel
  obtain ⟨present, hpresent, hlanding⟩ := Option.map_eq_some_iff.mp hservice
  exact ⟨present, hpresent, queries_take_turns ⟨trioRun, rfl⟩ hpresent,
    ⟨by decide, by decide +kernel⟩, ⟨by decide, by decide +kernel⟩, hlanding⟩

/-- In the presence of two masters the second of two writes goes to the other one, but not with a query in
between. -/
theorem queries_disturb_requests :
    (run {} trioRun).recipient? 0 .rw = some 1 ∧
      ((run {} trioRun).follow 0 queriedRequests.unqueried).recipient? 0 .rw = some 0 ∧
      ((run {} trioRun).follow 0 queriedRequests).recipient? 0 .rw = some 1 := by
  decide +kernel

end System

end ReplicaPool
