import ReplicaPool.Proofs.Discovery.Exactness

/-!
# A discovery that fails

A discovery gets no further than to ask unless a live master replies with rows of names, of which the first
has some. Until then its worker has done nothing but to turn the rotation of masters: `Asking.performed`
says so of one piece of work, and `System.failed_discovery_harmless` of all that is done until the worker is
at rest, whatever everybody else does in the meantime.
-/

namespace ReplicaPool

/-! ### Replies that name nobody -/

/-- The outcome of a call that names members: rows of names, and the first row has some. -/
def NamesMembers (outcome : Except (Failure ConnectionError) (List Json)) : Prop :=
  ∃ names others, names ≠ [] ∧
    outcome = .ok ((names :: others).map fun row => .array (row.map .string))

section Replies

variable {α : Type} {element : Shape} {form : α → Json} {values rows : List Json} {result : Json}
  {members : List String} {outcome : Except (Failure ConnectionError) (List Json)}

/-- If all that a shape reads has one form and is kept as it is, its sequence reads lists of that form. -/
theorem decode_sequence_eq_ok
    (helement : ∀ {value result}, element.decode value = .ok result →
      result = value ∧ ∃ content, value = form content)
    (hdecode : (Shape.sequence element).decode (.array values) = .ok result) :
    result = .array values ∧ ∃ contents, values = List.map form contents := by
  rw [decode_sequence] at hdecode
  induction values generalizing result with
  | nil =>
      cases hdecode
      exact ⟨rfl, [], rfl⟩
  | cons value rest ih =>
      rw [List.mapM_cons] at hdecode
      cases hvalue : element.decode value with
      | error cause =>
          rw [hvalue] at hdecode
          cases hdecode
      | ok read =>
          rw [hvalue] at hdecode
          cases hrest : rest.mapM element.decode with
          | error cause =>
              rw [hrest] at hdecode
              cases hdecode
          | ok others =>
              rw [hrest] at hdecode
              cases hdecode
              obtain ⟨rfl, content, rfl⟩ := helement hvalue
              obtain ⟨hothers, contents, rfl⟩ := ih (by rw [hrest]; rfl)
              cases hothers
              exact ⟨rfl, content :: contents, rfl⟩

theorem decode_text_eq_ok {value : Json} (hdecode : Shape.text.decode value = .ok result) :
    result = value ∧ ∃ name, value = .string name := by
  cases value with
  | string name =>
      cases hdecode
      exact ⟨rfl, name, rfl⟩
  | _ => cases hdecode

theorem decode_names_eq_ok {value : Json}
    (hdecode : (Shape.sequence .text).decode value = .ok result) :
    result = value ∧ ∃ names : List String, value = .array (names.map .string) := by
  cases value with
  | array values =>
      obtain ⟨rfl, names, rfl⟩ := decode_sequence_eq_ok decode_text_eq_ok hdecode
      exact ⟨rfl, names, rfl⟩
  | _ => cases hdecode

/-- Members come only from rows of names. -/
theorem exists_names_of_membersOfReply (hmembers : membersOfReply rows = .ok members)
    (hsome : members ≠ []) : ∃ names others, names ≠ [] ∧
      rows = (names :: others).map fun row : List String => .array (row.map .string) := by
  unfold membersOfReply at hmembers
  cases hdecode : (Shape.sequence (.sequence .text)).decode (.array rows) with
  | error cause =>
      rw [hdecode] at hmembers
      cases hmembers
  | ok result =>
      obtain ⟨rfl, named, rfl⟩ : result = .array rows ∧ ∃ named : List (List String),
          rows = named.map fun row => .array (row.map .string) :=
        decode_sequence_eq_ok decode_names_eq_ok hdecode
      rw [hdecode] at hmembers
      cases named with
      | nil =>
          cases hmembers
          exact absurd rfl hsome
      | cons names others =>
          refine ⟨names, others, ?_, rfl⟩
          rintro rfl
          cases hmembers
          exact hsome rfl

theorem not_namesMembers_of_error {cause : DecodeError} (hmembers : membersOfReply rows = .error cause) :
    ¬NamesMembers (.ok rows) := by
  rintro ⟨names, others, -, hrows⟩
  cases hrows
  rw [membersOfReply_names] at hmembers
  cases hmembers

theorem onReply_eq_nil (topology : Topology) (houtcome : ¬NamesMembers outcome) :
    topology.onReply outcome = [] := by
  unfold Topology.onReply
  split
  · rfl
  · rename_i rows
    split
    · rfl
    · rename_i members hmembers
      have hnobody : members = [] := by
        by_contra hsome
        obtain ⟨names, others, hnames, hrows⟩ := exists_names_of_membersOfReply hmembers hsome
        exact houtcome ⟨names, others, hnames, congrArg Except.ok hrows⟩
      rw [hnobody]
      rfl

end Replies

/-! ### What asking does -/

/-- The pool with its rotation of masters at another place. -/
def Pool.turned (pool : Pool) (cursor : UInt64) : Pool :=
  { pool with topology := { pool.topology with rw := { pool.topology.rw with cursor } } }

section Asking

variable {world : World} {pool : Pool} {job : Job} {rest : List Job}

theorem RoundRobin.exists_next_snd_eq {α : Type} (alive : α → Bool) (ring : RoundRobin α) :
    ∃ cursor, (ring.next alive).2 = { ring with cursor } := by
  obtain ⟨hmembers, hpositions⟩ := RoundRobin.next_snd alive ring
  refine ⟨(ring.next alive).2.cursor, ?_⟩
  rw [← hmembers, ← hpositions]

theorem Pool.exists_resolve_rw_eq (alive : ConnectionId → Bool) (pool : Pool) :
    ∃ cursor, (pool.resolve alive .rw).2 = pool.turned cursor := by
  obtain ⟨cursor, hnext⟩ := RoundRobin.exists_next_snd_eq alive pool.topology.rw
  unfold Pool.resolve Topology.resolve
  split
  · exact ⟨pool.topology.rw.cursor, rfl⟩
  · cases hempty : pool.topology.rw.isEmpty with
    | true =>
        refine ⟨pool.topology.rw.cursor, ?_⟩
        simp only [Topology.choose, hempty, if_true]
        rfl
    | false =>
        refine ⟨cursor, ?_⟩
        simp only [Topology.choose, hempty, Bool.false_eq_true, if_false, Topology.subpool,
          Topology.setSubpool, hnext]
        split <;> rfl

theorem handle_call17 (node : Node) (functions : Functions) (function : String) (arguments : Json) :
    (node.handle functions (.call17 function arguments)).1 = node := by
  simp only [Node.handle, Request.isWrite, Bool.false_and, Bool.false_eq_true, if_false,
    Node.storeCommand?]
  split <;> rfl

theorem World.answer_call17 (world : World) (connection : ConnectionId) (function : String)
    (arguments : Json) (script : Script) :
    (world.answer connection (.call17 function arguments) script).1 = world := by
  rcases World.answer_eq world connection (.call17 function arguments) script with hsame | hexecute
  · exact hsame
  · rw [hexecute]
    simp only [World.execute, Cluster.execute]
    split
    · rfl
    · split
      · rfl
      · rfl
      · split
        · rfl
        · rename_i node hnode
          simp only [handle_call17, set_eq_of_getElem? hnode]

/-- One piece of work of a worker that asks leaves the cluster alone and turns the rotation of masters of
its pool at most. Unless a reply names members, it goes on asking or has nothing left to do. -/
theorem Asking.performed (hasking : Asking (job :: rest))
    (hreply : ∀ connection script function, job = .learn connection script →
      pool.options.discoveryFunction = some function →
        ¬NamesMembers (world.answer connection (.call17 function (.array [])) script).2) :
    (world.perform pool job).1 = world ∧
      (∃ cursor, (world.perform pool job).2.1 = pool.turned cursor) ∧
      ((world.perform pool job).2.2 ++ rest = [] ∨ Asking ((world.perform pool job).2.2 ++ rest)) := by
  have hstay : ∃ cursor, pool = pool.turned cursor := ⟨pool.topology.rw.cursor, rfl⟩
  cases hasking with
  | discover =>
      obtain ⟨cursor, hturned⟩ := Pool.exists_resolve_rw_eq world.isConnected pool
      simp only [World.perform]
      split
      · exact ⟨rfl, hstay, Or.inl rfl⟩
      · rw [hturned]
        cases (pool.resolve world.isConnected .rw).1 with
        | error cause => exact ⟨rfl, ⟨cursor, rfl⟩, Or.inl rfl⟩
        | ok connection =>
            refine ⟨rfl, ⟨cursor, rfl⟩, Or.inr ?_⟩
            simp only [World.beginDiscovery]
            split
            · exact .learn _ _
            · exact .wait _ _ _
  | learn connection script =>
      simp only [World.perform]
      split
      · exact ⟨rfl, hstay, Or.inl rfl⟩
      · rename_i function hfunction
        refine ⟨World.answer_call17 _ _ _ _ _, hstay, Or.inl ?_⟩
        rw [onReply_eq_nil pool.topology (hreply _ _ _ rfl hfunction)]
        rfl
  | wait due connection script => exact ⟨rfl, hstay, Or.inr (.learn connection script)⟩

end Asking

/-! ### The worker left to itself -/

namespace World

variable {world : World} {pool : Pool}

/-- A discovery that began now would come to members: there is a live master, and its reply names some. -/
def Discovers (world : World) (pool : Pool) : Prop :=
  ∃ connection function, (pool.resolve world.isConnected .rw).1 = .ok connection ∧
    pool.options.discoveryFunction = some function ∧
    NamesMembers (world.answer connection (.call17 function (.array []))
      (world.scriptFor connection (.call17 function (.array [])))).2

theorem answer_setNow (world : World) (now : Nat) (connection : ConnectionId) (request : Request)
    (script : Script) :
    (({ world with now } : World).answer connection request script).2 =
      (world.answer connection request script).2 := by
  unfold answer
  split <;> rfl

theorem carryOut_learn {connection : ConnectionId} {script : Script} {function : String}
    (hfunction : pool.options.discoveryFunction = some function)
    (hreply : ¬NamesMembers (world.answer connection (.call17 function (.array [])) script).2) :
    world.carryOut pool [.learn connection script] = (world, pool) := by
  rw [carryOut_cons]
  simp only [awaitDue, perform, hfunction, answer_call17, onReply_eq_nil pool.topology hreply,
    List.append_nil, carryOut_nil]

theorem exists_carryOut_discover (hfails : ¬world.Discovers pool) :
    ∃ now cursor, world.carryOut pool [.discover] = ({ world with now }, pool.turned cursor) := by
  obtain ⟨cursor, hturned⟩ := Pool.exists_resolve_rw_eq world.isConnected pool
  rw [carryOut_cons]
  simp only [awaitDue, perform, List.append_nil]
  cases hfunction : pool.options.discoveryFunction with
  | none => exact ⟨world.now, pool.topology.rw.cursor, carryOut_nil⟩
  | some function =>
      cases hresolve : (pool.resolve world.isConnected .rw).1 with
      | error cause => exact ⟨world.now, cursor, by simp only [hturned, carryOut_nil]⟩
      | ok connection =>
          have hmoved : (pool.turned cursor).options.discoveryFunction = some function := hfunction
          have hreply : ¬NamesMembers (world.answer connection (.call17 function (.array []))
              (world.scriptFor connection (.call17 function (.array [])))).2 :=
            fun hnames => hfails ⟨connection, function, hresolve, hfunction, hnames⟩
          simp only [hturned, beginDiscovery]
          split
          · exact ⟨world.now, cursor, carryOut_learn hmoved hreply⟩
          · refine ⟨max world.now (world.now +
              (world.scriptFor connection (.call17 function (.array []))).infoDelay), cursor, ?_⟩
            rw [carryOut_cons]
            apply carryOut_learn hmoved
            simp only [awaitDue, perform]
            rwa [answer_setNow]

end World

/-! ### Any run -/

/-- Two topologies that differ in their cursors at most. -/
structure Topology.SameFiling (topology later : Topology) : Prop where
  addrs : later.addrs = topology.addrs
  members : ∀ role, (later.subpool role).members = (topology.subpool role).members
  positions : ∀ role, (later.subpool role).positions = (topology.subpool role).positions

theorem Topology.SameFiling.trans {topology middle later : Topology}
    (hearly : topology.SameFiling middle) (hlate : middle.SameFiling later) :
    topology.SameFiling later where
  addrs := hlate.addrs.trans hearly.addrs
  members := fun role => (hlate.members role).trans (hearly.members role)
  positions := fun role => (hlate.positions role).trans (hearly.positions role)

theorem Pool.sameFiling_turned (pool : Pool) (cursor : UInt64) :
    pool.topology.SameFiling (pool.turned cursor).topology where
  addrs := rfl
  members := fun role => by cases role <;> rfl
  positions := fun role => by cases role <;> rfl

theorem Pool.sameFiling_resolve (alive : ConnectionId → Bool) (pool : Pool) (mode : Mode) :
    pool.topology.SameFiling (pool.resolve alive mode).2.topology := by
  rcases (Pool.resolve_snd alive pool mode).2 with hsame | hmoved
  · rw [hsame]
    exact ⟨rfl, fun _ => rfl, fun _ => rfl⟩
  · rw [hmoved]
    exact ⟨Topology.addrs_resolve _ _ _,
      fun role => (Topology.members_resolve alive pool.topology mode role).1,
      fun role => (Topology.members_resolve alive pool.topology mode role).2⟩

namespace System

variable {system : System} {service : ServiceId} {present former : Service} {before : Topology}
  {action : Action} {actions : List Action}

def Learns (system : System) (service : ServiceId) (actions : List Action) : Prop :=
  ∃ early late former connection script function, actions = early ++ .upkeep service :: late ∧
    (system.run early).world.services[service]? = some former ∧
    (system.run early).world.dueJob? service = some (.learn connection script) ∧
    former.pool.options.discoveryFunction = some function ∧
    NamesMembers ((system.run early).world.answer connection (.call17 function (.array [])) script).2

theorem Learns.append (hlearns : system.Learns service actions) (later : List Action) :
    system.Learns service (actions ++ later) := by
  obtain ⟨early, late, former, connection, script, function, rfl, hlearns⟩ := hlearns
  exact ⟨early, late ++ later, former, connection, script, function, by simp, hlearns⟩

theorem stepUpkeep_of_idle {world : World} {job : Job} {rest : List Job}
    (hpresent : world.services[service]? = some present) (hagenda : present.upkeep.agenda = job :: rest)
    (hidle : ¬(present.upkeep.running = true ∧ job.isDue world.now = true)) :
    world.stepUpkeep service = none := by
  simp only [World.stepUpkeep, hpresent, hagenda]
  split
  · rename_i hrunning
    split
    · rename_i hdue
      exact absurd ⟨hrunning, hdue⟩ hidle
    · rfl
  · rfl

/-- What the worker of a service does next, if it asks and gets no reply that names members. -/
theorem asking_act (hformer : (system.run actions).world.services[service]? = some former)
    (hasking : Asking former.upkeep.agenda)
    (hfails : ¬system.Learns service (actions ++ [.upkeep service])) :
    (system.run (actions ++ [.upkeep service])).world.cluster = (system.run actions).world.cluster ∧
      ∃ next cursor, (system.run (actions ++ [.upkeep service])).world.services[service]? = some next ∧
        next.pool = former.pool.turned cursor ∧
        (next.upkeep.agenda = [] ∨ Asking next.upkeep.agenda) := by
  rw [run_concat]
  cases hagenda : former.upkeep.agenda with
  | nil =>
      rw [hagenda] at hasking
      cases hasking
  | cons job rest =>
      by_cases hworks : former.upkeep.running = true ∧ job.isDue (system.run actions).world.now = true
      · obtain ⟨hrunning, hdue⟩ := hworks
        rw [hagenda] at hasking
        have hreply : ∀ connection script function, job = .learn connection script →
            former.pool.options.discoveryFunction = some function → ¬NamesMembers
              ((system.run actions).world.answer connection (.call17 function (.array [])) script).2 :=
          fun connection script function hjob hfunction hnames =>
            hfails ⟨actions, [], former, connection, script, function, rfl, hformer,
              hjob ▸ dueJob?_of_work hformer hagenda hdue hrunning, hfunction, hnames⟩
        obtain ⟨hworld, ⟨cursor, hturned⟩, hlater⟩ := hasking.performed hreply
        obtain ⟨next, hnext, hpool, hrest⟩ := exists_act_of_work hformer hagenda hdue hrunning
        refine ⟨?_, next, cursor, hnext, hpool.trans hturned, hrest ▸ hlater⟩
        rw [cluster_act_of_work hformer hagenda hdue hrunning, hworld]
      · rw [act_of_idle (stepUpkeep_of_idle hformer hagenda hworks)]
        exact ⟨rfl, former, former.pool.topology.rw.cursor, hformer, rfl, Or.inr hasking⟩

/-- What remains of a discovery that comes to nothing: the worker asks or is done, and its pool has the
entries that it had. -/
def Wanting (system : System) (service : ServiceId) (before : Topology) (actions : List Action) :
    Prop :=
  ∃ former, (system.run actions).world.services[service]? = some former ∧
    (former.upkeep.agenda = [] ∨ Asking former.upkeep.agenda) ∧
    before.SameFiling former.pool.topology

theorem Wanting.asking (hwanting : system.Wanting service before actions)
    (hbusy : (system.run actions).agenda service ≠ []) :
    ∃ former, (system.run actions).world.services[service]? = some former ∧
      Asking former.upkeep.agenda ∧ before.SameFiling former.pool.topology := by
  obtain ⟨former, hformer, hstage, hfiling⟩ := hwanting
  rw [agenda_eq hformer] at hbusy
  exact ⟨former, hformer, hstage.resolve_left hbusy, hfiling⟩

theorem Wanting.act (hwanting : system.Wanting service before actions)
    (hbusy : (system.run actions).agenda service ≠ []) (action : Action)
    (hfails : ¬system.Learns service (actions ++ [action])) :
    system.Wanting service before (actions ++ [action]) := by
  obtain ⟨former, hformer, hasking, hfiling⟩ := hwanting.asking hbusy
  by_cases hown : action = .upkeep service
  · subst hown
    obtain ⟨-, next, cursor, hnext, hpool, hlater⟩ := asking_act hformer hasking hfails
    refine ⟨next, hnext, hlater, hfiling.trans ?_⟩
    rw [hpool]
    exact Pool.sameFiling_turned former.pool cursor
  · obtain ⟨next, hnext, hstep⟩ := stepped_act hformer action
    rw [← run_concat] at hnext
    refine ⟨next, hnext, ?_⟩
    rcases hstep with ⟨rfl, -⟩ | hstepped
    · exact ⟨Or.inr hasking, hfiling⟩
    · cases hstepped with
      | route mode => exact ⟨Or.inr hasking, hfiling.trans (Pool.sameFiling_resolve _ _ mode)⟩
      | disown => exact ⟨Or.inr hasking, hfiling⟩
      | shut hopen => exact ⟨Or.inr hasking, hfiling⟩
      | work hagenda hdue hrunning => exact absurd rfl hown
      | turn hagenda htakesUp => exact absurd rfl hown

/-- All through a run in which the worker learns of nobody, a discovery comes to nothing. -/
theorem Wanting.run {early late : List Action} (hwanting : system.Wanting service before [])
    (hfinishes : system.Finishes service (early ++ late))
    (hfails : ¬system.Learns service (early ++ late)) :
    system.Wanting service before early ∧ (system.run early).Finishes service late := by
  have hkept : ∀ actions action, (system.Learns service actions ∨ system.Wanting service before actions) →
      (system.run actions).agenda service ≠ [] →
        (system.Learns service (actions ++ [action]) ∨
          system.Wanting service before (actions ++ [action])) := by
    intro actions action hstage hbusy
    by_cases hlearns : system.Learns service (actions ++ [action])
    · exact Or.inl hlearns
    · have hwanting := hstage.resolve_left fun hearly => hlearns (hearly.append [action])
      exact Or.inr (hwanting.act hbusy action hlearns)
  have hbegins : (system.run []).Finishes service (early ++ late) := hfinishes
  obtain ⟨hstage, hlater⟩ := Finishes.keeps hkept (Or.inr hwanting) hbegins
  exact ⟨hstage.resolve_left fun hearly => hfails (hearly.append late), hlater⟩

/-- A discovery that comes to no members leaves everything as it was, but for the rotation of masters and
the time it took. If others act in the meantime, none of its pieces touches a connection, and the pool keeps
its addresses and its entries, in their order and under their roles. -/
theorem failed_discovery_harmless (hpresent : system.world.services[service]? = some present)
    (hagenda : present.upkeep.agenda = [.discover]) (hrunning : present.upkeep.running = true) :
    (¬system.world.Discovers present.pool → ∃ actions now cursor,
      (∀ action ∈ actions, action.Works service) ∧
        system.run actions =
          ⟨({ system.world with now } : World).setWork service (present.pool.turned cursor) [],
            system.calls⟩) ∧
    ∀ actions, system.Finishes service actions → ¬system.Learns service actions →
      (∀ early late, actions = early ++ .upkeep service :: late →
        ∃ former next cursor, (system.run early).world.services[service]? = some former ∧
          ((system.run early).act (.upkeep service)).world.services[service]? = some next ∧
          next.pool = former.pool.turned cursor ∧
          ((system.run early).act (.upkeep service)).world.cluster =
            (system.run early).world.cluster) ∧
      ∃ later, (system.run actions).world.services[service]? = some later ∧
        later.upkeep.agenda = [] ∧ present.pool.topology.SameFiling later.pool.topology := by
  constructor
  · intro hfails
    obtain ⟨now, cursor, hcarried⟩ := World.exists_carryOut_discover hfails
    have hself := World.setWork_self hpresent
    rw [hagenda] at hself
    obtain ⟨actions, hworks, hrun⟩ := World.exists_run_carryOut system.calls present.pool [.discover]
      hpresent hrunning
    rw [hself, hcarried] at hrun
    exact ⟨actions, now, cursor, hworks, hrun⟩
  · intro actions hfinishes hfails
    have hwanting : system.Wanting service present.pool.topology [] :=
      ⟨present, hpresent, Or.inr (hagenda ▸ .discover), rfl, fun _ => rfl, fun _ => rfl⟩
    constructor
    · rintro early late rfl
      obtain ⟨hearly, hbusy, -⟩ := hwanting.run hfinishes hfails
      obtain ⟨former, hformer, hasking, -⟩ := hearly.asking hbusy
      have hpiece : ¬system.Learns service (early ++ [.upkeep service]) := fun hlearns =>
        hfails (by simpa using hlearns.append late)
      obtain ⟨hcluster, next, cursor, hnext, hpool, -⟩ := asking_act hformer hasking hpiece
      rw [run_concat] at hcluster hnext
      exact ⟨former, next, cursor, hformer, hnext, hpool, hcluster⟩
    · rw [← List.append_nil actions] at hfinishes hfails
      obtain ⟨⟨later, hlater, -, hfiling⟩, hdone⟩ := hwanting.run hfinishes hfails
      exact ⟨later, hlater, (agenda_eq hlater).symm.trans hdone, hfiling⟩

/-- A run that is about to call a function whose first row names a replica, but whose second row holds a
number. -/
def blurredRun : List Action :=
  pairRun ++ [.change (.register "nodes" [.array [.string "127.0.0.1:3303"], .array [.integer 7]])]

theorem failed_discovery_harmless_blurred :
    ∃ present actions now cursor, (run {} blurredRun).world.services[0]? = some present ∧
      ((run {} blurredRun).run actions).world =
        ({ (run {} blurredRun).world with now } : World).setWork 0 (present.pool.turned cursor) [] := by
  have hservice : (run {} blurredRun).world.services[0]?.map (fun present =>
      (present.upkeep.running, present.pool.options.discoveryFunction,
        (present.pool.resolve (run {} blurredRun).world.isConnected .rw).1.toOption)) =
      some (true, some "nodes", some 0) := by
    decide +kernel
  obtain ⟨present, hpresent, hvalues⟩ := Option.map_eq_some_iff.mp hservice
  obtain ⟨hrunning, hvalues⟩ := Prod.mk.inj hvalues
  obtain ⟨hfunction, hpicked⟩ := Prod.mk.inj hvalues
  have hagenda : present.upkeep.agenda = [.discover] := (agenda_eq hpresent).symm
  have hfails : ¬(run {} blurredRun).world.Discovers present.pool := by
    rintro ⟨connection, function, hresolve, hnodes, hnames⟩
    rw [hresolve] at hpicked
    cases hpicked
    rw [hfunction] at hnodes
    cases hnodes
    exact not_namesMembers_of_error rfl hnames
  obtain ⟨actions, now, cursor, -, hrun⟩ :=
    (failed_discovery_harmless hpresent hagenda hrunning).1 hfails
  exact ⟨present, actions, now, cursor, hpresent, congrArg System.world hrun⟩

end System

end ReplicaPool
