import ReplicaPool.Proofs.Discovery.Inquiry

/-!
# Discovery reconciles exactly

A worker that discovers the members of a cluster leaves its pool with exactly these: addresses that stay
keep their entries, new ones get one if dialling and classifying them succeeds, and those that are gone
lose theirs.
Everybody else may act in the meantime, as long as nobody closes the pool.
-/

namespace ReplicaPool

namespace System

variable {system : System} {service : ServiceId} {present : Service} {before : Pool}
  {members : List String} {actions : List Action}

/-! ### A worker left to itself -/

theorem exists_finishes_carryOut {world : World} (calls : List Call) (pool : Pool)
    (agenda : List Job) (hpresent : world.services[service]? = some present)
    (hrunning : present.upkeep.running = true) :
    ∃ actions, (∀ action ∈ actions, action.Works service) ∧
      (System.mk (world.setWork service pool agenda) calls).Finishes service actions := by
  have hagenda : ∀ {world : World} {pool : Pool} {agenda : List Job},
      world.services[service]? = some present →
        (System.mk (world.setWork service pool agenda) calls).agenda service = agenda := by
    intro world pool agenda hpresent
    rw [System.agenda, World.getElem?_services_setWork hpresent]
  fun_induction World.carryOut world pool agenda with
  | case1 world pool => exact ⟨[], (fun _ hmem => absurd hmem List.not_mem_nil), hagenda hpresent⟩
  | case2 world pool job rest ih =>
      obtain ⟨duration, helapse, hupkeep⟩ :=
        World.exists_act_awaitDue calls pool rest hpresent hrunning
      have hawait := World.services_awaitDue world job
      have hservices := (World.touched_perform (world.awaitDue job) pool job).services_eq.trans hawait
      obtain ⟨actions, hworks, hfinishes⟩ := ih (hservices.symm ▸ hpresent)
      refine ⟨.elapse duration :: .upkeep service :: actions, ?_, ?_, ?_, ?_⟩
      · simp only [List.forall_mem_cons]
        exact ⟨.elapse duration, .upkeep, hworks⟩
      · rw [hagenda hpresent]
        exact List.cons_ne_nil _ _
      · rw [helapse, hagenda (hawait.symm ▸ hpresent)]
        exact List.cons_ne_nil _ _
      · rw [helapse, hupkeep]
        exact hfinishes

theorem exists_finishes (hpresent : system.world.services[service]? = some present)
    (hrunning : present.upkeep.running = true) :
    ∃ actions, (∀ action ∈ actions, action.Works service) ∧ system.Finishes service actions := by
  have hfinishes := exists_finishes_carryOut system.calls present.pool present.upkeep.agenda
    hpresent hrunning
  rwa [World.setWork_self hpresent] at hfinishes

/-! ### Any run -/

/-- A worker that knows the members is reconciling them, or it is done; or the pool was closed. -/
def Reconciles (system : System) (service : ServiceId) (before : Pool) (members : List String)
    (actions : List Action) : Prop :=
  ∃ present, (system.run actions).world.services[service]? = some present ∧
    (present.pool.isClosed = true ∨
      (present.pool.queue = before.queue ∧
        ((present.upkeep.agenda = [] ∧
            Reconciled (system.chronicle service before.queue actions)
              (system.run actions).world.cluster before present.pool members) ∨
          ∃ fresh gone focus, present.upkeep.agenda = focus ++ [.reconcile fresh gone members] ∧
            Reconciling (system.chronicle service before.queue actions)
              (system.run actions).world.cluster before present.pool members fresh gone focus)))

theorem Reconciles.act (hreachable : system.Reachable) (hbefore : before.Sound system.world.cluster)
    (action : Action) (hreconciles : system.Reconciles service before members actions)
    (hbusy : (system.run actions).agenda service ≠ []) :
    system.Reconciles service before members (actions ++ [action]) := by
  obtain ⟨present, hpresent, hstage⟩ := hreconciles
  rw [agenda_eq hpresent] at hbusy
  have hsound := (hreachable.run actions).sound
  have hevolves := evolves_run system actions
  obtain ⟨next, hnext, hstep⟩ := busy_act (hreachable.run actions) hpresent hbusy action
  rw [← run_concat] at hnext
  refine ⟨next, hnext, ?_⟩
  rcases hstage with hclosed | ⟨hqueue, hstage⟩
  · rcases hstep with ⟨job, rest, -, -, -, -, hpool, -⟩ | ⟨-, -, hshut | hsame⟩
    · rw [hpool, (World.sectioned_perform _ _ _).isClosed_eq]
      exact Or.inl hclosed
    · exact Or.inl hshut
    · rw [hsame.isClosed_eq]
      exact Or.inl hclosed
  obtain ⟨fresh, gone, focus, hfocus, hreconciling⟩ := hstage.resolve_left fun hdone =>
    hbusy hdone.1
  rcases hstep with ⟨job, rest, rfl, hagenda, hdue, hrunning, hpool, hlater⟩ |
    ⟨hquiet, hlater, hshut | hsame⟩
  · have hsectioned := World.sectioned_perform (system.run actions).world present.pool job
    rw [hpool, hlater, hsectioned.isClosed_eq, hsectioned.queue_eq, run_concat,
      cluster_act_of_work hpresent hagenda hdue hrunning]
    cases hopen : present.pool.isClosed with
    | true => exact Or.inl rfl
    | false =>
        have hupkeep := hsound.upkeep hpresent
        have hextends := chronicle_extends hreachable hpresent hagenda hdue hrunning
        rw [hagenda] at hupkeep hfocus
        rw [hqueue] at hextends
        exact Or.inr ⟨hqueue, hreconciling.perform hupkeep hopen (hbefore.evolves hevolves) hextends
          hfocus⟩
  · exact Or.inl hshut
  · have hlookup := hsame.lookup?_eq (hsound.pool_sound hpresent).consistent
      ((hreachable.run _).sound.pool_sound hnext).consistent
    have hact := evolves_act (system.run actions) action
    rw [← run_concat] at hact
    rw [hqueue] at hquiet
    rw [hlater]
    refine Or.inr ⟨by rw [hsame.rest, hqueue], Or.inr ⟨fresh, gone, focus, hfocus, ?_⟩⟩
    exact hreconciling.congr (hbefore.evolves hevolves) hact hsame.addrs hlookup hsame.members
      (agrees_of_quiet hquiet)

/-- The reply tells a worker what to do. -/
theorem Inquires.learn {connection : ConnectionId} {script : Script} {function : String}
    {names : List String} {others : List (List String)} (hreachable : system.Reachable)
    (hbefore : before.Sound system.world.cluster)
    (hconfined : before.isClosed = false → ∀ addr entry,
      before.topology.lookup? addr = some entry → addr ∈ before.topology.addrs)
    (hinquires : system.Inquires service before actions)
    (hlearn : (system.run actions).world.dueJob? service = some (.learn connection script))
    (hfunction : before.options.discoveryFunction = some function)
    (hreply : ((system.run actions).world.answer connection (.call17 function (.array []))
      script).2 = .ok ((names :: others).map fun row => .array (row.map .string)))
    (hnames : names ≠ []) :
    system.Reconciles service before names.eraseDups (actions ++ [.upkeep service]) := by
  obtain ⟨present, hpresent, hstage⟩ := hinquires
  obtain ⟨other, rest, hother, hagenda, hdue, hrunning⟩ := exists_of_dueJob? hlearn
  rw [hpresent] at hother
  cases hother
  obtain ⟨next, hnext, hpool, hlater⟩ := exists_act_of_work hpresent hagenda hdue hrunning
  rw [← run_concat] at hnext
  have hsectioned := World.sectioned_perform (system.run actions).world present.pool
    (.learn connection script)
  refine ⟨next, hnext, ?_⟩
  rw [hpool, hlater, hsectioned.isClosed_eq, hsectioned.queue_eq]
  cases hopen : present.pool.isClosed with
  | true => exact Or.inl rfl
  | false =>
      rw [hopen, hagenda] at hstage
      obtain ⟨hasking, hsame, hunmade⟩ : Asking (.learn connection script :: rest) ∧ _ :=
        (hstage.resolve_left Bool.false_ne_true).resolve_left fun hknows =>
          Bool.false_ne_true (hknows _ List.mem_cons_self).symm
      cases hasking
      have hqueue : present.pool.queue = before.queue := by rw [hsame.rest]
      have hoptions : present.pool.options.discoveryFunction = some function := by
        rw [hsame.rest, hfunction]
      have hextends := chronicle_extends hreachable hpresent hagenda hdue hrunning
      rw [hqueue] at hextends
      have hperform : ((system.run actions).world.perform present.pool
          (.learn connection script)).2 = (present.pool,
            present.pool.topology.reconciliation names.eraseDups) := by
        simp only [World.perform, hoptions, hreply, Topology.onReply, membersOfReply_names]
      have hsome : names.eraseDups.isEmpty = false := by
        obtain ⟨name, rest, rfl⟩ := List.exists_cons_of_ne_nil hnames
        rw [List.eraseDups_cons]
        rfl
      rw [hperform, Topology.reconciliation, hsome, if_neg Bool.false_ne_true]
      refine Or.inr ⟨hqueue, Or.inr ⟨_, _, [], rfl, ?_⟩⟩
      refine .begin hsame hbefore.consistent
        ((hreachable.run actions).sound.pool_sound hpresent).consistent ?_ ?_ ?_
      · rw [← distinct_eq_eraseDups]
        exact distinct_nodup names
      · refine hconfined ?_
        rw [← hsame.isClosed_eq, hopen]
      · intro addr found hmade
        rcases hextends.made.mp hmade with hbefore | ⟨purpose, hjob, -⟩
        · exact hunmade addr found hbefore
        · cases hjob

/-- A worker that is about to discover the members comes to an end if it is left to itself. Whatever else
happens until then, if the reply is rows of names, of which the first has some, and the pool is open in
the end, its addresses are reconciled with the names of that row, each where it occurs first. -/
theorem discovery_exact (hreachable : system.Reachable)
    (hpresent : system.world.services[service]? = some present)
    (hdiscover : system.world.dueJob? service = some .discover) :
    (∃ actions, (∀ action ∈ actions, action.Works service) ∧ system.Finishes service actions) ∧
      ∀ (early late : List Action) (connection : ConnectionId) (script : Script)
        (function : String) (names : List String) (others : List (List String)) (after : Service),
        system.Finishes service (early ++ .upkeep service :: late) →
        (system.run early).world.dueJob? service = some (.learn connection script) →
        present.pool.options.discoveryFunction = some function →
        ((system.run early).world.answer connection (.call17 function (.array [])) script).2 =
          .ok ((names :: others).map fun row => .array (row.map .string)) →
        names ≠ [] →
        (system.run (early ++ .upkeep service :: late)).world.services[service]? = some after →
        after.pool.isClosed = false →
          Reconciled
            (system.chronicle service present.pool.queue (early ++ .upkeep service :: late))
            (system.run (early ++ .upkeep service :: late)).world.cluster present.pool after.pool
            names.eraseDups := by
  obtain ⟨other, rest, hother, hagenda, -, hrunning⟩ := exists_of_dueJob? hdiscover
  rw [hpresent] at hother
  cases hother
  refine ⟨exists_finishes hpresent hrunning, ?_⟩
  intro early late connection script function names others after hfinishes hlearn hfunction hreply
    hnames hafter hopen
  have hbefore := hreachable.sound.pool_sound hpresent
  have hmanaged : present.pool.isClosed = false → ∀ addr entry,
      present.pool.topology.lookup? addr = some entry → addr ∈ present.pool.topology.addrs :=
    fun hstill => (hreachable.managed_of_discover hpresent hagenda hstill).2
  -- Until the reply is there, nothing happens to the pool.
  have hasks : ∀ actions action, system.Inquires service present.pool actions →
      (system.run actions).agenda service ≠ [] →
        system.Inquires service present.pool (actions ++ [action]) :=
    fun _ action hinquires => hinquires.act hreachable action
  obtain ⟨hinquires, -, hlater⟩ :=
    Finishes.keeps hasks (.begin hreachable hpresent hagenda) hfinishes
  -- From then on the worker reconciles the members with the pool.
  have hreconciles := hinquires.learn hreachable hbefore hmanaged hlearn hfunction hreply hnames
  have hworks : ∀ actions action, system.Reconciles service present.pool names.eraseDups actions →
      (system.run actions).agenda service ≠ [] →
        system.Reconciles service present.pool names.eraseDups (actions ++ [action]) :=
    fun _ action hreconciles => hreconciles.act hreachable hbefore action
  rw [← List.append_nil late, List.nil_append, ← run_concat] at hlater
  obtain ⟨⟨last, hlast, hdone⟩, hidle⟩ := Finishes.keeps hworks hreconciles hlater
  rw [List.nil_append, List.append_assoc, List.singleton_append] at hlast hdone hidle
  rw [hafter] at hlast
  cases hlast
  rw [hopen] at hdone
  have hrests : after.upkeep.agenda = [] := (agenda_eq hafter).symm.trans hidle
  obtain ⟨-, ⟨-, hreconciled⟩ | ⟨fresh, gone, focus, hfocus, -⟩⟩ :=
    hdone.resolve_left Bool.false_ne_true
  · exact hreconciled
  · rw [hfocus] at hrests
    exact absurd hrests (List.append_ne_nil_of_right_ne_nil _ (List.cons_ne_nil _ _))

/-- A run that builds a pool on a master and one of its two replicas, and then is about to call a function
which names the master twice and the other replica once. -/
def pairRun : List Action :=
  [.change (.addNode "127.0.0.1:3301" false), .change (.addNode "127.0.0.1:3302" true),
    .change (.addNode "127.0.0.1:3303" true),
    .change (.register "nodes" [.array (["127.0.0.1:3301", "127.0.0.1:3303", "127.0.0.1:3301"].map
      .string)]),
    .prepare ["127.0.0.1:3301", "127.0.0.1:3302"] { discoveryFunction := some "nodes" },
    .advance 0 0, .advance 0 0, .advance 0 1, .advance 0 1] ++
  List.replicate 4 (.advance 0 0) ++ [.elapse 60000] ++ List.replicate 3 (.upkeep 0)

/-- The rest of the discovery, in which the other replica becomes a master before it is classified. -/
def renewal : List Action :=
  [.resolve 0 .rw, .change (.setReadOnly 2 false)] ++ List.replicate 9 (.upkeep 0)

theorem discovery_exact_pair :
    ∃ present after, (run {} pairRun).world.services[0]? = some present ∧
      ((run {} pairRun).run ([.upkeep 0] ++ .upkeep 0 :: renewal)).world.services[0]? = some after ∧
      after.pool.topology.addrs = ["127.0.0.1:3301", "127.0.0.1:3303"] ∧
      after.pool.topology.lookup? "127.0.0.1:3301" =
        present.pool.topology.lookup? "127.0.0.1:3301" ∧
      after.pool.topology.lookup? "127.0.0.1:3302" = none ∧
      after.pool.topology.lookup? "127.0.0.1:3303" = some (2, .master) ∧
      ((run {} pairRun).chronicle 0 present.pool.queue
        ([.upkeep 0] ++ .upkeep 0 :: renewal)).Judged "127.0.0.1:3303" 2 (.ok .master) := by
  have hbefore : (run {} pairRun).world.services[0]?.map (fun present =>
      (present.pool.options.discoveryFunction, present.pool.topology.addrs)) =
      some (some "nodes", ["127.0.0.1:3301", "127.0.0.1:3302"]) := by
    decide +kernel
  have hafter : ((run {} pairRun).run ([.upkeep 0] ++ .upkeep 0 :: renewal)).world.services[0]?.map
      (fun after => (after.pool.isClosed, after.pool.topology.lookup? "127.0.0.1:3303")) =
      some (false, some (2, .master)) := by
    decide +kernel
  obtain ⟨present, hpresent, hvalues⟩ := Option.map_eq_some_iff.mp hbefore
  obtain ⟨hfunction, haddrs⟩ := Prod.mk.inj hvalues
  obtain ⟨after, hlast, hvalues⟩ := Option.map_eq_some_iff.mp hafter
  obtain ⟨hopen, hfiled⟩ := Prod.mk.inj hvalues
  have hfinishes : (run {} pairRun).Finishes 0 ([.upkeep 0] ++ .upkeep 0 :: renewal) := by
    decide +kernel
  have hreconciled := (discovery_exact ⟨pairRun, rfl⟩ hpresent rfl).2 [.upkeep 0] renewal 0 {}
    "nodes" ["127.0.0.1:3301", "127.0.0.1:3303", "127.0.0.1:3301"] [] after hfinishes rfl hfunction
    rfl (List.cons_ne_nil _ _) hlast hopen
  have hnames : ["127.0.0.1:3301", "127.0.0.1:3303", "127.0.0.1:3301"].eraseDups =
      ["127.0.0.1:3301", "127.0.0.1:3303"] := by
    decide
  rw [hnames] at hreconciled
  refine ⟨present, after, hpresent, hlast, hreconciled.addrs_eq, ?_, ?_, hfiled, ?_⟩
  · exact hreconciled.kept _ (by simp [haddrs]) (by simp)
  · exact (hreconciled.gone _ (by simp [haddrs]) (by simp)).1
  · cases hreconciled.fresh "127.0.0.1:3303" (by simp) (by simp [haddrs]) with
    | unreached _ huntried =>
        have habsent := huntried.absent
        rw [hfiled] at habsent
        cases habsent
    | rejected _ habsent _ =>
        rw [hfiled] at habsent
        cases habsent
    | admitted _ hentry hjudged =>
        rw [hfiled] at hentry
        cases hentry
        exact hjudged

end System

end ReplicaPool
