import ReplicaPool.Proofs.System.Invariant
import ReplicaPool.Session.Pooled

/-!
# Sessions are runs

Whatever a session does to its world is a run of a system, so all that holds of reachable systems holds in
every session. `World.Becomes` is a run that leaves the calls alone; `World.LeadsTo` is one that may add
calls of its own.
-/

namespace ReplicaPool

open ReplicaPool.System (run_cons run_append)

namespace World

variable {world middle later : World}

def Becomes (world later : World) : Prop :=
  ∃ actions, ∀ calls, (System.mk world calls).run actions = ⟨later, calls⟩

def LeadsTo (world later : World) : Prop :=
  ∀ calls, ∃ actions own, (System.mk world calls).run actions = ⟨later, calls ++ own⟩

theorem Becomes.refl (world : World) : world.Becomes world :=
  ⟨[], fun _ => rfl⟩

theorem Becomes.trans (hfirst : world.Becomes middle) (hsecond : middle.Becomes later) :
    world.Becomes later := by
  obtain ⟨early, hearly⟩ := hfirst
  obtain ⟨late, hlate⟩ := hsecond
  refine ⟨early ++ late, fun calls => ?_⟩
  rw [run_append, hearly, hlate]

theorem becomes_act (action : Action)
    (haction : ∀ calls, (System.mk world calls).act action = ⟨later, calls⟩) :
    world.Becomes later :=
  ⟨[action], haction⟩

theorem Becomes.leadsTo (hbecomes : world.Becomes later) : world.LeadsTo later := by
  obtain ⟨actions, hactions⟩ := hbecomes
  exact fun calls => ⟨actions, [], (hactions calls).trans (by rw [List.append_nil])⟩

theorem LeadsTo.trans (hfirst : world.LeadsTo middle) (hsecond : middle.LeadsTo later) :
    world.LeadsTo later := by
  intro calls
  obtain ⟨early, first, hearly⟩ := hfirst calls
  obtain ⟨late, second, hlate⟩ := hsecond (calls ++ first)
  refine ⟨early ++ late, first ++ second, ?_⟩
  rw [run_append, hearly, hlate, List.append_assoc]

/-! ### Upkeep and time -/

theorem becomes_stepUpkeep {service : ServiceId} (hstep : world.stepUpkeep service = some later) :
    world.Becomes later :=
  becomes_act (.upkeep service) fun calls => by simp only [System.act, hstep, Option.getD_some]

theorem reap_eq_with (world : World) (service : ServiceId) :
    world.reap service = { world with cluster := (world.reap service).cluster } := by
  unfold reap
  split
  · split <;> rfl
  · rfl

/-- Upkeep has to do with the cluster and with pools, and with nothing else. -/
theorem stepUpkeep_eq_with {service : ServiceId} (hstep : world.stepUpkeep service = some later) :
    later = { world with cluster := later.cluster, services := later.services } := by
  obtain ⟨present, hpresent, hkind⟩ := stepUpkeep_some hstep
  cases hkind with
  | @work job rest hagenda hdue =>
      have htouched := touched_perform world present.pool job
      rw [setWork, modifyService, htouched.eq_with]
  | finish hagenda hover =>
      simp only [endUpkeep, hpresent]
      rw [reap_eq_with]
      rfl
  | hear hagenda hopen => rfl
  | discover hagenda hopen => rfl
  | refresh hagenda hopen => rfl

theorem now_stepUpkeep {service : ServiceId} (hstep : world.stepUpkeep service = some later) :
    later.now = world.now := by
  rw [stepUpkeep_eq_with hstep]

theorem scripts_stepUpkeep {service : ServiceId} (hstep : world.stepUpkeep service = some later) :
    later.scripts = world.scripts := by
  rw [stepUpkeep_eq_with hstep]

/-- What every piece of upkeep keeps is kept until no upkeep can go on. -/
theorem settle_induct {property : World → Prop} (hworld : property world)
    (hstep : ∀ middle later service, property middle → middle.stepUpkeep service = some later →
      property later) : property world.settle := by
  have hrun : ∀ service fuel start, property start → property (runUpkeep service fuel start) := by
    intro service fuel
    induction fuel with
    | zero => exact fun start hstart => hstart
    | succ fuel ih =>
        intro start hstart
        unfold runUpkeep
        split
        · rename_i next hnext
          exact ih next (hstep start next service hstart hnext)
        · exact hstart
  have hfold : ∀ (services : List ServiceId) start, property start →
      property (services.foldl (fun world service => runUpkeep service stepLimit world) start) := by
    intro services
    induction services with
    | nil => exact fun start hstart => hstart
    | cons service rest ih => exact fun start hstart => ih _ (hrun service stepLimit start hstart)
  exact hfold _ world hworld

theorem becomes_settle (world : World) :
    world.Becomes world.settle ∧ world.settle.now = world.now := by
  refine @settle_induct world (fun later => world.Becomes later ∧ later.now = world.now)
    ⟨.refl world, rfl⟩ ?_
  rintro middle later service ⟨hbecomes, hnow⟩ hstep
  exact ⟨hbecomes.trans (becomes_stepUpkeep hstep), (now_stepUpkeep hstep).trans hnow⟩

theorem becomes_setNow {time : Nat} (hle : world.now ≤ time) :
    world.Becomes { world with now := time } :=
  becomes_act (.elapse (time - world.now)) fun calls => by
    simp only [System.act, Nat.add_sub_cancel' hle]

theorem becomes_passUntil (world : World) (time target : Nat) (hnow : world.now ≤ time)
    (htime : time ≤ target) : world.Becomes (world.passUntil time target) := by
  unfold passUntil
  dsimp only
  obtain ⟨hsettle, hsettled⟩ := becomes_settle { world with now := time }
  have hbegin := (becomes_setNow hnow).trans hsettle
  have hend : world.Becomes { ({ world with now := time } : World).settle with now := target } := by
    refine hbegin.trans (becomes_setNow ?_)
    rw [hsettled]
    exact htime
  split
  · rename_i due hdue
    split
    · rename_i hbetween
      refine hbegin.trans (becomes_passUntil _ due target ?_ (Nat.le_of_lt hbetween.2))
      rw [hsettled]
      exact Nat.le_of_lt hbetween.1
    · exact hend
  · exact hend
termination_by target - time

theorem becomes_await (world : World) (duration : Nat) : world.Becomes (world.await duration) := by
  unfold await
  split
  · exact .refl world
  · exact becomes_passUntil world _ _ (Nat.le_refl _) (Nat.le_add_right _ _)

theorem becomes_sleep (world : World) (duration : Nat) : world.Becomes (world.sleep duration) :=
  (becomes_passUntil world _ _ (Nat.le_refl _) (Nat.le_add_right _ _)).trans (becomes_settle _).1

/-! ### Operations -/

theorem becomes_resolve (world : World) (service : ServiceId) (mode : Mode) :
    world.Becomes (world.resolve service mode).2 :=
  becomes_act (.resolve service mode) fun _ => rfl

theorem becomes_answer (world : World) (connection : ConnectionId) (request : Request)
    (script : Script) : world.Becomes (world.answer connection request script).1 := by
  rcases answer_eq world connection request script with hsame | hexecute
  · rw [hsame]
    exact .refl world
  · rw [hexecute]
    exact becomes_act (.execute connection request) fun _ => rfl

theorem becomes_request (world : World) (service : ServiceId) (operation : Operation) :
    world.Becomes (world.request service operation).1 := by
  unfold request
  split
  · exact .refl world
  · rename_i mode hmode
    have hresolve := becomes_resolve world service mode
    split
    · rename_i cause moved hresult
      rwa [hresult] at hresolve
    · rename_i connection moved hresult
      rw [hresult] at hresolve
      exact hresolve.trans ((becomes_await _ _).trans (becomes_answer _ _ _ _))

theorem becomes_route (world : World) (service : ServiceId) (place : Nat) (operation : Operation)
    (issued : Issued) : world.Becomes (world.route service place operation issued).1 := by
  unfold route
  split
  · exact .refl world
  · rename_i mode hmode
    have hresolve := becomes_resolve world service mode
    split
    · rename_i cause moved hresult
      rwa [hresult] at hresolve
    · rename_i connection moved hresult
      rw [hresult] at hresolve
      dsimp only
      split
      · exact hresolve.trans (becomes_answer _ _ _ _)
      · exact hresolve

theorem becomes_routeAll (service : ServiceId) (operations : List Operation) :
    ∀ (world : World) (place : Nat) (issued : Issued),
      world.Becomes (world.routeAll service place operations issued).1 := by
  induction operations with
  | nil => exact fun world _ _ => .refl world
  | cons operation rest ih =>
      exact fun world place issued => (becomes_route world service place operation issued).trans
        (ih _ _ _)

theorem becomes_answerPending (pending : List Pending) :
    ∀ (world : World) (answered : List (Nat × Except PoolError (List Json))),
      world.Becomes (world.answerPending pending answered).1 := by
  induction pending with
  | nil => exact fun world _ => .refl world
  | cons first rest ih =>
      exact fun world answered =>
        ((becomes_await _ _).trans (becomes_answer _ _ _ _)).trans (ih _ _)

theorem becomes_answerAll (world : World) (service : ServiceId) (operations : List Operation) :
    world.Becomes (world.answerAll service operations).1 :=
  (becomes_routeAll service operations world 0 {}).trans (becomes_answerPending _ _ _)

theorem becomes_turn (world : World) (operations : List Operation) :
    world.Becomes (world.turn operations) := by
  unfold turn
  split
  · exact (becomes_settle world).1
  · exact .refl world

theorem becomes_requestAll (world : World) (service : ServiceId) (operations : List Operation) :
    world.Becomes (world.requestAll service operations).1 :=
  (becomes_turn world operations).trans (becomes_answerAll _ service operations)

theorem becomes_connectedNow (world : World) (service : ServiceId) (mode : Mode) :
    world.Becomes (world.connectedNow service mode).1 := by
  have hresolve := becomes_resolve world service mode
  unfold connectedNow
  split <;> (rename_i hresult; rwa [hresult] at hresolve)

theorem becomes_configuredTimeout (world : World) (service : ServiceId) (mode : Mode) :
    world.Becomes (world.configuredTimeout service mode).1 := by
  have hresolve := becomes_resolve world service mode
  unfold configuredTimeout
  split <;> (rename_i hresult; rwa [hresult] at hresolve)

theorem becomes_disown (world : World) (service : ServiceId) :
    world.Becomes (world.disown service) :=
  becomes_act (.disown service) fun _ => rfl

/-! ### Building and closing -/

theorem act_advance (calls : List Call) (call : Call) (place : Nat) {next : Call}
    (hadvance : call.advance world place = (later, next)) :
    (System.mk world (calls ++ [call])).act (.advance calls.length place) =
      ⟨later, calls ++ [next]⟩ := by
  simp only [System.act, List.getElem?_concat_length, hadvance, List.set_append_right _ _
    (Nat.le_refl _), Nat.sub_self, List.set_cons_zero]

/-- The attempts at all addresses, one after the other, are one way to interleave them. -/
theorem run_attemptAll (pool : Pool) (calls : List Call) (addrs : List String) :
    ∀ (world : World) (past : List Attempt), ∃ actions,
      (System.mk world (calls ++ [.reach pool (past.map .finished ++ addrs.map .waiting)])).run actions =
        ⟨(world.attemptAll pool.queue pool.options.probeTimeout addrs).1,
          calls ++ [.reach pool ((past ++
            (world.attemptAll pool.queue pool.options.probeTimeout addrs).2).map .finished)]⟩ := by
  induction addrs with
  | nil =>
      intro world past
      exact ⟨[], by simp [attemptAll, System.run]⟩
  | cons addr rest ih =>
      intro world past
      have hplace : ∀ slot : Slot, (past.map Slot.finished ++ slot :: rest.map .waiting)[past.length]? =
          some slot := by
        intro slot
        rw [List.getElem?_append_right (by simp)]
        simp
      have hset : ∀ slot next : Slot,
          (past.map Slot.finished ++ slot :: rest.map .waiting).set past.length next =
            past.map Slot.finished ++ next :: rest.map .waiting := by
        intro slot next
        rw [List.set_append_right _ _ (by simp)]
        simp
      have hadvance : ∀ (before : World) (slot : Slot), slot.attempt?.isSome = false →
          (Call.reach pool (past.map Slot.finished ++ slot :: rest.map .waiting)).advance before
            past.length = ((slot.advance before pool).1,
              .reach pool (past.map Slot.finished ++ (slot.advance before pool).2 ::
                rest.map .waiting)) := by
        intro before slot hgoes
        simp only [Call.advance, List.all_append, List.all_cons, hgoes, Bool.false_and,
          Bool.and_false, Bool.false_eq_true, if_false, hplace, hset]
      have hattempt : ∃ actions,
          (System.mk world (calls ++
            [.reach pool (past.map .finished ++ .waiting addr :: rest.map .waiting)])).run actions =
          ⟨(world.attempt pool.queue pool.options.probeTimeout addr).1, calls ++
            [.reach pool ((past ++ [(world.attempt pool.queue pool.options.probeTimeout addr).2]).map
              .finished ++ rest.map .waiting)]⟩ := by
        have hfirst := act_advance calls _ past.length
          (hadvance world (.waiting addr) rfl)
        unfold attempt
        rcases hbegin : world.beginAttempt pool.queue pool.options.probeTimeout addr with
          ⟨begun, attempt | ⟨connection, elapsed⟩⟩
        · refine ⟨[.advance calls.length past.length], ?_⟩
          rw [run_cons, hfirst]
          simp [Slot.advance, hbegin, System.run]
        · have hsecond := act_advance calls _ past.length
            (hadvance begun (.dialled addr connection elapsed) rfl)
          refine ⟨[.advance calls.length past.length, .advance calls.length past.length], ?_⟩
          simp only [Slot.advance, hbegin] at hfirst hsecond
          rw [run_cons, hfirst, run_cons, hsecond]
          simp [System.run]
      obtain ⟨first, hfirst⟩ := hattempt
      obtain ⟨others, hothers⟩ :=
        ih (world.attempt pool.queue pool.options.probeTimeout addr).1
          (past ++ [(world.attempt pool.queue pool.options.probeTimeout addr).2])
      refine ⟨first ++ others, ?_⟩
      rw [List.map_cons, run_append, hfirst, hothers]
      simp [attemptAll]

theorem run_fill (world : World) (calls : List Call) (attempts : List Attempt) :
    ∀ (pool : Pool) (somebodyAlive : Bool), ∃ actions,
      (System.mk world (calls ++ [.fill pool somebodyAlive attempts])).run actions =
        ⟨world, calls ++ [.fill (attempts.foldl world.fileAttempt (pool, somebodyAlive)).1
          (attempts.foldl world.fileAttempt (pool, somebodyAlive)).2 []]⟩ := by
  induction attempts with
  | nil => exact fun _ _ => ⟨[], rfl⟩
  | cons attempt rest ih =>
      intro pool somebodyAlive
      obtain ⟨actions, hactions⟩ := ih (world.fileAttempt (pool, somebodyAlive) attempt).1
        (world.fileAttempt (pool, somebodyAlive) attempt).2
      refine ⟨.advance calls.length 0 :: actions, ?_⟩
      rw [run_cons, act_advance calls (.fill pool somebodyAlive (attempt :: rest)) 0 rfl]
      exact hactions

theorem leadsTo_connect (world : World) (addrs : List String) (options : PoolOptions) :
    world.LeadsTo (world.connect addrs options).1 := by
  unfold connect
  split
  · exact (Becomes.refl world).leadsTo
  · rename_i begun pool hprepare
    intro calls
    dsimp only
    have hbegin : (System.mk world calls).act (.prepare addrs options) =
        ⟨begun, calls ++ [.reach pool (pool.topology.addrs.map .waiting)]⟩ := by
      simp only [System.act, hprepare]
    obtain ⟨reaching, hreaching⟩ := run_attemptAll pool calls pool.topology.addrs begun []
    rcases hattempts : begun.attemptAll pool.queue pool.options.probeTimeout pool.topology.addrs with
      ⟨reached, attempts⟩
    simp only [hattempts, List.map_nil, List.nil_append] at hreaching
    have hreached : (Call.reach pool (attempts.map .finished)).advance reached 0 =
        (reached, .fill pool false attempts) := by
      have hover : (attempts.map Slot.finished).all (fun slot => slot.attempt?.isSome) = true := by
        simp [Slot.attempt?]
      have hall : (attempts.map Slot.finished).filterMap Slot.attempt? = attempts := by
        simp [List.filterMap_map, Function.comp_def, Slot.attempt?]
      simp only [Call.advance, hover, if_true, hall]
    let ready := reached.await ((attempts.map Attempt.elapsed).foldl max 0)
    let filled := attempts.foldl ready.fileAttempt (pool, false)
    obtain ⟨waiting, hwaiting⟩ : reached.Becomes ready := becomes_await reached _
    obtain ⟨filling, hfilling⟩ := run_fill ready calls attempts pool false
    refine ⟨.prepare addrs options :: (reaching ++ .advance calls.length 0 :: (waiting ++
      (filling ++ [.advance calls.length 0]))),
      [.built filled.1.queue (ready.launch filled.1 filled.2).2], ?_⟩
    rw [run_cons, hbegin, run_append, hreaching, run_cons, act_advance calls _ 0 hreached,
      run_append, hwaiting, run_append, hfilling]
    exact act_advance calls (.fill filled.1 filled.2 []) 0 rfl

theorem run_close (service : ServiceId) (calls : List Call) (pending : List ConnectionId) :
    ∀ (world : World) (complaints : List PoolError), ∃ actions complaints',
      (System.mk world (calls ++ [.close service pending complaints])).run actions =
        ⟨{ world with cluster := world.cluster.closeEach pending },
          calls ++ [.closed service complaints']⟩ := by
  induction pending with
  | nil =>
      intro world complaints
      refine ⟨[.advance calls.length 0], complaints, ?_⟩
      exact act_advance calls _ 0 rfl
  | cons connection rest ih =>
      intro world complaints
      obtain ⟨actions, complaints', hactions⟩ := ih (world.close connection).1
        (complaints ++ (world.close connection).2.toList.map .connection)
      refine ⟨.advance calls.length 0 :: actions, complaints', ?_⟩
      rw [run_cons, act_advance calls (.close service (connection :: rest) complaints) 0 rfl]
      exact hactions

theorem leadsTo_closePool (world : World) (service : ServiceId) :
    world.LeadsTo (world.closePool service).2 := by
  cases hpresent : world.services[service]? with
  | none =>
      simp only [closePool, shutPool, hpresent, Bool.false_eq_true, if_false]
      exact (Becomes.refl world).leadsTo
  | some present =>
      intro calls
      cases hclosed : present.pool.isClosed with
      | true =>
          refine ⟨[.shut service], [.closed service []], ?_⟩
          simp [System.run, System.act, closePool, shutPool, hpresent, Pool.shut, hclosed]
      | false =>
          let shut := world.setPool service { present.pool with isClosed := true }
          obtain ⟨actions, complaints, hactions⟩ :=
            run_close service calls present.pool.topology.connections shut []
          refine ⟨.shut service :: actions, [.closed service complaints], ?_⟩
          have hshut : shut.services[service]? =
              some { present with pool := { present.pool with isClosed := true } } :=
            getElem?_modifyService hpresent _
          have hact : (System.mk world calls).act (.shut service) =
              ⟨shut, calls ++ [.close service present.pool.topology.connections []]⟩ := by
            simp [System.act, shutPool, hpresent, Pool.shut, hclosed, shut]
          rw [run_cons, hact, hactions]
          simp only [closePool, shutPool, hpresent, Pool.shut, hclosed, Bool.false_eq_true,
            if_false, if_true, closeMembers]
          rw [show (world.setPool service { present.pool with isClosed := true }) = shut from rfl,
            hshut]
          simp only [closeConnections_snd]

/-! ### Commands -/

theorem becomes_change (world : World) (change : ClusterChange) :
    world.Becomes { world with cluster := world.cluster.change change } :=
  becomes_act (.change change) fun _ => rfl

theorem onNode_fst (cluster : Cluster) (addr : String) (change : Cluster → NodeId → Cluster)
    (report : Cluster → NodeId → Node → ClusterReply) :
    (cluster.onNode addr change report).1 = cluster ∨
      ∃ node, (cluster.onNode addr change report).1 = change cluster node := by
  unfold Cluster.onNode
  split
  · exact Or.inl rfl
  · rename_i node hnode
    dsimp only
    split <;> exact Or.inr ⟨node, rfl⟩

theorem becomes_onNode (world : World) (addr : String) (change : Cluster → NodeId → Cluster)
    (report : Cluster → NodeId → Node → ClusterReply)
    (hchange : ∀ node, world.Becomes { world with cluster := change world.cluster node }) :
    world.Becomes { world with cluster := (world.cluster.onNode addr change report).1 } := by
  rcases onNode_fst world.cluster addr change report with hsame | ⟨node, hnode⟩
  · rw [hsame]
    exact .refl world
  · rw [hnode]
    exact hchange node

theorem becomes_steer (world : World) (command : ClusterCommand) :
    world.Becomes { world with cluster := (world.cluster.steer command).1 } := by
  cases command with
  | addNode addr readOnly =>
      exact (becomes_change world (.addNode addr readOnly)).trans
        (becomes_onNode { world with cluster := world.cluster.addNode addr readOnly } addr _ _
          fun _ => .refl _)
  | register name results => exact becomes_change world (.register name results)
  | addrs => exact .refl world
  | dials => exact .refl world
  | setReadOnly addr readOnly =>
      exact becomes_onNode world addr _ _ fun node => becomes_change world (.setReadOnly node readOnly)
  | stop addr => exact becomes_onNode world addr _ _ fun node => becomes_change world (.stop node)
  | start addr => exact becomes_onNode world addr _ _ fun node => becomes_change world (.start node)
  | setLink addr up =>
      exact becomes_onNode world addr _ _ fun node => becomes_change world (.setLink node up)
  | describe addr => exact becomes_onNode world addr _ _ fun _ => .refl world

end World

namespace PooledSession

open World

variable (session : PooledSession) (service : ServiceId) (pool : Pool)

theorem becomes_drop : session.world.Becomes session.drop.world := by
  unfold drop
  split
  · exact becomes_disown _ _
  · exact .refl _

theorem leadsTo_connect (addrs : Option (List String)) (options : Option PoolOptions) :
    session.world.LeadsTo (session.connect addrs options).1.world := by
  refine session.becomes_drop.leadsTo.trans ?_
  have hconnect := World.leadsTo_connect session.drop.world
    (addrs.getD session.drop.world.cluster.addrs) (options.getD {})
  unfold connect
  dsimp only
  split
  · rename_i later cause hresult
    rwa [hresult] at hconnect
  · rename_i later service hresult
    rw [hresult] at hconnect
    split <;> exact hconnect

theorem becomes_picks (mode : Mode) (times : Nat) :
    ∀ world : World, world.Becomes (picks service mode times world).1 := by
  induction times with
  | zero => exact fun world => .refl world
  | succ times ih => exact fun world => (becomes_resolve world service mode).trans (ih _)

theorem leadsTo_onPool (command : PooledCommand) :
    session.world.LeadsTo (session.onPool service pool command).1.world := by
  cases command with
  | resolve mode times => exact (becomes_picks service mode times session.world).leadsTo
  | connectedNow mode => exact (becomes_connectedNow session.world service mode).leadsTo
  | configuredTimeout mode => exact (becomes_configuredTimeout session.world service mode).leadsTo
  | close => exact leadsTo_closePool session.world service
  | request operation => exact (becomes_request session.world service operation).leadsTo
  | requestTyped operation shape => exact (becomes_request session.world service operation).leadsTo
  | requestAsync issued =>
      exact (becomes_requestAll session.world service [issued.operation]).leadsTo
  | join operations =>
      exact (becomes_requestAll session.world service
        (operations.map AsyncOperation.operation)).leadsTo
  | _ => exact (Becomes.refl session.world).leadsTo

theorem leadsTo_perform (command : PooledCommand) :
    session.world.LeadsTo (session.perform command).1.world := by
  cases command with
  | cluster command => exact (becomes_steer session.world command).leadsTo
  | script addr script => exact (becomes_act (.script addr script) fun _ => rfl).leadsTo
  | sleep duration => exact (becomes_sleep session.world duration).leadsTo
  | connect addrs options => exact session.leadsTo_connect addrs options
  | drop => exact session.becomes_drop.leadsTo
  | _ =>
      simp only [perform]
      split
      · exact session.leadsTo_onPool _ _ _
      · exact (Becomes.refl session.world).leadsTo

theorem leadsTo_step (command : PooledCommand) (held : Bool) :
    session.world.LeadsTo (session.step command held).1.world := by
  refine (session.leadsTo_perform command).trans ?_
  unfold step
  dsimp only
  split
  · exact (Becomes.refl _).leadsTo
  · exact (becomes_settle _).1.leadsTo

theorem becomes_start (nodes : List (String × Bool)) :
    ({} : World).Becomes (start nodes).world := by
  have hfold : ∀ cluster : Cluster, World.Becomes { cluster }
      { cluster := nodes.foldl (fun cluster node => cluster.addNode node.1 node.2) cluster } := by
    induction nodes with
    | nil => exact fun cluster => .refl _
    | cons node rest ih =>
        exact fun cluster => (becomes_change { cluster } (.addNode node.1 node.2)).trans (ih _)
  exact hfold {}

/-- The world of a session, whatever commands it was given, is that of a reachable system. -/
theorem exists_reachable (nodes : List (String × Bool)) (commands : List (PooledCommand × Bool)) :
    ∃ system : System, system.Reachable ∧
      (commands.foldl (fun session (command, held) => (session.step command held).1)
        (start nodes)).world = system.world := by
  have hcommands : ∀ session : PooledSession, session.world.LeadsTo
      (commands.foldl (fun session (command, held) => (session.step command held).1)
        session).world := by
    induction commands with
    | nil => exact fun session => (Becomes.refl _).leadsTo
    | cons command rest ih =>
        exact fun session => (session.leadsTo_step command.1 command.2).trans (ih _)
  obtain ⟨actions, own, hactions⟩ := (becomes_start nodes).leadsTo.trans (hcommands (start nodes)) []
  exact ⟨_, ⟨actions, rfl⟩, (congrArg System.world hactions).symm⟩

end PooledSession

end ReplicaPool
