import ReplicaPool.Proofs.System.Integrity
import ReplicaPool.Proofs.Upkeep.Refresh

/-!
# Convergence

One pass over the managed addresses of a pool, in a world where nothing else happens, brings the entry of
every address in line with its node. What becomes of an address depends on no other address.
-/

namespace ReplicaPool

inductive Action.Works (service : ServiceId) : Action → Prop
  | upkeep : Works service (.upkeep service)
  | elapse (duration : Nat) : Works service (.elapse duration)

namespace World

variable {world later : World} {pool moved : Pool} {limit : Nat} {addr : String} {service : ServiceId}
  {role : Role} {present : Service} {job : Job} {rest agenda next : List Job}

/-! ### A worker left to itself -/

theorem setWork_setWork : (world.setWork service pool agenda).setWork service moved next =
    world.setWork service moved next := by
  simp only [setWork, modifyService, List.modify_modify_eq]
  rfl

theorem getElem?_services_setWork (hpresent : world.services[service]? = some present) :
    (world.setWork service pool agenda).services[service]? =
      some { present with pool, upkeep := { present.upkeep with agenda } } :=
  getElem?_modifyService hpresent _

theorem setWork_self (hpresent : world.services[service]? = some present) :
    world.setWork service present.pool present.upkeep.agenda = world := by
  rw [setWork, modifyService, modify_eq_set hpresent, set_eq_of_getElem? hpresent]

theorem stepUpkeep_setWork (pool : Pool) (rest : List Job)
    (hpresent : world.services[service]? = some present)
    (hrunning : present.upkeep.running = true) (hdue : job.isDue world.now = true) :
    (world.setWork service pool (job :: rest)).stepUpkeep service =
      some ((world.perform pool job).1.setWork service (world.perform pool job).2.1
        ((world.perform pool job).2.2 ++ rest)) := by
  have hperform := perform_withServices world
    (world.setWork service pool (job :: rest)).services pool job
  have hwith : ({ (world.perform pool job).1 with
      services := (world.setWork service pool (job :: rest)).services } : World) =
        (world.perform pool job).1.setWork service pool (job :: rest) := by
    simp only [setWork, modifyService, (touched_perform world pool job).services_eq]
  have hsame : ({ world with
      services := (world.setWork service pool (job :: rest)).services } : World) =
        world.setWork service pool (job :: rest) := rfl
  rw [hwith, hsame] at hperform
  have hdue' : job.isDue (world.setWork service pool (job :: rest)).now = true := hdue
  simp only [stepUpkeep, getElem?_services_setWork hpresent, hrunning, if_true, hdue', hperform,
    setWork_setWork]

theorem awaitDue_eq (world : World) (job : Job) :
    ∃ duration, world.awaitDue job = { world with now := world.now + duration } ∧
      job.isDue (world.now + duration) = true := by
  cases job with
  | wait due =>
      refine ⟨due - world.now, ?_, ?_⟩
      · simp only [awaitDue, Nat.max_def]
        congr 1
        split <;> omega
      · simp only [Job.isDue, decide_eq_true_eq]
        omega
  | _ => exact ⟨0, rfl, rfl⟩

/-- Time passes until the next job is due, and then the worker performs it. -/
theorem exists_act_awaitDue (calls : List Call) (pool : Pool) (rest : List Job)
    (hpresent : world.services[service]? = some present)
    (hrunning : present.upkeep.running = true) :
    ∃ duration, (System.mk (world.setWork service pool (job :: rest)) calls).act
        (.elapse duration) = ⟨(world.awaitDue job).setWork service pool (job :: rest), calls⟩ ∧
      (System.mk ((world.awaitDue job).setWork service pool (job :: rest)) calls).act
        (.upkeep service) = ⟨((world.awaitDue job).perform pool job).1.setWork service
          ((world.awaitDue job).perform pool job).2.1
          (((world.awaitDue job).perform pool job).2.2 ++ rest), calls⟩ := by
  obtain ⟨duration, hawait, hdue⟩ := awaitDue_eq world job
  rw [hawait]
  refine ⟨duration, rfl, ?_⟩
  have hlater : ({ world with now := world.now + duration } : World).services[service]? =
      some present := hpresent
  have hstep := stepUpkeep_setWork pool rest hlater hrunning hdue
  exact congrArg (fun later => System.mk later calls)
    ((congrArg (Option.getD · _) hstep).trans (Option.getD_some))

theorem services_awaitDue (world : World) (job : Job) :
    (world.awaitDue job).services = world.services := by
  obtain ⟨duration, hawait, -⟩ := awaitDue_eq world job
  rw [hawait]

/-- The worker of a pool carries its agenda out if it is left to itself. -/
theorem exists_run_carryOut (calls : List Call) (pool : Pool) (agenda : List Job)
    (hpresent : world.services[service]? = some present)
    (hrunning : present.upkeep.running = true) :
    ∃ actions, (∀ action ∈ actions, action.Works service) ∧
      (System.mk (world.setWork service pool agenda) calls).run actions =
        ⟨(world.carryOut pool agenda).1.setWork service (world.carryOut pool agenda).2 [], calls⟩ := by
  fun_induction carryOut world pool agenda with
  | case1 world pool => exact ⟨[], fun _ hmem => absurd hmem List.not_mem_nil, rfl⟩
  | case2 world pool job rest ih =>
      obtain ⟨duration, helapse, hupkeep⟩ := exists_act_awaitDue calls pool rest hpresent hrunning
      have hservices := (touched_perform (world.awaitDue job) pool job).services_eq.trans
        (services_awaitDue world job)
      obtain ⟨actions, hworks, hrun⟩ := ih (hservices.symm ▸ hpresent)
      refine ⟨.elapse duration :: .upkeep service :: actions, ?_, ?_⟩
      · simp only [List.forall_mem_cons]
        exact ⟨.elapse duration, .upkeep, hworks⟩
      · rw [← hrun, System.run, List.foldl_cons, List.foldl_cons, helapse, hupkeep]
        rfl

/-! ### Agreement with the nodes -/

/-- The entry of an address is in line with its node after a pass. -/
structure Converged (world : World) (pool : Pool) (later : World) (moved : Pool) (addr : String) :
    Prop where
  /-- A usable connection stays, under the role of its node. -/
  connected : ∀ {connection : ConnectionId} {role : Role},
    pool.topology.lookup? addr = some (connection, role) →
    world.cluster.link connection = .connected →
      ∃ present node, world.cluster.connections[connection]? = some present ∧
        world.cluster.nodes[present.node]? = some node ∧
        moved.topology.lookup? addr = some (connection, Role.ofReadOnly node.readOnly)
  /-- A connection whose link is down stays as it was. -/
  disconnected : ∀ {connection : ConnectionId} {role : Role},
    pool.topology.lookup? addr = some (connection, role) →
    world.cluster.link connection = .disconnected →
      moved.topology.lookup? addr = some (connection, role)
  /-- Without a connection that could be used there is a new one to the node now at the address. -/
  reachable : world.Vacant pool addr → ∀ {node : NodeId} {taker : Node},
    world.cluster.Accepts addr node taker → taker.linkUp = true →
      ∃ connection, world.cluster.connections.length ≤ connection ∧
        later.cluster.connections[connection]? =
          some { addr, node, queue := pool.queue, link := .connected } ∧
        moved.topology.lookup? addr = some (connection, Role.ofReadOnly taker.readOnly)
  /-- If no such node can be reached there is no connection. -/
  unreachable : world.Vacant pool addr →
    (¬∃ node taker, world.cluster.Accepts addr node taker ∧ taker.linkUp = true) →
      ∀ role, addr ∉ (moved.topology.subpool role).addrs

theorem Refreshed.converged {addrs : List String} (hwellFormed : world.cluster.WellFormed)
    (hsound : pool.Sound world.cluster) (hrefreshed : Refreshed world pool addrs later moved)
    (hmem : addr ∈ addrs) (hfaithful : world.Faithful pool.options.probeTimeout addr) :
    world.Converged pool later moved addr := by
  have hmoved := hrefreshed.sound.consistent
  generalize hentry : moved.topology.lookup? addr = entry
  have hrenewed := hrefreshed.renewed addr hmem
  rw [hentry] at hrenewed
  cases hrenewed with
  | @reviewed filed current present hlookup hpresent hlive =>
      have hlink := Cluster.link_eq hpresent
      have haddr : present.addr = addr := by
        obtain ⟨found, hfound, haddr, -⟩ := hsound.serves hlookup
        rw [hpresent] at hfound
        rw [Option.some.inj hfound, haddr]
      rw [← haddr] at hfaithful
      have hnotVacant : ¬world.Vacant pool addr := fun hvacant =>
        hlive (hlink.symm.trans (hvacant _ _ hlookup))
      constructor
      · intro connection role hfiled hconnected
        rw [hlookup] at hfiled
        cases hfiled
        have hnode := List.getElem?_eq_getElem (hwellFormed.node_lt hpresent)
        refine ⟨present, _, hpresent, hnode, ?_⟩
        rw [hentry, hfaithful.verdict_connected (hlink.symm.trans hconnected) hnode]
        rfl
      · intro connection role hfiled hdisconnected
        rw [hlookup] at hfiled
        cases hfiled
        rw [hentry, hfaithful.verdict_disconnected (hlink.symm.trans hdisconnected)]
        rfl
      · exact fun hvacant => absurd hvacant hnotVacant
      · exact fun hvacant => absurd hvacant hnotVacant
  | @replaced connection role node taker hvacant htrial haccepts hnew hpresent =>
      rw [hfaithful.trial haccepts] at htrial
      have hup : taker.linkUp = true := by
        by_contra hdown
        rw [if_neg hdown] at htrial
        cases htrial
      rw [if_pos hup] at htrial
      cases htrial
      constructor
      · intro other filed hfiled hconnected
        rw [hvacant _ _ hfiled] at hconnected
        cases hconnected
      · intro other filed hfiled hdisconnected
        rw [hvacant _ _ hfiled] at hdisconnected
        cases hdisconnected
      · intro _ other candidate haccepts' _
        obtain rfl : node = other :=
          Option.some.inj (haccepts.nodeAt.symm.trans haccepts'.nodeAt)
        obtain rfl : taker = candidate :=
          Option.some.inj (haccepts.node.symm.trans haccepts'.node)
        refine ⟨connection, hnew, ?_, hentry⟩
        rw [hpresent, Cluster.fresh, if_pos hup]
      · exact fun _ hnone => absurd ⟨node, taker, haccepts, hup⟩ hnone
  | absent hvacant htrial =>
      constructor
      · intro other filed hfiled hconnected
        rw [hvacant _ _ hfiled] at hconnected
        cases hconnected
      · intro other filed hfiled hdisconnected
        rw [hvacant _ _ hfiled] at hdisconnected
        cases hdisconnected
      · intro _ node taker haccepts hup
        rw [hfaithful.trial haccepts, if_pos hup] at htrial
        cases htrial
      · exact fun _ _ => hmoved.lookup?_eq_none_iff.mp hentry

end World

namespace System

variable {system : System} {service : ServiceId} {present : Service}

/-- A pass over the managed addresses of an open pool, which is what its worker does when it is left to
itself, makes every address that behaves as its node does converge, whatever the other addresses do. No
address is left with a closed connection, and another pass changes nothing. -/
theorem refresh_converges (hreachable : system.Reachable)
    (hpresent : system.world.services[service]? = some present)
    (hopen : present.pool.isClosed = false) :
    ∃ later moved, system.world.refreshAll present.pool = (later, moved) ∧
      (present.upkeep.running = true →
        present.upkeep.agenda = [.refresh present.pool.topology.addrs] →
          ∃ actions, (∀ action ∈ actions, action.Works service) ∧
            system.run actions = ⟨later.setWork service moved [], system.calls⟩) ∧
      (∀ addr ∈ present.pool.topology.addrs,
        system.world.Faithful present.pool.options.probeTimeout addr →
          system.world.Converged present.pool later moved addr) ∧
      (∀ addr ∈ present.pool.topology.addrs, ∀ connection role,
        moved.topology.lookup? addr = some (connection, role) →
          later.cluster.link connection ≠ .closed) ∧
      (later.refreshAll moved).2 = moved := by
  have hsystem := hreachable.sound
  have hsound := hsystem.pool_sound hpresent
  have hrefreshed := World.refreshed_refresh hsound hopen hsound.addrs_nodup
  obtain ⟨later, moved, hpass⟩ : ∃ later moved,
      system.world.refreshAll present.pool = (later, moved) := ⟨_, _, rfl⟩
  rw [← World.refreshAll, hpass] at hrefreshed
  have hsettled : ∀ addr ∈ present.pool.topology.addrs, later.Settled moved addr :=
    fun addr hmem => hrefreshed.settled hsound hmem
  refine ⟨later, moved, hpass, ?_, ?_, ?_, ?_⟩
  · intro hrunning hagenda
    have hsame : system.world.setWork service present.pool
        [.refresh present.pool.topology.addrs] = system.world := by
      rw [← hagenda, World.setWork, World.modifyService, modify_eq_set hpresent,
        set_eq_of_getElem? hpresent]
    have hrun := World.exists_run_carryOut system.calls present.pool
      [.refresh present.pool.topology.addrs] hpresent hrunning
    rwa [hsame, ← World.refreshAll, hpass] at hrun
  · exact fun addr hmem hfaithful =>
      hrefreshed.converged hsystem.wellFormed hsound hmem hfaithful
  · intro addr hmem connection role hlookup
    have haddr := hsettled addr hmem
    rw [World.Settled, hlookup] at haddr
    obtain ⟨found, hfound, hlive, -⟩ := haddr
    rw [Cluster.link_eq hfound]
    exact hlive
  · rw [← hrefreshed.addrs_eq] at hsettled
    obtain ⟨last, -, hsecond⟩ :=
      World.carryOut_refresh_of_settled (hrefreshed.isClosed_eq.trans hopen) hsettled
    exact congrArg Prod.snd hsecond

/-- The entry of the master that turned replica is moved, and the node that came back gets one again. -/
theorem refresh_converges_failover :
    ∃ present later moved connection, (run {} failoverRun).world.services[0]? = some present ∧
      present.pool.topology.lookup? "127.0.0.1:3301" = some (0, .master) ∧
      present.pool.topology.lookup? "127.0.0.1:3302" = none ∧
      (run {} failoverRun).world.refreshAll present.pool = (later, moved) ∧
      moved.topology.lookup? "127.0.0.1:3301" = some (0, .replica) ∧
      3 ≤ connection ∧ moved.topology.lookup? "127.0.0.1:3302" = some (connection, .master) := by
  have hservice : (run {} failoverRun).world.services[0]?.map (fun present =>
      (present.pool.isClosed, present.pool.topology.addrs.take 2,
        present.pool.topology.lookup? "127.0.0.1:3301",
        (present.pool.topology.lookup? "127.0.0.1:3302").isNone)) =
      some (false, ["127.0.0.1:3301", "127.0.0.1:3302"], some (0, .master), true) := by
    decide +kernel
  have hfirst : (run {} failoverRun).world.cluster.link 0 = .connected ∧
      (run {} failoverRun).world.cluster.connections[0]?.map Connection.node = some 0 ∧
      (run {} failoverRun).world.cluster.nodes[0]?.map Node.readOnly = some true := by
    decide +kernel
  have hsecond : (run {} failoverRun).world.cluster.connections.length = 3 ∧
      (run {} failoverRun).world.cluster.nodeAt? "127.0.0.1:3302" = some 1 ∧
      (run {} failoverRun).world.cluster.nodes[1]?.map (fun node =>
        (node.readOnly, node.running, node.linkUp)) = some (false, true, true) := by
    decide +kernel
  obtain ⟨present, hpresent, hvalues⟩ := Option.map_eq_some_iff.mp hservice
  simp only [Prod.mk.injEq, Option.isNone_iff_eq_none] at hvalues
  obtain ⟨hopen, haddrs, hfiled, habsent⟩ := hvalues
  obtain ⟨later, moved, hpass, -, hconverged, -⟩ :=
    refresh_converges ⟨failoverRun, rfl⟩ hpresent hopen
  have hfaithful : ∀ addr, (run {} failoverRun).world.Faithful present.pool.options.probeTimeout addr :=
    fun addr => World.faithful_of_unscripted (List.isEmpty_iff.mp (by decide +kernel))
  have hmanaged : ∀ addr ∈ ["127.0.0.1:3301", "127.0.0.1:3302"],
      addr ∈ present.pool.topology.addrs := by
    intro addr hmem
    rw [← haddrs] at hmem
    exact List.mem_of_mem_take hmem
  have hmoved : moved.topology.lookup? "127.0.0.1:3301" = some (0, .replica) := by
    obtain ⟨hlink, hplace, hrole⟩ := hfirst
    obtain ⟨found, node, hfound, hnode, hlookup⟩ :=
      (hconverged _ (hmanaged _ (by simp)) (hfaithful _)).connected hfiled hlink
    rw [hfound] at hplace
    rw [Option.some.inj hplace] at hnode
    rw [hnode] at hrole
    rw [hlookup, Option.some.inj hrole]
    rfl
  obtain ⟨hlength, hplace, hnode⟩ := hsecond
  obtain ⟨taker, htaker, hvalues⟩ := Option.map_eq_some_iff.mp hnode
  simp only [Prod.mk.injEq] at hvalues
  obtain ⟨hwritable, hrunning, hup⟩ := hvalues
  have hvacant : (run {} failoverRun).world.Vacant present.pool "127.0.0.1:3302" := by
    intro connection role hlookup
    rw [habsent] at hlookup
    cases hlookup
  obtain ⟨connection, hnew, -, hreplaced⟩ :=
    (hconverged _ (hmanaged _ (by simp)) (hfaithful _)).reachable hvacant
      ⟨hplace, htaker, hrunning⟩ hup
  rw [hlength] at hnew
  rw [hwritable] at hreplaced
  exact ⟨present, later, moved, connection, hpresent, hfiled, habsent, hpass, hmoved, hnew, hreplaced⟩

end System

end ReplicaPool
