import ReplicaPool.Proofs.Discovery.Exactness
import ReplicaPool.Proofs.System.Finality

/-!
# Status reports are complete

A status report goes through the managed addresses, so it shows every entry only if no entry is anywhere
else. In an open pool that holds unless its worker is in the middle of a reconciliation. A closed pool
never changes again, so what was in between when it was closed stays: `System.CutShort` says that this has
happened to a pool, and otherwise its reports are complete for good.
-/

namespace ReplicaPool

namespace Pool

variable {pool : Pool} {alive : ConnectionId → Bool} {addr : String}

def Confined (pool : Pool) : Prop :=
  ∀ addr entry, pool.topology.lookup? addr = some entry → addr ∈ pool.topology.addrs

/-- A report shows every entry once, with the role of the subpool that has it, and nothing else. -/
structure Shows (alive : ConnectionId → Bool) (pool : Pool) (report : List (String × Standing)) :
    Prop where
  keys_nodup : (report.map Prod.fst).Nodup
  keys : (report.map Prod.fst).Perm (pool.topology.rw.addrs ++ pool.topology.ro.addrs)
  mem_iff : ∀ addr standing, (addr, standing) ∈ report ↔
    ∃ connection role, (addr, connection) ∈ (pool.topology.subpool role).members ∧
      standing = ⟨alive connection, role⟩

theorem mem_status_iff {standing : Standing} (hconsistent : pool.topology.Consistent) :
    (addr, standing) ∈ pool.status alive ↔ addr ∈ pool.topology.addrs ∧
      ∃ connection role, (addr, connection) ∈ (pool.topology.subpool role).members ∧
        standing = ⟨alive connection, role⟩ := by
  simp only [status, List.mem_filterMap, Option.map_eq_some_iff, Prod.mk.injEq, Prod.exists,
    hconsistent.lookup?_eq_some_iff]
  constructor
  · rintro ⟨_, hmanaged, connection, role, hmem, rfl, rfl⟩
    exact ⟨hmanaged, connection, role, hmem, rfl⟩
  · rintro ⟨hmanaged, connection, role, hmem, rfl⟩
    exact ⟨addr, hmanaged, connection, role, hmem, rfl, rfl⟩

theorem map_fst_status (alive : ConnectionId → Bool) (pool : Pool) :
    (pool.status alive).map Prod.fst =
      pool.topology.addrs.filter fun addr => (pool.topology.lookup? addr).isSome := by
  rw [status, List.map_filterMap, ← List.filterMap_eq_filter]
  refine List.filterMap_congr fun addr _ => ?_
  cases hlookup : pool.topology.lookup? addr <;> simp [Option.guard, hlookup]

theorem shows_status (hconsistent : pool.topology.Consistent) (hnodup : pool.topology.addrs.Nodup)
    (hconfined : pool.Confined) : pool.Shows alive (pool.status alive) where
  keys_nodup := by
    rw [map_fst_status]
    exact hnodup.filter _
  keys := by
    have hreported := hnodup.filter fun addr => (pool.topology.lookup? addr).isSome
    rw [map_fst_status, List.perm_ext_iff_of_nodup hreported hconsistent.addrs_nodup]
    intro addr
    have hfiled : addr ∈ pool.topology.rw.addrs ++ pool.topology.ro.addrs ↔
        ∃ entry, pool.topology.lookup? addr = some entry := by
      rw [← Option.ne_none_iff_exists', ne_eq, hconsistent.lookup?_eq_none_iff, not_forall,
        List.mem_append]
      constructor
      · rintro (hrw | hro)
        · exact ⟨.master, not_not.mpr hrw⟩
        · exact ⟨.replica, not_not.mpr hro⟩
      · rintro ⟨role, hrole⟩
        cases role
        · exact Or.inl (not_not.mp hrole)
        · exact Or.inr (not_not.mp hrole)
    rw [List.mem_filter, hfiled, Option.isSome_iff_exists]
    exact ⟨And.right, fun hentry => ⟨hentry.elim fun entry => hconfined addr entry, hentry⟩⟩
  mem_iff := by
    intro addr standing
    rw [mem_status_iff hconsistent, and_iff_right_iff_imp]
    rintro ⟨connection, role, hmem, -⟩
    exact hconfined addr _ (hconsistent.lookup?_eq_some_iff.mpr hmem)

end Pool

/-! ### In the middle of a reconciliation -/

def Job.reconciles : Job → Bool
  | .reconcile _ _ _ => true
  | _ => false

def Upkeep.isReconciling (upkeep : Upkeep) : Bool :=
  upkeep.agenda.any Job.reconciles

theorem scope_eq_addrs {addrs : List String} {agenda : List Job}
    (hagenda : agenda.any Job.reconciles = false) : scope addrs agenda = addrs := by
  induction agenda with
  | nil => rfl
  | cons job rest ih =>
      obtain ⟨hjob, hrest⟩ := Bool.or_eq_false_iff.mp hagenda
      cases job with
      | reconcile fresh gone members => cases hjob
      | _ => exact ih hrest

theorem ManagedUpkeep.confined {pool : Pool} {agenda : List Job}
    (hmanaged : ManagedUpkeep pool agenda) (hagenda : agenda.any Job.reconciles = false) :
    pool.Confined := by
  intro addr entry hentry
  have hmem := hmanaged.filed hentry
  rwa [scope_eq_addrs hagenda] at hmem

theorem Service.Stepped.eq_shut {world : World} {service : ServiceId} {present next : Service}
    {action : Action} (hstepped : present.Stepped world service action next)
    (hopen : present.pool.isClosed = false) (hclosed : next.pool.isClosed = true) :
    action = .shut service ∧ next.pool.topology = present.pool.topology := by
  have hsectioned : ∀ moved, World.Sectioned present.pool moved → moved.isClosed ≠ true := by
    intro moved hmoved
    rw [hmoved.isClosed_eq, hopen]
    exact Bool.false_ne_true
  cases hstepped with
  | route mode => exact absurd hclosed (hsectioned _ (.resolve _ _))
  | disown => exact absurd hclosed (hsectioned _ .same)
  | shut _ => exact ⟨rfl, rfl⟩
  | work hagenda hdue hrunning =>
      exact absurd hclosed (hsectioned _ (World.sectioned_perform _ _ _))
  | turn hagenda htakesUp => exact absurd hclosed (hsectioned _ .same)

namespace System

variable {system : System} {service : ServiceId} {present : Service} {pool : Pool}
  {actions : List Action}

/-- In the course of a run the pool of a service is closed in the middle of a reconciliation. -/
def CutShort (system : System) (service : ServiceId) (actions : List Action) : Prop :=
  ∃ early late present, actions = early ++ .shut service :: late ∧
    (system.run early).world.services[service]? = some present ∧
    present.pool.isClosed = false ∧ present.upkeep.isReconciling = true

theorem CutShort.append (hcut : system.CutShort service actions) (later : List Action) :
    system.CutShort service (actions ++ later) := by
  obtain ⟨early, late, present, rfl, hcut⟩ := hcut
  exact ⟨early, late ++ later, present, by simp, hcut⟩

theorem Managed.confined (hmanaged : system.Managed)
    (hpresent : system.world.services[service]? = some present)
    (hopen : present.pool.isClosed = false) (hrests : present.upkeep.isReconciling = false) :
    present.pool.Confined :=
  (hmanaged.upkeep hpresent hopen).confined hrests

theorem Managed.confined_of_call (hmanaged : system.Managed)
    (hpool : pool ∈ system.calls.filterMap Call.pool?) : pool.Confined := by
  obtain ⟨call, hmem, hcall⟩ := List.mem_filterMap.mp hpool
  obtain ⟨place, hplace⟩ := List.mem_iff_getElem?.mp hmem
  have hcallManaged := hmanaged.calls hplace
  cases call with
  | reach building slots =>
      cases hcall
      exact hcallManaged.1.confined rfl
  | fill building alive attempts =>
      cases hcall
      exact hcallManaged.1.confined rfl
  | _ => cases hcall

/-- A closed pool is confined, unless it was closed in the middle of a reconciliation. -/
theorem confined_of_closed (hpresent : (run {} actions).world.services[service]? = some present)
    (hclosed : present.pool.isClosed = true) (hwhole : ¬CutShort {} service actions) :
    present.pool.Confined := by
  induction actions using List.reverseRecOn generalizing present with
  | nil => cases hpresent
  | append_singleton actions action ih =>
      have hmanaged := Reachable.managed ⟨actions, rfl⟩
      have hearlier : ¬CutShort {} service actions := fun hcut => hwhole (hcut.append [action])
      rw [run_concat] at hpresent
      have hservices := servicesStep_act (run {} actions) action
      generalize ((run {} actions).act action).world.services = services at hservices hpresent
      cases hservices with
      | same hidle => exact ih hpresent hclosed hearlier
      | @set other before next hbefore hstepped =>
          by_cases hsame : service = other
          · subst hsame
            rw [List.getElem?_set_self (List.getElem?_eq_some_iff.mp hbefore).1] at hpresent
            cases hpresent
            cases hopen : before.pool.isClosed with
            | true =>
                rw [hstepped.continues.frozen hopen]
                exact ih hbefore hopen hearlier
            | false =>
                -- This action closes the pool, so no reconciliation was under way.
                obtain ⟨rfl, htopology⟩ := hstepped.eq_shut hopen hclosed
                have hrests : before.upkeep.isReconciling = false := by
                  by_contra hbusy
                  rw [Bool.not_eq_false] at hbusy
                  exact hwhole ⟨actions, [], before, rfl, hbefore, hopen, hbusy⟩
                rw [Pool.Confined, htopology]
                exact hmanaged.confined hbefore hopen hrests
          · rw [List.getElem?_set_ne (Ne.symm hsame)] at hpresent
            exact ih hpresent hclosed hearlier
      | @launch place step pool haction hcall =>
          rw [List.getElem?_append] at hpresent
          split at hpresent
          · exact ih hpresent hclosed hearlier
          · rw [List.mem_singleton.mp (List.mem_of_getElem? hpresent)]
            exact hmanaged.confined_of_call (List.mem_filterMap.mpr ⟨_, List.mem_of_getElem? hcall, rfl⟩)

/-- A pool that is not in the middle of a reconciliation, and was not closed there, has entries at managed
addresses only. It reports all of them and nothing else, and while it is open, a pass over the managed
addresses looks after all of them. A pool that is still being built is always like that. -/
theorem status_complete (hpresent : (run {} actions).world.services[service]? = some present)
    (hrests : present.upkeep.isReconciling = false) (hwhole : ¬CutShort {} service actions) :
    present.pool.Confined ∧
      present.pool.Shows (run {} actions).world.isConnected
        (present.pool.status (run {} actions).world.isConnected) ∧
      (present.pool.isClosed = false → ∀ addr ∈ present.pool.topology.rw.addrs ++
        present.pool.topology.ro.addrs, (run {} actions).world.Renewed present.pool addr
          ((run {} actions).world.refreshAll present.pool).1
          (((run {} actions).world.refreshAll present.pool).2.topology.lookup? addr)) ∧
      ∀ pool ∈ (run {} actions).calls.filterMap Call.pool?, pool.Confined ∧
        pool.Shows (run {} actions).world.isConnected
          (pool.status (run {} actions).world.isConnected) := by
  have hreachable : (run {} actions).Reachable := ⟨actions, rfl⟩
  have hmanaged := hreachable.managed
  have hsound := hreachable.sound.pool_sound hpresent
  have hconfined : present.pool.Confined := by
    cases hopen : present.pool.isClosed with
    | false => exact hmanaged.confined hpresent hopen hrests
    | true => exact confined_of_closed hpresent hopen hwhole
  have hshows : present.pool.Shows (run {} actions).world.isConnected
      (present.pool.status (run {} actions).world.isConnected) :=
    Pool.shows_status hsound.consistent hsound.addrs_nodup hconfined
  refine ⟨hconfined, hshows, ?_, ?_⟩
  · intro hopen addr hfiled
    obtain ⟨⟨_, standing⟩, hmem, rfl⟩ := List.mem_map.mp (hshows.keys.mem_iff.mpr hfiled)
    have hrefreshed := World.refreshed_refresh hsound hopen hsound.addrs_nodup
    exact hrefreshed.renewed _ ((Pool.mem_status_iff hsound.consistent).mp hmem).1
  · intro pool hpool
    have hbuilding := hreachable.sound.pool_of_mem (List.mem_append_right _ hpool)
    have hconfined := hmanaged.confined_of_call hpool
    exact ⟨hconfined, Pool.shows_status hbuilding.consistent hbuilding.addrs_nodup hconfined⟩

def settledRun : List Action :=
  pairRun ++ [.upkeep 0] ++ .upkeep 0 :: renewal

theorem status_complete_settled :
    ∃ present, (run {} (settledRun ++ [.shut 0])).world.services[0]? = some present ∧
      present.pool.isClosed = true ∧
      present.pool.Shows (run {} (settledRun ++ [.shut 0])).world.isConnected
        [("127.0.0.1:3301", ⟨true, .master⟩), ("127.0.0.1:3303", ⟨true, .master⟩)] := by
  have hservice : (run {} (settledRun ++ [.shut 0])).world.services[0]?.map (fun present =>
      (present.upkeep.isReconciling, present.pool.isClosed,
        present.pool.status (run {} (settledRun ++ [.shut 0])).world.isConnected)) =
      some (false, true,
        [("127.0.0.1:3301", ⟨true, .master⟩), ("127.0.0.1:3303", ⟨true, .master⟩)]) := by
    decide +kernel
  obtain ⟨present, hpresent, hvalues⟩ := Option.map_eq_some_iff.mp hservice
  obtain ⟨hrests, hvalues⟩ := Prod.mk.inj hvalues
  obtain ⟨hclosed, hstatus⟩ := Prod.mk.inj hvalues
  have hwhole : ¬CutShort {} 0 (settledRun ++ [.shut 0]) := by
    rintro ⟨early, late, before, hsplit, hbefore, -, hbusy⟩
    rcases List.eq_nil_or_concat late with rfl | ⟨others, last, rfl⟩
    · -- The pool is closed at the end of the run, when its worker is at rest.
      obtain ⟨rfl, -⟩ := List.append_inj' hsplit rfl
      have hidle : (run {} settledRun).world.services[0]?.map
          (fun before => before.upkeep.isReconciling) = some false := by
        decide +kernel
      rw [hbefore, Option.map_some, hbusy] at hidle
      cases hidle
    · -- Before that nobody closes it.
      have hmem : Action.shut 0 ∈ settledRun := by
        rw [List.concat_eq_append, ← List.cons_append, ← List.append_assoc] at hsplit
        rw [(List.append_inj' hsplit rfl).1]
        exact List.mem_append_right _ List.mem_cons_self
      simp [settledRun, pairRun, renewal] at hmem
  refine ⟨present, hpresent, hclosed, ?_⟩
  rw [← hstatus]
  exact (status_complete hpresent hrests hwhole).2.1

end System

end ReplicaPool
