import ReplicaPool.Proofs.System.Integrity
import ReplicaPool.Proofs.Upkeep.Losses

/-!
# No routing gap

While the worker of a pool is busy, others route requests through the pool between any two of its sections.
Every action edits one entry at most, so nothing else is disturbed. An address that loses its entry while the
worker is busy has none until the worker has finished. So an address that has an entry before and after has
one throughout, in one of the two subpools, also while its connection is replaced or changes its role.
-/

namespace ReplicaPool

theorem apart_of_takesUp {world : World} {pool : Pool} {agenda : List Job}
    (haddrs : pool.topology.addrs.Nodup) (htakesUp : TakesUp world pool agenda) : Apart agenda := by
  cases htakesUp with
  | nothing => exact apart_nil
  | event event hopen =>
      rcases onEvent_cases world pool event with hnothing | hdial
      · rw [hnothing]
        exact apart_nil
      · rw [hdial]
        exact apart_singleton (List.nodup_singleton _)
  | discover hopen => exact apart_singleton List.nodup_nil
  | refresh hopen => exact apart_singleton haddrs

/-- An address without an entry will not get one from the agenda of a service. -/
def Service.Spares (present : Service) (addr : String) : Prop :=
  present.pool.topology.lookup? addr = none →
    Forgone present.pool present.upkeep.agenda addr

namespace System

variable {system : System} {service : ServiceId} {present after : Service} {action : Action}
  {actions early late : List Action} {addr : String}

theorem Reachable.apart (hreachable : system.Reachable)
    (hpresent : system.world.services[service]? = some present) : Apart present.upkeep.agenda := by
  let apart : Service → Prop := fun present => Apart present.upkeep.agenda
  have hapart : apart present := by
    refine hreachable.service_induct (fun _ _ => apart_nil) ?_ hpresent
    intro system action service present next hsound hbefore hstepped hapart
    have haddrs := (hsound.pool_sound hbefore).addrs_nodup
    cases hstepped with
    | @work job rest hagenda hdue hrunning =>
        have hbusy : Apart (job :: rest) := hagenda ▸ hapart
        exact hbusy.perform haddrs
    | turn hagenda htakesUp => exact apart_of_takesUp haddrs htakesUp
    | _ => exact hapart
  exact hapart

theorem Reachable.consistent (hreachable : system.Reachable)
    (hpresent : system.world.services[service]? = some present) : present.pool.topology.Consistent :=
  (hreachable.sound.pool_sound hpresent).consistent

/-- Whatever happens, at most one entry of a pool changes at a time. -/
theorem edits_act (hreachable : system.Reachable)
    (hpresent : system.world.services[service]? = some present) (action : Action) :
    ∃ next, (system.act action).world.services[service]? = some next ∧
      present.pool.topology.Edits next.pool.topology := by
  obtain ⟨next, hnext, ⟨rfl, -⟩ | hstepped⟩ := stepped_act hpresent action
  · exact ⟨next, hnext, .same fun _ => rfl⟩
  · refine ⟨next, hnext, ?_⟩
    cases hstepped with
    | route mode => exact .same (Pool.sameEntries_resolve _ present.pool mode).members
    | @work job rest hagenda hdue hrunning =>
        have hapart := hreachable.apart hpresent
        rw [hagenda] at hapart
        exact (World.rewrites_perform (hreachable.consistent hpresent)
          (hapart.nodup job List.mem_cons_self)).edits
    | _ => exact .same fun _ => rfl

/-- As long as a worker is busy, an address without an entry that it spares gets none, and it spares all that
lose theirs. -/
theorem spares_act (hreachable : system.Reachable)
    (hpresent : system.world.services[service]? = some present)
    (hbusy : present.upkeep.agenda ≠ []) (hspares : present.Spares addr) (action : Action) :
    ∃ next, (system.act action).world.services[service]? = some next ∧ next.Spares addr ∧
      (present.pool.topology.lookup? addr = none → next.pool.topology.lookup? addr = none) := by
  obtain ⟨next, hnext, ⟨rfl, -⟩ | hstepped⟩ := stepped_act hpresent action
  · exact ⟨next, hnext, hspares, id⟩
  · refine ⟨next, hnext, ?_⟩
    have hlater := (hreachable.run [action]).consistent hnext
    cases hstepped with
    | route mode =>
        have hlookup := Pool.lookup?_resolve system.world.isConnected present.pool mode addr
        refine ⟨fun hnone => ⟨hnone, ?_⟩, fun hnone => hlookup.trans hnone⟩
        exact (hspares (hlookup.symm.trans hnone)).2
    | disown => exact ⟨hspares, id⟩
    | shut hopen => exact ⟨hspares, id⟩
    | @work job rest hagenda hdue hrunning =>
        have hconsistent := hreachable.consistent hpresent
        have hapart := hreachable.apart hpresent
        rw [Service.Spares, hagenda] at hspares
        rw [hagenda] at hapart
        refine ⟨fun hnone => ?_, fun hnone =>
          ((hspares hnone).perform hconsistent hlater hapart).1⟩
        -- Either the address had no entry before, or this job has dropped it.
        cases hentry : present.pool.topology.lookup? addr with
        | none => exact (hspares hentry).perform hconsistent hlater hapart
        | some entry => exact forgone_of_dropped hconsistent hlater hapart hentry hnone
    | turn hagenda htakesUp => exact absurd hagenda hbusy

theorem spares_run (hreachable : system.Reachable)
    (hpresent : system.world.services[service]? = some present) (hspares : present.Spares addr)
    (hfinishes : system.Finishes service (early ++ late)) :
    ∃ middle, (system.run early).world.services[service]? = some middle ∧ middle.Spares addr ∧
      (present.pool.topology.lookup? addr = none → middle.pool.topology.lookup? addr = none) ∧
      (system.run early).Finishes service late := by
  induction early generalizing system present with
  | nil => exact ⟨present, hpresent, hspares, id, hfinishes⟩
  | cons action early ih =>
      obtain ⟨hbusy, hlater⟩ := hfinishes
      rw [agenda_eq hpresent] at hbusy
      obtain ⟨next, hnext, hspared, hnone⟩ := spares_act hreachable hpresent hbusy hspares action
      obtain ⟨middle, hmiddle, hspares, hkept, hrest⟩ :=
        ih (hreachable.run [action]) hnext hspared hlater
      exact ⟨middle, hmiddle, hspares, hkept ∘ hnone, hrest⟩

/-- An address that has an entry at the beginning and at the end of a turn of the worker has one in between. -/
theorem lookup?_ne_none (hreachable : system.Reachable)
    (hpresent : system.world.services[service]? = some present) (hspares : present.Spares addr)
    (hfinishes : system.Finishes service (early ++ late))
    (hafter : (system.run (early ++ late)).world.services[service]? = some after)
    (hkept : after.pool.topology.lookup? addr ≠ none) {middle : Service}
    (hmiddle : (system.run early).world.services[service]? = some middle) :
    middle.pool.topology.lookup? addr ≠ none := by
  -- Without an entry now, it would have none in the end.
  obtain ⟨same, hsame, hspared, -, hlater⟩ := spares_run hreachable hpresent hspares hfinishes
  obtain rfl : same = middle := Option.some.inj (hsame.symm.trans hmiddle)
  rw [← List.append_nil late] at hlater
  obtain ⟨last, hlast, -, hnone, -⟩ := spares_run (hreachable.run early) hmiddle hspared hlater
  rw [← run_append, hafter] at hlast
  obtain rfl := Option.some.inj hlast
  exact fun hmissing => hkept (hnone hmissing)

theorem pool_act_of_idle (hpresent : system.world.services[service]? = some present)
    (hidle : present.upkeep.agenda = []) :
    ∃ next, (system.act (.upkeep service)).world.services[service]? = some next ∧
      next.pool = present.pool := by
  obtain ⟨next, hnext, ⟨rfl, -⟩ | hstepped⟩ := stepped_act hpresent (.upkeep service)
  · exact ⟨next, hnext, rfl⟩
  · cases hstepped with
    | work hagenda hdue hrunning =>
        rw [hidle] at hagenda
        cases hagenda
    | turn hagenda htakesUp => exact ⟨_, hnext, rfl⟩

/-- While the worker of a pool is at work, an address that has an entry before and after always has one, in
one of the two subpools only. Every action edits one entry of the pool at most, and its sections edit the entry
at their own address, which comes last in its subpool if it is new. -/
theorem no_routing_gap (hreachable : system.Reachable)
    (hpresent : system.world.services[service]? = some present)
    (hidle : present.upkeep.agenda = [])
    (hfinishes : (system.act (.upkeep service)).Finishes service actions)
    (hafter : (system.run (.upkeep service :: actions)).world.services[service]? = some after)
    (hsplit : .upkeep service :: actions = early ++ late) :
    ∃ middle, (system.run early).world.services[service]? = some middle ∧
      (∀ addr entry other, present.pool.topology.lookup? addr = some entry →
        after.pool.topology.lookup? addr = some other →
          ∃ connection role, middle.pool.topology.lookup? addr = some (connection, role) ∧
            ∀ filed, (middle.pool.topology.subpool filed).find? addr =
              if filed = role then some connection else none) ∧
      middle.pool.Orderly ∧
      ∀ action, ∃ next, ((system.run early).act action).world.services[service]? = some next ∧
        middle.pool.topology.Edits next.pool.topology := by
  have hmoment := hreachable.run early
  obtain ⟨middle, hmiddle⟩ := exists_service_run hpresent early
  have hconsistent := hmoment.consistent hmiddle
  refine ⟨middle, hmiddle, ?_, Pool.orderly hconsistent, edits_act hmoment hmiddle⟩
  intro addr entry other hentry hother
  have hfound : middle.pool.topology.lookup? addr ≠ none := by
    cases early with
    | nil =>
        obtain rfl : present = middle := Option.some.inj (hpresent.symm.trans hmiddle)
        exact hentry ▸ Option.some_ne_none entry
    | cons action early =>
        -- Taking up a job leaves the pool alone, so the address still has its entry when the job begins.
        obtain ⟨rfl, rfl⟩ := List.cons.inj hsplit
        obtain ⟨begun, hbegun, hpool⟩ := pool_act_of_idle hpresent hidle
        have hspares : begun.Spares addr := by
          intro hnone
          rw [hpool, hentry] at hnone
          cases hnone
        exact lookup?_ne_none (hreachable.run [.upkeep service]) hbegun hspares hfinishes hafter
          (hother ▸ Option.some_ne_none other) hmiddle
  obtain ⟨⟨connection, role⟩, hlookup⟩ := Option.ne_none_iff_exists'.mp hfound
  exact ⟨connection, role, hlookup, hconsistent.find?_subpool hlookup⟩

def reviewRun : List Action :=
  soloRun ++ [.change (.setReadOnly 0 true), .elapse 1000, .upkeep 0]

/-- The rest of the refresh, with a request that is routed before the entry is moved. -/
def review : List Action :=
  List.replicate 3 (.upkeep 0) ++ [.resolve 0 .preferRw] ++ List.replicate 2 (.upkeep 0)

theorem no_routing_gap_reviewed :
    ∃ present after, (run {} reviewRun).world.services[0]? = some present ∧
      ((run {} reviewRun).run (.upkeep 0 :: review)).world.services[0]? = some after ∧
      present.pool.topology.lookup? "127.0.0.1:3301" = some (0, .master) ∧
      after.pool.topology.lookup? "127.0.0.1:3301" = some (0, .replica) ∧
      ∀ early late, .upkeep 0 :: review = early ++ late → ∃ middle connection role,
        ((run {} reviewRun).run early).world.services[0]? = some middle ∧
          middle.pool.topology.lookup? "127.0.0.1:3301" = some (connection, role) := by
  have hbefore : (run {} reviewRun).world.services[0]?.map (fun present =>
      (present.upkeep.agenda.isEmpty, present.pool.topology.lookup? "127.0.0.1:3301")) =
      some (true, some (0, .master)) := by
    decide +kernel
  have hafter : ((run {} reviewRun).run (.upkeep 0 :: review)).world.services[0]?.map
      (fun after => after.pool.topology.lookup? "127.0.0.1:3301") = some (some (0, .replica)) := by
    decide +kernel
  obtain ⟨present, hpresent, hvalues⟩ := Option.map_eq_some_iff.mp hbefore
  obtain ⟨hidle, hmaster⟩ := Prod.mk.inj hvalues
  obtain ⟨after, hlast, hreplica⟩ := Option.map_eq_some_iff.mp hafter
  have hfinishes : ((run {} reviewRun).act (.upkeep 0)).Finishes 0 review := by
    decide +kernel
  refine ⟨present, after, hpresent, hlast, hmaster, hreplica, fun early late hsplit => ?_⟩
  obtain ⟨middle, hmiddle, hfound, -⟩ := no_routing_gap ⟨reviewRun, rfl⟩ hpresent
    (List.isEmpty_iff.mp hidle) hfinishes hlast hsplit
  obtain ⟨connection, role, hlookup, -⟩ := hfound _ _ _ hmaster hreplica
  exact ⟨middle, connection, role, hmiddle, hlookup⟩

end System

end ReplicaPool
