import ReplicaPool.Proofs.Discovery.Course
import ReplicaPool.Proofs.Upkeep.Events

/-!
# Close events

A worker that is left to itself handles all the events of its pool, whatever waits in the queue, and comes
to rest.
-/

namespace ReplicaPool

open Handling (dialled)

namespace World

variable {world heard later : World} {pool moved : Pool} {agenda : List Job} {event : Event}
  {service : ServiceId} {present : Service} {history : List Handling}

def withQueues (world : World) (queues : List EventQueue) : World :=
  { world with cluster := { world.cluster with queues } }

theorem extends_withQueues (world : World) (queues : List EventQueue) :
    world.Extends (world.withQueues queues) :=
  ⟨rfl, rfl, rfl, Nat.le_refl _, fun _ => rfl⟩

theorem services_carryOut (world : World) (pool : Pool) (agenda : List Job) :
    (world.carryOut pool agenda).1.services = world.services := by
  fun_induction carryOut world pool agenda with
  | case1 world pool => rfl
  | case2 world pool job rest ih =>
      calc _ = ((world.awaitDue job).perform pool job).1.services := ih
        _ = (world.awaitDue job).services := (touched_perform _ pool job).services_eq
        _ = world.services := services_awaitDue world job

theorem services_of_hear? {queue : QueueId} (hheard : world.hear? queue = some (event, heard)) :
    heard.services = world.services := by
  obtain ⟨⟨first, rest⟩, -, hsame⟩ := Option.map_eq_some_iff.mp hheard
  cases hsame
  rfl

theorem act_hear (calls : List Call) (hpresent : world.services[service]? = some present)
    (hrunning : present.upkeep.running = true) (howned : present.owned = true)
    (hopen : pool.isClosed = false) (hheard : world.hear? pool.queue = some (event, heard)) :
    (System.mk (world.setWork service pool []) calls).act (.upkeep service) =
      ⟨heard.setWork service pool (heard.onEvent pool event), calls⟩ := by
  obtain ⟨⟨first, rest⟩, htake, hsame⟩ := Option.map_eq_some_iff.mp hheard
  cases hsame
  have hcluster : (world.setWork service pool []).cluster = world.cluster := rfl
  have hrested : (world.setWork service pool []).services[service]? =
      some { present with pool, upkeep := { present.upkeep with agenda := [] } } :=
    getElem?_services_setWork hpresent
  have hover : (pool.isClosed || !present.owned) = false := by rw [hopen, howned]; rfl
  simp only [System.act, stepUpkeep, hrested, hrunning, if_true, wakeUpkeep, hover, hcluster, htake,
    Bool.false_eq_true, if_false, Option.getD_some]
  have hlt := (List.getElem?_eq_some_iff.mp hpresent).1
  simp only [setWork, modifyService, modify_eq_set hpresent,
    modify_eq_set (List.getElem?_set_self hlt), List.set_set, hrunning]
  rfl

theorem isClosed_carryOut (world : World) (pool : Pool) (agenda : List Job) :
    (world.carryOut pool agenda).2.isClosed = pool.isClosed := by
  fun_induction carryOut world pool agenda with
  | case1 world pool => rfl
  | case2 world pool job rest ih => exact ih.trans (sectioned_perform _ pool job).isClosed_eq

/-- A worker that is left to itself handles its events. -/
theorem Drains.exists_run (hdrains : world.Drains pool history later moved) (calls : List Call)
    (hpresent : world.services[service]? = some present) (hrunning : present.upkeep.running = true)
    (howned : present.owned = true) (hopen : pool.isClosed = false) :
    ∃ actions, (∀ action ∈ actions, action.Works service) ∧
      (System.mk (world.setWork service pool []) calls).run actions =
        ⟨later.setWork service moved [], calls⟩ := by
  induction hdrains with
  | done hnone => exact ⟨[], fun _ hmem => absurd hmem List.not_mem_nil, rfl⟩
  | @handle world heard later pool moved event history hheard hrest ih =>
      have hservices : heard.services[service]? = some present :=
        services_of_hear? hheard ▸ hpresent
      have hlater := services_carryOut heard pool (heard.onEvent pool event)
      have hhear := act_hear calls hpresent hrunning howned hopen hheard
      obtain ⟨first, hfirst, hcarried⟩ :=
        exists_run_carryOut calls pool (heard.onEvent pool event) hservices hrunning
      obtain ⟨rest, hworks, hrun⟩ := ih (hlater.symm ▸ hservices)
        ((isClosed_carryOut heard pool _).trans hopen)
      refine ⟨.upkeep service :: (first ++ rest), ?_, ?_⟩
      · refine List.forall_mem_cons.mpr ⟨.upkeep, fun action hmem => ?_⟩
        exact (List.mem_append.mp hmem).elim (hfirst action) (hworks action)
      · calc (System.mk (world.setWork service pool []) calls).run (.upkeep service :: (first ++ rest))
            = ((System.mk (heard.setWork service pool (heard.onEvent pool event)) calls).run
                first).run rest := by rw [← System.run_append, ← hhear]; rfl
          _ = ⟨later.setWork service moved [], calls⟩ := by rw [hcarried, hrun]

end World

namespace System

variable {system : System} {service : ServiceId} {present : Service}

/-- Whatever waits in the queue of an open pool, and whatever the state of the cluster is, its worker comes
to the end of the events if nothing else happens. It dials the addresses whose entries were closed and whose
close events it found, once each; these have new entries then, or none, and everything else stays. -/
theorem close_events_settle (hreachable : system.Reachable)
    (hpresent : system.world.services[service]? = some present)
    (hopen : present.pool.isClosed = false) (queues : List EventQueue) :
    (∃ history later moved,
      (system.world.withQueues queues).Drains present.pool history later moved) ∧
    ∀ history later moved, (system.world.withQueues queues).Drains present.pool history later moved →
      (present.upkeep.running = true → present.owned = true → present.upkeep.agenda = [] →
        ∃ actions, (∀ action ∈ actions, action.Works service) ∧
          (System.mk (system.world.withQueues queues) system.calls).run actions =
            ⟨later.setWork service moved [], system.calls⟩) ∧
      (system.world.withQueues queues).Drained present.pool history later moved ∧
      ∀ addr ∈ dialled history,
        (system.world.withQueues queues).Reopened present.pool addr later moved := by
  have hsound := (World.extends_withQueues system.world queues).sound
    (hreachable.sound.pool_sound hpresent)
  constructor
  · refine World.exists_drains _ _ (present.pool.topology.rw.addrs ++ present.pool.topology.ro.addrs)
      ?_ hsound hopen
    rintro addr ⟨connection, role, hlookup, -⟩
    have hmem : addr ∈ (present.pool.topology.subpool role).addrs :=
      List.mem_map.mpr ⟨_, hsound.consistent.lookup?_eq_some_iff.mp hlookup, rfl⟩
    cases role with
    | master => exact List.mem_append_left _ hmem
    | replica => exact List.mem_append_right _ hmem
  · intro history later moved hdrains
    have hdrained := hdrains.drained hsound hopen
    refine ⟨?_, hdrained, ?_⟩
    · intro hrunning howned hagenda
      have hpresent' : (system.world.withQueues queues).services[service]? = some present := hpresent
      have hself := World.setWork_self hpresent'
      have hrun := hdrains.exists_run system.calls hpresent' hrunning howned hopen
      rw [hagenda] at hself
      rwa [hself] at hrun
    · intro addr hmem
      exact hdrained.refreshed.reopened hmem ((hdrained.dialled_iff addr).mp hmem).1

def restartedRun : List Action :=
  soloRun ++ [.change (.stop 0), .change (.start 0)]

theorem close_events_settle_restarted :
    ∃ present history later moved connection,
      (run {} restartedRun).world.services[0]? = some present ∧
      present.pool.topology.lookup? "127.0.0.1:3301" = some (0, .master) ∧
      (run {} restartedRun).world.Drains present.pool history later moved ∧
      "127.0.0.1:3301" ∈ dialled history ∧ 0 < connection ∧
      moved.topology.lookup? "127.0.0.1:3301" = some (connection, .master) ∧
      later.cluster.link connection = .connected := by
  have hservice : (run {} restartedRun).world.services[0]?.map (fun present =>
      (present.pool.isClosed, present.pool.topology.lookup? "127.0.0.1:3301",
        (run {} restartedRun).world.trial present.pool.options.probeTimeout "127.0.0.1:3301",
        (run {} restartedRun).world.cluster.pending present.pool.queue)) =
      some (false, some (0, .master), some .master, [⟨"127.0.0.1:3301", .connected⟩,
        ⟨"127.0.0.1:3301", .disconnected⟩, ⟨"127.0.0.1:3301", .closed⟩]) := by
    decide +kernel
  obtain ⟨present, hpresent, hvalues⟩ := Option.map_eq_some_iff.mp hservice
  obtain ⟨hopen, hvalues⟩ := Prod.mk.inj hvalues
  obtain ⟨hlookup, hvalues⟩ := Prod.mk.inj hvalues
  obtain ⟨hshown, hwaiting⟩ := Prod.mk.inj hvalues
  obtain ⟨⟨history, later, moved, hdrains⟩, hall⟩ :=
    close_events_settle ⟨restartedRun, rfl⟩ hpresent hopen (run {} restartedRun).world.cluster.queues
  obtain ⟨-, hdrained, hreopened⟩ := hall history later moved hdrains
  have hbroken : (run {} restartedRun).world.Broken present.pool "127.0.0.1:3301" :=
    ⟨0, .master, hlookup, by decide +kernel⟩
  have hheard : ⟨"127.0.0.1:3301", .closed⟩ ∈ history.map Handling.event := by
    have hprefix : (run {} restartedRun).world.cluster.pending present.pool.queue <+:
        history.map Handling.event := hdrained.heard
    rw [hwaiting] at hprefix
    exact hprefix.subset (by simp)
  have hmem := (hdrained.dialled_iff _).mpr ⟨hbroken, hheard⟩
  cases hreopened _ hmem with
  | @admitted connection role node taker hfiled hnew haccepts htrial hfresh hconnected =>
      have hrole : some Role.master = some role := hshown.symm.trans htrial
      cases hrole
      have hlength : (run {} restartedRun).world.cluster.connections.length = 1 := by decide +kernel
      have hpositive : 1 ≤ connection := hlength ▸ hnew
      exact ⟨present, history, later, moved, connection, hpresent, hlookup, hdrains, hmem, hpositive,
        hfiled, (hconnected (Option.isNone_iff_eq_none.mp (by decide +kernel))).1⟩
  | absent htrial habsent =>
      have hnone : some Role.master = none := hshown.symm.trans htrial
      cases hnone

end System

end ReplicaPool
