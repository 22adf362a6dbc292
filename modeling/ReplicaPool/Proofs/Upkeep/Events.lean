import ReplicaPool.Proofs.Upkeep.Dials
import ReplicaPool.Proofs.Upkeep.Refresh

/-!
# Handling events

A worker takes the events of its queue one by one, and handling one may emit more. Only a close event whose
address still has a closed connection leads to a dial, and this dial replaces the connection or evicts it,
before the events that it emits are read. So the closed entries and the queue get smaller in turn until the
queue is empty.
-/

namespace ReplicaPool

/-! ### Waiting events -/

namespace Cluster

variable {cluster : Cluster} {queue : QueueId}

def pending (cluster : Cluster) (queue : QueueId) : List Event :=
  match cluster.queues[queue]? with
  | some present => present.pending
  | none => []

theorem pending_emit (cluster : Cluster) (target queue : QueueId) (event : Event) :
    cluster.pending queue <+: (cluster.modifyQueue target (·.emit event)).pending queue := by
  have hemit : ∀ present : EventQueue, present.pending <+: (present.emit event).pending := by
    intro present
    unfold EventQueue.emit
    split
    · exact List.prefix_append _ _
    · exact List.prefix_refl _
  simp only [pending, modifyQueue, List.getElem?_modify]
  cases cluster.queues[queue]? with
  | none => exact List.prefix_refl _
  | some present =>
      by_cases hsame : target = queue
      · simpa [hsame] using hemit present
      · simp [hsame]

theorem pending_deliver (cluster : Cluster) (queue : QueueId) (reports : List (QueueId × Event)) :
    cluster.pending queue <+: (cluster.deliver reports).pending queue := by
  induction reports generalizing cluster with
  | nil => exact List.prefix_refl _
  | cons report rest ih => exact (pending_emit cluster _ queue _).trans (ih _)

theorem pending_dial (cluster : Cluster) (addr : String) (target queue : QueueId) :
    cluster.pending queue <+: (cluster.dial addr target).1.pending queue := by
  by_cases haccepts : ∃ node taker, cluster.Accepts addr node taker
  · obtain ⟨node, taker, haccepts⟩ := haccepts
    let made : Cluster :=
      { cluster with
        dials := cluster.dials + 1
        connections := cluster.connections ++ [fresh addr target node taker] }
    rw [dial_of_accepts haccepts]
    exact pending_deliver made queue [(target, ⟨addr, .connected⟩)]
  · rw [dial_of_refused haccepts]
    exact List.prefix_refl _

theorem pending_close (cluster : Cluster) (connection : ConnectionId) (queue : QueueId) :
    cluster.pending queue <+: (cluster.close connection).pending queue := by
  simp only [close, shift]
  refine List.IsPrefix.trans ?_ (pending_deliver _ queue _)
  exact List.prefix_refl _

theorem pending_execute (cluster : Cluster) (connection : ConnectionId) (request : Request)
    (queue : QueueId) : (cluster.execute connection request).1.pending queue =
      cluster.pending queue := by
  unfold execute
  split
  · rfl
  · split
    · rfl
    · rfl
    · split <;> rfl

end Cluster

namespace World

variable {world heard later : World} {pool moved : Pool} {event : Event} {queue : QueueId}
  {addr : String}

theorem Touched.pending (htouched : Touched world queue later) (target : QueueId) :
    world.cluster.pending target <+: later.cluster.pending target := by
  cases htouched with
  | same => exact List.prefix_refl _
  | dial addr => exact Cluster.pending_dial _ addr queue target
  | execute connection hreads =>
      exact (Cluster.pending_execute world.cluster connection _ target).symm ▸
        List.prefix_refl _
  | close connection => exact Cluster.pending_close _ connection target

theorem pending_carryOut (world : World) (pool : Pool) (agenda : List Job) (queue : QueueId) :
    world.cluster.pending queue <+: (world.carryOut pool agenda).1.cluster.pending queue := by
  fun_induction carryOut world pool agenda with
  | case1 world pool => exact List.prefix_refl _
  | case2 world pool job rest ih =>
      rw [← cluster_awaitDue world job]
      exact ((touched_perform (world.awaitDue job) pool job).pending queue).trans ih

def hear? (world : World) (queue : QueueId) : Option (Event × World) :=
  (world.cluster.queues[queue]?.bind EventQueue.take?).map fun (event, rest) =>
    (event, { world with cluster := world.cluster.modifyQueue queue fun _ => rest })

theorem pending_of_hear?_eq_none (hnone : world.hear? queue = none) :
    world.cluster.pending queue = [] := by
  unfold Cluster.pending
  cases hqueue : world.cluster.queues[queue]? with
  | none => rfl
  | some present =>
      simp only [hear?, hqueue, Option.bind_some, Option.map_eq_none_iff, EventQueue.take?] at hnone
      split at hnone
      · cases hnone
      · assumption

theorem pending_of_hear? (hheard : world.hear? queue = some (event, heard)) :
    world.cluster.pending queue = event :: heard.cluster.pending queue := by
  obtain ⟨⟨first, rest⟩, htake, hsame⟩ := Option.map_eq_some_iff.mp hheard
  cases hsame
  obtain ⟨present, hpresent, htake⟩ := Option.bind_eq_some_iff.mp htake
  unfold EventQueue.take? at htake
  split at htake
  · rename_i others hpending
    cases htake
    simp [Cluster.pending, Cluster.modifyQueue, hpresent, hpending]
  · cases htake

theorem extends_of_hear? (hheard : world.hear? queue = some (event, heard)) :
    world.Extends heard := by
  obtain ⟨⟨first, rest⟩, -, hsame⟩ := Option.map_eq_some_iff.mp hheard
  cases hsame
  exact ⟨rfl, rfl, rfl, Nat.le_refl _, fun _ => rfl⟩

/-! ### Closed entries -/

/-- An address whose entry is a closed connection. -/
def Broken (world : World) (pool : Pool) (addr : String) : Prop :=
  ∃ connection role, pool.topology.lookup? addr = some (connection, role) ∧
    world.cluster.link connection = .closed

theorem Broken.vacant (hbroken : world.Broken pool addr) : world.Vacant pool addr := by
  obtain ⟨connection, role, hlookup, hclosed⟩ := hbroken
  intro other filed hfiled
  rw [hlookup] at hfiled
  cases hfiled
  exact hclosed

theorem onEvent_of_broken (hkind : event.kind = .closed) (hbroken : world.Broken pool event.addr) :
    world.onEvent pool event = [.dial event.addr .reopen] := by
  obtain ⟨connection, role, hlookup, hclosed⟩ := hbroken
  simp only [onEvent, hkind, hlookup, Cluster.isClosed_iff.mpr hclosed, if_true]

/-- Reports of other kinds, and close reports of addresses without a closed entry, give rise to nothing. -/
theorem onEvent_of_not_broken (hbroken : event.kind = .closed → ¬world.Broken pool event.addr) :
    world.onEvent pool event = [] := by
  unfold onEvent
  split
  · rename_i hkind
    split
    · rename_i connection role hlookup
      split
      · rename_i hclosed
        exact absurd ⟨connection, role, hlookup, Cluster.isClosed_iff.mp hclosed⟩ (hbroken hkind)
      · rfl
    · rfl
  · rfl

theorem Refreshed.broken_iff {addrs : List String} (hsound : pool.Sound world.cluster)
    (hrefreshed : Refreshed world pool addrs later moved) (hother : addr ∉ addrs) :
    later.Broken moved addr ↔ world.Broken pool addr := by
  unfold Broken
  rw [hrefreshed.kept hother]
  constructor <;> rintro ⟨connection, role, hlookup, hclosed⟩
  · exact ⟨connection, role, hlookup,
      (hrefreshed.extended.link_eq (hsound.serves hlookup).lt_length).symm.trans hclosed⟩
  · exact ⟨connection, role, hlookup,
      (hrefreshed.extended.link_eq (hsound.serves hlookup).lt_length).trans hclosed⟩

/-- An address that was looked after has no closed entry. -/
theorem Refreshed.not_broken {addrs : List String} (hsound : pool.Sound world.cluster)
    (hrefreshed : Refreshed world pool addrs later moved) (hmem : addr ∈ addrs) :
    ¬later.Broken moved addr := by
  rintro ⟨connection, role, hlookup, hclosed⟩
  have hsettled := hrefreshed.settled hsound hmem
  simp only [Settled, hlookup] at hsettled
  obtain ⟨present, hpresent, hlive, -⟩ := hsettled
  exact hlive ((Cluster.link_eq hpresent).symm.trans hclosed)

/-! ### Until the queue is empty -/

end World

structure Handling where
  event : Event
  /-- The jobs that were performed for it. -/
  jobs : List Job
  before : Pool
  after : Pool

namespace Handling

def dialled (history : List Handling) : List String :=
  Job.dialled (history.flatMap jobs)

def reached (history : List Handling) : List String :=
  Job.reached (history.flatMap jobs)

theorem dialled_cons (handling : Handling) (history : List Handling) :
    dialled (handling :: history) = Job.dialled handling.jobs ++ dialled history := by
  simp only [dialled, Job.dialled, List.flatMap_cons, List.filterMap_append]

theorem reached_cons (handling : Handling) (history : List Handling) :
    reached (handling :: history) = Job.reached handling.jobs ++ reached history := by
  simp only [reached, Job.reached, List.flatMap_cons, List.filterMap_append]

end Handling

open Handling (dialled reached)

namespace World

variable {world heard later : World} {pool moved : Pool} {event : Event} {addr : String}
  {addrs : List String} {history : List Handling}

/-- The worker of a pool handles events until none waits, and nothing else happens. -/
inductive Drains : World → Pool → List Handling → World → Pool → Prop
  | done {world : World} {pool : Pool} (hnone : world.hear? pool.queue = none) :
      Drains world pool [] world pool
  | handle {world heard later : World} {pool moved : Pool} {event : Event}
      {history : List Handling} (hheard : world.hear? pool.queue = some (event, heard))
      (hrest : Drains (heard.carryOut pool (heard.onEvent pool event)).1
        (heard.carryOut pool (heard.onEvent pool event)).2 history later moved) :
      Drains world pool
        (⟨event, heard.performed pool (heard.onEvent pool event), pool,
          (heard.carryOut pool (heard.onEvent pool event)).2⟩ :: history) later moved

structure Drained (world : World) (pool : Pool) (history : List Handling) (later : World)
    (moved : Pool) : Prop where
  /-- The addresses that were dialled have new entries or none, and everything else is as it was. -/
  refreshed : Refreshed world pool (dialled history) later moved
  silent : later.cluster.pending pool.queue = []
  /-- All events that waited were handled, in their order. -/
  heard : world.cluster.pending pool.queue <+: history.map Handling.event
  dialled_nodup : (dialled history).Nodup
  reached : (reached history).Sublist (dialled history)
  dialled_iff : ∀ addr, addr ∈ dialled history ↔
    world.Broken pool addr ∧ ⟨addr, .closed⟩ ∈ history.map Handling.event
  /-- Other events changed nothing. -/
  idle : ∀ handling ∈ history, (handling.jobs = [] ∧ handling.after = handling.before) ∨
    (handling.event.kind = .closed ∧ Job.dialled handling.jobs = [handling.event.addr])

theorem Refreshed.of_extends (hsound : pool.Sound world.cluster) (hextends : world.Extends heard)
    (hrefreshed : Refreshed heard pool addrs later moved) : Refreshed world pool addrs later moved := by
  have hheard : Refreshed world pool [] heard pool :=
    ⟨hextends, rfl, rfl, hextends.sound hsound, fun _ hmem => absurd hmem List.not_mem_nil,
      fun _ => rfl⟩
  exact hheard.trans hsound hrefreshed fun _ hmem => absurd hmem List.not_mem_nil

theorem broken_of_hear? (hsound : pool.Sound world.cluster) (hextends : world.Extends heard) :
    heard.Broken pool addr ↔ world.Broken pool addr :=
  Refreshed.broken_iff hsound
    (Refreshed.of_extends hsound hextends (Refreshed.refl (hextends.sound hsound)))
    List.not_mem_nil

theorem refreshed_reopen (hsound : pool.Sound world.cluster) (hopen : pool.isClosed = false)
    (hextends : world.Extends heard) (hbroken : world.Broken pool addr) :
    Refreshed world pool [addr] (heard.carryOut pool [.dial addr .reopen]).1
      (heard.carryOut pool [.dial addr .reopen]).2 := by
  apply Refreshed.of_extends hsound hextends
  apply refreshed_dial (hextends.sound hsound) hopen
  · exact ((broken_of_hear? hsound hextends).mpr hbroken).vacant
  · nofun

theorem Drained.done (hsound : pool.Sound world.cluster)
    (hnone : world.hear? pool.queue = none) : Drained world pool [] world pool where
  refreshed := .refl hsound
  silent := pending_of_hear?_eq_none hnone
  heard := (pending_of_hear?_eq_none hnone) ▸ List.prefix_refl _
  dialled_nodup := List.nodup_nil
  reached := List.Sublist.refl _
  dialled_iff := fun _ => ⟨fun hmem => absurd hmem List.not_mem_nil,
    fun hboth => absurd hboth.2 List.not_mem_nil⟩
  idle := fun _ hmem => absurd hmem List.not_mem_nil

theorem Drained.pass (hsound : pool.Sound world.cluster)
    (hheard : world.hear? pool.queue = some (event, heard))
    (hbroken : event.kind = .closed → ¬world.Broken pool event.addr)
    (hdrained : Drained heard pool history later moved) :
    Drained world pool (⟨event, [], pool, pool⟩ :: history) later moved where
  refreshed := hdrained.refreshed.of_extends hsound (extends_of_hear? hheard)
  silent := hdrained.silent
  heard := by
    rw [pending_of_hear? hheard]
    exact List.prefix_cons_inj event |>.mpr hdrained.heard
  dialled_nodup := hdrained.dialled_nodup
  reached := hdrained.reached
  dialled_iff := by
    intro addr
    rw [Handling.dialled_cons]
    simp only [Job.dialled, List.filterMap_nil, List.nil_append, List.map_cons, List.mem_cons]
    rw [hdrained.dialled_iff addr, broken_of_hear? hsound (extends_of_hear? hheard)]
    refine and_congr_right fun hwas => ⟨Or.inr, fun hmem => hmem.resolve_left ?_⟩
    rintro rfl
    exact hbroken rfl hwas
  idle := List.forall_mem_cons.mpr ⟨Or.inl ⟨rfl, rfl⟩, hdrained.idle⟩

theorem Drained.reopen (hsound : pool.Sound world.cluster) (hopen : pool.isClosed = false)
    (hheard : world.hear? pool.queue = some (event, heard)) (hkind : event.kind = .closed)
    (hbroken : world.Broken pool event.addr)
    (hdrained : Drained (heard.carryOut pool [.dial event.addr .reopen]).1
      (heard.carryOut pool [.dial event.addr .reopen]).2 history later moved) :
    Drained world pool (⟨event, heard.performed pool [.dial event.addr .reopen], pool,
      (heard.carryOut pool [.dial event.addr .reopen]).2⟩ :: history) later moved := by
  have hdial := refreshed_reopen hsound hopen (extends_of_hear? hheard) hbroken
  obtain ⟨hdialled, hreached⟩ := dialled_performed_dial heard pool event.addr .reopen
  have hfixed : event.addr ∉ dialled history := fun hmem =>
    hdial.not_broken hsound (List.mem_singleton_self _) ((hdrained.dialled_iff _).mp hmem).1
  have hsilent := hdrained.silent
  rw [hdial.queue_eq] at hsilent
  have hwaiting := hdrained.heard
  rw [hdial.queue_eq] at hwaiting
  refine ⟨?_, hsilent, ?_, ?_, ?_, ?_, ?_⟩
  · rw [Handling.dialled_cons, hdialled]
    refine hdial.trans hsound hdrained.refreshed fun addr hmem => ?_
    rw [List.mem_singleton.mp hmem]
    exact hfixed
  · rw [pending_of_hear? hheard]
    exact (List.prefix_cons_inj event).mpr ((pending_carryOut _ _ _ _).trans hwaiting)
  · rw [Handling.dialled_cons, hdialled]
    exact List.nodup_cons.mpr ⟨hfixed, hdrained.dialled_nodup⟩
  · rw [Handling.dialled_cons, Handling.reached_cons, hdialled]
    exact hreached.append hdrained.reached
  · intro addr
    rw [Handling.dialled_cons, hdialled]
    by_cases hsame : addr = event.addr
    · subst hsame
      have hevent : event = ⟨event.addr, .closed⟩ := by rw [← hkind]
      simp [hbroken, ← hevent]
    · have hother : addr ∉ [event.addr] := fun hmem => hsame (List.mem_singleton.mp hmem)
      have hevent : (⟨addr, .closed⟩ : Event) ≠ event := fun hevent => hsame (hevent ▸ rfl)
      simp only [List.singleton_append, List.mem_cons, hsame, false_or, List.map_cons, hevent]
      rw [hdrained.dialled_iff addr, hdial.broken_iff hsound hother]
  · exact List.forall_mem_cons.mpr ⟨Or.inr ⟨hkind, hdialled⟩, hdrained.idle⟩

theorem Drains.drained (hdrains : world.Drains pool history later moved)
    (hsound : pool.Sound world.cluster) (hopen : pool.isClosed = false) :
    Drained world pool history later moved := by
  induction hdrains with
  | done hnone => exact .done hsound hnone
  | @handle world heard later pool moved event history hheard hrest ih =>
      have hextends := extends_of_hear? hheard
      by_cases hbroken : event.kind = .closed ∧ world.Broken pool event.addr
      · obtain ⟨hkind, hbroken⟩ := hbroken
        have hstill := (broken_of_hear? hsound hextends).mpr hbroken
        have hdial := refreshed_reopen hsound hopen hextends hbroken
        rw [onEvent_of_broken hkind hstill] at ih ⊢
        exact .reopen hsound hopen hheard hkind hbroken
          (ih hdial.sound (hdial.isClosed_eq.trans hopen))
      · have hsilent : event.kind = .closed → ¬heard.Broken pool event.addr := fun hkind hstill =>
          hbroken ⟨hkind, (broken_of_hear? hsound hextends).mp hstill⟩
        rw [onEvent_of_not_broken hsilent, carryOut_nil] at ih
        rw [onEvent_of_not_broken hsilent, carryOut_nil, performed_nil]
        exact .pass hsound hheard (fun hkind hwas => hbroken ⟨hkind, hwas⟩)
          (ih (hextends.sound hsound) hopen)

/-- What became of an address that was dialled: it has a new connection under the role that this shows, or
none if a connection would show no role. A connection that answers for itself is usable then. -/
inductive Reopened (world : World) (pool : Pool) (addr : String) (later : World) (moved : Pool) : Prop
  | admitted {connection : ConnectionId} {role : Role} {node : NodeId} {taker : Node}
      (hlookup : moved.topology.lookup? addr = some (connection, role))
      (hnew : world.cluster.connections.length ≤ connection)
      (haccepts : world.cluster.Accepts addr node taker)
      (htrial : world.trial pool.options.probeTimeout addr = some role)
      (hpresent : later.cluster.connections[connection]? =
        some (Cluster.fresh addr pool.queue node taker))
      (hconnected : (world.script addr).info = none →
        later.cluster.link connection = .connected ∧ role = Role.ofReadOnly taker.readOnly)
  | absent (htrial : world.trial pool.options.probeTimeout addr = none)
      (habsent : ∀ role, addr ∉ (moved.topology.subpool role).addrs)

theorem connected_of_verdict {limit : Nat} {present : Connection} {role : Role}
    (hinfo : (world.script present.addr).info = none)
    (hverdict : world.verdict limit present = some role) :
    present.link = .connected ∧ ∃ node, world.cluster.nodes[present.node]? = some node ∧
      role = Role.ofReadOnly node.readOnly := by
  simp only [verdict, hinfo] at hverdict
  split at hverdict
  · cases hfailure : (world.script present.addr).infoFailure with
    | some failure =>
        rw [hfailure] at hverdict
        cases hverdict
    | none =>
        rw [hfailure] at hverdict
        cases hlink : present.link <;> cases hnode : world.cluster.nodes[present.node]? <;>
          simp only [hlink, hnode, reduceCtorEq] at hverdict
        exact ⟨rfl, _, rfl, (Option.some.inj hverdict).symm⟩
  · cases hverdict

theorem Refreshed.reopened (hrefreshed : Refreshed world pool addrs later moved)
    (hmem : addr ∈ addrs) (hbroken : world.Broken pool addr) :
    world.Reopened pool addr later moved := by
  have hvacant := hbroken.vacant
  generalize hentry : moved.topology.lookup? addr = entry
  have hrenewed := hrefreshed.renewed addr hmem
  rw [hentry] at hrenewed
  cases hrenewed with
  | reviewed hlookup hpresent hlive =>
      exact absurd ((Cluster.link_eq hpresent).symm.trans (hvacant _ _ hlookup)) hlive
  | @replaced connection role node taker _ htrial haccepts hnew hpresent =>
      refine .admitted hentry hnew haccepts htrial hpresent fun hinfo => ?_
      have hverdict := verdict_of_trial pool.queue htrial haccepts
      obtain ⟨hlink, found, hfound, hrole⟩ := connected_of_verdict hinfo hverdict
      obtain rfl : taker = found := Option.some.inj (haccepts.node.symm.trans hfound)
      exact ⟨(Cluster.link_eq hpresent).trans hlink, hrole⟩
  | absent _ htrial =>
      exact .absent htrial (hrefreshed.sound.consistent.lookup?_eq_none_iff.mp hentry)

/-- There are only so many closed entries. While an event is passed over, the queue gets shorter; when one
leads to a dial, it may get longer, but an entry is closed no more. -/
theorem exists_drains (world : World) (pool : Pool) (addrs : List String)
    (hcovers : ∀ addr, world.Broken pool addr → addr ∈ addrs) (hsound : pool.Sound world.cluster)
    (hopen : pool.isClosed = false) :
    ∃ history later moved, world.Drains pool history later moved := by
  cases hheard : world.hear? pool.queue with
  | none => exact ⟨[], world, pool, .done hheard⟩
  | some taken =>
      obtain ⟨event, heard⟩ := taken
      have hextends := extends_of_hear? hheard
      by_cases hbroken : event.kind = .closed ∧ world.Broken pool event.addr
      · obtain ⟨hkind, hbroken⟩ := hbroken
        have hstill := (broken_of_hear? hsound hextends).mpr hbroken
        have hdial := refreshed_reopen hsound hopen hextends hbroken
        have hfewer : ∀ addr, (heard.carryOut pool [.dial event.addr .reopen]).1.Broken
            (heard.carryOut pool [.dial event.addr .reopen]).2 addr →
              addr ∈ addrs.erase event.addr := by
          intro addr hlater
          have hother : addr ≠ event.addr := fun hsame =>
            hdial.not_broken hsound (List.mem_singleton.mpr hsame) hlater
          have hbefore := (hdial.broken_iff hsound fun hmem => hother (List.mem_singleton.mp hmem)).mp
            hlater
          exact (List.mem_erase_of_ne hother).mpr (hcovers addr hbefore)
        have hless : (addrs.erase event.addr).length < addrs.length := by
          have hpositive := List.length_pos_of_mem (hcovers _ hbroken)
          rw [List.length_erase_of_mem (hcovers _ hbroken)]
          omega
        obtain ⟨history, later, moved, hrest⟩ := exists_drains _ _ _ hfewer hdial.sound
          (hdial.isClosed_eq.trans hopen)
        exact ⟨_, later, moved, .handle hheard ((onEvent_of_broken hkind hstill).symm ▸ hrest)⟩
      · have hsilent : event.kind = .closed → ¬heard.Broken pool event.addr := fun hkind hstill =>
          hbroken ⟨hkind, (broken_of_hear? hsound hextends).mp hstill⟩
        have hcovers' : ∀ addr, heard.Broken pool addr → addr ∈ addrs := fun addr hlater =>
          hcovers addr ((broken_of_hear? hsound hextends).mp hlater)
        have hshorter : (heard.cluster.pending pool.queue).length <
            (world.cluster.pending pool.queue).length := by
          rw [pending_of_hear? hheard]
          exact Nat.lt_succ_self _
        obtain ⟨history, later, moved, hrest⟩ :=
          exists_drains heard pool addrs hcovers' (hextends.sound hsound) hopen
        have hthen : (heard.carryOut pool (heard.onEvent pool event)).1.Drains
            (heard.carryOut pool (heard.onEvent pool event)).2 history later moved := by
          rw [onEvent_of_not_broken hsilent, carryOut_nil]
          exact hrest
        exact ⟨_, later, moved, .handle hheard hthen⟩
termination_by (addrs.length, (world.cluster.pending pool.queue).length)

end World

end ReplicaPool
