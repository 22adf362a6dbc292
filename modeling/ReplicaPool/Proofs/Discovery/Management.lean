import ReplicaPool.Proofs.Pool.Routing
import ReplicaPool.Proofs.System.Steps

/-!
# Only managed addresses have entries

Reconciliation files new members before it adopts them and drops the others before that, so in between an
entry may be at an address that is not managed. `scope` reads off the agenda which addresses can have one:
those that a reconciliation is going to adopt or still has to drop, and the managed ones if there is none.
`ManagedUpkeep` says that no entry and no attempt is outside of this scope. When a pool is at rest this
leaves the managed addresses only.
-/

namespace ReplicaPool

namespace Job

/-- The addresses at which a job, or one that follows from it, may file a connection. -/
def aims : Job → List String
  | .refresh addrs => addrs
  | .reconcile fresh _ _ => fresh
  | .dial addr _ => [addr]
  | .reach addr _ => [addr]
  | job => job.carries?.toList.map Prod.fst

def leads : Job → Bool
  | .discover => true
  | .learn _ _ => true
  | .reconcile _ _ _ => true
  | _ => false

end Job

/-- The addresses that may have entries while an agenda is carried out. -/
def scope (addrs : List String) : List Job → List String
  | [] => addrs
  | .reconcile _ gone members :: _ => members ++ gone
  | _ :: rest => scope addrs rest

section Scope

variable {addrs : List String} {job : Job} {next rest : List Job}

theorem scope_cons (hjob : job.leads = false) : scope addrs (job :: rest) = scope addrs rest := by
  cases job <;> first | rfl | cases hjob

theorem scope_append (hnext : ∀ follower ∈ next, follower.leads = false) :
    scope addrs (next ++ rest) = scope addrs rest := by
  induction next with
  | nil => rfl
  | cons follower next ih =>
      rw [List.cons_append, scope_cons (hnext follower List.mem_cons_self)]
      exact ih fun other hmem => hnext other (List.mem_cons_of_mem _ hmem)

end Scope

structure ManagedUpkeep (pool : Pool) (agenda : List Job) : Prop where
  filed : ∀ {addr : String} {entry : ConnectionId × Role},
    pool.topology.lookup? addr = some entry → addr ∈ scope pool.topology.addrs agenda
  aims : ∀ job ∈ agenda, ∀ addr ∈ job.aims, addr ∈ scope pool.topology.addrs agenda
  leading : agenda.Pairwise fun earlier _ => earlier.leads = false

namespace ManagedUpkeep

variable {world : World} {pool moved : Pool} {job : Job} {rest next agenda : List Job}
  {addr : String} {connection : ConnectionId} {role : Role}

theorem congr (hmanaged : ManagedUpkeep pool agenda)
    (hlookup : ∀ addr, moved.topology.lookup? addr = pool.topology.lookup? addr)
    (haddrs : moved.topology.addrs = pool.topology.addrs) : ManagedUpkeep moved agenda where
  filed := by
    intro addr entry hentry
    rw [hlookup] at hentry
    rw [haddrs]
    exact hmanaged.filed hentry
  aims := by
    rw [haddrs]
    exact hmanaged.aims
  leading := hmanaged.leading

theorem rest_eq_nil (hmanaged : ManagedUpkeep pool (job :: rest)) (hjob : job.leads = true) :
    rest = [] := by
  cases rest with
  | nil => rfl
  | cons later rest =>
      have hpair := (List.pairwise_cons.mp hmanaged.leading).1 later List.mem_cons_self
      rw [hjob] at hpair
      cases hpair

theorem idle (hmanaged : ManagedUpkeep pool (job :: rest))
    (hscope : scope pool.topology.addrs (job :: rest) = pool.topology.addrs) :
    ManagedUpkeep pool [] where
  filed := by
    intro addr entry hentry
    have hmem := hmanaged.filed hentry
    rwa [hscope] at hmem
  aims := fun _ hmem => by cases hmem
  leading := List.Pairwise.nil

theorem begin (hmanaged : ManagedUpkeep pool []) (hscope : scope pool.topology.addrs [job] =
    pool.topology.addrs) (haims : ∀ addr ∈ job.aims, addr ∈ pool.topology.addrs) :
    ManagedUpkeep pool [job] where
  filed := by
    intro addr entry hentry
    rw [hscope]
    exact hmanaged.filed hentry
  aims := by
    intro other hother addr haim
    rw [hscope]
    rw [List.mem_singleton.mp hother] at haim
    exact haims addr haim
  leading := List.pairwise_singleton _ _

/-! ### Jobs that are no stage of a discovery -/

theorem aims_refreshAddr {follower : Job} (hmem : follower ∈ world.refreshAddr pool addr) :
    follower.leads = false ∧ ∀ target ∈ follower.aims, target = addr := by
  simp only [World.refreshAddr] at hmem
  split at hmem
  · split at hmem <;>
      (rw [List.mem_singleton.mp hmem]; simp [Job.leads, Job.aims, Job.carries?])
  · rw [List.mem_singleton.mp hmem]
    simp [Job.leads, Job.aims]

theorem aims_conclude {goal : Goal} {outcome : Except PoolError Role} {follower : Job}
    (hmem : follower ∈ goal.conclude connection outcome) :
    follower.leads = false ∧
      ∀ addr ∈ follower.aims, addr ∈ (Job.probe connection goal).aims := by
  cases goal with
  | file target purpose =>
      cases outcome <;> simp only [Goal.conclude, List.mem_cons, List.not_mem_nil, or_false] at hmem
      · rcases hmem with rfl | rfl <;> simp [Job.leads, Job.aims, Job.carries?]
      · rw [hmem]
        simp [Job.leads, Job.aims, Job.carries?]
  | review target current =>
      cases outcome with
      | error cause => cases hmem
      | ok role =>
          simp only [Goal.conclude] at hmem
          split at hmem
          · cases hmem
          · rw [List.mem_singleton.mp hmem]
            simp [Job.leads, Job.aims, Job.carries?]

theorem eq_close_of_afterOffer {admission : Admission} {follower : Job}
    (hmem : follower ∈ world.afterOffer connection admission) :
    ∃ closing, follower = .close closing := by
  unfold World.afterOffer at hmem
  split at hmem
  · exact ⟨_, List.mem_singleton.mp hmem⟩
  · cases hmem
  · split at hmem
    · cases hmem
    · exact ⟨_, List.mem_singleton.mp hmem⟩

theorem aims_afterOffer {admission : Admission} {follower : Job}
    (hmem : follower ∈ world.afterOffer connection admission) :
    follower.leads = false ∧ follower.aims = [] := by
  obtain ⟨closing, rfl⟩ := eq_close_of_afterOffer hmem
  exact ⟨rfl, rfl⟩

/-- A job that is no stage of a discovery is followed by such jobs, and they aim at no other address. -/
theorem aims_perform (hjob : job.leads = false) {follower : Job}
    (hmem : follower ∈ (world.perform pool job).2.2) :
    follower.leads = false ∧ ∀ addr ∈ follower.aims, addr ∈ job.aims := by
  cases job with
  | discover => cases hjob
  | learn connection script => cases hjob
  | reconcile fresh gone members => cases hjob
  | refresh addrs =>
      cases addrs with
      | nil => cases hmem
      | cons addr addrs =>
          simp only [World.perform] at hmem
          split at hmem
          · cases hmem
          · rcases List.mem_append.mp hmem with hfirst | hlast
            · obtain ⟨hleads, haims⟩ := aims_refreshAddr hfirst
              refine ⟨hleads, fun target htarget => ?_⟩
              rw [haims target htarget]
              exact List.mem_cons_self
            · rw [List.mem_singleton.mp hlast]
              exact ⟨rfl, fun target htarget => List.mem_cons_of_mem _ htarget⟩
  | dial addr purpose =>
      rcases mem_beginDial hmem with ⟨due, rfl⟩ | rfl | rfl <;>
        simp [Job.leads, Job.aims, Job.carries?]
  | reach addr purpose =>
      change follower ∈ Job.afterDial addr purpose (world.cluster.dial addr pool.queue).2 at hmem
      unfold Job.afterDial at hmem
      split at hmem <;>
        (rw [List.mem_singleton.mp hmem]; simp [Job.leads, Job.aims, Job.carries?])
  | fail addr purpose => cases purpose <;> cases hmem
  | probe connection goal =>
      rcases mem_beginProbe hmem with ⟨due, rfl⟩ | ⟨script, rfl⟩ | rfl <;>
        cases goal <;> simp [Job.leads, Job.aims, Job.carries?]
  | classify connection goal script =>
      have haims : (Job.classify connection goal script).aims = (Job.probe connection goal).aims := by
        cases goal <;> rfl
      rw [haims]
      exact aims_conclude hmem
  | missed connection goal =>
      have haims : (Job.missed connection goal).aims = (Job.probe connection goal).aims := by
        cases goal <;> rfl
      rw [haims]
      exact aims_conclude hmem
  | offer addr connection role =>
      obtain ⟨hleads, haims⟩ := aims_afterOffer hmem
      refine ⟨hleads, fun target haim => ?_⟩
      rw [haims] at haim
      cases haim
  | _ => cases hmem

theorem addrs_perform (hconsistent : pool.topology.Consistent) (hjob : job.leads = false) :
    (world.perform pool job).2.1.topology.addrs = pool.topology.addrs := by
  cases job with
  | discover => cases hjob
  | learn connection script => cases hjob
  | reconcile fresh gone members => cases hjob
  | refresh addrs =>
      cases addrs with
      | nil => rfl
      | cons addr addrs =>
          simp only [World.perform]
          split <;> rfl
  | fail addr purpose =>
      cases purpose with
      | enlist => rfl
      | reopen =>
          simp only [World.perform, Pool.evict_eq hconsistent]
          split
          · rfl
          · exact Topology.addrs_remove _ _
  | offer addr connection role =>
      simp only [World.perform, Pool.file_eq hconsistent]
      split
      · rfl
      · exact Topology.addrs_put _ _ _ _
  | relocate addr connection role =>
      rcases Pool.relocate_cases pool addr connection role with hsame | ⟨-, -, hput⟩
      · simp only [World.perform, hsame]
      · simp only [World.perform, hput, Topology.addrs_put]
  | _ => rfl

theorem filed_perform (hconsistent : pool.topology.Consistent) (hjob : job.leads = false)
    {entry : ConnectionId × Role}
    (hentry : (world.perform pool job).2.1.topology.lookup? addr = some entry) :
    addr ∈ job.aims ∨ ∃ entry, pool.topology.lookup? addr = some entry := by
  cases job with
  | discover => cases hjob
  | learn connection script => cases hjob
  | reconcile fresh gone members => cases hjob
  | refresh addrs =>
      cases addrs with
      | nil => exact Or.inr ⟨entry, hentry⟩
      | cons addr addrs =>
          simp only [World.perform] at hentry
          split at hentry <;> exact Or.inr ⟨entry, hentry⟩
  | fail target purpose =>
      cases purpose with
      | enlist => exact Or.inr ⟨entry, hentry⟩
      | reopen => exact Or.inr ⟨entry, Pool.lookup?_of_evict hconsistent hentry⟩
  | offer target connection role =>
      by_cases htarget : addr = target
      · exact Or.inl (htarget ▸ List.mem_cons_self)
      · exact Or.inr ⟨entry, (Pool.lookup?_file_of_ne hconsistent htarget).symm.trans hentry⟩
  | relocate target connection role =>
      rcases Pool.relocate_cases pool target connection role with
        hsame | ⟨-, ⟨filed, hfiled⟩, -⟩
      · simp only [World.perform, hsame] at hentry
        exact Or.inr ⟨entry, hentry⟩
      · by_cases htarget : addr = target
        · exact Or.inr ⟨_, htarget ▸ hfiled⟩
        · exact Or.inr ⟨entry, (Pool.lookup?_relocate_of_ne hconsistent htarget).symm.trans hentry⟩
  | _ => exact Or.inr ⟨entry, hentry⟩

theorem step (hconsistent : pool.topology.Consistent) (hjob : job.leads = false)
    (hmanaged : ManagedUpkeep pool (job :: rest)) :
    ManagedUpkeep (world.perform pool job).2.1 ((world.perform pool job).2.2 ++ rest) := by
  have hscope : scope (world.perform pool job).2.1.topology.addrs
      ((world.perform pool job).2.2 ++ rest) = scope pool.topology.addrs (job :: rest) := by
    rw [addrs_perform hconsistent hjob, scope_cons hjob,
      scope_append fun follower hmem => (aims_perform hjob hmem).1]
  have hjobs : ∀ addr ∈ job.aims, addr ∈ scope pool.topology.addrs (job :: rest) :=
    hmanaged.aims job List.mem_cons_self
  refine ⟨?_, ?_, ?_⟩
  · intro addr entry hentry
    rw [hscope]
    rcases filed_perform hconsistent hjob hentry with haim | ⟨before, hbefore⟩
    · exact hjobs addr haim
    · exact hmanaged.filed hbefore
  · rw [hscope]
    intro follower hfollower addr haim
    rcases List.mem_append.mp hfollower with hmem | hmem
    · exact hjobs addr ((aims_perform hjob hmem).2 addr haim)
    · exact hmanaged.aims follower (List.mem_cons_of_mem _ hmem) addr haim
  · rw [List.pairwise_append]
    refine ⟨?_, (List.pairwise_cons.mp hmanaged.leading).2, ?_⟩
    · exact List.pairwise_of_forall_mem_list fun first hfirst _ _ => (aims_perform hjob hfirst).1
    · exact fun first hfirst _ _ => (aims_perform hjob hfirst).1

/-! ### The stages of a discovery -/

theorem perform_discover (hmanaged : ManagedUpkeep pool [.discover]) :
    ManagedUpkeep (world.perform pool .discover).2.1 (world.perform pool .discover).2.2 := by
  have hidle := hmanaged.idle rfl
  simp only [World.perform]
  split
  · exact hidle
  · rename_i function hfunction
    have hlookup := Pool.lookup?_resolve world.isConnected pool .rw
    have haddrs := (Pool.sameEntries_resolve world.isConnected pool .rw).addrs
    generalize pool.resolve world.isConnected .rw = resolved at hlookup haddrs ⊢
    rcases resolved with ⟨cause | connection, moved⟩
    · exact hidle.congr hlookup haddrs
    · have hmoved := hidle.congr hlookup haddrs
      simp only [World.beginDiscovery]
      split
      · exact hmoved.begin rfl fun _ haim => by cases haim
      · refine ⟨hmoved.filed, ?_, List.pairwise_pair.mpr rfl⟩
        intro job hmem addr haim
        rcases List.mem_cons.mp hmem with rfl | hlast
        · cases haim
        · rw [List.mem_singleton.mp hlast] at haim
          cases haim

/-- A reconciliation is about to adopt or to drop every address that was managed until now. -/
theorem onReply (hmanaged : ManagedUpkeep pool [])
    (outcome : Except (Failure ConnectionError) (List Json)) :
    ManagedUpkeep pool (pool.topology.onReply outcome) := by
  unfold Topology.onReply
  split
  · exact hmanaged
  · split
    · exact hmanaged
    · rename_i members hmembers
      unfold Topology.reconciliation
      split
      · exact hmanaged
      · refine ⟨?_, ?_, List.pairwise_singleton _ _⟩
        · intro addr entry hentry
          have hmem : addr ∈ pool.topology.addrs := hmanaged.filed hentry
          by_cases hkept : addr ∈ members
          · exact List.mem_append_left _ hkept
          · exact List.mem_append_right _ (List.mem_filter.mpr ⟨hmem, by simpa using hkept⟩)
        · intro job hjob addr haim
          rw [List.mem_singleton.mp hjob] at haim
          exact List.mem_append_left _ (List.mem_filter.mp haim).1

theorem perform_reconcile_fresh {fresh gone members : List String}
    (hmanaged : ManagedUpkeep pool [.reconcile (addr :: fresh) gone members]) :
    ManagedUpkeep pool [.dial addr .enlist, .reconcile fresh gone members] where
  filed := hmanaged.filed
  aims := by
    have haims := hmanaged.aims _ List.mem_cons_self
    intro job hjob target haim
    rcases List.mem_cons.mp hjob with rfl | hlast
    · rw [List.mem_singleton.mp haim]
      exact haims addr List.mem_cons_self
    · rw [List.mem_singleton.mp hlast] at haim
      exact haims target (List.mem_cons_of_mem _ haim)
  leading := List.pairwise_pair.mpr rfl

theorem perform_reconcile_gone {gone members : List String} (hopen : pool.isClosed = false)
    (hconsistent : pool.topology.Consistent)
    (hmanaged : ManagedUpkeep pool [.reconcile [] (addr :: gone) members]) :
    ManagedUpkeep (pool.evict addr).1 ((pool.evict addr).2.toList.map (fun removed =>
      Job.close removed.1) ++ [.reconcile [] gone members]) := by
  have hclosing : ∀ job ∈ (pool.evict addr).2.toList.map (fun removed => Job.close removed.1),
      job.leads = false ∧ job.aims = [] := by
    intro job hjob
    obtain ⟨removed, -, rfl⟩ := List.mem_map.mp hjob
    exact ⟨rfl, rfl⟩
  refine ⟨?_, ?_, ?_⟩
  · intro target entry hentry
    rw [Pool.evict_eq hconsistent, hopen, if_neg Bool.false_ne_true,
      hconsistent.lookup?_remove] at hentry
    split at hentry
    · cases hentry
    · rename_i hne
      rw [scope_append fun job hjob => (hclosing job hjob).1]
      rcases List.mem_append.mp (hmanaged.filed hentry) with hmember | hgone
      · exact List.mem_append_left _ hmember
      · exact List.mem_append_right _ ((List.mem_cons.mp hgone).resolve_left hne)
  · intro job hjob target haim
    rcases List.mem_append.mp hjob with hmem | hmem
    · rw [(hclosing job hmem).2] at haim
      cases haim
    · rw [List.mem_singleton.mp hmem] at haim
      cases haim
  · rw [List.pairwise_append]
    refine ⟨?_, List.pairwise_singleton _ _, fun first hfirst _ _ => (hclosing first hfirst).1⟩
    exact List.pairwise_of_forall_mem_list fun first hfirst _ _ => (hclosing first hfirst).1

theorem perform_adopt {members : List String} (hopen : pool.isClosed = false)
    (hmanaged : ManagedUpkeep pool [.reconcile [] [] members]) :
    ManagedUpkeep (pool.setAddrs members) [] where
  filed := by
    intro addr entry hentry
    rw [Pool.lookup?_setAddrs] at hentry
    have hmem := hmanaged.filed hentry
    simpa [scope, Pool.setAddrs, hopen] using hmem
  aims := fun _ hmem => by cases hmem
  leading := List.Pairwise.nil

theorem perform (hconsistent : pool.topology.Consistent) (hopen : pool.isClosed = false)
    (hmanaged : ManagedUpkeep pool (job :: rest)) :
    ManagedUpkeep (world.perform pool job).2.1 ((world.perform pool job).2.2 ++ rest) := by
  cases hjob : job.leads with
  | false => exact hmanaged.step hconsistent hjob
  | true =>
      obtain rfl := hmanaged.rest_eq_nil hjob
      rw [List.append_nil]
      cases job with
      | discover => exact hmanaged.perform_discover
      | learn connection script =>
          simp only [World.perform]
          split
          · exact hmanaged.idle rfl
          · exact (hmanaged.idle rfl).onReply _
      | reconcile fresh gone members =>
          cases fresh with
          | cons addr fresh =>
              simp only [World.perform, hopen, Bool.false_eq_true, if_false]
              exact hmanaged.perform_reconcile_fresh
          | nil =>
              cases gone with
              | cons addr gone => exact hmanaged.perform_reconcile_gone hopen hconsistent
              | nil => exact hmanaged.perform_adopt hopen
      | _ => cases hjob

theorem takesUp (hmanaged : ManagedUpkeep pool []) (htakesUp : TakesUp world pool agenda) :
    ManagedUpkeep pool agenda := by
  cases htakesUp with
  | nothing => exact hmanaged
  | event event hopen =>
      unfold World.onEvent
      split
      · split
        · rename_i connection role hlookup
          split
          · refine hmanaged.begin rfl fun addr haim => ?_
            rw [List.mem_singleton.mp haim]
            exact hmanaged.filed hlookup
          · exact hmanaged
        · exact hmanaged
      · exact hmanaged
  | discover hopen => exact hmanaged.begin rfl fun _ haim => by cases haim
  | refresh hopen => exact hmanaged.begin rfl fun _ haim => haim

end ManagedUpkeep

/-! ### Building a pool -/

def Call.Managed : Call → Prop
  | .reach pool slots =>
      ManagedUpkeep pool [] ∧ ∀ slot ∈ slots, slot.held.1 ∈ pool.topology.addrs
  | .fill pool _ attempts =>
      ManagedUpkeep pool [] ∧ ∀ attempt ∈ attempts, attempt.held.1 ∈ pool.topology.addrs
  | _ => True

section Calls

variable {world : World} {pool : Pool} {call : Call} {addrs : List String}

theorem managedUpkeep_of_empty (hempty : pool.topology = { addrs }) : ManagedUpkeep pool [] where
  filed := by
    intro addr entry hentry
    rw [hempty] at hentry
    cases hentry
  aims := fun _ hmem => by cases hmem
  leading := List.Pairwise.nil

theorem World.addr_of_beginAttempt {queue : QueueId} {limit : Nat} {addr : String}
    {failed : Attempt} (hbegin : (world.beginAttempt queue limit addr).2 = .error failed) :
    failed.addr = addr := by
  unfold beginAttempt at hbegin
  split at hbegin
  · cases hbegin
    rfl
  · split at hbegin <;> cases hbegin
    rfl

theorem World.addr_endAttempt (world : World) (limit : Nat) (addr : String)
    (connection : ConnectionId) (dialled : Nat) :
    (world.endAttempt limit addr connection dialled).2.addr = addr := by
  unfold endAttempt
  dsimp only
  split
  · rfl
  · split <;> rfl

theorem Slot.fst_held_advance (world : World) (pool : Pool) (slot : Slot) :
    (slot.advance world pool).2.held.1 = slot.held.1 := by
  cases slot with
  | waiting addr =>
      rcases hbegin : world.beginAttempt pool.queue pool.options.probeTimeout addr with
        ⟨later, failed | ⟨connection, elapsed⟩⟩
      · simp only [advance, hbegin]
        exact World.addr_of_beginAttempt (congrArg Prod.snd hbegin)
      · simp only [advance, hbegin]
        rfl
  | dialled addr connection elapsed => exact World.addr_endAttempt world _ addr connection elapsed
  | finished attempt => rfl

theorem Call.Managed.advance (hsound : call.Sound world.cluster) (hmanaged : call.Managed)
    (place : Nat) : (call.advance world place).2.Managed := by
  cases call with
  | reach pool slots =>
      obtain ⟨hidle, hslots⟩ := hmanaged
      simp only [Call.advance]
      split
      · refine ⟨hidle, fun attempt hmem => ?_⟩
        obtain ⟨slot, hslot, hattempt⟩ := List.mem_filterMap.mp hmem
        cases slot with
        | finished done =>
            cases hattempt
            exact hslots _ hslot
        | _ => cases hattempt
      · split
        · exact ⟨hidle, hslots⟩
        · rename_i slot hslot
          refine ⟨hidle, fun other hmem => ?_⟩
          rcases List.mem_or_eq_of_mem_set hmem with hold | hnew
          · exact hslots other hold
          · rw [hnew, Slot.fst_held_advance]
            exact hslots slot (List.mem_of_getElem? hslot)
  | fill pool alive attempts =>
      cases attempts with
      | nil => cases alive <;> trivial
      | cons attempt rest =>
          obtain ⟨hidle, hattempts⟩ := hmanaged
          have hsection := hsound.sound.consistent
          have hrest : ∀ other ∈ rest, other.held.1 ∈ pool.topology.addrs :=
            fun other hmem => hattempts other (List.mem_cons_of_mem _ hmem)
          simp only [Call.advance, World.fileAttempt]
          split
          · rename_i connection role hresult
            have haddrs : (pool.file attempt.addr connection role).1.topology.addrs =
                pool.topology.addrs := by
              rw [Pool.file_eq hsection]
              split
              · rfl
              · exact Topology.addrs_put _ _ _ _
            refine ⟨⟨?_, (fun _ hmem => by cases hmem), List.Pairwise.nil⟩, ?_⟩
            · intro addr entry hentry
              rw [haddrs]
              by_cases haddr : addr = attempt.addr
              · rw [haddr]
                exact hattempts attempt List.mem_cons_self
              · rw [Pool.lookup?_file_of_ne hsection haddr] at hentry
                exact hidle.filed hentry
            · rw [haddrs]
              exact hrest
          · exact ⟨hidle, hrest⟩
  | close service pending complaints => cases pending <;> trivial
  | _ => trivial

end Calls

namespace System

/-- No open pool has an entry outside of its scope. -/
structure Managed (system : System) : Prop where
  upkeep : ∀ {service : ServiceId} {present : Service},
    system.world.services[service]? = some present → present.pool.isClosed = false →
      ManagedUpkeep present.pool present.upkeep.agenda
  calls : ∀ {place : Nat} {call : Call}, system.calls[place]? = some call → call.Managed

namespace Managed

variable {system : System} {action : Action} {service : ServiceId} {present next : Service}
  {place : Nat} {call : Call}

theorem stepped (hsound : system.Sound) (hmanaged : system.Managed)
    (hpresent : system.world.services[service]? = some present)
    (hstepped : present.Stepped system.world service action next)
    (hopen : next.pool.isClosed = false) : ManagedUpkeep next.pool next.upkeep.agenda := by
  cases hstepped with
  | route mode =>
      have hsame := Pool.sameEntries_resolve system.world.isConnected present.pool mode
      have hbefore : present.pool.isClosed = false := by
        rw [hsame.rest] at hopen
        exact hopen
      exact (hmanaged.upkeep hpresent hbefore).congr (Pool.lookup?_resolve _ _ mode) hsame.addrs
  | disown =>
      have hupkeep : ManagedUpkeep present.pool present.upkeep.agenda :=
        hmanaged.upkeep hpresent hopen
      exact hupkeep
  | shut _ => cases hopen
  | @work job rest hagenda hdue hrunning =>
      have hbefore : present.pool.isClosed = false :=
        (World.sectioned_perform system.world present.pool job).isClosed_eq.symm.trans hopen
      have hupkeep := hmanaged.upkeep hpresent hbefore
      rw [hagenda] at hupkeep
      exact hupkeep.perform (hsound.pool_sound hpresent).consistent hbefore
  | turn hagenda htakesUp =>
      have hupkeep := hmanaged.upkeep hpresent hopen
      rw [hagenda] at hupkeep
      exact hupkeep.takesUp htakesUp

theorem actUpkeep (hsound : system.Sound) (hmanaged : system.Managed)
    (hnext : (system.act action).world.services[service]? = some next)
    (hopen : next.pool.isClosed = false) : ManagedUpkeep next.pool next.upkeep.agenda := by
  have hservices := servicesStep_act system action
  generalize (system.act action).world.services = services at hservices hnext
  cases hservices with
  | same hidle => exact hmanaged.upkeep hnext hopen
  | @set other present changed hpresent hstepped =>
      by_cases hsame : service = other
      · subst hsame
        rw [List.getElem?_set_self (List.getElem?_eq_some_iff.mp hpresent).1] at hnext
        cases hnext
        exact hmanaged.stepped hsound hpresent hstepped hopen
      · rw [List.getElem?_set_ne (Ne.symm hsame)] at hnext
        exact hmanaged.upkeep hnext hopen
  | @launch place step pool haction hcall =>
      rw [List.getElem?_append] at hnext
      split at hnext
      · exact hmanaged.upkeep hnext hopen
      · rw [List.mem_singleton.mp (List.mem_of_getElem? hnext)]
        have hfill : (Call.fill pool true []).Managed := hmanaged.calls hcall
        exact hfill.1

theorem appendCall (hmanaged : system.Managed) (fresh : Call) (hfresh : fresh.Managed)
    (hcall : (system.calls ++ [fresh])[place]? = some call) : call.Managed := by
  rw [List.getElem?_append] at hcall
  split at hcall
  · exact hmanaged.calls hcall
  · rw [List.mem_singleton.mp (List.mem_of_getElem? hcall)]
    exact hfresh

theorem actCalls (hsound : system.Sound) (hmanaged : system.Managed)
    (hcall : (system.act action).calls[place]? = some call) : call.Managed := by
  cases callsStep_act system action with
  | same hidle hcalls =>
      rw [hcalls] at hcall
      exact hmanaged.calls hcall
  | @build addrs options pool haction hprepare hcalls =>
      rw [hcalls] at hcall
      obtain ⟨-, -, htopology, -⟩ := World.prepare_ok hprepare
      refine hmanaged.appendCall (.reach pool (pool.topology.addrs.map .waiting))
        ⟨managedUpkeep_of_empty htopology, fun slot hmem => ?_⟩ hcall
      obtain ⟨addr, haddr, rfl⟩ := List.mem_map.mp hmem
      exact haddr
  | @refuse other present haction hpresent hclosed hcalls =>
      rw [hcalls] at hcall
      exact hmanaged.appendCall (.closed other []) trivial hcall
  | @shut other present next haction hpresent hopen hnext hclosed hcalls =>
      rw [hcalls] at hcall
      exact hmanaged.appendCall (.close other present.pool.topology.connections []) trivial hcall
  | @advance index step before haction hbefore hcalls =>
      rw [hcalls] at hcall
      by_cases hsame : place = index
      · subst hsame
        rw [List.getElem?_set_self (List.getElem?_eq_some_iff.mp hbefore).1] at hcall
        cases hcall
        exact (hmanaged.calls hbefore).advance (hsound.calls hbefore) step
      · rw [List.getElem?_set_ne (Ne.symm hsame)] at hcall
        exact hmanaged.calls hcall

end Managed

theorem Reachable.managed {system : System} (hreachable : system.Reachable) : system.Managed := by
  have hempty : Sound {} ∧ Managed {} :=
    ⟨sound_empty, (fun hpresent => by simp at hpresent), fun hcall => by simp at hcall⟩
  have hact : ∀ (system : System) (action : Action), system.Sound ∧ system.Managed →
      (system.act action).Sound ∧ (system.act action).Managed := by
    rintro system action ⟨hsound, hmanaged⟩
    exact ⟨hsound.act action, hmanaged.actUpkeep hsound, hmanaged.actCalls hsound⟩
  exact (hreachable.induct hempty hact).2

end System

end ReplicaPool
