import ReplicaPool.Proofs.Discovery.Inquiry

/-!
# One job for each address

Every job of a worker has the addresses at which it, or a job that follows from it, may change the entry. No
two jobs of an agenda share an address, because a worker looks after its addresses one by one and a
reconciliation adds other members than it drops. So an entry that a job has dropped is not filed again before
the worker has finished.
-/

namespace ReplicaPool

def Goal.addr : Goal → String
  | .file addr _ => addr
  | .review addr _ => addr

namespace Job

def waits : Job → Bool
  | .wait _ => true
  | _ => false

/-- The addresses at which a job, or one that follows from it, may change the entry, once the members are
known. -/
def subjects : Job → List String
  | .refresh addrs => addrs
  | .reconcile fresh gone _ => fresh ++ gone
  | .dial addr _ => [addr]
  | .reach addr _ => [addr]
  | .fail addr _ => [addr]
  | .probe _ goal => [goal.addr]
  | .classify _ goal _ => [goal.addr]
  | .missed _ goal => [goal.addr]
  | .offer addr _ _ => [addr]
  | .relocate addr _ _ => [addr]
  | _ => []

/-- A job may change the entry at an address, or nobody knows yet. -/
def Touches (job : Job) (addr : String) : Prop :=
  job.asks = true ∨ addr ∈ job.subjects

theorem Touches.mem {job : Job} {addr : String} (htouches : job.Touches addr)
    (hjob : job.asks = false) : addr ∈ job.subjects := by
  rw [Touches, hjob] at htouches
  exact htouches.resolve_left Bool.false_ne_true

/-- The jobs that follow from a job are two at most. Of two either the first one touches nothing, or they
share what the job touches. -/
inductive Begets (job : Job) : List Job → Prop
  | none : Begets job []
  | one (only : Job) : Begets job [only]
  | two {first second : Job} (hands : first.waits = true ∨ second.holds? = none)
      (hasks : first.asks = false) (hsubjects : first.subjects = [] ∨
        second.asks = false ∧ first.subjects ++ second.subjects = job.subjects) :
      Begets job [first, second]

end Job

variable {world : World} {pool : Pool} {job follower : Job} {rest agenda : List Job} {addr : String}

/-! ### What follows from a job -/

theorem onEvent_cases (world : World) (pool : Pool) (event : Event) :
    world.onEvent pool event = [] ∨ world.onEvent pool event = [.dial event.addr .reopen] := by
  unfold World.onEvent
  split
  · split
    · split
      · exact Or.inr rfl
      · exact Or.inl rfl
    · exact Or.inl rfl
  · exact Or.inl rfl

theorem subjects_refreshAddr (hmem : follower ∈ world.refreshAddr pool addr) :
    follower.asks = false ∧ follower.subjects = [addr] := by
  unfold World.refreshAddr at hmem
  split at hmem
  · split at hmem <;> (rw [List.mem_singleton.mp hmem]; exact ⟨rfl, rfl⟩)
  · rw [List.mem_singleton.mp hmem]
    exact ⟨rfl, rfl⟩

theorem begets_conclude (goal : Goal) (connection : ConnectionId) (outcome : Except PoolError Role) :
    job.Begets (goal.conclude connection outcome) := by
  cases goal with
  | file addr purpose =>
      cases outcome with
      | ok role => exact .one _
      | error cause => exact .two (Or.inr rfl) rfl (Or.inl rfl)
  | review addr current =>
      cases outcome with
      | ok role =>
          simp only [Goal.conclude]
          split
          · exact .none
          · exact .one _
      | error cause => exact .none

theorem begets_perform (world : World) (pool : Pool) (job : Job) :
    job.Begets (world.perform pool job).2.2 := by
  cases job with
  | refresh addrs =>
      cases addrs with
      | nil => exact .none
      | cons addr rest =>
          obtain ⟨first, hfirst⟩ := List.length_eq_one_iff.mp (length_refreshAddr world pool addr)
          obtain ⟨hasks, hsubjects⟩ := subjects_refreshAddr
            (hfirst ▸ List.mem_singleton_self first : first ∈ world.refreshAddr pool addr)
          simp only [World.perform, hfirst]
          split
          · exact .none
          · exact .two (Or.inr rfl) hasks (Or.inr ⟨rfl, by rw [hsubjects]; rfl⟩)
  | discover =>
      simp only [World.perform]
      split
      · exact .none
      · cases (pool.resolve world.isConnected .rw).1 with
        | error cause => exact .none
        | ok connection =>
            simp only [World.beginDiscovery]
            split
            · exact .one _
            · exact .two (Or.inl rfl) rfl (Or.inl rfl)
  | learn connection script =>
      simp only [World.perform]
      split
      · exact .none
      · dsimp only
        rcases onReply_cases pool.topology _ with hnothing | ⟨fresh, gone, members, -, -, hreply⟩
        · rw [hnothing]
          exact .none
        · rw [hreply]
          exact .one _
  | reconcile fresh gone members =>
      cases fresh with
      | cons addr fresh =>
          simp only [World.perform]
          split
          · exact .none
          · exact .two (Or.inr rfl) rfl (Or.inr ⟨rfl, rfl⟩)
      | nil =>
          cases gone with
          | nil => exact .none
          | cons addr gone =>
              simp only [World.perform]
              cases (pool.evict addr).2 with
              | none => exact .one _
              | some removed => exact .two (Or.inr rfl) rfl (Or.inl rfl)
  | dial addr purpose =>
      simp only [World.perform, World.beginDial]
      split
      · exact .one _
      · split <;> exact .two (Or.inl rfl) rfl (Or.inl rfl)
  | reach addr purpose =>
      change Job.Begets _ (Job.afterDial addr purpose (world.cluster.dial addr pool.queue).2)
      cases (world.cluster.dial addr pool.queue).2 <;> exact .one _
  | fail addr purpose => cases purpose <;> exact .none
  | probe connection goal =>
      simp only [World.perform, World.beginProbe]
      split
      · exact .one _
      · split <;> exact .two (Or.inl rfl) rfl (Or.inl rfl)
  | classify connection goal script => exact begets_conclude _ _ _
  | missed connection goal => exact begets_conclude _ _ _
  | offer addr connection role =>
      simp only [World.perform, World.afterOffer]
      split
      · exact .one _
      · exact .none
      · split
        · exact .none
        · exact .one _
  | _ => exact .none

theorem subjects_conclude {goal : Goal} {connection : ConnectionId} {outcome : Except PoolError Role}
    (hmem : follower ∈ goal.conclude connection outcome) :
    follower.subjects.Sublist [goal.addr] := by
  cases goal with
  | file target purpose =>
      cases outcome with
      | ok role =>
          rw [List.mem_singleton.mp hmem]
          exact List.Sublist.refl _
      | error cause =>
          rcases List.mem_cons.mp hmem with rfl | hlast
          · exact List.nil_sublist _
          · rw [List.mem_singleton.mp hlast]
            exact List.Sublist.refl _
  | review target current =>
      cases outcome with
      | error cause => cases hmem
      | ok role =>
          simp only [Goal.conclude] at hmem
          split at hmem
          · cases hmem
          · rw [List.mem_singleton.mp hmem]
            exact List.Sublist.refl _

/-- Once the members are known, nothing that follows from a job touches another address. -/
theorem subjects_perform (hjob : job.asks = false) (hmem : follower ∈ (world.perform pool job).2.2) :
    follower.subjects.Sublist job.subjects := by
  cases job with
  | discover => cases hjob
  | learn connection script => cases hjob
  | refresh addrs =>
      cases addrs with
      | nil => cases hmem
      | cons addr addrs =>
          simp only [World.perform] at hmem
          split at hmem
          · cases hmem
          · rcases List.mem_append.mp hmem with hfirst | hlast
            · rw [(subjects_refreshAddr hfirst).2]
              exact List.singleton_sublist.mpr List.mem_cons_self
            · rw [List.mem_singleton.mp hlast]
              exact List.sublist_cons_self _ _
  | reconcile fresh gone members =>
      cases fresh with
      | cons addr fresh =>
          simp only [World.perform] at hmem
          split at hmem
          · cases hmem
          · rcases List.mem_cons.mp hmem with rfl | hlast
            · exact List.singleton_sublist.mpr List.mem_cons_self
            · rw [List.mem_singleton.mp hlast]
              exact List.sublist_cons_self _ _
      | nil =>
          cases gone with
          | nil => cases hmem
          | cons addr gone =>
              rcases List.mem_append.mp hmem with hclosing | hlast
              · obtain ⟨removed, -, rfl⟩ := List.mem_map.mp hclosing
                exact List.nil_sublist _
              · rw [List.mem_singleton.mp hlast]
                exact List.sublist_cons_self _ _
  | dial addr purpose =>
      rcases mem_beginDial hmem with ⟨due, rfl⟩ | rfl | rfl <;> simp [Job.subjects]
  | reach addr purpose =>
      change follower ∈ Job.afterDial addr purpose (world.cluster.dial addr pool.queue).2 at hmem
      unfold Job.afterDial at hmem
      split at hmem <;>
        (rw [List.mem_singleton.mp hmem]; exact List.Sublist.refl _)
  | fail addr purpose => cases purpose <;> cases hmem
  | probe connection goal =>
      rcases mem_beginProbe hmem with ⟨due, rfl⟩ | ⟨script, rfl⟩ | rfl <;> simp [Job.subjects]
  | classify connection goal script => exact subjects_conclude hmem
  | missed connection goal => exact subjects_conclude hmem
  | offer addr connection role =>
      obtain ⟨closing, rfl⟩ := ManagedUpkeep.eq_close_of_afterOffer hmem
      exact List.nil_sublist _
  | _ => cases hmem

theorem Job.Touches.of_follower (hmem : follower ∈ (world.perform pool job).2.2)
    (htouches : follower.Touches addr) : job.Touches addr := by
  cases hjob : job.asks with
  | true => exact Or.inl hjob
  | false =>
      exact Or.inr ((subjects_perform hjob hmem).subset (htouches.mem (asks_perform hjob hmem)))

/-- A reconciliation adds other addresses than it drops. -/
theorem nodup_onReply {topology : Topology} (haddrs : topology.addrs.Nodup)
    {outcome : Except (Failure ConnectionError) (List Json)}
    (hmem : follower ∈ topology.onReply outcome) : follower.subjects.Nodup := by
  unfold Topology.onReply at hmem
  split at hmem
  · cases hmem
  · split at hmem
    · cases hmem
    · rename_i members hmembers
      unfold Topology.reconciliation at hmem
      split at hmem
      · cases hmem
      · rw [List.mem_singleton.mp hmem, Job.subjects, List.nodup_append]
        refine ⟨(membersOfReply_nodup hmembers).filter _, haddrs.filter _, ?_⟩
        rintro addr hfresh other hgone rfl
        have hknown := (List.mem_filter.mp hgone).1
        simp [hknown] at hfresh

theorem nodup_perform (haddrs : pool.topology.addrs.Nodup) (hnodup : job.subjects.Nodup)
    (hmem : follower ∈ (world.perform pool job).2.2) : follower.subjects.Nodup := by
  cases hjob : job.asks with
  | false => exact (subjects_perform hjob hmem).nodup hnodup
  | true =>
      cases job with
      | discover =>
          simp only [World.perform] at hmem
          split at hmem
          · cases hmem
          · cases hpicked : (pool.resolve world.isConnected .rw).1 with
            | error cause =>
                rw [hpicked] at hmem
                cases hmem
            | ok connection =>
                rw [hpicked] at hmem
                rcases mem_beginDiscovery hmem with ⟨due, rfl⟩ | ⟨script, rfl⟩ <;>
                  exact List.nodup_nil
      | learn connection script =>
          simp only [World.perform] at hmem
          split at hmem
          · cases hmem
          · exact nodup_onReply haddrs hmem
      | _ => cases hjob

/-! ### Agendas -/

/-- No two jobs of an agenda touch the same address, and none touches one twice. -/
structure Apart (agenda : List Job) : Prop where
  nodup : ∀ job ∈ agenda, job.subjects.Nodup
  disjoint : agenda.Pairwise fun earlier later =>
    ∀ addr, earlier.Touches addr → ¬later.Touches addr

theorem apart_nil : Apart [] :=
  ⟨fun _ hmem => absurd hmem List.not_mem_nil, List.Pairwise.nil⟩

theorem apart_singleton (hnodup : job.subjects.Nodup) : Apart [job] :=
  ⟨fun _ hmem => List.mem_singleton.mp hmem ▸ hnodup, List.pairwise_singleton _ _⟩

theorem apart_perform (haddrs : pool.topology.addrs.Nodup) (hnodup : job.subjects.Nodup) :
    Apart (world.perform pool job).2.2 := by
  refine ⟨fun _ => nodup_perform haddrs hnodup, ?_⟩
  have hbegets := begets_perform world pool job
  generalize (world.perform pool job).2.2 = next at hbegets ⊢
  cases hbegets with
  | none => exact List.Pairwise.nil
  | one only => exact List.pairwise_singleton _ only
  | two hands hasks hsubjects =>
      refine List.pairwise_pair.mpr fun addr hfirst hsecond => ?_
      have hmem := hfirst.mem hasks
      rcases hsubjects with hnothing | ⟨hasks', hshared⟩
      · rw [hnothing] at hmem
        cases hmem
      · rw [← hshared] at hnodup
        exact (List.nodup_append.mp hnodup).2.2 addr hmem addr (hsecond.mem hasks') rfl

theorem Apart.perform (hapart : Apart (job :: rest)) (haddrs : pool.topology.addrs.Nodup) :
    Apart ((world.perform pool job).2.2 ++ rest) := by
  obtain ⟨hdisjoint, hrest⟩ := List.pairwise_cons.mp hapart.disjoint
  have hnext : Apart (world.perform pool job).2.2 :=
    apart_perform haddrs (hapart.nodup job List.mem_cons_self)
  refine ⟨fun later hlater => ?_, ?_⟩
  · rcases List.mem_append.mp hlater with hmem | hmem
    · exact hnext.nodup later hmem
    · exact hapart.nodup later (List.mem_cons_of_mem _ hmem)
  · rw [List.pairwise_append]
    exact ⟨hnext.disjoint, hrest, fun follower hmem later hlater addr htouches =>
      hdisjoint later hlater addr (htouches.of_follower hmem)⟩

end ReplicaPool
