import ReplicaPool.Proofs.Upkeep.Completion

/-!
# Dials

`World.performed` lists the jobs that are performed until an agenda is done. A job that dials is performed
once for its address: from a dial nothing follows that dials again, and it reaches out to the node at most
once.
-/

namespace ReplicaPool

namespace Job

def dialled? : Job → Option String
  | .dial addr _ => some addr
  | _ => none

def reached? : Job → Option String
  | .reach addr _ => some addr
  | _ => none

def dialled (jobs : List Job) : List String :=
  jobs.filterMap dialled?

def reached (jobs : List Job) : List String :=
  jobs.filterMap reached?

theorem dialled_cons (job : Job) (rest : List Job) :
    dialled (job :: rest) = job.dialled?.toList ++ dialled rest := by
  unfold dialled
  cases hjob : job.dialled? with
  | none => exact List.filterMap_cons_none hjob
  | some addr => exact List.filterMap_cons_some hjob

theorem reached_cons (job : Job) (rest : List Job) :
    reached (job :: rest) = job.reached?.toList ++ reached rest := by
  unfold reached
  cases hjob : job.reached? with
  | none => exact List.filterMap_cons_none hjob
  | some addr => exact List.filterMap_cons_some hjob

def isQuiet : Job → Bool
  | .wait _ => true
  | .fail _ _ => true
  | .probe _ _ => true
  | .classify _ _ _ => true
  | .missed _ _ => true
  | .offer _ _ _ => true
  | .relocate _ _ _ => true
  | .close _ => true
  | _ => false

theorem dialled?_of_isQuiet {job : Job} (hquiet : job.isQuiet = true) : job.dialled? = none := by
  cases job <;> first | rfl | cases hquiet

theorem reached?_of_isQuiet {job : Job} (hquiet : job.isQuiet = true) : job.reached? = none := by
  cases job <;> first | rfl | cases hquiet

end Job

namespace World

variable {world : World} {pool : Pool} {job : Job} {agenda : List Job}

theorem isQuiet_conclude {connection : ConnectionId} {goal : Goal}
    {outcome : Except PoolError Role} :
    ∀ follower ∈ goal.conclude connection outcome, follower.isQuiet = true := by
  cases goal <;> cases outcome <;> simp only [Goal.conclude]
  · simp [Job.isQuiet]
  · simp [Job.isQuiet]
  · simp
  · split <;> simp [Job.isQuiet]

theorem isQuiet_perform (hquiet : job.isQuiet = true) :
    ∀ follower ∈ (world.perform pool job).2.2, follower.isQuiet = true := by
  cases job with
  | fail addr purpose => cases purpose <;> simp [perform]
  | probe connection goal =>
      intro follower hmem
      rcases mem_beginProbe hmem with ⟨due, rfl⟩ | ⟨script, rfl⟩ | rfl <;> rfl
  | classify connection goal script => exact isQuiet_conclude
  | missed connection goal => exact isQuiet_conclude
  | offer addr connection role =>
      simp only [perform, afterOffer]
      split
      · simp [Job.isQuiet]
      · simp
      · split <;> simp [Job.isQuiet]
  | wait due => simp [perform]
  | relocate addr connection role => simp [perform]
  | close connection => simp [perform]
  | _ => cases hquiet

def performed (world : World) (pool : Pool) : List Job → List Job
  | [] => []
  | job :: rest =>
      job :: ((world.awaitDue job).perform pool job).1.performed
        ((world.awaitDue job).perform pool job).2.1
        (((world.awaitDue job).perform pool job).2.2 ++ rest)
termination_by agenda => agendaRank agenda
decreasing_by exact rank_perform _ _ _ _

@[simp]
theorem performed_nil : world.performed pool [] = [] := by
  rw [performed]

theorem performed_cons (world : World) (pool : Pool) (job : Job) (rest : List Job) :
    world.performed pool (job :: rest) =
      job :: ((world.awaitDue job).perform pool job).1.performed
        ((world.awaitDue job).perform pool job).2.1
        (((world.awaitDue job).perform pool job).2.2 ++ rest) := by
  rw [performed]

theorem isQuiet_performed (world : World) (pool : Pool)
    (hagenda : ∀ job ∈ agenda, job.isQuiet = true) :
    ∀ job ∈ world.performed pool agenda, job.isQuiet = true := by
  fun_induction performed world pool agenda with
  | case1 world pool => exact fun _ hmem => absurd hmem List.not_mem_nil
  | case2 world pool job rest ih =>
      obtain ⟨hjob, hrest⟩ := List.forall_mem_cons.mp hagenda
      refine List.forall_mem_cons.mpr ⟨hjob, ih fun follower hmem => ?_⟩
      rcases List.mem_append.mp hmem with hnext | hlast
      · exact isQuiet_perform hjob follower hnext
      · exact hrest follower hlast

theorem dialled_performed_of_isQuiet (world : World) (pool : Pool)
    (hagenda : ∀ job ∈ agenda, job.isQuiet = true) :
    Job.dialled (world.performed pool agenda) = [] ∧
      Job.reached (world.performed pool agenda) = [] := by
  have hquiet := isQuiet_performed world pool hagenda
  simp only [Job.dialled, Job.reached, List.filterMap_eq_nil_iff]
  exact ⟨fun job hmem => Job.dialled?_of_isQuiet (hquiet job hmem),
    fun job hmem => Job.reached?_of_isQuiet (hquiet job hmem)⟩

theorem isQuiet_afterDial (addr : String) (purpose : Purpose)
    (result : Except ConnectionError ConnectionId) :
    ∀ job ∈ Job.afterDial addr purpose result, job.isQuiet = true := by
  cases result <;> simp [Job.afterDial, Job.isQuiet]

theorem dialled_performed_reach (world : World) (pool : Pool) (addr : String) (purpose : Purpose) :
    Job.dialled (world.performed pool [.reach addr purpose]) = [] ∧
      Job.reached (world.performed pool [.reach addr purpose]) = [addr] := by
  obtain ⟨hdialled, hreached⟩ := dialled_performed_of_isQuiet (world.dial addr pool.queue).1 pool
    (isQuiet_afterDial addr purpose (world.dial addr pool.queue).2)
  rw [performed_cons, List.append_nil, Job.dialled_cons, Job.reached_cons]
  exact ⟨hdialled, congrArg (addr :: ·) hreached⟩

/-- A dial dials its address once, and reaches out to the node there at most once. -/
theorem dialled_performed_dial (world : World) (pool : Pool) (addr : String) (purpose : Purpose) :
    Job.dialled (world.performed pool [.dial addr purpose]) = [addr] ∧
      (Job.reached (world.performed pool [.dial addr purpose])).Sublist [addr] := by
  have hreach : ∀ world : World,
      addr :: Job.dialled (world.performed pool [.reach addr purpose]) = [addr] ∧
        (Job.reached (world.performed pool [.reach addr purpose])).Sublist [addr] := by
    intro world
    obtain ⟨hdialled, hreached⟩ := dialled_performed_reach world pool addr purpose
    rw [hdialled, hreached]
    exact ⟨rfl, List.Sublist.refl _⟩
  have hbegin : addr :: Job.dialled (world.performed pool
      (world.beginDial pool.options.probeTimeout addr purpose)) = [addr] ∧
        (Job.reached (world.performed pool
          (world.beginDial pool.options.probeTimeout addr purpose))).Sublist [addr] := by
    simp only [beginDial]
    split
    · exact hreach world
    · split
      · rw [performed_cons, Job.dialled_cons, Job.reached_cons]
        exact hreach _
      · have hquiet : ∀ job ∈ [Job.wait (world.now + pool.options.probeTimeout), .fail addr purpose],
            job.isQuiet = true := by
          simp [Job.isQuiet]
        obtain ⟨hdialled, hreached⟩ := dialled_performed_of_isQuiet world pool hquiet
        rw [hdialled, hreached]
        exact ⟨rfl, List.nil_sublist _⟩
  rw [performed_cons, List.append_nil, Job.dialled_cons, Job.reached_cons]
  exact hbegin

end World

end ReplicaPool
