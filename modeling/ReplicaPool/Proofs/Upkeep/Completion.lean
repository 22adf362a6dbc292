import ReplicaPool.Proofs.Upkeep.Worker

/-!
# Carrying an agenda out

Every job is followed by jobs of less weight, so an agenda comes to an end. `World.carryOut` does all of it
in a world where nothing else happens but that time goes by when a job has to wait.
-/

namespace ReplicaPool

/-- How many rounds of work may still be found out about. -/
def Job.stage : Job → Nat
  | .discover => 2
  | .learn _ _ => 1
  | _ => 0

/-- How much work a job is, apart from what is still to be found out. -/
def Job.weight : Job → Nat
  | .refresh addrs => 9 * addrs.length + 1
  | .reconcile fresh gone _ => 9 * fresh.length + 2 * gone.length + 1
  | .dial _ _ => 8
  | .reach _ _ => 6
  | .probe _ _ => 5
  | .classify _ _ _ => 3
  | .missed _ _ => 3
  | .offer _ _ _ => 2
  | _ => 1

def Job.total (measure : Job → Nat) : List Job → Nat
  | [] => 0
  | job :: rest => measure job + total measure rest

def agendaRank (agenda : List Job) : Nat × Nat :=
  (Job.total Job.stage agenda, Job.total Job.weight agenda)

section Rank

variable {job : Job} {next rest : List Job}

@[simp]
theorem Job.total_nil (measure : Job → Nat) : Job.total measure [] = 0 := rfl

@[simp]
theorem Job.total_cons (measure : Job → Nat) (job : Job) (rest : List Job) :
    Job.total measure (job :: rest) = measure job + Job.total measure rest := rfl

@[simp]
theorem Job.total_append (measure : Job → Nat) (next rest : List Job) :
    Job.total measure (next ++ rest) = Job.total measure next + Job.total measure rest := by
  induction next with
  | nil => exact (Nat.zero_add _).symm
  | cons job next ih => rw [List.cons_append, Job.total_cons, Job.total_cons, ih, Nat.add_assoc]

theorem rank_lt_of_stage (hstage : Job.total Job.stage next < job.stage) :
    Prod.Lex (· < ·) (· < ·) (agendaRank (next ++ rest)) (agendaRank (job :: rest)) := by
  refine .left _ _ ?_
  simp only [Job.total_append, Job.total_cons]
  exact Nat.add_lt_add_right hstage _

theorem rank_lt_of_weight (hstage : Job.total Job.stage next = job.stage)
    (hweight : Job.total Job.weight next < job.weight) :
    Prod.Lex (· < ·) (· < ·) (agendaRank (next ++ rest)) (agendaRank (job :: rest)) := by
  simp only [agendaRank, Job.total_append, Job.total_cons, hstage]
  exact .right _ (Nat.add_lt_add_right hweight _)

theorem weight_beginDial (world : World) (limit : Nat) (addr : String) (purpose : Purpose) :
    Job.total Job.stage (world.beginDial limit addr purpose) = 0 ∧
      Job.total Job.weight (world.beginDial limit addr purpose) < 8 := by
  simp only [World.beginDial]
  split
  · simp [Job.stage, Job.weight]
  · split <;> simp [Job.stage, Job.weight]

theorem weight_beginProbe (world : World) (limit : Nat) (connection : ConnectionId) (goal : Goal) :
    Job.total Job.stage (world.beginProbe limit connection goal) = 0 ∧
      Job.total Job.weight (world.beginProbe limit connection goal) < 5 := by
  simp only [World.beginProbe]
  split
  · simp [Job.stage, Job.weight]
  · split <;> simp [Job.stage, Job.weight]

theorem weight_conclude (connection : ConnectionId) (goal : Goal)
    (outcome : Except PoolError Role) :
    Job.total Job.stage (goal.conclude connection outcome) = 0 ∧
      Job.total Job.weight (goal.conclude connection outcome) < 3 := by
  cases goal <;> cases outcome <;> simp only [Goal.conclude]
  · simp [Job.stage, Job.weight]
  · simp [Job.stage, Job.weight]
  · simp
  · split <;> simp [Job.stage, Job.weight]

theorem weight_refreshAddr (world : World) (pool : Pool) (addr : String) :
    Job.total Job.stage (world.refreshAddr pool addr) = 0 ∧
      Job.total Job.weight (world.refreshAddr pool addr) ≤ 8 := by
  unfold World.refreshAddr
  split
  · split <;> simp [Job.stage, Job.weight]
  · simp [Job.stage, Job.weight]

theorem weight_afterOffer (world : World) (connection : ConnectionId) (admission : Admission) :
    Job.total Job.stage (world.afterOffer connection admission) = 0 ∧
      Job.total Job.weight (world.afterOffer connection admission) < 2 := by
  unfold World.afterOffer
  split
  · simp [Job.stage, Job.weight]
  · simp
  · split <;> simp [Job.stage, Job.weight]

/-- What follows from a job weighs less than the job. -/
theorem rank_perform (world : World) (pool : Pool) (job : Job) (rest : List Job) :
    Prod.Lex (· < ·) (· < ·) (agendaRank ((world.perform pool job).2.2 ++ rest))
      (agendaRank (job :: rest)) := by
  have hnothing : ∀ job : Job, 0 < job.weight →
      Prod.Lex (· < ·) (· < ·) (agendaRank ([] ++ rest)) (agendaRank (job :: rest)) := by
    intro job hweight
    rcases Nat.eq_zero_or_pos job.stage with hstage | hstage
    · exact rank_lt_of_weight hstage.symm hweight
    · exact rank_lt_of_stage hstage
  cases job with
  | wait due => exact hnothing _ Nat.one_pos
  | refresh addrs =>
      cases addrs with
      | nil => exact hnothing _ Nat.one_pos
      | cons addr addrs =>
          simp only [World.perform]
          split
          · exact hnothing _ (Nat.succ_pos _)
          · obtain ⟨hstage, hweight⟩ := weight_refreshAddr world pool addr
            refine rank_lt_of_weight ?_ ?_
            · simp [hstage, Job.stage]
            · simp only [Job.total_append, Job.total_cons, Job.total_nil, Job.weight, List.length_cons]
              omega
  | discover =>
      have hlearn : ∀ connection function,
          Job.total Job.stage (world.beginDiscovery connection function) < 2 := by
        intro connection function
        simp only [World.beginDiscovery]
        split <;> simp [Job.stage]
      simp only [World.perform]
      split
      · exact hnothing _ Nat.one_pos
      · rename_i function hfunction
        rcases pool.resolve world.isConnected .rw with ⟨cause | connection, moved⟩
        · exact hnothing .discover Nat.one_pos
        · exact rank_lt_of_stage (hlearn connection function)
  | learn connection script =>
      simp only [World.perform]
      split
      · exact hnothing _ Nat.one_pos
      · rename_i function hfunction
        refine rank_lt_of_stage ?_
        rcases onReply_cases pool.topology
          (world.answer connection (.call17 function (.array [])) script).2 with
          hnone | ⟨fresh, gone, members, -, -, hreply⟩
        · rw [hnone]
          exact Nat.one_pos
        · rw [hreply]
          exact Nat.one_pos
  | reconcile fresh gone members =>
      cases fresh with
      | cons addr fresh =>
          simp only [World.perform]
          split
          · exact hnothing _ (Nat.succ_pos _)
          · refine rank_lt_of_weight rfl ?_
            simp only [Job.total_cons, Job.total_nil, Job.weight, List.length_cons]
            omega
      | nil =>
          cases gone with
          | nil => exact hnothing _ Nat.one_pos
          | cons addr gone =>
              simp only [World.perform]
              cases (pool.evict addr).2 with
              | none =>
                  refine rank_lt_of_weight rfl ?_
                  simp [Job.weight]
              | some removed =>
                  refine rank_lt_of_weight rfl ?_
                  simp only [Option.toList_some, List.map_cons, List.map_nil, List.cons_append,
                    List.nil_append, Job.total_cons, Job.total_nil, Job.weight, List.length_cons,
                    List.length_nil]
                  omega
  | dial addr purpose =>
      obtain ⟨hstage, hweight⟩ :=
        weight_beginDial world pool.options.probeTimeout addr purpose
      exact rank_lt_of_weight hstage hweight
  | reach addr purpose =>
      simp only [World.perform]
      cases (world.dial addr pool.queue).2 with
      | error cause => exact rank_lt_of_weight rfl (by simp [Job.afterDial, Job.weight])
      | ok connection => exact rank_lt_of_weight rfl (by simp [Job.afterDial, Job.weight])
  | fail addr purpose => cases purpose <;> exact hnothing (.fail addr _) Nat.one_pos
  | probe connection goal =>
      obtain ⟨hstage, hweight⟩ :=
        weight_beginProbe world pool.options.probeTimeout connection goal
      exact rank_lt_of_weight hstage hweight
  | classify connection goal script =>
      obtain ⟨hstage, hweight⟩ := weight_conclude connection goal
        (Role.ofOutcome (world.answer connection .introspect script).2)
      exact rank_lt_of_weight hstage hweight
  | missed connection goal =>
      obtain ⟨hstage, hweight⟩ := weight_conclude connection goal
        (.error (.classifyTimeout (world.cluster.connectionAddr connection)))
      exact rank_lt_of_weight hstage hweight
  | offer addr connection role =>
      obtain ⟨hstage, hweight⟩ :=
        weight_afterOffer world connection (pool.file addr connection role).2
      exact rank_lt_of_weight hstage hweight
  | relocate addr connection role => exact hnothing _ Nat.one_pos
  | close connection => exact hnothing _ Nat.one_pos

end Rank

namespace World

def awaitDue (world : World) : Job → World
  | .wait due => { world with now := max world.now due }
  | _ => world

def carryOut (world : World) (pool : Pool) : List Job → World × Pool
  | [] => (world, pool)
  | job :: rest =>
      ((world.awaitDue job).perform pool job).1.carryOut ((world.awaitDue job).perform pool job).2.1
        (((world.awaitDue job).perform pool job).2.2 ++ rest)
termination_by agenda => agendaRank agenda
decreasing_by exact rank_perform _ _ _ _

variable {world : World} {pool : Pool} {job : Job} {rest : List Job}

@[simp]
theorem carryOut_nil : world.carryOut pool [] = (world, pool) := by
  rw [carryOut]

theorem carryOut_cons : world.carryOut pool (job :: rest) =
    ((world.awaitDue job).perform pool job).1.carryOut ((world.awaitDue job).perform pool job).2.1
      (((world.awaitDue job).perform pool job).2.2 ++ rest) := by
  rw [carryOut]

/-- Nothing that is to be done later matters to a job. -/
theorem carryOut_append (world : World) (pool : Pool) (first rest : List Job) :
    world.carryOut pool (first ++ rest) =
      (world.carryOut pool first).1.carryOut (world.carryOut pool first).2 rest := by
  fun_induction carryOut world pool first with
  | case1 world pool => rfl
  | case2 world pool job first ih =>
      rw [List.cons_append, carryOut_cons, ← List.append_assoc, ih]

theorem cluster_awaitDue (world : World) (job : Job) :
    (world.awaitDue job).cluster = world.cluster := by
  cases job <;> rfl

end World

end ReplicaPool
