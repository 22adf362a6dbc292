import ReplicaPool.Proofs.System.Steps

/-!
# What classifications find

A classification of a connection shows a role, fails, or does not come back in time. `System.findings` is
the history of what all classifications of a run have come to, and `lastRole` reads from it the role that
a connection showed most recently.
-/

namespace ReplicaPool

structure Finding where
  connection : ConnectionId
  outcome : Except PoolError Role

def Finding.role? (finding : Finding) (connection : ConnectionId) : Option Role :=
  if finding.connection = connection then finding.outcome.toOption else none

/-- The role that the most recent successful classification of a connection showed. -/
def lastRole (findings : List Finding) (connection : ConnectionId) : Option Role :=
  findings.reverse.findSome? fun finding => finding.role? connection

section LastRole

variable {earlier later : List Finding} {connection : ConnectionId} {role : Role}

theorem lastRole_append (earlier later : List Finding) (connection : ConnectionId) :
    lastRole (earlier ++ later) connection =
      (lastRole later connection).or (lastRole earlier connection) := by
  rw [lastRole, List.reverse_append, List.findSome?_append]
  rfl

theorem lastRole_append_of_ne (hother : ∀ finding ∈ later, finding.connection ≠ connection) :
    lastRole (earlier ++ later) connection = lastRole earlier connection := by
  have hnone : lastRole later connection = none := by
    rw [lastRole, List.findSome?_eq_none_iff]
    intro finding hmem
    rw [Finding.role?, if_neg (hother finding (List.mem_reverse.mp hmem))]
  rw [lastRole_append, hnone, Option.none_or]

theorem lastRole_concat_ok (earlier : List Finding) (connection : ConnectionId) (role : Role) :
    lastRole (earlier ++ [⟨connection, .ok role⟩]) connection = some role := by
  rw [lastRole_append]
  simp [lastRole, Finding.role?, Except.toOption]

/-- Neither do failures. -/
theorem lastRole_concat_error (earlier : List Finding) (failed : ConnectionId) (cause : PoolError)
    (connection : ConnectionId) :
    lastRole (earlier ++ [⟨failed, .error cause⟩]) connection = lastRole earlier connection := by
  rw [lastRole_append]
  simp [lastRole, Finding.role?, Except.toOption]

theorem mem_of_lastRole (hlast : lastRole earlier connection = some role) :
    ⟨connection, .ok role⟩ ∈ earlier := by
  obtain ⟨⟨found, outcome⟩, hmem, hrole⟩ := List.exists_of_findSome?_eq_some hlast
  rw [List.mem_reverse] at hmem
  rw [Finding.role?] at hrole
  split at hrole
  · rename_i hsame
    cases outcome with
    | error cause => cases hrole
    | ok shown =>
        cases hrole
        exact hsame ▸ hmem
  · cases hrole

end LastRole

/-! ### The findings of a run -/

def World.finding? (world : World) : Job → Option Finding
  | .classify connection _ script =>
      some ⟨connection, Role.ofOutcome (world.answer connection .introspect script).2⟩
  | .missed connection _ =>
      some ⟨connection, .error (.classifyTimeout (world.cluster.connectionAddr connection))⟩
  | _ => none

def World.dueJob? (world : World) (service : ServiceId) : Option Job :=
  match world.services[service]? with
  | none => none
  | some present =>
      if present.upkeep.running then present.upkeep.agenda.head?.filter fun job => job.isDue world.now
      else none

def Slot.finding? (world : World) (pool : Pool) : Slot → Option Finding
  | .dialled addr connection elapsed =>
      let (_, attempt) := world.endAttempt pool.options.probeTimeout addr connection elapsed
      some ⟨connection, attempt.result.map Prod.snd⟩
  | _ => none

def Call.finding? (world : World) (place : Nat) : Call → Option Finding
  | .reach pool slots =>
      if slots.all fun slot => slot.attempt?.isSome then none
      else slots[place]?.bind (Slot.finding? world pool)
  | _ => none

namespace System

def finding? (system : System) : Action → Option Finding
  | .upkeep service => (system.world.dueJob? service).bind system.world.finding?
  | .advance call place => system.calls[call]?.bind (Call.finding? system.world place)
  | _ => none

def findings (system : System) : List Action → List Finding
  | [] => []
  | action :: rest => (system.finding? action).toList ++ (system.act action).findings rest

variable {system : System} {service : ServiceId} {present : Service} {finding : Finding}

theorem findings_append (system : System) (early late : List Action) :
    system.findings (early ++ late) =
      system.findings early ++ (system.run early).findings late := by
  induction early generalizing system with
  | nil => rfl
  | cons action rest ih =>
      rw [List.cons_append, findings, findings, ih, List.append_assoc]
      rfl

theorem exists_of_dueJob? {world : World} {job : Job} (hjob : world.dueJob? service = some job) :
    ∃ present rest, world.services[service]? = some present ∧
      present.upkeep.agenda = job :: rest ∧ job.isDue world.now = true ∧
        present.upkeep.running = true := by
  unfold World.dueJob? at hjob
  split at hjob
  · cases hjob
  · rename_i present hpresent
    split at hjob
    · rename_i hrunning
      obtain ⟨hhead, hdue⟩ := Option.filter_eq_some_iff.mp hjob
      obtain ⟨rest, hagenda⟩ := List.head?_eq_some_iff.mp hhead
      exact ⟨present, rest, hpresent, hagenda, hdue, hrunning⟩
    · cases hjob

theorem dueJob?_of_work {job : Job} {rest : List Job}
    (hpresent : system.world.services[service]? = some present)
    (hagenda : present.upkeep.agenda = job :: rest) (hdue : job.isDue system.world.now = true)
    (hrunning : present.upkeep.running = true) : system.world.dueJob? service = some job := by
  simp [World.dueJob?, hpresent, hrunning, hagenda, hdue]

/-- A worker finds out what the job at the head of its agenda does. -/
theorem finding?_upkeep (hfinding : system.finding? (.upkeep service) = some finding) :
    ∃ present job rest, system.world.services[service]? = some present ∧
      present.upkeep.agenda = job :: rest ∧ job.isDue system.world.now = true ∧
        present.upkeep.running = true ∧ system.world.finding? job = some finding := by
  obtain ⟨job, hjob, hfound⟩ := Option.bind_eq_some_iff.mp hfinding
  obtain ⟨present, rest, hpresent, hagenda, hdue, hrunning⟩ := exists_of_dueJob? hjob
  exact ⟨present, job, rest, hpresent, hagenda, hdue, hrunning, hfound⟩

theorem finding?_of_idle (hidle : system.world.stepUpkeep service = none) :
    system.finding? (.upkeep service) = none := by
  cases hfinding : system.finding? (.upkeep service) with
  | none => rfl
  | some finding =>
      obtain ⟨present, job, rest, hpresent, hagenda, hdue, hrunning, -⟩ := finding?_upkeep hfinding
      simp [World.stepUpkeep, hpresent, hrunning, hagenda, hdue] at hidle

theorem finding?_of_agenda_nil (hpresent : system.world.services[service]? = some present)
    (hagenda : present.upkeep.agenda = []) : system.finding? (.upkeep service) = none := by
  simp [finding?, World.dueJob?, hpresent, hagenda]

theorem finding?_of_work {job : Job} {rest : List Job}
    (hpresent : system.world.services[service]? = some present)
    (hagenda : present.upkeep.agenda = job :: rest) (hdue : job.isDue system.world.now = true)
    (hrunning : present.upkeep.running = true) :
    system.finding? (.upkeep service) = system.world.finding? job := by
  rw [finding?, dueJob?_of_work hpresent hagenda hdue hrunning, Option.bind_some]

end System

end ReplicaPool
