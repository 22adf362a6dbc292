import ReplicaPool.Proofs.Learning.Findings

/-!
# Upkeep files what it has learned

A classification takes a while, and its result is applied to an entry later on. `InformedUpkeep` says that
the agenda still speaks of the connection that the entry has then, and that every entry has the role that
its connection showed last, unless the job that moves it is already on the agenda. One job after the other
keeps this: `InformedUpkeep.perform`.
-/

namespace ReplicaPool

namespace Job

def subject? : Job → Option ConnectionId
  | .probe connection _ => some connection
  | .classify connection _ _ => some connection
  | .missed connection _ => some connection
  | .offer _ connection _ => some connection
  | .relocate _ connection _ => some connection
  | _ => none

def reviews? : Job → Option (String × ConnectionId × Role)
  | .probe connection (.review addr current) => some (addr, connection, current)
  | .classify connection (.review addr current) _ => some (addr, connection, current)
  | .missed connection (.review addr current) => some (addr, connection, current)
  | _ => none

variable {findings later : List Finding} {pool moved : Pool} {job follower : Job}

/-- What the jobs of an informed agenda may rely on. -/
structure Informed (findings : List Finding) (pool : Pool) (job : Job) : Prop where
  carried : ∀ {addr : String} {connection : ConnectionId}, job.carries? = some (addr, connection) →
    ∀ other role, pool.topology.lookup? other ≠ some (connection, role)
  reviewed : ∀ {addr : String} {connection : ConnectionId} {current : Role},
    job.reviews? = some (addr, connection, current) →
      pool.topology.lookup? addr = some (connection, current)
  offered : ∀ {addr : String} {connection : ConnectionId} {role : Role},
    job = .offer addr connection role → lastRole findings connection = some role
  moved : ∀ {addr : String} {connection : ConnectionId} {role : Role},
    job = .relocate addr connection role →
      (∃ filed, pool.topology.lookup? addr = some (connection, filed)) ∧
        lastRole findings connection = some role

theorem carries?_eq_none (hsubject : job.subject? = none) : job.carries? = none := by
  cases job <;> first | rfl | cases hsubject

theorem reviews?_eq_none (hsubject : job.subject? = none) : job.reviews? = none := by
  cases job <;> first | rfl | cases hsubject

theorem informed_of_none (hsubject : job.subject? = none) : job.Informed findings pool where
  carried := by
    intro addr connection hcarries
    rw [carries?_eq_none hsubject] at hcarries
    cases hcarries
  reviewed := by
    intro addr connection current hreviews
    rw [reviews?_eq_none hsubject] at hreviews
    cases hreviews
  offered := by
    rintro addr connection role rfl
    cases hsubject
  moved := by
    rintro addr connection role rfl
    cases hsubject

/-- A job of the same kind that comes after another one for the same goal. -/
theorem Informed.follow (hinformed : job.Informed findings pool)
    (hcarries : follower.carries? = job.carries?) (hreviews : follower.reviews? = job.reviews?)
    (hoffer : ∀ addr connection role, follower ≠ .offer addr connection role)
    (hrelocate : ∀ addr connection role, follower ≠ .relocate addr connection role) :
    follower.Informed findings pool where
  carried := fun hcarried => hinformed.carried (hcarries ▸ hcarried)
  reviewed := fun hreviewed => hinformed.reviewed (hreviews ▸ hreviewed)
  offered := fun hoffered => absurd hoffered (hoffer _ _ _)
  moved := fun hmoved => absurd hmoved (hrelocate _ _ _)

/-- The same job later: the entries are the same, and nothing new is known of its connection. -/
theorem Informed.evolves (hinformed : job.Informed findings pool)
    (hlookup : ∀ addr, moved.topology.lookup? addr = pool.topology.lookup? addr)
    (hsame : ∀ connection, job.subject? = some connection →
      lastRole later connection = lastRole findings connection) : job.Informed later moved where
  carried := by
    intro addr connection hcarries other role
    rw [hlookup]
    exact hinformed.carried hcarries other role
  reviewed := by
    intro addr connection current hreviews
    rw [hlookup]
    exact hinformed.reviewed hreviews
  offered := by
    rintro addr connection role rfl
    rw [hsame connection rfl]
    exact hinformed.offered rfl
  moved := by
    rintro addr connection role rfl
    rw [hlookup, hsame connection rfl]
    exact hinformed.moved rfl

end Job

/-- Only a pause comes before a job that speaks of a connection. -/
def Focused (agenda : List Job) : Prop :=
  agenda.Pairwise fun earlier later => earlier.pauses = true ∨ later.subject? = none

structure InformedUpkeep (findings : List Finding) (pool : Pool) (agenda : List Job) : Prop where
  jobs : ∀ job ∈ agenda, job.Informed findings pool
  focused : Focused agenda
  /-- Every entry has the role that its connection showed last, or is about to get it. -/
  filed : ∀ {addr : String} {connection : ConnectionId} {role : Role},
    pool.topology.lookup? addr = some (connection, role) →
      ∃ learned, lastRole findings connection = some learned ∧
        (learned = role ∨ pool.isClosed = true ∨ .relocate addr connection learned ∈ agenda)

namespace InformedUpkeep

variable {findings later : List Finding} {world : World} {pool moved : Pool} {job : Job}
  {rest next agenda : List Job} {addr : String} {connection : ConnectionId} {role : Role}

theorem evolves (hinformed : InformedUpkeep findings pool agenda)
    (hlookup : ∀ addr, moved.topology.lookup? addr = pool.topology.lookup? addr)
    (hclosed : pool.isClosed = true → moved.isClosed = true)
    (hfiled : ∀ {addr connection role}, pool.topology.lookup? addr = some (connection, role) →
      lastRole later connection = lastRole findings connection)
    (hjobs : ∀ job ∈ agenda, ∀ connection, job.subject? = some connection →
      lastRole later connection = lastRole findings connection) :
    InformedUpkeep later moved agenda where
  jobs := fun job hjob => (hinformed.jobs job hjob).evolves hlookup (hjobs job hjob)
  focused := hinformed.focused
  filed := by
    intro addr connection role hentry
    rw [hlookup] at hentry
    obtain ⟨learned, hlearned, hrole⟩ := hinformed.filed hentry
    exact ⟨learned, by rw [hfiled hentry, hlearned], hrole.imp_right (Or.imp_left hclosed)⟩

/-- A worker without an agenda may take up jobs that review nothing but entries. -/
theorem begin (hinformed : InformedUpkeep findings pool [])
    (hjobs : ∀ job ∈ agenda, job.Informed findings pool) (hfocused : Focused agenda) :
    InformedUpkeep findings pool agenda where
  jobs := hjobs
  focused := hfocused
  filed := by
    intro addr connection role hentry
    obtain ⟨learned, hlearned, hrole⟩ := hinformed.filed hentry
    exact ⟨learned, hlearned, hrole.imp_right (Or.imp_right fun hmem => by cases hmem)⟩

/-- The agenda after its first job was performed. Unless the job is a pause, the rest of the agenda speaks
of no connection. -/
theorem step (hinformed : InformedUpkeep findings pool (job :: rest))
    (hnext : ∀ follower ∈ next, follower.Informed later moved) (hfocused : Focused next)
    (hpause : job.pauses = true → next = [] ∧ moved = pool ∧ later = findings)
    (hfiled : ∀ {addr connection role},
      moved.topology.lookup? addr = some (connection, role) →
        ∃ learned, lastRole later connection = some learned ∧
          (learned = role ∨ moved.isClosed = true ∨
            .relocate addr connection learned ∈ next ++ rest)) :
    InformedUpkeep later moved (next ++ rest) := by
  have hrest : Focused rest := (List.pairwise_cons.mp hinformed.focused).2
  have hsilent : job.pauses = true ∨ ∀ follower ∈ rest, follower.subject? = none := by
    cases hpauses : job.pauses with
    | true => exact Or.inl rfl
    | false =>
        refine Or.inr fun follower hfollower => ?_
        have hpair := (List.pairwise_cons.mp hinformed.focused).1 follower hfollower
        rw [hpauses] at hpair
        exact hpair.resolve_left Bool.false_ne_true
  refine ⟨?_, ?_, hfiled⟩
  · intro follower hfollower
    rcases List.mem_append.mp hfollower with hmem | hmem
    · exact hnext follower hmem
    · rcases hsilent with hpauses | hnone
      · obtain ⟨-, rfl, rfl⟩ := hpause hpauses
        exact hinformed.jobs follower (List.mem_cons_of_mem _ hmem)
      · exact Job.informed_of_none (hnone follower hmem)
  · rw [Focused, List.pairwise_append]
    refine ⟨hfocused, hrest, fun first hfirst second hsecond => ?_⟩
    rcases hsilent with hpauses | hnone
    · rw [(hpause hpauses).1] at hfirst
      cases hfirst
    · exact Or.inr (hnone second hsecond)

/-- Unless the first job moves it, an entry has the role that its connection showed last or waits for a
later job. -/
theorem filed_rest (hinformed : InformedUpkeep findings pool (job :: rest))
    (hjob : job ≠ .relocate addr connection role) {filed : Role}
    (hentry : pool.topology.lookup? addr = some (connection, filed))
    (hlast : lastRole findings connection = some role) :
    role = filed ∨ pool.isClosed = true ∨ .relocate addr connection role ∈ rest := by
  obtain ⟨learned, hlearned, hrole⟩ := hinformed.filed hentry
  rw [hlast] at hlearned
  cases hlearned
  refine hrole.imp_right (Or.imp_right fun hmem => ?_)
  exact (List.mem_cons.mp hmem).resolve_left (Ne.symm hjob)

/-- A job that finds nothing out and adds no entry. -/
theorem shrink (hinformed : InformedUpkeep findings pool (job :: rest))
    (hentries : ∀ {addr connection role}, moved.topology.lookup? addr = some (connection, role) →
      pool.topology.lookup? addr = some (connection, role))
    (hclosed : moved.isClosed = pool.isClosed)
    (hjob : ∀ addr connection role, job ≠ .relocate addr connection role)
    (hnext : ∀ follower ∈ next, follower.Informed findings moved) (hfocused : Focused next)
    (hpause : job.pauses = true → next = [] ∧ moved = pool) :
    InformedUpkeep findings moved (next ++ rest) := by
  refine hinformed.step hnext hfocused (fun hpauses => ?_) ?_
  · obtain ⟨hnil, hsame⟩ := hpause hpauses
    exact ⟨hnil, hsame, rfl⟩
  · intro addr connection role hentry
    obtain ⟨learned, hlearned, -⟩ := hinformed.filed (hentries hentry)
    refine ⟨learned, hlearned, ?_⟩
    rw [hclosed]
    exact (hinformed.filed_rest (hjob _ _ _) (hentries hentry) hlearned).imp_right
      (Or.imp_right (List.mem_append_right _))

/-- A job that is followed by none that speaks of a connection. -/
theorem silent (hinformed : InformedUpkeep findings pool (job :: rest))
    (hentries : ∀ {addr connection role}, moved.topology.lookup? addr = some (connection, role) →
      pool.topology.lookup? addr = some (connection, role))
    (hclosed : moved.isClosed = pool.isClosed)
    (hjob : ∀ addr connection role, job ≠ .relocate addr connection role)
    (hnext : ∀ follower ∈ next, follower.subject? = none)
    (hpause : job.pauses = true → next = [] ∧ moved = pool) :
    InformedUpkeep findings moved (next ++ rest) :=
  hinformed.shrink hentries hclosed hjob
    (fun follower hmem => Job.informed_of_none (hnext follower hmem))
    (List.pairwise_of_forall_mem_list fun _ _ follower hmem => Or.inr (hnext follower hmem)) hpause

theorem leave (hinformed : InformedUpkeep findings pool (job :: rest))
    (hjob : ∀ addr connection role, job ≠ .relocate addr connection role) :
    InformedUpkeep findings pool rest :=
  hinformed.silent id rfl hjob (fun _ hmem => by cases hmem) fun _ => ⟨rfl, rfl⟩

/-! ### Performing a job -/

theorem informed_refreshAddr {follower : Job} (hmem : follower ∈ world.refreshAddr pool addr) :
    follower.Informed findings pool := by
  simp only [World.refreshAddr] at hmem
  split at hmem
  · rename_i current filed hlookup
    split at hmem
    · rw [List.mem_singleton.mp hmem]
      exact Job.informed_of_none rfl
    · rw [List.mem_singleton.mp hmem]
      refine ⟨(fun hcarries => by cases hcarries), ?_, (fun hoffer => by cases hoffer),
        (fun hmove => by cases hmove)⟩
      intro reviewed connection role hreviews
      cases hreviews
      exact hlookup
  · rw [List.mem_singleton.mp hmem]
    exact Job.informed_of_none rfl

theorem perform_refresh {addrs : List String}
    (hinformed : InformedUpkeep findings pool (.refresh (addr :: addrs) :: rest)) :
    InformedUpkeep findings pool (world.refreshAddr pool addr ++ [.refresh addrs] ++ rest) := by
  refine hinformed.shrink id rfl (fun _ _ _ hjob => by cases hjob) ?_ ?_
    (fun hpauses => by cases hpauses)
  · intro follower hmem
    rcases List.mem_append.mp hmem with hfirst | hlast
    · exact informed_refreshAddr hfirst
    · rw [List.mem_singleton.mp hlast]
      exact Job.informed_of_none rfl
  · obtain ⟨first, hfirst⟩ :=
      List.length_eq_one_iff.mp (length_refreshAddr world pool addr)
    rw [hfirst]
    simp [Focused, Job.subject?]

theorem perform_reach {purpose : Purpose} (hsound : pool.Sound world.cluster)
    (hinformed : InformedUpkeep findings pool (.reach addr purpose :: rest)) :
    InformedUpkeep findings pool
      (Job.afterDial addr purpose (world.cluster.dial addr pool.queue).2 ++ rest) := by
  cases hdial : (world.cluster.dial addr pool.queue).2 with
  | error cause =>
      refine hinformed.silent id rfl (fun _ _ _ hjob => by cases hjob) ?_
        (fun hpauses => by cases hpauses)
      intro follower hmem
      rw [List.mem_singleton.mp hmem]
      rfl
  | ok made =>
      obtain ⟨hmade, -, -⟩ := Cluster.serves_dial hdial
      refine hinformed.shrink id rfl (fun _ _ _ hjob => by cases hjob) ?_
        (List.pairwise_singleton _ _) (fun hpauses => by cases hpauses)
      intro follower hmem
      rw [List.mem_singleton.mp hmem]
      refine ⟨?_, (fun hreviews => by cases hreviews), (fun hoffer => by cases hoffer),
        (fun hmove => by cases hmove)⟩
      intro target connection hcarries other role hentry
      cases hcarries
      exact Nat.lt_irrefl _ (hmade ▸ (hsound.serves hentry).lt_length)

/-! ### The end of a classification -/

/-- A job that finds something out and leaves the pool alone. -/
theorem find {finding : Finding} (hinformed : InformedUpkeep findings pool (job :: rest))
    (hbusy : job.pauses = false)
    (hjob : ∀ addr connection role, job ≠ .relocate addr connection role)
    (hnext : ∀ follower ∈ next, follower.Informed (findings ++ [finding]) pool)
    (hfocused : Focused next)
    (hfiled : ∀ {addr connection role}, pool.topology.lookup? addr = some (connection, role) →
      lastRole (findings ++ [finding]) connection = lastRole findings connection ∨
        ∃ learned, lastRole (findings ++ [finding]) connection = some learned ∧
          (learned = role ∨ .relocate addr connection learned ∈ next)) :
    InformedUpkeep (findings ++ [finding]) pool (next ++ rest) := by
  refine hinformed.step hnext hfocused ?_ ?_
  · rw [hbusy]
    exact fun hfalse => by cases hfalse
  · intro addr connection role hentry
    rcases hfiled hentry with hsame | ⟨learned, hlearned, hrole⟩
    · obtain ⟨learned, hlearned, -⟩ := hinformed.filed hentry
      exact ⟨learned, hsame.trans hlearned,
        (hinformed.filed_rest (hjob _ _ _) hentry hlearned).imp_right
          (Or.imp_right (List.mem_append_right _))⟩
    · exact ⟨learned, hlearned,
        hrole.imp_right fun hmem => Or.inr (List.mem_append_left _ hmem)⟩

theorem conclude_error {goal : Goal} {cause : PoolError}
    (hinformed : InformedUpkeep findings pool (job :: rest)) (hbusy : job.pauses = false)
    (hjob : ∀ addr connection role, job ≠ .relocate addr connection role) :
    InformedUpkeep (findings ++ [⟨connection, .error cause⟩]) pool
      (goal.conclude connection (.error cause) ++ rest) := by
  refine hinformed.find hbusy hjob ?_ ?_ fun _ =>
    Or.inl (lastRole_concat_error findings connection cause _)
  · cases goal with
    | file target purpose =>
        intro follower hmem
        rcases List.mem_cons.mp hmem with rfl | hfail
        · exact Job.informed_of_none rfl
        · rw [List.mem_singleton.mp hfail]
          exact Job.informed_of_none rfl
    | review target current => exact fun follower hmem => by cases hmem
  · cases goal <;> simp [Focused, Goal.conclude, Job.subject?]

theorem conclude_file {purpose : Purpose}
    (hinformed : InformedUpkeep findings pool (job :: rest)) (hbusy : job.pauses = false)
    (hjob : ∀ addr connection role, job ≠ .relocate addr connection role)
    (hnew : ∀ other filed, pool.topology.lookup? other ≠ some (connection, filed)) :
    InformedUpkeep (findings ++ [⟨connection, .ok role⟩]) pool
      ((Goal.file addr purpose).conclude connection (.ok role) ++ rest) := by
  refine hinformed.find hbusy hjob ?_ (List.pairwise_singleton _ _) ?_
  · intro follower hmem
    rw [List.mem_singleton.mp hmem]
    refine ⟨?_, (fun hreviewed => by cases hreviewed), ?_, (fun hmove => by cases hmove)⟩
    · intro offered found hoffered
      cases hoffered
      exact hnew
    · intro offered found shown hoffered
      cases hoffered
      exact lastRole_concat_ok findings connection role
  · intro other found filed hentry
    have hne : connection ≠ found := by
      rintro rfl
      exact hnew _ _ hentry
    refine Or.inl (lastRole_append_of_ne fun finding hmem => ?_)
    rwa [List.mem_singleton.mp hmem]

theorem conclude_review {cluster : Cluster} {current : Role} (hsound : pool.Sound cluster)
    (hinformed : InformedUpkeep findings pool (job :: rest)) (hbusy : job.pauses = false)
    (hjob : ∀ addr connection role, job ≠ .relocate addr connection role)
    (hentry : pool.topology.lookup? addr = some (connection, current)) :
    InformedUpkeep (findings ++ [⟨connection, .ok role⟩]) pool
      ((Goal.review addr current).conclude connection (.ok role) ++ rest) := by
  have hlast := lastRole_concat_ok findings connection role
  refine hinformed.find hbusy hjob ?_ ?_ ?_
  · intro follower hmem
    simp only [Goal.conclude] at hmem
    split at hmem
    · cases hmem
    · rw [List.mem_singleton.mp hmem]
      refine ⟨(fun hcarried => by cases hcarried), (fun hreviewed => by cases hreviewed),
        (fun hoffer => by cases hoffer), ?_⟩
      intro moved found shown hmove
      cases hmove
      exact ⟨⟨current, hentry⟩, hlast⟩
  · simp only [Goal.conclude]
    split <;> simp [Focused]
  · intro other found filed hfiled
    by_cases hfound : found = connection
    · subst hfound
      obtain rfl : other = addr := (hsound.serves hfiled).addr_unique (hsound.serves hentry)
      rw [hentry] at hfiled
      cases hfiled
      refine Or.inr ⟨role, hlast, ?_⟩
      by_cases hrole : role = current
      · exact Or.inl hrole
      · rw [Goal.conclude, if_neg hrole]
        exact Or.inr List.mem_cons_self
    · refine Or.inl (lastRole_append_of_ne fun finding hmem => ?_)
      rw [List.mem_singleton.mp hmem]
      exact Ne.symm hfound

theorem conclude {cluster : Cluster} {goal : Goal} {outcome : Except PoolError Role}
    (hsound : pool.Sound cluster) (hinformed : InformedUpkeep findings pool (job :: rest))
    (hcarries : job.carries? = (Job.probe connection goal).carries?)
    (hreviews : job.reviews? = (Job.probe connection goal).reviews?)
    (hbusy : job.pauses = false)
    (hjob : ∀ addr connection role, job ≠ .relocate addr connection role) :
    InformedUpkeep (findings ++ [⟨connection, outcome⟩]) pool
      (goal.conclude connection outcome ++ rest) := by
  have hfirst := hinformed.jobs job List.mem_cons_self
  cases outcome with
  | error cause => exact hinformed.conclude_error hbusy hjob
  | ok role =>
      cases goal with
      | file target purpose => exact hinformed.conclude_file hbusy hjob (hfirst.carried hcarries)
      | review target current =>
          exact hinformed.conclude_review hsound hbusy hjob (hfirst.reviewed hreviews)

/-- A connection that is offered is filed under the role that it showed last. -/
theorem perform_offer (hconsistent : pool.topology.Consistent)
    (hinformed : InformedUpkeep findings pool (.offer addr connection role :: rest)) :
    InformedUpkeep findings (pool.file addr connection role).1
      (world.afterOffer connection (pool.file addr connection role).2 ++ rest) := by
  have hlast := (hinformed.jobs _ List.mem_cons_self).offered rfl
  have hnext : ∀ follower ∈ world.afterOffer connection (pool.file addr connection role).2,
      follower.subject? = none := by
    intro follower hmem
    unfold World.afterOffer at hmem
    split at hmem
    · rw [List.mem_singleton.mp hmem]
      rfl
    · cases hmem
    · split at hmem
      · cases hmem
      · rw [List.mem_singleton.mp hmem]
        rfl
  refine hinformed.step (fun follower hmem => Job.informed_of_none (hnext follower hmem))
    (List.pairwise_of_forall_mem_list fun _ _ follower hmem => Or.inr (hnext follower hmem))
    (fun hpauses => by cases hpauses) ?_
  have hrest : ∀ {target found filed}, pool.topology.lookup? target = some (found, filed) →
      ∃ learned, lastRole findings found = some learned ∧ (learned = filed ∨
        pool.isClosed = true ∨ .relocate target found learned ∈ rest) := by
    intro target found filed hentry
    obtain ⟨learned, hlearned, -⟩ := hinformed.filed hentry
    exact ⟨learned, hlearned,
      hinformed.filed_rest (fun hjob => by cases hjob) hentry hlearned⟩
  intro target found filed hentry
  rw [Pool.file_eq hconsistent] at hentry ⊢
  cases hclosed : pool.isClosed with
  | true =>
      rw [hclosed, if_pos rfl] at hentry
      obtain ⟨learned, hlearned, -⟩ := hrest hentry
      exact ⟨learned, hlearned, Or.inr (Or.inl (by simp [hclosed]))⟩
  | false =>
      rw [hclosed, if_neg (by simp), hconsistent.lookup?_put] at hentry
      split at hentry
      · cases hentry
        exact ⟨role, hlast, Or.inl rfl⟩
      · obtain ⟨learned, hlearned, hrole⟩ := hrest hentry
        refine ⟨learned, hlearned, hrole.imp_right (Or.imp ?_ (List.mem_append_right _))⟩
        rw [hclosed]
        exact fun hfalse => by cases hfalse

/-- An entry that is moved gets the role that its connection showed last. -/
theorem perform_relocate (hconsistent : pool.topology.Consistent)
    (hinformed : InformedUpkeep findings pool (.relocate addr connection role :: rest)) :
    InformedUpkeep findings (pool.relocate addr connection role).1 rest := by
  obtain ⟨⟨current, hcurrent⟩, hlast⟩ := (hinformed.jobs _ List.mem_cons_self).moved rfl
  have hother : ∀ {target found filed}, target ≠ addr →
      pool.topology.lookup? target = some (found, filed) →
        ∃ learned, lastRole findings found = some learned ∧ (learned = filed ∨
          pool.isClosed = true ∨ .relocate target found learned ∈ rest) := by
    intro target found filed hne hentry
    obtain ⟨learned, hlearned, -⟩ := hinformed.filed hentry
    refine ⟨learned, hlearned, hinformed.filed_rest (fun hjob => ?_) hentry hlearned⟩
    cases hjob
    exact hne rfl
  have hmoved : InformedUpkeep findings (pool.relocate addr connection role).1 ([] ++ rest) := by
    refine hinformed.step (fun follower hmem => by cases hmem) List.Pairwise.nil
      (fun hpauses => by cases hpauses) ?_
    intro target found filed hentry
    by_cases htarget : target = addr
    · subst htarget
      rcases Pool.relocate_cases pool target connection role with
        hsame | ⟨hopen, -, hput⟩
      · rw [hsame] at hentry ⊢
        rw [hcurrent] at hentry
        cases hentry
        refine ⟨role, hlast, ?_⟩
        cases hclosed : pool.isClosed with
        | true => exact Or.inr (Or.inl rfl)
        | false =>
            refine Or.inl ?_
            by_contra hne
            have hput := Pool.relocate_of_ne hclosed hcurrent (Ne.symm hne)
            rw [hsame] at hput
            have hlookup := hcurrent
            rw [hput, hconsistent.lookup?_put, if_pos rfl] at hlookup
            cases hlookup
            exact hne rfl
      · rw [hput, hconsistent.lookup?_put, if_pos rfl] at hentry
        cases hentry
        exact ⟨role, hlast, Or.inl rfl⟩
    · rw [Pool.lookup?_relocate_of_ne hconsistent htarget] at hentry
      obtain ⟨learned, hlearned, hrole⟩ := hother htarget hentry
      refine ⟨learned, hlearned, hrole.imp_right (Or.imp_left fun hclosed => ?_)⟩
      simp [Pool.relocate, hclosed]
  exact hmoved

theorem perform_discover (hinformed : InformedUpkeep findings pool (.discover :: rest)) :
    InformedUpkeep findings (world.perform pool .discover).2.1
      ((world.perform pool .discover).2.2 ++ rest) := by
  simp only [World.perform]
  split
  · exact hinformed.leave fun _ _ _ hjob => by cases hjob
  · rename_i function hfunction
    have hlookup := Pool.lookup?_resolve world.isConnected pool .rw
    have hclosed : (pool.resolve world.isConnected .rw).2.isClosed = pool.isClosed := by
      rw [(Pool.resolve_snd world.isConnected pool .rw).1]
    generalize pool.resolve world.isConnected .rw = resolved at hlookup hclosed ⊢
    rcases resolved with ⟨cause | connection, moved⟩
    · exact hinformed.silent (fun hentry => hlookup _ ▸ hentry) hclosed
        (fun _ _ _ hjob => by cases hjob) (fun _ hmem => by cases hmem)
        (fun hpauses => by cases hpauses)
    · refine hinformed.silent (fun hentry => hlookup _ ▸ hentry) hclosed
        (fun _ _ _ hjob => by cases hjob) ?_ (fun hpauses => by cases hpauses)
      intro follower hmem
      rcases mem_beginDiscovery hmem with ⟨due, rfl⟩ | ⟨script, rfl⟩ <;> rfl

theorem silent_onReply {topology : Topology}
    {outcome : Except (Failure ConnectionError) (List Json)} {follower : Job}
    (hmem : follower ∈ topology.onReply outcome) : follower.subject? = none := by
  rcases onReply_cases topology outcome with hnone | ⟨fresh, gone, members, -, -, hreply⟩
  · rw [hnone] at hmem
    cases hmem
  · rw [hreply] at hmem
    rw [List.mem_singleton.mp hmem]
    rfl

/-- A job that evicts an entry and is followed by none that speaks of a connection. -/
theorem evict (hconsistent : pool.topology.Consistent)
    (hinformed : InformedUpkeep findings pool (job :: rest)) (addr : String)
    (hjob : ∀ addr connection role, job ≠ .relocate addr connection role)
    (hbusy : job.pauses = false) (hnext : ∀ follower ∈ next, follower.subject? = none) :
    InformedUpkeep findings (pool.evict addr).1 (next ++ rest) := by
  refine hinformed.silent (Pool.lookup?_of_evict hconsistent) (World.Sectioned.evict addr).isClosed_eq
    hjob hnext ?_
  rw [hbusy]
  exact fun hfalse => by cases hfalse

theorem perform_reconcile_gone {gone members : List String}
    (hconsistent : pool.topology.Consistent)
    (hinformed : InformedUpkeep findings pool (.reconcile [] (addr :: gone) members :: rest)) :
    InformedUpkeep findings (pool.evict addr).1
      ((pool.evict addr).2.toList.map (fun removed => Job.close removed.1) ++
        [.reconcile [] gone members] ++ rest) := by
  refine hinformed.evict hconsistent addr (fun _ _ _ hjob => by cases hjob) rfl ?_
  cases (pool.evict addr).2 <;> simp [Job.subject?]

theorem perform_probe {goal : Goal} {limit : Nat}
    (hinformed : InformedUpkeep findings pool (.probe connection goal :: rest)) :
    InformedUpkeep findings pool (world.beginProbe limit connection goal ++ rest) := by
  refine hinformed.shrink id rfl (fun _ _ _ hjob => by cases hjob) ?_ ?_
    (fun hpauses => by cases hpauses)
  · intro follower hmem
    have hjob := hinformed.jobs _ List.mem_cons_self
    rcases mem_beginProbe hmem with ⟨due, rfl⟩ | ⟨script, rfl⟩ | rfl
    · exact Job.informed_of_none rfl
    · exact hjob.follow (by cases goal <;> rfl) (by cases goal <;> rfl)
        (fun _ _ _ hoffer => by cases hoffer) (fun _ _ _ hmove => by cases hmove)
    · exact hjob.follow (by cases goal <;> rfl) (by cases goal <;> rfl)
        (fun _ _ _ hoffer => by cases hoffer) (fun _ _ _ hmove => by cases hmove)
  · simp only [World.beginProbe]
    split
    · simp [Focused]
    · split <;> simp [Focused, Job.pauses]

theorem perform (hsound : pool.Sound world.cluster)
    (hinformed : InformedUpkeep findings pool (job :: rest)) :
    InformedUpkeep (findings ++ (world.finding? job).toList) (world.perform pool job).2.1
      ((world.perform pool job).2.2 ++ rest) := by
  have hconsistent := hsound.consistent
  have hnothing : ∀ {pool agenda}, InformedUpkeep findings pool agenda →
      InformedUpkeep (findings ++ (none : Option Finding).toList) pool agenda := by
    intro pool agenda hsame
    rwa [Option.toList_none, List.append_nil]
  cases job with
  | wait due => exact hnothing (hinformed.leave fun _ _ _ hjob => by cases hjob)
  | refresh addrs =>
      cases addrs with
      | nil => exact hnothing (hinformed.leave fun _ _ _ hjob => by cases hjob)
      | cons addr addrs =>
          simp only [World.perform]
          split
          · exact hnothing (hinformed.leave fun _ _ _ hjob => by cases hjob)
          · exact hnothing hinformed.perform_refresh
  | discover => exact hnothing hinformed.perform_discover
  | learn connection script =>
      simp only [World.perform]
      split
      · exact hnothing (hinformed.leave fun _ _ _ hjob => by cases hjob)
      · exact hnothing (hinformed.silent id rfl (fun _ _ _ hjob => by cases hjob)
          (fun _ => silent_onReply) (fun hpauses => by cases hpauses))
  | reconcile fresh gone members =>
      cases fresh with
      | cons addr fresh =>
          simp only [World.perform]
          split
          · exact hnothing (hinformed.leave fun _ _ _ hjob => by cases hjob)
          · exact hnothing (hinformed.silent id rfl (fun _ _ _ hjob => by cases hjob)
              (by simp [Job.subject?]) (fun hpauses => by cases hpauses))
      | nil =>
          cases gone with
          | cons addr gone => exact hnothing (hinformed.perform_reconcile_gone hconsistent)
          | nil =>
              exact hnothing (hinformed.silent (fun hentry => Pool.lookup?_setAddrs _ _ _ ▸ hentry)
                (World.Sectioned.setAddrs members).isClosed_eq (fun _ _ _ hjob => by cases hjob)
                (fun _ hmem => by cases hmem) (fun hpauses => by cases hpauses))
  | dial addr purpose =>
      refine hnothing (hinformed.silent id rfl (fun _ _ _ hjob => by cases hjob) ?_
        (fun hpauses => by cases hpauses))
      intro follower hmem
      rcases mem_beginDial hmem with ⟨due, rfl⟩ | rfl | rfl <;> rfl
  | reach addr purpose => exact hnothing (hinformed.perform_reach hsound)
  | fail addr purpose =>
      cases purpose with
      | enlist => exact hnothing (hinformed.leave fun _ _ _ hjob => by cases hjob)
      | reopen =>
          exact hnothing (hinformed.evict hconsistent addr (fun _ _ _ hjob => by cases hjob) rfl
            fun _ hmem => by cases hmem)
  | probe connection goal => exact hnothing hinformed.perform_probe
  | classify connection goal script =>
      exact hinformed.conclude hsound (by cases goal <;> rfl) (by cases goal <;> rfl) rfl
        fun _ _ _ hjob => by cases hjob
  | missed connection goal =>
      exact hinformed.conclude hsound (by cases goal <;> rfl) (by cases goal <;> rfl) rfl
        fun _ _ _ hjob => by cases hjob
  | offer addr connection role => exact hnothing (hinformed.perform_offer hconsistent)
  | relocate addr connection role => exact hnothing (hinformed.perform_relocate hconsistent)
  | close connection => exact hnothing (hinformed.leave fun _ _ _ hjob => by cases hjob)

theorem takesUp (hinformed : InformedUpkeep findings pool [])
    (htakesUp : TakesUp world pool agenda) : InformedUpkeep findings pool agenda := by
  cases htakesUp with
  | nothing => exact hinformed
  | event event hopen =>
      rcases onEvent_eq_or world pool event with hnone | hrefresh
      · rw [hnone]
        exact hinformed
      · rw [hrefresh]
        refine hinformed.begin (fun job hjob => informed_refreshAddr hjob) ?_
        obtain ⟨first, hfirst⟩ :=
          List.length_eq_one_iff.mp (length_refreshAddr world pool event.addr)
        rw [hfirst]
        exact List.pairwise_singleton _ _
  | discover hopen =>
      refine hinformed.begin (fun job hjob => ?_) (List.pairwise_singleton _ _)
      rw [List.mem_singleton.mp hjob]
      exact Job.informed_of_none rfl
  | refresh hopen =>
      refine hinformed.begin (fun job hjob => ?_) (List.pairwise_singleton _ _)
      rw [List.mem_singleton.mp hjob]
      exact Job.informed_of_none rfl

/-! ### Whom a job speaks of -/

/-- The connections that an agenda speaks of belong to its pool. -/
theorem serves_subject {cluster : Cluster} (hsound : SoundUpkeep cluster pool agenda)
    (hinformed : InformedUpkeep findings pool agenda) (hjob : job ∈ agenda)
    (hsubject : job.subject? = some connection) :
    ∃ addr, cluster.Serves connection addr pool.queue := by
  have hcarries : ∀ addr, job.carries? = some (addr, connection) →
      ∃ addr, cluster.Serves connection addr pool.queue :=
    fun addr hcarries => ⟨addr, (hsound.jobs job hjob).carried hcarries⟩
  have hreviews : ∀ addr current, job.reviews? = some (addr, connection, current) →
      ∃ addr, cluster.Serves connection addr pool.queue :=
    fun addr current hreviews =>
      ⟨addr, hsound.sound.serves ((hinformed.jobs job hjob).reviewed hreviews)⟩
  have hgoal : ∀ goal : Goal, job.carries? = (Job.probe connection goal).carries? →
      job.reviews? = (Job.probe connection goal).reviews? →
        ∃ addr, cluster.Serves connection addr pool.queue := by
    intro goal hsameCarries hsameReviews
    cases goal with
    | file addr purpose => exact hcarries addr hsameCarries
    | review addr current => exact hreviews addr current hsameReviews
  cases job with
  | probe found goal =>
      cases hsubject
      exact hgoal goal rfl rfl
  | classify found goal script =>
      cases hsubject
      exact hgoal goal (by cases goal <;> rfl) (by cases goal <;> rfl)
  | missed found goal =>
      cases hsubject
      exact hgoal goal (by cases goal <;> rfl) (by cases goal <;> rfl)
  | offer addr found role =>
      cases hsubject
      exact hcarries addr rfl
  | relocate addr found role =>
      cases hsubject
      obtain ⟨⟨filed, hentry⟩, -⟩ := (hinformed.jobs _ hjob).moved rfl
      exact ⟨addr, hsound.sound.serves hentry⟩
  | _ => cases hsubject

theorem subject?_of_finding? {finding : Finding} (hfinding : world.finding? job = some finding) :
    job.subject? = some finding.connection := by
  cases job <;> cases hfinding <;> rfl

/-- A classification of a connection that has an entry reviews this entry. A failure of it changes
nothing. -/
theorem perform_of_error {cause : PoolError}
    (hinformed : InformedUpkeep findings pool (job :: rest))
    (hfinding : world.finding? job = some ⟨connection, .error cause⟩)
    (hentry : pool.topology.lookup? addr = some (connection, role)) :
    (world.perform pool job).2 = (pool, []) := by
  have hcarried : ∀ target, job.carries? ≠ some (target, connection) :=
    fun target hcarries =>
      (hinformed.jobs job List.mem_cons_self).carried hcarries addr role hentry
  cases job with
  | classify found goal script =>
      have hfound : found = connection := congrArg Finding.connection (Option.some.inj hfinding)
      have hcause : Role.ofOutcome (world.answer found .introspect script).2 = .error cause :=
        congrArg Finding.outcome (Option.some.inj hfinding)
      subst hfound
      cases goal with
      | file target purpose => exact absurd rfl (hcarried target)
      | review target current =>
          simp only [World.perform, hcause]
          rfl
  | missed found goal =>
      have hfound : found = connection := congrArg Finding.connection (Option.some.inj hfinding)
      subst hfound
      cases goal with
      | file target purpose => exact absurd rfl (hcarried target)
      | review target current => rfl
  | _ => cases hfinding

end InformedUpkeep

end ReplicaPool
