import ReplicaPool.Proofs.Pool.Soundness
import ReplicaPool.Proofs.Upkeep.Frame

/-!
# Sound upkeep

The agenda of a worker holds connections that are not filed yet, or not any more. `SoundUpkeep` says of a
pool and an agenda that the pool is sound, that the agenda accounts for every connection the pool lacks,
and that an entry which a failed attempt may drop without closing it is closed already. One job after
the other keeps this: `SoundUpkeep.perform`.
-/

namespace ReplicaPool

namespace Job

/-- The fresh connection that a job works towards filing, with its address. -/
def carries? : Job → Option (String × ConnectionId)
  | .probe connection (.file addr _) => some (addr, connection)
  | .classify connection (.file addr _) _ => some (addr, connection)
  | .missed connection (.file addr _) => some (addr, connection)
  | .offer addr connection _ => some (addr, connection)
  | _ => none

/-- The connection that a job sees to, by filing it or by closing it. -/
def holds? : Job → Option ConnectionId
  | .close connection => some connection
  | job => job.carries?.map Prod.snd

/-- The address whose entry is dropped if the job, or one that follows from it, fails. -/
def drops? : Job → Option String
  | .dial addr .reopen => some addr
  | .reach addr .reopen => some addr
  | .fail addr .reopen => some addr
  | .probe _ (.file addr .reopen) => some addr
  | .classify _ (.file addr .reopen) _ => some addr
  | .missed _ (.file addr .reopen) => some addr
  | _ => none

def members? : Job → Option (List String)
  | .reconcile _ _ members => some members
  | _ => none

/-- Whether a job leaves the pool alone and is followed by nothing of its own. -/
def pauses : Job → Bool
  | .wait _ => true
  | .close _ => true
  | _ => false

variable {cluster later : Cluster} {opened : QueueId → Prop} {pool : Pool} {job follower : Job}

structure Sound (cluster : Cluster) (pool : Pool) (job : Job) : Prop where
  carried : ∀ {addr : String} {connection : ConnectionId},
    job.carries? = some (addr, connection) → cluster.Serves connection addr pool.queue
  members : ∀ {members : List String}, job.members? = some members → members ≠ [] ∧ members.Nodup
  dropped : ∀ {addr : String} {connection : ConnectionId} {role : Role}, job.drops? = some addr →
    pool.topology.lookup? addr = some (connection, role) → cluster.link connection = .closed

structure Follows (follower job : Job) : Prop where
  carries : follower.carries? = none ∨ follower.carries? = job.carries?
  members : follower.members? = none ∨ follower.members? = job.members?
  drops : follower.drops? = none ∨ follower.drops? = job.drops?

theorem Sound.follow (hsound : job.Sound cluster pool) (hfollows : follower.Follows job) :
    follower.Sound cluster pool where
  carried := by
    intro addr connection hcarries
    rcases hfollows.carries with hnone | hsame
    · rw [hnone] at hcarries
      cases hcarries
    · exact hsound.carried (hsame ▸ hcarries)
  members := by
    intro members hmembers
    rcases hfollows.members with hnone | hsame
    · rw [hnone] at hmembers
      cases hmembers
    · exact hsound.members (hsame ▸ hmembers)
  dropped := by
    intro addr connection role hdrops hlookup
    rcases hfollows.drops with hnone | hsame
    · rw [hnone] at hdrops
      cases hdrops
    · exact hsound.dropped (hsame ▸ hdrops) hlookup

theorem Sound.evolves {moved : Pool} (hsound : job.Sound cluster pool) (hpool : pool.Sound cluster)
    (hevolves : cluster.Evolves opened later) (hqueue : moved.queue = pool.queue)
    (hdrops : job.drops? = none ∨ ∀ addr, moved.topology.lookup? addr = pool.topology.lookup? addr) :
    job.Sound later moved where
  carried := by
    intro addr connection hcarries
    rw [hqueue]
    exact hevolves.serves (hsound.carried hcarries)
  members := hsound.members
  dropped := by
    intro addr connection role hdropped hlookup
    rcases hdrops with hnone | hsame
    · rw [hnone] at hdropped
      cases hdropped
    · rw [hsame] at hlookup
      exact hevolves.link_closed (hpool.serves hlookup) (hsound.dropped hdropped hlookup)

end Job

/-- Only a pause comes before a job that may drop an entry, so nothing else happens to that entry
first. -/
def Ordered (agenda : List Job) : Prop :=
  agenda.Pairwise fun earlier later => earlier.pauses = true ∨ later.drops? = none

def HeldBy (agenda : List Job) (connection : ConnectionId) : Prop :=
  ∃ job ∈ agenda, job.holds? = some connection

structure SoundUpkeep (cluster : Cluster) (pool : Pool) (agenda : List Job) : Prop where
  sound : pool.Sound cluster
  jobs : ∀ job ∈ agenda, job.Sound cluster pool
  ordered : Ordered agenda
  accounts : pool.Accounts cluster (HeldBy agenda)

namespace SoundUpkeep

variable {cluster later : Cluster} {opened : QueueId → Prop} {pool moved : Pool} {job : Job}
  {rest next agenda : List Job}

theorem evolves (hsound : SoundUpkeep cluster pool agenda) (hevolves : cluster.Evolves opened later)
    (hclosed : ¬opened pool.queue) : SoundUpkeep later pool agenda where
  sound := hsound.sound.evolves hevolves
  jobs := fun job hjob =>
    (hsound.jobs job hjob).evolves hsound.sound hevolves rfl (Or.inr fun _ => rfl)
  ordered := hsound.ordered
  accounts := by
    intro connection addr hserves
    rcases hevolves.serves_origin hserves with hbefore | ⟨-, hopened⟩
    · exact (hsound.accounts hbefore).imp_left (hevolves.link_closed hbefore)
    · exact absurd hopened hclosed

theorem resolve (hsound : SoundUpkeep cluster pool agenda) (alive : ConnectionId → Bool)
    (mode : Mode) : SoundUpkeep cluster (pool.resolve alive mode).2 agenda where
  sound := hsound.sound.resolve alive mode
  jobs := fun job hjob =>
    (hsound.jobs job hjob).evolves hsound.sound (Cluster.evolves_self cluster)
      (by rw [(Pool.resolve_snd alive pool mode).1]) (Or.inr (Pool.lookup?_resolve alive pool mode))
  ordered := hsound.ordered
  accounts := by
    intro connection addr hserves
    rw [(Pool.resolve_snd alive pool mode).1] at hserves
    rw [Pool.lookup?_resolve]
    exact hsound.accounts hserves

theorem shut (hsound : SoundUpkeep cluster pool agenda) :
    SoundUpkeep cluster { pool with isClosed := true } agenda where
  sound := { hsound.sound with }
  jobs := fun job hjob =>
    (hsound.jobs job hjob).evolves hsound.sound (Cluster.evolves_self cluster) rfl
      (Or.inr fun _ => rfl)
  ordered := hsound.ordered
  accounts := hsound.accounts

/-- The agenda after its first job was performed. Everything that was filed, that the job saw to, or that is new
has to be filed, closed or seen to by what follows; and unless the job is a pause the rest of the agenda
drops nothing. -/
theorem step (hsound : SoundUpkeep cluster pool (job :: rest))
    (hevolves : cluster.Evolves opened later) (hqueue : moved.queue = pool.queue)
    (hpool : moved.Sound later) (hnext : ∀ follower ∈ next, follower.Sound later moved)
    (hordered : Ordered next)
    (hpause : job.pauses = true →
      next = [] ∧ ∀ addr, moved.topology.lookup? addr = pool.topology.lookup? addr)
    (hfiled : ∀ {addr connection role}, pool.topology.lookup? addr = some (connection, role) →
      later.link connection = .closed ∨
        (∃ role, moved.topology.lookup? addr = some (connection, role)) ∨ HeldBy next connection)
    (hheld : ∀ {connection addr}, job.holds? = some connection →
      later.Serves connection addr pool.queue → later.link connection = .closed ∨
        (∃ role, moved.topology.lookup? addr = some (connection, role)) ∨ HeldBy next connection)
    (hmade : ∀ {connection addr}, cluster.connections.length ≤ connection →
      later.Serves connection addr pool.queue → HeldBy next connection) :
    SoundUpkeep later moved (next ++ rest) := by
  have hrestOrdered : Ordered rest := (List.pairwise_cons.mp hsound.ordered).2
  -- Jobs that rely on an entry to drop it come after pauses only, and a pause moves no entry.
  have hrestDrops : job.pauses = true ∨ ∀ follower ∈ rest, follower.drops? = none := by
    cases hpauses : job.pauses with
    | true => exact Or.inl rfl
    | false =>
        refine Or.inr fun follower hfollower => ?_
        have hpair := (List.pairwise_cons.mp hsound.ordered).1 follower hfollower
        rw [hpauses] at hpair
        exact hpair.resolve_left Bool.false_ne_true
  refine ⟨hpool, ?_, ?_, ?_⟩
  · intro follower hfollower
    rcases List.mem_append.mp hfollower with hmem | hmem
    · exact hnext follower hmem
    · refine (hsound.jobs follower (List.mem_cons_of_mem _ hmem)).evolves hsound.sound hevolves hqueue ?_
      rcases hrestDrops with hpauses | hnone
      · exact Or.inr (hpause hpauses).2
      · exact Or.inl (hnone follower hmem)
  · rw [Ordered, List.pairwise_append]
    refine ⟨hordered, hrestOrdered, fun first hfirst second hsecond => ?_⟩
    rcases hrestDrops with hpauses | hnone
    · rw [(hpause hpauses).1] at hfirst
      cases hfirst
    · exact Or.inr (hnone second hsecond)
  · intro connection addr hserves
    rw [hqueue] at hserves
    have hcarry : HeldBy next connection → HeldBy (next ++ rest) connection := by
      rintro ⟨follower, hmem, hholds⟩
      exact ⟨follower, List.mem_append_left _ hmem, hholds⟩
    by_cases hnew : cluster.connections.length ≤ connection
    · exact Or.inr (Or.inr (hcarry (hmade hnew hserves)))
    · have hbefore : cluster.Serves connection addr pool.queue := by
        rcases hevolves.serves_origin hserves with hbefore | ⟨hle, -⟩
        · exact hbefore
        · exact absurd hle hnew
      rcases hsound.accounts hbefore with hclosed | ⟨role, hlookup⟩ | ⟨holder, hmem, hholds⟩
      · exact Or.inl (hevolves.link_closed hbefore hclosed)
      · exact (hfiled hlookup).imp_right (Or.imp_right hcarry)
      · rcases List.mem_cons.mp hmem with rfl | hrest
        · exact (hheld hholds hserves).imp_right (Or.imp_right hcarry)
        · exact Or.inr (Or.inr ⟨holder, List.mem_append_right _ hrest, hholds⟩)

theorem quiet (hsound : SoundUpkeep cluster pool (job :: rest))
    (hevolves : cluster.Evolves (fun _ => False) later) (hpool : moved.Sound later)
    (hqueue : moved.queue = pool.queue)
    (hlookup : ∀ addr, moved.topology.lookup? addr = pool.topology.lookup? addr)
    (hnext : ∀ follower ∈ next, follower.Sound later moved) (hordered : Ordered next)
    (hpause : job.pauses = true → next = [])
    (hheld : ∀ {connection}, job.holds? = some connection →
      later.link connection = .closed ∨ HeldBy next connection) :
    SoundUpkeep later moved (next ++ rest) := by
  refine hsound.step hevolves hqueue hpool hnext hordered
    (fun hpauses => ⟨hpause hpauses, hlookup⟩) ?_ ?_ ?_
  · intro addr connection role hfiled
    exact Or.inr (Or.inl ⟨role, by rw [hlookup, hfiled]⟩)
  · intro connection addr hholds _
    exact (hheld hholds).imp_right Or.inr
  · rintro connection addr hle ⟨present, hpresent, -⟩
    exact (hevolves.made hpresent hle).elim

/-- A job that changes neither the cluster nor the pool and is followed by jobs of the same kind. -/
theorem pass (hsound : SoundUpkeep cluster pool (job :: rest))
    (hnext : ∀ follower ∈ next, follower.Sound cluster pool) (hordered : Ordered next)
    (hpause : job.pauses = true → next = [])
    (hheld : ∀ {connection}, job.holds? = some connection → HeldBy next connection) :
    SoundUpkeep cluster pool (next ++ rest) :=
  hsound.quiet (.refl _) hsound.sound rfl (fun _ => rfl) hnext hordered hpause
    fun hholds => Or.inr (hheld hholds)

end SoundUpkeep

/-! ### What follows from a job -/

section Followers

variable {world : World} {pool : Pool} {limit : Nat} {addr : String} {purpose : Purpose}
  {connection held : ConnectionId} {goal : Goal} {follower : Job} {members : List String}

theorem Job.sound_of_none {cluster : Cluster} {job : Job} (hcarries : job.carries? = none)
    (hmembers : job.members? = none) (hdrops : job.drops? = none) : job.Sound cluster pool where
  carried := by simp [hcarries]
  members := by simp [hmembers]
  dropped := by simp [hdrops]

theorem mem_beginDial (hmem : follower ∈ world.beginDial limit addr purpose) :
    (∃ due, follower = .wait due) ∨ follower = .reach addr purpose ∨
      follower = .fail addr purpose := by
  simp only [World.beginDial] at hmem
  split at hmem
  · simp_all
  · split at hmem <;> simp at hmem <;> grind

theorem follows_beginDial (hmem : follower ∈ world.beginDial limit addr purpose) :
    follower.Follows (.dial addr purpose) := by
  rcases mem_beginDial hmem with ⟨due, rfl⟩ | rfl | rfl
  · exact ⟨Or.inl rfl, Or.inl rfl, Or.inl rfl⟩
  · cases purpose <;> exact ⟨Or.inl rfl, Or.inl rfl, Or.inr rfl⟩
  · cases purpose <;> exact ⟨Or.inl rfl, Or.inl rfl, Or.inr rfl⟩

theorem ordered_beginDial : Ordered (world.beginDial limit addr purpose) := by
  simp only [World.beginDial]
  split
  · simp [Ordered]
  · split <;> simp [Ordered, Job.pauses]

theorem mem_beginProbe (hmem : follower ∈ world.beginProbe limit connection goal) :
    (∃ due, follower = .wait due) ∨ (∃ script, follower = .classify connection goal script) ∨
      follower = .missed connection goal := by
  simp only [World.beginProbe] at hmem
  split at hmem
  · simp_all
  · split at hmem <;> simp at hmem <;> grind

theorem follows_beginProbe (hmem : follower ∈ world.beginProbe limit connection goal) :
    follower.Follows (.probe connection goal) := by
  rcases mem_beginProbe hmem with ⟨due, rfl⟩ | ⟨script, rfl⟩ | rfl
  · exact ⟨Or.inl rfl, Or.inl rfl, Or.inl rfl⟩
  · rcases goal with ⟨target, _ | _⟩ | _ <;> exact ⟨Or.inr rfl, Or.inl rfl, Or.inr rfl⟩
  · rcases goal with ⟨target, _ | _⟩ | _ <;> exact ⟨Or.inr rfl, Or.inl rfl, Or.inr rfl⟩

theorem ordered_beginProbe : Ordered (world.beginProbe limit connection goal) := by
  simp only [World.beginProbe]
  split
  · simp [Ordered]
  · split <;> simp [Ordered, Job.pauses]

theorem heldBy_beginProbe (hholds : (Job.probe connection goal).holds? = some held) :
    HeldBy (world.beginProbe limit connection goal) held := by
  cases goal with
  | file target purpose =>
      simp only [World.beginProbe]
      split
      · exact ⟨_, List.mem_singleton_self _, hholds⟩
      · split <;> exact ⟨_, List.mem_cons_of_mem _ (List.mem_singleton_self _), hholds⟩
  | review target current => cases hholds

theorem follows_conclude {job : Job} {outcome : Except PoolError Role}
    (hcarries : job.carries? = (Job.probe connection goal).carries?)
    (hdrops : job.drops? = (Job.probe connection goal).drops?)
    (hmem : follower ∈ goal.conclude connection outcome) : follower.Follows job := by
  cases goal with
  | file target purpose =>
      cases outcome with
      | ok role =>
          rw [List.mem_singleton.mp hmem]
          exact ⟨Or.inr hcarries.symm, Or.inl rfl, Or.inl rfl⟩
      | error cause =>
          rcases List.mem_cons.mp hmem with rfl | hfail
          · exact ⟨Or.inl rfl, Or.inl rfl, Or.inl rfl⟩
          · rw [List.mem_singleton.mp hfail]
            cases purpose <;> exact ⟨Or.inl rfl, Or.inl rfl, Or.inr hdrops.symm⟩
  | review target current =>
      cases outcome with
      | ok role =>
          simp only [Goal.conclude] at hmem
          split at hmem
          · cases hmem
          · rw [List.mem_singleton.mp hmem]
            exact ⟨Or.inl rfl, Or.inl rfl, Or.inl rfl⟩
      | error cause => cases hmem

theorem ordered_conclude {outcome : Except PoolError Role} :
    Ordered (goal.conclude connection outcome) := by
  cases goal <;> cases outcome <;> simp only [Goal.conclude]
  · simp [Ordered, Job.pauses]
  · simp [Ordered]
  · simp [Ordered]
  · split <;> simp [Ordered]

theorem heldBy_conclude {outcome : Except PoolError Role}
    (hholds : (Job.probe connection goal).holds? = some held) :
    HeldBy (goal.conclude connection outcome) held := by
  cases goal with
  | file target purpose =>
      cases outcome <;> exact ⟨_, List.mem_cons_self, hholds⟩
  | review target current => cases hholds

/-- An attempt to replace a connection starts only once that connection is closed. -/
theorem sound_refreshAddr (hmem : follower ∈ world.refreshAddr pool addr) :
    follower.Sound world.cluster pool := by
  simp only [World.refreshAddr] at hmem
  split at hmem
  · rename_i current role hlookup
    split at hmem
    · rename_i hclosed
      rw [List.mem_singleton.mp hmem]
      refine ⟨by simp [Job.carries?], by simp [Job.members?], ?_⟩
      intro target found filed htarget hfound
      cases htarget
      rw [hlookup] at hfound
      cases hfound
      exact Cluster.isClosed_iff.mp hclosed
    · rw [List.mem_singleton.mp hmem]
      exact Job.sound_of_none rfl rfl rfl
  · rw [List.mem_singleton.mp hmem]
    exact Job.sound_of_none rfl rfl rfl

theorem length_refreshAddr (world : World) (pool : Pool) (addr : String) :
    (world.refreshAddr pool addr).length = 1 := by
  unfold World.refreshAddr
  split
  · split <;> rfl
  · rfl

theorem onEvent_eq_or (world : World) (pool : Pool) (event : Event) :
    world.onEvent pool event = [] ∨
    world.onEvent pool event = world.refreshAddr pool event.addr := by
  unfold World.onEvent World.refreshAddr
  split
  · split
    · split
      · exact Or.inr rfl
      · exact Or.inl rfl
    · exact Or.inl rfl
  · exact Or.inl rfl

theorem membersOfReply_nodup {rows : List Json} (hmembers : membersOfReply rows = .ok members) :
    members.Nodup := by
  unfold membersOfReply at hmembers
  cases hdecode : (Shape.sequence (.sequence .text)).decode (.array rows) with
  | error cause => simp [hdecode, bind, Except.bind] at hmembers
  | ok value =>
      simp only [hdecode, bind, Except.bind, pure, Except.pure] at hmembers
      split at hmembers
      · cases hmembers
        exact distinct_nodup _
      · cases hmembers
        exact List.nodup_nil

/-- The only job that follows from a reply adopts some distinct members. -/
theorem onReply_cases (topology : Topology)
    (outcome : Except (Failure ConnectionError) (List Json)) :
    topology.onReply outcome = [] ∨ ∃ fresh gone members, members ≠ [] ∧ members.Nodup ∧
      topology.onReply outcome = [.reconcile fresh gone members] := by
  unfold Topology.onReply
  split
  · exact Or.inl rfl
  · split
    · exact Or.inl rfl
    · rename_i members hmembers
      unfold Topology.reconciliation
      split
      · exact Or.inl rfl
      · rename_i hne
        exact Or.inr ⟨_, _, members, by simpa using hne, membersOfReply_nodup hmembers, rfl⟩

theorem mem_beginDiscovery {function : String}
    (hmem : follower ∈ world.beginDiscovery connection function) :
    (∃ due, follower = .wait due) ∨ ∃ script, follower = .learn connection script := by
  simp only [World.beginDiscovery] at hmem
  split at hmem
  · exact Or.inr ⟨_, List.mem_singleton.mp hmem⟩
  · rcases List.mem_cons.mp hmem with rfl | hlearn
    · exact Or.inl ⟨_, rfl⟩
    · exact Or.inr ⟨_, List.mem_singleton.mp hlearn⟩

theorem sound_beginDiscovery {cluster : Cluster} {function : String}
    (hmem : follower ∈ world.beginDiscovery connection function) : follower.Sound cluster pool := by
  rcases mem_beginDiscovery hmem with ⟨due, rfl⟩ | ⟨script, rfl⟩ <;>
    exact Job.sound_of_none rfl rfl rfl

theorem ordered_beginDiscovery {function : String} :
    Ordered (world.beginDiscovery connection function) := by
  simp only [World.beginDiscovery]
  split <;> simp [Ordered, Job.pauses]

theorem sound_onReply {cluster : Cluster} {topology : Topology}
    {outcome : Except (Failure ConnectionError) (List Json)}
    (hmem : follower ∈ topology.onReply outcome) : follower.Sound cluster pool := by
  rcases onReply_cases topology outcome with
    hnone | ⟨fresh, gone, members, hne, hnodup, hreply⟩
  · rw [hnone] at hmem
    cases hmem
  · rw [hreply] at hmem
    rw [List.mem_singleton.mp hmem]
    refine ⟨(fun hcarries => by cases hcarries), ?_, (fun hdrops => by cases hdrops)⟩
    intro adopted hadopted
    cases hadopted
    exact ⟨hne, hnodup⟩

theorem ordered_onReply (topology : Topology)
    (outcome : Except (Failure ConnectionError) (List Json)) :
    Ordered (topology.onReply outcome) := by
  rcases onReply_cases topology outcome with hnone | ⟨fresh, gone, members, -, -, hreply⟩
  · rw [hnone]
    exact List.Pairwise.nil
  · rw [hreply]
    exact List.pairwise_singleton _ _

end Followers

/-! ### Performing a job -/

namespace SoundUpkeep

variable {world : World} {pool : Pool} {rest : List Job}

theorem leave {job : Job} (hsound : SoundUpkeep world.cluster pool (job :: rest))
    (hholds : job.holds? = none) : SoundUpkeep world.cluster pool rest := by
  have hleft : SoundUpkeep world.cluster pool ([] ++ rest) := by
    refine hsound.pass (fun follower hmem => by cases hmem) List.Pairwise.nil (fun _ => rfl) ?_
    intro connection hheld
    rw [hholds] at hheld
    cases hheld
  exact hleft

theorem perform_refresh {addr : String} {addrs : List String}
    (hsound : SoundUpkeep world.cluster pool (.refresh (addr :: addrs) :: rest)) :
    SoundUpkeep world.cluster pool (world.refreshAddr pool addr ++ [.refresh addrs] ++ rest) := by
  refine hsound.pass ?_ ?_ (fun hpauses => by cases hpauses) (fun hholds => by cases hholds)
  · intro follower hmem
    rcases List.mem_append.mp hmem with hfirst | hlast
    · exact sound_refreshAddr hfirst
    · rw [List.mem_singleton.mp hlast]
      exact Job.sound_of_none rfl rfl rfl
  · have hlength : (world.refreshAddr pool addr).length = 1 := length_refreshAddr _ _ _
    obtain ⟨first, hfirst⟩ := List.length_eq_one_iff.mp hlength
    rw [hfirst]
    simp [Ordered, Job.drops?]

theorem perform_reach {addr : String} {purpose : Purpose}
    (hsound : SoundUpkeep world.cluster pool (.reach addr purpose :: rest)) :
    SoundUpkeep (world.cluster.dial addr pool.queue).1 pool
      (Job.afterDial addr purpose (world.cluster.dial addr pool.queue).2 ++ rest) := by
  have hevolves := Cluster.evolves_dial world.cluster addr pool.queue
  have hjob := (hsound.jobs _ List.mem_cons_self).evolves hsound.sound hevolves rfl
    (Or.inr fun _ => rfl)
  refine hsound.step hevolves rfl (hsound.sound.evolves hevolves) ?_ ?_
    (fun hpauses => by cases hpauses) ?_ (fun hholds => by cases hholds) ?_
  · cases hdial : (world.cluster.dial addr pool.queue).2 with
    | error cause =>
        intro follower hmem
        rw [List.mem_singleton.mp hmem]
        refine hjob.follow ?_
        cases purpose <;> exact ⟨Or.inl rfl, Or.inl rfl, Or.inr rfl⟩
    | ok made =>
        intro follower hmem
        rw [List.mem_singleton.mp hmem]
        refine ⟨?_, by simp [Job.members?], ?_⟩
        · intro target connection hcarries
          cases hcarries
          exact (Cluster.serves_dial hdial).2.1
        · intro target connection role hdrops hlookup
          refine hjob.dropped ?_ hlookup
          cases purpose
          · exact hdrops
          · cases hdrops
  · cases (world.cluster.dial addr pool.queue).2 <;> simp [Job.afterDial, Ordered]
  · intro target connection role hlookup
    exact Or.inr (Or.inl ⟨role, hlookup⟩)
  · intro connection target hle hserves
    cases hdial : (world.cluster.dial addr pool.queue).2 with
    | error cause =>
        have hlt := hserves.lt_length
        rw [Cluster.connections_dial_error hdial] at hlt
        exact absurd hlt (Nat.not_lt.mpr hle)
    | ok made =>
        obtain ⟨hmade, -, hlength⟩ := Cluster.serves_dial hdial
        have hlt := hserves.lt_length
        rw [hlength] at hlt
        have hconnection : connection = made :=
          (Nat.le_antisymm (Nat.le_of_lt_succ hlt) hle).trans hmade.symm
        rw [hconnection]
        exact ⟨_, List.mem_singleton_self _, rfl⟩

/-- A job that changes at most the entry of one address and makes no connections. The rest of the agenda
drops nothing. -/
theorem change {moved : Pool} {job : Job} {next : List Job} {addr : String}
    (hsound : SoundUpkeep world.cluster pool (job :: rest)) (hqueue : moved.queue = pool.queue)
    (hmoved : moved.Sound world.cluster) (hbusy : job.pauses = false)
    (hnext : ∀ follower ∈ next, follower.Sound world.cluster moved) (hordered : Ordered next)
    (hother : ∀ other, other ≠ addr →
      moved.topology.lookup? other = pool.topology.lookup? other)
    (hfiled : ∀ {connection role}, pool.topology.lookup? addr = some (connection, role) →
      world.cluster.link connection = .closed ∨
        (∃ role, moved.topology.lookup? addr = some (connection, role)) ∨ HeldBy next connection)
    (hheld : ∀ {connection target}, job.holds? = some connection →
      world.cluster.Serves connection target pool.queue → world.cluster.link connection = .closed ∨
        (∃ role, moved.topology.lookup? target = some (connection, role)) ∨
          HeldBy next connection) :
    SoundUpkeep world.cluster moved (next ++ rest) := by
  refine hsound.step (Cluster.evolves_self _) hqueue hmoved hnext hordered ?_ ?_ hheld ?_
  · intro hpauses
    rw [hbusy] at hpauses
    cases hpauses
  · intro target connection role hlookup
    by_cases htarget : target = addr
    · subst htarget
      exact hfiled hlookup
    · exact Or.inr (Or.inl ⟨role, by rw [hother target htarget, hlookup]⟩)
  · intro connection target hle hserves
    exact absurd hserves.lt_length (Nat.not_lt.mpr hle)

theorem perform_fail_reopen {addr : String}
    (hsound : SoundUpkeep world.cluster pool (.fail addr .reopen :: rest)) :
    SoundUpkeep world.cluster (pool.evict addr).1 rest := by
  have hjob := hsound.jobs _ List.mem_cons_self
  have hevict : SoundUpkeep world.cluster (pool.evict addr).1 ([] ++ rest) := by
    refine hsound.change (Pool.queue_evict pool addr) hsound.sound.evict rfl
      (fun follower hmem => by cases hmem) List.Pairwise.nil
      (fun other hne => Pool.lookup?_evict_of_ne hsound.sound.consistent hne) ?_
      (fun hholds => by cases hholds)
    intro connection role hlookup
    exact Or.inl (hjob.dropped rfl hlookup)
  exact hevict

theorem perform_reconcile_gone {addr : String} {gone members : List String}
    (hsound : SoundUpkeep world.cluster pool (.reconcile [] (addr :: gone) members :: rest)) :
    SoundUpkeep world.cluster (pool.evict addr).1
      ((pool.evict addr).2.toList.map (fun removed => Job.close removed.1) ++
        [.reconcile [] gone members] ++ rest) := by
  have hjob := hsound.jobs _ List.mem_cons_self
  refine hsound.change (Pool.queue_evict pool addr) hsound.sound.evict rfl ?_ ?_
    (fun other hne => Pool.lookup?_evict_of_ne hsound.sound.consistent hne) ?_
    (fun hholds => by cases hholds)
  · intro follower hmem
    rcases List.mem_append.mp hmem with hclosing | hlast
    · obtain ⟨removed, -, rfl⟩ := List.mem_map.mp hclosing
      exact Job.sound_of_none rfl rfl rfl
    · rw [List.mem_singleton.mp hlast]
      exact ⟨(fun hcarries => by cases hcarries), hjob.members, (fun hdrops => by cases hdrops)⟩
  · cases (pool.evict addr).2 <;> simp [Ordered, Job.pauses]
  · intro connection role hlookup
    rw [Pool.evict_eq hsound.sound.consistent]
    split
    · exact Or.inr (Or.inl ⟨role, hlookup⟩)
    · refine Or.inr (Or.inr ⟨.close connection, ?_, rfl⟩)
      simp [hlookup]

theorem perform_adopt {members : List String}
    (hsound : SoundUpkeep world.cluster pool (.reconcile [] [] members :: rest)) :
    SoundUpkeep world.cluster (pool.setAddrs members) rest := by
  have hjob := hsound.jobs _ List.mem_cons_self
  obtain ⟨hne, hnodup⟩ := hjob.members rfl
  have hadopt : SoundUpkeep world.cluster (pool.setAddrs members) ([] ++ rest) := by
    refine hsound.quiet (.refl _) (hsound.sound.setAddrs hne hnodup) ?_ ?_
      (fun follower hmem => by cases hmem) List.Pairwise.nil (fun _ => rfl)
      (fun hholds => by cases hholds)
    · unfold Pool.setAddrs
      split <;> rfl
    · exact Pool.lookup?_setAddrs pool members
  exact hadopt

theorem perform_offer {addr : String} {connection : ConnectionId} {role : Role}
    (hsound : SoundUpkeep world.cluster pool (.offer addr connection role :: rest)) :
    SoundUpkeep world.cluster (pool.file addr connection role).1
      (world.afterOffer connection (pool.file addr connection role).2 ++ rest) := by
  have hserves := (hsound.jobs _ List.mem_cons_self).carried rfl
  have hclosing : ∀ follower ∈ world.afterOffer connection (pool.file addr connection role).2,
      ∃ closing, follower = .close closing := by
    intro follower hmem
    unfold World.afterOffer at hmem
    split at hmem
    · exact ⟨_, List.mem_singleton.mp hmem⟩
    · cases hmem
    · split at hmem
      · cases hmem
      · exact ⟨_, List.mem_singleton.mp hmem⟩
  refine hsound.change (Pool.queue_file pool addr connection role) (hsound.sound.file hserves) rfl
    ?_ ?_ (fun other hne => Pool.lookup?_file_of_ne hsound.sound.consistent hne) ?_ ?_
  · intro follower hmem
    obtain ⟨closing, rfl⟩ := hclosing follower hmem
    exact Job.sound_of_none rfl rfl rfl
  · refine List.pairwise_of_forall_mem_list fun first hfirst second hsecond => ?_
    obtain ⟨closing, rfl⟩ := hclosing second hsecond
    exact Or.inr rfl
  · intro earlier filed hlookup
    rw [Pool.file_eq hsound.sound.consistent]
    split
    · exact Or.inr (Or.inl ⟨filed, hlookup⟩)
    · simp only [hlookup, Option.map_some, World.afterOffer]
      split
      · rename_i hsettled
        rcases hsettled with rfl | hclosed
        · refine Or.inr (Or.inl ⟨role, ?_⟩)
          rw [hsound.sound.consistent.lookup?_put, if_pos rfl]
        · exact Or.inl (Cluster.isClosed_iff.mp hclosed)
      · exact Or.inr (Or.inr ⟨_, List.mem_singleton_self _, rfl⟩)
  · intro offered target hholds htarget
    cases hholds
    have haddr : target = addr := htarget.addr_unique hserves
    subst haddr
    rw [Pool.file_eq hsound.sound.consistent]
    split
    · exact Or.inr (Or.inr ⟨_, List.mem_singleton_self _, rfl⟩)
    · refine Or.inr (Or.inl ⟨role, ?_⟩)
      rw [hsound.sound.consistent.lookup?_put, if_pos rfl]

theorem perform_relocate {addr : String} {connection : ConnectionId} {role : Role}
    (hsound : SoundUpkeep world.cluster pool (.relocate addr connection role :: rest)) :
    SoundUpkeep world.cluster (pool.relocate addr connection role).1 rest := by
  have hrelocate :
      SoundUpkeep world.cluster (pool.relocate addr connection role).1 ([] ++ rest) := by
    refine hsound.change (Pool.queue_relocate pool addr connection role) hsound.sound.relocate rfl
      (fun follower hmem => by cases hmem) List.Pairwise.nil
      (fun other hne => Pool.lookup?_relocate_of_ne hsound.sound.consistent hne) ?_
      (fun hholds => by cases hholds)
    intro current filed hlookup
    refine Or.inr (Or.inl ?_)
    rcases Pool.relocate_cases pool addr connection role with hsame | ⟨-, ⟨old, hold⟩, hmoved⟩
    · exact ⟨filed, by rw [hsame, hlookup]⟩
    · rw [hlookup] at hold
      cases hold
      refine ⟨role, ?_⟩
      rw [hmoved, hsound.sound.consistent.lookup?_put, if_pos rfl]
  exact hrelocate

theorem perform_close {connection : ConnectionId}
    (hsound : SoundUpkeep world.cluster pool (.close connection :: rest)) :
    SoundUpkeep (world.cluster.close connection) pool rest := by
  have hevolves : world.cluster.Evolves (fun _ => False) (world.cluster.close connection) :=
    Cluster.evolves_close _ _
  have hclose : SoundUpkeep (world.cluster.close connection) pool ([] ++ rest) := by
    refine hsound.quiet hevolves (hsound.sound.evolves hevolves) rfl (fun _ => rfl)
      (fun follower hmem => by cases hmem) List.Pairwise.nil (fun _ => rfl) ?_
    intro held hholds
    cases hholds
    exact Or.inl (Cluster.link_close_self _ _)
  exact hclose

theorem perform_discover (hsound : SoundUpkeep world.cluster pool (.discover :: rest)) :
    SoundUpkeep (world.perform pool .discover).1.cluster (world.perform pool .discover).2.1
      ((world.perform pool .discover).2.2 ++ rest) := by
  simp only [World.perform]
  split
  · exact hsound.leave rfl
  · rename_i function hfunction
    have hqueue : (pool.resolve world.isConnected .rw).2.queue = pool.queue := by
      rw [(Pool.resolve_snd world.isConnected pool .rw).1]
    have hmoved := hsound.sound.resolve world.isConnected .rw
    have hlookup := Pool.lookup?_resolve world.isConnected pool .rw
    generalize pool.resolve world.isConnected .rw = resolved at hqueue hmoved hlookup ⊢
    rcases resolved with ⟨cause | connection, moved⟩
    · exact hsound.quiet (.refl _) hmoved hqueue hlookup (fun follower hmem => by cases hmem)
        List.Pairwise.nil (fun _ => rfl) (fun hholds => by cases hholds)
    · exact hsound.quiet (.refl _) hmoved hqueue hlookup (fun _ => sound_beginDiscovery)
        ordered_beginDiscovery (fun hpauses => by cases hpauses) (fun hholds => by cases hholds)

theorem perform_learn {connection : ConnectionId} {script : Script}
    (hsound : SoundUpkeep world.cluster pool (.learn connection script :: rest)) :
    SoundUpkeep (world.perform pool (.learn connection script)).1.cluster
      (world.perform pool (.learn connection script)).2.1
      ((world.perform pool (.learn connection script)).2.2 ++ rest) := by
  simp only [World.perform]
  split
  · exact hsound.leave rfl
  · rename_i function hfunction
    have hevolves : world.cluster.Evolves (fun _ => False)
        (world.answer connection (.call17 function (.array [])) script).1.cluster :=
      World.evolves_answer world connection _ script
    exact hsound.quiet hevolves (hsound.sound.evolves hevolves) rfl (fun _ => rfl)
      (fun _ => sound_onReply) (ordered_onReply _ _) (fun hpauses => by cases hpauses)
      (fun hholds => by cases hholds)

theorem perform_reconcile_fresh {addr : String} {fresh gone members : List String}
    (hsound : SoundUpkeep world.cluster pool (.reconcile (addr :: fresh) gone members :: rest)) :
    SoundUpkeep world.cluster pool
      (.dial addr .enlist :: .reconcile fresh gone members :: rest) := by
  have hjob := hsound.jobs _ List.mem_cons_self
  have hbegin : SoundUpkeep world.cluster pool
      ([.dial addr .enlist, .reconcile fresh gone members] ++ rest) := by
    refine hsound.pass ?_ (by simp [Ordered, Job.drops?]) (fun hpauses => by cases hpauses)
      (fun hholds => by cases hholds)
    intro follower hmem
    rcases List.mem_cons.mp hmem with rfl | hlast
    · exact Job.sound_of_none rfl rfl rfl
    · rw [List.mem_singleton.mp hlast]
      exact ⟨(fun hcarries => by cases hcarries), hjob.members, (fun hdrops => by cases hdrops)⟩
  exact hbegin

theorem perform_classify {connection : ConnectionId} {goal : Goal} {script : Script}
    (hsound : SoundUpkeep world.cluster pool (.classify connection goal script :: rest)) :
    SoundUpkeep (world.answer connection .introspect script).1.cluster pool
      (goal.conclude connection
        (Role.ofOutcome (world.answer connection .introspect script).2) ++ rest) := by
  have hjob := hsound.jobs _ List.mem_cons_self
  have hevolves : world.cluster.Evolves (fun _ => False)
      (world.answer connection .introspect script).1.cluster :=
    World.evolves_answer world connection .introspect script
  refine hsound.quiet hevolves (hsound.sound.evolves hevolves) rfl (fun _ => rfl) ?_
    ordered_conclude (fun hpauses => by cases hpauses)
    fun hholds => Or.inr (heldBy_conclude ?_)
  · intro follower hmem
    have hlater := hjob.evolves hsound.sound hevolves rfl (Or.inr fun _ => rfl)
    refine hlater.follow (follows_conclude ?_ ?_ hmem)
    · rcases goal with ⟨target, _ | _⟩ | _ <;> rfl
    · rcases goal with ⟨target, _ | _⟩ | _ <;> rfl
  · cases goal <;> exact hholds

theorem perform {job : Job} (hsound : SoundUpkeep world.cluster pool (job :: rest)) :
    SoundUpkeep (world.perform pool job).1.cluster (world.perform pool job).2.1
      ((world.perform pool job).2.2 ++ rest) := by
  have hjob := hsound.jobs _ List.mem_cons_self
  cases job with
  | wait due => exact hsound.leave rfl
  | refresh addrs =>
      cases addrs with
      | nil => exact hsound.leave rfl
      | cons addr addrs =>
          simp only [World.perform]
          split
          · exact hsound.leave rfl
          · exact hsound.perform_refresh
  | discover => exact hsound.perform_discover
  | learn connection script => exact hsound.perform_learn
  | reconcile fresh gone members =>
      cases fresh with
      | cons addr fresh =>
          simp only [World.perform]
          split
          · exact hsound.leave rfl
          · exact hsound.perform_reconcile_fresh
      | nil =>
          cases gone with
          | cons addr gone => exact hsound.perform_reconcile_gone
          | nil => exact hsound.perform_adopt
  | dial addr purpose =>
      exact hsound.pass (fun follower hmem => hjob.follow (follows_beginDial hmem))
        ordered_beginDial (fun hpauses => by cases hpauses) (fun hholds => by cases hholds)
  | reach addr purpose => exact hsound.perform_reach
  | fail addr purpose =>
      cases purpose with
      | reopen => exact hsound.perform_fail_reopen
      | enlist => exact hsound.leave rfl
  | probe connection goal =>
      exact hsound.pass (fun follower hmem => hjob.follow (follows_beginProbe hmem))
        ordered_beginProbe (fun hpauses => by cases hpauses) heldBy_beginProbe
  | classify connection goal script => exact hsound.perform_classify
  | missed connection goal =>
      refine hsound.pass (fun follower hmem => hjob.follow (follows_conclude ?_ ?_ hmem))
        ordered_conclude (fun hpauses => by cases hpauses) fun hholds => heldBy_conclude ?_
      · rcases goal with ⟨target, _ | _⟩ | _ <;> rfl
      · rcases goal with ⟨target, _ | _⟩ | _ <;> rfl
      · cases goal <;> exact hholds
  | offer addr connection role => exact hsound.perform_offer
  | relocate addr connection role => exact hsound.perform_relocate
  | close connection => exact hsound.perform_close

end SoundUpkeep

end ReplicaPool
