import ReplicaPool.Proofs.Learning.Findings
import ReplicaPool.Proofs.Pool.Routing

/-!
# Reconciliation, job by job

Once the members are known, the worker tries the addresses that are new one after the other, drops those
that are gone, and adopts the members. `Reconciling` says how far it has come, address by address: one
that is new waits, is being tried, or has been enlisted; one that is gone still has its entry or has lost
it; and all others are as they were. `Enlisted` compares the entry of an address with a `Chronicle` of what
was dialled and classified for it, so this holds however the cluster changes in the meantime.
-/

namespace ReplicaPool

def Job.tells : Job → Bool
  | .reach _ _ => true
  | .classify _ _ _ => true
  | .missed _ _ => true
  | _ => false

structure Chronicle where
  /-- The addresses that were dialled. -/
  dialled : String → Prop
  /-- The connections that were made for an address. -/
  made : String → ConnectionId → Prop
  /-- What classifications came to. -/
  found : Finding → Prop

namespace Chronicle

/-- One connection was made for an address, and it has not been classified yet. -/
structure Pending (chronicle : Chronicle) (addr : String) (connection : ConnectionId) : Prop where
  made : ∀ other, chronicle.made addr other ↔ other = connection
  unjudged : ∀ outcome, ¬chronicle.found ⟨connection, outcome⟩

/-- One connection was made for an address, and it was classified with one result. -/
structure Judged (chronicle : Chronicle) (addr : String) (connection : ConnectionId)
    (outcome : Except PoolError Role) : Prop where
  made : ∀ other, chronicle.made addr other ↔ other = connection
  found : ∀ other, chronicle.found ⟨connection, other⟩ ↔ other = outcome

structure Agrees (earlier later : Chronicle) (addr : String) : Prop where
  dialled : earlier.dialled addr → later.dialled addr
  made : ∀ connection, later.made addr connection ↔ earlier.made addr connection
  found : ∀ connection outcome, earlier.made addr connection →
    (later.found ⟨connection, outcome⟩ ↔ earlier.found ⟨connection, outcome⟩)

structure Extends (later earlier : Chronicle) (world : World) (pool : Pool) (job : Job) : Prop where
  dialled : ∀ {addr : String}, earlier.dialled addr ∨ job = .dial addr .enlist → later.dialled addr
  made : ∀ {addr : String} {connection : ConnectionId},
    later.made addr connection ↔ earlier.made addr connection ∨
      ∃ purpose, job = .reach addr purpose ∧
        (world.cluster.dial addr pool.queue).2 = .ok connection
  found : ∀ {finding : Finding},
    later.found finding ↔ earlier.found finding ∨ world.finding? job = some finding
  serves : ∀ {addr : String} {connection : ConnectionId}, earlier.made addr connection →
    world.cluster.Serves connection addr pool.queue
  found_lt : ∀ {finding : Finding}, earlier.found finding →
    finding.connection < world.cluster.connections.length

variable {chronicle later : Chronicle} {world : World} {pool : Pool} {job : Job} {addr : String}
  {connection : ConnectionId} {outcome : Except PoolError Role}

theorem Agrees.refl (chronicle : Chronicle) (addr : String) : chronicle.Agrees chronicle addr :=
  ⟨id, fun _ => Iff.rfl, fun _ _ _ => Iff.rfl⟩

theorem Pending.congr (hpending : chronicle.Pending addr connection)
    (hagrees : chronicle.Agrees later addr) : later.Pending addr connection where
  made := fun other => (hagrees.made other).trans (hpending.made other)
  unjudged := fun outcome =>
    (hagrees.found connection outcome ((hpending.made connection).mpr rfl)).not.mpr
      (hpending.unjudged outcome)

theorem Judged.congr (hjudged : chronicle.Judged addr connection outcome)
    (hagrees : chronicle.Agrees later addr) : later.Judged addr connection outcome where
  made := fun other => (hagrees.made other).trans (hjudged.made other)
  found := fun other => (hagrees.found connection other ((hjudged.made connection).mpr rfl)).trans
    (hjudged.found other)

theorem Extends.agrees (hextends : later.Extends chronicle world pool job)
    (hreach : ∀ purpose, job ≠ .reach addr purpose)
    (hfound : ∀ connection outcome, chronicle.made addr connection →
      world.finding? job ≠ some ⟨connection, outcome⟩) : chronicle.Agrees later addr where
  dialled := fun hdialled => hextends.dialled (.inl hdialled)
  made := by
    intro connection
    rw [hextends.made]
    refine ⟨?_, Or.inl⟩
    rintro (hbefore | ⟨purpose, hjob, -⟩)
    · exact hbefore
    · exact absurd hjob (hreach purpose)
  found := by
    intro connection outcome hmade
    rw [hextends.found]
    exact ⟨fun hboth => hboth.resolve_right (hfound connection outcome hmade), Or.inl⟩

theorem Extends.agrees_of_silent (hextends : later.Extends chronicle world pool job)
    (hjob : job.tells = false) : chronicle.Agrees later addr := by
  refine hextends.agrees ?_ ?_
  · rintro purpose rfl
    cases hjob
  · intro connection outcome _ hfinding
    have hnone : world.finding? job = none := by
      cases job <;> first | rfl | cases hjob
    rw [hnone] at hfinding
    cases hfinding

theorem Pending.judged (hpending : chronicle.Pending addr connection)
    (hextends : later.Extends chronicle world pool job)
    (hfinding : world.finding? job = some ⟨connection, outcome⟩) :
    later.Judged addr connection outcome where
  made := by
    intro other
    rw [hextends.made, ← hpending.made]
    refine ⟨?_, Or.inl⟩
    rintro (hbefore | ⟨purpose, rfl, -⟩)
    · exact hbefore
    · cases hfinding
  found := by
    intro other
    rw [hextends.found, hfinding]
    constructor
    · rintro (hbefore | hsame)
      · exact absurd hbefore (hpending.unjudged other)
      · cases hsame
        rfl
    · rintro rfl
      exact Or.inr rfl

theorem Extends.pending {purpose : Purpose}
    (hextends : later.Extends chronicle world pool (.reach addr purpose))
    (hunmade : ∀ connection, ¬chronicle.made addr connection)
    (hdial : (world.cluster.dial addr pool.queue).2 = .ok connection) :
    later.Pending addr connection where
  made := by
    intro other
    rw [hextends.made]
    constructor
    · rintro (hbefore | ⟨_, -, hother⟩)
      · exact absurd hbefore (hunmade other)
      · exact Except.ok.inj (hother.symm.trans hdial)
    · rintro rfl
      exact Or.inr ⟨purpose, rfl, hdial⟩
  unjudged := by
    intro outcome hfound
    rcases hextends.found.mp hfound with hbefore | hfinding
    · obtain ⟨rfl, -, -⟩ := Cluster.serves_dial hdial
      exact Nat.lt_irrefl _ (hextends.found_lt hbefore)
    · cases hfinding

end Chronicle

/-! ### One new address -/

structure Untried (chronicle : Chronicle) (pool : Pool) (addr : String) : Prop where
  absent : pool.topology.lookup? addr = none
  unmade : ∀ connection, ¬chronicle.made addr connection

/-- What became of an address that was dialled: it has an entry if a connection was made for it and showed
a role, and then that connection is filed under that role. -/
inductive Enlisted (chronicle : Chronicle) (pool : Pool) (addr : String) : Prop
  | unreached (hdialled : chronicle.dialled addr) (huntried : Untried chronicle pool addr)
  | rejected {connection : ConnectionId} {cause : PoolError} (hdialled : chronicle.dialled addr)
      (habsent : pool.topology.lookup? addr = none)
      (hjudged : chronicle.Judged addr connection (.error cause))
  | admitted {connection : ConnectionId} {role : Role} (hdialled : chronicle.dialled addr)
      (hentry : pool.topology.lookup? addr = some (connection, role))
      (hjudged : chronicle.Judged addr connection (.ok role))

inductive Enlisting (chronicle : Chronicle) (pool : Pool) (addr : String) : List Job → Prop
  | dial (huntried : Untried chronicle pool addr) :
      Enlisting chronicle pool addr [.dial addr .enlist]
  | reach (hdialled : chronicle.dialled addr) (huntried : Untried chronicle pool addr) :
      Enlisting chronicle pool addr [.reach addr .enlist]
  | fail (henlisted : Enlisted chronicle pool addr) :
      Enlisting chronicle pool addr [.fail addr .enlist]
  | probe {connection : ConnectionId} (hdialled : chronicle.dialled addr)
      (habsent : pool.topology.lookup? addr = none) (hpending : chronicle.Pending addr connection) :
      Enlisting chronicle pool addr [.probe connection (.file addr .enlist)]
  | classify {connection : ConnectionId} {script : Script} (hdialled : chronicle.dialled addr)
      (habsent : pool.topology.lookup? addr = none) (hpending : chronicle.Pending addr connection) :
      Enlisting chronicle pool addr [.classify connection (.file addr .enlist) script]
  | missed {connection : ConnectionId} (hdialled : chronicle.dialled addr)
      (habsent : pool.topology.lookup? addr = none) (hpending : chronicle.Pending addr connection) :
      Enlisting chronicle pool addr [.missed connection (.file addr .enlist)]
  | offer {connection : ConnectionId} {role : Role} (hdialled : chronicle.dialled addr)
      (habsent : pool.topology.lookup? addr = none)
      (hjudged : chronicle.Judged addr connection (.ok role)) :
      Enlisting chronicle pool addr [.offer addr connection role]
  | pause {job : Job} {rest : List Job} (hpauses : job.pauses = true)
      (hrest : Enlisting chronicle pool addr rest) : Enlisting chronicle pool addr (job :: rest)
  | ended (henlisted : Enlisted chronicle pool addr) : Enlisting chronicle pool addr []

section Enlisting

variable {chronicle later : Chronicle} {world : World} {pool moved : Pool} {addr other : String}
  {job : Job} {focus : List Job}

theorem Untried.congr (huntried : Untried chronicle pool addr)
    (hlookup : moved.topology.lookup? addr = pool.topology.lookup? addr)
    (hagrees : chronicle.Agrees later addr) : Untried later moved addr where
  absent := hlookup.trans huntried.absent
  unmade := fun connection => (hagrees.made connection).not.mpr (huntried.unmade connection)

theorem Enlisted.congr (henlisted : Enlisted chronicle pool addr)
    (hlookup : moved.topology.lookup? addr = pool.topology.lookup? addr)
    (hagrees : chronicle.Agrees later addr) : Enlisted later moved addr := by
  cases henlisted with
  | unreached hdialled huntried =>
      exact .unreached (hagrees.dialled hdialled) (huntried.congr hlookup hagrees)
  | rejected hdialled habsent hjudged =>
      exact .rejected (hagrees.dialled hdialled) (hlookup.trans habsent) (hjudged.congr hagrees)
  | admitted hdialled hentry hjudged =>
      exact .admitted (hagrees.dialled hdialled) (hlookup.trans hentry) (hjudged.congr hagrees)

/-- What concerns other addresses does not concern a trial. -/
theorem Enlisting.congr (henlisting : Enlisting chronicle pool addr focus)
    (hlookup : moved.topology.lookup? addr = pool.topology.lookup? addr)
    (hagrees : chronicle.Agrees later addr) : Enlisting later moved addr focus := by
  have habsent : pool.topology.lookup? addr = none → moved.topology.lookup? addr = none :=
    hlookup.trans
  induction henlisting with
  | dial huntried => exact .dial (huntried.congr hlookup hagrees)
  | reach hdialled huntried =>
      exact .reach (hagrees.dialled hdialled) (huntried.congr hlookup hagrees)
  | fail henlisted => exact .fail (henlisted.congr hlookup hagrees)
  | probe hdialled hnone hpending =>
      exact .probe (hagrees.dialled hdialled) (habsent hnone) (hpending.congr hagrees)
  | classify hdialled hnone hpending =>
      exact .classify (hagrees.dialled hdialled) (habsent hnone) (hpending.congr hagrees)
  | missed hdialled hnone hpending =>
      exact .missed (hagrees.dialled hdialled) (habsent hnone) (hpending.congr hagrees)
  | offer hdialled hnone hjudged =>
      exact .offer (hagrees.dialled hdialled) (habsent hnone) (hjudged.congr hagrees)
  | pause hpauses hrest ih => exact .pause hpauses ih
  | ended henlisted => exact .ended (henlisted.congr hlookup hagrees)

theorem Enlisting.enlisted (henlisting : Enlisting chronicle pool addr []) :
    Enlisted chronicle pool addr := by
  cases henlisting
  assumption

theorem tells_of_pauses (hpauses : job.pauses = true) : job.tells = false := by
  cases job <;> first | rfl | cases hpauses

theorem perform_of_pauses (hpauses : job.pauses = true) :
    (world.perform pool job).2 = (pool, []) := by
  cases job <;> first | rfl | cases hpauses

/-- The connection that a trial has made is classified: it is offered under the role that it shows, or the
trial has failed. -/
theorem Enlisting.conclude {connection : ConnectionId} {outcome : Except PoolError Role}
    (hdialled : later.dialled addr) (habsent : pool.topology.lookup? addr = none)
    (hjudged : later.Judged addr connection outcome) :
    Enlisting later pool addr (Goal.conclude connection (.file addr .enlist) outcome) := by
  cases outcome with
  | ok role => exact .offer hdialled habsent hjudged
  | error cause => exact .pause rfl (.fail (.rejected hdialled habsent hjudged))

theorem Enlisting.perform (hconsistent : pool.topology.Consistent) (hopen : pool.isClosed = false)
    (hextends : later.Extends chronicle world pool job)
    (henlisting : Enlisting chronicle pool addr (job :: focus)) :
    Enlisting later (world.perform pool job).2.1 addr
      ((world.perform pool job).2.2 ++ focus) := by
  have hkeeps : chronicle.dialled addr → later.dialled addr :=
    fun hdialled => hextends.dialled (.inl hdialled)
  cases henlisting with
  | dial huntried =>
      have hdialled : later.dialled addr := hextends.dialled (.inr rfl)
      have hlater : Untried later pool addr :=
        huntried.congr rfl (hextends.agrees_of_silent rfl)
      simp only [World.perform, World.beginDial, List.append_nil]
      split
      · exact .reach hdialled hlater
      · split
        · exact .pause rfl (.reach hdialled hlater)
        · exact .pause rfl (.fail (.unreached hdialled hlater))
  | reach hdialled huntried =>
      rw [List.append_nil]
      change Enlisting later pool addr
        (Job.afterDial addr .enlist (world.cluster.dial addr pool.queue).2)
      cases hdial : (world.cluster.dial addr pool.queue).2 with
      | error cause =>
          refine .fail (.unreached (hkeeps hdialled) ⟨huntried.absent, fun connection hmade => ?_⟩)
          rcases hextends.made.mp hmade with hbefore | ⟨purpose, -, hnew⟩
          · exact huntried.unmade connection hbefore
          · rw [hdial] at hnew
            cases hnew
      | ok connection =>
          exact .probe (hkeeps hdialled) huntried.absent (hextends.pending huntried.unmade hdial)
  | fail henlisted =>
      exact .ended (henlisted.congr rfl
        (hextends.agrees_of_silent rfl))
  | @probe connection hdialled habsent hpending =>
      have hlater : later.Pending addr connection :=
        hpending.congr (hextends.agrees_of_silent rfl)
      simp only [World.perform, World.beginProbe, List.append_nil]
      split
      · exact .classify (hkeeps hdialled) habsent hlater
      · split
        · exact .pause rfl (.classify (hkeeps hdialled) habsent hlater)
        · exact .pause rfl (.missed (hkeeps hdialled) habsent hlater)
  | classify hdialled habsent hpending =>
      rw [List.append_nil]
      exact .conclude (hkeeps hdialled) habsent (hpending.judged hextends rfl)
  | missed hdialled habsent hpending =>
      rw [List.append_nil]
      exact .conclude (hkeeps hdialled) habsent (hpending.judged hextends rfl)
  | @offer connection role hdialled habsent hjudged =>
      have hfile : pool.file addr connection role =
          ({ pool with topology := pool.topology.put addr connection role }, .filed none) := by
        rw [Pool.file_eq hconsistent, hopen, if_neg Bool.false_ne_true, habsent]
        rfl
      have hlater : later.Judged addr connection (.ok role) :=
        hjudged.congr (hextends.agrees_of_silent rfl)
      simp only [World.perform, hfile, World.afterOffer, List.append_nil]
      refine .ended (.admitted (hkeeps hdialled) ?_ hlater)
      rw [hconsistent.lookup?_put, if_pos rfl]
  | pause hpauses hrest =>
      rw [perform_of_pauses hpauses]
      exact hrest.congr rfl (hextends.agrees_of_silent (tells_of_pauses hpauses))

theorem Enlisting.elsewhere (hconsistent : pool.topology.Consistent)
    (hserves : ∀ {connection}, job.carries? = some (addr, connection) →
      world.cluster.Serves connection addr pool.queue)
    (hextends : later.Extends chronicle world pool job)
    (henlisting : Enlisting chronicle pool addr (job :: focus)) (hother : other ≠ addr) :
    (world.perform pool job).2.1.topology.lookup? other = pool.topology.lookup? other ∧
      chronicle.Agrees later other := by
  -- A connection that was made for another address is not the one that is classified.
  have hcarried : ∀ connection found outcome, job.carries? = some (addr, connection) →
      chronicle.made other found → world.finding? job = some ⟨found, outcome⟩ →
        found = connection → False := by
    rintro connection found outcome hcarries hmade - rfl
    exact hother ((hextends.serves hmade).addr_unique (hserves hcarries))
  cases henlisting with
  | reach hdialled huntried =>
      refine ⟨rfl, hextends.agrees ?_ fun _ _ _ hfinding => by cases hfinding⟩
      rintro purpose hjob
      cases hjob
      exact hother rfl
  | classify hdialled habsent hpending =>
      refine ⟨rfl, hextends.agrees (fun _ hjob => by cases hjob) ?_⟩
      intro found outcome hmade hfinding
      exact hcarried _ found outcome rfl hmade hfinding
        (congrArg Finding.connection (Option.some.inj hfinding)).symm
  | missed hdialled habsent hpending =>
      refine ⟨rfl, hextends.agrees (fun _ hjob => by cases hjob) ?_⟩
      intro found outcome hmade hfinding
      exact hcarried _ found outcome rfl hmade hfinding
        (congrArg Finding.connection (Option.some.inj hfinding)).symm
  | offer hdialled habsent hjudged =>
      exact ⟨Pool.lookup?_file_of_ne hconsistent hother,
        hextends.agrees_of_silent rfl⟩
  | pause hpauses hrest =>
      exact ⟨by rw [perform_of_pauses hpauses], hextends.agrees_of_silent (tells_of_pauses hpauses)⟩
  | _ => exact ⟨rfl, hextends.agrees_of_silent rfl⟩

theorem Enlisting.of_pauses (hpauses : job.pauses = true)
    (henlisting : Enlisting chronicle pool addr (job :: focus)) :
    Enlisting chronicle pool addr focus := by
  cases henlisting with
  | pause _ hrest => exact hrest
  | _ => cases hpauses

/-- A trial changes the pool only when it files a connection. -/
theorem Enlisting.perform_pool (henlisting : Enlisting chronicle pool addr (job :: focus)) :
    (world.perform pool job).2.1 = pool ∨ ∃ connection role,
      (world.perform pool job).2.1 = (pool.file addr connection role).1 := by
  cases henlisting with
  | offer hdialled habsent hjudged => exact Or.inr ⟨_, _, rfl⟩
  | pause hpauses hrest => exact Or.inl (by rw [perform_of_pauses hpauses])
  | _ => exact Or.inl rfl

end Enlisting

/-! ### All addresses -/

/-- Whether an entry is at an address that was managed before and is going to be. -/
def retains (before : Pool) (members : List String) (entry : String × ConnectionId) : Bool :=
  before.topology.addrs.contains entry.1 && members.contains entry.1

/-- What a discovery makes of a pool: exactly the members are managed, those of before are as they were, in
the same order, the new ones have an entry if dialling and classifying them succeeded, and those that are
gone have none, their connections being closed. -/
structure Reconciled (chronicle : Chronicle) (cluster : Cluster) (before after : Pool)
    (members : List String) : Prop where
  addrs_eq : after.topology.addrs = members
  kept : ∀ addr ∈ before.topology.addrs, addr ∈ members →
    after.topology.lookup? addr = before.topology.lookup? addr
  order : ∀ role, (after.topology.subpool role).members.filter (retains before members) =
    (before.topology.subpool role).members.filter (retains before members)
  fresh : ∀ addr ∈ members, addr ∉ before.topology.addrs → Enlisted chronicle after addr
  gone : ∀ addr ∈ before.topology.addrs, addr ∉ members →
    after.topology.lookup? addr = none ∧ ∀ connection role,
      before.topology.lookup? addr = some (connection, role) → cluster.link connection = .closed
  confined : ∀ addr entry, after.topology.lookup? addr = some entry → addr ∈ members

/-- What is so before the members are adopted: `focus` is under way, and the addresses in `fresh` and
`gone` are still to be tried or dropped. -/
structure Reconciling (chronicle : Chronicle) (cluster : Cluster) (before pool : Pool)
    (members fresh gone : List String) (focus : List Job) : Prop where
  addrs_eq : pool.topology.addrs = before.topology.addrs
  order : ∀ role, (pool.topology.subpool role).members.filter (retains before members) =
    (before.topology.subpool role).members.filter (retains before members)
  fresh_nodup : fresh.Nodup
  waiting : ∀ addr ∈ fresh, addr ∈ members ∧ addr ∉ before.topology.addrs ∧
    Untried chronicle pool addr
  tried : ∀ addr ∈ members, addr ∉ before.topology.addrs → addr ∉ fresh →
    Enlisted chronicle pool addr ∨ Enlisting chronicle pool addr focus
  leaving : ∀ addr ∈ gone, addr ∈ before.topology.addrs ∧ addr ∉ members
  dropped : ∀ addr ∈ before.topology.addrs, addr ∉ members →
    (addr ∈ gone ∧ pool.topology.lookup? addr = before.topology.lookup? addr) ∨
      (pool.topology.lookup? addr = none ∧ ∀ connection role,
        before.topology.lookup? addr = some (connection, role) →
          cluster.link connection = .closed ∨ .close connection ∈ focus)
  confined : ∀ addr entry, pool.topology.lookup? addr = some entry →
    addr ∈ before.topology.addrs ∨ addr ∈ members
  focused : (∃ addr ∈ members, addr ∉ before.topology.addrs ∧ addr ∉ fresh ∧
    Enlisting chronicle pool addr focus) ∨ ∀ job ∈ focus, job.pauses = true

section Retained

variable {topology : Topology} {keep : String × ConnectionId → Bool} {addr : String}
  {connection : ConnectionId} {role filed : Role}

theorem filter_members_remove (hconsistent : topology.Consistent)
    (hkeep : ∀ connection, keep (addr, connection) = false) (role : Role) :
    ((topology.remove addr).2.subpool role).members.filter keep =
      (topology.subpool role).members.filter keep := by
  rw [hconsistent.members_remove, List.filter_filter]
  apply List.filter_congr
  intro entry _
  by_cases haddr : entry.1 = addr
  · have hentry : keep entry = false := by
      rw [← hkeep entry.2, ← haddr]
    rw [hentry, Bool.false_and]
  · rw [bne_iff_ne.mpr haddr, Bool.and_true]

theorem filter_members_put (hconsistent : topology.Consistent)
    (hkeep : ∀ connection, keep (addr, connection) = false) (role : Role) :
    ((topology.put addr connection filed).subpool role).members.filter keep =
      (topology.subpool role).members.filter keep := by
  rw [Topology.put, Topology.members_add, List.filter_append,
    filter_members_remove hconsistent hkeep]
  split
  · rw [List.filter_singleton, hkeep, cond_false, List.append_nil]
  · rw [List.filter_nil, List.append_nil]

theorem retains_eq_false {before : Pool} {members : List String}
    (hnot : ¬(addr ∈ before.topology.addrs ∧ addr ∈ members)) (connection : ConnectionId) :
    retains before members (addr, connection) = false := by
  by_contra hretains
  rw [Bool.not_eq_false, retains, Bool.and_eq_true, List.contains_iff_mem, List.contains_iff_mem]
    at hretains
  exact hnot hretains

end Retained

namespace Reconciling

variable {chronicle later : Chronicle} {cluster : Cluster} {world : World}
  {before pool moved : Pool} {members fresh gone : List String} {addr : String} {job : Job}
  {focus next : List Job} {opened : QueueId → Prop}

theorem congr (hreconciling : Reconciling chronicle cluster before pool members fresh gone focus)
    (hbefore : before.Sound cluster) {after : Cluster} (hevolves : cluster.Evolves opened after)
    (haddrs : moved.topology.addrs = pool.topology.addrs)
    (hlookup : ∀ addr, moved.topology.lookup? addr = pool.topology.lookup? addr)
    (hmembers : ∀ role, (moved.topology.subpool role).members = (pool.topology.subpool role).members)
    (hagrees : ∀ addr, chronicle.Agrees later addr) :
    Reconciling later after before moved members fresh gone focus where
  addrs_eq := haddrs.trans hreconciling.addrs_eq
  order := by
    intro role
    rw [hmembers]
    exact hreconciling.order role
  fresh_nodup := hreconciling.fresh_nodup
  waiting := by
    intro addr hmem
    obtain ⟨hmember, hnew, huntried⟩ := hreconciling.waiting addr hmem
    exact ⟨hmember, hnew, huntried.congr (hlookup addr) (hagrees addr)⟩
  tried := by
    intro addr hmember hnew htried
    refine (hreconciling.tried addr hmember hnew htried).imp ?_ ?_
    · exact fun henlisted => henlisted.congr (hlookup addr) (hagrees addr)
    · exact fun henlisting => henlisting.congr (hlookup addr) (hagrees addr)
  leaving := hreconciling.leaving
  dropped := by
    intro addr hold hgone
    rw [hlookup]
    refine (hreconciling.dropped addr hold hgone).imp_right (And.imp_right ?_)
    intro hclosed connection role hentry
    exact (hclosed connection role hentry).imp_left
      (hevolves.link_closed (hbefore.serves hentry))
  confined := by
    intro addr entry hentry
    rw [hlookup] at hentry
    exact hreconciling.confined addr entry hentry
  focused := by
    refine hreconciling.focused.imp_left ?_
    rintro ⟨addr, hmember, hnew, htried, henlisting⟩
    exact ⟨addr, hmember, hnew, htried,
      henlisting.congr (hlookup addr) (hagrees addr)⟩

theorem perform_pause (hbefore : before.Sound world.cluster) (hpauses : job.pauses = true)
    (hextends : later.Extends chronicle world pool job)
    (hreconciling : Reconciling chronicle world.cluster before pool members fresh gone
      (job :: focus)) :
    Reconciling later (world.perform pool job).1.cluster before pool members fresh gone
      focus := by
  have hevolves := (World.touched_perform world pool job).evolves
  have hsame := hreconciling.congr hbefore hevolves rfl (fun _ => rfl) (fun _ => rfl)
    fun _ => hextends.agrees_of_silent (tells_of_pauses hpauses)
  refine { hsame with tried := ?_, dropped := ?_, focused := ?_ }
  · intro addr hmember hnew htried
    exact (hsame.tried addr hmember hnew htried).imp_right (Enlisting.of_pauses hpauses)
  · intro addr hold hgone
    refine (hsame.dropped addr hold hgone).imp_right (And.imp_right ?_)
    intro hclosed connection role hentry
    rcases hclosed connection role hentry with hdone | hmem
    · exact Or.inl hdone
    · rcases List.mem_cons.mp hmem with rfl | hlater
      · exact Or.inl (Cluster.link_close_self _ _)
      · exact Or.inr hlater
  · rcases hsame.focused with ⟨addr, hmember, hnew, htried, henlisting⟩ | hall
    · exact Or.inl ⟨addr, hmember, hnew, htried, henlisting.of_pauses hpauses⟩
    · exact Or.inr fun other hmem => hall other (List.mem_cons_of_mem _ hmem)

theorem perform_trial (hpool : pool.Sound world.cluster) (hjob : job.Sound world.cluster pool)
    (hopen : pool.isClosed = false) (hbefore : before.Sound world.cluster)
    (hbusy : job.pauses = false) (hextends : later.Extends chronicle world pool job)
    (hreconciling : Reconciling chronicle world.cluster before pool members fresh gone
      (job :: focus))
    (hmember : addr ∈ members) (hnew : addr ∉ before.topology.addrs) (htried : addr ∉ fresh)
    (henlisting : Enlisting chronicle pool addr (job :: focus)) :
    Reconciling later (world.perform pool job).1.cluster before
      (world.perform pool job).2.1 members fresh gone ((world.perform pool job).2.2 ++ focus) := by
  have hconsistent := hpool.consistent
  have hperform : ∀ {target}, Enlisting chronicle pool target (job :: focus) →
      Enlisting later (world.perform pool job).2.1 target
        ((world.perform pool job).2.2 ++ focus) :=
    fun htarget => htarget.perform hconsistent hopen hextends
  have helsewhere : ∀ other, other ≠ addr →
      (world.perform pool job).2.1.topology.lookup? other = pool.topology.lookup? other ∧
        chronicle.Agrees later other :=
    fun _ => henlisting.elsewhere hconsistent hjob.carried hextends
  have hchange : (world.perform pool job).2.1 = pool ∨ ∃ connection role,
      (world.perform pool job).2.1 = (pool.file addr connection role).1 := henlisting.perform_pool
  have hretains : ∀ connection, retains before members (addr, connection) = false :=
    retains_eq_false fun hboth => hnew hboth.1
  refine ⟨?_, ?_, hreconciling.fresh_nodup, ?_, ?_, hreconciling.leaving, ?_, ?_, ?_⟩
  · rw [← hreconciling.addrs_eq]
    rcases hchange with hsame | ⟨connection, role, hfile⟩
    · rw [hsame]
    · rw [hfile, Pool.file_eq hconsistent, hopen, if_neg Bool.false_ne_true, Topology.addrs_put]
  · intro role
    rw [← hreconciling.order]
    rcases hchange with hsame | ⟨connection, filed, hfile⟩
    · rw [hsame]
    · rw [hfile, Pool.file_eq hconsistent, hopen, if_neg Bool.false_ne_true,
        filter_members_put hconsistent hretains]
  · intro other hother
    obtain ⟨hmember, hfresh, huntried⟩ := hreconciling.waiting other hother
    obtain ⟨hlookup, hagrees⟩ := helsewhere other fun hsame => htried (hsame ▸ hother)
    exact ⟨hmember, hfresh, huntried.congr hlookup hagrees⟩
  · intro other hmember hfresh hdone
    by_cases hother : other = addr
    · exact Or.inr (hother ▸ hperform henlisting)
    · obtain ⟨hlookup, hagrees⟩ := helsewhere other hother
      refine (hreconciling.tried other hmember hfresh hdone).imp ?_ hperform
      exact fun henlisted => henlisted.congr hlookup hagrees
  · intro other hold hgone
    obtain ⟨hlookup, -⟩ := helsewhere other fun hsame => hgone (hsame ▸ hmember)
    rw [hlookup]
    refine (hreconciling.dropped other hold hgone).imp_right (And.imp_right ?_)
    intro hclosed connection role hentry
    rcases hclosed connection role hentry with hdone | hmem
    · exact Or.inl ((World.touched_perform world pool job).evolves.link_closed
        (hbefore.serves hentry) hdone)
    · rcases List.mem_cons.mp hmem with rfl | hlater
      · cases hbusy
      · exact Or.inr (List.mem_append_right _ hlater)
  · intro other entry hentry
    by_cases hother : other = addr
    · exact Or.inr (hother ▸ hmember)
    · rw [(helsewhere other hother).1] at hentry
      exact hreconciling.confined other entry hentry
  · exact Or.inl ⟨addr, hmember, hnew, htried, hperform henlisting⟩

theorem perform_focus (hpool : pool.Sound world.cluster) (hjob : job.Sound world.cluster pool)
    (hopen : pool.isClosed = false) (hbefore : before.Sound world.cluster)
    (hextends : later.Extends chronicle world pool job)
    (hreconciling : Reconciling chronicle world.cluster before pool members fresh gone
      (job :: focus)) :
    Reconciling later (world.perform pool job).1.cluster before
      (world.perform pool job).2.1 members fresh gone ((world.perform pool job).2.2 ++ focus) := by
  cases hpauses : job.pauses with
  | true =>
      rw [perform_of_pauses hpauses]
      exact hreconciling.perform_pause hbefore hpauses hextends
  | false =>
      rcases hreconciling.focused with ⟨addr, hmember, hnew, htried, henlisting⟩ | hall
      · exact hreconciling.perform_trial hpool hjob hopen hbefore hpauses hextends hmember
          hnew htried henlisting
      · rw [hall job List.mem_cons_self] at hpauses
        cases hpauses

theorem beginTrial (hreconciling : Reconciling chronicle cluster before pool members
      (addr :: fresh) gone []) :
    Reconciling chronicle cluster before pool members fresh gone [.dial addr .enlist] := by
  obtain ⟨hlater, hnodup⟩ := List.nodup_cons.mp hreconciling.fresh_nodup
  obtain ⟨hmember, hnew, huntried⟩ := hreconciling.waiting addr List.mem_cons_self
  refine { hreconciling with
    fresh_nodup := hnodup
    waiting := ?_
    tried := ?_
    dropped := ?_
    focused := Or.inl ⟨addr, hmember, hnew, hlater, .dial huntried⟩ }
  · exact fun other hmem => hreconciling.waiting other (List.mem_cons_of_mem _ hmem)
  · intro other hother hfresh htried
    by_cases hsame : other = addr
    · subst hsame
      exact Or.inr (.dial huntried)
    · have hdone := hreconciling.tried other hother hfresh fun hmem =>
        htried ((List.mem_cons.mp hmem).resolve_left hsame)
      exact Or.inl (hdone.elim id Enlisting.enlisted)
  · intro other hold hgone
    refine (hreconciling.dropped other hold hgone).imp_right (And.imp_right ?_)
    exact fun hclosed connection role hentry =>
      Or.inl ((hclosed connection role hentry).resolve_right List.not_mem_nil)

theorem drop (hpool : pool.Sound cluster) (hopen : pool.isClosed = false)
    (hreconciling : Reconciling chronicle cluster before pool members [] (addr :: gone) []) :
    Reconciling chronicle cluster before (pool.evict addr).1 members [] gone
      ((pool.evict addr).2.toList.map fun removed => .close removed.1) := by
  have hconsistent := hpool.consistent
  obtain ⟨hold, hgone⟩ := hreconciling.leaving addr List.mem_cons_self
  have hretains : ∀ connection, retains before members (addr, connection) = false :=
    retains_eq_false fun hboth => hgone hboth.2
  rw [Pool.evict_eq hconsistent, hopen, if_neg Bool.false_ne_true]
  have hother : ∀ other, other ≠ addr →
      (pool.topology.remove addr).2.lookup? other = pool.topology.lookup? other := by
    intro other hother
    rw [hconsistent.lookup?_remove, if_neg hother]
  refine ⟨?_, ?_, List.nodup_nil, (fun _ hmem => by cases hmem), ?_, ?_, ?_, ?_, ?_⟩
  · exact (Topology.addrs_remove _ _).trans hreconciling.addrs_eq
  · intro role
    rw [← hreconciling.order]
    exact filter_members_remove hconsistent hretains role
  · intro other hmember hnew htried
    have hdone := (hreconciling.tried other hmember hnew htried).elim id Enlisting.enlisted
    exact Or.inl (hdone.congr (hother other fun hsame => hnew (hsame ▸ hold)) (.refl chronicle _))
  · exact fun other hmem => hreconciling.leaving other (List.mem_cons_of_mem _ hmem)
  · intro other hmanaged hleft
    have hbefore := hreconciling.dropped other hmanaged hleft
    by_cases hsame : other = addr
    · subst hsame
      refine Or.inr ⟨hconsistent.lookup?_remove_self, fun connection role hentry => ?_⟩
      rcases hbefore with ⟨-, hlookup⟩ | ⟨-, hclosed⟩
      · rw [hlookup, hentry]
        exact Or.inr (List.mem_singleton.mpr rfl)
      · exact Or.inl ((hclosed connection role hentry).resolve_right List.not_mem_nil)
    · rw [hother other hsame]
      refine hbefore.imp ?_ (And.imp_right ?_)
      · rintro ⟨hmem, hlookup⟩
        exact ⟨(List.mem_cons.mp hmem).resolve_left hsame, hlookup⟩
      · exact fun hclosed connection role hentry =>
          Or.inl ((hclosed connection role hentry).resolve_right List.not_mem_nil)
  · intro other entry hentry
    by_cases hsame : other = addr
    · exact Or.inl (hsame ▸ hold)
    · rw [hother other hsame] at hentry
      exact hreconciling.confined other entry hentry
  · refine Or.inr fun closing hmem => ?_
    obtain ⟨removed, -, rfl⟩ := List.mem_map.mp hmem
    rfl

theorem adopt (hpool : pool.Sound cluster) (hopen : pool.isClosed = false)
    (hbefore : before.Sound cluster)
    (hreconciling : Reconciling chronicle cluster before pool members [] [] []) :
    Reconciled chronicle cluster before (pool.setAddrs members) members := by
  have hadopt : pool.setAddrs members =
      { pool with topology := { pool.topology with addrs := members } } := by
    rw [Pool.setAddrs, hopen, if_neg Bool.false_ne_true]
  have hlookup := fun addr => Pool.lookup?_setAddrs pool members addr
  have hmembers : ∀ role, ((pool.setAddrs members).topology.subpool role).members =
      (pool.topology.subpool role).members := by
    intro role
    rw [hadopt]
    cases role <;> rfl
  refine ⟨by rw [hadopt], ?_, ?_, ?_, ?_, ?_⟩
  · intro addr hold hmember
    rw [hlookup]
    refine hbefore.consistent.lookup?_congr hpool.consistent fun role connection => ?_
    have hretained : retains before members (addr, connection) = true := by
      rw [retains, Bool.and_eq_true, List.contains_iff_mem, List.contains_iff_mem]
      exact ⟨hold, hmember⟩
    have horder := hreconciling.order role
    constructor
    · intro hentry
      have hmem := List.mem_filter.mpr ⟨hentry, hretained⟩
      rw [horder] at hmem
      exact (List.mem_filter.mp hmem).1
    · intro hentry
      have hmem := List.mem_filter.mpr ⟨hentry, hretained⟩
      rw [← horder] at hmem
      exact (List.mem_filter.mp hmem).1
  · intro role
    rw [hmembers]
    exact hreconciling.order role
  · intro addr hmember hnew
    have hdone := (hreconciling.tried addr hmember hnew List.not_mem_nil).elim id
      Enlisting.enlisted
    exact hdone.congr (hlookup addr) (.refl chronicle addr)
  · intro addr hold hgone
    rw [hlookup]
    rcases hreconciling.dropped addr hold hgone with ⟨hmem, -⟩ | ⟨habsent, hclosed⟩
    · cases hmem
    · exact ⟨habsent, fun connection role hentry =>
        (hclosed connection role hentry).resolve_right List.not_mem_nil⟩
  · intro addr entry hentry
    rw [hlookup] at hentry
    by_contra hgone
    rcases hreconciling.confined addr entry hentry with hold | hmember
    · rcases hreconciling.dropped addr hold hgone with ⟨hmem, -⟩ | ⟨habsent, -⟩
      · cases hmem
      · rw [habsent] at hentry
        cases hentry
    · exact hgone hmember

theorem perform {rest : List Job} (hsound : SoundUpkeep world.cluster pool (job :: rest))
    (hopen : pool.isClosed = false) (hbefore : before.Sound world.cluster)
    (hextends : later.Extends chronicle world pool job)
    (hreconciling : Reconciling chronicle world.cluster before pool members fresh gone focus)
    (hagenda : job :: rest = focus ++ [.reconcile fresh gone members]) :
    ((world.perform pool job).2.2 ++ rest = [] ∧
        Reconciled later (world.perform pool job).1.cluster before (world.perform pool job).2.1
          members) ∨
      ∃ fresh gone focus,
        (world.perform pool job).2.2 ++ rest = focus ++ [.reconcile fresh gone members] ∧
          Reconciling later (world.perform pool job).1.cluster before
            (world.perform pool job).2.1 members fresh gone focus := by
  have hpool := hsound.sound
  cases focus with
  | cons first focus =>
      obtain ⟨rfl, rfl⟩ := List.cons.inj hagenda
      refine Or.inr ⟨fresh, gone, (world.perform pool job).2.2 ++ focus,
        (List.append_assoc _ _ _).symm, ?_⟩
      exact hreconciling.perform_focus hpool (hsound.jobs job List.mem_cons_self) hopen hbefore
        hextends
  | nil =>
      obtain ⟨rfl, rfl⟩ := List.cons.inj hagenda
      have hsame := hreconciling.congr hbefore (Cluster.evolves_self _) rfl (fun _ => rfl)
        (fun _ => rfl) fun _ => hextends.agrees_of_silent rfl
      cases fresh with
      | cons addr fresh =>
          simp only [World.perform, hopen, Bool.false_eq_true, if_false]
          exact Or.inr ⟨fresh, gone, [.dial addr .enlist], rfl, hsame.beginTrial⟩
      | nil =>
          cases gone with
          | cons addr gone => exact Or.inr ⟨[], gone, _, List.append_nil _, hsame.drop hpool hopen⟩
          | nil => exact Or.inl ⟨rfl, hsame.adopt hpool hopen hbefore⟩

theorem begin (hsame : before.SameEntries pool) (hbefore : before.topology.Consistent)
    (hpool : pool.topology.Consistent) (hmembers : members.Nodup)
    (hconfined : ∀ addr entry, before.topology.lookup? addr = some entry →
      addr ∈ before.topology.addrs)
    (hunmade : ∀ addr connection, ¬chronicle.made addr connection) :
    Reconciling chronicle cluster before pool members
      (members.filter fun addr => !pool.topology.addrs.contains addr)
      (pool.topology.addrs.filter fun addr => !members.contains addr) [] := by
  have hlookup := hsame.lookup?_eq hbefore hpool
  rw [hsame.addrs]
  refine ⟨hsame.addrs, ?_, hmembers.filter _, ?_, ?_, ?_, ?_, ?_, Or.inr fun _ hmem => by cases hmem⟩
  · intro role
    rw [hsame.members]
  · intro addr hmem
    obtain ⟨hmember, hnew⟩ := List.mem_filter.mp hmem
    have hnew' : addr ∉ before.topology.addrs := by simpa using hnew
    refine ⟨hmember, hnew', ?_, hunmade addr⟩
    rw [hlookup]
    by_contra hentry
    obtain ⟨entry, hentry⟩ := Option.ne_none_iff_exists'.mp hentry
    exact hnew' (hconfined addr entry hentry)
  · intro addr hmember hnew hfresh
    exact absurd (List.mem_filter.mpr ⟨hmember, by simpa using hnew⟩) hfresh
  · intro addr hmem
    obtain ⟨hold, hgone⟩ := List.mem_filter.mp hmem
    exact ⟨hold, by simpa using hgone⟩
  · intro addr hold hgone
    exact Or.inl ⟨List.mem_filter.mpr ⟨hold, by simpa using hgone⟩, hlookup addr⟩
  · intro addr entry hentry
    rw [hlookup] at hentry
    exact Or.inl (hconfined addr entry hentry)

end Reconciling

end ReplicaPool
