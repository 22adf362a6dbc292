import ReplicaPool.Proofs.Upkeep.Trial

/-!
# Refreshing all addresses

To refresh an address changes the entry of this address and nothing else, and `World.Renewed` says into
what. Since no attempt at one address matters to another, a pass over many addresses renews each of them
as if it was alone. A renewed address is settled, and a pass over settled addresses changes nothing.
-/

namespace ReplicaPool

namespace World

variable {world middle later : World} {pool between moved : Pool} {addr other : String}
  {addrs first second : List String} {connection : ConnectionId} {role : Role}

theorem Extends.serves {queue : QueueId} (hextends : world.Extends later)
    (hserves : world.cluster.Serves connection addr queue) :
    later.cluster.Serves connection addr queue := by
  obtain ⟨present, hpresent, haddr, hqueue⟩ := hserves
  refine ⟨present, ?_, haddr, hqueue⟩
  rw [hextends.kept (List.getElem?_eq_some_iff.mp hpresent).1, hpresent]

theorem Extends.sound (hextends : world.Extends later) (hsound : pool.Sound world.cluster) :
    pool.Sound later.cluster :=
  { hsound with serves := fun hlookup => hextends.serves (hsound.serves hlookup) }

/-- An address without a connection that could still be used. -/
def Vacant (world : World) (pool : Pool) (addr : String) : Prop :=
  ∀ connection role, pool.topology.lookup? addr = some (connection, role) →
    world.cluster.link connection = .closed

inductive Renewed (world : World) (pool : Pool) (addr : String) (later : World) :
    Option (ConnectionId × Role) → Prop
  | reviewed {connection : ConnectionId} {role : Role} {present : Connection}
      (hlookup : pool.topology.lookup? addr = some (connection, role))
      (hpresent : world.cluster.connections[connection]? = some present)
      (hopen : present.link ≠ .closed) :
      Renewed world pool addr later
        (some (connection, (world.verdict pool.options.probeTimeout present).getD role))
  | replaced {connection : ConnectionId} {role : Role} {node : NodeId} {taker : Node}
      (hvacant : world.Vacant pool addr)
      (htrial : world.trial pool.options.probeTimeout addr = some role)
      (haccepts : world.cluster.Accepts addr node taker)
      (hnew : world.cluster.connections.length ≤ connection)
      (hpresent : later.cluster.connections[connection]? =
        some (Cluster.fresh addr pool.queue node taker)) :
      Renewed world pool addr later (some (connection, role))
  | absent (hvacant : world.Vacant pool addr)
      (htrial : world.trial pool.options.probeTimeout addr = none) :
      Renewed world pool addr later none

structure Refreshed (world : World) (pool : Pool) (addrs : List String) (later : World)
    (moved : Pool) : Prop where
  extended : world.Extends later
  pool_eq : moved = { pool with topology := moved.topology }
  addrs_eq : moved.topology.addrs = pool.topology.addrs
  sound : moved.Sound later.cluster
  renewed : ∀ addr ∈ addrs, world.Renewed pool addr later (moved.topology.lookup? addr)
  kept : ∀ {addr}, addr ∉ addrs → moved.topology.lookup? addr = pool.topology.lookup? addr

theorem Refreshed.options_eq (hrefreshed : Refreshed world pool addrs later moved) :
    moved.options = pool.options := by
  rw [hrefreshed.pool_eq]

theorem Refreshed.queue_eq (hrefreshed : Refreshed world pool addrs later moved) :
    moved.queue = pool.queue := by
  rw [hrefreshed.pool_eq]

theorem Refreshed.isClosed_eq (hrefreshed : Refreshed world pool addrs later moved) :
    moved.isClosed = pool.isClosed := by
  rw [hrefreshed.pool_eq]

/-- What happens to an address is told by its entry and the world before work on others as well. -/
theorem Renewed.of_extends {entry : Option (ConnectionId × Role)}
    (hrenewed : middle.Renewed between addr later entry) (hextends : world.Extends middle)
    (hsound : pool.Sound world.cluster)
    (hentry : between.topology.lookup? addr = pool.topology.lookup? addr)
    (hoptions : between.options = pool.options) (hqueue : between.queue = pool.queue) :
    world.Renewed pool addr later entry := by
  have hvacant : middle.Vacant between addr → world.Vacant pool addr := by
    intro hclosed connection role hlookup
    rw [← hextends.link_eq (hsound.serves hlookup).lt_length]
    exact hclosed _ _ (hentry.trans hlookup)
  cases hrenewed with
  | reviewed hlookup hpresent hopen =>
      rw [hentry] at hlookup
      rw [hextends.kept (hsound.serves hlookup).lt_length] at hpresent
      rw [hextends.verdict_eq, hoptions]
      exact .reviewed hlookup hpresent hopen
  | replaced hclosed htrial haccepts hnew hpresent =>
      rw [hextends.trial_eq, hoptions] at htrial
      rw [hqueue] at hpresent
      exact .replaced (hvacant hclosed) htrial (hextends.accepts_iff.mp haccepts)
        (Nat.le_trans hextends.length_le hnew) hpresent
  | absent hclosed htrial =>
      rw [hextends.trial_eq, hoptions] at htrial
      exact .absent (hvacant hclosed) htrial

theorem Renewed.extends {entry : Option (ConnectionId × Role)}
    (hrenewed : world.Renewed pool addr middle entry) (hextends : middle.Extends later) :
    world.Renewed pool addr later entry := by
  cases hrenewed with
  | reviewed hlookup hpresent hopen => exact .reviewed hlookup hpresent hopen
  | replaced hvacant htrial haccepts hnew hpresent =>
      refine .replaced hvacant htrial haccepts hnew ?_
      rw [hextends.kept (List.getElem?_eq_some_iff.mp hpresent).1, hpresent]
  | absent hvacant htrial => exact .absent hvacant htrial

theorem Refreshed.refl (hsound : pool.Sound world.cluster) :
    Refreshed world pool [] world pool where
  extended := .refl world
  pool_eq := rfl
  addrs_eq := rfl
  sound := hsound
  renewed := fun _ hmem => absurd hmem (List.not_mem_nil)
  kept := fun _ => rfl

theorem Refreshed.trans (hsound : pool.Sound world.cluster)
    (hfirst : Refreshed world pool first middle between)
    (hsecond : Refreshed middle between second later moved)
    (hdisjoint : ∀ addr ∈ first, addr ∉ second) :
    Refreshed world pool (first ++ second) later moved where
  extended := hfirst.extended.trans hsecond.extended
  pool_eq := by
    conv_lhs => rw [hsecond.pool_eq, hfirst.pool_eq]
  addrs_eq := hsecond.addrs_eq.trans hfirst.addrs_eq
  sound := hsecond.sound
  renewed := by
    intro addr hmem
    by_cases hearly : addr ∈ first
    · rw [hsecond.kept (hdisjoint addr hearly)]
      exact (hfirst.renewed addr hearly).extends hsecond.extended
    · have hlate := (List.mem_append.mp hmem).resolve_left hearly
      exact (hsecond.renewed addr hlate).of_extends hfirst.extended hsound (hfirst.kept hearly)
        hfirst.options_eq hfirst.queue_eq
  kept := by
    intro addr hnotMem
    rw [List.mem_append, not_or] at hnotMem
    rw [hsecond.kept hnotMem.2, hfirst.kept hnotMem.1]

/-! ### Looking after one address -/

theorem carryOut_offer (hconsistent : pool.topology.Consistent) (hopen : pool.isClosed = false)
    (hvacant : world.Vacant pool addr) :
    world.carryOut pool [.offer addr connection role] =
      (world, { pool with topology := pool.topology.put addr connection role }) := by
  rw [carryOut_cons]
  simp only [awaitDue, perform, Pool.file_eq hconsistent, hopen, Bool.false_eq_true, if_false,
    List.append_nil]
  cases hlookup : pool.topology.lookup? addr with
  | none => exact carryOut_nil
  | some entry =>
      have hclosed : world.cluster.isClosed entry.1 = true :=
        Cluster.isClosed_iff.mpr (hvacant _ _ hlookup)
      simp only [Option.map_some, afterOffer, hclosed, or_true, if_true, carryOut_nil]

theorem carryOut_fail (world : World) (pool : Pool) (addr : String) (purpose : Purpose) :
    world.carryOut pool [.fail addr purpose] =
      (world, match purpose with
        | .reopen => (pool.evict addr).1
        | .enlist => pool) := by
  rw [carryOut_cons]
  cases purpose <;> exact carryOut_nil

theorem Refreshed.stay (hextends : world.Extends later) (hsound : pool.Sound world.cluster)
    (hrenewed : world.Renewed pool addr later (pool.topology.lookup? addr)) :
    Refreshed world pool [addr] later pool where
  extended := hextends
  pool_eq := rfl
  addrs_eq := rfl
  sound := hextends.sound hsound
  renewed := by
    intro other hmem
    rwa [List.mem_singleton.mp hmem]
  kept := fun _ => rfl

theorem Refreshed.put (hextends : world.Extends later) (hsound : pool.Sound world.cluster)
    (hserves : later.cluster.Serves connection addr pool.queue)
    (hrenewed : world.Renewed pool addr later (some (connection, role))) :
    Refreshed world pool [addr] later
      { pool with topology := pool.topology.put addr connection role } where
  extended := hextends
  pool_eq := rfl
  addrs_eq := Topology.addrs_put _ _ _ _
  sound := (hextends.sound hsound).put hserves
  renewed := by
    intro other hmem
    obtain rfl := List.mem_singleton.mp hmem
    rwa [hsound.consistent.lookup?_put, if_pos rfl]
  kept := by
    intro other hnotMem
    rw [hsound.consistent.lookup?_put,
      if_neg (fun heq => hnotMem (List.mem_singleton.mpr heq))]

theorem Refreshed.evict (hextends : world.Extends later) (hsound : pool.Sound world.cluster)
    (hopen : pool.isClosed = false) (hrenewed : world.Renewed pool addr later none) :
    Refreshed world pool [addr] later (pool.evict addr).1 := by
  have hconsistent := hsound.consistent
  have hevict : (pool.evict addr).1 =
      { pool with topology := (pool.topology.remove addr).2 } := by
    rw [Pool.evict_eq hconsistent, hopen]
    rfl
  refine ⟨hextends, ?_, ?_, (hextends.sound hsound).evict, ?_, ?_⟩
  · rw [hevict]
  · rw [hevict]
    exact Topology.addrs_remove _ _
  · intro other hmem
    obtain rfl := List.mem_singleton.mp hmem
    rwa [hevict, hconsistent.lookup?_remove, if_pos rfl]
  · intro other hnotMem
    rw [hevict, hconsistent.lookup?_remove,
      if_neg (fun heq => hnotMem (List.mem_singleton.mpr heq))]

theorem refreshed_dial {purpose : Purpose} (hsound : pool.Sound world.cluster)
    (hopen : pool.isClosed = false) (hvacant : world.Vacant pool addr)
    (hpurpose : purpose = .enlist → pool.topology.lookup? addr = none) :
    Refreshed world pool [addr] (world.carryOut pool [.dial addr purpose]).1
      (world.carryOut pool [.dial addr purpose]).2 := by
  cases htrial : world.trial pool.options.probeTimeout addr with
  | some role =>
      obtain ⟨later, node, taker, hextends, haccepts, hpresent, hdial⟩ :=
        carryOut_dial_of_trial purpose htrial
      have hstays : later.Vacant pool addr := by
        intro connection role hlookup
        rw [hextends.link_eq (hsound.serves hlookup).lt_length]
        exact hvacant _ _ hlookup
      rw [hdial, carryOut_offer hsound.consistent hopen hstays]
      exact .put hextends hsound ⟨_, hpresent, rfl, rfl⟩
        (.replaced hvacant htrial haccepts (Nat.le_refl _) hpresent)
  | none =>
      obtain ⟨later, hextends, hdial⟩ := carryOut_dial_of_no_trial purpose htrial
      have habsent : world.Renewed pool addr later none := .absent hvacant htrial
      rw [hdial, carryOut_fail]
      cases purpose with
      | reopen => exact .evict hextends hsound hopen habsent
      | enlist => exact .stay hextends hsound (hpurpose rfl ▸ habsent)

theorem refreshed_probe {present : Connection} (hsound : pool.Sound world.cluster)
    (hopen : pool.isClosed = false)
    (hlookup : pool.topology.lookup? addr = some (connection, role))
    (hpresent : world.cluster.connections[connection]? = some present)
    (hlive : present.link ≠ .closed) :
    Refreshed world pool [addr]
      (world.carryOut pool [.probe connection (.review addr role)]).1
      (world.carryOut pool [.probe connection (.review addr role)]).2 := by
  obtain ⟨now, hprobe⟩ := carryOut_probe pool (.review addr role) [] hpresent
  have hextends := extends_setNow world now
  have hreviewed : world.Renewed pool addr { world with now }
      (some (connection, (world.verdict pool.options.probeTimeout present).getD role)) :=
    .reviewed hlookup hpresent hlive
  rw [hprobe, List.append_nil]
  cases hverdict : world.verdict pool.options.probeTimeout present with
  | none =>
      simp only [found, Goal.conclude, carryOut_nil]
      rw [hverdict, Option.getD_none, ← hlookup] at hreviewed
      exact .stay hextends hsound hreviewed
  | some filed =>
      rw [hverdict, Option.getD_some] at hreviewed
      simp only [found, Goal.conclude]
      split
      · rename_i hsame
        rw [hsame, ← hlookup] at hreviewed
        rw [carryOut_nil]
        exact .stay hextends hsound hreviewed
      · rename_i hne
        rw [carryOut_cons]
        simp only [awaitDue, perform, List.append_nil, carryOut_nil,
          Pool.relocate_of_ne hopen hlookup (Ne.symm hne)]
        exact .put hextends hsound (hextends.serves (hsound.serves hlookup)) hreviewed

theorem refreshed_refreshAddr (hsound : pool.Sound world.cluster) (hopen : pool.isClosed = false)
    (addr : String) :
    Refreshed world pool [addr] (world.carryOut pool (world.refreshAddr pool addr)).1
      (world.carryOut pool (world.refreshAddr pool addr)).2 := by
  unfold refreshAddr
  cases hlookup : pool.topology.lookup? addr with
  | none =>
      refine refreshed_dial hsound hopen ?_ (fun _ => hlookup)
      intro connection role hfiled
      rw [hlookup] at hfiled
      cases hfiled
  | some entry =>
      obtain ⟨connection, role⟩ := entry
      dsimp only
      split
      · rename_i hclosed
        refine refreshed_dial hsound hopen ?_ (fun hpurpose => by cases hpurpose)
        intro other filed hfiled
        rw [hlookup] at hfiled
        cases hfiled
        exact Cluster.isClosed_iff.mp hclosed
      · rename_i hlive
        obtain ⟨present, hpresent, -⟩ := hsound.serves hlookup
        refine refreshed_probe hsound hopen hlookup hpresent ?_
        intro hclosed
        exact hlive (Cluster.isClosed_iff.mpr ((Cluster.link_eq hpresent).trans hclosed))

/-! ### Looking after all addresses -/

/-- One pass over the managed addresses. -/
def refreshAll (world : World) (pool : Pool) : World × Pool :=
  world.carryOut pool [.refresh pool.topology.addrs]

theorem carryOut_refresh_nil : world.carryOut pool [.refresh []] = (world, pool) := by
  rw [carryOut_cons]
  exact carryOut_nil

theorem carryOut_refresh_cons (hopen : pool.isClosed = false) (addr : String)
    (rest : List String) :
    world.carryOut pool [.refresh (addr :: rest)] =
      (world.carryOut pool (world.refreshAddr pool addr)).1.carryOut
        (world.carryOut pool (world.refreshAddr pool addr)).2 [.refresh rest] := by
  rw [carryOut_cons, ← carryOut_append]
  simp only [awaitDue, perform, hopen, Bool.false_eq_true, if_false, List.append_nil]

/-- A pass renews every address as if it was the only one. -/
theorem refreshed_refresh (hsound : pool.Sound world.cluster) (hopen : pool.isClosed = false)
    (hnodup : addrs.Nodup) :
    Refreshed world pool addrs (world.carryOut pool [.refresh addrs]).1
      (world.carryOut pool [.refresh addrs]).2 := by
  induction addrs generalizing world pool with
  | nil =>
      rw [carryOut_refresh_nil]
      exact .refl hsound
  | cons addr rest ih =>
      -- The rest of the pass does not mention `addr`, so its renewed entry survives.
      obtain ⟨hnew, hrest⟩ := List.nodup_cons.mp hnodup
      have hfirst := refreshed_refreshAddr hsound hopen addr
      rw [carryOut_refresh_cons hopen]
      refine hfirst.trans hsound (ih hfirst.sound (hfirst.isClosed_eq.trans hopen) hrest) ?_
      intro other hmem
      rwa [List.mem_singleton.mp hmem]

/-! ### Settled addresses -/

/-- An address whose entry no refresh would change. -/
def Settled (world : World) (pool : Pool) (addr : String) : Prop :=
  match pool.topology.lookup? addr with
  | some (connection, role) => ∃ present,
      world.cluster.connections[connection]? = some present ∧ present.link ≠ .closed ∧
        (world.verdict pool.options.probeTimeout present).getD role = role
  | none => world.trial pool.options.probeTimeout addr = none

theorem settled_of_lookup {present : Connection}
    (hlookup : pool.topology.lookup? addr = some (connection, role))
    (hpresent : world.cluster.connections[connection]? = some present)
    (hlive : present.link ≠ .closed)
    (hrole : (world.verdict pool.options.probeTimeout present).getD role = role) :
    world.Settled pool addr := by
  rw [Settled, hlookup]
  exact ⟨present, hpresent, hlive, hrole⟩

theorem fresh_link_ne_closed (addr : String) (queue : QueueId) (node : NodeId) (taker : Node) :
    (Cluster.fresh addr queue node taker).link ≠ .closed := by
  simp only [Cluster.fresh]
  split <;> exact fun hclosed => by cases hclosed

/-- The role that a dial shows is the one that a later look at the connection shows. -/
theorem verdict_of_trial {node : NodeId} {taker : Node} {limit : Nat} (queue : QueueId)
    (htrial : world.trial limit addr = some role)
    (haccepts : world.cluster.Accepts addr node taker) :
    world.verdict limit (Cluster.fresh addr queue node taker) = some role := by
  rw [← htrial]
  refine (trial_eq_verdict queue ?_ haccepts).symm
  by_contra hlate
  simp only [trial, hlate, if_false] at htrial
  cases htrial

theorem Refreshed.settled (hsound : pool.Sound world.cluster)
    (hrefreshed : Refreshed world pool addrs later moved) (hmem : addr ∈ addrs) :
    later.Settled moved addr := by
  have hextends := hrefreshed.extended
  have hoptions := hrefreshed.options_eq
  generalize hentry : moved.topology.lookup? addr = entry
  have hrenewed := hrefreshed.renewed addr hmem
  rw [hentry] at hrenewed
  cases hrenewed with
  | @reviewed connection role present hlookup hpresent hlive =>
      refine settled_of_lookup hentry ?_ hlive ?_
      · rw [hextends.kept (hsound.serves hlookup).lt_length, hpresent]
      · rw [hextends.verdict_eq, hoptions]
        cases world.verdict pool.options.probeTimeout present <;> rfl
  | replaced hvacant htrial haccepts hnew hpresent =>
      refine settled_of_lookup hentry hpresent (fresh_link_ne_closed _ _ _ _) ?_
      rw [hextends.verdict_eq, hoptions, verdict_of_trial pool.queue htrial haccepts]
      rfl
  | absent hvacant htrial =>
      rw [Settled, hentry]
      dsimp only
      rw [hextends.trial_eq, hoptions, htrial]

theorem Settled.extends (hsettled : world.Settled pool addr) (hextends : world.Extends later) :
    later.Settled pool addr := by
  unfold Settled at hsettled ⊢
  split at hsettled
  · obtain ⟨present, hpresent, hlive, hrole⟩ := hsettled
    refine ⟨present, ?_, hlive, ?_⟩
    · rw [hextends.kept (List.getElem?_eq_some_iff.mp hpresent).1, hpresent]
    · rw [hextends.verdict_eq, hrole]
  · rw [hextends.trial_eq, hsettled]

theorem Settled.refreshAddr (hsettled : world.Settled pool addr) :
    ∃ later, world.Extends later ∧
      world.carryOut pool (world.refreshAddr pool addr) = (later, pool) := by
  cases hlookup : pool.topology.lookup? addr with
  | some entry =>
      obtain ⟨connection, role⟩ := entry
      simp only [Settled, hlookup] at hsettled
      obtain ⟨present, hpresent, hlive, hrole⟩ := hsettled
      have hopen : world.cluster.isClosed connection = false := by
        rw [Bool.eq_false_iff, ne_eq, Cluster.isClosed_iff, Cluster.link_eq hpresent]
        exact hlive
      obtain ⟨now, hprobe⟩ := carryOut_probe pool (.review addr role) [] hpresent
      refine ⟨_, extends_setNow world now, ?_⟩
      simp only [World.refreshAddr, hlookup, hopen, Bool.false_eq_true, if_false]
      rw [hprobe, List.append_nil]
      cases hverdict : world.verdict pool.options.probeTimeout present with
      | none => exact carryOut_nil
      | some filed =>
          have hsame : filed = role := by
            rw [hverdict] at hrole
            exact hrole
          simp only [found, Goal.conclude, hsame, if_true, carryOut_nil]
  | none =>
      simp only [Settled, hlookup] at hsettled
      obtain ⟨later, hextends, hdial⟩ := carryOut_dial_of_no_trial .enlist hsettled
      refine ⟨later, hextends, ?_⟩
      simp only [World.refreshAddr, hlookup]
      rw [hdial, carryOut_fail]

theorem carryOut_refresh_of_settled (hopen : pool.isClosed = false)
    (hsettled : ∀ addr ∈ addrs, world.Settled pool addr) :
    ∃ later, world.Extends later ∧ world.carryOut pool [.refresh addrs] = (later, pool) := by
  induction addrs generalizing world with
  | nil => exact ⟨world, .refl world, carryOut_refresh_nil⟩
  | cons addr rest ih =>
      obtain ⟨middle, hearly, hfirst⟩ := (hsettled addr List.mem_cons_self).refreshAddr
      obtain ⟨later, hlate, hrest⟩ :=
        ih fun other hmem => (hsettled other (List.mem_cons_of_mem _ hmem)).extends hearly
      refine ⟨later, hearly.trans hlate, ?_⟩
      rw [carryOut_refresh_cons hopen, hfirst, hrest]

end World

end ReplicaPool
