import ReplicaPool.Proofs.Places
import ReplicaPool.Proofs.Pool.Closing
import ReplicaPool.Proofs.Upkeep.Worker
import ReplicaPool.World.System

/-!
# Pools under construction

While a pool is built, its connections are in the hands of the attempts that made them. `Pool.Expects`
says of a pool and of what is held for it that the pool is sound and open, that every address is expected
once and has no entry yet, and that together they account for every connection. Each piece of an attempt
and each filing keeps this, so nothing is held any more in the end.
-/

namespace ReplicaPool

def Attempt.held (attempt : Attempt) : String × Option ConnectionId :=
  (attempt.addr, attempt.result.toOption.map Prod.fst)

def Slot.held : Slot → String × Option ConnectionId
  | .waiting addr => (addr, none)
  | .dialled addr connection _ => (addr, some connection)
  | .finished attempt => attempt.held

structure Pool.Expects (cluster : Cluster) (pool : Pool)
    (held : List (String × Option ConnectionId)) : Prop where
  sound : pool.Sound cluster
  isOpen : pool.isClosed = false
  addrs_nodup : (held.map Prod.fst).Nodup
  absent : ∀ {addr : String}, addr ∈ held.map Prod.fst → pool.topology.lookup? addr = none
  serves : ∀ {addr : String} {connection : ConnectionId}, (addr, some connection) ∈ held →
    cluster.Serves connection addr pool.queue
  accounts : pool.Accounts cluster fun connection => ∃ addr, (addr, some connection) ∈ held

namespace Pool.Expects

variable {cluster later : Cluster} {opened : QueueId → Prop} {pool : Pool}
  {held : List (String × Option ConnectionId)} {addr : String} {connection : ConnectionId}
  {role : Role}

theorem evolves (hexpects : pool.Expects cluster held) (hevolves : cluster.Evolves opened later)
    (hclosed : ¬opened pool.queue) : pool.Expects later held where
  sound := hexpects.sound.evolves hevolves
  isOpen := hexpects.isOpen
  addrs_nodup := hexpects.addrs_nodup
  absent := hexpects.absent
  serves := fun hmem => hevolves.serves (hexpects.serves hmem)
  accounts := by
    intro connection addr hserves
    rcases hevolves.serves_origin hserves with hbefore | ⟨-, hopened⟩
    · exact (hexpects.accounts hbefore).imp_left (hevolves.link_closed hbefore)
    · exact absurd hopened hclosed

/-- A pool whose queue is new and that has no entries expects each of its addresses. -/
theorem of_empty {addrs : List String} (hempty : pool.topology = { addrs })
    (hne : addrs ≠ []) (hnodup : addrs.Nodup) (hopen : pool.isClosed = false)
    (hnew : ∀ {connection : ConnectionId} {addr : String},
      ¬cluster.Serves connection addr pool.queue) :
    pool.Expects cluster (addrs.map fun addr => (addr, none)) where
  sound := Pool.sound_of_empty hempty hne hnodup
  isOpen := hopen
  addrs_nodup := by
    rw [List.map_map]
    exact (List.map_id addrs).symm ▸ hnodup
  absent := by
    intro addr _
    rw [hempty]
    rfl
  serves := by
    intro addr connection hmem
    simp at hmem
  accounts := fun hserves => absurd hserves hnew

/-- One of the expected addresses gets another connection, or loses the one it had. Its old connection is
kept or closed, and whatever is new is held. -/
theorem set (hexpects : pool.Expects cluster held) {place : Nat}
    {before after : Option ConnectionId} (hplace : held[place]? = some (addr, before))
    (hevolves : cluster.Evolves opened later)
    (hserves : ∀ {connection : ConnectionId}, after = some connection →
      later.Serves connection addr pool.queue)
    (hlost : ∀ {connection : ConnectionId}, before = some connection →
      later.link connection = .closed ∨ after = some connection)
    (hmade : ∀ {connection : ConnectionId} {target : String},
      cluster.connections.length ≤ connection → later.Serves connection target pool.queue →
        after = some connection) :
    pool.Expects later (held.set place (addr, after)) := by
  have haddrs : (held.set place (addr, after)).map Prod.fst = held.map Prod.fst :=
    map_set_of_eq hplace rfl
  have hlt := (List.getElem?_eq_some_iff.mp hplace).1
  have hset : (addr, after) ∈ held.set place (addr, after) := List.mem_set hlt _
  refine ⟨hexpects.sound.evolves hevolves, hexpects.isOpen, ?_, ?_, ?_, ?_⟩
  · rw [haddrs]
    exact hexpects.addrs_nodup
  · rw [haddrs]
    exact hexpects.absent
  · intro target connection hmem
    rcases List.mem_or_eq_of_mem_set hmem with hold | hnew
    · exact hevolves.serves (hexpects.serves hold)
    · cases hnew
      exact hserves rfl
  · intro connection target htarget
    by_cases hnew : cluster.connections.length ≤ connection
    · exact Or.inr (Or.inr ⟨addr, hmade hnew htarget ▸ hset⟩)
    · rcases hevolves.serves_origin htarget with hbefore | ⟨hle, -⟩
      · rcases hexpects.accounts hbefore with hclosed | hfiled | ⟨holder, hmem⟩
        · exact Or.inl (hevolves.link_closed hbefore hclosed)
        · exact Or.inr (Or.inl hfiled)
        · obtain ⟨index, hindex⟩ := List.mem_iff_getElem?.mp hmem
          by_cases hsame : index = place
          · subst hsame
            rw [hplace] at hindex
            cases hindex
            refine (hlost rfl).imp_right fun hafter => Or.inr ⟨addr, ?_⟩
            exact hafter ▸ hset
          · refine Or.inr (Or.inr ⟨holder, List.mem_of_getElem? (i := index) ?_⟩)
            rw [List.getElem?_set_ne (Ne.symm hsame), hindex]
      · exact absurd hle hnew

theorem skip (hexpects : pool.Expects cluster ((addr, none) :: held)) :
    pool.Expects cluster held where
  sound := hexpects.sound
  isOpen := hexpects.isOpen
  addrs_nodup := (List.nodup_cons.mp hexpects.addrs_nodup).2
  absent := fun hmem => hexpects.absent (List.mem_cons_of_mem _ hmem)
  serves := fun hmem => hexpects.serves (List.mem_cons_of_mem _ hmem)
  accounts := fun hserves => by
    rcases hexpects.accounts hserves with hclosed | hfiled | ⟨holder, hmem⟩
    · exact Or.inl hclosed
    · exact Or.inr (Or.inl hfiled)
    · rcases List.mem_cons.mp hmem with hfirst | hrest
      · cases hfirst
      · exact Or.inr (Or.inr ⟨holder, hrest⟩)

/-- The connection of an expected address passes into the pool. It replaces nothing. -/
theorem file (hexpects : pool.Expects cluster ((addr, some connection) :: held)) :
    (pool.file addr connection role).1.Expects cluster held := by
  have hserves := hexpects.serves List.mem_cons_self
  have hfile : (pool.file addr connection role).1 =
      { pool with topology := pool.topology.put addr connection role } := by
    rw [Pool.file_eq hexpects.sound.consistent, if_neg (by simp [hexpects.isOpen])]
  have hlookup : ∀ other, (pool.file addr connection role).1.topology.lookup? other =
      if other = addr then some (connection, role) else pool.topology.lookup? other := by
    intro other
    rw [hfile]
    exact hexpects.sound.consistent.lookup?_put
  obtain ⟨hnew, hnodup⟩ := List.nodup_cons.mp hexpects.addrs_nodup
  refine ⟨hexpects.sound.file hserves, ?_, hnodup, ?_, ?_, ?_⟩
  · rw [hfile]
    exact hexpects.isOpen
  · intro target htarget
    have hne : target ≠ addr := fun hsame => hnew (hsame ▸ htarget)
    rw [hlookup, if_neg hne]
    exact hexpects.absent (List.mem_cons_of_mem _ htarget)
  · rw [hfile]
    exact fun hmem => hexpects.serves (List.mem_cons_of_mem _ hmem)
  · intro found target htarget
    rw [hfile] at htarget
    rcases hexpects.accounts htarget with hclosed | ⟨filed, hfiled⟩ | ⟨holder, hmem⟩
    · exact Or.inl hclosed
    · have hne : target ≠ addr := by
        rintro rfl
        rw [hexpects.absent List.mem_cons_self] at hfiled
        cases hfiled
      exact Or.inr (Or.inl ⟨filed, by rw [hlookup, if_neg hne, hfiled]⟩)
    · rcases List.mem_cons.mp hmem with hfirst | hrest
      · cases hfirst
        have haddr : target = addr := htarget.addr_unique hserves
        exact Or.inr (Or.inl ⟨role, by rw [hlookup, if_pos haddr]⟩)
      · exact Or.inr (Or.inr ⟨holder, hrest⟩)

/-- Once nothing is expected any more, upkeep may start. -/
theorem soundUpkeep (hexpects : pool.Expects cluster []) : SoundUpkeep cluster pool [] where
  sound := hexpects.sound
  jobs := fun _ hjob => by cases hjob
  ordered := List.Pairwise.nil
  accounts := fun hserves => by
    rcases hexpects.accounts hserves with hclosed | hfiled | ⟨holder, hmem⟩
    · exact Or.inl hclosed
    · exact Or.inr (Or.inl hfiled)
    · cases hmem

theorem link_closeEach (hexpects : pool.Expects cluster [])
    (hserves : (cluster.closeEach pool.topology.connections).Serves connection addr pool.queue) :
    (cluster.closeEach pool.topology.connections).link connection = .closed := by
  have hevolves : cluster.Evolves (fun _ => False) (cluster.closeEach pool.topology.connections) :=
    Cluster.evolves_closeEach _ _
  rcases hevolves.serves_origin hserves with hbefore | ⟨-, hfalse⟩
  · rcases hexpects.accounts hbefore with hclosed | ⟨role, hfiled⟩ | ⟨holder, hmem⟩
    · exact hevolves.link_closed hbefore hclosed
    · refine Cluster.link_closeEach_of_mem (Topology.mem_connections_iff.mpr ⟨role, addr, ?_⟩)
      exact hexpects.sound.consistent.lookup?_eq_some_iff.mp hfiled
    · cases hmem
  · exact hfalse.elim

end Pool.Expects

/-! ### Attempts -/

section Attempts

variable {world : World} {pool : Pool} {held : List (String × Option ConnectionId)}

theorem World.touched_beginAttempt (world : World) (queue : QueueId) (limit : Nat)
    (addr : String) : World.Touched world queue (world.beginAttempt queue limit addr).1 := by
  unfold beginAttempt
  split
  · exact .same
  · have hdial : World.Touched world queue (world.dial addr queue).1 := .dial addr
    rcases hresult : world.dial addr queue with ⟨later, _ | connection⟩
    · rw [hresult] at hdial
      exact hdial
    · rw [hresult] at hdial
      exact hdial

theorem World.exists_touched_endAttempt (world : World) (queue : QueueId) (limit : Nat)
    (addr : String) (connection : ConnectionId) (dialled : Nat) :
    ∃ middle, World.Touched world queue middle ∧
      World.Touched middle queue (world.endAttempt limit addr connection dialled).1 := by
  unfold endAttempt
  dsimp only
  split
  · exact ⟨world, .same, .close connection⟩
  · have hreads : Request.introspect.isWrite = false := rfl
    refine ⟨_, touched_answer queue connection hreads (world.script addr), ?_⟩
    split
    · exact .same
    · exact .close connection

theorem Slot.exists_touched_advance (world : World) (pool : Pool) (slot : Slot) :
    ∃ middle, World.Touched world pool.queue middle ∧
      World.Touched middle pool.queue (slot.advance world pool).1 := by
  cases slot with
  | waiting addr =>
      refine ⟨world, .same, ?_⟩
      have hbegin := World.touched_beginAttempt world pool.queue
        pool.options.probeTimeout addr
      rcases hresult : world.beginAttempt pool.queue pool.options.probeTimeout addr with
        ⟨later, _ | ⟨connection, elapsed⟩⟩
      · rw [hresult] at hbegin
        simpa only [advance, hresult] using hbegin
      · rw [hresult] at hbegin
        simpa only [advance, hresult] using hbegin
  | dialled addr connection elapsed =>
      exact World.exists_touched_endAttempt world pool.queue _ addr connection elapsed
  | finished attempt => exact ⟨world, .same, .same⟩

theorem Pool.Expects.beginAttempt {place : Nat} {addr : String}
    (hexpects : pool.Expects world.cluster held) (hplace : held[place]? = some (addr, none))
    (limit : Nat) :
    pool.Expects (world.beginAttempt pool.queue limit addr).1.cluster
      (held.set place
        (match (world.beginAttempt pool.queue limit addr).2 with
          | .error attempt => attempt.held
          | .ok (connection, _) => (addr, some connection))) := by
  unfold World.beginAttempt
  split
  · refine hexpects.set hplace (Cluster.evolves_self _) (fun hnone => by cases hnone)
      (fun hnone => by cases hnone) ?_
    intro connection target hle hserves
    exact absurd hserves.lt_length (Nat.not_lt.mpr hle)
  · have hevolves := Cluster.evolves_dial world.cluster addr pool.queue
    unfold World.dial
    rcases hdial : world.cluster.dial addr pool.queue with ⟨later, cause | connection⟩
    · rw [hdial] at hevolves
      refine hexpects.set hplace hevolves (fun hnone => by cases hnone)
        (fun hnone => by cases hnone) ?_
      intro connection target hle hserves
      have hsame := Cluster.connections_dial_error (congrArg Prod.snd hdial)
      rw [hdial] at hsame
      have hlt := hserves.lt_length
      rw [hsame] at hlt
      exact absurd hlt (Nat.not_lt.mpr hle)
    · obtain ⟨hmade, hserves, hlength⟩ := Cluster.serves_dial (congrArg Prod.snd hdial)
      rw [hdial] at hevolves hserves hlength
      refine hexpects.set hplace hevolves ?_ (fun hnone => by cases hnone) ?_
      · intro found hfound
        cases hfound
        exact hserves
      · intro found target hle htarget
        have hlt := htarget.lt_length
        rw [hlength] at hlt
        have hfound : found = connection :=
          (Nat.le_antisymm (Nat.le_of_lt_succ hlt) hle).trans hmade.symm
        rw [hfound]

theorem Pool.Expects.endAttempt {place limit dialled : Nat} {addr : String}
    {connection : ConnectionId} (hexpects : pool.Expects world.cluster held)
    (hplace : held[place]? = some (addr, some connection)) :
    pool.Expects (world.endAttempt limit addr connection dialled).1.cluster
      (held.set place (world.endAttempt limit addr connection dialled).2.held) := by
  have hclose : ∀ later : World, world.cluster.Evolves (fun _ => False) later.cluster →
      pool.Expects (later.close connection).1.cluster (held.set place (addr, none)) := by
    intro later hevolves
    have hclosing : world.cluster.Evolves (fun _ => False) (later.close connection).1.cluster :=
      hevolves.trans (Cluster.evolves_close _ _)
    refine hexpects.set hplace hclosing (fun hnone => by cases hnone) ?_ ?_
    · intro found hfound
      cases hfound
      exact Or.inl (Cluster.link_close_self _ _)
    · rintro found target hle ⟨present, hpresent, -⟩
      exact (hclosing.made hpresent hle).elim
  unfold World.endAttempt
  dsimp only
  split
  · exact hclose world (.refl _)
  · have hevolves : world.cluster.Evolves (fun _ => False)
        (world.answer connection .introspect (world.script addr)).1.cluster :=
      World.evolves_answer _ _ _ _
    split
    · refine hexpects.set hplace hevolves ?_ (fun hfound => Or.inr hfound) ?_
      · intro found hfound
        cases hfound
        exact hevolves.serves (hexpects.serves (List.mem_of_getElem? hplace))
      · rintro found target hle ⟨present, hpresent, -⟩
        exact (hevolves.made hpresent hle).elim
    · exact hclose _ hevolves

theorem Pool.Expects.advance {slots : List Slot} {slot : Slot} {place : Nat}
    (hexpects : pool.Expects world.cluster (slots.map Slot.held))
    (hplace : slots[place]? = some slot) :
    pool.Expects (slot.advance world pool).1.cluster
      ((slots.set place (slot.advance world pool).2).map Slot.held) := by
  have hheld : (slots.map Slot.held)[place]? = some slot.held := by
    rw [List.getElem?_map, hplace]
    rfl
  rw [List.map_set]
  cases slot with
  | waiting addr =>
      have hbegin := hexpects.beginAttempt hheld pool.options.probeTimeout
      rcases hresult : world.beginAttempt pool.queue pool.options.probeTimeout addr with
        ⟨later, attempt | ⟨connection, elapsed⟩⟩
      · rw [hresult] at hbegin
        simpa only [Slot.advance, hresult, Slot.held] using hbegin
      · rw [hresult] at hbegin
        simpa only [Slot.advance, hresult, Slot.held] using hbegin
  | dialled addr connection elapsed => exact hexpects.endAttempt hheld
  | finished attempt =>
      unfold Slot.advance
      rw [set_eq_of_getElem? hheld]
      exact hexpects

theorem held_of_all_finished {slots : List Slot}
    (hover : slots.all (fun slot => slot.attempt?.isSome) = true) :
    (slots.filterMap Slot.attempt?).map Attempt.held = slots.map Slot.held := by
  induction slots with
  | nil => rfl
  | cons slot rest ih =>
      rw [List.all_cons, Bool.and_eq_true] at hover
      cases slot with
      | waiting addr => cases hover.1
      | dialled addr connection elapsed => cases hover.1
      | finished attempt => exact congrArg (Attempt.held attempt :: ·) (ih hover.2)

theorem queue_fileAttempt (world : World) (pool : Pool) (somebodyAlive : Bool) (attempt : Attempt) :
    (world.fileAttempt (pool, somebodyAlive) attempt).1.queue = pool.queue := by
  unfold World.fileAttempt
  split
  · exact Pool.queue_file _ _ _ _
  · rfl

theorem Pool.Expects.fileAttempt {attempt : Attempt} {rest : List Attempt} {somebodyAlive : Bool}
    {cluster : Cluster} (hexpects : pool.Expects cluster ((attempt :: rest).map Attempt.held)) :
    (world.fileAttempt (pool, somebodyAlive) attempt).1.Expects cluster
      (rest.map Attempt.held) := by
  obtain ⟨addr, elapsed, result⟩ := attempt
  cases result with
  | error cause => exact hexpects.skip
  | ok found => exact hexpects.file

end Attempts

end ReplicaPool
