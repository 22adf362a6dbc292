import ReplicaPool.Proofs.Entries
import ReplicaPool.RoundRobin

/-!
# The index of a round robin

A rotation finds its members through an index from addresses to places. `RoundRobin.Indexed` says that
the index holds exactly the addresses of the members, each with its place. Under it a rotation is the
list of its members: finding looks an address up in that list and removing filters it out.
-/

namespace ReplicaPool

namespace RoundRobin

variable {α : Type} {ring : RoundRobin α} {addr other : String} {member : α} {index : Nat}

/-- The index of a rotation maps exactly the addresses of its members to their places. -/
def Indexed (ring : RoundRobin α) : Prop :=
  ∀ addr index, ring.positions.lookup addr = some index ↔ ring.addrs[index]? = some addr

theorem indexed_empty : (empty : RoundRobin α).Indexed := by
  intro addr index
  simp [empty, addrs]

theorem Indexed.addrs_nodup (hindexed : ring.Indexed) : ring.addrs.Nodup := by
  rw [List.nodup_iff_getElem?_ne_getElem?]
  intro first second hlt hbound heq
  have hsecond : ring.addrs[second]? = some ring.addrs[second] := List.getElem?_eq_getElem hbound
  have hlookup := (hindexed _ _).mpr hsecond
  have hlookup' := (hindexed _ _).mpr (heq.trans hsecond)
  rw [hlookup] at hlookup'
  have hplace : second = first := Option.some.inj hlookup'
  omega

theorem Indexed.contains_iff (hindexed : ring.Indexed) :
    ring.contains addr = true ↔ addr ∈ ring.addrs := by
  rw [contains, Option.isSome_iff_exists, List.mem_iff_getElem?]
  exact exists_congr fun index => hindexed addr index

theorem Indexed.congr {later : RoundRobin α} (hindexed : ring.Indexed)
    (hmembers : later.members = ring.members) (hpositions : later.positions = ring.positions) :
    later.Indexed := by
  intro addr index
  rw [hpositions, addrs, hmembers]
  exact hindexed addr index

theorem lookup_zipIdx_iff (addr : String) (index start : Nat) {members : List (String × α)}
    (hnodup : (members.map Prod.fst).Nodup) :
    ((members.zipIdx start).map fun entry => (entry.1.1, entry.2)).lookup addr = some index ↔
      start ≤ index ∧ (members.map Prod.fst)[index - start]? = some addr := by
  induction members generalizing start with
  | nil => simp
  | cons head rest ih =>
      rw [List.map_cons, List.nodup_cons] at hnodup
      rw [List.zipIdx_cons, List.map_cons, List.lookup_cons]
      by_cases haddr : addr = head.1
      · subst haddr
        simp only [BEq.rfl, Option.some.injEq, List.map_cons]
        constructor
        · rintro rfl
          simp
        · rintro ⟨hle, hplace⟩
          by_contra hne
          have hsucc : index - start = (index - (start + 1)) + 1 := by omega
          rw [hsucc, List.getElem?_cons_succ] at hplace
          exact hnodup.1 (List.mem_of_getElem? hplace)
      · rw [beq_false_of_ne haddr]
        simp only [ih _ hnodup.2, List.map_cons]
        constructor
        · rintro ⟨hle, hplace⟩
          have hsucc : index - start = (index - (start + 1)) + 1 := by omega
          rw [hsucc, List.getElem?_cons_succ]
          exact ⟨by omega, hplace⟩
        · rintro ⟨hle, hplace⟩
          have hne : index ≠ start := by
            rintro rfl
            rw [Nat.sub_self] at hplace
            exact haddr (Option.some.inj hplace).symm
          have hsucc : index - start = (index - (start + 1)) + 1 := by omega
          rw [hsucc, List.getElem?_cons_succ] at hplace
          exact ⟨by omega, hplace⟩

theorem indexed_positionsOf {members : List (String × α)} {cursor : UInt64}
    (hnodup : (members.map Prod.fst).Nodup) :
    Indexed { members, positions := positionsOf members, cursor } := by
  intro addr index
  have hiff := lookup_zipIdx_iff addr index 0 hnodup
  simpa [positionsOf, addrs] using hiff

@[simp]
theorem members_add : (ring.add addr member).members = ring.members ++ [(addr, member)] := rfl

theorem Indexed.add (hindexed : ring.Indexed) (hnew : addr ∉ ring.addrs) :
    (ring.add addr member).Indexed := by
  intro key index
  have hold := hindexed key index
  rw [RoundRobin.add, List.lookup_cons]
  simp only [addrs, List.map_append, List.map_cons, List.map_nil]
  by_cases hkey : key = addr
  · subst hkey
    have hlength : ring.members.length = ring.addrs.length := by simp [addrs]
    simp only [BEq.rfl, Option.some.injEq, List.getElem?_append, List.length_map]
    constructor
    · rintro rfl
      simp
    · intro hplace
      split at hplace
      · exact absurd (List.mem_of_getElem? hplace) hnew
      · rename_i hbound
        by_contra hne
        have hpast : 1 ≤ index - ring.members.length := by omega
        rw [List.getElem?_eq_none (by simpa using hpast)] at hplace
        cases hplace
  · rw [beq_false_of_ne hkey]
    simp only
    rw [hold, List.getElem?_append]
    split
    · rfl
    · rename_i hbound
      constructor
      · intro hplace
        exact absurd (List.getElem?_eq_some_iff.mp hplace).1 hbound
      · intro hplace
        have hmem := List.mem_of_getElem? hplace
        exact absurd (List.mem_singleton.mp hmem) hkey

theorem Indexed.find?_eq (hindexed : ring.Indexed) :
    ring.find? addr = ring.members.lookup addr := by
  cases hposition : ring.positions.lookup addr with
  | none =>
      have habsent : addr ∉ ring.members.map Prod.fst := by
        intro hmem
        obtain ⟨index, hplace⟩ := List.mem_iff_getElem?.mp hmem
        rw [(hindexed addr index).mpr hplace] at hposition
        cases hposition
      rw [lookup_eq_none_iff_notMem.mpr habsent]
      simp [find?, hposition]
  | some index =>
      have hplace := (hindexed addr index).mp hposition
      rw [addrs, List.getElem?_map, Option.map_eq_some_iff] at hplace
      obtain ⟨⟨key, member⟩, hentry, rfl⟩ := hplace
      rw [lookup_eq_some_of_mem hindexed.addrs_nodup (List.mem_of_getElem? hentry)]
      simp [find?, hposition, hentry]

theorem Indexed.find?_eq_some_iff (hindexed : ring.Indexed) :
    ring.find? addr = some member ↔ (addr, member) ∈ ring.members := by
  rw [hindexed.find?_eq]
  exact ⟨mem_of_lookup_eq_some, lookup_eq_some_of_mem hindexed.addrs_nodup⟩

theorem Indexed.find?_eq_none_iff (hindexed : ring.Indexed) :
    ring.find? addr = none ↔ addr ∉ ring.addrs := by
  rw [hindexed.find?_eq]
  exact lookup_eq_none_iff_notMem

def without (ring : RoundRobin α) (addr : String) : RoundRobin α :=
  { ring with
    members := ring.members.filter (·.1 != addr)
    positions := positionsOf (ring.members.filter (·.1 != addr)) }

theorem Indexed.without (hindexed : ring.Indexed) : (ring.without addr).Indexed := by
  apply indexed_positionsOf
  exact (List.Sublist.map Prod.fst List.filter_sublist).nodup hindexed.addrs_nodup

theorem Indexed.remove?_eq (hindexed : ring.Indexed) :
    ring.remove? addr = (ring.find? addr).map fun member => (member, ring.without addr) := by
  cases hposition : ring.positions.lookup addr with
  | none => simp [remove?, find?, hposition]
  | some index =>
      have hplace := (hindexed addr index).mp hposition
      have herase := eraseIdx_eq_filter hindexed.addrs_nodup hplace
      rw [addrs, List.getElem?_map, Option.map_eq_some_iff] at hplace
      obtain ⟨⟨key, member⟩, hentry, rfl⟩ := hplace
      simp [remove?, find?, hposition, hentry, herase, RoundRobin.without]

theorem next_snd (alive : α → Bool) (ring : RoundRobin α) :
    (ring.next alive).2.members = ring.members ∧
      (ring.next alive).2.positions = ring.positions := by
  unfold next
  by_cases hsize : ring.members.length = 0
  · simp [hsize]
  · simp only [if_neg hsize]
    split <;> exact ⟨rfl, rfl⟩

end RoundRobin

end ReplicaPool
