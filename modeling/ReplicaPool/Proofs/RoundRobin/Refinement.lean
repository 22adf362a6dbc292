import ReplicaPool.Proofs.RoundRobin.Scan

/-!
# Rotations are lists of entries

A rotation keeps its members twice: in order, and in an index by address, to which adding appends and which
removing builds anew. Whatever was added, removed and picked before, the two agree. So a rotation answers as
the list of the entries that were added and not removed since, in the order in which they were added, and
its index never names a place past the members.
-/

namespace ReplicaPool

namespace RoundRobin

variable {α β : Type} {ring : RoundRobin α} {entries : List (String × α)} {addr : String} {member : α}

inductive Change (α : Type) where
  | add (addr : String) (member : α)
  | delete (addr : String)
  /-- A pick among the members that are alive at that moment. -/
  | next (alive : α → Bool)

/-! ### Reads of the index -/

/-- An answer that takes a read at the place of an address. It fails if the index leads past the members. -/
def reading? (ring : RoundRobin α) (addr : String) (answer : β) : Option β :=
  match ring.positions.lookup addr with
  | none => some answer
  | some index => (ring.members[index]?).map fun _ => answer

/-- The rotation after a change. It fails where the change adds an address that is there, or reads a member
where there is none. -/
def applied? (ring : RoundRobin α) : Change α → Option (RoundRobin α)
  | .add addr member => ring.add? addr member
  | .delete addr => ring.reading? addr (((ring.remove? addr).map Prod.snd).getD ring)
  | .next alive => (ring.next? alive).map Prod.snd

def run? (ring : RoundRobin α) (changes : List (Change α)) : Option (RoundRobin α) :=
  changes.foldlM applied? ring

theorem Indexed.lt_length (hindexed : ring.Indexed) {index : Nat}
    (hplace : ring.positions.lookup addr = some index) : index < ring.members.length := by
  have haddr := (hindexed addr index).mp hplace
  have hbound := (List.getElem?_eq_some_iff.mp haddr).1
  rwa [addrs, List.length_map] at hbound

theorem Indexed.reading?_eq (hindexed : ring.Indexed) (addr : String) (answer : β) :
    ring.reading? addr answer = some answer := by
  unfold reading?
  split
  · rfl
  · rename_i index hplace
    rw [List.getElem?_eq_getElem (hindexed.lt_length hplace)]
    rfl

theorem Indexed.add?_eq (hindexed : ring.Indexed) (hnew : addr ∉ ring.addrs) (member : α) :
    ring.add? addr member = some (ring.add addr member) := by
  have habsent : ¬ring.contains addr = true := fun hcontains => hnew (hindexed.contains_iff.mp hcontains)
  rw [add?, if_neg habsent]

/-! ### Changes of a list of entries -/

def edit (entries : List (String × α)) : Change α → List (String × α)
  | .add addr member => entries ++ [(addr, member)]
  | .delete addr => entries.filter (·.1 != addr)
  | .next _ => entries

/-- A change that adds no address which is there. -/
def Change.Admissible (entries : List (String × α)) : Change α → Prop
  | .add addr _ => addr ∉ entries.map Prod.fst
  | _ => True

def Admissible : List (String × α) → List (Change α) → Prop
  | _, [] => True
  | entries, change :: later => change.Admissible entries ∧ Admissible (edit entries change) later

/-- No change fails, and after it the index and the edited members agree. -/
theorem Indexed.applied? (hindexed : ring.Indexed) {change : Change α}
    (hadmissible : change.Admissible ring.members) :
    ∃ later, ring.applied? change = some later ∧ later.Indexed ∧ later.members = edit ring.members change := by
  cases change with
  | add addr member =>
      have hnew : addr ∉ ring.addrs := hadmissible
      exact ⟨ring.add addr member, hindexed.add?_eq hnew member, hindexed.add hnew, rfl⟩
  | delete addr =>
      have hread := hindexed.reading?_eq addr (((ring.remove? addr).map Prod.snd).getD ring)
      rw [hindexed.remove?_eq] at hread
      cases hfound : ring.find? addr with
      | none =>
          have habsent := hindexed.find?_eq_none_iff.mp hfound
          have hkept : ring.members.filter (·.1 != addr) = ring.members := by
            rw [List.filter_eq_self]
            intro entry hentry
            rw [bne_iff_ne]
            rintro rfl
            exact habsent (List.mem_map_of_mem hentry)
          rw [hfound] at hread
          refine ⟨ring, ?_, hindexed, hkept.symm⟩
          rw [RoundRobin.applied?, hindexed.remove?_eq, hfound]
          exact hread
      | some member =>
          rw [hfound] at hread
          refine ⟨ring.without addr, ?_, hindexed.without, rfl⟩
          rw [RoundRobin.applied?, hindexed.remove?_eq, hfound]
          exact hread
  | next alive =>
      obtain ⟨hmembers, hpositions⟩ := next_snd alive ring
      refine ⟨(ring.next alive).2, ?_, hindexed.congr hmembers hpositions, hmembers⟩
      rw [RoundRobin.applied?, next?_eq]
      rfl

theorem Indexed.run? (hindexed : ring.Indexed) {changes : List (Change α)}
    (hadmissible : Admissible ring.members changes) :
    ∃ later, ring.run? changes = some later ∧ later.Indexed ∧
      later.members = changes.foldl edit ring.members := by
  induction changes generalizing ring with
  | nil => exact ⟨ring, rfl, hindexed, rfl⟩
  | cons change changes ih =>
      obtain ⟨hfirst, hrest⟩ := hadmissible
      obtain ⟨middle, happlied, hmiddle, hedited⟩ := hindexed.applied? hfirst
      rw [← hedited] at hrest
      obtain ⟨later, hrun, hlater, hmembers⟩ := ih hmiddle hrest
      refine ⟨later, ?_, hlater, ?_⟩
      · rw [RoundRobin.run?, List.foldlM_cons, happlied]
        exact hrun
      · rw [hmembers, hedited, List.foldl_cons]

/-! ### The entries that are left -/

def Change.deletes (addr : String) : Change α → Bool
  | .delete other => other == addr
  | _ => false

theorem any_deletes_iff {changes : List (Change α)} :
    changes.any (Change.deletes addr) = true ↔ .delete addr ∈ changes := by
  rw [List.any_eq_true]
  constructor
  · rintro ⟨change, hmem, hdeletes⟩
    cases change with
    | delete other =>
        rw [Change.deletes, beq_iff_eq] at hdeletes
        exact hdeletes ▸ hmem
    | _ => cases hdeletes
  · intro hmem
    exact ⟨_, hmem, beq_self_eq_true addr⟩

/-- The entries that changes in a row add and do not remove later on. -/
def surviving : List (Change α) → List (String × α)
  | [] => []
  | .add addr member :: later =>
      if later.any (Change.deletes addr) then surviving later else (addr, member) :: surviving later
  | .delete _ :: later => surviving later
  | .next _ :: later => surviving later

theorem foldl_edit (changes : List (Change α)) (entries : List (String × α)) :
    changes.foldl edit entries =
      (entries.filter fun entry => !changes.any (Change.deletes entry.1)) ++ surviving changes := by
  induction changes generalizing entries with
  | nil => simp [surviving]
  | cons change later ih =>
      rw [List.foldl_cons, ih]
      cases change with
      | add addr member =>
          by_cases hdeleted : later.any (Change.deletes addr) = true <;>
            simp [edit, surviving, Change.deletes, hdeleted]
      | delete addr =>
          rw [edit, List.filter_filter, surviving]
          congr 1
          apply List.filter_congr
          intro entry _
          rw [List.any_cons, Change.deletes, Bool.not_or, Bool.and_comm, bne, Bool.beq_comm]
      | next alive => simp [edit, surviving, Change.deletes]

/-- An entry is left if it was added and its address not removed since. -/
theorem mem_surviving_iff {changes : List (Change α)} : (addr, member) ∈ surviving changes ↔
    ∃ before later, changes = before ++ .add addr member :: later ∧ .delete addr ∉ later := by
  induction changes with
  | nil => simp [surviving]
  | cons change changes ih =>
      have hcons : (∃ before later, change :: changes = before ++ .add addr member :: later ∧
          .delete addr ∉ later) ↔
          (change = .add addr member ∧ .delete addr ∉ changes) ∨ (addr, member) ∈ surviving changes := by
        rw [ih]
        constructor
        · rintro ⟨before, later, hsplit, hkept⟩
          cases before with
          | nil =>
              cases hsplit
              exact Or.inl ⟨rfl, hkept⟩
          | cons first before =>
              cases hsplit
              exact Or.inr ⟨before, later, rfl, hkept⟩
        · rintro (⟨rfl, hkept⟩ | ⟨before, later, rfl, hkept⟩)
          · exact ⟨[], changes, rfl, hkept⟩
          · exact ⟨change :: before, later, rfl, hkept⟩
      rw [hcons]
      cases change with
      | add other another =>
          rw [surviving, ← any_deletes_iff]
          split
          · rename_i hdeleted
            constructor
            · exact Or.inr
            · rintro (⟨hsame, hkept⟩ | hmem)
              · cases hsame
                exact absurd hdeleted hkept
              · exact hmem
          · rename_i hkept
            rw [List.mem_cons, Change.add.injEq, Prod.mk.injEq]
            constructor
            · rintro (⟨rfl, rfl⟩ | hmem)
              · exact Or.inl ⟨⟨rfl, rfl⟩, hkept⟩
              · exact Or.inr hmem
            · rintro (⟨⟨rfl, rfl⟩, -⟩ | hmem)
              · exact Or.inl ⟨rfl, rfl⟩
              · exact Or.inr hmem
      | delete other => simp [surviving]
      | next alive => simp [surviving]

/-! ### Refinement -/

/-- A rotation answers as a list of entries does, and none of its reads fails. -/
structure Represents (ring : RoundRobin α) (entries : List (String × α)) : Prop where
  members_eq : ring.members = entries
  addrs_nodup : (entries.map Prod.fst).Nodup
  in_range : ∀ {addr : String} {index : Nat},
    ring.positions.lookup addr = some index → index < ring.members.length
  find : ∀ addr, ring.reading? addr (ring.find? addr) = some (entries.lookup addr)
  contains : ∀ addr, ring.contains addr = (entries.lookup addr).isSome
  /-- Removing gives what finding does, and filters the address out. -/
  remove : ∀ addr, ∃ rest, ring.reading? addr (ring.remove? addr) =
    some ((entries.lookup addr).map fun member => (member, rest)) ∧
      rest.members = entries.filter (·.1 != addr)
  addrs_eq : ring.addrs = entries.map Prod.fst
  size_eq : ring.size = entries.length
  isEmpty_eq : ring.isEmpty = entries.isEmpty

theorem Indexed.represents (hindexed : ring.Indexed) : ring.Represents ring.members where
  members_eq := rfl
  addrs_nodup := hindexed.addrs_nodup
  in_range := hindexed.lt_length
  find := fun addr => by rw [hindexed.reading?_eq, hindexed.find?_eq]
  contains := fun addr => by
    rw [Bool.eq_iff_iff, hindexed.contains_iff, ← hindexed.find?_eq, ← not_iff_not,
      ← hindexed.find?_eq_none_iff, Option.not_isSome_iff_eq_none]
  remove := fun addr => by
    refine ⟨ring.without addr, ?_, rfl⟩
    rw [hindexed.reading?_eq, hindexed.remove?_eq, hindexed.find?_eq]
  addrs_eq := rfl
  size_eq := rfl
  isEmpty_eq := rfl

/-- Whatever is done to a rotation, as long as it adds no address that is there, no assertion and no read
fails, and the rotation answers as the list of the entries that were added and not removed since. So an
address leads to the member that was added under it last, alive or not, unless that was removed. -/
theorem represents_surviving (changes : List (Change α)) (hadmissible : Admissible [] changes) :
    ∃ ring, (empty : RoundRobin α).run? changes = some ring ∧ ring.Represents (surviving changes) ∧
      ∀ addr member, ring.find? addr = some member ↔
        ∃ before later, changes = before ++ .add addr member :: later ∧ .delete addr ∉ later := by
  obtain ⟨ring, hrun, hindexed, hmembers⟩ := indexed_empty.run? hadmissible
  have hleft : ring.members = surviving changes := by
    rw [hmembers, foldl_edit]
    rfl
  refine ⟨ring, hrun, hleft ▸ hindexed.represents, fun addr member => ?_⟩
  rw [hindexed.find?_eq_some_iff, hleft, mem_surviving_iff]

/-- One of four members is removed from the middle, and comes back at the end with another one. -/
theorem represents_surviving_returning :
    let changes : List (Change Char) :=
      [.add "a" 'a', .add "b" 'b', .add "c" 'c', .delete "b", .next fun _ => false, .add "b" 'd',
        .delete "e"]
    Admissible [] changes ∧ ∃ ring, (empty : RoundRobin Char).run? changes = some ring ∧
      ring.Represents [("a", 'a'), ("c", 'c'), ("b", 'd')] := by
  intro changes
  have hadmissible : Admissible [] changes := by
    simp [changes, Admissible, Change.Admissible, edit]
  obtain ⟨ring, hrun, hrepresents, -⟩ := represents_surviving changes hadmissible
  exact ⟨hadmissible, ring, hrun, hrepresents⟩

end RoundRobin

end ReplicaPool
