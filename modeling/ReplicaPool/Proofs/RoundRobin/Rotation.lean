import Mathlib.Data.List.Rotate
import ReplicaPool.Proofs.RoundRobin.Index

/-!
# Whom a rotation picks

The members, read from the place after the cursor and around the end, are a rotation of the list in the
sense of `List.rotate`. `next` picks the first live member of it, so it finds somebody exactly if anybody
is alive.
-/

namespace ReplicaPool

namespace RoundRobin

variable {α : Type} {ring : RoundRobin α} {alive : α → Bool} {member : α}

/-- The members in the order in which the next scan comes to them. -/
def upcoming (ring : RoundRobin α) : List (String × α) :=
  ring.members.rotate (ring.cursor + 1).toNat

theorem mem_upcoming {entry : String × α} : entry ∈ ring.upcoming ↔ entry ∈ ring.members :=
  List.mem_rotate

theorem isAliveAt_eq (alive : α → Bool) (ring : RoundRobin α) (index : Nat) :
    ring.isAliveAt alive index = (ring.members[index]?).any fun entry => alive entry.2 := by
  unfold isAliveAt
  cases ring.members[index]? <;> rfl

/-- A scan by offsets from the cursor goes through the upcoming members. -/
theorem map_place_eq (ring : RoundRobin α) :
    (List.range ring.members.length).map (fun offset =>
        ring.members[((ring.cursor + 1).toNat % ring.members.length + offset) %
          ring.members.length]?) = ring.upcoming.map some := by
  apply List.ext_getElem?
  intro offset
  rw [List.getElem?_map, List.getElem?_map]
  by_cases hoffset : offset < ring.members.length
  · have hplace : ((ring.cursor + 1).toNat % ring.members.length + offset) % ring.members.length =
        (offset + (ring.cursor + 1).toNat) % ring.members.length := by
      rw [Nat.mod_add_mod, Nat.add_comm]
    have hbound : (offset + (ring.cursor + 1).toNat) % ring.members.length <
        ring.members.length := Nat.mod_lt _ (Nat.zero_lt_of_lt hoffset)
    rw [List.getElem?_range hoffset, Option.map_some, upcoming, List.getElem?_rotate hoffset, hplace,
      List.getElem?_eq_getElem hbound]
    rfl
  · have hrange : (List.range ring.members.length)[offset]? = none := by
      rw [List.getElem?_eq_none]
      simpa using hoffset
    have hupcoming : ring.upcoming[offset]? = none := by
      rw [List.getElem?_eq_none]
      simpa [upcoming] using hoffset
    rw [hrange, hupcoming]
    rfl

theorem next_fst (alive : α → Bool) (ring : RoundRobin α) :
    (ring.next alive).1 =
      (ring.upcoming.find? fun entry => alive entry.2).map Prod.snd := by
  have hscan := congrArg (List.find? (Option.any fun entry => alive entry.2)) (map_place_eq ring)
  rw [List.find?_map, List.find?_map] at hscan
  unfold next
  by_cases hsize : ring.members.length = 0
  · have hempty : ring.upcoming = [] := by
      rw [List.length_eq_zero_iff] at hsize
      rw [upcoming, hsize, List.rotate_nil]
    simp [hsize, hempty]
  · simp only [if_neg hsize, isAliveAt_eq]
    have hsame : ∀ entry : String × α,
        ((Option.any fun entry : String × α => alive entry.2) ∘ some) entry = alive entry.2 :=
      fun _ => rfl
    rw [funext hsame] at hscan
    split
    · rename_i hnone
      rw [Function.comp_def, hnone, Option.map_none] at hscan
      rw [Option.map_eq_none_iff.mp hscan.symm, Option.map_none]
    · rename_i offset hoffset
      rw [Function.comp_def, hoffset, Option.map_some] at hscan
      obtain ⟨entry, hentry, hplace⟩ := Option.map_eq_some_iff.mp hscan.symm
      rw [hentry, ← hplace]

theorem next_eq_none_iff :
    (ring.next alive).1 = none ↔ ∀ entry ∈ ring.members, alive entry.2 = false := by
  simp only [next_fst, Option.map_eq_none_iff, List.find?_eq_none, mem_upcoming,
    Bool.not_eq_true]

theorem exists_mem_of_next_eq_some (hnext : (ring.next alive).1 = some member) :
    ∃ entry ∈ ring.members, entry.2 = member ∧ alive member = true := by
  rw [next_fst, Option.map_eq_some_iff] at hnext
  obtain ⟨entry, hfind, rfl⟩ := hnext
  have halive := List.find?_some hfind
  exact ⟨entry, mem_upcoming.mp (List.mem_of_find?_eq_some hfind), rfl, halive⟩

end RoundRobin

end ReplicaPool
