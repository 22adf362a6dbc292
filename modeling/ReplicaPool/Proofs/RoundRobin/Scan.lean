import ReplicaPool.Proofs.RoundRobin.Turns

/-!
# Scans

A pick reads the members from the place that the advanced cursor points to, on and around the end, until it
comes to a live one. `RoundRobin.next?` is such a scan with its reads asserted. Whatever word the cursor is,
the first live member is picked and the cursor points to it afterwards, up to multiples of the size. So
several picks, none of which takes the cursor past the end of its word, go through the live members in turn.
-/

namespace ReplicaPool

namespace RoundRobin

variable {α : Type} {ring : RoundRobin α} {alive : α → Bool} {member : α} {offset calls : Nat}

theorem placeAt_eq (ring : RoundRobin α) (offset : Nat) : ring.placeAt offset =
    ((ring.cursor.toNat + 1) % UInt64.size % ring.members.length + offset) % ring.members.length := by
  rw [placeAt, UInt64.toNat_add]
  rfl

/-! ### Reads -/

/-- The first of some steps of a scan that comes to a live member. It fails at a step that leads past the
members. -/
def scan? (alive : α → Bool) (ring : RoundRobin α) : List Nat → Option (Option Nat)
  | [] => some none
  | offset :: rest => do
      let (_, member) ← ring.members[ring.placeAt offset]?
      if alive member then return some offset else ring.scan? alive rest

/-- `next` with its reads asserted: it fails if it looks for a member where there is none. -/
def next? (alive : α → Bool) (ring : RoundRobin α) : Option (Option α × RoundRobin α) :=
  if ring.members.length = 0 then some (none, ring)
  else do
    match ← ring.scan? alive (List.range ring.members.length) with
    | none => return (none, { ring with cursor := ring.cursor + 1 })
    | some offset =>
        let (_, member) ← ring.members[ring.placeAt offset]?
        return (some member, { ring with cursor := ring.cursorAfter offset })

theorem scan?_eq (alive : α → Bool) (hsize : ring.members.length ≠ 0) (offsets : List Nat) :
    ring.scan? alive offsets =
      some (offsets.find? fun offset => ring.isAliveAt alive (ring.placeAt offset)) := by
  induction offsets with
  | nil => rfl
  | cons offset rest ih =>
      have hbound := placeAt_lt hsize offset
      rw [scan?, List.find?_cons, isAliveAt_eq, List.getElem?_eq_getElem hbound, ih]
      cases halive : alive ring.members[ring.placeAt offset].2 <;> simp [halive]

/-- No read of a pick fails. -/
theorem next?_eq (alive : α → Bool) (ring : RoundRobin α) :
    ring.next? alive = some (ring.next alive) := by
  rw [next?, next_eq]
  split
  · rfl
  · rename_i hsize
    rw [scan?_eq alive hsize, ← passed?]
    cases ring.passed? alive with
    | none => rfl
    | some offset => simp [List.getElem?_eq_getElem (placeAt_lt hsize offset)]

/-! ### What a pick comes to -/

/-- A pick skips dead members: it goes to the first live member that its scan comes to. -/
structure SkipsDead (alive : α → Bool) (ring : RoundRobin α) : Prop where
  /-- The scan begins at the place of the advanced cursor, which wraps, and goes on around the end. -/
  places : ∀ offset, ring.placeAt offset =
    ((ring.cursor.toNat + 1) % UInt64.size % ring.members.length + offset) % ring.members.length
  in_range : ring.next? alive = some (ring.next alive)
  none_iff : (ring.next alive).1 = none ↔ ∀ entry ∈ ring.members, alive entry.2 = false
  first : ∀ {member : α}, (ring.next alive).1 = some member → ∃ addr, ∃ offset < ring.members.length,
    ring.members[ring.placeAt offset]? = some (addr, member) ∧ alive member = true ∧
    (∀ earlier < offset, ∃ entry, ring.members[ring.placeAt earlier]? = some entry ∧
      alive entry.2 = false) ∧
    (ring.next alive).2.cursor.toNat % ring.members.length = ring.placeAt offset
  members_eq : (ring.next alive).2.members = ring.members
  positions_eq : (ring.next alive).2.positions = ring.positions

theorem exists_passed_of_next (hnext : (ring.next alive).1 = some member) :
    ∃ offset, ring.passed? alive = some offset := by
  rw [next_eq] at hnext
  split at hnext
  · cases hnext
  · split at hnext
    · cases hnext
    · rename_i offset hpassed
      exact ⟨offset, hpassed⟩

theorem skipsDead (alive : α → Bool) (hwords : ring.members.length ≤ UInt64.size) :
    ring.SkipsDead alive where
  places := placeAt_eq ring
  in_range := next?_eq alive ring
  none_iff := next_eq_none_iff
  first := by
    intro member hnext
    obtain ⟨offset, hpassed⟩ := exists_passed_of_next hnext
    obtain ⟨hoffset, hlive, hdead⟩ := passed?_eq_some_iff.mp hpassed
    rw [next_of_passed hpassed] at hnext ⊢
    obtain ⟨⟨addr, found⟩, hentry, rfl⟩ := Option.map_eq_some_iff.mp hnext
    refine ⟨addr, offset, hoffset, hentry, ?_, ?_, ?_⟩
    · rwa [isAliveAt_eq, hentry] at hlive
    · intro earlier hearlier
      have hbound := placeAt_lt (Nat.ne_zero_of_lt hoffset) earlier
      have hpassedBy := hdead earlier hearlier
      rw [isAliveAt_eq, List.getElem?_eq_getElem hbound] at hpassedBy
      exact ⟨_, List.getElem?_eq_getElem hbound, hpassedBy⟩
    · exact cursorAfter_mod hwords hoffset
  members_eq := (next_snd alive ring).1
  positions_eq := (next_snd alive ring).2

/-! ### Several picks -/

def picks (alive : α → Bool) : Nat → RoundRobin α → List (Option α)
  | 0, _ => []
  | calls + 1, ring => (ring.next alive).1 :: picks alive calls (ring.next alive).2

/-- None of several calls in a row takes the cursor past the end of its word. -/
def HasRoomFor (alive : α → Bool) : Nat → RoundRobin α → Prop
  | 0, _ => True
  | calls + 1, ring => ring.cursor.toNat + 1 < UInt64.size ∧ HasRoomFor alive calls (ring.next alive).2

instance decidableHasRoomFor (alive : α → Bool) :
    (calls : Nat) → (ring : RoundRobin α) → Decidable (ring.HasRoomFor alive calls)
  | 0, _ => inferInstanceAs (Decidable True)
  | calls + 1, ring =>
      have := decidableHasRoomFor alive calls (ring.next alive).2
      inferInstanceAs (Decidable (_ ∧ _))

structure TakesTurns (alive : α → Bool) (ring : RoundRobin α) (calls : Nat) : Prop where
  length_eq : (ring.picks alive calls).length = calls
  live : ∀ pick ∈ ring.picks alive calls,
    ∃ entry ∈ ring.members, alive entry.2 = true ∧ pick = some entry.2
  /-- The turns follow the order of the members, from some place on and around the end. -/
  order : (ring.members.filter fun entry => alive entry.2).IsRotated (ring.turns alive)
  rotation : InRotation ((ring.turns alive).map fun entry => some entry.2) (ring.picks alive calls)
  /-- As many picks in a row as there are live members go to each of them once. -/
  window : ∀ {start : Nat}, start + (ring.members.filter fun entry => alive entry.2).length ≤ calls →
    (((ring.picks alive calls).drop start).take
        (ring.members.filter fun entry => alive entry.2).length).Perm
      ((ring.members.filter fun entry => alive entry.2).map fun entry => some entry.2)

theorem length_picks (alive : α → Bool) (calls : Nat) (ring : RoundRobin α) :
    (ring.picks alive calls).length = calls := by
  induction calls generalizing ring with
  | zero => rfl
  | succ calls ih => rw [picks, List.length_cons, ih]

theorem turns_ne_nil {entry : String × α} (hmem : entry ∈ ring.members) (halive : alive entry.2 = true) :
    ring.turns alive ≠ [] :=
  List.ne_nil_of_mem ((turns_perm alive ring).mem_iff.mpr (List.mem_filter.mpr ⟨hmem, halive⟩))

theorem inRotation_picks (hwords : ring.members.length ≤ UInt64.size)
    (hroom : ring.HasRoomFor alive calls) (hlive : ring.turns alive ≠ []) :
    InRotation ((ring.turns alive).map fun entry => some entry.2) (ring.picks alive calls) := by
  induction calls generalizing ring with
  | zero => exact inRotation_nil _
  | succ calls ih =>
      obtain ⟨hcursor, hlater⟩ := hroom
      have hfirst : ring.HasRoom := ⟨hcursor, hwords⟩
      have hturns := turns_next alive hfirst
      have hmembers := (next_snd alive ring).1
      have hrest := ih (hmembers ▸ hwords) hlater (by rwa [hturns, Ne, List.rotate_eq_nil_iff])
      rw [hturns, List.map_rotate] at hrest
      rw [picks, next_eq_head? alive hfirst]
      obtain ⟨head, others, hcons⟩ := List.exists_cons_of_ne_nil hlive
      refine .cons ?_ hrest
      rw [hcons]
      rfl

theorem takesTurns (hwords : ring.members.length ≤ UInt64.size) (hroom : ring.HasRoomFor alive calls)
    (hlive : ∃ entry ∈ ring.members, alive entry.2 = true) : ring.TakesTurns alive calls := by
  obtain ⟨entry, hmem, halive⟩ := hlive
  have hsomebody := turns_ne_nil hmem halive
  have hrotation := inRotation_picks hwords hroom hsomebody
  have hperm := turns_perm alive ring
  constructor
  case length_eq => exact length_picks alive calls ring
  case live =>
    intro pick hpick
    obtain ⟨place, hplace, rfl⟩ := List.mem_iff_getElem.mp hpick
    have hturn := hrotation place hplace
    rw [List.getElem?_eq_getElem hplace] at hturn
    obtain ⟨picked, hpicked, hsame⟩ := List.mem_map.mp (List.mem_of_getElem? hturn.symm)
    obtain ⟨hmember, hlive⟩ := List.mem_filter.mp (hperm.mem_iff.mp hpicked)
    exact ⟨picked, hmember, hlive, hsame.symm⟩
  case order => exact turns_isRotated alive ring
  case rotation => exact hrotation
  case window =>
    intro start hbound
    have hlength : ((ring.turns alive).map fun entry => some entry.2).length =
        (ring.members.filter fun entry => alive entry.2).length := by
      rw [List.length_map, hperm.length_eq]
    rw [← length_picks alive calls ring, ← hlength] at hbound
    rw [← hlength, hrotation.window hbound]
    exact (List.rotate_perm _ start).trans (hperm.map _)

/-- Whatever members are alive and whatever word the cursor is, a pick goes to the first live member in the
order of the scan. Calls in a row go through all live members in turn. Places are words, so there are not
more members than words. -/
theorem live_members_in_turn (alive : α → Bool) (ring : RoundRobin α)
    (hwords : ring.members.length ≤ UInt64.size) :
    ring.SkipsDead alive ∧
    ∀ calls, ring.HasRoomFor alive calls → (∃ entry ∈ ring.members, alive entry.2 = true) →
      ring.TakesTurns alive calls :=
  ⟨skipsDead alive hwords, fun _ hroom hlive => takesTurns hwords hroom hlive⟩

def quartet : RoundRobin Char :=
  ((((empty.add "a" 'a').add "b" 'b').add "c" 'c').add "d" 'd')

/-- With two of four members dead, the others take turns, and a pick also gets past the end of the word. -/
theorem live_members_in_turn_quartet :
    quartet.TakesTurns (fun member => member == 'a' || member == 'd') 3 ∧
    quartet.picks (fun member => member == 'a' || member == 'd') 3 = [some 'd', some 'a', some 'd'] ∧
    ({ quartet with cursor := 0xffffffffffffffff } : RoundRobin Char).SkipsDead (· == 'c') ∧
    (({ quartet with cursor := 0xffffffffffffffff } : RoundRobin Char).next (· == 'c')).1 = some 'c' := by
  refine ⟨?_, by decide, ?_, by decide⟩
  · exact (live_members_in_turn _ quartet (by decide)).2 3 (by decide) (by decide)
  · exact (live_members_in_turn _ _ (by decide)).1

end RoundRobin

end ReplicaPool
