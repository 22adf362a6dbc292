import ReplicaPool.Proofs.RoundRobin.Rotation

/-!
# Taking turns

`RoundRobin.turns` lists the live members in the order in which a rotation picks them: each pick takes the
first and sends it to the end, however many dead members are passed over. This goes on for as long as the
cursor has room in its word, so the picks are `InRotation` with the turns.
-/

namespace ReplicaPool

/-! ### Rotation -/

section Rotation

variable {β : Type} {turns picks others : List β} {first : β} {rounds : Nat}

def InRotation (turns picks : List β) : Prop :=
  ∀ place < picks.length, picks[place]? = turns[place % turns.length]?

theorem inRotation_nil (turns : List β) : InRotation turns [] :=
  fun place hplace => absurd hplace (Nat.not_lt_zero place)

theorem InRotation.cons (hfirst : turns.head? = some first) (hrest : InRotation (turns.rotate 1) picks) :
    InRotation turns (first :: picks) := by
  have hpositive : 0 < turns.length := by
    apply List.length_pos_of_ne_nil
    rintro rfl
    cases hfirst
  intro place hplace
  cases place with
  | zero => rw [Nat.zero_mod, List.getElem?_cons_zero, ← hfirst, List.head?_eq_getElem?]
  | succ place =>
      have hnext := hrest place (Nat.lt_of_succ_lt_succ hplace)
      rw [List.length_rotate, List.getElem?_rotate (Nat.mod_lt _ hpositive), Nat.mod_add_mod] at hnext
      rw [List.getElem?_cons_succ, hnext]

/-- As many picks in a row as there are turns go through all of them. -/
theorem InRotation.window (hrotation : InRotation turns picks) {start : Nat}
    (hbound : start + turns.length ≤ picks.length) :
    (picks.drop start).take turns.length = turns.rotate start := by
  apply List.ext_getElem?
  intro place
  by_cases hplace : place < turns.length
  · rw [List.getElem?_take_of_lt hplace, List.getElem?_drop, hrotation _ (by omega),
      List.getElem?_rotate hplace, Nat.add_comm start place]
  · rw [List.getElem?_eq_none (by simp; omega), List.getElem?_eq_none (by simpa using hplace)]

theorem InRotation.count [DecidableEq β] (hrotation : InRotation turns picks) (hnodup : turns.Nodup)
    (hbound : rounds * turns.length ≤ picks.length) (hmem : first ∈ turns) :
    (picks.take (rounds * turns.length)).count first = rounds := by
  induction rounds with
  | zero => simp
  | succ rounds ih =>
      rw [Nat.succ_mul] at hbound ⊢
      have hround : (turns.rotate (rounds * turns.length)).count first = 1 := by
        rw [(List.rotate_perm turns _).count_eq, List.count_eq_one_of_mem hnodup hmem]
      rw [List.take_add, List.count_append, ih (by omega), hrotation.window hbound, hround]

theorem InRotation.eq_of_length (hrotation : InRotation turns picks) (hothers : InRotation turns others)
    (hlength : others.length = picks.length) : others = picks := by
  apply List.ext_getElem?
  intro place
  by_cases hplace : place < picks.length
  · rw [hothers place (hlength ▸ hplace), hrotation place hplace]
  · rw [List.getElem?_eq_none (by omega), List.getElem?_eq_none (by omega)]

theorem InRotation.eq_nil (hrotation : InRotation [] picks) : picks = [] := by
  apply List.eq_nil_iff_length_eq_zero.mpr
  by_contra hsome
  have hnone := hrotation 0 (Nat.pos_of_ne_zero hsome)
  rw [List.getElem?_nil, List.getElem?_eq_none_iff] at hnone
  exact hsome (Nat.le_zero.mp hnone)

end Rotation

namespace RoundRobin

variable {α : Type} {ring later : RoundRobin α} {alive alive' : α → Bool} {offset : Nat}

def turns (alive : α → Bool) (ring : RoundRobin α) : List (String × α) :=
  (ring.members.rotate (ring.cursor.toNat + 1)).filter fun entry => alive entry.2

/-- The cursor can be advanced, or moved to any member, without passing the end of its word. -/
def HasRoom (ring : RoundRobin α) : Prop :=
  ring.cursor.toNat + 1 < UInt64.size ∧ ring.members.length ≤ UInt64.size

instance (ring : RoundRobin α) : Decidable ring.HasRoom :=
  inferInstanceAs (Decidable (_ ∧ _))

theorem turns_congr (hmembers : later.members = ring.members) (hcursor : later.cursor = ring.cursor)
    (halive : ∀ entry ∈ ring.members, alive' entry.2 = alive entry.2) :
    later.turns alive' = ring.turns alive := by
  unfold turns
  rw [hmembers, hcursor]
  apply List.filter_congr
  intro entry hmem
  exact halive entry (List.mem_rotate.mp hmem)

theorem turns_perm (alive : α → Bool) (ring : RoundRobin α) :
    (ring.turns alive).Perm (ring.members.filter fun entry => alive entry.2) :=
  (List.rotate_perm ring.members _).filter _

/-- The turns follow the order of the members, from some place on and around the end. -/
theorem turns_isRotated (alive : α → Bool) (ring : RoundRobin α) :
    (ring.members.filter fun entry => alive entry.2).IsRotated (ring.turns alive) := by
  unfold turns
  generalize ring.cursor.toNat + 1 = places
  rw [List.rotate_eq_drop_append_take_mod, List.filter_append]
  have hsplit := List.filter_append (p := fun entry : String × α => alive entry.2)
    (ring.members.take (places % ring.members.length)) (ring.members.drop (places % ring.members.length))
  rw [List.take_append_drop] at hsplit
  rw [hsplit]
  exact List.isRotated_append

theorem toNat_cursor_add_one (hroom : ring.HasRoom) :
    (ring.cursor + 1).toNat = ring.cursor.toNat + 1 := by
  rw [UInt64.toNat_add]
  exact Nat.mod_eq_of_lt hroom.1

theorem upcoming_eq (hroom : ring.HasRoom) :
    ring.upcoming = ring.members.rotate (ring.cursor.toNat + 1) := by
  rw [upcoming, toNat_cursor_add_one hroom]

theorem next_eq_head? (alive : α → Bool) (hroom : ring.HasRoom) :
    (ring.next alive).1 = (ring.turns alive).head?.map Prod.snd := by
  rw [next_fst, upcoming_eq hroom, turns, List.head?_filter]

/-- Sending the first live entry to the end is a turn, whatever dead entries go along. -/
theorem filter_rotate_of_first {β : Type} {live : β → Bool} {before after : List β} {first : β}
    (hbefore : ∀ entry ∈ before, live entry = false) (hfirst : live first = true) :
    ((before ++ first :: after).rotate (before.length + 1)).filter live =
      ((before ++ first :: after).filter live).rotate 1 := by
  have hdead : before.filter live = [] := by
    simpa using hbefore
  have hrotate := List.rotate_append_length_eq (before ++ [first]) after
  rw [List.length_append, List.length_singleton, List.append_assoc, List.singleton_append] at hrotate
  rw [hrotate]
  simp [hdead, hfirst]

/-! ### One pick -/

def placeAt (ring : RoundRobin α) (offset : Nat) : Nat :=
  ((ring.cursor + 1).toNat % ring.members.length + offset) % ring.members.length

def passed? (alive : α → Bool) (ring : RoundRobin α) : Option Nat :=
  (List.range ring.members.length).find? fun offset => ring.isAliveAt alive (ring.placeAt offset)

def cursorAfter (ring : RoundRobin α) (offset : Nat) : UInt64 :=
  if offset = 0 then ring.cursor + 1 else UInt64.ofNat (ring.placeAt offset)

theorem next_eq (alive : α → Bool) (ring : RoundRobin α) : ring.next alive =
    if ring.members.length = 0 then (none, ring)
    else
      match ring.passed? alive with
      | none => (none, { ring with cursor := ring.cursor + 1 })
      | some offset => ((ring.members[ring.placeAt offset]?).map Prod.snd,
          { ring with cursor := ring.cursorAfter offset }) := rfl

theorem passed?_eq_some_iff : ring.passed? alive = some offset ↔
    offset < ring.members.length ∧ ring.isAliveAt alive (ring.placeAt offset) = true ∧
      ∀ earlier < offset, ring.isAliveAt alive (ring.placeAt earlier) = false := by
  rw [passed?, List.find?_range_eq_some, List.mem_range]
  simp only [Bool.not_eq_true', and_left_comm]

theorem next_of_passed (hpassed : ring.passed? alive = some offset) :
    ring.next alive = ((ring.members[ring.placeAt offset]?).map Prod.snd,
      { ring with cursor := ring.cursorAfter offset }) := by
  have hoffset := (passed?_eq_some_iff.mp hpassed).1
  rw [next_eq, if_neg (Nat.ne_zero_of_lt hoffset), hpassed]

theorem placeAt_lt (hsize : ring.members.length ≠ 0) (offset : Nat) :
    ring.placeAt offset < ring.members.length :=
  Nat.mod_lt _ (Nat.pos_of_ne_zero hsize)

/-- The cursor is left on the place of the member that is picked. -/
theorem cursorAfter_mod (hwords : ring.members.length ≤ UInt64.size)
    (hoffset : offset < ring.members.length) :
    (ring.cursorAfter offset).toNat % ring.members.length = ring.placeAt offset := by
  have hplace := placeAt_lt (Nat.ne_zero_of_lt hoffset) offset
  unfold cursorAfter
  split_ifs with hstay
  · rw [hstay, placeAt, Nat.add_zero, Nat.mod_mod]
  · rw [UInt64.toNat_ofNat_of_lt' (Nat.lt_of_lt_of_le hplace hwords), Nat.mod_eq_of_lt hplace]

/-! ### From turn to turn -/

theorem getElem?_placeAt (hroom : ring.HasRoom) (hoffset : offset < ring.members.length) :
    ring.members[ring.placeAt offset]? = (ring.members.rotate (ring.cursor.toNat + 1))[offset]? := by
  rw [List.getElem?_rotate hoffset, placeAt, toNat_cursor_add_one hroom, Nat.mod_add_mod, Nat.add_comm]

/-- The members behind the cursor after a pick that has passed over some. -/
theorem rotate_next (hroom : ring.HasRoom) (hpassed : ring.passed? alive = some offset) :
    ring.members.rotate ((ring.next alive).2.cursor.toNat + 1) =
      (ring.members.rotate (ring.cursor.toNat + 1)).rotate (offset + 1) := by
  have hoffset := (passed?_eq_some_iff.mp hpassed).1
  have hplace : ((ring.cursorAfter offset).toNat + 1) % ring.members.length =
      (ring.cursor.toNat + 1 + (offset + 1)) % ring.members.length := by
    rw [← Nat.mod_add_mod, cursorAfter_mod hroom.2 hoffset, placeAt, toNat_cursor_add_one hroom]
    simp only [Nat.mod_add_mod, Nat.add_assoc]
  rw [next_of_passed hpassed, List.rotate_rotate, ← List.rotate_mod, hplace, List.rotate_mod]

/-- Where a scan comes to the first live entry. -/
theorem exists_split_of_first {β : Type} {live : β → Bool} {scan : List β} {offset : Nat}
    (hlive : scan[offset]?.any live = true)
    (hdead : ∀ earlier < offset, scan[earlier]?.any live = false) :
    ∃ before first after, scan = before ++ first :: after ∧ before.length = offset ∧
      (∀ entry ∈ before, live entry = false) ∧ live first = true := by
  obtain ⟨first, hfirst, hlive⟩ := (Option.any_eq_true live _).mp hlive
  obtain ⟨hbound, rfl⟩ := List.getElem?_eq_some_iff.mp hfirst
  have htake : (scan.take offset).length = offset := List.length_take_of_le hbound.le
  refine ⟨scan.take offset, scan[offset], scan.drop (offset + 1), ?_, htake, ?_, hlive⟩
  · rw [← List.drop_eq_getElem_cons hbound, List.take_append_drop]
  · intro passed hpassed
    obtain ⟨earlier, hearlier, rfl⟩ := List.mem_iff_getElem.mp hpassed
    rw [htake] at hearlier
    have hpassedBy := hdead earlier hearlier
    rw [List.getElem?_eq_getElem (by omega)] at hpassedBy
    simpa using hpassedBy

/-- A pick moves the cursor to the first live member in the order of the scan. -/
theorem exists_rotate_next (hroom : ring.HasRoom) {entry : String × α} (hmem : entry ∈ ring.members)
    (halive : alive entry.2 = true) :
    ∃ before first after, ring.members.rotate (ring.cursor.toNat + 1) = before ++ first :: after ∧
      (∀ entry ∈ before, alive entry.2 = false) ∧ alive first.2 = true ∧
      ring.members.rotate ((ring.next alive).2.cursor.toNat + 1) =
        (before ++ first :: after).rotate (before.length + 1) := by
  have hscan : ∀ offset < ring.members.length, ring.isAliveAt alive (ring.placeAt offset) =
      (ring.members.rotate (ring.cursor.toNat + 1))[offset]?.any fun entry => alive entry.2 := by
    intro offset hoffset
    rw [isAliveAt_eq, getElem?_placeAt hroom hoffset]
  cases hpassed : ring.passed? alive with
  | none =>
      have hentry : entry ∈ ring.members.rotate (ring.cursor.toNat + 1) := List.mem_rotate.mpr hmem
      obtain ⟨offset, hoffset, rfl⟩ := List.mem_iff_getElem.mp hentry
      have hplace : offset < ring.members.length := List.length_rotate ring.members _ ▸ hoffset
      have hdead := List.find?_range_eq_none.mp hpassed offset hplace
      rw [hscan offset hplace, List.getElem?_eq_getElem hoffset, Option.any_some, halive] at hdead
      cases hdead
  | some offset =>
      obtain ⟨hplace, hlive, hbefore⟩ := passed?_eq_some_iff.mp hpassed
      rw [hscan offset hplace] at hlive
      have hdead : ∀ earlier < offset, (ring.members.rotate (ring.cursor.toNat + 1))[earlier]?.any
          (fun entry => alive entry.2) = false := by
        intro earlier hearlier
        rw [← hscan earlier (by omega), hbefore earlier hearlier]
      obtain ⟨before, first, after, hsplit, hlength, hskipped, hfirst⟩ :=
        exists_split_of_first hlive hdead
      refine ⟨before, first, after, hsplit, hskipped, hfirst, ?_⟩
      rw [rotate_next hroom hpassed, hsplit, hlength]

/-- After a pick it is the turn of the next live member. -/
theorem turns_next (alive : α → Bool) (hroom : ring.HasRoom) :
    (ring.next alive).2.turns alive = (ring.turns alive).rotate 1 := by
  have hmembers := (next_snd alive ring).1
  by_cases hsomebody : ∃ entry ∈ ring.members, alive entry.2 = true
  · obtain ⟨entry, hmem, halive⟩ := hsomebody
    obtain ⟨before, first, after, hscan, hbefore, hfirst, hmoved⟩ := exists_rotate_next hroom hmem halive
    rw [turns, turns, hmembers, hmoved, hscan, filter_rotate_of_first hbefore hfirst]
  · have hnone : ∀ places, (ring.members.rotate places).filter (fun entry => alive entry.2) = [] := by
      intro places
      rw [List.filter_eq_nil_iff]
      exact fun entry hmem halive => hsomebody ⟨entry, List.mem_rotate.mp hmem, halive⟩
    rw [turns, turns, hmembers, hnone, hnone, List.rotate_nil]

end RoundRobin

end ReplicaPool
