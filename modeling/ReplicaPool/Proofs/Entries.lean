import Mathlib.Data.List.Nodup

/-!
# Lists of entries

Finding the entry of a key in a list, and erasing it. With distinct keys an entry is determined by its key.
-/

namespace ReplicaPool

variable {β : Type} {entries : List (String × β)} {addr other : String} {value : β}

theorem mem_of_lookup_eq_some (hfound : entries.lookup addr = some value) :
    (addr, value) ∈ entries := by
  obtain ⟨before, after, rfl, -⟩ := List.lookup_eq_some_iff.mp hfound
  simp

theorem lookup_eq_some_of_mem (hnodup : (entries.map Prod.fst).Nodup)
    (hmem : (addr, value) ∈ entries) : entries.lookup addr = some value := by
  induction entries with
  | nil => cases hmem
  | cons head rest ih =>
      rw [List.map_cons, List.nodup_cons] at hnodup
      rw [List.lookup_cons]
      rcases List.mem_cons.mp hmem with heq | hrest
      · subst heq
        simp
      · have hne : addr ≠ head.1 := by
          rintro rfl
          exact hnodup.1 (List.mem_map.mpr ⟨_, hrest, rfl⟩)
        rw [beq_false_of_ne hne]
        exact ih hnodup.2 hrest

theorem lookup_eq_none_iff_notMem :
    entries.lookup addr = none ↔ addr ∉ entries.map Prod.fst := by
  rw [List.lookup_eq_none_iff]
  constructor
  · intro habsent hmem
    obtain ⟨entry, hentry, rfl⟩ := List.mem_map.mp hmem
    simpa using habsent entry hentry
  · intro hnotMem entry hentry
    rw [bne_iff_ne]
    rintro rfl
    exact hnotMem (List.mem_map.mpr ⟨entry, hentry, rfl⟩)

/-- With distinct keys, erasing the place of a key is filtering the key out. -/
theorem eraseIdx_eq_filter {index : Nat} (hnodup : (entries.map Prod.fst).Nodup)
    (hplace : (entries.map Prod.fst)[index]? = some addr) :
    entries.eraseIdx index = entries.filter (·.1 != addr) := by
  induction entries generalizing index with
  | nil => simp at hplace
  | cons head rest ih =>
      rw [List.map_cons, List.nodup_cons] at hnodup
      cases index with
      | zero =>
          have hhead : head.1 = addr := by simpa using hplace
          have hkept : rest.filter (·.1 != addr) = rest := by
            rw [List.filter_eq_self]
            intro entry hentry
            rw [bne_iff_ne]
            rintro rfl
            exact hnodup.1 (hhead ▸ List.mem_map.mpr ⟨entry, hentry, rfl⟩)
          simp [hhead, hkept]
      | succ index =>
          have hrest : (rest.map Prod.fst)[index]? = some addr := by simpa using hplace
          have hne : head.1 ≠ addr := by
            rintro rfl
            exact hnodup.1 (List.mem_of_getElem? hrest)
          rw [List.eraseIdx_cons_succ, ih hnodup.2 hrest, List.filter_cons_of_pos (by simpa using hne)]

end ReplicaPool
