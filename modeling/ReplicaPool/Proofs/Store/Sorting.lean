import ReplicaPool.Proofs.Store.Lookup

/-!
# Sorting and searching by keys

Rows can be sorted by their primary keys in one way only: `Arranged` says what comes out, whatever the way
of sorting. The search for the place of a key does not tell equal keys apart, and never finds the same place
for two keys that differ. Both rest on the order of keys, which is a total preorder of all values.
-/

namespace ReplicaPool

open Store (hasKey)

/-- The rows in the order of their primary keys. Rows with equal keys stay in the order in which they
were. -/
structure Arranged (rows arranged : List Json) : Prop where
  perm : arranged.Perm rows
  ascending : arranged.Pairwise fun row next => compareRows row next ≠ .gt
  stable : ∀ key, arranged.filter (hasKey key) = rows.filter (hasKey key)

variable {rows arranged others : List Json} {row other key another : Json}

/-! ### Sorting -/

theorem compareRows_eq_of_ne_gt (hfirst : compareRows row other ≠ .gt)
    (hsecond : compareRows other row ≠ .gt) : compareRows row other = .eq :=
  Std.OrientedCmp.isLE_antisymm (Ordering.isLE_iff_ne_gt.mpr hfirst) (Ordering.isLE_iff_ne_gt.mpr hsecond)

section Ascending

variable {first least : Json} {rest later : List Json}

/-- The first of rows in ascending order is not after any of them. -/
theorem compareRows_head_ne_gt
    (hascending : (first :: rest).Pairwise fun row next => compareRows row next ≠ .gt)
    (hmem : row ∈ first :: rest) : compareRows first row ≠ .gt := by
  rcases List.mem_cons.mp hmem with rfl | hrest
  · rw [compareRows_self]
    nofun
  · exact List.rel_of_pairwise_cons hascending hrest

/-- Both first rows are least, so each has the key of the other, and the first row with that key is the
same. -/
theorem head_eq_of_ascending (htuples : ∀ row ∈ first :: rest, ∃ key, primaryKey? row = some key)
    (hperm : (first :: rest).Perm (least :: later))
    (hascending : (first :: rest).Pairwise fun row next => compareRows row next ≠ .gt)
    (hothers : (least :: later).Pairwise fun row next => compareRows row next ≠ .gt)
    (hstable : ∀ key, (first :: rest).filter (hasKey key) = (least :: later).filter (hasKey key)) :
    first = least := by
  have hmem : least ∈ first :: rest := hperm.mem_iff.mpr List.mem_cons_self
  obtain ⟨key, hfirst⟩ := htuples first List.mem_cons_self
  obtain ⟨another, hleast⟩ := htuples least hmem
  have hsame : compareKeys another key = .eq := by
    rw [← compareRows_eq_compareKeys hleast hfirst]
    exact compareRows_eq_of_ne_gt
      (compareRows_head_ne_gt hothers (hperm.mem_iff.mp List.mem_cons_self))
      (compareRows_head_ne_gt hascending hmem)
  have hkept := hstable key
  rw [List.filter_cons_of_pos (hasKey_iff.mpr ⟨key, hfirst, compareKeys_self key⟩),
    List.filter_cons_of_pos (hasKey_iff.mpr ⟨another, hleast, hsame⟩)] at hkept
  exact (List.cons.inj hkept).1

end Ascending

/-- Two orders of the same rows, both ascending and with equal keys in the same order, are one. -/
theorem eq_of_ascending (htuples : ∀ row ∈ arranged, ∃ key, primaryKey? row = some key)
    (hperm : arranged.Perm others)
    (hascending : arranged.Pairwise fun row next => compareRows row next ≠ .gt)
    (hothers : others.Pairwise fun row next => compareRows row next ≠ .gt)
    (hstable : ∀ key, arranged.filter (hasKey key) = others.filter (hasKey key)) :
    arranged = others := by
  induction arranged generalizing others with
  | nil => exact hperm.nil_eq
  | cons first rest ih =>
      cases others with
      | nil => exact hperm.eq_nil
      | cons least later =>
          obtain rfl := head_eq_of_ascending htuples hperm hascending hothers hstable
          congr 1
          refine ih (fun row hrow => htuples row (List.mem_cons_of_mem _ hrow)) hperm.cons_inv
            hascending.tail hothers.tail fun key => ?_
          have hkept := hstable key
          rw [List.filter_cons, List.filter_cons] at hkept
          split at hkept
          · exact (List.cons.inj hkept).2
          · exact hkept

section Tuples

variable (htuples : ∀ row ∈ rows, ∃ key, primaryKey? row = some key)
include htuples

theorem stable_mergeSort_of_tuples (key : Json) :
    (rows.mergeSort fun row other => compareRows row other != .gt).filter (hasKey key) =
      rows.filter (hasKey key) := by
  have hperm := List.mergeSort_perm rows fun row other => compareRows row other != .gt
  have hequal : (rows.filter (hasKey key)).Pairwise fun row other =>
      (compareKeys (keyOfRow row) (keyOfRow other)).isLE = true := by
    apply List.pairwise_of_forall_mem_list
    intro row hrow other hother
    obtain ⟨hrow, hkey⟩ := List.mem_filter.mp hrow
    obtain ⟨hother, hotherKey⟩ := List.mem_filter.mp hother
    rw [← compareRows_eq_of_tuples htuples hrow hother, compareRows_of_hasKey hkey hotherKey]
    rfl
  -- rows in order are not torn apart by sorting, and those with one key are in order as they are
  have hsublist : (rows.filter (hasKey key)).Sublist
      (rows.mergeSort fun row other => compareRows row other != .gt) := by
    rw [mergeSort_eq_of_tuples htuples]
    exact List.sublist_mergeSort (fun _ _ _ => Std.TransCmp.isLE_trans)
      (fun _ _ => compareKeys_isLE_total _ _) hequal List.filter_sublist
  have hkept := hsublist.filter (hasKey key)
  simp only [List.filter_filter, Bool.and_self] at hkept
  exact (hkept.eq_of_length (hperm.filter _).length_eq.symm).symm

theorem arranged_mergeSort :
    Arranged rows (rows.mergeSort fun row other => compareRows row other != .gt) where
  perm := List.mergeSort_perm _ _
  ascending := pairwise_mergeSort_of_tuples htuples
  stable := stable_mergeSort_of_tuples htuples

/-- Rows with primary keys are sorted in one way only. -/
theorem arranged_iff :
    Arranged rows arranged ↔ arranged = rows.mergeSort fun row other => compareRows row other != .gt := by
  constructor
  · intro harranged
    have hsorted := arranged_mergeSort htuples
    refine eq_of_ascending (fun row hrow => htuples row (harranged.perm.mem_iff.mp hrow))
      (harranged.perm.trans hsorted.perm.symm) harranged.ascending hsorted.ascending fun key => ?_
    rw [harranged.stable, hsorted.stable]
  · rintro rfl
    exact arranged_mergeSort htuples

end Tuples

/-! ### Searching -/

namespace Store

variable {store : Store} {name : String} {index : Nat}

/-- The place of a key is the place of the keys that are equal to it, and of no others. -/
theorem position?_eq_some_iff (hposition : store.position? name key = some index) :
    store.position? name another = some index ↔ compareKeys key another = .eq := by
  constructor
  · intro hanother
    obtain ⟨row, hrow, hkey⟩ := exists_of_position? hposition
    obtain ⟨other, hother, hotherKey⟩ := exists_of_position? hanother
    obtain rfl : row = other := Option.some.inj (hrow.symm.trans hother)
    exact compareKeys_of_hasKey hotherKey hkey
  · intro hsame
    rwa [position?, ← hasKey_congr hsame]

end Store

/-! ### The order of keys -/

/-- Keys are in a total preorder: strings come before numbers and numbers before everything else, and values
of one kind are in the order of their positions and then of their wordings. So equal keys are a class that
nothing in the order tells apart, rows are sorted by their keys in one way only, and a key is found where the
keys equal to it are found, and no other. -/
theorem compareKeys_total_preorder :
    (∀ a b, compareKeys a b = (compare a.grade b.grade).then
      ((compare a.position b.position).then (compare a.wording b.wording))) ∧
    (∀ a, compareKeys a a = .eq) ∧
    (∀ a b, compareKeys b a = (compareKeys a b).swap) ∧
    (∀ a b c, compareKeys a b ≠ .gt → compareKeys b c ≠ .gt → compareKeys a c ≠ .gt) ∧
    (Equivalence fun a b => compareKeys a b = .eq) ∧
    (∀ a b c, compareKeys a b = .eq →
      compareKeys a c = compareKeys b c ∧ compareKeys c a = compareKeys c b) ∧
    (∀ rows arranged, (∀ row ∈ rows, ∃ key, primaryKey? row = some key) →
      (Arranged rows arranged ↔
        arranged = rows.mergeSort fun row next => compareRows row next != .gt)) ∧
    (∀ (store : Store) name index a b, store.position? name a = some index →
      (store.position? name b = some index ↔ compareKeys a b = .eq)) := by
  have htrans : ∀ a b c, compareKeys a b ≠ .gt → compareKeys b c ≠ .gt → compareKeys a c ≠ .gt := by
    intro a b c hfirst hsecond
    have hle := Std.TransCmp.isLE_trans (Ordering.isLE_iff_ne_gt.mpr hfirst)
      (Ordering.isLE_iff_ne_gt.mpr hsecond)
    exact Ordering.isLE_iff_ne_gt.mp hle
  have hequivalence : Equivalence fun a b => compareKeys a b = .eq :=
    ⟨compareKeys_self, Std.OrientedCmp.eq_symm, Std.TransCmp.eq_trans⟩
  refine ⟨fun a b => congrFun (congrFun compareKeys_eq_compareLex a) b, compareKeys_self,
    fun a b => compareKeys_swap b a, htrans, hequivalence, ?_, ?_, ?_⟩
  · exact fun a b c hsame => ⟨Std.TransCmp.congr_left hsame, Std.TransCmp.congr_right hsame⟩
  · exact fun rows arranged htuples => arranged_iff htuples
  · exact fun store name index a b hposition => Store.position?_eq_some_iff hposition

/-- A string, `-0.0` and an array are in this order. The integer `0` is one key with `-0.0`: rows with them
keep their order behind a row with a string, and either finds a row with the other. -/
theorem compareKeys_total_preorder_mixed :
    compareKeys (.string "b") (.double ⟨true, 0, by decide⟩) ≠ .gt ∧
    compareKeys (.double ⟨true, 0, by decide⟩) (.array [.null]) ≠ .gt ∧
    compareKeys (.string "b") (.array [.null]) ≠ .gt ∧
    compareKeys (.integer 0) (.double ⟨true, 0, by decide⟩) = .eq ∧
    compareKeys (.integer 0) (.array [.null]) =
      compareKeys (.double ⟨true, 0, by decide⟩) (.array [.null]) ∧
    Arranged
      [.array [.integer 0, .string "a"], .array [.string "b"],
        .array [.double ⟨true, 0, by decide⟩, .string "c"]]
      [.array [.string "b"], .array [.integer 0, .string "a"],
        .array [.double ⟨true, 0, by decide⟩, .string "c"]] ∧
    (Store.empty.run [.insert (.string "test") (.array [.integer 0])]).position? "test"
      (.integer 0) = some 0 ∧
    (Store.empty.run [.insert (.string "test") (.array [.integer 0])]).position? "test"
      (.double ⟨true, 0, by decide⟩) = some 0 := by
  obtain ⟨-, -, -, htrans, -, hcongr, harranged, hplaces⟩ := compareKeys_total_preorder
  have hstring : compareKeys (.string "b") (.double ⟨true, 0, by decide⟩) = .lt :=
    compareKeys_of_grade_lt (by decide)
  have hlater : compareKeys (.integer 0) (.string "b") = .gt :=
    Std.OrientedCmp.gt_of_lt (compareKeys_of_grade_lt (by decide))
  have hzero : compareKeys (.integer 0) (.double ⟨true, 0, by decide⟩) = .eq := by decide +kernel
  have hbefore : compareKeys (.string "b") (.double ⟨true, 0, by decide⟩) ≠ .gt := by
    rw [hstring]
    nofun
  have harray : compareKeys (.double ⟨true, 0, by decide⟩) (.array [.null]) ≠ .gt := by
    rw [compareKeys_of_grade_lt (by decide)]
    nofun
  have hposition : (Store.empty.run [.insert (.string "test") (.array [.integer 0])]).position? "test"
      (.integer 0) = some 0 := by decide +kernel
  refine ⟨hbefore, harray, htrans _ _ _ hbefore harray, hzero, (hcongr _ _ _ hzero).1, ?_, hposition,
    (hplaces _ _ _ _ _ hposition).mpr hzero⟩
  refine (harranged _ _ (by simp [primaryKey?])).mpr ?_
  simp [List.mergeSort, List.MergeSort.Internal.splitInTwo, compareRows, primaryKey?, hzero, hstring,
    hlater]

end ReplicaPool
