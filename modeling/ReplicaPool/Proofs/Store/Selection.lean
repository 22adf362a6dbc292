import Mathlib.Data.List.Nodup
import ReplicaPool.Proofs.Store.Uniqueness

/-!
# What a select returns

`Listing` says which rows a select goes through, and in which order, without saying how it finds them. Rows
with distinct keys have one listing for each iterator and key, and it depends on the set of the rows only.
So whatever is known of one listing by its rows and their order carries over to every store.
-/

namespace ReplicaPool

open Store (isSelected)

def Iterator.Relates : Iterator → Ordering → Prop
  | .eq, order => order = .eq
  | .req, order => order = .eq
  | .all, _ => True
  | .lt, order => order = .lt
  | .le, order => order = .lt ∨ order = .eq
  | .ge, order => order = .eq ∨ order = .gt
  | .gt, order => order = .gt

def Iterator.direction : Iterator → Ordering
  | .req => .gt
  | .lt => .gt
  | .le => .gt
  | _ => .lt

/-- A row that a select is about: its primary key stands in the iterator's relation to the part of the key
that counts. It is every row for the iterator `all` and for a key without such a part. -/
def Iterator.Wants (iterator : Iterator) (key row : Json) : Prop :=
  iterator = .all ∨ key = .null ∨ key = .array [] ∨
    ∃ part present, keyPart? key = some part ∧ primaryKey? row = some present ∧
      iterator.Relates (compareKeys present part)

/-- The rows that a select is about, strictly in the order of their primary keys. -/
structure Listing (rows : List Json) (iterator : Iterator) (key : Json) (listed : List Json) :
    Prop where
  mem_iff : ∀ row, row ∈ listed ↔ row ∈ rows ∧ iterator.Wants key row
  ordered : listed.Pairwise fun row next => compareRows row next = iterator.direction

variable {rows others listed kept less equal greater : List Json} {row other key part present : Json}
  {iterator : Iterator}

/-! ### Rows that are wanted -/

theorem Iterator.admits_iff (order : Ordering) :
    iterator.admits order = true ↔ iterator.Relates order := by
  cases iterator <;> cases order <;> simp [admits, Relates]

theorem keyPart?_eq_none_iff : keyPart? key = none ↔ key = .null ∨ key = .array [] := by
  cases key with
  | array parts => cases parts <;> simp [keyPart?]
  | _ => simp [keyPart?]

theorem isSelected_iff : isSelected iterator part row = true ↔
    ∃ present, primaryKey? row = some present ∧ iterator.Relates (compareKeys present part) := by
  unfold isSelected
  cases primaryKey? row with
  | none => simp
  | some present => simp [Iterator.admits_iff]

theorem Iterator.wants_of_no_part (hpart : keyPart? key = none) : iterator.Wants key row := by
  rcases keyPart?_eq_none_iff.mp hpart with hnull | hempty
  · exact Or.inr (Or.inl hnull)
  · exact Or.inr (Or.inr (Or.inl hempty))

/-- With a part to compare to, the rows that have a primary key are told apart by it. -/
theorem Iterator.wants_iff (hpart : keyPart? key = some part) (hrow : primaryKey? row = some present) :
    iterator.Wants key row ↔ iterator.Relates (compareKeys present part) := by
  constructor
  · rintro (rfl | hnull | hempty | ⟨another, shown, hanother, hshown, hrelates⟩)
    · exact trivial
    · rw [keyPart?_eq_none_iff.mpr (Or.inl hnull)] at hpart
      cases hpart
    · rw [keyPart?_eq_none_iff.mpr (Or.inr hempty)] at hpart
      cases hpart
    · rw [hpart] at hanother
      rw [hrow] at hshown
      cases hanother
      cases hshown
      exact hrelates
  · exact fun hrelates => Or.inr (Or.inr (Or.inr ⟨part, present, hpart, hrow, hrelates⟩))

/-! ### Listings are unique -/

theorem compareRows_swap (row other : Json) : compareRows row other = (compareRows other row).swap := by
  unfold compareRows
  cases primaryKey? row with
  | none => cases primaryKey? other <;> rfl
  | some key =>
      cases primaryKey? other with
      | none => rfl
      | some another => exact compareKeys_swap key another

instance : Std.OrientedCmp compareRows :=
  ⟨compareRows_swap _ _⟩

theorem compareRows_self (row : Json) : compareRows row row = .eq :=
  Std.ReflCmp.compare_self

theorem Iterator.direction_eq (iterator : Iterator) :
    iterator.direction = if iterator.descends then .gt else .lt := by
  cases iterator <;> rfl

theorem Iterator.direction_ne_eq (iterator : Iterator) : iterator.direction ≠ .eq := by
  cases iterator <;> nofun

theorem Iterator.not_both_directions (hfirst : compareRows row other = iterator.direction)
    (hsecond : compareRows other row = iterator.direction) : False := by
  rw [compareRows_swap, hsecond] at hfirst
  revert hfirst
  cases iterator <;> nofun

theorem Listing.nodup (hlisting : Listing rows iterator key listed) : listed.Nodup := by
  apply hlisting.ordered.imp
  rintro row next hdirection rfl
  rw [compareRows_self] at hdirection
  exact iterator.direction_ne_eq hdirection.symm

/-- A listing depends on nothing but the set of the rows. -/
theorem Listing.unique (hlisting : Listing rows iterator key listed)
    (hanother : Listing others iterator key kept) (hrows : ∀ row, row ∈ rows ↔ row ∈ others) :
    listed = kept := by
  apply List.Perm.eq_of_pairwise _ hlisting.ordered hanother.ordered
  · rw [List.perm_ext_iff_of_nodup hlisting.nodup hanother.nodup]
    intro row
    rw [hlisting.mem_iff, hanother.mem_iff, hrows]
  · intro row other _ _ hfirst hsecond
    exact (Iterator.not_both_directions hfirst hsecond).elim

/-! ### Sorting -/

theorem Keyed.sublist (hkeyed : Keyed rows) (hkept : kept.Sublist rows) : Keyed kept where
  tuples := fun row hmem => hkeyed.tuples row (hkept.subset hmem)
  distinct := hkeyed.distinct.sublist hkept

def keyOfRow (row : Json) : Json :=
  (primaryKey? row).getD .null

section Tuples

variable (htuples : ∀ row ∈ rows, ∃ key, primaryKey? row = some key)
include htuples

theorem compareRows_eq_of_tuples (hrow : row ∈ rows) (hother : other ∈ rows) :
    compareRows row other = compareKeys (keyOfRow row) (keyOfRow other) := by
  obtain ⟨key, hkey⟩ := htuples row hrow
  obtain ⟨another, hanother⟩ := htuples other hother
  rw [compareRows_eq_compareKeys hkey hanother, keyOfRow, keyOfRow, hkey, hanother]
  rfl

/-- A row without a primary key equals every row, so `compareRows` is no order of all rows. Rows that have
keys are sorted as their keys are. -/
theorem mergeSort_eq_of_tuples :
    (rows.mergeSort fun row other => compareRows row other != .gt) =
      rows.mergeSort fun row other => (compareKeys (keyOfRow row) (keyOfRow other)).isLE := by
  have hagree : ∀ row ∈ rows, ∀ other ∈ rows, (compareRows row other != .gt) =
      (compareKeys (keyOfRow row) (keyOfRow other)).isLE := by
    intro row hrow other hother
    rw [compareRows_eq_of_tuples htuples hrow hother]
    cases compareKeys (keyOfRow row) (keyOfRow other) <;> rfl
  simpa using List.map_mergeSort (f := id) hagree

theorem pairwise_mergeSort_of_tuples :
    (rows.mergeSort fun row other => compareRows row other != .gt).Pairwise
      fun row next => compareRows row next ≠ .gt := by
  have hperm := List.mergeSort_perm rows fun row other => compareRows row other != .gt
  have hsorted : (rows.mergeSort fun row other => compareRows row other != .gt).Pairwise
      fun row other => (compareKeys (keyOfRow row) (keyOfRow other)).isLE = true := by
    rw [mergeSort_eq_of_tuples htuples]
    exact List.pairwise_mergeSort (fun _ _ _ => Std.TransCmp.isLE_trans)
      (fun _ _ => compareKeys_isLE_total _ _) rows
  apply hsorted.imp_of_mem
  intro row next hrow hnext hle
  rw [compareRows_eq_of_tuples htuples (hperm.mem_iff.mp hrow) (hperm.mem_iff.mp hnext)]
  exact Ordering.isLE_iff_ne_gt.mp hle

end Tuples

theorem Keyed.pairwise_mergeSort (hkeyed : Keyed rows) :
    (rows.mergeSort fun row other => compareRows row other != .gt).Pairwise
      fun row next => compareRows row next = .lt := by
  have hperm := List.mergeSort_perm rows fun row other => compareRows row other != .gt
  have hdistinct : (rows.mergeSort fun row other => compareRows row other != .gt).Pairwise
      fun row other => compareRows row other ≠ .eq := by
    refine (hperm.pairwise_iff ?_).mpr hkeyed.distinct
    intro row other hne heq
    rw [compareRows_swap, heq] at hne
    exact hne rfl
  -- sorting leaves equal keys side by side, and there are none
  apply (hdistinct.and (pairwise_mergeSort_of_tuples hkeyed.tuples)).imp
  intro row next hboth
  obtain ⟨hne, hle⟩ := hboth
  cases hcompare : compareRows row next with
  | lt => rfl
  | eq => exact absurd hcompare hne
  | gt => exact absurd hcompare hle

namespace Store

variable {store : Store} {space : Json}

def candidates (store : Store) (space key : Json) (iterator : Iterator) : List Json :=
  match keyPart? key with
  | some part => (store.rows (spaceName space)).filter (isSelected iterator part)
  | none => store.rows (spaceName space)

theorem mem_candidates_iff (hkeyed : Keyed (store.rows (spaceName space))) :
    row ∈ store.candidates space key iterator ↔
      row ∈ store.rows (spaceName space) ∧ iterator.Wants key row := by
  unfold candidates
  cases hpart : keyPart? key with
  | none =>
      constructor
      · exact fun hrow => ⟨hrow, Iterator.wants_of_no_part hpart⟩
      · exact fun hrow => hrow.1
  | some part =>
      simp only [List.mem_filter]
      refine and_congr_right fun hrow => ?_
      obtain ⟨present, hpresent⟩ := hkeyed.tuples row hrow
      rw [Iterator.wants_iff hpart hpresent, isSelected_iff]
      constructor
      · rintro ⟨shown, hshown, hrelates⟩
        rw [hpresent] at hshown
        cases hshown
        exact hrelates
      · exact fun hrelates => ⟨present, hpresent, hrelates⟩

theorem candidates_sublist (store : Store) (space key : Json) (iterator : Iterator) :
    (store.candidates space key iterator).Sublist (store.rows (spaceName space)) := by
  unfold candidates
  split
  · exact List.filter_sublist
  · exact List.Sublist.refl _

def ascending (store : Store) (space key : Json) (iterator : Iterator) : List Json :=
  (store.candidates space key iterator).mergeSort fun row other => compareRows row other != .gt

theorem select_eq (store : Store) (space key : Json) (offset limit : Nat) (iterator : Iterator) :
    store.select space key offset limit iterator =
      ((if iterator.descends then (store.ascending space key iterator).reverse
        else store.ascending space key iterator).drop offset).take limit :=
  rfl

/-- A select goes through the listing of its rows and returns a piece of it. -/
theorem exists_listing (hkeyed : Keyed (store.rows (spaceName space))) (key : Json)
    (iterator : Iterator) : ∃ listed, Listing (store.rows (spaceName space)) iterator key listed ∧
      ∀ offset limit, store.select space key offset limit iterator =
        (listed.drop offset).take limit := by
  have hsublist := store.candidates_sublist space key iterator
  have hsorted := (hkeyed.sublist hsublist).pairwise_mergeSort
  have hmem : ∀ row, row ∈ store.ascending space key iterator ↔
      row ∈ store.rows (spaceName space) ∧ iterator.Wants key row := by
    intro row
    rw [ascending, List.mem_mergeSort, mem_candidates_iff hkeyed]
  by_cases hdescends : iterator.descends = true
  · refine ⟨_, ⟨fun row => List.mem_reverse.trans (hmem row), ?_⟩, fun offset limit => ?_⟩
    · rw [List.pairwise_reverse]
      apply hsorted.imp
      intro row next hlt
      rw [compareRows_swap, hlt, iterator.direction_eq, if_pos hdescends]
      rfl
    · rw [select_eq, if_pos hdescends]
  · refine ⟨_, ⟨hmem, ?_⟩, fun offset limit => ?_⟩
    · rwa [iterator.direction_eq, if_neg hdescends]
    · rw [select_eq, if_neg hdescends]

/-- All that a select with the given key and iterator can return. -/
def listing (store : Store) (space key : Json) (iterator : Iterator) : List Json :=
  store.select space key 0 (store.rows (spaceName space)).length iterator

theorem listing_spec (hkeyed : Keyed (store.rows (spaceName space))) (key : Json)
    (iterator : Iterator) :
    Listing (store.rows (spaceName space)) iterator key (store.listing space key iterator) ∧
      ∀ offset limit, store.select space key offset limit iterator =
        ((store.listing space key iterator).drop offset).take limit := by
  obtain ⟨listed, hlisting, hselect⟩ := exists_listing hkeyed key iterator
  have hlength : listed.length ≤ (store.rows (spaceName space)).length :=
    hlisting.nodup.length_le_of_subset fun row hrow => ((hlisting.mem_iff row).mp hrow).1
  have hlisting_eq : store.listing space key iterator = listed := by
    rw [listing, hselect, List.drop_zero, List.take_of_length_le hlength]
  rw [hlisting_eq]
  exact ⟨hlisting, hselect⟩

end Store

/-! ### Listings of related iterators -/

theorem Keyed.nodup (hkeyed : Keyed rows) : rows.Nodup := by
  apply hkeyed.distinct.imp
  rintro row other hne rfl
  exact hne (compareRows_self row)

section Parts

variable (hkeyed : Keyed rows) (hpart : keyPart? key = some part)
include hkeyed hpart

/-- The rows of a listing are told by how their primary keys stand to the part. -/
theorem Listing.mem_iff_relates (hlisting : Listing rows iterator key listed) :
    row ∈ listed ↔ row ∈ rows ∧
      ∃ present, primaryKey? row = some present ∧ iterator.Relates (compareKeys present part) := by
  rw [hlisting.mem_iff]
  refine and_congr_right fun hrow => ?_
  obtain ⟨present, hpresent⟩ := hkeyed.tuples row hrow
  rw [Iterator.wants_iff hpart hpresent]
  simp [hpresent]

/-- Two listings, one behind the other, are the listing of an iterator that wants the rows of both, if they
are in its order. -/
theorem Listing.append {first second whole : Iterator} (hfirst : Listing rows first key listed)
    (hsecond : Listing rows second key kept)
    (hrelates : ∀ order, whole.Relates order ↔ first.Relates order ∨ second.Relates order)
    (hlisted : listed.Pairwise fun row next => compareRows row next = whole.direction)
    (hkept : kept.Pairwise fun row next => compareRows row next = whole.direction)
    (hacross : ∀ present next, first.Relates (compareKeys present part) →
      second.Relates (compareKeys next part) → compareKeys present next = whole.direction) :
    Listing rows whole key (listed ++ kept) where
  mem_iff := by
    intro row
    rw [List.mem_append, hfirst.mem_iff, hsecond.mem_iff, ← and_or_left]
    refine and_congr_right fun hrow => ?_
    obtain ⟨present, hpresent⟩ := hkeyed.tuples row hrow
    rw [Iterator.wants_iff hpart hpresent, Iterator.wants_iff hpart hpresent,
      Iterator.wants_iff hpart hpresent, hrelates]
  ordered := by
    refine List.pairwise_append.mpr ⟨hlisted, hkept, ?_⟩
    intro row hrow other hother
    obtain ⟨-, present, hpresent, hbefore⟩ := (hfirst.mem_iff_relates hkeyed hpart).mp hrow
    obtain ⟨-, next, hnext, hafter⟩ := (hsecond.mem_iff_relates hkeyed hpart).mp hother
    rw [compareRows_eq_compareKeys hpresent hnext]
    exact hacross present next hbefore hafter

/-- There are no two rows with a key, so any relation holds between them. -/
theorem Listing.pairwise_of_eq (hequal : Listing rows .eq key equal) (relation : Json → Json → Prop) :
    equal.Pairwise relation := by
  apply hequal.ordered.imp_of_mem
  intro row other hrow hother hdirection
  obtain ⟨-, present, hpresent, hsame⟩ := (hequal.mem_iff_relates hkeyed hpart).mp hrow
  obtain ⟨-, another, hanother, halike⟩ := (hequal.mem_iff_relates hkeyed hpart).mp hother
  rw [compareRows_eq_compareKeys hpresent hanother,
    Std.TransCmp.eq_trans hsame (Std.OrientedCmp.eq_symm halike)] at hdirection
  cases hdirection

theorem Listing.length_le_one (hequal : Listing rows .eq key equal) : equal.length ≤ 1 := by
  have hnone := hequal.pairwise_of_eq hkeyed hpart fun _ _ => False
  match equal, hnone with
  | [], _ => exact Nat.zero_le 1
  | [row], _ => exact Nat.le_refl 1
  | row :: other :: rest, hnone =>
      exact (List.rel_of_pairwise_cons hnone List.mem_cons_self).elim

theorem Listing.le_append (hequal : Listing rows .eq key equal) (hless : Listing rows .lt key less) :
    Listing rows .le key (equal ++ less) := by
  apply hequal.append hkeyed hpart hless
  · exact fun order => or_comm
  · exact hequal.pairwise_of_eq hkeyed hpart _
  · exact hless.ordered
  · intro present next heq hlt
    exact Std.TransCmp.gt_of_eq_of_gt heq (Std.OrientedCmp.gt_of_lt hlt)

theorem Listing.ge_append (hequal : Listing rows .eq key equal)
    (hgreater : Listing rows .gt key greater) : Listing rows .ge key (equal ++ greater) := by
  apply hequal.append hkeyed hpart hgreater
  · exact fun order => Iff.rfl
  · exact hequal.pairwise_of_eq hkeyed hpart _
  · exact hgreater.ordered
  · intro present next heq hgt
    exact Std.TransCmp.lt_of_eq_of_lt heq (Std.OrientedCmp.lt_of_gt hgt)

/-- Every row is in exactly one of the three listings. -/
theorem Listing.perm_rows (hless : Listing rows .lt key less) (hequal : Listing rows .eq key equal)
    (hgreater : Listing rows .gt key greater) : (less ++ equal ++ greater).Perm rows := by
  have hgrade : ∀ row ∈ rows, ∃ order : Ordering, (row ∈ less ↔ order = .lt) ∧
      (row ∈ equal ↔ order = .eq) ∧ (row ∈ greater ↔ order = .gt) := by
    intro row hrow
    obtain ⟨present, hpresent⟩ := hkeyed.tuples row hrow
    refine ⟨compareKeys present part, ?_, ?_, ?_⟩
    · rw [hless.mem_iff, Iterator.wants_iff hpart hpresent]
      exact and_iff_right hrow
    · rw [hequal.mem_iff, Iterator.wants_iff hpart hpresent]
      exact and_iff_right hrow
    · rw [hgreater.mem_iff, Iterator.wants_iff hpart hpresent]
      exact and_iff_right hrow
  have hnodup : (less ++ equal ++ greater).Nodup := by
    refine List.nodup_append.mpr ⟨List.nodup_append.mpr ⟨hless.nodup, hequal.nodup, ?_⟩,
      hgreater.nodup, ?_⟩
    · rintro row hrow _ hother rfl
      obtain ⟨order, hlt, heq, -⟩ := hgrade row ((hless.mem_iff row).mp hrow).1
      exact absurd ((hlt.mp hrow).symm.trans (heq.mp hother)) nofun
    · rintro row hrow _ hother rfl
      obtain ⟨order, hlt, heq, hgt⟩ := hgrade row ((hgreater.mem_iff row).mp hother).1
      rcases List.mem_append.mp hrow with hrow | hrow
      · exact absurd ((hlt.mp hrow).symm.trans (hgt.mp hother)) nofun
      · exact absurd ((heq.mp hrow).symm.trans (hgt.mp hother)) nofun
  rw [List.perm_ext_iff_of_nodup hnodup hkeyed.nodup]
  intro row
  rw [List.mem_append, List.mem_append]
  constructor
  · rintro ((hrow | hrow) | hrow)
    · exact ((hless.mem_iff row).mp hrow).1
    · exact ((hequal.mem_iff row).mp hrow).1
    · exact ((hgreater.mem_iff row).mp hrow).1
  · intro hrow
    obtain ⟨order, hlt, heq, hgt⟩ := hgrade row hrow
    cases order with
    | lt => exact Or.inl (Or.inl (hlt.mpr rfl))
    | eq => exact Or.inl (Or.inr (heq.mpr rfl))
    | gt => exact Or.inr (hgt.mpr rfl)

end Parts

/-! ### The law of selects -/

/-- Pages of one size, one behind the other, make a front piece of a list. -/
theorem pages_eq_take (listed : List Json) (size count : Nat) :
    ((List.range count).flatMap fun page => (listed.drop (page * size)).take size) =
      listed.take (count * size) := by
  induction count with
  | zero => simp
  | succ count ih =>
      rw [List.range_succ, List.flatMap_append, ih, List.flatMap_singleton, Nat.succ_mul, List.take_add]

namespace Store

variable {store : Store} {space : Json}

/-- Every select is a slice of an ordered listing, and these listings fit together. -/
structure SelectsExactly (store : Store) (space key : Json) : Prop where
  listing : ∀ iterator,
    Listing (store.rows (spaceName space)) iterator key (store.listing space key iterator)
  once : ∀ iterator, (store.listing space key iterator).Nodup
  slice : ∀ iterator offset limit, store.select space key offset limit iterator =
    ((store.listing space key iterator).drop offset).take limit
  /-- Pages that reach the end of the listing are all of it. -/
  pages : ∀ iterator size count, (store.listing space key iterator).length ≤ count * size →
    ((List.range count).flatMap fun page => store.select space key (page * size) size iterator) =
      store.listing space key iterator
  partition : ∀ part, keyPart? key = some part →
    (store.listing space key .lt ++ store.listing space key .eq ++ store.listing space key .gt).Perm
      (store.rows (spaceName space))
  le_eq : ∀ part, keyPart? key = some part →
    store.listing space key .le = store.listing space key .eq ++ store.listing space key .lt
  ge_eq : ∀ part, keyPart? key = some part →
    store.listing space key .ge = store.listing space key .eq ++ store.listing space key .gt
  unique : ∀ part, keyPart? key = some part → (store.listing space key .eq).length ≤ 1

theorem selectsExactly (hkeyed : Keyed (store.rows (spaceName space))) (key : Json) :
    store.SelectsExactly space key := by
  have hlisting := fun iterator => (listing_spec hkeyed key iterator).1
  have hslice := fun iterator => (listing_spec hkeyed key iterator).2
  refine ⟨hlisting, fun iterator => (hlisting iterator).nodup, hslice, ?_, ?_, ?_, ?_, ?_⟩
  · intro iterator size count hlength
    simp only [hslice iterator]
    rw [pages_eq_take, List.take_of_length_le hlength]
  · intro part hpart
    exact (hlisting .lt).perm_rows hkeyed hpart (hlisting .eq) (hlisting .gt)
  · intro part hpart
    exact (hlisting .le).unique ((hlisting .eq).le_append hkeyed hpart (hlisting .lt)) fun _ => Iff.rfl
  · intro part hpart
    exact (hlisting .ge).unique ((hlisting .eq).ge_append hkeyed hpart (hlisting .gt)) fun _ => Iff.rfl
  · intro part hpart
    exact (hlisting .eq).length_le_one hkeyed hpart

/-- In every store, a select returns a slice of the rows that its key and iterator want, in strict order of
their primary keys. Stores whose spaces have the same rows answer alike, whatever was done to them. -/
theorem select_exact (commands others : List Command) (space key : Json) :
    (empty.run commands).SelectsExactly space key ∧
    ((∀ row, row ∈ (empty.run commands).rows (spaceName space) ↔
        row ∈ (empty.run others).rows (spaceName space)) →
      ∀ offset limit iterator, (empty.run commands).select space key offset limit iterator =
        (empty.run others).select space key offset limit iterator) := by
  refine ⟨selectsExactly (keyed_run_empty commands _) key, fun hrows offset limit iterator => ?_⟩
  obtain ⟨hlisting, hselect⟩ := listing_spec (keyed_run_empty commands (spaceName space)) key iterator
  obtain ⟨hanother, hlike⟩ := listing_spec (keyed_run_empty others (spaceName space)) key iterator
  rw [hselect, hlike, hlisting.unique hanother hrows]

/-- The same two rows, which came in either order, one of them in the place of another. -/
theorem select_exact_reordered :
    (∀ row, row ∈ (empty.run [.insert (.string "test") (.array [.string "b"]),
        .insert (.string "test") (.array [.string "a", .integer 1])]).rows "test" ↔
      row ∈ (empty.run [.insert (.string "test") (.array [.string "a"]),
        .replace (.string "test") (.array [.string "a", .integer 1]),
        .insert (.string "test") (.array [.string "b"])]).rows "test") ∧
    (empty.run [.insert (.string "test") (.array [.string "b"]),
        .insert (.string "test") (.array [.string "a", .integer 1])]).select (.string "test")
      (.string "b") 0 2 .le =
    (empty.run [.insert (.string "test") (.array [.string "a"]),
        .replace (.string "test") (.array [.string "a", .integer 1]),
        .insert (.string "test") (.array [.string "b"])]).select (.string "test")
      (.string "b") 0 2 .le := by
  have hrows : ∀ row, row ∈ (empty.run [.insert (.string "test") (.array [.string "b"]),
        .insert (.string "test") (.array [.string "a", .integer 1])]).rows "test" ↔
      row ∈ (empty.run [.insert (.string "test") (.array [.string "a"]),
        .replace (.string "test") (.array [.string "a", .integer 1]),
        .insert (.string "test") (.array [.string "b"])]).rows "test" := by
    intro row
    change row ∈ [Json.array [.string "b"], .array [.string "a", .integer 1]] ↔
      row ∈ [Json.array [.string "a", .integer 1], .array [.string "b"]]
    simp only [List.mem_cons, List.not_mem_nil, or_false]
    exact or_comm
  exact ⟨hrows, (select_exact _ _ (.string "test") (.string "b")).2 hrows 0 2 .le⟩

end Store

end ReplicaPool
