import ReplicaPool.Proofs.Store.KeyOrder
import ReplicaPool.Proofs.Store.Operations
import ReplicaPool.Proofs.Store.Outcomes

/-!
# Primary keys are unique

A command changes one space at most, and in it one row at most. `RowChange` says how: a row with a new key
is added, one is put in the place of a row with an equal key, or one is removed. So the rows of every space
have keys, and no two of these are equal, whatever was done to the store since it was empty.
-/

namespace ReplicaPool

open Store (hasKey)

/-- Rows that have primary keys, no two of which are equal. -/
structure Keyed (rows : List Json) : Prop where
  tuples : ∀ row ∈ rows, ∃ key, primaryKey? row = some key
  distinct : rows.Pairwise fun row other => compareRows row other ≠ .eq

inductive RowChange (rows : List Json) : List Json → Prop
  | add {tuple key : Json} (htuple : primaryKey? tuple = some key)
      (hnew : ∀ row ∈ rows, hasKey key row = false) : RowChange rows (rows ++ [tuple])
  | put {index : Nat} {row changed key present : Json} (hrow : rows[index]? = some row)
      (hpresent : primaryKey? row = some present) (hchanged : primaryKey? changed = some key)
      (hsame : compareKeys present key = .eq) : RowChange rows (rows.set index changed)
  | remove (index : Nat) : RowChange rows (rows.eraseIdx index)

variable {rows later operations fields : List Json} {row other changed tuple key part : Json}
  {index place : Nat}

/-! ### Keys of rows -/

theorem exists_of_primaryKey? (hrow : primaryKey? row = some key) :
    ∃ fields, row = .array (key :: fields) := by
  unfold primaryKey? at hrow
  split at hrow
  · cases hrow
    exact ⟨_, rfl⟩
  · cases hrow

theorem hasKey_iff : hasKey key row = true ↔
    ∃ present, primaryKey? row = some present ∧ compareKeys present key = .eq := by
  unfold hasKey
  cases primaryKey? row with
  | none => simp
  | some present => simp

theorem compareRows_eq_compareKeys {present : Json} (hrow : primaryKey? row = some present)
    (hother : primaryKey? other = some key) : compareRows row other = compareKeys present key := by
  unfold compareRows
  rw [hrow, hother]

theorem hasKey_eq_false {present : Json} (hrow : primaryKey? row = some present)
    (hkey : hasKey key row = false) : compareKeys present key ≠ .eq := by
  intro hsame
  rw [hasKey_iff.mpr ⟨present, hrow, hsame⟩] at hkey
  cases hkey

theorem compareRows_of_hasKey (hrow : hasKey key row = true) (hother : hasKey key other = true) :
    compareRows row other = .eq := by
  obtain ⟨present, hpresent, hsame⟩ := hasKey_iff.mp hrow
  obtain ⟨another, hanother, halike⟩ := hasKey_iff.mp hother
  rw [compareRows_eq_compareKeys hpresent hanother]
  exact Std.TransCmp.eq_trans hsame (Std.OrientedCmp.eq_symm halike)

/-- At most one of the rows has a given key. -/
theorem Keyed.place_unique (hkeyed : Keyed rows) (hrow : rows[index]? = some row)
    (hother : rows[place]? = some other) (hkey : hasKey key row = true)
    (hotherKey : hasKey key other = true) : index = place := by
  obtain ⟨hindex, rfl⟩ := List.getElem?_eq_some_iff.mp hrow
  obtain ⟨hplace, rfl⟩ := List.getElem?_eq_some_iff.mp hother
  have hdistinct := List.pairwise_iff_getElem.mp hkeyed.distinct
  rcases Nat.lt_trichotomy index place with hlt | heq | hgt
  · exact absurd (compareRows_of_hasKey hkey hotherKey) (hdistinct index place hindex hplace hlt)
  · exact heq
  · exact absurd (compareRows_of_hasKey hotherKey hkey) (hdistinct place index hplace hindex hgt)

/-! ### Changes of rows -/

theorem keyed_nil : Keyed [] :=
  ⟨fun _ hmem => absurd hmem List.not_mem_nil, List.Pairwise.nil⟩

theorem Keyed.add (hkeyed : Keyed rows) (htuple : primaryKey? tuple = some key)
    (hnew : ∀ row ∈ rows, hasKey key row = false) : Keyed (rows ++ [tuple]) where
  tuples := by
    intro row hmem
    rcases List.mem_append.mp hmem with hbefore | hlast
    · exact hkeyed.tuples row hbefore
    · exact ⟨key, List.mem_singleton.mp hlast ▸ htuple⟩
  distinct := by
    refine List.pairwise_append.mpr ⟨hkeyed.distinct, List.pairwise_singleton _ _, ?_⟩
    intro row hmem last hlast
    obtain rfl := List.mem_singleton.mp hlast
    obtain ⟨present, hpresent⟩ := hkeyed.tuples row hmem
    rw [compareRows_eq_compareKeys hpresent htuple]
    exact hasKey_eq_false hpresent (hnew row hmem)

theorem Keyed.remove (hkeyed : Keyed rows) (index : Nat) : Keyed (rows.eraseIdx index) where
  tuples := fun row hmem => hkeyed.tuples row (List.mem_of_mem_eraseIdx hmem)
  distinct := hkeyed.distinct.eraseIdx index

/-- A row compares to others as every row with an equal key does. -/
theorem Keyed.put {present : Json} (hkeyed : Keyed rows) (hrow : rows[index]? = some row)
    (hpresent : primaryKey? row = some present) (hchanged : primaryKey? changed = some key)
    (hsame : compareKeys present key = .eq) : Keyed (rows.set index changed) where
  tuples := by
    intro row hmem
    rcases List.mem_or_eq_of_mem_set hmem with hbefore | rfl
    · exact hkeyed.tuples row hbefore
    · exact ⟨key, hchanged⟩
  distinct := by
    obtain ⟨hindex, rfl⟩ := List.getElem?_eq_some_iff.mp hrow
    have hdistinct := List.pairwise_iff_getElem.mp hkeyed.distinct
    have halike : ∀ other ∈ rows, compareRows changed other = compareRows rows[index] other ∧
        compareRows other changed = compareRows other rows[index] := by
      intro other hmem
      obtain ⟨another, hanother⟩ := hkeyed.tuples other hmem
      rw [compareRows_eq_compareKeys hchanged hanother, compareRows_eq_compareKeys hpresent hanother,
        compareRows_eq_compareKeys hanother hchanged, compareRows_eq_compareKeys hanother hpresent]
      exact ⟨(Std.TransCmp.congr_left hsame).symm, (Std.TransCmp.congr_right hsame).symm⟩
    rw [List.pairwise_iff_getElem]
    intro i j hi hj hlt
    rw [List.length_set] at hi hj
    rw [List.getElem_set, List.getElem_set]
    by_cases hfirst : index = i
    · subst hfirst
      rw [if_pos rfl, if_neg (Nat.ne_of_lt hlt), (halike _ (List.getElem_mem hj)).1]
      exact hdistinct index j hi hj hlt
    · rw [if_neg hfirst]
      by_cases hsecond : index = j
      · subst hsecond
        rw [if_pos rfl, (halike _ (List.getElem_mem hi)).2]
        exact hdistinct i index hi hj hlt
      · rw [if_neg hsecond]
        exact hdistinct i j hi hj hlt

theorem RowChange.keyed (hchange : RowChange rows later) (hkeyed : Keyed rows) : Keyed later := by
  cases hchange with
  | add htuple hnew => exact hkeyed.add htuple hnew
  | put hrow hpresent hchanged hsame => exact hkeyed.put hrow hpresent hchanged hsame
  | remove index => exact hkeyed.remove index

/-! ### Operations on a row -/

/-- Operations leave the primary key of a row alone. -/
theorem primaryKey?_updateRow {operations : Json} (hrow : primaryKey? row = some key)
    (hupdate : updateRow row operations = .ok changed) : primaryKey? changed = some key := by
  obtain ⟨fields, list, later, rfl, rfl, rfl, happlied⟩ := exists_of_updateRow hupdate
  obtain ⟨others, hfields⟩ := exists_of_primaryKey? hrow
  cases hfields
  obtain ⟨rest, rfl⟩ := applyOperations_cons happlied
  rfl

namespace Store

variable {store later : Store} {name : String} {space : Json} {found : Option Json}

/-! ### Rows of a space -/

theorem lookup_replaceSpace (name other : String) (rows : List Json)
    (spaces : List (String × List Json)) :
    (replaceSpace name rows spaces).lookup other =
      if other = name then some rows else spaces.lookup other := by
  induction spaces with
  | nil =>
      by_cases hother : other = name
      · simp [replaceSpace, hother]
      · simp [replaceSpace, List.lookup_cons, hother, beq_eq_false_iff_ne.mpr hother]
  | cons present rest ih =>
      obtain ⟨first, before⟩ := present
      unfold replaceSpace
      by_cases hname : name = first
      · subst hname
        rw [if_pos rfl, List.lookup_cons, List.lookup_cons]
        by_cases hother : other = name
        · simp [hother]
        · simp [hother, beq_eq_false_iff_ne.mpr hother]
      · rw [if_neg hname, List.lookup_cons, List.lookup_cons, ih]
        by_cases hfirst : other = first
        · subst hfirst
          simp [Ne.symm hname]
        · simp [beq_eq_false_iff_ne.mpr hfirst]

theorem rows_setRows (store : Store) (name other : String) (rows : List Json) :
    (store.setRows name rows).rows other = if other = name then rows else store.rows other := by
  simp only [Store.rows, setRows, lookup_replaceSpace]
  split <;> rfl

theorem position?_eq_none_iff :
    store.position? name key = none ↔ ∀ row ∈ store.rows name, hasKey key row = false := by
  simp [position?, List.findIdx?_eq_none_iff]

theorem exists_of_position? (hposition : store.position? name key = some index) :
    ∃ row, (store.rows name)[index]? = some row ∧ hasKey key row = true := by
  obtain ⟨hindex, hkey, -⟩ := List.findIdx?_eq_some_iff_getElem.mp hposition
  exact ⟨_, List.getElem?_eq_getElem hindex, hkey⟩

theorem exists_of_find? (hfound : store.find? name key = some (index, row)) :
    ∃ part, keyPart? key = some part ∧ (store.rows name)[index]? = some row ∧
      hasKey part row = true := by
  obtain ⟨part, hpart, hfound⟩ := Option.bind_eq_some_iff.mp hfound
  obtain ⟨place, hplace, hfound⟩ := Option.bind_eq_some_iff.mp hfound
  obtain ⟨present, hpresent, hfound⟩ := Option.bind_eq_some_iff.mp hfound
  cases hfound
  obtain ⟨another, hanother, hkey⟩ := exists_of_position? hplace
  rw [hpresent] at hanother
  cases hanother
  exact ⟨part, hpart, hpresent, hkey⟩

/-! ### Commands -/

inductive Changes (store : Store) : Store → Prop
  | same : Changes store store
  | space (name : String) {rows : List Json} (hchange : RowChange (store.rows name) rows) :
      Changes store (store.setRows name rows)

theorem changes_insert (hinsert : (Edit.insert space tuple).run store = .ok row later) :
    store.Changes later := by
  rw [Edit.run_insert] at hinsert
  split at hinsert
  · cases hinsert
  · rename_i key hkey
    split at hinsert
    · cases hinsert
    · rename_i hnew
      cases hinsert
      exact .space _ (.add hkey (position?_eq_none_iff.mp hnew))

theorem changes_replace (hreplace : (Edit.replace space tuple).run store = .ok row later) :
    store.Changes later := by
  rw [Edit.run_replace] at hreplace
  split at hreplace
  · cases hreplace
  · rename_i key hkey
    split at hreplace
    · rename_i index hposition
      cases hreplace
      obtain ⟨row, hrow, hhas⟩ := exists_of_position? hposition
      obtain ⟨present, hpresent, hsame⟩ := hasKey_iff.mp hhas
      exact .space _ (.put hrow hpresent hkey hsame)
    · rename_i hnew
      cases hreplace
      exact .space _ (.add hkey (position?_eq_none_iff.mp hnew))

theorem changes_delete (hdelete : (Edit.delete space key).run store = .ok found later) :
    store.Changes later := by
  rw [Edit.run_delete] at hdelete
  split at hdelete
  · cases hdelete
    exact .space _ (.remove _)
  · cases hdelete
    exact .same

theorem changes_update {operations : Json}
    (hupdate : (Edit.update space key operations).run store = .ok found later) :
    store.Changes later := by
  rw [Edit.run_update] at hupdate
  split at hupdate
  · rename_i index row hfound
    obtain ⟨part, -, hrow, hhas⟩ := exists_of_find? hfound
    obtain ⟨present, hpresent, -⟩ := hasKey_iff.mp hhas
    split at hupdate
    · rename_i changed hchanged
      cases hupdate
      exact .space _ (.put hrow hpresent (primaryKey?_updateRow hpresent hchanged)
        Std.ReflCmp.compare_self)
    · cases hupdate
  · cases hupdate
    exact .same

theorem changes_upsert {operations : Json}
    (hupsert : (Edit.upsert space tuple operations).run store = .ok () later) :
    store.Changes later := by
  rw [Edit.run_upsert] at hupsert
  split at hupsert
  · cases hupsert
  · split at hupsert
    · rename_i hupdate
      cases hupsert
      exact changes_update hupdate
    · rename_i hnone
      obtain rfl := Edit.run_update_eq_none hnone
      obtain ⟨row, hinsert⟩ := Edit.exists_of_run_map hupsert
      exact changes_insert hinsert.1
    · cases hupsert

theorem changes_edit {command : Command} {answer : Answer}
    (hedit : command.edit.run store = .ok answer later) : store.Changes later := by
  cases command with
  | select space key offset limit iterator =>
      cases hedit
      exact .same
  | insert space tuple =>
      obtain ⟨row, hinsert, -⟩ := Edit.exists_of_run_map hedit
      exact changes_insert hinsert
  | replace space tuple =>
      obtain ⟨row, hreplace, -⟩ := Edit.exists_of_run_map hedit
      exact changes_replace hreplace
  | delete space key =>
      obtain ⟨found, hdelete, -⟩ := Edit.exists_of_run_map hedit
      exact changes_delete hdelete
  | update space key operations =>
      obtain ⟨found, hupdate, -⟩ := Edit.exists_of_run_map hedit
      exact changes_update hupdate
  | upsert space tuple operations =>
      obtain ⟨_, hupsert, -⟩ := Edit.exists_of_run_map hedit
      exact changes_upsert hupsert

theorem changes_perform (store : Store) (command : Command) :
    store.Changes (store.perform command).1 := by
  unfold perform
  split
  · rename_i hedit
    exact changes_edit hedit
  · rename_i hfailed
    rw [atomic_edit command _ _ _ hfailed]
    exact .same

theorem Changes.keyed (hchanges : store.Changes later) (hkeyed : ∀ name, Keyed (store.rows name))
    (name : String) : Keyed (later.rows name) := by
  cases hchanges with
  | same => exact hkeyed name
  | space changed hchange =>
      rw [rows_setRows]
      split
      · exact hchange.keyed (hkeyed changed)
      · exact hkeyed name

/-! ### Histories -/

/-- The store after commands, whether they succeed or fail. -/
def run (store : Store) (commands : List Command) : Store :=
  commands.foldl (fun store command => (store.perform command).1) store

theorem keyed_run (commands : List Command) (hkeyed : ∀ name, Keyed (store.rows name))
    (name : String) : Keyed ((store.run commands).rows name) := by
  induction commands generalizing store with
  | nil => exact hkeyed name
  | cons command rest ih => exact ih ((changes_perform store command).keyed hkeyed)

theorem keyed_run_empty (commands : List Command) (name : String) :
    Keyed ((empty.run commands).rows name) := by
  apply keyed_run
  exact fun _ => keyed_nil

/-- Whatever was done to a store, with or without success, every row of every space is an array with a first
field, and the first fields of no two rows of a space are equal keys. -/
theorem primary_keys_unique (commands : List Command) (name : String) :
    (∀ row ∈ (empty.run commands).rows name, ∃ key fields, row = .array (key :: fields)) ∧
    ((empty.run commands).rows name).Pairwise fun row other => ∀ key another,
      primaryKey? row = some key → primaryKey? other = some another →
        compareKeys key another ≠ .eq := by
  have hkeyed := keyed_run_empty commands name
  constructor
  · intro row hrow
    obtain ⟨key, hkey⟩ := hkeyed.tuples row hrow
    obtain ⟨fields, hfields⟩ := exists_of_primaryKey? hkey
    exact ⟨key, fields, hfields⟩
  · apply hkeyed.distinct.imp
    intro row other hne key another hkey hanother
    rwa [compareRows_eq_compareKeys hkey hanother] at hne

end Store

end ReplicaPool
