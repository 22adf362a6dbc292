import ReplicaPool.Proofs.Store.Selection
import ReplicaPool.Proofs.Store.Upsert

/-!
# A store is a finite map

The rows of a space bind keys to rows: `row?` is the row bound to a key, and equal keys have the same one. A
command that succeeds binds one key anew, as `Binds` says, and a command that fails binds none. The laws of
the map follow from what `Binds` does to `row?`.
-/

namespace ReplicaPool

open Store (hasKey)

variable {rows later operations fields : List Json} {row other changed tuple key another part : Json}
  {bound : Option Json} {index : Nat}

/-! ### Rows bound to keys -/

/-- Equal keys are keys of the same rows. -/
theorem hasKey_congr (hsame : compareKeys another key = .eq) : hasKey another = hasKey key := by
  funext row
  rw [Bool.eq_iff_iff, hasKey_iff, hasKey_iff]
  refine exists_congr fun present => and_congr_right fun _ => ?_
  have hcongr : compareKeys present another = compareKeys present key := Std.TransCmp.congr_right hsame
  rw [hcongr]

theorem compareKeys_of_hasKey (hkey : hasKey key row = true) (hanother : hasKey another row = true) :
    compareKeys another key = .eq := by
  obtain ⟨present, hpresent, hsame⟩ := hasKey_iff.mp hkey
  obtain ⟨shown, hshown, halike⟩ := hasKey_iff.mp hanother
  rw [hpresent] at hshown
  cases hshown
  exact Std.TransCmp.eq_trans (Std.OrientedCmp.eq_symm halike) hsame

theorem Keyed.eq_of_hasKey (hkeyed : Keyed rows) (hrow : row ∈ rows) (hother : other ∈ rows)
    (hkey : hasKey key row = true) (hotherKey : hasKey key other = true) : row = other := by
  obtain ⟨index, hindex⟩ := List.mem_iff_getElem?.mp hrow
  obtain ⟨place, hplace⟩ := List.mem_iff_getElem?.mp hother
  obtain rfl := hkeyed.place_unique hindex hplace hkey hotherKey
  exact Option.some.inj (hindex.symm.trans hplace)

theorem Keyed.find?_eq_some_iff (hkeyed : Keyed rows) :
    rows.find? (hasKey key) = some row ↔ row ∈ rows ∧ hasKey key row = true := by
  constructor
  · exact fun hfound => ⟨List.mem_of_find?_eq_some hfound, List.find?_some hfound⟩
  · rintro ⟨hrow, hkey⟩
    cases hfound : rows.find? (hasKey key) with
    | none => exact absurd hkey (List.find?_eq_none.mp hfound row hrow)
    | some other =>
        rw [hkeyed.eq_of_hasKey hrow (List.mem_of_find?_eq_some hfound) hkey (List.find?_some hfound)]

structure Rebinds (rows : List Json) (key : Json) (bound : Option Json) (later : List Json) :
    Prop where
  has : ∀ row, bound = some row → hasKey key row = true
  mem_iff : ∀ row, row ∈ later ↔ bound = some row ∨ row ∈ rows ∧ hasKey key row = false

/-- Binding a key changes what is found by it and by equal keys, and nothing else. -/
theorem Rebinds.find? (hrebinds : Rebinds rows key bound later) (hkeyed : Keyed rows)
    (hlater : Keyed later) (another : Json) : later.find? (hasKey another) =
      if compareKeys another key = .eq then bound else rows.find? (hasKey another) := by
  ext row
  rw [hlater.find?_eq_some_iff, hrebinds.mem_iff]
  split
  · rename_i hsame
    constructor
    · rintro ⟨hbound | ⟨-, hnot⟩, hkey⟩
      · exact hbound
      · rw [hasKey_congr hsame, hnot] at hkey
        cases hkey
    · intro hbound
      rw [hasKey_congr hsame]
      exact ⟨Or.inl hbound, hrebinds.has row hbound⟩
  · rename_i hdiffers
    rw [hkeyed.find?_eq_some_iff]
    constructor
    · rintro ⟨hbound | ⟨hrow, -⟩, hkey⟩
      · exact absurd (compareKeys_of_hasKey (hrebinds.has row hbound) hkey) hdiffers
      · exact ⟨hrow, hkey⟩
    · rintro ⟨hrow, hkey⟩
      refine ⟨Or.inr ⟨hrow, ?_⟩, hkey⟩
      exact Bool.eq_false_iff.mpr fun hhas => hdiffers (compareKeys_of_hasKey hhas hkey)

theorem rebinds_append (hnobody : ∀ row ∈ rows, hasKey key row = false)
    (htuple : hasKey key tuple = true) : Rebinds rows key (some tuple) (rows ++ [tuple]) where
  has := by
    rintro row ⟨⟩
    exact htuple
  mem_iff := by
    intro row
    rw [List.mem_append, List.mem_singleton]
    constructor
    · rintro (hrow | rfl)
      · exact Or.inr ⟨hrow, hnobody row hrow⟩
      · exact Or.inl rfl
    · rintro (hbound | ⟨hrow, -⟩)
      · exact Or.inr (Option.some.inj hbound).symm
      · exact Or.inl hrow

/-- Of keyed rows, those behind other places are those without the key. -/
theorem Keyed.exists_elsewhere_iff (hkeyed : Keyed rows) (hrow : rows[index]? = some row)
    (hkey : hasKey key row = true) :
    (∃ place, place ≠ index ∧ rows[place]? = some other) ↔
      other ∈ rows ∧ hasKey key other = false := by
  constructor
  · rintro ⟨place, hne, hplace⟩
    refine ⟨List.mem_of_getElem? hplace, Bool.eq_false_iff.mpr fun hotherKey => hne ?_⟩
    exact hkeyed.place_unique hplace hrow hotherKey hkey
  · rintro ⟨hother, hnot⟩
    obtain ⟨place, hplace⟩ := List.mem_iff_getElem?.mp hother
    refine ⟨place, ?_, hplace⟩
    rintro rfl
    obtain rfl : row = other := Option.some.inj (hrow.symm.trans hplace)
    rw [hkey] at hnot
    cases hnot

theorem rebinds_set (hkeyed : Keyed rows) (hrow : rows[index]? = some row)
    (hkey : hasKey key row = true) (hchanged : hasKey key changed = true) :
    Rebinds rows key (some changed) (rows.set index changed) where
  has := by
    rintro row ⟨⟩
    exact hchanged
  mem_iff := by
    intro other
    have hindex := (List.getElem?_eq_some_iff.mp hrow).1
    rw [← hkeyed.exists_elsewhere_iff hrow hkey, List.mem_iff_getElem?]
    constructor
    · rintro ⟨place, hplace⟩
      by_cases hne : place = index
      · rw [hne, List.getElem?_set_self hindex] at hplace
        exact Or.inl hplace
      · rw [List.getElem?_set_ne (Ne.symm hne)] at hplace
        exact Or.inr ⟨place, hne, hplace⟩
    · rintro (hbound | ⟨place, hne, hplace⟩)
      · exact ⟨index, by rw [List.getElem?_set_self hindex, hbound]⟩
      · exact ⟨place, by rw [List.getElem?_set_ne (Ne.symm hne), hplace]⟩

theorem rebinds_eraseIdx (hkeyed : Keyed rows) (hrow : rows[index]? = some row)
    (hkey : hasKey key row = true) : Rebinds rows key none (rows.eraseIdx index) where
  has := nofun
  mem_iff := by
    intro other
    rw [← hkeyed.exists_elsewhere_iff hrow hkey, List.mem_eraseIdx_iff_getElem?]
    simp

theorem rebinds_none (hnobody : ∀ row ∈ rows, hasKey key row = false) : Rebinds rows key none rows where
  has := nofun
  mem_iff := by
    intro row
    constructor
    · exact fun hrow => Or.inr ⟨hrow, hnobody row hrow⟩
    · rintro (hbound | hrow)
      · cases hbound
      · exact hrow.1

namespace Store

variable {store later : Store} {space : Json} {name : String}

/-! ### Stores as maps -/

def row? (store : Store) (name : String) (key : Json) : Option Json :=
  (store.rows name).find? (hasKey key)

theorem row?_eq_none_iff :
    store.row? name key = none ↔ ∀ row ∈ store.rows name, hasKey key row = false := by
  simp [row?, List.find?_eq_none]

theorem position?_of_row? (hkeyed : Keyed (store.rows name)) (hrow : store.row? name key = some row) :
    ∃ index, store.position? name key = some index ∧ (store.rows name)[index]? = some row ∧
      hasKey key row = true := by
  obtain ⟨hmem, hkey⟩ := hkeyed.find?_eq_some_iff.mp hrow
  obtain ⟨index, hindex⟩ := List.mem_iff_getElem?.mp hmem
  exact ⟨index, position?_of_hasKey hkeyed hindex hkey, hindex, hkey⟩

theorem position?_of_row?_eq_none (hrow : store.row? name key = none) :
    store.position? name key = none :=
  position?_eq_none_iff.mpr (row?_eq_none_iff.mp hrow)

structure Binds (store : Store) (name : String) (key : Json) (bound : Option Json) (later : Store) :
    Prop where
  rebinds : Rebinds (store.rows name) key bound (later.rows name)
  elsewhere : ∀ other, other ≠ name → later.rows other = store.rows other

theorem binds_setRows {rows : List Json} (hrebinds : Rebinds (store.rows name) key bound rows) :
    store.Binds name key bound (store.setRows name rows) where
  rebinds := by rwa [rows_setRows, if_pos rfl]
  elsewhere := by
    intro other hne
    rw [rows_setRows, if_neg hne]

theorem Binds.row? (hbinds : store.Binds name key bound later)
    (hkeyed : Keyed (store.rows name)) (hlater : Keyed (later.rows name)) (other : String)
    (another : Json) : later.row? other another =
      if other = name ∧ compareKeys another key = .eq then bound else store.row? other another := by
  by_cases hother : other = name
  · subst hother
    simp only [true_and]
    exact hbinds.rebinds.find? hkeyed hlater another
  · rw [if_neg fun hboth => hother hboth.1, Store.row?, Store.row?, hbinds.elsewhere other hother]

theorem hasKey_array (key : Json) (fields : List Json) : hasKey key (.array (key :: fields)) = true :=
  hasKey_iff.mpr ⟨key, rfl, compareKeys_self key⟩

/-! ### What each command binds -/

theorem perform_insert_of_free (fields : List Json)
    (hfree : store.row? (spaceName space) key = none) :
    ∃ later, store.perform (.insert space (.array (key :: fields))) =
        (later, .ok (.row (.array (key :: fields)))) ∧
      store.Binds (spaceName space) key (some (.array (key :: fields))) later := by
  have hnobody := row?_eq_none_iff.mp hfree
  have hnew : ¬(store.rows (spaceName space)).any (hasKey key) = true := by simpa using hnobody
  refine ⟨_, ?_, binds_setRows (rebinds_append hnobody (hasKey_array key fields))⟩
  simp only [perform, Command.edit, Edit.run_map, run_insert_array, if_neg hnew]

theorem perform_insert_of_bound (fields : List Json)
    (hbound : store.row? (spaceName space) key = some row) :
    store.perform (.insert space (.array (key :: fields))) =
      (store, .error (.error (.duplicateKey (spaceName space)))) := by
  have hthere : (store.rows (spaceName space)).any (hasKey key) = true :=
    List.any_eq_true.mpr ⟨row, List.mem_of_find?_eq_some hbound, List.find?_some hbound⟩
  simp only [perform, Command.edit, Edit.run_map, run_insert_array, if_pos hthere]

theorem perform_insert_of_no_key (htuple : primaryKey? tuple = none) :
    store.perform (.insert space tuple) = (store, .error (.error .notATuple)) := by
  simp only [perform, Command.edit, Edit.run_map, Edit.run_insert, htuple]

theorem perform_replace_of_no_key (htuple : primaryKey? tuple = none) :
    store.perform (.replace space tuple) = (store, .error (.error .notATuple)) := by
  simp only [perform, Command.edit, Edit.run_map, Edit.run_replace, htuple]

theorem perform_replace (hkeyed : Keyed (store.rows (spaceName space))) (key : Json)
    (fields : List Json) :
    ∃ later, store.perform (.replace space (.array (key :: fields))) =
        (later, .ok (.row (.array (key :: fields)))) ∧
      store.Binds (spaceName space) key (some (.array (key :: fields))) later := by
  cases hrow : store.row? (spaceName space) key with
  | none =>
      have hposition := position?_of_row?_eq_none hrow
      refine ⟨_, ?_, binds_setRows
        (rebinds_append (row?_eq_none_iff.mp hrow) (hasKey_array key fields))⟩
      simp only [perform, Command.edit, Edit.run_map, Edit.run_replace, primaryKey?, hposition]
  | some row =>
      obtain ⟨index, hposition, hindex, hkey⟩ := position?_of_row? hkeyed hrow
      refine ⟨_, ?_, binds_setRows (rebinds_set hkeyed hindex hkey (hasKey_array key fields))⟩
      simp only [perform, Command.edit, Edit.run_map, Edit.run_replace, primaryKey?, hposition]

theorem keyPart?_singleton (key : Json) : keyPart? (.array [key]) = some key :=
  rfl

theorem find?_of_row? (hkeyed : Keyed (store.rows name)) (hpart : keyPart? key = some part)
    (hrow : store.row? name part = some row) :
    ∃ index, store.find? name key = some (index, row) ∧ (store.rows name)[index]? = some row ∧
      hasKey part row = true := by
  obtain ⟨index, -, hindex, hkey⟩ := position?_of_row? hkeyed hrow
  exact ⟨index, find?_of_hasKey hkeyed hpart hindex hkey, hindex, hkey⟩

theorem find?_of_row?_eq_none (hpart : keyPart? key = some part) (hrow : store.row? name part = none) :
    store.find? name key = none := by
  apply find?_eq_none
  intro another hanother
  rw [hpart] at hanother
  cases hanother
  exact row?_eq_none_iff.mp hrow

theorem perform_delete (hkeyed : Keyed (store.rows (spaceName space))) (hpart : keyPart? key = some part) :
    ∃ later, store.perform (.delete space key) =
        (later, .ok (.found (store.row? (spaceName space) part))) ∧
      store.Binds (spaceName space) part none later := by
  cases hrow : store.row? (spaceName space) part with
  | none =>
      have hfound := find?_of_row?_eq_none hpart hrow
      refine ⟨store, ?_, ⟨rebinds_none (row?_eq_none_iff.mp hrow), fun _ _ => rfl⟩⟩
      simp only [perform, Command.edit, Edit.run_map, Edit.run_delete, hfound]
  | some row =>
      obtain ⟨index, hfound, hindex, hkey⟩ := find?_of_row? hkeyed hpart hrow
      refine ⟨_, ?_, binds_setRows (rebinds_eraseIdx hkeyed hindex hkey)⟩
      simp only [perform, Command.edit, Edit.run_map, Edit.run_delete, hfound]

theorem perform_update_of_free {operations : Json} (hpart : keyPart? key = some part)
    (hfree : store.row? (spaceName space) part = none) :
    store.perform (.update space key operations) = (store, .ok (.found none)) := by
  rw [perform_update, find?_of_row?_eq_none hpart hfree]

theorem perform_update_of_error {operations : Json} {failure : Failure Rejection}
    (hkeyed : Keyed (store.rows (spaceName space))) (hpart : keyPart? key = some part)
    (hbound : store.row? (spaceName space) part = some row)
    (hupdate : updateRow row operations = .error failure) :
    store.perform (.update space key operations) = (store, .error failure) := by
  obtain ⟨index, hfound, -⟩ := find?_of_row? hkeyed hpart hbound
  simp only [perform_update, hfound, hupdate]

theorem perform_update_of_ok {operations : Json} (hkeyed : Keyed (store.rows (spaceName space)))
    (hpart : keyPart? key = some part) (hbound : store.row? (spaceName space) part = some row)
    (hupdate : updateRow row operations = .ok changed) :
    ∃ later, store.perform (.update space key operations) = (later, .ok (.found (some changed))) ∧
      store.Binds (spaceName space) part (some changed) later := by
  obtain ⟨index, hfound, hindex, hkey⟩ := find?_of_row? hkeyed hpart hbound
  obtain ⟨present, hpresent, hsame⟩ := hasKey_iff.mp hkey
  have hchanged : hasKey part changed = true :=
    hasKey_iff.mpr ⟨present, primaryKey?_updateRow hpresent hupdate, hsame⟩
  refine ⟨_, ?_, binds_setRows (rebinds_set hkeyed hindex hkey hchanged)⟩
  simp only [perform_update, hfound, hupdate]

/-! ### Reading by key -/

/-- What is found by a key: a select of at most one row. -/
def get (store : Store) (space key : Json) : List Json :=
  store.select space (.array [key]) 0 1 .eq

theorem listing_row? (hkeyed : Keyed (store.rows name)) (key : Json) :
    Listing (store.rows name) .eq (.array [key]) (store.row? name key).toList where
  mem_iff := by
    intro row
    rw [Option.mem_toList, row?, hkeyed.find?_eq_some_iff]
    refine and_congr_right fun hrow => ?_
    obtain ⟨present, hpresent⟩ := hkeyed.tuples row hrow
    rw [Iterator.wants_iff rfl hpresent, hasKey_iff]
    simp [hpresent, Iterator.Relates]
  ordered := by
    cases store.row? name key with
    | none => exact List.Pairwise.nil
    | some row => exact List.pairwise_singleton _ row

theorem get_eq (hkeyed : Keyed (store.rows (spaceName space))) (key : Json) :
    store.get space key = (store.row? (spaceName space) key).toList := by
  obtain ⟨hlisting, hselect⟩ := listing_spec hkeyed (.array [key]) .eq
  rw [get, hselect, hlisting.unique (listing_row? hkeyed key) fun _ => Iff.rfl]
  cases store.row? (spaceName space) key <;> rfl

theorem get_eq_nil_iff (hkeyed : Keyed (store.rows (spaceName space))) :
    store.get space key = [] ↔ store.row? (spaceName space) key = none := by
  rw [get_eq hkeyed]
  cases store.row? (spaceName space) key <;> simp

theorem Binds.get (hbinds : store.Binds name key bound later)
    (hkeyed : ∀ name, Keyed (store.rows name)) (hlater : ∀ name, Keyed (later.rows name))
    (other another : Json) : later.get other another =
      if spaceName other = name ∧ compareKeys another key = .eq then bound.toList
      else store.get other another := by
  rw [get_eq (hlater _), get_eq (hkeyed _), hbinds.row? (hkeyed name) (hlater name)]
  split <;> rfl

theorem Binds.get_self (hbinds : store.Binds (spaceName space) key bound later)
    (hkeyed : ∀ name, Keyed (store.rows name)) (hlater : ∀ name, Keyed (later.rows name)) :
    later.get space key = bound.toList := by
  rw [hbinds.get hkeyed hlater, if_pos ⟨rfl, compareKeys_self key⟩]

/-! ### The laws of the map -/

def Succeeds (store : Store) (command : Command) : Prop :=
  ∃ answer, (store.perform command).2 = .ok answer

inductive Command.Concerns (space key : Json) : Command → Prop
  | insert (fields : List Json) : Concerns space key (.insert space (.array (key :: fields)))
  | replace (fields : List Json) : Concerns space key (.replace space (.array (key :: fields)))
  | delete : Concerns space key (.delete space (.array [key]))
  | update (operations : Json) : Concerns space key (.update space (.array [key]) operations)

/-- Commands read and write a store as they would a map from spaces and keys to rows. -/
structure ActsAsMap (store : Store) : Prop where
  get_length : ∀ space key, (store.get space key).length ≤ 1
  get_congr : ∀ space key another, compareKeys another key = .eq →
    store.get space another = store.get space key
  insert_iff : ∀ space tuple, store.Succeeds (.insert space tuple) ↔
    ∃ key fields, tuple = .array (key :: fields) ∧ store.get space key = []
  get_insert : ∀ space key fields, store.Succeeds (.insert space (.array (key :: fields))) →
    (store.perform (.insert space (.array (key :: fields)))).1.get space key = [.array (key :: fields)]
  replace_iff : ∀ space tuple, store.Succeeds (.replace space tuple) ↔
    ∃ key fields, tuple = .array (key :: fields)
  get_replace : ∀ space key fields,
    (store.perform (.replace space (.array (key :: fields)))).1.get space key = [.array (key :: fields)]
  delete_eq : ∀ space key, (store.perform (.delete space (.array [key]))).2 =
    .ok (.found (store.get space key).head?)
  get_delete : ∀ space key, (store.perform (.delete space (.array [key]))).1.get space key = []
  update_none_iff : ∀ space key operations,
    (store.perform (.update space (.array [key]) operations)).2 = .ok (.found none) ↔
      store.get space key = []
  update_eq : ∀ space key operations row, store.get space key = [row] →
    (store.perform (.update space (.array [key]) operations)).2 =
      (updateRow row operations).map fun changed => .found (some changed)
  get_update : ∀ space key operations row,
    (store.perform (.update space (.array [key]) operations)).2 = .ok (.found (some row)) →
      (store.perform (.update space (.array [key]) operations)).1.get space key = [row]
  /-- Other spaces and other keys are left alone. -/
  get_other : ∀ command space key, Command.Concerns space key command → ∀ other another,
    spaceName other ≠ spaceName space ∨ compareKeys another key ≠ .eq →
      (store.perform command).1.get other another = store.get other another
  unchanged : ∀ command failure, (store.perform command).2 = .error failure →
    (store.perform command).1 = store

section Laws

variable (hkeyed : ∀ name, Keyed (store.rows name))
include hkeyed

theorem keyed_perform (command : Command) (name : String) :
    Keyed ((store.perform command).1.rows name) :=
  (changes_perform store command).keyed hkeyed name

/-- Whatever a command does with the key that it is about, nothing else is found differently. -/
theorem exists_binds {command : Command} (hconcerns : Command.Concerns space key command) :
    (store.perform command).1 = store ∨
      ∃ bound, store.Binds (spaceName space) key bound (store.perform command).1 := by
  cases hconcerns with
  | insert fields =>
      cases hrow : store.row? (spaceName space) key with
      | none =>
          obtain ⟨later, hperform, hbinds⟩ := perform_insert_of_free fields hrow
          rw [hperform]
          exact Or.inr ⟨_, hbinds⟩
      | some row =>
          rw [perform_insert_of_bound fields hrow]
          exact Or.inl rfl
  | replace fields =>
      obtain ⟨later, hperform, hbinds⟩ := perform_replace (hkeyed _) key fields
      rw [hperform]
      exact Or.inr ⟨_, hbinds⟩
  | delete =>
      obtain ⟨later, hperform, hbinds⟩ := perform_delete (hkeyed _) (keyPart?_singleton key)
      rw [hperform]
      exact Or.inr ⟨_, hbinds⟩
  | update operations =>
      cases hrow : store.row? (spaceName space) key with
      | none =>
          rw [perform_update_of_free (keyPart?_singleton key) hrow]
          exact Or.inl rfl
      | some row =>
          cases hupdate : updateRow row operations with
          | error failure =>
              rw [perform_update_of_error (hkeyed _) (keyPart?_singleton key) hrow hupdate]
              exact Or.inl rfl
          | ok changed =>
              obtain ⟨later, hperform, hbinds⟩ :=
                perform_update_of_ok (hkeyed _) (keyPart?_singleton key) hrow hupdate
              rw [hperform]
              exact Or.inr ⟨_, hbinds⟩

theorem get_of_perform {command : Command} {answer : Except (Failure Rejection) Answer}
    (hperform : store.perform command = (later, answer))
    (hbinds : store.Binds (spaceName space) key bound later) :
    (store.perform command).1.get space key = bound.toList := by
  have hlater := keyed_perform hkeyed command
  rw [hperform] at hlater ⊢
  exact hbinds.get_self hkeyed hlater

theorem succeeds_insert_iff (space tuple : Json) : store.Succeeds (.insert space tuple) ↔
    ∃ key fields, tuple = .array (key :: fields) ∧ store.get space key = [] := by
  constructor
  · rintro ⟨answer, hanswer⟩
    cases hkey : primaryKey? tuple with
    | none =>
        rw [perform_insert_of_no_key hkey] at hanswer
        cases hanswer
    | some key =>
        obtain ⟨fields, rfl⟩ := exists_of_primaryKey? hkey
        refine ⟨key, fields, rfl, (get_eq_nil_iff (hkeyed _)).mpr ?_⟩
        cases hrow : store.row? (spaceName space) key with
        | none => rfl
        | some row =>
            rw [perform_insert_of_bound fields hrow] at hanswer
            cases hanswer
  · rintro ⟨key, fields, rfl, hfree⟩
    obtain ⟨later, hperform, -⟩ :=
      perform_insert_of_free fields ((get_eq_nil_iff (hkeyed _)).mp hfree)
    exact ⟨_, by rw [hperform]⟩

theorem succeeds_replace_iff (space tuple : Json) : store.Succeeds (.replace space tuple) ↔
    ∃ key fields, tuple = .array (key :: fields) := by
  constructor
  · rintro ⟨answer, hanswer⟩
    cases hkey : primaryKey? tuple with
    | none =>
        rw [perform_replace_of_no_key hkey] at hanswer
        cases hanswer
    | some key =>
        obtain ⟨fields, rfl⟩ := exists_of_primaryKey? hkey
        exact ⟨key, fields, rfl⟩
  · rintro ⟨key, fields, rfl⟩
    obtain ⟨later, hperform, -⟩ := perform_replace (hkeyed _) key fields
    exact ⟨_, by rw [hperform]⟩

theorem update_answer (space key operations : Json) :
    (store.perform (.update space (.array [key]) operations)).2 =
      match store.row? (spaceName space) key with
      | some row => (updateRow row operations).map fun changed => .found (some changed)
      | none => .ok (.found none) := by
  have hpart := keyPart?_singleton key
  cases hrow : store.row? (spaceName space) key with
  | none => rw [perform_update_of_free hpart hrow]
  | some row =>
      cases hupdate : updateRow row operations with
      | error failure =>
          rw [perform_update_of_error (hkeyed _) hpart hrow hupdate]
          dsimp only
          rw [hupdate]
          rfl
      | ok changed =>
          obtain ⟨later, hperform, -⟩ := perform_update_of_ok (hkeyed _) hpart hrow hupdate
          rw [hperform]
          dsimp only
          rw [hupdate]
          rfl

theorem get_of_update {space key operations : Json}
    (hanswer : (store.perform (.update space (.array [key]) operations)).2 =
      .ok (.found (some row))) :
    (store.perform (.update space (.array [key]) operations)).1.get space key = [row] := by
  have hanswer_eq := update_answer hkeyed space key operations
  rw [hanswer] at hanswer_eq
  cases hrow : store.row? (spaceName space) key with
  | none =>
      rw [hrow] at hanswer_eq
      cases hanswer_eq
  | some before =>
      rw [hrow] at hanswer_eq
      dsimp only at hanswer_eq
      cases hupdate : updateRow before operations with
      | error failure =>
          rw [hupdate] at hanswer_eq
          cases hanswer_eq
      | ok changed =>
          rw [hupdate] at hanswer_eq
          cases hanswer_eq
          obtain ⟨later, hperform, hbinds⟩ :=
            perform_update_of_ok (hkeyed _) (keyPart?_singleton key) hrow hupdate
          exact get_of_perform hkeyed hperform hbinds

theorem actsAsMap : store.ActsAsMap where
  get_length := by
    intro space key
    rw [get_eq (hkeyed _)]
    cases store.row? (spaceName space) key <;> simp
  get_congr := by
    intro space key another hsame
    rw [get_eq (hkeyed _), get_eq (hkeyed _), row?, row?, hasKey_congr hsame]
  insert_iff := succeeds_insert_iff hkeyed
  get_insert := by
    intro space key fields hsucceeds
    obtain ⟨another, others, htuple, hfree⟩ := (succeeds_insert_iff hkeyed _ _).mp hsucceeds
    cases htuple
    obtain ⟨later, hperform, hbinds⟩ :=
      perform_insert_of_free fields ((get_eq_nil_iff (hkeyed _)).mp hfree)
    exact get_of_perform hkeyed hperform hbinds
  replace_iff := succeeds_replace_iff hkeyed
  get_replace := by
    intro space key fields
    obtain ⟨later, hperform, hbinds⟩ := perform_replace (hkeyed _) key fields
    exact get_of_perform hkeyed hperform hbinds
  delete_eq := by
    intro space key
    obtain ⟨later, hperform, -⟩ := perform_delete (hkeyed _) (keyPart?_singleton key)
    rw [hperform, get_eq (hkeyed _), Option.head?_toList]
  get_delete := by
    intro space key
    obtain ⟨later, hperform, hbinds⟩ := perform_delete (hkeyed _) (keyPart?_singleton key)
    exact get_of_perform hkeyed hperform hbinds
  update_none_iff := by
    intro space key operations
    rw [get_eq_nil_iff (hkeyed _), update_answer hkeyed]
    cases store.row? (spaceName space) key with
    | none => simp
    | some row =>
        dsimp only
        cases updateRow row operations <;> simp [Except.map]
  update_eq := by
    intro space key operations row hget
    rw [get_eq (hkeyed _)] at hget
    rw [update_answer hkeyed, Option.toList_eq_singleton_iff.mp hget]
  get_update := fun space key operations row hanswer => get_of_update hkeyed hanswer
  get_other := by
    intro command space key hconcerns other another helse
    rcases exists_binds hkeyed hconcerns with hsame | ⟨bound, hbinds⟩
    · rw [hsame]
    · rw [hbinds.get hkeyed (keyed_perform hkeyed command), if_neg]
      rintro ⟨hother, hanother⟩
      exact helse.elim (fun hne => hne hother) fun hne => hne hanother
  unchanged := fun command failure hfailed => perform_failed hfailed

end Laws

/-- Whatever commands were given to a store, the next ones read and write it as a finite map. -/
theorem acts_as_finite_map (commands : List Command) : (empty.run commands).ActsAsMap :=
  actsAsMap (keyed_run_empty commands)

/-- A row that was put in the place of one with the key `1` under the key `1.0` is found by `1`. -/
theorem acts_as_finite_map_rewritten :
    compareKeys (.integer 1) (.double ⟨false, 1023 * octave, by decide⟩) = .eq ∧
    (empty.run ([.insert (.string "test") (.array [.integer 1, .string "a"])] ++
      [.replace (.string "test") (.array [.double ⟨false, 1023 * octave, by decide⟩])])).get
        (.string "test") (.integer 1) = [.array [.double ⟨false, 1023 * octave, by decide⟩]] := by
  have hsame : compareKeys (.integer 1) (.double ⟨false, 1023 * octave, by decide⟩) = .eq := by
    decide +kernel
  refine ⟨hsame, ?_⟩
  rw [(acts_as_finite_map _).get_congr (.string "test") _ _ hsame, run, List.foldl_append]
  exact (acts_as_finite_map [.insert (.string "test") (.array [.integer 1, .string "a"])]).get_replace
    (.string "test") (.double ⟨false, 1023 * octave, by decide⟩) []

end Store

end ReplicaPool
