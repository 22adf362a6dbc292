import ReplicaPool.Proofs.Number.Nearest
import ReplicaPool.Proofs.Store.Lookup

/-!
# Integers as keys

A command that looks for a key has to do with the rows that have it and with no others, as `KeepsTo` says.
Integers are equal keys when they become one number as doubles. So integers are told apart as far as doubles
tell them apart, which is everywhere up to `2⁵³`, and a row is safe from every command about another key
than its own that is told apart from it.
-/

namespace ReplicaPool

open Store (hasKey)

namespace Store

variable {store later : Store} {space key search : Json} {command : Command}
  {answered : Except (Failure Rejection) Answer}

/-! ### Commands about a key -/

/-- A command about the rows with a key: its tuple starts with the key, or the key is the part that counts
of what it looks for. An upsert does both, so its key is one that counts as it is. -/
inductive Command.LooksFor (space key : Json) : Command → Prop
  | select {search : Json} (hpart : keyPart? search = some key) (offset limit : Nat) {iterator : Iterator}
      (hequal : iterator = .eq ∨ iterator = .req) :
      LooksFor space key (.select space search offset limit iterator)
  | insert (fields : List Json) : LooksFor space key (.insert space (.array (key :: fields)))
  | replace (fields : List Json) : LooksFor space key (.replace space (.array (key :: fields)))
  | delete {search : Json} (hpart : keyPart? search = some key) :
      LooksFor space key (.delete space search)
  | update {search : Json} (hpart : keyPart? search = some key) (operations : Json) :
      LooksFor space key (.update space search operations)
  | upsert (hplain : keyPart? key = some key) (fields : List Json) (operations : Json) :
      LooksFor space key (.upsert space (.array (key :: fields)) operations)

structure KeepsTo (store : Store) (space key : Json) (command : Command) : Prop where
  answers : ∀ answer, (store.perform command).2 = .ok answer → ∀ row ∈ answer.data, hasKey key row = true
  mem_iff : ∀ name row, name ≠ spaceName space ∨ hasKey key row = false →
    (row ∈ (store.perform command).1.rows name ↔ row ∈ store.rows name)
  duplicate : ∀ name, (store.perform command).2 = .error (.error (.duplicateKey name)) →
    name = spaceName space ∧ ∃ row ∈ store.rows name, hasKey key row = true

theorem keepsTo_of_same (hperform : store.perform command = (store, answered))
    (hanswers : ∀ answer, answered = .ok answer → ∀ row ∈ answer.data, hasKey key row = true)
    (hduplicate : ∀ name, answered = .error (.error (.duplicateKey name)) →
      name = spaceName space ∧ ∃ row ∈ store.rows name, hasKey key row = true) :
    store.KeepsTo space key command where
  answers := by rwa [hperform]
  mem_iff := by simp [hperform]
  duplicate := by rwa [hperform]

theorem keepsTo_of_binds {answer : Answer} {bound : Option Json}
    (hperform : store.perform command = (later, .ok answer))
    (hbinds : store.Binds (spaceName space) key bound later)
    (hanswers : ∀ row ∈ answer.data, hasKey key row = true) : store.KeepsTo space key command where
  answers := by
    rw [hperform]
    rintro _ ⟨⟩
    exact hanswers
  mem_iff := by
    intro name row helse
    rw [hperform]
    by_cases hname : name = spaceName space
    · subst hname
      have hnot : hasKey key row = false := helse.resolve_left fun hne => hne rfl
      rw [hbinds.rebinds.mem_iff]
      constructor
      · rintro (hbound | ⟨hrow, -⟩)
        · rw [hbinds.rebinds.has row hbound] at hnot
          cases hnot
        · exact hrow
      · exact fun hrow => Or.inr ⟨hrow, hnot⟩
    · rw [hbinds.elsewhere name hname]
  duplicate := by
    rw [hperform]
    nofun

theorem hasKey_of_row? {name : String} {row : Json} (hrow : store.row? name key = some row) :
    hasKey key row = true :=
  List.find?_some hrow

theorem keepsTo_select (hkeyed : Keyed (store.rows (spaceName space)))
    (hpart : keyPart? search = some key) (offset limit : Nat) {iterator : Iterator}
    (hequal : iterator = .eq ∨ iterator = .req) :
    store.KeepsTo space key (.select space search offset limit iterator) := by
  obtain ⟨hlisting, hselect⟩ := listing_spec hkeyed search iterator
  refine keepsTo_of_same rfl ?_ nofun
  rintro _ ⟨⟩ row hrow
  have hlisted : row ∈ store.listing space search iterator := by
    rw [Answer.data, hselect] at hrow
    exact List.mem_of_mem_drop (List.mem_of_mem_take hrow)
  obtain ⟨-, present, hpresent, hrelates⟩ := (hlisting.mem_iff_relates hkeyed hpart).mp hlisted
  refine hasKey_iff.mpr ⟨present, hpresent, ?_⟩
  rcases hequal with rfl | rfl <;> exact hrelates

theorem keepsTo_insert (fields : List Json) :
    store.KeepsTo space key (.insert space (.array (key :: fields))) := by
  cases hrow : store.row? (spaceName space) key with
  | none =>
      obtain ⟨later, hperform, hbinds⟩ := perform_insert_of_free fields hrow
      refine keepsTo_of_binds hperform hbinds ?_
      simpa [Answer.data] using hasKey_array key fields
  | some row =>
      refine keepsTo_of_same (perform_insert_of_bound fields hrow) nofun ?_
      rintro _ ⟨⟩
      exact ⟨rfl, row, List.mem_of_find?_eq_some hrow, hasKey_of_row? hrow⟩

theorem keepsTo_replace (hkeyed : Keyed (store.rows (spaceName space))) (fields : List Json) :
    store.KeepsTo space key (.replace space (.array (key :: fields))) := by
  obtain ⟨later, hperform, hbinds⟩ := perform_replace hkeyed key fields
  refine keepsTo_of_binds hperform hbinds ?_
  simpa [Answer.data] using hasKey_array key fields

theorem keepsTo_delete (hkeyed : Keyed (store.rows (spaceName space)))
    (hpart : keyPart? search = some key) : store.KeepsTo space key (.delete space search) := by
  obtain ⟨later, hperform, hbinds⟩ := perform_delete hkeyed hpart
  refine keepsTo_of_binds hperform hbinds ?_
  intro row hrow
  exact hasKey_of_row? (Option.mem_toList.mp hrow)

theorem keepsTo_update (hkeyed : Keyed (store.rows (spaceName space)))
    (hpart : keyPart? search = some key) (operations : Json) :
    store.KeepsTo space key (.update space search operations) := by
  cases hrow : store.row? (spaceName space) key with
  | none =>
      refine keepsTo_of_same (perform_update_of_free hpart hrow) ?_ nofun
      rintro _ ⟨⟩
      exact fun row hmem => absurd hmem List.not_mem_nil
  | some row =>
      cases hupdate : updateRow row operations with
      | error failure =>
          refine keepsTo_of_same (perform_update_of_error hkeyed hpart hrow hupdate) nofun ?_
          rintro name ⟨⟩
          exact absurd hupdate updateRow_ne_duplicate
      | ok changed =>
          obtain ⟨later, hperform, hbinds⟩ := perform_update_of_ok hkeyed hpart hrow hupdate
          refine keepsTo_of_binds hperform hbinds ?_
          intro row hmem
          exact hbinds.rebinds.has row (Option.mem_toList.mp hmem)

/-- An upsert binds the key that it looks for to the row that it has changed or added. -/
theorem keepsTo_upsert (hkeyed : Keyed (store.rows (spaceName space)))
    (hplain : keyPart? key = some key) (fields : List Json) (operations : Json) :
    store.KeepsTo space key (.upsert space (.array (key :: fields)) operations) := by
  have hperform := perform_upsert store space (.array (key :: fields)) operations
  cases hrow : store.row? (spaceName space) key with
  | none =>
      have hnobody := row?_eq_none_iff.mp hrow
      have hnew : ¬(store.rows (spaceName space)).any (hasKey key) = true := by simpa using hnobody
      rw [upsert_of_not_found (find?_of_row?_eq_none hplain hrow), if_neg hnew] at hperform
      refine keepsTo_of_binds hperform (binds_setRows (rebinds_append hnobody (hasKey_array key fields))) ?_
      exact fun row hmem => absurd hmem List.not_mem_nil
  | some row =>
      obtain ⟨index, hfound, hindex, hkey⟩ := find?_of_row? hkeyed hplain hrow
      rw [upsert_of_found hfound] at hperform
      cases hupdate : updateRow row operations with
      | error failure =>
          rw [hupdate] at hperform
          refine keepsTo_of_same hperform nofun ?_
          rintro name ⟨⟩
          exact absurd hupdate updateRow_ne_duplicate
      | ok changed =>
          obtain ⟨present, hpresent, hsame⟩ := hasKey_iff.mp hkey
          have hchanged : hasKey key changed = true :=
            hasKey_iff.mpr ⟨present, primaryKey?_updateRow hpresent hupdate, hsame⟩
          rw [hupdate] at hperform
          refine keepsTo_of_binds hperform (binds_setRows (rebinds_set hkeyed hindex hkey hchanged)) ?_
          exact fun row hmem => absurd hmem List.not_mem_nil

theorem keepsTo_of_looksFor (hkeyed : Keyed (store.rows (spaceName space)))
    (hlooks : command.LooksFor space key) : store.KeepsTo space key command := by
  cases hlooks with
  | select hpart offset limit hequal => exact keepsTo_select hkeyed hpart offset limit hequal
  | insert fields => exact keepsTo_insert fields
  | replace fields => exact keepsTo_replace hkeyed fields
  | delete hpart => exact keepsTo_delete hkeyed hpart
  | update hpart operations => exact keepsTo_update hkeyed hpart operations
  | upsert hplain fields operations => exact keepsTo_upsert hkeyed hplain fields operations

/-- A command leaves a row where it is, does not answer with it, and is not turned down for it. -/
structure Spares (store : Store) (space key row : Json) (command : Command) : Prop where
  kept : row ∈ (store.perform command).1.rows (spaceName space)
  unanswered : ∀ answer, (store.perform command).2 = .ok answer → row ∉ answer.data
  unblamed : ∀ name, (store.perform command).2 = .error (.error (.duplicateKey name)) →
    name = spaceName space ∧ ∃ other ∈ store.rows name, other ≠ row ∧ hasKey key other = true

theorem KeepsTo.spares {row : Json} (hkeeps : store.KeepsTo space key command)
    (hrow : row ∈ store.rows (spaceName space)) (hnot : hasKey key row = false) :
    store.Spares space key row command where
  kept := (hkeeps.mem_iff _ row (Or.inr hnot)).mpr hrow
  unanswered := by
    intro answer hanswer hmem
    rw [hkeeps.answers answer hanswer row hmem] at hnot
    cases hnot
  unblamed := by
    intro name hduplicate
    obtain ⟨hname, other, hother, hkey⟩ := hkeeps.duplicate name hduplicate
    refine ⟨hname, other, hother, ?_, hkey⟩
    rintro rfl
    rw [hkey] at hnot
    cases hnot

end Store

/-! ### Integers that are told apart -/

variable {a b : Int}

theorem compareKeys_integer_eq_iff :
    compareKeys (.integer a) (.integer b) = .eq ↔ nearestWhole a = nearestWhole b := by
  rw [compareKeys_integer, compare_eq_iff_eq]

/-- Integers are in order as keys if it is the order of the doubles that they become. -/
theorem compareKeys_integer_of_lt_iff (hless : nearestWhole a < nearestWhole b ↔ a < b)
    (hgreater : nearestWhole b < nearestWhole a ↔ b < a) :
    compareKeys (.integer a) (.integer b) = compare a b := by
  rw [compareKeys_integer]
  rcases lt_trichotomy a b with hlt | rfl | hgt
  · rw [compare_lt_iff_lt.mpr hlt, compare_lt_iff_lt.mpr (hless.mpr hlt)]
  · rw [compare_eq_iff_eq.mpr rfl, compare_eq_iff_eq.mpr rfl]
  · rw [compare_gt_iff_gt.mpr hgt, compare_gt_iff_gt.mpr (hgreater.mpr hgt)]

/-- An integer below `2⁵³` is told apart from its neighbours, so from every other integer. -/
theorem nearestWhole_lt_of_exact (hexact : a.natAbs < 2 ^ 53 ∨ b.natAbs < 2 ^ 53) (hlt : a < b) :
    nearestWhole a < nearestWhole b := by
  rcases hexact with ha | hb
  · have hnext := nearestWhole_mono (show a + 1 ≤ b by omega)
    rw [nearestWhole_eq_self (show (a + 1).natAbs ≤ 2 ^ 53 by omega)] at hnext
    rw [nearestWhole_eq_self ha.le]
    omega
  · have hbefore := nearestWhole_mono (show a ≤ b - 1 by omega)
    rw [nearestWhole_eq_self (show (b - 1).natAbs ≤ 2 ^ 53 by omega)] at hbefore
    rw [nearestWhole_eq_self hb.le]
    omega

/-- Integers farther apart than the doubles around them are told apart. -/
theorem nearestWhole_lt_of_far (hfar : (spacing a.natAbs + spacing b.natAbs : Int) < 2 * (b - a)) :
    nearestWhole a < nearestWhole b := by
  have ha := two_mul_natAbs_nearestWhole_sub_le a
  have hb := two_mul_natAbs_nearestWhole_sub_le b
  omega

/-- When integers are told apart: one of them is below `2⁵³`, or both are 64-bit numbers farther apart than
any doubles are there. -/
def ToldApart (a b : Int) : Prop :=
  a.natAbs < 2 ^ 53 ∨ b.natAbs < 2 ^ 53 ∨
    a.natAbs < 2 ^ 64 ∧ b.natAbs < 2 ^ 64 ∧ 2048 < (a - b).natAbs

theorem ToldApart.symm (htold : ToldApart a b) : ToldApart b a := by
  unfold ToldApart at htold ⊢
  omega

theorem ToldApart.nearestWhole_lt_iff (htold : ToldApart a b) :
    nearestWhole a < nearestWhole b ↔ a < b := by
  constructor
  · intro hless
    by_contra hge
    exact absurd (nearestWhole_mono (not_lt.mp hge)) (not_le.mpr hless)
  · intro hlt
    rcases htold with ha | hb | ⟨ha, hb, hfar⟩
    · exact nearestWhole_lt_of_exact (Or.inl ha) hlt
    · exact nearestWhole_lt_of_exact (Or.inr hb) hlt
    · have hfirst : spacing a.natAbs ≤ 2 ^ 11 := spacing_le ha
      have hsecond : spacing b.natAbs ≤ 2 ^ 11 := spacing_le hb
      apply nearestWhole_lt_of_far
      omega

namespace Store

/-- Integers are in the order of the doubles nearest to them. It is their own order where these are told
apart, and then no command about one of them has to do with the row of the other. Otherwise they are
one key. -/
theorem integer_keys_by_nearest (commands : List Command) (space : Json) (a b : Int) :
    compareKeys (.integer a) (.integer b) = compare (nearestWhole a) (nearestWhole b) ∧
    (ToldApart a b → compareKeys (.integer a) (.integer b) = compare a b) ∧
    (nearestWhole a ≠ nearestWhole b → ∀ row ∈ (empty.run commands).rows (spaceName space),
      primaryKey? row = some (.integer b) → ∀ command : Command, command.LooksFor space (.integer a) →
        (empty.run commands).Spares space (.integer a) row command) ∧
    (nearestWhole a = nearestWhole b → hasKey (.integer a) = hasKey (.integer b)) := by
  refine ⟨compareKeys_integer a b, ?_, ?_, ?_⟩
  · intro htold
    exact compareKeys_integer_of_lt_iff htold.nearestWhole_lt_iff htold.symm.nearestWhole_lt_iff
  · intro hne row hrow hkey command hlooks
    refine (keepsTo_of_looksFor (keyed_run_empty commands _) hlooks).spares hrow ?_
    rw [Bool.eq_false_iff]
    intro hhas
    obtain ⟨present, hpresent, hsame⟩ := hasKey_iff.mp hhas
    obtain rfl : Json.integer b = present := Option.some.inj (hkey.symm.trans hpresent)
    exact hne (compareKeys_integer_eq_iff.mp hsame).symm
  · intro hsame
    exact hasKey_congr (compareKeys_integer_eq_iff.mpr hsame)

/-- The row with the key `2⁵³` is safe from what is done about `2⁵³ + 2`. -/
theorem integer_keys_by_nearest_double :
    (empty.run [.insert (.string "test") (.array [.integer 9007199254740992])]).Spares
      (.string "test") (.integer 9007199254740994) (.array [.integer 9007199254740992])
      (.insert (.string "test") (.array [.integer 9007199254740994])) := by
  obtain ⟨-, -, hspares, -⟩ := integer_keys_by_nearest
    [.insert (.string "test") (.array [.integer 9007199254740992])] (.string "test")
    9007199254740994 9007199254740992
  have hrows : (empty.run [.insert (.string "test") (.array [.integer 9007199254740992])]).rows "test" =
      [.array [.integer 9007199254740992]] := rfl
  exact hspares (by decide +kernel) _ (hrows ▸ List.mem_singleton_self _) rfl _ (.insert [])

/-- The keys `2⁵³` and `2⁵³ + 1` are one: a row with the first is in the way of an insert with the second,
and is found by it. -/
theorem integer_keys_collide :
    compareKeys (.integer 9007199254740992) (.integer 9007199254740993) = .eq ∧
    ((empty.run [.insert (.string "test") (.array [.integer 9007199254740992, .string "a"])]).perform
      (.insert (.string "test") (.array [.integer 9007199254740993, .string "b"]))).2 =
        .error (.error (.duplicateKey "test")) ∧
    (empty.run [.insert (.string "test") (.array [.integer 9007199254740992, .string "a"])]).get
      (.string "test") (.integer 9007199254740993) =
        [.array [.integer 9007199254740992, .string "a"]] := by
  have hfound : (empty.run [.insert (.string "test")
      (.array [.integer 9007199254740992, .string "a"])]).row? (spaceName (.string "test"))
        (.integer 9007199254740993) = some (.array [.integer 9007199254740992, .string "a"]) :=
    List.find?_cons_of_pos (by decide +kernel)
  refine ⟨by decide +kernel, ?_, ?_⟩
  · exact congrArg Prod.snd (perform_insert_of_bound [.string "b"] hfound)
  · rw [get_eq (keyed_run_empty _ _)]
    exact congrArg Option.toList hfound

end Store

end ReplicaPool
