import Mathlib.Data.List.Basic

/-!
# Places in lists

What becomes of a list when the element at one place is replaced, and what the element at one place
contributes to a result.
-/

namespace ReplicaPool

variable {α β : Type} {items : List α} {place : Nat} {before after : α}

theorem modify_eq_set (hplace : items[place]? = some before) (change : α → α) :
    items.modify place change = items.set place (change before) := by
  rw [List.modify_eq_set_getElem?, hplace]
  rfl

theorem set_eq_of_getElem? (hplace : items[place]? = some before) :
    items.set place before = items := by
  obtain ⟨hlt, rfl⟩ := List.getElem?_eq_some_iff.mp hplace
  exact List.set_getElem_self hlt

theorem filterMap_set_of_eq {measure : α → Option β} (hplace : items[place]? = some before)
    (hsame : measure after = measure before) :
    (items.set place after).filterMap measure = items.filterMap measure := by
  induction items generalizing place with
  | nil => rfl
  | cons first rest ih =>
      cases place with
      | zero =>
          cases hplace
          simp only [List.set_cons_zero, List.filterMap_cons, hsame]
      | succ place =>
          simp only [List.set_cons_succ, List.filterMap_cons, ih hplace]

theorem map_set_of_eq {measure : α → β} (hplace : items[place]? = some before)
    (hsame : measure after = measure before) :
    (items.set place after).map measure = items.map measure := by
  rw [← List.filterMap_eq_map]
  exact filterMap_set_of_eq hplace (congrArg some hsame)

theorem filterMap_perm_set {measure : α → Option β} {value : β}
    (hplace : items[place]? = some before) (hbefore : measure before = some value)
    (hafter : measure after = none) :
    (items.filterMap measure).Perm (value :: (items.set place after).filterMap measure) := by
  induction items generalizing place with
  | nil => cases hplace
  | cons first rest ih =>
      cases place with
      | zero =>
          cases hplace
          rw [List.set_cons_zero, List.filterMap_cons_some hbefore, List.filterMap_cons_none hafter]
      | succ place =>
          rw [List.set_cons_succ]
          cases hfirst : measure first with
          | none =>
              rw [List.filterMap_cons_none hfirst, List.filterMap_cons_none hfirst]
              exact ih hplace
          | some other =>
              rw [List.filterMap_cons_some hfirst, List.filterMap_cons_some hfirst]
              exact ((ih hplace).cons other).trans (List.Perm.swap value other _)

/-- What one element contributes stands between what the others do. -/
theorem flatMap_eq_of_getElem? (hplace : items[place]? = some before) (parts : α → List β) :
    items.flatMap parts = (items.take place).flatMap parts ++ parts before ++
      (items.drop (place + 1)).flatMap parts := by
  obtain ⟨hlt, rfl⟩ := List.getElem?_eq_some_iff.mp hplace
  conv_lhs => rw [← List.take_append_drop place items, List.drop_eq_getElem_cons hlt]
  rw [List.flatMap_append, List.flatMap_cons, List.append_assoc]

end ReplicaPool
