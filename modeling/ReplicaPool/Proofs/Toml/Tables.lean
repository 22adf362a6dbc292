import ReplicaPool.Proofs.Entries
import ReplicaPool.Toml.Assembly

/-!
# Documents of flat tables

The lines of a document that consists of tables under different headers, each with different keys and
without further tables below it, are assembled into these tables.
-/

namespace ReplicaPool.Toml

variable {name : String} {value : Value} {entries root : Entries} {draft : Draft}

theorem Entries.put_eq_append (hnew : name ∉ entries.map Prod.fst) :
    Entries.put name value entries = entries ++ [(name, value)] := by
  induction entries with
  | nil => rfl
  | cons entry entries ih =>
      simp only [List.map_cons, List.mem_cons, not_or] at hnew
      rw [Entries.put, if_neg (Ne.symm hnew.1), ih hnew.2, List.cons_append]

theorem Draft.add_assign (hnew : name ∉ draft.current.map Prod.fst) :
    draft.add (.assign [name] value) =
      some { draft with current := draft.current ++ [(name, value)] } := by
  simp [Draft.add, assign, assignHere, lookup_eq_none_iff_notMem.mpr hnew, Entries.put_eq_append hnew]

def assignments (entries : Entries) : List Statement :=
  entries.map fun entry => .assign [entry.1] entry.2

theorem Draft.foldlM_assignments (draft : Draft) (entries : Entries)
    (hkeys : (draft.current.map Prod.fst ++ entries.map Prod.fst).Nodup) :
    (assignments entries).foldlM Draft.add draft =
      some { draft with current := draft.current ++ entries } := by
  induction entries generalizing draft with
  | nil => simp [assignments]
  | cons entry entries ih =>
      rw [List.map_cons] at hkeys
      have hnew : entry.1 ∉ draft.current.map Prod.fst := fun hmem =>
        (List.nodup_append.mp hkeys).2.2 _ hmem _ List.mem_cons_self rfl
      have hrest : ((draft.current ++ [entry]).map Prod.fst ++ entries.map Prod.fst).Nodup := by
        simpa using hkeys
      have hfolded := ih { draft with current := draft.current ++ [entry] } hrest
      rw [assignments, List.map_cons, List.foldlM_cons, Draft.add_assign hnew, Option.bind_eq_bind,
        Option.bind_some, ← assignments, hfolded, List.append_assoc, List.singleton_append]

theorem Draft.add_header (hfinish : draft.finish = some root) (hnew : name ∉ root.map Prod.fst) :
    draft.add (.header [name]) = some { root, path := [name] } := by
  simp [Draft.add, Draft.openTable, Draft.below?, within, hfinish, lookup_eq_none_iff_notMem.mpr hnew]

theorem Draft.finish_table (entries : Entries) (hnew : name ∉ root.map Prod.fst) :
    Draft.finish { root, path := [name], current := entries } =
      some (root ++ [(name, .table .header entries)]) := by
  simp [Draft.finish, within, Entries.put_eq_append hnew]

def tableStatements (tables : List (String × Entries)) : List Statement :=
  tables.flatMap fun table => .header [table.1] :: assignments table.2

/-- Whatever comes before the tables is kept. -/
theorem Draft.finish_foldlM_tables {tables : List (String × Entries)} (hfinish : draft.finish = some root)
    (hnames : (root.map Prod.fst ++ tables.map Prod.fst).Nodup)
    (hkeys : ∀ table ∈ tables, (table.2.map Prod.fst).Nodup) :
    (((tableStatements tables).foldlM Draft.add draft).bind fun draft => draft.finish) =
      some (root ++ tables.map fun table => (table.1, .table .header table.2)) := by
  induction tables generalizing draft root with
  | nil => simpa [tableStatements] using hfinish
  | cons table tables ih =>
      rw [List.map_cons] at hnames
      have hnew : table.1 ∉ root.map Prod.fst := fun hmem =>
        (List.nodup_append.mp hnames).2.2 _ hmem _ List.mem_cons_self rfl
      have hassigned := Draft.foldlM_assignments { root, path := [table.1] } table.2
        (by simpa using hkeys table List.mem_cons_self)
      have hrest := ih (Draft.finish_table table.2 hnew) (by simpa using hnames)
        (fun other hmem => hkeys other (List.mem_cons_of_mem table hmem))
      rw [tableStatements, List.flatMap_cons, List.cons_append, List.foldlM_cons,
        Draft.add_header hfinish hnew, Option.bind_eq_bind, Option.bind_some, List.foldlM_append, hassigned,
        Option.bind_eq_bind, Option.bind_some, ← tableStatements]
      simpa using hrest

theorem assemble?_tables {tables : List (String × Entries)} (hnames : (tables.map Prod.fst).Nodup)
    (hkeys : ∀ table ∈ tables, (table.2.map Prod.fst).Nodup) :
    assemble? (tableStatements tables) =
      some (tables.map fun table => (table.1, .table .header table.2)) :=
  Draft.finish_foldlM_tables (show Draft.finish {} = some [] from rfl) hnames hkeys

end ReplicaPool.Toml
