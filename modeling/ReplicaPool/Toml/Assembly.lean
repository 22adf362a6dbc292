import ReplicaPool.Toml.Basic

/-!
# Assembling tables

The lines of a document, and of an inline table, give values to dotted keys. A key may be given a value
once, a table may have one header, and a table that a dotted key brought about takes further keys only
in dotted form.
-/

namespace ReplicaPool.Toml

/-- The only non-dotted, or only dotted, way in which a key may be added to a table. -/
def assignHere (nested : Bool) (origin : Origin) (key : String) (value : Value)
    (entries : Entries) : Option Entries :=
  if (origin == .dotted) != nested then none
  else
    match entries.lookup key with
    | some _ => none
    | none => some (entries.put key value)

def assign (nested : Bool) (origin : Origin) :
    List String → String → Value → Entries → Option Entries
  | [], key, value, entries => assignHere nested origin key value entries
  | step :: rest, key, value, entries =>
      match entries.lookup step with
      | none => do
          let below ← assign true .dotted rest key value []
          return entries.put step (.table .dotted below)
      | some (.table .header _) | some (.table .inline _) => none
      | some (.table origin below) => do
          let below ← assign true origin rest key value below
          return entries.put step (.table origin below)
      | some (.tables (latest :: earlier)) => do
          let latest ← assign true .header rest key value latest
          return entries.put step (.tables (latest :: earlier))
      | some _ => none

def inlineTable? (pairs : List (List String × Value)) : Option Value := do
  let entries ← pairs.foldlM
    (fun entries (path, value) =>
      match path.getLast? with
      | some key => assign (1 < path.length) .header path.dropLast key value entries
      | none => none)
    ([] : Entries)
  return .table .inline entries

/-- Changes the table below some steps; headers may pass through any table but an inline one. -/
def within (change : Entries → Option Entries) : List String → Entries → Option Entries
  | [], entries => change entries
  | step :: rest, entries =>
      match entries.lookup step with
      | none => do
          let below ← within change rest []
          return entries.put step (.table .implied below)
      | some (.table .inline _) => none
      | some (.table origin below) => do
          let below ← within change rest below
          return entries.put step (.table origin below)
      | some (.tables (latest :: earlier)) => do
          let latest ← within change rest latest
          return entries.put step (.tables (latest :: earlier))
      | some _ => none

inductive Statement where
  | assign (path : List String) (value : Value)
  | header (path : List String)
  | repeatedHeader (path : List String)
deriving Inhabited

/-- A document that is being read: the table under the latest header is kept apart. -/
structure Draft where
  root : Entries := []
  /-- The latest header; without one, lines belong to the root. -/
  path : List String := []
  repeated : Bool := false
  current : Entries := []
deriving Inhabited

namespace Draft

def finish (draft : Draft) : Option Entries :=
  match draft.path.getLast? with
  | none => some draft.current
  | some key =>
      within
        (fun entries =>
          if draft.repeated then
            match entries.lookup key with
            | none => some (entries.put key (.tables [draft.current]))
            | some (.tables earlier) => some (entries.put key (.tables (draft.current :: earlier)))
            | some _ => none
          else some (entries.put key (.table .header draft.current)))
        draft.path.dropLast draft.root

def below? : List String → Entries → Option Entries
  | [], entries => some entries
  | step :: rest, entries =>
      match entries.lookup step with
      | none => some []
      | some (.table .inline _) => none
      | some (.table _ below) => below? rest below
      | some (.tables (latest :: _)) => below? rest latest
      | some _ => none

/-- Begins the table under a header. A table that was only implied goes on where it was. -/
def openTable (root : Entries) (path : List String) : Option Draft := do
  let key ← path.getLast?
  let parent ← below? path.dropLast root
  match parent.lookup key with
  | none => return { root := ← within some path.dropLast root, path }
  | some (.table .implied current) =>
      return { root := ← within (fun entries => some (entries.drop key)) path.dropLast root, path, current }
  | some _ => none

def openRepeated (root : Entries) (path : List String) : Option Draft := do
  let key ← path.getLast?
  let parent ← below? path.dropLast root
  match parent.lookup key with
  | none | some (.tables _) =>
      return { root := ← within some path.dropLast root, path, repeated := true }
  | some _ => none

def add (draft : Draft) : Statement → Option Draft
  | .assign path value => do
      let key ← path.getLast?
      let current ← Toml.assign (1 < path.length) .header path.dropLast key value draft.current
      return { draft with current }
  | .header path => do openTable (← draft.finish) path
  | .repeatedHeader path => do openRepeated (← draft.finish) path

end Draft

def assemble? (statements : List Statement) : Option Entries := do
  let draft ← statements.foldlM Draft.add {}
  draft.finish

end ReplicaPool.Toml
