import ReplicaPool.Toml.Reader

/-!
# The numbers of a document

A whole number is read only if it fits a signed 64-bit word, and tables are made of what was read. So all
numbers of a document are in that range, however deep they stand.
-/

namespace ReplicaPool.Toml

/-- All whole numbers in a value fit a signed 64-bit word. -/
inductive Value.InRange : Value → Prop
  | string (text : String) : InRange (.string text)
  | integer {value : Int} (hrange : isSigned 64 value = true) : InRange (.integer value)
  | double : InRange .double
  | boolean (value : Bool) : InRange (.boolean value)
  | moment : InRange .moment
  | array {elements : List Value} (helements : ∀ element ∈ elements, InRange element) :
      InRange (.array elements)
  | table (origin : Origin) {entries : List (String × Value)}
      (hentries : ∀ entry ∈ entries, InRange entry.2) : InRange (.table origin entries)
  | tables {latestFirst : List (List (String × Value))}
      (htables : ∀ entries ∈ latestFirst, ∀ entry ∈ entries, InRange entry.2) :
      InRange (.tables latestFirst)

def Entries.InRange (entries : Entries) : Prop :=
  ∀ entry ∈ entries, entry.2.InRange

variable {name key : String} {value : Value} {entries later : Entries} {path : List String}

/-! ### Tables -/

theorem Entries.inRange_nil : Entries.InRange [] := by
  intro entry hmem
  cases hmem

theorem Entries.InRange.put (hentries : entries.InRange) (hvalue : value.InRange) :
    (entries.put name value).InRange := by
  induction entries with
  | nil =>
      intro entry hmem
      rw [List.mem_singleton.mp hmem]
      exact hvalue
  | cons first rest ih =>
      obtain ⟨other, present⟩ := first
      have hrest : Entries.InRange rest := fun entry hmem => hentries entry (List.mem_cons_of_mem _ hmem)
      rw [Entries.put]
      split
      · exact List.forall_mem_cons.mpr ⟨hvalue, hrest⟩
      · exact List.forall_mem_cons.mpr ⟨hentries _ List.mem_cons_self, ih hrest⟩

/-- What comes of a table below is put into the table around it. -/
theorem Entries.InRange.put_below {below : Option Entries} {around : Entries → Value}
    (hentries : entries.InRange) (hbelow : ∀ {found : Entries}, below = some found → (around found).InRange)
    (hput : (below.bind fun found => some (entries.put name (around found))) = some later) :
    later.InRange := by
  obtain ⟨found, hfound, hsome⟩ := Option.bind_eq_some_iff.mp hput
  cases hsome
  exact hentries.put (hbelow hfound)

theorem Entries.InRange.drop (hentries : entries.InRange) : (entries.drop name).InRange :=
  fun entry hmem => hentries entry ((List.mem_filter.mp hmem).1)

theorem Entries.InRange.lookup (hentries : entries.InRange) (hlookup : entries.lookup name = some value) :
    value.InRange := by
  obtain ⟨before, after, hsplit, -⟩ := List.lookup_eq_some_iff.mp hlookup
  exact hentries (name, value) (hsplit ▸ by simp)

theorem Value.InRange.content {origin : Origin} (hvalue : Value.InRange (.table origin entries)) :
    entries.InRange := by
  cases hvalue with
  | table _ hentries => exact hentries

theorem Value.InRange.latest {latest : Entries} {earlier : List Entries}
    (hvalue : Value.InRange (.tables (latest :: earlier))) : latest.InRange := by
  cases hvalue with
  | tables htables => exact htables latest List.mem_cons_self

theorem Value.InRange.replace {latest : Entries} {earlier : List Entries}
    (hvalue : Value.InRange (.tables (latest :: earlier))) (hlater : later.InRange) :
    Value.InRange (.tables (later :: earlier)) := by
  cases hvalue with
  | tables htables =>
      exact .tables (List.forall_mem_cons.mpr ⟨hlater, (List.forall_mem_cons.mp htables).2⟩)

/-- What each step keeps, a fold that may fail keeps. -/
theorem keeps_foldlM {σ α : Type} {Holds : σ → Prop} {step : σ → α → Option σ} {inputs : List α}
    {state last : σ} (hstep : ∀ {state next : σ} {input : α}, input ∈ inputs → Holds state →
      step state input = some next → Holds next)
    (hstate : Holds state) (hfold : inputs.foldlM step state = some last) : Holds last := by
  induction inputs generalizing state with
  | nil =>
      cases hfold
      exact hstate
  | cons input rest ih =>
      obtain ⟨next, hnext, hrest⟩ := Option.bind_eq_some_iff.mp hfold
      exact ih (fun hmem => hstep (List.mem_cons_of_mem _ hmem)) (hstep List.mem_cons_self hstate hnext) hrest

theorem Entries.InRange.assign {nested : Bool} {origin : Origin} (hentries : entries.InRange)
    (hvalue : value.InRange) (hassign : Toml.assign nested origin path key value entries = some later) :
    later.InRange := by
  induction path generalizing nested origin entries later with
  | nil =>
      rw [Toml.assign, assignHere] at hassign
      split at hassign
      · cases hassign
      · split at hassign
        · cases hassign
        · cases hassign
          exact hentries.put hvalue
  | cons step rest ih =>
      rw [Toml.assign] at hassign
      split at hassign
      · exact hentries.put_below (fun hbelow => .table _ (ih inRange_nil hbelow)) hassign
      · cases hassign
      · cases hassign
      · rename_i hlookup
        have hcontent := (hentries.lookup hlookup).content
        exact hentries.put_below (fun hbelow => .table _ (ih hcontent hbelow)) hassign
      · rename_i hlookup
        have htables := hentries.lookup hlookup
        exact hentries.put_below (fun hbelow => htables.replace (ih htables.latest hbelow)) hassign
      · cases hassign

theorem inRange_inlineTable? {pairs : List (List String × Value)}
    (hpairs : ∀ pair ∈ pairs, pair.2.InRange) (htable : inlineTable? pairs = some value) :
    value.InRange := by
  obtain ⟨entries, hfold, hvalue⟩ := Option.bind_eq_some_iff.mp htable
  cases hvalue
  have hentries : Entries.InRange entries := by
    refine keeps_foldlM ?_ Entries.inRange_nil hfold
    rintro state next ⟨path, value⟩ hmem hstate hnext
    dsimp only at hnext
    split at hnext
    · exact hstate.assign (hpairs _ hmem) hnext
    · cases hnext
  exact .table _ hentries

theorem Entries.InRange.within {change : Entries → Option Entries}
    (hchange : ∀ {entries later : Entries}, entries.InRange → change entries = some later → later.InRange)
    (hentries : entries.InRange) (hwithin : Toml.within change path entries = some later) :
    later.InRange := by
  induction path generalizing entries later with
  | nil => exact hchange hentries hwithin
  | cons step rest ih =>
      rw [Toml.within] at hwithin
      split at hwithin
      · exact hentries.put_below (fun hbelow => .table _ (ih inRange_nil hbelow)) hwithin
      · cases hwithin
      · rename_i hlookup
        have hcontent := (hentries.lookup hlookup).content
        exact hentries.put_below (fun hbelow => .table _ (ih hcontent hbelow)) hwithin
      · rename_i hlookup
        have htables := hentries.lookup hlookup
        exact hentries.put_below (fun hbelow => htables.replace (ih htables.latest hbelow)) hwithin
      · cases hwithin

/-! ### Documents -/

def Statement.InRange : Statement → Prop
  | .assign _ value => value.InRange
  | _ => True

structure Draft.InRange (draft : Draft) : Prop where
  root : draft.root.InRange
  current : draft.current.InRange

namespace Draft

variable {draft next : Draft} {root : Entries} {statement : Statement}

theorem InRange.finish (hdraft : draft.InRange) (hfinish : draft.finish = some root) : root.InRange := by
  unfold Draft.finish at hfinish
  split at hfinish
  · cases hfinish
    exact hdraft.current
  · refine hdraft.root.within ?_ hfinish
    intro entries later hentries hchange
    split at hchange
    · split at hchange
      · cases hchange
        exact hentries.put (.tables (List.forall_mem_singleton.mpr hdraft.current))
      · rename_i hlookup
        cases hchange
        cases hentries.lookup hlookup with
        | tables htables =>
            exact hentries.put (.tables (List.forall_mem_cons.mpr ⟨hdraft.current, htables⟩))
      · cases hchange
    · cases hchange
      exact hentries.put (.table _ hdraft.current)

theorem inRange_below? {entries below : Entries} (hentries : entries.InRange)
    (hbelow : below? path entries = some below) : below.InRange := by
  induction path generalizing entries with
  | nil =>
      cases hbelow
      exact hentries
  | cons step rest ih =>
      rw [below?] at hbelow
      split at hbelow
      · cases hbelow
        exact Entries.inRange_nil
      · cases hbelow
      · rename_i hlookup
        exact ih (hentries.lookup hlookup).content hbelow
      · rename_i hlookup
        exact ih (hentries.lookup hlookup).latest hbelow
      · cases hbelow

theorem inRange_within_some {entries later : Entries} (hentries : entries.InRange)
    (hwithin : within some path entries = some later) : later.InRange :=
  hentries.within (fun hsame hsome => Option.some.inj hsome ▸ hsame) hwithin

theorem inRange_openTable (hroot : root.InRange) (hopen : openTable root path = some draft) :
    draft.InRange := by
  obtain ⟨key, -, hrest⟩ := Option.bind_eq_some_iff.mp hopen
  obtain ⟨parent, hparent, hrest⟩ := Option.bind_eq_some_iff.mp hrest
  split at hrest
  · obtain ⟨later, hlater, hdraft⟩ := Option.bind_eq_some_iff.mp hrest
    cases hdraft
    exact ⟨inRange_within_some hroot hlater, Entries.inRange_nil⟩
  · rename_i hlookup
    obtain ⟨later, hlater, hdraft⟩ := Option.bind_eq_some_iff.mp hrest
    cases hdraft
    refine ⟨hroot.within ?_ hlater, ((inRange_below? hroot hparent).lookup hlookup).content⟩
    intro entries dropped hentries hdrop
    cases hdrop
    exact hentries.drop
  · cases hrest

theorem inRange_openRepeated (hroot : root.InRange) (hopen : openRepeated root path = some draft) :
    draft.InRange := by
  obtain ⟨key, -, hrest⟩ := Option.bind_eq_some_iff.mp hopen
  obtain ⟨parent, -, hrest⟩ := Option.bind_eq_some_iff.mp hrest
  have hdraft : ∀ {opened : Option Draft}, opened = some draft →
      opened = (within some path.dropLast root).bind
        (fun later => some { root := later, path, repeated := true }) → draft.InRange := by
    rintro opened hopened rfl
    obtain ⟨later, hlater, hsome⟩ := Option.bind_eq_some_iff.mp hopened
    cases hsome
    exact ⟨inRange_within_some hroot hlater, Entries.inRange_nil⟩
  split at hrest
  · exact hdraft hrest rfl
  · exact hdraft hrest rfl
  · cases hrest

theorem InRange.add (hdraft : draft.InRange) (hstatement : statement.InRange)
    (hadd : draft.add statement = some next) : next.InRange := by
  cases statement with
  | assign path value =>
      obtain ⟨key, -, hrest⟩ := Option.bind_eq_some_iff.mp hadd
      obtain ⟨current, hcurrent, hnext⟩ := Option.bind_eq_some_iff.mp hrest
      cases hnext
      exact ⟨hdraft.root, hdraft.current.assign hstatement hcurrent⟩
  | header path =>
      obtain ⟨root, hfinish, hopen⟩ := Option.bind_eq_some_iff.mp hadd
      exact inRange_openTable (hdraft.finish hfinish) hopen
  | repeatedHeader path =>
      obtain ⟨root, hfinish, hopen⟩ := Option.bind_eq_some_iff.mp hadd
      exact inRange_openRepeated (hdraft.finish hfinish) hopen

end Draft

theorem inRange_assemble? {statements : List Statement}
    (hstatements : ∀ statement ∈ statements, statement.InRange)
    (hassemble : assemble? statements = some entries) : entries.InRange := by
  obtain ⟨draft, hfold, hfinish⟩ := Option.bind_eq_some_iff.mp hassemble
  have hempty : Draft.InRange {} := ⟨Entries.inRange_nil, Entries.inRange_nil⟩
  have hdraft : draft.InRange :=
    keeps_foldlM (fun hmem hstate hnext => hstate.add (hstatements _ hmem) hnext) hempty hfold
  exact hdraft.finish hfinish

/-! ### Reading -/

theorem isSigned_of_integer? {token : List Char} {number : Int} (hread : integer? token = some number) :
    isSigned 64 number = true := by
  have hchecked : ∀ {reading : Option Int},
      (reading.bind fun value => if isSigned 64 value then some value else none) = some number →
        isSigned 64 number = true := by
    intro reading hreading
    obtain ⟨found, -, hcheck⟩ := Option.bind_eq_some_iff.mp hreading
    split at hcheck
    · rename_i hrange
      cases hcheck
      exact hrange
    · cases hcheck
  unfold integer? at hread
  dsimp only at hread
  split at hread
  · exact hchecked hread
  · exact hchecked hread
  · exact hchecked hread
  · exact hchecked hread

theorem inRange_tokenValue? {token : List Char} (hread : tokenValue? token = some value) :
    value.InRange := by
  unfold tokenValue? at hread
  split at hread
  · rename_i hinteger
    cases hread
    exact .integer (isSigned_of_integer? hinteger)
  · split at hread
    · cases hread
      exact .boolean true
    · split at hread
      · cases hread
        exact .boolean false
      · split at hread
        · cases hread
          exact .double
        · split at hread
          · cases hread
            exact .moment
          · cases hread

structure ReadsInRange (fuel : Nat) : Prop where
  value {depth : Nat} {input rest : List Char} {value : Value}
    (hread : readValue? fuel depth input = some (value, rest)) : value.InRange
  elements {depth : Nat} {input rest : List Char} {elements : List Value}
    (hread : readElements? fuel depth input = some (elements, rest)) :
    ∀ element ∈ elements, element.InRange
  pairs {depth : Nat} {input rest : List Char} {pairs : List (List String × Value)}
    (hread : readPairs? fuel depth input = some (pairs, rest)) : ∀ pair ∈ pairs, pair.2.InRange

namespace ReadsInRange

variable {fuel depth : Nat} {input rest : List Char}

theorem zero : ReadsInRange 0 where
  value := fun hread => by
    rw [readValue?] at hread
    cases hread
  elements := fun hread => by
    rw [readElements?] at hread
    cases hread
  pairs := fun hread => by
    rw [readPairs?] at hread
    cases hread

theorem succ_value (hreads : ReadsInRange fuel)
    (hread : readValue? (fuel + 1) depth input = some (value, rest)) : value.InRange := by
  unfold readValue? at hread
  split at hread
  · obtain ⟨⟨text, others⟩, -, hvalue⟩ := Option.map_eq_some_iff.mp hread
    cases hvalue
    exact .string _
  · obtain ⟨⟨text, others⟩, -, hvalue⟩ := Option.map_eq_some_iff.mp hread
    cases hvalue
    exact .string _
  · split at hread
    · cases hread
    · obtain ⟨⟨elements, others⟩, helements, hvalue⟩ := Option.map_eq_some_iff.mp hread
      cases hvalue
      exact .array (hreads.elements helements)
  · split at hread
    · cases hread
    · dsimp only at hread
      split at hread
      · rw [Option.bind_eq_bind, Option.bind_some] at hread
        obtain ⟨table, htable, hvalue⟩ := Option.bind_eq_some_iff.mp hread
        cases hvalue
        exact inRange_inlineTable? (fun pair hmem => by cases hmem) htable
      · obtain ⟨⟨pairs, others⟩, hpairs, hrest⟩ := Option.bind_eq_some_iff.mp hread
        obtain ⟨table, htable, hvalue⟩ := Option.bind_eq_some_iff.mp hrest
        cases hvalue
        exact inRange_inlineTable? (hreads.pairs hpairs) htable
  · obtain ⟨found, hfound, hvalue⟩ := Option.map_eq_some_iff.mp hread
    cases hvalue
    exact inRange_tokenValue? hfound

theorem succ_elements {elements : List Value} (hreads : ReadsInRange fuel)
    (hread : readElements? (fuel + 1) depth input = some (elements, rest)) :
    ∀ element ∈ elements, element.InRange := by
  unfold readElements? at hread
  obtain ⟨first, -, hread⟩ := Option.bind_eq_some_iff.mp hread
  split at hread
  · cases hread
    exact fun element hmem => by cases hmem
  · obtain ⟨⟨value, others⟩, hvalue, hread⟩ := Option.bind_eq_some_iff.mp hread
    obtain ⟨next, -, hread⟩ := Option.bind_eq_some_iff.mp hread
    split at hread
    · obtain ⟨⟨values, others⟩, hvalues, hread⟩ := Option.bind_eq_some_iff.mp hread
      cases hread
      exact List.forall_mem_cons.mpr ⟨hreads.value hvalue, hreads.elements hvalues⟩
    · cases hread
      exact List.forall_mem_singleton.mpr (hreads.value hvalue)
    · cases hread

theorem succ_pairs {pairs : List (List String × Value)} (hreads : ReadsInRange fuel)
    (hread : readPairs? (fuel + 1) depth input = some (pairs, rest)) :
    ∀ pair ∈ pairs, pair.2.InRange := by
  unfold readPairs? at hread
  obtain ⟨⟨path, others⟩, -, hread⟩ := Option.bind_eq_some_iff.mp hread
  dsimp only at hread
  split at hread
  · obtain ⟨⟨value, others⟩, hvalue, hread⟩ := Option.bind_eq_some_iff.mp hread
    dsimp only at hread
    split at hread
    · obtain ⟨⟨pairs, others⟩, hpairs, hread⟩ := Option.bind_eq_some_iff.mp hread
      cases hread
      exact List.forall_mem_cons.mpr ⟨hreads.value hvalue, hreads.pairs hpairs⟩
    · cases hread
      exact List.forall_mem_singleton.mpr (hreads.value hvalue)
    · cases hread
  · cases hread

theorem of_fuel (fuel : Nat) : ReadsInRange fuel := by
  induction fuel with
  | zero => exact zero
  | succ fuel ih => exact ⟨ih.succ_value, ih.succ_elements, ih.succ_pairs⟩

end ReadsInRange

theorem inRange_readStatement? {input rest : List Char} {statement : Statement}
    (hread : readStatement? input = some (statement, rest)) : statement.InRange := by
  unfold readStatement? at hread
  split at hread
  · obtain ⟨⟨path, others⟩, -, hread⟩ := Option.bind_eq_some_iff.mp hread
    dsimp only at hread
    split at hread
    · obtain ⟨last, -, hread⟩ := Option.bind_eq_some_iff.mp hread
      cases hread
      trivial
    · cases hread
  · obtain ⟨⟨path, others⟩, -, hread⟩ := Option.bind_eq_some_iff.mp hread
    dsimp only at hread
    split at hread
    · obtain ⟨last, -, hread⟩ := Option.bind_eq_some_iff.mp hread
      cases hread
      trivial
    · cases hread
  · obtain ⟨⟨path, others⟩, -, hread⟩ := Option.bind_eq_some_iff.mp hread
    dsimp only at hread
    split at hread
    · obtain ⟨⟨value, others⟩, hvalue, hread⟩ := Option.bind_eq_some_iff.mp hread
      obtain ⟨last, -, hread⟩ := Option.bind_eq_some_iff.mp hread
      cases hread
      exact (ReadsInRange.of_fuel _).value hvalue
    · cases hread

theorem inRange_readStatements? {fuel : Nat} {input : List Char} {statements : List Statement}
    (hread : readStatements? fuel input = some statements) :
    ∀ statement ∈ statements, statement.InRange := by
  induction fuel generalizing input statements with
  | zero => cases hread
  | succ fuel ih =>
      rw [readStatements?] at hread
      split at hread
      · cases hread
      · cases hread
        exact fun statement hmem => by cases hmem
      · obtain ⟨⟨statement, rest⟩, hstatement, hread⟩ := Option.bind_eq_some_iff.mp hread
        obtain ⟨others, hothers, hread⟩ := Option.bind_eq_some_iff.mp hread
        cases hread
        exact List.forall_mem_cons.mpr ⟨inRange_readStatement? hstatement, ih hothers⟩

/-- All numbers of a document that is read are in range. -/
theorem inRange_read? {text : String} (hread : read? text = some entries) : entries.InRange := by
  obtain ⟨statements, hstatements, hassemble⟩ := Option.bind_eq_some_iff.mp hread
  exact inRange_assemble? (inRange_readStatements? hstatements) hassemble

end ReplicaPool.Toml
