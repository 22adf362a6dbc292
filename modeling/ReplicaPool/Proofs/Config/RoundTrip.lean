import ReplicaPool.CommandLine.Disk
import ReplicaPool.Proofs.Toml.Lines
import ReplicaPool.Proofs.Toml.Range
import ReplicaPool.Proofs.Toml.Tables

/-!
# Configurations are loaded as they were saved

The file that keeps a configuration is a document of two flat tables, so reading it gives these tables, and
the settings in them are those of the configuration. Numbers that no document can hold are refused before
anything is written.
-/

namespace ReplicaPool

open Toml (Entries Statement)

/-! ### Files -/

namespace Files

variable {files : Files} {path : String} {bytes : ByteArray}

theorem path_of_obstacle? (hclear : files.obstacle? path = none) :
    path.isEmpty = false ∧ endsInSlash path = false := by
  unfold obstacle? at hclear
  dsimp only at hclear
  split_ifs at hclear with hempty hdirectory hthrough hparent hslash
  exact ⟨Bool.eq_false_iff.mpr hempty, Bool.eq_false_iff.mpr hslash⟩

/-- What is written to a path where a file can be is read from there. -/
theorem read_write (hclear : files.obstacle? path = none) :
    (files.write path bytes).read path = .bytes bytes := by
  obtain ⟨hempty, hslash⟩ := path_of_obstacle? hclear
  simp [read, write, hempty, hslash]

end Files

namespace Config

variable {config : Config}

def numbers (config : Config) : List Nat :=
  [config.pool.checkIntervalMs, config.pool.discoveryIntervalSec, config.pool.probeTimeoutMs]

def tables (config : Config) : List (String × Entries) :=
  [("pool",
    [("addrs", .array (config.pool.addrs.map .string)),
      ("check_interval_ms", .integer config.pool.checkIntervalMs)]
      ++ (config.pool.discoveryFunction.toList.map fun name => ("discovery_function", .string name))
      ++ [("discovery_interval_sec", .integer config.pool.discoveryIntervalSec),
        ("probe_timeout_ms", .integer config.pool.probeTimeoutMs)]),
    ("logging",
      [("level", .string config.logging.level), ("format", .string config.logging.format)])]

def lines (config : Config) : List String :=
  ["[pool]\n",
    Toml.writeEntry "addrs" (Toml.writeStrings config.pool.addrs),
    Toml.writeEntry "check_interval_ms" (toString config.pool.checkIntervalMs)]
    ++ (config.pool.discoveryFunction.toList.map fun name =>
      Toml.writeEntry "discovery_function" (Toml.writeString name))
    ++ [Toml.writeEntry "discovery_interval_sec" (toString config.pool.discoveryIntervalSec),
      Toml.writeEntry "probe_timeout_ms" (toString config.pool.probeTimeoutMs),
      "\n[logging]\n",
      Toml.writeEntry "level" (Toml.writeString config.logging.level),
      Toml.writeEntry "format" (Toml.writeString config.logging.format)]

theorem save_eq (hrange : ∀ number ∈ config.numbers, number ≤ greatestNumber) :
    config.save = .ok (String.join config.lines) := by
  have hfits : (config.numbers.any fun number => decide (greatestNumber < number)) = false := by
    simpa using hrange
  rw [numbers] at hfits
  unfold save
  dsimp only
  rw [hfits]
  cases hfunction : config.pool.discoveryFunction with
  | none => simp [lines, hfunction, String.join]
  | some name => simp [lines, hfunction, String.join]

theorem save_error (hrange : ∃ number ∈ config.numbers, greatestNumber < number) :
    config.save = .error (.serialize "out-of-range value for u64 type") := by
  have hlarge : (config.numbers.any fun number => decide (greatestNumber < number)) = true := by
    simpa using hrange
  rw [numbers] at hlarge
  unfold save
  dsimp only
  rw [hlarge]
  rfl

theorem greatestNumber_lt : greatestNumber < wordCount 63 :=
  Nat.sub_one_lt (Nat.ne_of_gt (Nat.two_pow_pos 63))

/-- Each line is one statement of the tables. -/
theorem writtenAs_lines (hrange : ∀ number ∈ config.numbers, number ≤ greatestNumber) :
    List.Forall₂ Statement.WrittenAs (Toml.tableStatements config.tables) config.lines := by
  have hfits : ∀ number ∈ config.numbers, number < wordCount 63 := fun number hmem =>
    Nat.lt_of_le_of_lt (hrange number hmem) greatestNumber_lt
  have hpool : Statement.WrittenAs (.header ["pool"]) "[pool]\n" := .header (by decide)
  have haddrs := Statement.WrittenAs.strings (show Toml.IsBare "addrs".toList by decide) config.pool.addrs
  have hcheck := Statement.WrittenAs.natural (show Toml.IsBare "check_interval_ms".toList by decide)
    (hfits config.pool.checkIntervalMs (by simp [numbers]))
  have hfunction := Statement.WrittenAs.string (show Toml.IsBare "discovery_function".toList by decide)
  have hdiscovery := Statement.WrittenAs.natural (show Toml.IsBare "discovery_interval_sec".toList by decide)
    (hfits config.pool.discoveryIntervalSec (by simp [numbers]))
  have hprobe := Statement.WrittenAs.natural (show Toml.IsBare "probe_timeout_ms".toList by decide)
    (hfits config.pool.probeTimeoutMs (by simp [numbers]))
  have hlogging : Statement.WrittenAs (.header ["logging"]) "\n[logging]\n" :=
    .after_blank (.header (by decide))
  have hlevel := Statement.WrittenAs.string (show Toml.IsBare "level".toList by decide) config.logging.level
  have hformat := Statement.WrittenAs.string (show Toml.IsBare "format".toList by decide)
    config.logging.format
  have hlast := List.Forall₂.cons hdiscovery
    (.cons hprobe (.cons hlogging (.cons hlevel (.cons hformat .nil))))
  unfold tables lines
  cases config.pool.discoveryFunction with
  | none => exact .cons hpool (.cons haddrs (.cons hcheck hlast))
  | some name => exact .cons hpool (.cons haddrs (.cons hcheck (.cons (hfunction name) hlast)))

theorem mapM_string? (texts : List String) : (texts.map Toml.Value.string).mapM string? = some texts := by
  induction texts with
  | nil => rfl
  | cons text texts ih => simp [List.mapM_cons, ih, string?]

theorem natural?_integer (value : Nat) : natural? (.integer value) = some value := by
  simp [natural?]

theorem ofEntries?_tables (config : Config) :
    ofEntries? (config.tables.map fun table => (table.1, .table .header table.2)) = some config := by
  obtain ⟨⟨addrs, check, function, discovery, probe⟩, level, format⟩ := config
  have hstrings : strings? (.array (addrs.map .string)) = some addrs := mapM_string? addrs
  cases function <;>
    simp [tables, ofEntries?, required?, optional?, poolOfValue?, loggingOfValue?, fields?,
      List.lookup_cons, hstrings, natural?_integer, string?]

theorem parse_lines (hrange : ∀ number ∈ config.numbers, number ≤ greatestNumber) :
    parse (String.join config.lines) = .ok config := by
  have hnames : (config.tables.map Prod.fst).Nodup := by
    simp [tables]
  have hkeys : ∀ table ∈ config.tables, (table.2.map Prod.fst).Nodup := by
    cases hfunction : config.pool.discoveryFunction <;> simp [tables, hfunction]
  have hmark : (String.join config.lines).toList.head? ≠ some '\uFEFF' := by
    simp [lines, String.toList_join]
  rw [parse, Toml.read?_join (writtenAs_lines hrange) hmark, Toml.assemble?_tables hnames hkeys,
    Option.bind_some, ofEntries?_tables]

theorem load_toUTF8 (text : String) : load (.bytes text.toUTF8) = loadText text := by
  have htext : String.fromUTF8? text.toUTF8 = some text := by
    simp only [String.fromUTF8?, Option.dite_none_right_eq_some]
    exact ⟨text.isValidUTF8, rfl⟩
  rw [load, htext]

theorem load_lines (hvalid : config.validate = .ok ())
    (hrange : ∀ number ∈ config.numbers, number ≤ greatestNumber) :
    load (.bytes (String.join config.lines).toUTF8) = .ok config := by
  rw [load_toUTF8, loadText, parse_lines hrange]
  simp only [bind, Except.bind, hvalid]
  rfl

/-- A valid configuration is loaded as it was saved. One with a number that no document can hold is refused,
and no file is touched. -/
theorem loadAt_saveAt (config : Config) :
    (config.validate = .ok () → (∀ number ∈ config.numbers, number ≤ greatestNumber) →
      ∀ (files : Files) (path : String), files.obstacle? path = none →
        ∃ later, config.saveAt files path = (later, .ok ()) ∧ loadAt later path = .ok config) ∧
    ((∃ number ∈ config.numbers, greatestNumber < number) →
      ∀ (files : Files) (path : String), config.saveAt files path =
        (files, .error (.serialize "out-of-range value for u64 type"))) := by
  constructor
  · intro hvalid hrange files path hclear
    refine ⟨files.write path (String.join config.lines).toUTF8, ?_, ?_⟩
    · simp only [saveAt, save_eq hrange, hclear]
    · rw [loadAt, Files.read_write hclear, load_lines hvalid hrange]
  · intro hrange files path
    simp only [saveAt, save_error hrange]

/-- The addresses and the function take each of the written forms. -/
theorem loadAt_saveAt_marks :
    let config : Config :=
      { pool := {
          addrs := ["a\\b:1", "c\"\n\"\"\"d:2", "\t'\x07:3", "é\\\n'\":4"]
          discoveryFunction := some "\r'''\"\"\"" } }
    let longer : Config := { pool := { checkIntervalMs := 9223372036854775808 } }
    (∃ later, config.saveAt [] "pool.toml" = (later, .ok ()) ∧ loadAt later "pool.toml" = .ok config) ∧
      longer.saveAt [] "pool.toml" = ([], .error (.serialize "out-of-range value for u64 type")) := by
  intro config longer
  have hvalid : config.validate = .ok () := by
    decide +kernel
  have hrange : ∀ number ∈ config.numbers, number ≤ greatestNumber := by
    decide +kernel
  have hclear : Files.obstacle? [] "pool.toml" = none := by
    decide +kernel
  have hlonger : ∃ number ∈ longer.numbers, greatestNumber < number := by
    decide +kernel
  exact ⟨(loadAt_saveAt config).1 hvalid hrange [] "pool.toml" hclear,
    (loadAt_saveAt longer).2 hlonger [] "pool.toml"⟩

/-! ### Loaded numbers -/

open Toml (Value)

theorem inRange_fields? {names : List String} {value : Value} {entries : Entries} (hvalue : value.InRange)
    (hfields : fields? names value = some entries) : entries.InRange := by
  cases hvalue with
  | table origin hentries =>
      cases hfields
      exact hentries
  | array helements =>
      cases hfields
      exact fun entry hmem => helements entry.2 (List.of_mem_zip hmem).2
  | tables htables =>
      cases hfields
      intro entry hmem
      obtain ⟨table, htable, htext⟩ := List.mem_map.mp (List.of_mem_zip hmem).2
      rw [← htext]
      exact .table _ (htables table (List.mem_reverse.mp htable))
  | _ => cases hfields

theorem natural?_le {value : Value} {number : Nat} (hvalue : value.InRange)
    (hnumber : natural? value = some number) : number ≤ greatestNumber := by
  cases hvalue with
  | @integer value hrange =>
      rw [natural?] at hnumber
      split at hnumber
      · cases hnumber
        rw [isSigned, Bool.and_eq_true, decide_eq_true_eq, decide_eq_true_eq] at hrange
        have hlt : value < (wordCount 63 : Int) := hrange.2
        rw [greatestNumber]
        omega
      · cases hnumber
  | _ => cases hnumber

theorem numbers_le_of_ofEntries? {entries : Entries} (hentries : entries.InRange)
    (hconfig : ofEntries? entries = some config) : ∀ number ∈ config.numbers, number ≤ greatestNumber := by
  obtain ⟨pool, hpool, hrest⟩ := Option.bind_eq_some_iff.mp hconfig
  obtain ⟨logging, -, hsome⟩ := Option.bind_eq_some_iff.mp hrest
  cases hsome
  obtain ⟨value, hvalue, hpool⟩ := Option.bind_eq_some_iff.mp hpool
  obtain ⟨fields, hfields, hpool⟩ := Option.bind_eq_some_iff.mp hpool
  have hinRange := inRange_fields? (hentries.lookup hvalue) hfields
  have hrequired : ∀ {name number}, required? fields name natural? = some number →
      number ≤ greatestNumber := by
    intro name number hrequired
    obtain ⟨value, hlookup, hnumber⟩ := Option.bind_eq_some_iff.mp hrequired
    exact natural?_le (hinRange.lookup hlookup) hnumber
  obtain ⟨addrs, -, hpool⟩ := Option.bind_eq_some_iff.mp hpool
  obtain ⟨check, hcheck, hpool⟩ := Option.bind_eq_some_iff.mp hpool
  obtain ⟨function, -, hpool⟩ := Option.bind_eq_some_iff.mp hpool
  obtain ⟨discovery, hdiscovery, hpool⟩ := Option.bind_eq_some_iff.mp hpool
  obtain ⟨probe, hprobe, hpool⟩ := Option.bind_eq_some_iff.mp hpool
  cases hpool
  have hoptional : discovery ≤ greatestNumber := by
    unfold optional? at hdiscovery
    split at hdiscovery
    · rename_i hlookup
      exact natural?_le (hinRange.lookup hlookup) hdiscovery
    · cases hdiscovery
      exact Nat.zero_le _
  simpa [numbers] using ⟨hrequired hcheck, hoptional, hrequired hprobe⟩

theorem numbers_le_of_parse {text : String} (hparse : parse text = .ok config) :
    ∀ number ∈ config.numbers, number ≤ greatestNumber := by
  unfold parse at hparse
  split at hparse
  · rename_i hread
    cases hparse
    obtain ⟨entries, hentries, hconfig⟩ := Option.bind_eq_some_iff.mp hread
    exact numbers_le_of_ofEntries? (Toml.inRange_read? hentries) hconfig
  · cases hparse

/-- What was loaded is valid, and its numbers are such that it can be saved again. -/
theorem valid_of_load {content : Content} (hload : load content = .ok config) :
    config.validate = .ok () ∧ ∀ number ∈ config.numbers, number ≤ greatestNumber := by
  have htext : ∀ {text : String}, loadText text = .ok config → parse text = .ok config ∧
      config.validate = .ok () := by
    intro text htext
    rw [loadText] at htext
    cases hparse : parse text with
    | error cause =>
        rw [hparse] at htext
        cases htext
    | ok found =>
        rw [hparse] at htext
        simp only [bind, Except.bind] at htext
        cases hvalid : found.validate with
        | error cause =>
            rw [hvalid] at htext
            cases htext
        | ok _ =>
            rw [hvalid] at htext
            cases htext
            exact ⟨rfl, hvalid⟩
  cases content with
  | unreadable reason => cases hload
  | bytes bytes =>
      rw [load] at hload
      split at hload
      · obtain ⟨hparse, hvalid⟩ := htext hload
        exact ⟨hvalid, numbers_le_of_parse hparse⟩
      · cases hload

end Config

end ReplicaPool
