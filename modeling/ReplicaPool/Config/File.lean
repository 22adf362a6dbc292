import ReplicaPool.Config.Basic
import ReplicaPool.Toml.Reader
import ReplicaPool.Toml.Writer

/-!
# Configuration files

A configuration is kept in a TOML file with the tables `pool` and `logging`. `Config.load` reads and
validates one, and `Config.save` writes one. A table may also be written as an array of its fields in
order, and fields that are not known are passed over.
-/

namespace ReplicaPool

namespace Config

open Toml (Value Entries)

/-- The fields of a table, whether they come by name or as an array in the given order. -/
def fields? (names : List String) : Value → Option Entries
  | .table _ entries => some entries
  | .array elements => some (names.zip elements)
  | .tables latestFirst =>
      some (names.zip (latestFirst.reverse.map fun entries => .table .header entries))
  | _ => none

def string? : Value → Option String
  | .string text => some text
  | _ => none

def natural? : Value → Option Nat
  | .integer value => if 0 ≤ value then some value.toNat else none
  | _ => none

def strings? : Value → Option (List String)
  | .array elements => elements.mapM string?
  | _ => none

def required? {α : Type} (entries : Entries) (name : String) (read : Value → Option α) : Option α :=
  (entries.lookup name).bind read

/-- A field that may be missing, but not of the wrong kind. -/
def optional? {α : Type} (entries : Entries) (name : String) (read : Value → Option α)
    (default : α) : Option α :=
  match entries.lookup name with
  | some value => read value
  | none => some default

def poolFields : List String :=
  ["addrs", "check_interval_ms", "discovery_function", "discovery_interval_sec",
    "probe_timeout_ms"]

def loggingFields : List String := ["level", "format"]

def poolOfValue? (value : Value) : Option PoolConfig := do
  let entries ← fields? poolFields value
  return {
    addrs := ← required? entries "addrs" strings?
    checkIntervalMs := ← required? entries "check_interval_ms" natural?
    discoveryFunction :=
      ← optional? entries "discovery_function" (fun value => (string? value).map some) none
    discoveryIntervalSec := ← optional? entries "discovery_interval_sec" natural? 0
    probeTimeoutMs := ← required? entries "probe_timeout_ms" natural? }

def loggingOfValue? (value : Value) : Option LoggingConfig := do
  let entries ← fields? loggingFields value
  return {
    level := ← required? entries "level" string?
    format := ← required? entries "format" string? }

def ofEntries? (entries : Entries) : Option Config := do
  return {
    pool := ← required? entries "pool" poolOfValue?
    logging := ← optional? entries "logging" loggingOfValue? {} }

def parse (text : String) : Except ConfigError Config :=
  match (Toml.read? text).bind ofEntries? with
  | some config => .ok config
  | none => .error (.parse "not a configuration")

def loadText (text : String) : Except ConfigError Config := do
  let config ← parse text
  config.validate
  return config

inductive Content where
  | bytes (bytes : ByteArray)
  /-- The system's complaint. -/
  | unreadable (reason : String)
deriving Inhabited

def missingFile : String := "No such file or directory (os error 2)"

/-- Reads and validates a file, which has to be UTF-8 text. -/
def load : Content → Except ConfigError Config
  | .unreadable reason => .error (.io reason)
  | .bytes bytes =>
      match String.fromUTF8? bytes with
      | some text => loadText text
      | none => .error (.io "stream did not contain valid UTF-8")

def greatestNumber : Nat := wordCount 63 - 1

def save (config : Config) : Except ConfigError String :=
  let pool := config.pool
  let numbers := [pool.checkIntervalMs, pool.discoveryIntervalSec, pool.probeTimeoutMs]
  if numbers.any fun number => decide (greatestNumber < number) then
    .error (.serialize "out-of-range value for u64 type")
  else
    .ok (String.join
      [ "[pool]\n"
      , Toml.writeEntry "addrs" (Toml.writeStrings pool.addrs)
      , Toml.writeEntry "check_interval_ms" (toString pool.checkIntervalMs)
      , match pool.discoveryFunction with
        | some name => Toml.writeEntry "discovery_function" (Toml.writeString name)
        | none => ""
      , Toml.writeEntry "discovery_interval_sec" (toString pool.discoveryIntervalSec)
      , Toml.writeEntry "probe_timeout_ms" (toString pool.probeTimeoutMs)
      , "\n[logging]\n"
      , Toml.writeEntry "level" (Toml.writeString config.logging.level)
      , Toml.writeEntry "format" (Toml.writeString config.logging.format) ])

def example? (profile : String) : Except ConfigError String := do
  (← ofProfile profile).save

end Config

end ReplicaPool
