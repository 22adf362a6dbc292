import ReplicaPool.CommandLine.Disk
import ReplicaPool.CommandLine.Help
import ReplicaPool.CommandLine.Simulation
import ReplicaPool.Text.Quoted

/-!
# Running a command

`Command.run` says what a command prints, the file it writes and the code it ends with.
-/

namespace ReplicaPool

structure Outcome where
  code : Nat := 0
  stdout : String := ""
  stderr : String := ""
  /-- The file that is written, with its text. -/
  written : Option (String × String) := none
deriving Inhabited

def usageErrorCode : Nat := 2

def indentLines (text : String) : String :=
  "\n    ".intercalate (text.splitOn "\n")

/-- How the program reports that it failed, with the cause if it is not part of the message. -/
def failureText (message : String) (cause : Option String) : String :=
  "Error: " ++ message ++ "\n" ++
    match cause with
    | some cause => "\nCaused by:\n    " ++ indentLines cause ++ "\n"
    | none => ""

/-- Milliseconds in seconds or, below one second, in milliseconds. -/
def durationText (milliseconds : Nat) : String :=
  if milliseconds = 0 then "0ns"
  else if milliseconds < 1000 then toString milliseconds ++ "ms"
  else
    let places := ((toString (1000 + milliseconds % 1000)).drop 1).toString
    let fraction := (places.dropEndWhile (· == '0')).toString
    let point := if fraction.isEmpty then "" else "."
    toString (milliseconds / 1000) ++ point ++ fraction ++ "s"

def padTo (width : Nat) (text : String) : String :=
  text.pushn ' ' (width - text.length)

def reportText (round : Nat) (report : Report) : String :=
  linesText (("Round " ++ toString round ++ ":") :: report.map fun (addr, standing) =>
    "  " ++ padTo 24 addr ++ " " ++ standing.role.name ++ " " ++
      (if standing.connectedNow then "connected" else "disconnected"))

def describeText (config : Config) : String :=
  let options := config.pool.toOptions
  linesText
    ([ "✓ Configuration file is valid"
     , "  Instances: " ++ toString config.pool.addrs.length ]
      ++ config.pool.addrs.zipIdx.map (fun (addr, place) =>
        "    " ++ toString (place + 1) ++ ": " ++ addr)
      ++ [ "  Check interval: " ++ durationText options.checkInterval
         , "  Probe timeout: " ++ durationText options.probeTimeout
         , match options.discoveryFunction with
           | some function =>
               "  Discovery: " ++ function ++ " every " ++ durationText options.discoveryInterval
           | none => "  Discovery: disabled" ])

namespace Command

def runValidate (disk : Disk) (path : String) : Outcome :=
  let opening := linesText ["Validating configuration file: " ++ Text.quotedName path]
  match Config.load (disk.read path) with
  | .ok config => { stdout := opening ++ describeText config }
  | .error cause =>
      { code := 1
        stdout := opening
        stderr := linesText ["✗ Configuration file validation failed:", "  " ++ cause.message]
          ++ failureText cause.message none }

def runGenerate (disk : Disk) (profile path : String) : Outcome :=
  let opening := linesText
    ["Generating " ++ profile ++ " configuration file: " ++ Text.quotedName path]
  let failed (cause : ConfigError) : Outcome :=
    { code := 1
      stdout := opening
      stderr := failureText "Failed to generate config" (some cause.message) }
  match Config.example? profile with
  | .error cause => failed cause
  | .ok text =>
      match disk.obstacle path with
      | some reason => failed (.io reason)
      | none =>
          { stdout := opening ++ linesText
              [ "Configuration file generated successfully!"
              , "Edit the file to match your environment and run:"
              , "  tntpool simulate --config " ++ Text.quotedName path ]
            written := some (path, text) }

def runSimulate (disk : Disk) (path : String) (replicas : Option Nat) (draws : List Draw) :
    Outcome :=
  match Config.load (disk.read path) with
  | .error cause =>
      { code := 1
        stderr := failureText ("Failed to load config from " ++ Text.quotedName path)
          (some cause.message) }
  | .ok config =>
      let size := config.pool.addrs.length
      let replicas := replicas.getD (size - 1)
      if size < replicas then
        { code := 1
          stderr := failureText
            (toString replicas ++ " replicas requested but only " ++ toString size ++
              " addresses configured") none }
      else
        match Simulation.run config.pool replicas draws with
        | .error cause =>
            { code := 1, stderr := failureText "Failed to connect pool" (some cause.message) }
        | .ok reports =>
            { stdout := String.join
                (reports.zipIdx.map fun (report, round) => reportText round report) }

/-- Runs a command; the draws are one for each round of a simulation. -/
def run (disk : Disk) (architecture : String) (draws : List Draw) : Command → Outcome
  | .simulate config replicas rounds => runSimulate disk config replicas (draws.take rounds)
  | .generate profile output => runGenerate disk profile output
  | .validate config => runValidate disk config
  | .version => { stdout := versionText architecture }
  | .help topic => { stdout := topic.text }
  | .nameAndVersion => { stdout := linesText [programName ++ " " ++ programVersion] }

def drawCount : Command → Nat
  | .simulate _ _ rounds => rounds
  | _ => 0

end Command

end ReplicaPool
