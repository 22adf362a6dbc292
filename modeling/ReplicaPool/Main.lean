import ReplicaPool.CommandLine.Run

/-!
# The program

Reads the files a command needs, runs the command and carries out what it says.
-/

open ReplicaPool

def readContent (path : String) : IO Config.Content := do
  try
    return .bytes (← IO.FS.readBinFile path)
  catch
    | .noFileOrDirectory .. => return .unreadable PathError.missing.message
    | problem => return .unreadable (toString problem)

def writeContent (path text : String) : IO (Option String) := do
  try
    IO.FS.writeFile path text
    return none
  catch
    | .noFileOrDirectory .. => return some PathError.missing.message
    | problem => return some (toString problem)

def pathRead : Command → Option String
  | .simulate config _ _ => some config
  | .validate config => some config
  | _ => none

def drawMany (count : Nat) : IO (List Draw) :=
  (List.range count).mapM fun _ => do
    return { victim := ← IO.rand 0 0xFFFFFF, stops := (← IO.rand 0 3) == 0 }

def main (arguments : List String) : IO UInt32 := do
  match Command.ofArguments? arguments with
  | none =>
      IO.eprintln "usage error; try --help"
      return usageErrorCode.toUInt32
  | some command =>
      let content ←
        match pathRead command with
        | some path => readContent path
        | none => pure (.unreadable "")
      let draws ← drawMany command.drawCount
      let disk (complaint : Option String) : Disk :=
        { read := fun _ => content, obstacle := fun _ => complaint }
      let planned := command.run (disk none) "x86_64" draws
      let complaint ←
        match planned.written with
        | some (path, text) => writeContent path text
        | none => pure none
      let outcome := if complaint.isSome then command.run (disk complaint) "x86_64" draws else planned
      IO.print outcome.stdout
      IO.eprint outcome.stderr
      return outcome.code.toUInt32
