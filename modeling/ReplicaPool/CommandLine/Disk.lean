import ReplicaPool.Config.File

/-!
# Files in a directory

The part of a file system that a command sees: files under paths relative to one directory. A directory
exists as long as a file lies in it. `Config.saveAt` and `Config.loadAt` keep configurations in such files.
-/

namespace ReplicaPool

abbrev Files := List (List String × ByteArray)

inductive PathError where
  | missing
  | notADirectory
  | isADirectory
deriving DecidableEq, Repr, Inhabited

def PathError.message : PathError → String
  | .missing => Config.missingFile
  | .notADirectory => "Not a directory (os error 20)"
  | .isADirectory => "Is a directory (os error 21)"

def stepPath (path : List String) (name : String) : List String :=
  if name = "" ∨ name = "." then path
  else if name = ".." then path.dropLast
  else path ++ [name]

/-- The steps of a path; blank ones and those that stay in place are left out. -/
def pathSteps (path : String) : List String :=
  ((path.toList.splitOn '/').map String.ofList).foldl stepPath []

def endsInSlash (path : String) : Bool :=
  path.toList.getLast? == some '/'

namespace Files

def isDirectory (files : Files) (steps : List String) : Bool :=
  steps.isEmpty || files.any fun (path, _) =>
    decide (steps.length < path.length) && path.take steps.length == steps

def passesFile (files : Files) (steps : List String) : Bool :=
  files.any fun (path, _) =>
    decide (path.length < steps.length) && steps.take path.length == path

def absence (files : Files) (steps : List String) : PathError :=
  if files.isDirectory steps then .isADirectory
  else if files.passesFile steps then .notADirectory
  else .missing

def read (files : Files) (path : String) : Config.Content :=
  if path.isEmpty then .unreadable PathError.missing.message
  else
    let steps := pathSteps path
    match files.lookup steps with
    | some bytes =>
        if endsInSlash path then .unreadable PathError.notADirectory.message else .bytes bytes
    | none => .unreadable (files.absence steps).message

def obstacle? (files : Files) (path : String) : Option PathError :=
  if path.isEmpty then some .missing
  else
    let steps := pathSteps path
    if files.isDirectory steps then some .isADirectory
    else if files.passesFile steps then some .notADirectory
    else if !files.isDirectory steps.dropLast then some .missing
    else if endsInSlash path then
      some (if (files.lookup steps).isSome then .notADirectory else .isADirectory)
    else none

def write (files : Files) (path : String) (bytes : ByteArray) : Files :=
  let steps := pathSteps path
  (steps, bytes) :: files.filter fun file => file.1 != steps

end Files

namespace Config

/-- Writes the file that keeps a configuration, unless it has no text or no file can be at the path. -/
def saveAt (config : Config) (files : Files) (path : String) : Files × Except ConfigError Unit :=
  match config.save with
  | .error cause => (files, .error cause)
  | .ok text =>
      match files.obstacle? path with
      | some reason => (files, .error (.io reason.message))
      | none => (files.write path text.toUTF8, .ok ())

def loadAt (files : Files) (path : String) : Except ConfigError Config :=
  load (files.read path)

end Config

structure Disk where
  read : String → Config.Content
  /-- The complaint about a path that no file can be written to. -/
  obstacle : String → Option String

def Files.toDisk (files : Files) : Disk :=
  { read := files.read
    obstacle := fun path => (files.obstacle? path).map PathError.message }

end ReplicaPool
