import ReplicaPool.Number.Digits

/-!
# Command line arguments

`Command.ofArguments?` reads the arguments from left to right. The first fault makes the whole line a
usage error, and a request for help or for the version ends the reading.
-/

namespace ReplicaPool

inductive Topic where
  | program
  | simulate
  | config
  | validate
  | version
  | help
deriving DecidableEq, Repr, Inhabited

inductive Command where
  | simulate (config : String) (replicas : Option Nat) (rounds : Nat)
  | generate (profile output : String)
  | validate (config : String)
  | version
  | help (topic : Topic)
  /-- Show the name and the version in one line. -/
  | nameAndVersion
deriving DecidableEq, Repr, Inhabited

inductive ValueKind where
  | text
  | path
  | count
deriving DecidableEq, Repr, Inhabited

structure OptionSpec where
  long : String
  short : Option Char
  kind : ValueKind
deriving DecidableEq, Repr, Inhabited

/-- A number of things, which has to fit an unsigned 64-bit word. -/
def countOf? (text : String) : Option Nat :=
  unsignedWord? 64 text.toList

def ValueKind.accepts : ValueKind → String → Bool
  | .text, _ => true
  | .path, value => !value.isEmpty
  | .count, value => (countOf? value).isSome

inductive Scan where
  | usageError
  | helpWanted
  /-- The options that were given, the latest first. -/
  | options (given : List (String × String))
deriving DecidableEq, Repr, Inhabited

/-- Takes the value of an option, unless the option was given before or does not take it. -/
def giveOption (spec : OptionSpec) (value : String) (given : List (String × String)) :
    Option (List (String × String)) :=
  if (given.lookup spec.long).isSome || !spec.kind.accepts value then none
  else some ((spec.long, value) :: given)

def looksLikeOption (argument : String) : Bool :=
  match argument.toList with
  | '-' :: _ :: _ => true
  | _ => false

inductive Argument where
  | unknown
  | help
  /-- Nothing after it is an option. -/
  | terminator
  /-- An option with its value, if that is part of the argument. -/
  | option (spec : OptionSpec) (value : Option String)
deriving Inhabited

def splitEquals (chars : List Char) : String × Option String :=
  let name := String.ofList (chars.takeWhile (· != '='))
  match chars.dropWhile (· != '=') with
  | _ :: value => (name, some (String.ofList value))
  | [] => (name, none)

def Argument.of (specs : List OptionSpec) (argument : String) : Argument :=
  match argument.toList with
  | ['-', '-'] => .terminator
  | '-' :: '-' :: rest =>
      match splitEquals rest with
      | ("help", none) => .help
      | (name, value) =>
          match specs.find? (·.long == name) with
          | some spec => .option spec value
          | none => .unknown
  | '-' :: letter :: rest =>
      if letter = 'h' then .help
      else
        match specs.find? (·.short == some letter) with
        | some spec =>
            match rest with
            | [] => .option spec none
            | '=' :: value => .option spec (some (String.ofList value))
            | value => .option spec (some (String.ofList value))
        | none => .unknown
  | _ => .unknown

def scan (specs : List OptionSpec) : List (String × String) → List String → Scan
  | given, [] => .options given
  | given, [argument] =>
      match Argument.of specs argument with
      | .unknown => .usageError
      | .help => .helpWanted
      | .terminator => .options given
      | .option spec (some value) =>
          match giveOption spec value given with
          | some given => .options given
          | none => .usageError
      | .option _ none => .usageError
  | given, argument :: next :: rest =>
      match Argument.of specs argument with
      | .unknown => .usageError
      | .help => .helpWanted
      | .terminator => .usageError
      | .option spec (some value) =>
          match giveOption spec value given with
          | some given => scan specs given (next :: rest)
          | none => .usageError
      | .option spec none =>
          if looksLikeOption next then .usageError
          else
            match giveOption spec next given with
            | some given => scan specs given rest
            | none => .usageError

namespace Command

def simulateOptions : List OptionSpec :=
  [⟨"config", some 'c', .path⟩, ⟨"replicas", none, .count⟩, ⟨"rounds", none, .count⟩]

def generateOptions : List OptionSpec :=
  [⟨"profile", some 'p', .text⟩, ⟨"output", some 'o', .path⟩]

def validateOptions : List OptionSpec :=
  [⟨"config", some 'c', .path⟩]

def simulateOf (given : List (String × String)) : Option Command :=
  some (.simulate ((given.lookup "config").getD "config/dev.toml")
    ((given.lookup "replicas").bind countOf?)
    (((given.lookup "rounds").bind countOf?).getD 5))

def generateOf (given : List (String × String)) : Option Command := do
  return .generate (← given.lookup "profile") (← given.lookup "output")

def validateOf (given : List (String × String)) : Option Command := do
  return .validate (← given.lookup "config")

def read (topic : Topic) (specs : List OptionSpec)
    (make : List (String × String) → Option Command) (arguments : List String) :
    Option Command :=
  match scan specs [] arguments with
  | .usageError => none
  | .helpWanted => some (.help topic)
  | .options given => make given

def topicOf? : String → Option Topic
  | "simulate" => some .simulate
  | "config" => some .config
  | "validate" => some .validate
  | "version" => some .version
  | "help" => some .help
  | _ => none

def readProgramOption (argument : String) : Option Command :=
  match argument.toList with
  | '-' :: 'h' :: _ => some (.help .program)
  | '-' :: 'V' :: _ => some .nameAndVersion
  | _ =>
      match argument with
      | "--help" => some (.help .program)
      | "--version" => some .nameAndVersion
      | _ => none

/-- The command that the arguments ask for, or `none` for a usage error. -/
def ofArguments? : List String → Option Command
  | [] => none
  | "simulate" :: rest => read .simulate simulateOptions simulateOf rest
  | "config" :: rest => read .config generateOptions generateOf rest
  | "validate" :: rest => read .validate validateOptions validateOf rest
  | "version" :: rest => read .version [] (fun _ => some .version) rest
  | ["help"] => some (.help .program)
  | ["help", name] => (topicOf? name).map .help
  | "help" :: _ => none
  | argument :: _ => readProgramOption argument

end Command

end ReplicaPool
