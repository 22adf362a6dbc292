import ReplicaPool.Toml.Assembly
import ReplicaPool.Toml.Literal

/-!
# Reading TOML

`Toml.read?` accepts exactly the valid TOML 1.0 documents whose arrays and inline tables are nested
less than eighty deep, and gives their root table.
-/

namespace ReplicaPool.Toml

/-- How deep brackets and dotted keys may go. -/
def nestingLimit : Nat := 80

def isKeyChar (c : Char) : Bool :=
  c.isAlphanum || c = '_' || c = '-'

def readKeyPart? : List Char → Option (String × List Char)
  | '"' :: rest => (readBasic? rest).map fun (text, rest) => (String.ofList text, rest)
  | '\'' :: rest => (readLiteral? rest).map fun (text, rest) => (String.ofList text, rest)
  | input =>
      let text := input.takeWhile isKeyChar
      if text.isEmpty then none else some (String.ofList text, input.dropWhile isKeyChar)

def readKeyParts? : Nat → List Char → Option (List String × List Char)
  | 0, _ => none
  | fuel + 1, input => do
      let (part, rest) ← readKeyPart? (skipBlanks input)
      match skipBlanks rest with
      | '.' :: rest =>
          let (parts, rest) ← readKeyParts? fuel rest
          return (part :: parts, rest)
      | rest => return ([part], rest)

def readKey? (input : List Char) : Option (List String × List Char) :=
  readKeyParts? (nestingLimit - 1) input

def skipTrivia? : Bool → List Char → Option (List Char)
  | _, '\n' :: rest => skipTrivia? false rest
  | _, '\r' :: '\n' :: rest => skipTrivia? false rest
  | true, c :: rest => if isPlain c then skipTrivia? true rest else none
  | false, c :: rest =>
      if isBlank c then skipTrivia? false rest
      else if c = '#' then skipTrivia? true rest
      else some (c :: rest)
  | _, [] => some []

def endLine? (input : List Char) : Option (List Char) :=
  match skipBlanks input with
  | [] => some []
  | '\n' :: rest => some rest
  | '\r' :: '\n' :: rest => some rest
  | '#' :: rest =>
      match rest.dropWhile isPlain with
      | [] => some []
      | '\n' :: rest => some rest
      | '\r' :: '\n' :: rest => some rest
      | _ => none
  | _ => none

def tokenValue? (token : List Char) : Option Value :=
  match integer? token with
  | some value => some (.integer value)
  | none =>
      if token == "true".toList then some (.boolean true)
      else if token == "false".toList then some (.boolean false)
      else if isDouble token then some .double
      else if isMoment token then some .moment
      else none

mutual

/-- A value at the front of the input; `depth` more brackets may be opened. -/
def readValue? : Nat → Nat → List Char → Option (Value × List Char)
  | 0, _, _ => none
  | fuel + 1, depth, input =>
      match input with
      | '"' :: _ | '\'' :: _ =>
          (readString? input).map fun (text, rest) => (.string (String.ofList text), rest)
      | '[' :: rest =>
          match depth with
          | 0 => none
          | depth + 1 =>
              (readElements? fuel depth rest).map fun (elements, rest) => (.array elements, rest)
      | '\x7b' :: rest =>
          match depth with
          | 0 => none
          | depth + 1 => do
              let (pairs, rest) ←
                match skipBlanks rest with
                | '\x7d' :: rest => some ([], rest)
                | rest => readPairs? fuel depth rest
              return (← inlineTable? pairs, rest)
      | input =>
          let (token, rest) := splitToken input
          (tokenValue? token).map (·, rest)

def readElements? : Nat → Nat → List Char → Option (List Value × List Char)
  | 0, _, _ => none
  | fuel + 1, depth, input => do
      match ← skipTrivia? false input with
      | ']' :: rest => return ([], rest)
      | input =>
          let (value, rest) ← readValue? fuel depth input
          match ← skipTrivia? false rest with
          | ',' :: rest =>
              let (values, rest) ← readElements? fuel depth rest
              return (value :: values, rest)
          | ']' :: rest => return ([value], rest)
          | _ => none

def readPairs? : Nat → Nat → List Char → Option (List (List String × Value) × List Char)
  | 0, _, _ => none
  | fuel + 1, depth, input => do
      let (path, rest) ← readKey? input
      match rest with
      | '=' :: rest =>
          let (value, rest) ← readValue? fuel depth (skipBlanks rest)
          match skipBlanks rest with
          | ',' :: rest =>
              let (pairs, rest) ← readPairs? fuel depth rest
              return ((path, value) :: pairs, rest)
          | '\x7d' :: rest => return ([(path, value)], rest)
          | _ => none
      | _ => none

end

def readStatement? (input : List Char) : Option (Statement × List Char) :=
  match input with
  | '[' :: '[' :: rest => do
      let (path, rest) ← readKey? rest
      match rest with
      | ']' :: ']' :: rest => return (.repeatedHeader path, ← endLine? rest)
      | _ => none
  | '[' :: rest => do
      let (path, rest) ← readKey? rest
      match rest with
      | ']' :: rest => return (.header path, ← endLine? rest)
      | _ => none
  | input => do
      let (path, rest) ← readKey? input
      match rest with
      | '=' :: rest =>
          let rest := skipBlanks rest
          let (value, rest) ← readValue? (rest.length + 1) (nestingLimit - 1) rest
          return (.assign path value, ← endLine? rest)
      | _ => none

def readStatements? : Nat → List Char → Option (List Statement)
  | 0, _ => none
  | fuel + 1, input =>
      match skipTrivia? false input with
      | none => none
      | some [] => some []
      | some input => do
          let (statement, rest) ← readStatement? input
          return statement :: (← readStatements? fuel rest)

def skipMark : List Char → List Char
  | '\uFEFF' :: rest => rest
  | input => input

def read? (text : String) : Option Entries := do
  let input := skipMark text.toList
  assemble? (← readStatements? (input.length + 1) input)

end ReplicaPool.Toml
