/-!
# Writing TOML

Strings are written in the plainest of five forms that can hold them. An array of at most one element
stays on one line; a longer one has a line for each element.
-/

namespace ReplicaPool.Toml

inductive Form where
  | basic
  | literal
  | basicLines
  | literalLines
deriving DecidableEq, Repr, Inhabited

def isCode (c : Char) : Bool :=
  (decide (c.toNat < 0x20) && c != '\t' && c != '\n') || c.toNat == 0x7F

def hasTriple (mark : Char) : List Char → Bool
  | a :: b :: c :: rest =>
      (a = mark && b = mark && c = mark) || hasTriple mark (b :: c :: rest)
  | _ => false

def formOf (text : List Char) : Form :=
  let coded := text.any isCode
  let hasLine := text.contains '\n'
  if !coded && !text.contains '\\' && !text.contains '"' && !hasLine then .basic
  else if !coded && !text.contains '\'' && !hasLine then .literal
  else if !coded && !text.contains '\\' && !hasTriple '"' text then .basicLines
  else if !coded && !hasTriple '\'' text then .literalLines
  else if hasLine then .basicLines
  else .basic

def capitalDigit (value : Nat) : Char :=
  (Nat.digitChar value).toUpper

def escapeChar (c : Char) : List Char :=
  if c = '\x08' then ['\\', 'b']
  else if c = '\t' then ['\\', 't']
  else if c = '\n' then ['\\', 'n']
  else if c = '\x0c' then ['\\', 'f']
  else if c = '\r' then ['\\', 'r']
  else if c = '\\' then ['\\', '\\']
  else if isCode c then
    ['\\', 'u', '0', '0', capitalDigit (c.toNat / 16), capitalDigit (c.toNat % 16)]
  else [c]

def escapeLine (text : List Char) : List Char :=
  text.flatMap fun c => if c = '"' then ['\\', '"'] else escapeChar c

/-- The body of a basic string of several lines, after `quotes` quotes in a row: every third quote
in a row is escaped. -/
def escapeLines : Nat → List Char → List Char
  | _, [] => []
  | quotes, '"' :: rest =>
      if quotes = 2 then '\\' :: '"' :: escapeLines 0 rest
      else '"' :: escapeLines (quotes + 1) rest
  | _, '\n' :: rest => '\n' :: escapeLines 0 rest
  | _, c :: rest => escapeChar c ++ escapeLines 0 rest

def leadingLine (text : List Char) : List Char :=
  if text.contains '\n' then ['\n'] else []

def writeChars (text : List Char) : List Char :=
  match formOf text with
  | .basic => ['"'] ++ escapeLine text ++ ['"']
  | .literal => ['\''] ++ text ++ ['\'']
  | .basicLines =>
      ['"', '"', '"'] ++ leadingLine text ++ escapeLines 0 text ++ ['"', '"', '"']
  | .literalLines => ['\'', '\'', '\''] ++ leadingLine text ++ text ++ ['\'', '\'', '\'']

def writeString (text : String) : String :=
  String.ofList (writeChars text.toList)

def writeStrings : List String → String
  | [] => "[]"
  | [only] => "[" ++ writeString only ++ "]"
  | several =>
      "[\n" ++ String.join (several.map fun text => "    " ++ writeString text ++ ",\n") ++ "]"

def writeEntry (key value : String) : String :=
  key ++ " = " ++ value ++ "\n"

end ReplicaPool.Toml
