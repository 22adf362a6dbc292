import ReplicaPool.Text.Printable

/-!
# Quoted text

Messages show a string between quotes with its special and invisible characters escaped:
`Text.quoted` leaves an apostrophe alone, `Text.quotedName` escapes it too and is used for file
names.
-/

namespace ReplicaPool.Text

def hexadecimal (codePoint : Nat) : String :=
  String.ofList (Nat.toDigits 16 codePoint)

/-- The written form of one character, with the characters of `marks` behind a backslash. -/
def escape (marks : List Char) (c : Char) : String :=
  if c = '\x00' then "\\0"
  else if c = '\t' then "\\t"
  else if c = '\n' then "\\n"
  else if c = '\r' then "\\r"
  else if marks.contains c then String.ofList ['\\', c]
  else if isVisible c then String.singleton c
  else "\\u\x7b" ++ hexadecimal c.toNat ++ "\x7d"

def quoted (text : String) : String :=
  "\"" ++ String.join (text.toList.map (escape ['"', '\\'])) ++ "\""

def quotedName (name : String) : String :=
  "\"" ++ String.join (name.toList.map (escape ['"', '\\', '\''])) ++ "\""

end ReplicaPool.Text
