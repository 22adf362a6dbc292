import ReplicaPool.Json.Text
import ReplicaPool.Text.Quoted

/-!
# Typed results

A `Shape` says what a reply has to look like. `Shape.decode` reads a value left to right and depth
first; it gives the value back in the shape's own form, or the first fault that it meets.
-/

namespace ReplicaPool

inductive Shape where
  | anything
  | text
  | boolean
  | unsigned (bits : Nat)
  | signed (bits : Nat)
  /-- A double; whole numbers are rounded to one. -/
  | real
  | unit
  | optional (content : Shape)
  | sequence (element : Shape)
  | pair (first second : Shape)
  | single (element : Shape)
  /-- One of a few words, as a string or as the only field of an object that holds nothing. -/
  | choice (words : List String)
deriving Inhabited

namespace Shape

def description : Shape → String
  | .anything => "any value"
  | .text => "a string"
  | .boolean => "a boolean"
  | .unsigned bits => "u" ++ toString bits
  | .signed bits => "i" ++ toString bits
  | .real => "f64"
  | .unit => "unit"
  | .optional content => content.description
  | .sequence _ => "a sequence"
  | .pair _ _ => "a tuple of size 2"
  | .single _ => "an array of length 1"
  | .choice _ => "string or map"

def fits : Shape → Int → Bool
  | .unsigned bits, value => isUnsigned bits value
  | .signed bits, value => isSigned bits value
  | _, _ => false

end Shape

inductive DecodeError where
  /-- A value of another kind. -/
  | wrongKind (found : Json) (expected : Shape)
  /-- A value of the right kind that is out of range. -/
  | wrongValue (found : Json) (expected : Shape)
  | tooShort (length : Nat) (expected : Shape)
  | tooLong (length : Nat)
  | unknownWord (word : String) (known : List String)
  | notOneField
deriving Inhabited

namespace DecodeError

def mention : Json → String
  | .null => "null"
  | .bool value => "boolean `" ++ toString value ++ "`"
  | .integer value => "integer `" ++ toString value ++ "`"
  | .double value => "floating point `" ++ value.text ++ "`"
  | .string value => "string " ++ Text.quoted value
  | .array _ => "sequence"
  | .object _ => "map"

def wordList : List String → String
  | [] => "there are no variants"
  | [only] => "expected `" ++ only ++ "`"
  | [first, second] => "expected `" ++ first ++ "` or `" ++ second ++ "`"
  | words => "expected one of " ++ ", ".intercalate (words.map fun word => "`" ++ word ++ "`")

def message : DecodeError → String
  | .wrongKind found expected =>
      "invalid type: " ++ mention found ++ ", expected " ++ expected.description
  | .wrongValue found expected =>
      "invalid value: " ++ mention found ++ ", expected " ++ expected.description
  | .tooShort length expected =>
      "invalid length " ++ toString length ++ ", expected " ++ expected.description
  | .tooLong length =>
      "invalid length " ++ toString length ++ ", expected fewer elements in array"
  | .unknownWord word known => "unknown variant `" ++ word ++ "`, " ++ wordList known
  | .notOneField => "invalid value: map, expected map with a single key"

end DecodeError

namespace Shape

def decodeWord (shape : Shape) : Json → Except DecodeError Json
  | .integer value =>
      if shape.fits value then .ok (.integer value)
      else .error (.wrongValue (.integer value) shape)
  | found => .error (.wrongKind found shape)

def decodeChoice (words : List String) : Json → Except DecodeError Json
  | .string word =>
      if words.contains word then .ok (.string word) else .error (.unknownWord word words)
  | .object [(word, content)] =>
      if words.contains word then
        match content with
        | .null => .ok (.string word)
        | found => .error (.wrongKind found .unit)
      else .error (.unknownWord word words)
  | .object _ => .error .notOneField
  | found => .error (.wrongKind found (.choice words))

def decode : Shape → Json → Except DecodeError Json
  | .anything, found => .ok found
  | .text, .string value => .ok (.string value)
  | .boolean, .bool value => .ok (.bool value)
  | .unsigned bits, found => decodeWord (.unsigned bits) found
  | .signed bits, found => decodeWord (.signed bits) found
  | .real, .double value => .ok (.double value)
  | .real, .integer value =>
      match Double.ofInt? value with
      | some nearest => .ok (.double nearest)
      | none => .error (.wrongValue (.integer value) .real)
  | .unit, .null => .ok .null
  | .optional _, .null => .ok .null
  | .optional content, found => content.decode found
  | .sequence element, .array found => (found.mapM element.decode).map .array
  | .pair first second, .array found =>
      match found with
      | [] => .error (.tooShort 0 (.pair first second))
      | [one] => do
          let _ ← first.decode one
          .error (.tooShort 1 (.pair first second))
      | one :: two :: rest => do
          let one ← first.decode one
          let two ← second.decode two
          if rest.isEmpty then .ok (.array [one, two]) else .error (.tooLong found.length)
  | .single element, .array found =>
      match found with
      | [] => .error (.tooShort 0 (.single element))
      | one :: rest => do
          let one ← element.decode one
          if rest.isEmpty then .ok (.array [one]) else .error (.tooLong found.length)
  | .choice words, found => decodeChoice words found
  | expected, found => .error (.wrongKind found expected)

def decodeRows (shape : Shape) (rows : List Json) : Except DecodeError Json :=
  shape.decode (.array rows)

end Shape

end ReplicaPool
