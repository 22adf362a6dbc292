import ReplicaPool.Json.Basic
import ReplicaPool.Number.Shortest

/-!
# JSON text

`Json.text` writes a value without blanks. A double is written in its shortest digits, with a point
for decimal exponents from -5 to 15 and in scientific form otherwise; a string escapes quotes,
backslashes and characters below U+0020 only.
-/

namespace ReplicaPool

def hexDigit (value : Nat) : Char :=
  Nat.digitChar value

def Json.escapeChar (c : Char) : String :=
  if c = '"' then "\\\""
  else if c = '\\' then "\\\\"
  else if c = '\x08' then "\\b"
  else if c = '\x0c' then "\\f"
  else if c = '\n' then "\\n"
  else if c = '\r' then "\\r"
  else if c = '\t' then "\\t"
  else if c.toNat < 0x20 then
    String.ofList ['\\', 'u', '0', '0', hexDigit (c.toNat / 16), hexDigit (c.toNat % 16)]
  else String.singleton c

def Json.quote (text : String) : String :=
  "\"" ++ String.join (text.toList.map escapeChar) ++ "\""

/-- Decimal exponents that are written without an exponent part. -/
def Double.isPlain (exponent : Int) : Bool :=
  decide (-5 ≤ exponent) && decide (exponent ≤ 15)

/-- The text of a magnitude `0.d₁d₂… · 10 ^ (exponent + 1)` with a point among the digits. -/
def Double.plainText (digits : String) (exponent : Int) : String :=
  if exponent < 0 then
    "0." ++ "".pushn '0' (-exponent - 1).toNat ++ digits
  else
    let whole := exponent.toNat + 1
    if digits.length ≤ whole then
      digits ++ "".pushn '0' (whole - digits.length) ++ ".0"
    else
      (digits.take whole).toString ++ "." ++ (digits.drop whole).toString

/-- The text of a magnitude with one digit before the point and an exponent part. -/
def Double.scientificText (digits : String) (exponent : Int) : String :=
  let leading := (digits.take 1).toString
  let rest := (digits.drop 1).toString
  let fraction := if rest.isEmpty then "" else "." ++ rest
  let sign := if exponent < 0 then "-" else "+"
  leading ++ fraction ++ "e" ++ sign ++ toString exponent.natAbs

/-- The shortest text that reads back as the double. -/
def Double.text (number : Double) : String :=
  let found := number.shortest
  let digits := toString found.digits
  let exponent := found.exponent + digits.length - 1
  let magnitude :=
    if Double.isPlain exponent then Double.plainText digits exponent
    else Double.scientificText digits exponent
  if number.negative then "-" ++ magnitude else magnitude

namespace Json

mutual

def text : Json → String
  | .null => "null"
  | .bool true => "true"
  | .bool false => "false"
  | .integer value => toString value
  | .double value => value.text
  | .string value => quote value
  | .array elements => "[" ++ ",".intercalate (elementTexts elements) ++ "]"
  | .object fields => "\x7b" ++ ",".intercalate (fieldTexts fields) ++ "\x7d"

def elementTexts : List Json → List String
  | [] => []
  | element :: rest => element.text :: elementTexts rest

def fieldTexts : List (String × Json) → List String
  | [] => []
  | (name, value) :: rest => (quote name ++ ":" ++ value.text) :: fieldTexts rest

end

end Json

end ReplicaPool
