/-!
# Blank characters

`isBlank` is the Unicode property `White_Space`; `trim` removes such characters from both ends of
a text.
-/

namespace ReplicaPool.Text

def isBlank (c : Char) : Bool :=
  let codePoint := c.toNat
  (decide (9 ≤ codePoint) && decide (codePoint ≤ 13)) || codePoint == 0x20 || codePoint == 0x85
    || codePoint == 0xA0 || codePoint == 0x1680
    || (decide (0x2000 ≤ codePoint) && decide (codePoint ≤ 0x200A)) || codePoint == 0x2028
    || codePoint == 0x2029 || codePoint == 0x202F || codePoint == 0x205F || codePoint == 0x3000

def trimList (text : List Char) : List Char :=
  ((text.dropWhile isBlank).reverse.dropWhile isBlank).reverse

def trim (text : String) : String :=
  String.ofList (trimList text.toList)

end ReplicaPool.Text
