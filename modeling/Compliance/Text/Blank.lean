/-!
White space as Unicode's property White_Space has it, trimming, and words, which are the non-empty
stretches between blanks.
-/

namespace Compliance.Text

def isBlank (c : Char) : Bool :=
  let point := c.toNat
  point == 0x20 || (0x9 ≤ point && point ≤ 0xD) || point == 0x85 || point == 0xA0 ||
    point == 0x1680 || (0x2000 ≤ point && point ≤ 0x200A) || point == 0x2028 ||
    point == 0x2029 || point == 0x202F || point == 0x205F || point == 0x3000

def dropBlanks (text : List Char) : List Char :=
  text.dropWhile isBlank

def dropBlanksEnd (text : List Char) : List Char :=
  (text.reverse.dropWhile isBlank).reverse

def trimmed (text : List Char) : List Char :=
  dropBlanksEnd (dropBlanks text)

def allBlank (text : List Char) : Bool :=
  text.all isBlank

def words (text : List Char) : List (List Char) :=
  (text.splitOnP isBlank).filter (fun word => !word.isEmpty)

end Compliance.Text

namespace Compliance

def trim (text : String) : String :=
  String.ofList (Text.trimmed text.toList)

def isBlankText (text : String) : Bool :=
  Text.allBlank text.toList

end Compliance
