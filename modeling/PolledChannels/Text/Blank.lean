/-!
# Blank characters

The characters with the Unicode property White_Space, and the removal of blanks
at both ends of a text.
-/

namespace PolledChannels.Text

/-- The characters with the property White_Space: 25 code points. -/
def isBlank (c : Char) : Bool :=
  let n := c.toNat
  (0x09 ≤ n && n ≤ 0x0D) || n == 0x20 || n == 0x85 || n == 0xA0 || n == 0x1680 ||
    (0x2000 ≤ n && n ≤ 0x200A) || n == 0x2028 || n == 0x2029 || n == 0x202F || n == 0x205F ||
    n == 0x3000

/-- The text without the blanks at its two ends. -/
def strip (cs : List Char) : List Char :=
  ((cs.dropWhile isBlank).reverse.dropWhile isBlank).reverse

def trimmed (s : String) : String :=
  String.ofList (strip s.toList)

/-- The text with its ASCII capitals made small; every other character stays. -/
def asciiLower (s : String) : String :=
  String.ofList (s.toList.map Char.toLower)

end PolledChannels.Text
