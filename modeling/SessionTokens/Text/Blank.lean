/-! # White space

The characters with the Unicode property `White_Space`, and trimming by it.
-/

namespace SessionTokens.Text

/-- The character is white space. -/
def isBlank (c : Char) : Bool :=
  let n := c.toNat
  (0x09 ≤ n && n ≤ 0x0D) || n = 0x20 || n = 0x85 || n = 0xA0 || n = 0x1680 ||
    (0x2000 ≤ n && n ≤ 0x200A) || n = 0x2028 || n = 0x2029 || n = 0x202F || n = 0x205F ||
    n = 0x3000

/-- What is left without the white space at the front. -/
def trimStart (cs : List Char) : List Char := cs.dropWhile isBlank

/-- What is left without the white space at the end. -/
def trimEnd (cs : List Char) : List Char := (cs.reverse.dropWhile isBlank).reverse

/-- What is left without the white space at both ends. -/
def trim (cs : List Char) : List Char := trimEnd (trimStart cs)

end SessionTokens.Text
