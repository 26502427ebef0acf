/-!
White space in the sense of the Unicode property White_Space. Texts are trimmed and tested for
blankness by it: the zero width space, the byte order mark and the information separators are
not white.
-/

namespace Docket.Text

/-- The characters with the Unicode property White_Space. -/
def isWhite (c : Char) : Bool :=
  let n := c.toNat
  (0x09 ≤ n && n ≤ 0x0D) || n == 0x20 || n == 0x85 || n == 0xA0 || n == 0x1680 ||
  (0x2000 ≤ n && n ≤ 0x200A) || n == 0x2028 || n == 0x2029 || n == 0x202F || n == 0x205F ||
  n == 0x3000

def trimLeft (cs : List Char) : List Char := cs.dropWhile isWhite

def trimRight (cs : List Char) : List Char := (cs.reverse.dropWhile isWhite).reverse

def trim (s : String) : String := String.ofList (trimRight (trimLeft s.toList))

def isBlank (s : String) : Bool := s.toList.all isWhite

end Docket.Text
