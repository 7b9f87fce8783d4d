/-!
# Blank text

The characters with the Unicode property White_Space, and texts made of them alone.
-/

namespace Courier.Text

/-- The Unicode property White_Space. -/
def isBlank (c : Char) : Bool :=
  let n := c.toNat
  (0x9 ≤ n && n ≤ 0xD) || n == 0x20 || n == 0x85 || n == 0xA0 || n == 0x1680 ||
    (0x2000 ≤ n && n ≤ 0x200A) || n == 0x2028 || n == 0x2029 || n == 0x202F || n == 0x205F ||
    n == 0x3000

/-- Whether a text holds nothing but blanks. -/
def allBlank (text : String) : Bool := text.toList.all isBlank

/-- Characters without the blanks at their end. -/
def trimRight (text : List Char) : List Char := (text.reverse.dropWhile isBlank).reverse

end Courier.Text
