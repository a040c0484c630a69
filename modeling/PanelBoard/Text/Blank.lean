/-!
# Blank text

The Unicode property White_Space and the trimming it gives. A configured name
or address that is blank counts as not given.
-/

namespace PanelBoard.Text

/-- The twenty-five code points with the Unicode property White_Space. -/
def isWhiteSpace (c : Char) : Bool :=
  let n := c.toNat
  (0x09 ≤ n && n ≤ 0x0D) || n == 0x20 || n == 0x85 || n == 0xA0 || n == 0x1680 ||
    (0x2000 ≤ n && n ≤ 0x200A) || n == 0x2028 || n == 0x2029 || n == 0x202F ||
    n == 0x205F || n == 0x3000

/-- Remove the elements satisfying `drop` from both ends. -/
def trimBoth {α : Type} (drop : α → Bool) (xs : List α) : List α :=
  ((xs.dropWhile drop).reverse.dropWhile drop).reverse

/-- A text is blank when nothing is left of it after trimming. -/
def isBlank (text : String) : Bool :=
  (trimBoth isWhiteSpace text.toList).isEmpty

end PanelBoard.Text
