/-!
# Blank characters

Names, references and limits are read with blanks cut off both ends. A blank is
a character with the Unicode property White_Space: 25 characters in 10 ranges.
-/

namespace Conduit.Text

/-- Closed ranges of the code points with the property White_Space, ascending and apart. -/
def blankRanges : List (Nat × Nat) :=
  [(0x09, 0x0D), (0x20, 0x20), (0x85, 0x85), (0xA0, 0xA0), (0x1680, 0x1680),
   (0x2000, 0x200A), (0x2028, 0x2029), (0x202F, 0x202F), (0x205F, 0x205F), (0x3000, 0x3000)]

/-- Does the character have the property White_Space? -/
def isBlank (c : Char) : Bool :=
  blankRanges.any fun range => range.1 ≤ c.toNat && c.toNat ≤ range.2

/-- Drop the blanks at both ends. -/
def trim (cs : List Char) : List Char :=
  ((cs.dropWhile isBlank).reverse.dropWhile isBlank).reverse

/-- The text without the blanks at both ends. -/
def trimmed (text : String) : String :=
  String.ofList (trim text.toList)

theorem length_dropWhile_le (p : Char → Bool) (cs : List Char) :
    (cs.dropWhile p).length ≤ cs.length :=
  (List.dropWhile_suffix p).length_le

theorem length_trim_le (cs : List Char) : (trim cs).length ≤ cs.length := by
  have outer := length_dropWhile_le isBlank (cs.dropWhile isBlank).reverse
  have inner := length_dropWhile_le isBlank cs
  simp only [trim, List.length_reverse] at *
  omega

end Conduit.Text
