/-!
# Blank characters

Two classes of blank characters are in use.  A *name* is blank when nothing is left of it after
blanks are cut off at both ends; there the four information separators `U+001C` to `U+001F` count
as blank.  A *numeral* may be surrounded by characters of the Unicode property `White_Space`, to
which the separators do not belong.
-/

namespace ReplayLedger.Text

/-- The characters of the Unicode property `White_Space`. -/
def isWhiteSpace (c : Char) : Bool :=
  let n := c.toNat
  (0x09 ≤ n && n ≤ 0x0D) || n == 0x20 || n == 0x85 || n == 0xA0 || n == 0x1680
    || (0x2000 ≤ n && n ≤ 0x200A) || n == 0x2028 || n == 0x2029 || n == 0x202F || n == 0x205F
    || n == 0x3000

/-- White space and the four information separators. -/
def isBlank (c : Char) : Bool :=
  isWhiteSpace c || (0x1C ≤ c.toNat && c.toNat ≤ 0x1F)

/-- Cuts off the characters of a class at both ends. -/
def trimWhile (p : Char → Bool) (cs : List Char) : List Char :=
  ((cs.dropWhile p).reverse.dropWhile p).reverse

/-- Cuts off blanks at both ends. -/
def trim (s : String) : String :=
  String.ofList (trimWhile isBlank s.toList)

/-- A text is blank when it holds nothing but blanks; the empty text is. -/
def IsBlankText (s : String) : Prop :=
  s.toList.all isBlank = true

instance (s : String) : Decidable (IsBlankText s) :=
  inferInstanceAs (Decidable (_ = true))

end ReplayLedger.Text
