/-!
# Blanks

The characters that are white space in Unicode (`isBlank`), and a text without those at
its ends (`trim`).
-/

namespace LeaseKeeper.Text

/-- Whether the character is white space in Unicode. -/
def isBlank (c : Char) : Bool :=
  let n := c.toNat
  (9 ≤ n && n ≤ 13) || n == 0x20 || n == 0x85 || n == 0xa0 || n == 0x1680 ||
    (0x2000 ≤ n && n ≤ 0x200a) || n == 0x2028 || n == 0x2029 || n == 0x202f || n == 0x205f ||
    n == 0x3000

/-- The characters without the blanks at both ends. -/
def trimChars (cs : List Char) : List Char :=
  ((cs.dropWhile isBlank).reverse.dropWhile isBlank).reverse

/-- A text without the blanks at both ends. -/
def trim (s : String) : String := String.ofList (trimChars s.toList)

/-- ASCII capitals become small letters; every other character stays. -/
def lowerChars (cs : List Char) : List Char := cs.map Char.toLower

/-- A text with its ASCII capitals made small. Letters beyond ASCII stay as they are. A lowering of
all letters turns two of them into ASCII ones, the Kelvin sign into `k` and the dotted capital I
into `i` with a combining dot after it. So a search for a phrase finds the same after either, if the
phrase is of small ASCII letters and blanks, has no `k` and does not end in `i`. -/
def lower (s : String) : String := String.ofList (lowerChars s.toList)

/-- Whether `part` stands somewhere in `cs`. -/
def occursIn (part : List Char) : List Char → Bool
  | [] => part.isEmpty
  | c :: cs => part.isPrefixOf (c :: cs) || occursIn part cs

/-- Whether `part` stands somewhere in `s`. -/
def contains (s part : String) : Bool := occursIn part.toList s.toList

end LeaseKeeper.Text
