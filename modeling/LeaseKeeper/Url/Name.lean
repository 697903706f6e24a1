import LeaseKeeper.Text.Canonical
import LeaseKeeper.Text.Direction
import LeaseKeeper.Text.Joining
import LeaseKeeper.Url.Encoding
import LeaseKeeper.Url.Name.Mapping
import LeaseKeeper.Url.Punycode

/-!
# Domain names

A domain name is written with small letters, in canonical form, and is divided into labels
by dots. A label that begins with `xn--` stands for another, written in digits
(`readCoded?`); that one must be what it would be written as, and have something beyond
ASCII. No label begins with a mark, an invisible joiner stands only where scripts want it
(`areJoined`), and if anything in a name is written from the right, each label goes one way
(`goesOneWay`).
-/

namespace LeaseKeeper.Url.Name

open Text

/-! ## Characters -/

/-- The characters that no domain name holds. -/
def isForbidden (c : Char) : Bool :=
  c.toNat ≤ 0x20 || c.toNat == 0x7f || "%#/:<>?@[\\]^|".toList.contains c

/-- Whether the character is none of ASCII. -/
def isBeyondAscii (c : Char) : Bool := 0x7f < c.toNat

/-- How a name is written, if it can be. -/
def write? (name : List Char) : Option (List Char) :=
  (name.mapM Name.writeChar?).map fun cs => canonical cs.flatten

/-- Whether the characters are what they would be written as. -/
def isWritten (label : List Char) : Bool :=
  label.all (fun c => Name.writeChar? c == some [c]) && canonical label == label

/-! ## Joiners -/

/-- The place among marks of those that take the vowel from a letter. -/
def vowelKillers : Nat := 9

/-- Whether the first character that is not written through is joined in one of these
ways. -/
def meets (ways : List Joining) (cs : List Char) : Bool :=
  match cs.dropWhile fun c => joining c == .through with
  | [] => false
  | c :: _ => ways.contains (joining c)

/-- Whether a joiner may stand between characters, those before it in reverse. -/
def joins (c : Char) (before after : List Char) : Bool :=
  match before with
  | [] => false
  | b :: _ =>
    markClass b == vowelKillers ||
      (c == '\u200c' && meets [.withNext, .onBothSides] before &&
        meets [.withLast, .onBothSides] after)

/-- Whether every joiner stands where one may stand; `before` are the characters before
these, in reverse. -/
def areJoined (before : List Char) : List Char → Bool
  | [] => true
  | c :: cs =>
    (if c == '\u200c' || c == '\u200d' then joins c before cs else true) &&
      areJoined (c :: before) cs

/-! ## Directions -/

/-- Whether the character is written from the right or only beside such. -/
def isFromRight (c : Char) : Bool :=
  match direction c with
  | .right => true
  | .arabicDigit => true
  | _ => false

/-- The directions of a label without the marks at its end, in reverse. -/
def turns (label : List Char) : List Direction :=
  (label.map direction).reverse.dropWhile (· == .mark)

/-- Whether a label is written one way throughout. -/
def goesOneWay (label : List Char) : Bool :=
  let ds := turns label
  let may (ways : List Direction) : Bool := ds.all fun d => ways.contains d
  let ends (ways : List Direction) : Bool := ds.head?.any fun d => ways.contains d
  match label.head?.map direction with
  | none => true
  | some .left => may [.left, .digit, .neutral, .mark] && ends [.left, .digit]
  | some .right =>
    may [.right, .arabicDigit, .digit, .neutral, .mark] && ends [.right, .arabicDigit, .digit] &&
      !(ds.contains .arabicDigit && ds.contains .digit)
  | some _ => false

/-! ## Labels -/

/-- What stands before a label that is written in digits. -/
def codedMark : List Char := "xn--".toList

/-- The longest label with characters beyond ASCII. -/
def longestLabel : Nat := 1000

/-- The longest row of digits that is read. -/
def longestCode : Nat := 2000

/-- Whether a label can be one. -/
def isLabel (label : List Char) : Bool :=
  !label.any isForbidden && !label.head?.any isMark && areJoined [] label &&
    (!label.any isBeyondAscii || label.length ≤ longestLabel)

/-- The label for which another stands that is written in digits. -/
def readCoded? (label : List Char) : Option (List Char) :=
  if label.any isBeyondAscii || longestCode < (label.drop codedMark.length).length then none
  else
    (Punycode.decode? (label.drop codedMark.length)).filter fun ds =>
      ds.any isBeyondAscii && isWritten ds

/-- The label as it is meant, if it can be one. -/
def readLabel? (label : List Char) : Option (List Char) :=
  (if codedMark.isPrefixOf label then readCoded? label else some label).filter isLabel

/-- The name as it is written, if it can be one. -/
def read? (text : List Char) : Option (List Char) := do
  let name ← write? text
  let labels ← (name.splitOnP (· == '.')).mapM readLabel?
  if !labels.any (fun l => l.any isFromRight) || labels.all goesOneWay then some name else none

end LeaseKeeper.Url.Name
