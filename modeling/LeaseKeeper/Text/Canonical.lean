import LeaseKeeper.Text.Canonical.Table

/-!
# Canonical texts

The same letter with its marks can be written as one character or as several, and its marks
in more than one order. A canonical text is written with as few characters as possible and
with the marks in their order: everything is taken apart (`takeApart`), the marks are put in
order (`orderMarks`), and what can be is put together again (`compose`).
-/

namespace LeaseKeeper.Text

/-! ## Syllables of Hangul -/

/-- The number of syllables that begin alike, and that end alike. -/
def syllablesByStart : Nat := 588

/-- The number of syllables that differ only in their end. -/
def syllablesByEnd : Nat := 28

/-- The first syllable. -/
def firstSyllable : Nat := 0xac00

/-- How many syllables there are. -/
def syllableCount : Nat := 11172

/-- Whether the code point is a syllable. -/
def isSyllable (n : Nat) : Bool := firstSyllable ≤ n && n < firstSyllable + syllableCount

/-- The letters of a syllable. -/
def lettersOf (n : Nat) : List Char :=
  let i := n - firstSyllable
  let start := Char.ofNat (0x1100 + i / syllablesByStart)
  let middle := Char.ofNat (0x1161 + i % syllablesByStart / syllablesByEnd)
  if i % syllablesByEnd = 0 then [start, middle]
  else [start, middle, Char.ofNat (0x11a7 + i % syllablesByEnd)]

/-- The syllable of a start or a syllable without an end, and a letter behind it. -/
def syllable? (a b : Nat) : Option Char :=
  if 0x1100 ≤ a ∧ a < 0x1113 ∧ 0x1161 ≤ b ∧ b < 0x1176 then
    some (Char.ofNat (firstSyllable + (a - 0x1100) * syllablesByStart +
      (b - 0x1161) * syllablesByEnd))
  else if isSyllable a ∧ (a - firstSyllable) % syllablesByEnd = 0 ∧ 0x11a7 < b ∧ b < 0x11c3 then
    some (Char.ofNat (a + (b - 0x11a7)))
  else none

/-! ## Taking apart -/

/-- Takes a character apart, in so many steps at most. -/
def takeApartIn : Nat → Char → List Char
  | 0, c => [c]
  | steps + 1, c =>
    match pieces.row? c with
    | some row => row.value.parts.flatMap (takeApartIn steps)
    | none => [c]

/-- No character takes more steps to be taken apart. -/
def stepsApart : Nat := 4

/-- Takes a character apart. -/
def takeApart (c : Char) : List Char :=
  if c.toNat < 0xc0 then [c]
  else if isSyllable c.toNat then lettersOf c.toNat
  else takeApartIn stepsApart c

/-! ## The order of marks -/

/-- Puts a character behind others, which stand in reverse, and in front of all marks that
come after it. -/
def placeMark (c : Char) : List Char → List Char
  | [] => [c]
  | d :: ds =>
    if markClass c ≠ 0 ∧ markClass c < markClass d then d :: placeMark c ds else c :: d :: ds

/-- Puts marks in order; those of one place stay as they are. -/
def orderMarks (cs : List Char) : List Char :=
  (cs.foldl (fun placed c => placeMark c placed) []).reverse

/-! ## Putting together -/

/-- The composite of two characters. -/
def composite? (a b : Char) : Option Char :=
  (syllable? a.toNat b.toNat).or
    ((pieces.find? fun r => r.value.isComposite && r.value.parts == [a, b]).map fun r =>
      Char.ofNat r.first)

/-- Characters being put together: what is done, in reverse, the letter that marks may join,
and the marks behind it that did not, in reverse. -/
structure Composing where
  done : List Char
  letter : Option Char
  marks : List Char

namespace Composing

/-- Whether a mark hides the letter from a character. -/
def isHidden (s : Composing) (c : Char) : Bool :=
  match s.marks with
  | [] => false
  | m :: _ => decide (markClass c ≤ markClass m)

/-- Everything, in reverse. -/
def all (s : Composing) : List Char := s.marks ++ s.letter.toList ++ s.done

/-- Goes on with a character. -/
def add (s : Composing) (c : Char) : Composing :=
  match if s.isHidden c then none else s.letter.bind (composite? · c) with
  | some d => { s with letter := some d }
  | none => if markClass c = 0 then ⟨s.all, some c, []⟩ else { s with marks := c :: s.marks }

end Composing

/-- Puts characters together. -/
def compose (cs : List Char) : List Char := (cs.foldl Composing.add ⟨[], none, []⟩).all.reverse

/-- The canonical form of a text. -/
def canonical (cs : List Char) : List Char := compose (orderMarks (cs.flatMap takeApart))

end LeaseKeeper.Text
