/-!
# Tables of code points

What code points have, written down as text. The rows of a table are divided by blanks and
line ends. A row is a code point or, with a hyphen between them, the first and the last of
several that follow each other, in hexadecimal digits; behind it stands what they have,
which begins with another sign than a hyphen. Rows do not overlap, so the first one found is
the only one.
-/

namespace LeaseKeeper.Text

/-- What code points that follow each other have. -/
structure Row (α : Type) where
  first : Nat
  last : Nat
  value : α

/-- What code points have, for those that have something. -/
abbrev Table (α : Type) := Array (Row α)

namespace Table

/-- The value of a hexadecimal digit in small letters. -/
def digit? (c : Char) : Option Nat :=
  if '0' ≤ c ∧ c ≤ '9' then some (c.toNat - 48)
  else if 'a' ≤ c ∧ c ≤ 'f' then some (c.toNat - 87)
  else none

/-- Reads digits behind a number and tells what stands behind them. -/
def readDigits (n : Nat) : List Char → Nat × List Char
  | [] => (n, [])
  | c :: cs =>
    match digit? c with
    | some d => readDigits (n * 16 + d) cs
    | none => (n, c :: cs)

/-- Reads a number and tells what stands behind it. -/
def readHex (cs : List Char) : Nat × List Char := readDigits 0 cs

/-- Reads characters by their code points, with points between them. -/
def readChars (cs : List Char) : List Char :=
  (cs.splitOnP (· == '.')).map fun ds => Char.ofNat (readHex ds).1

variable {α : Type}

/-- Reads a row. -/
def readRow (read : List Char → α) (cs : List Char) : Row α :=
  let (first, rest) := readHex cs
  match rest with
  | '-' :: rest =>
    let (last, rest) := readHex rest
    ⟨first, last, read rest⟩
  | rest => ⟨first, first, read rest⟩

/-- Reads a table. -/
def ofText (read : List Char → α) (text : String) : Table α :=
  let rows := (text.toList.splitOnP fun c => c == ' ' || c == '\n').filter (!·.isEmpty)
  (rows.map (readRow read)).toArray

/-- Reads a table that tells only which code points there are. -/
def ofRanges (text : String) : Table Unit := ofText (fun _ => ()) text

/-- The row of a character. -/
def row? (t : Table α) (c : Char) : Option (Row α) :=
  t.find? fun r => r.first ≤ c.toNat && c.toNat ≤ r.last

/-- Whether a character is in a table. -/
def has (t : Table α) (c : Char) : Bool := t.any fun r => r.first ≤ c.toNat && c.toNat ≤ r.last

end Table

end LeaseKeeper.Text
