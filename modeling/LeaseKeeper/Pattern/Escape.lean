import LeaseKeeper.Pattern.Basic
import LeaseKeeper.Pattern.Room

/-!
# Escapes in patterns

What a backslash and the characters behind it stand for (`readEscape?`). Digits would refer
to a group, and letters without a meaning are kept free; both are refused, as are the
letters that ask for a property of characters and code points between braces.
-/

namespace LeaseKeeper.Pattern

/-- What a backslash and the characters behind it stand for. -/
inductive Escape where
  | sign (s : Sign)
  | shorthand (letter : Char)
  | edge
  | boundary
deriving DecidableEq, Repr

/-- The value of a hexadecimal digit. -/
def hexDigit? (c : Char) : Option Nat :=
  if c.isDigit then some (c.toNat - 48)
  else if 'a' ≤ c ∧ c ≤ 'f' then some (c.toNat - 87)
  else if 'A' ≤ c ∧ c ≤ 'F' then some (c.toNat - 55)
  else none

/-- Reads so many hexadecimal digits behind a number. -/
def readHex? (roomy : Bool) : Nat → Nat → List Char → Option (Nat × List Char)
  | 0, n, cs => some (n, cs)
  | count + 1, n, cs =>
    match skip roomy cs with
    | [] => none
    | c :: cs => (hexDigit? c).bind fun d => readHex? roomy count (n * 16 + d) cs

/-- The character of a code point. -/
def charOf? (n : Nat) : Option Char := if n.isValidChar then some (Char.ofNat n) else none

/-- Reads a character by the digits of its code point. -/
def readCodePoint? (roomy : Bool) (count : Nat) (isByte : Bool) (cs : List Char) :
    Option (Escape × List Char) :=
  (readHex? roomy count 0 cs).bind fun (n, rest) =>
    (charOf? n).map fun c => (.sign ⟨c, isByte⟩, rest)

/-- What a letter stands for, or a sign of ASCII that is none. -/
def meaning? (c : Char) : Option Escape :=
  match c with
  | 'a' => some (.sign ⟨'\x07', false⟩)
  | 'f' => some (.sign ⟨'\x0c', false⟩)
  | 't' => some (.sign ⟨'\t', false⟩)
  | 'n' => some (.sign ⟨'\n', false⟩)
  | 'r' => some (.sign ⟨'\r', false⟩)
  | 'v' => some (.sign ⟨'\x0b', false⟩)
  | 'A' | 'z' => some .edge
  | 'b' | 'B' | '<' | '>' => some .boundary
  | 'd' | 's' | 'w' | 'D' | 'S' | 'W' => some (.shorthand c)
  | _ => if c.toNat < 0x80 && !c.isAlphanum then some (.sign ⟨c, false⟩) else none

/-- Reads what a backslash and the characters behind it stand for. -/
def readEscape? (roomy : Bool) : List Char → Option (Escape × List Char)
  | [] => none
  | 'x' :: cs => readCodePoint? roomy 2 true cs
  | 'u' :: cs => readCodePoint? roomy 4 false cs
  | 'U' :: cs => readCodePoint? roomy 8 false cs
  | c :: cs => (meaning? c).map fun e => (e, cs)

end LeaseKeeper.Pattern
