import LeaseKeeper.Text.Blank

/-!
# Numerals

Reading a whole number of sixty-four bits from its decimal digits. A single plus sign
may stand in front; a text without digits, with any other character, or beyond the
range is refused, each for its own reason. Beside it the numerals with a point and an
exponent (`isDecimal`), and those with a plus sign in front (`isPlusNumeral`).
-/

namespace LeaseKeeper.Text

/-- Why a text is no number. -/
inductive NumeralFault where
  | empty
  | invalidDigit
  | tooLarge
deriving DecidableEq, Repr

namespace NumeralFault

/-- The reason in words. -/
def message : NumeralFault → String
  | empty => "cannot parse integer from empty string"
  | invalidDigit => "invalid digit found in string"
  | tooLarge => "number too large to fit in target type"

end NumeralFault

/-- The value of a decimal digit. -/
def digit? (c : Char) : Option Nat :=
  if '0'.toNat ≤ c.toNat ∧ c.toNat ≤ '9'.toNat then some (c.toNat - '0'.toNat) else none

/-- Reads digits after those that gave `value`, the first fault from the left deciding. -/
def readDigits (value : Nat) : List Char → Except NumeralFault Nat
  | [] => .ok value
  | c :: cs =>
    match digit? c with
    | none => .error .invalidDigit
    | some d =>
      if value * 10 + d < 18446744073709551616 then readDigits (value * 10 + d) cs
      else .error .tooLarge

/-- Reads a number of sixty-four bits. -/
def readNumber (s : String) : Except NumeralFault UInt64 :=
  match s.toList with
  | [] => .error .empty
  | ['+'] => .error .invalidDigit
  | '+' :: cs => (readDigits 0 cs).map UInt64.ofNat
  | cs => (readDigits 0 cs).map UInt64.ofNat

/-- Whether the characters are digits, at least one. -/
def areDigits (cs : List Char) : Bool := !cs.isEmpty && cs.all Char.isDigit

/-- Whether the characters are digits with a sign in front or none. -/
def isExponent : List Char → Bool
  | '+' :: cs => areDigits cs
  | '-' :: cs => areDigits cs
  | cs => areDigits cs

/-- Whether the characters are digits, at least one, with a point among, before or behind
them or none, and an exponent behind an E or none. -/
def isDecimal (cs : List Char) : Bool :=
  let isMark c := c == 'e' || c == 'E'
  let mantissa := cs.takeWhile (!isMark ·)
  let digits := mantissa.takeWhile (· != '.') ++ (mantissa.dropWhile (· != '.')).tail
  areDigits digits &&
    match cs.drop mantissa.length with
    | [] => true
    | _ :: exponent => isExponent exponent

/-- Whether the characters are a plus sign and a decimal numeral, or the name of a number
beyond all or of none. -/
def isPlusNumeral : List Char → Bool
  | '+' :: cs =>
    isDecimal cs || ["inf", "infinity", "nan"].contains (String.ofList (lowerChars cs))
  | _ => false

end LeaseKeeper.Text
