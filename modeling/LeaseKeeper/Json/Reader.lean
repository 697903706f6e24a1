import LeaseKeeper.Json.Basic

/-!
# Reading documents

`Json.parse?` reads a whole text as one document with blanks around it. Digits, escapes
and separators follow the grammar to the letter: no leading zeros, no trailing commas, no
bare control characters, nothing after the document. Each call of the reader that does
not end its input consumes a character or opens what it reads next, so twice the length
of the text is fuel enough.
-/

namespace LeaseKeeper.Json

/-- Whether the character may stand between the parts of a document. -/
def isGap (c : Char) : Bool := c == ' ' || c == '\n' || c == '\t' || c == '\r'

/-- The text after the blanks in front. -/
def skipGaps (cs : List Char) : List Char := cs.dropWhile isGap

/-- The value of a hexadecimal digit. -/
def hex? (c : Char) : Option Nat :=
  if '0' ≤ c ∧ c ≤ '9' then some (c.toNat - '0'.toNat)
  else if 'a' ≤ c ∧ c ≤ 'f' then some (c.toNat - 'a'.toNat + 10)
  else if 'A' ≤ c ∧ c ≤ 'F' then some (c.toNat - 'A'.toNat + 10)
  else none

/-- The value of four hexadecimal digits. -/
def hex4? (a b c d : Char) : Option Nat := do
  let a ← hex? a
  let b ← hex? b
  let c ← hex? c
  let d ← hex? d
  pure (((a * 16 + b) * 16 + c) * 16 + d)

/-- The character that a short escape stands for. -/
def shortEscape? : Char → Option Char
  | '"' => some '"'
  | '\\' => some '\\'
  | '/' => some '/'
  | 'b' => some '\x08'
  | 'f' => some '\x0c'
  | 'n' => some '\n'
  | 'r' => some '\r'
  | 't' => some '\t'
  | _ => none

/-- Whether a unit is the first half of a pair. -/
def isHigh (n : Nat) : Bool := 0xd800 ≤ n && n ≤ 0xdbff

/-- Whether a unit is the second half of a pair. -/
def isLow (n : Nat) : Bool := 0xdc00 ≤ n && n ≤ 0xdfff

/-- Reads a text up to its closing quote. The characters read so far stand in `acc`, last
first; there are none once the text is garbled. -/
def readText (acc : Option (List Char)) : List Char → Option (Option String × List Char)
  | [] => none
  | '"' :: cs => some (acc.map fun r => String.ofList r.reverse, cs)
  | '\\' :: 'u' :: a :: b :: c :: d :: '\\' :: 'u' :: e :: f :: g :: h :: cs => do
    let n ← hex4? a b c d
    if isHigh n then
      let m ← hex4? e f g h
      if isLow m then
        readText (acc.map (Char.ofNat (0x10000 + (n - 0xd800) * 0x400 + (m - 0xdc00)) :: ·)) cs
      else readText none ('\\' :: 'u' :: e :: f :: g :: h :: cs)
    else if isLow n then readText none ('\\' :: 'u' :: e :: f :: g :: h :: cs)
    else readText (acc.map (Char.ofNat n :: ·)) ('\\' :: 'u' :: e :: f :: g :: h :: cs)
  | '\\' :: 'u' :: a :: b :: c :: d :: cs => do
    let n ← hex4? a b c d
    if isHigh n || isLow n then readText none cs
    else readText (acc.map (Char.ofNat n :: ·)) cs
  | '\\' :: c :: cs => do
    let e ← shortEscape? c
    readText (acc.map (e :: ·)) cs
  | c :: cs => if c.toNat < 0x20 || c == '\\' then none else readText (acc.map (c :: ·)) cs

/-- The digits in front, and the rest. -/
def takeDigits (cs : List Char) : List Char × List Char :=
  (cs.takeWhile Char.isDigit, cs.dropWhile Char.isDigit)

/-- The number that digits write. -/
def digitsValue (ds : List Char) : Nat :=
  ds.foldl (fun n d => n * 10 + (d.toNat - '0'.toNat)) 0

/-- The whole part of a number: digits that do not begin with a zero, or a zero alone. -/
def readWhole (cs : List Char) : Option (List Char × List Char) :=
  match takeDigits cs with
  | ([], _) => none
  | (['0'], rest) => some (['0'], rest)
  | ('0' :: _, _) => none
  | (ds, rest) => some (ds, rest)

/-- The decimal places of a number, if it has any. -/
def readPlaces : List Char → Option (List Char × List Char)
  | '.' :: cs =>
    match takeDigits cs with
    | ([], _) => none
    | (ds, rest) => some (ds, rest)
  | cs => some ([], cs)

/-- The digits of an exponent. -/
def readPower (negative : Bool) (cs : List Char) : Option (Option Int × List Char) :=
  match takeDigits cs with
  | ([], _) => none
  | (ds, rest) =>
    let n : Int := digitsValue ds
    some (some (if negative then -n else n), rest)

/-- The exponent of a number, if it has one. -/
def readExponent : List Char → Option (Option Int × List Char)
  | c :: '+' :: cs =>
    if c == 'e' || c == 'E' then readPower false cs else some (none, c :: '+' :: cs)
  | c :: '-' :: cs =>
    if c == 'e' || c == 'E' then readPower true cs else some (none, c :: '-' :: cs)
  | c :: cs => if c == 'e' || c == 'E' then readPower false cs else some (none, c :: cs)
  | [] => some (none, [])

/-- A number after its sign. -/
def readUnsigned (negative : Bool) (cs : List Char) : Option (Number × List Char) := do
  let (whole, cs) ← readWhole cs
  let (places, cs) ← readPlaces cs
  let (power, cs) ← readExponent cs
  let n := digitsValue (whole ++ places)
  match places, power with
  | [], none => pure (if negative then .negated n else .natural n, cs)
  | _, _ =>
    let signed : Int := if negative then -(n : Int) else n
    pure (.real signed (power.getD 0 - places.length), cs)

/-- A number. -/
def readNumber : List Char → Option (Number × List Char)
  | '-' :: cs => readUnsigned true cs
  | cs => readUnsigned false cs

/-- The members as an object; one whose name has no characters garbles the whole. -/
def ofMembers (ms : List (Option String × Json)) : Json :=
  match ms.mapM fun m => m.1.map fun name => (name, m.2) with
  | some named => .object named
  | none => .garbled

mutual

/-- Reads one value, blanks in front allowed. -/
def readValue : Nat → List Char → Option (Json × List Char)
  | 0, _ => none
  | fuel + 1, cs =>
    match skipGaps cs with
    | 'n' :: 'u' :: 'l' :: 'l' :: rest => some (.null, rest)
    | 't' :: 'r' :: 'u' :: 'e' :: rest => some (.bool true, rest)
    | 'f' :: 'a' :: 'l' :: 's' :: 'e' :: rest => some (.bool false, rest)
    | '"' :: rest => do
      let (s, rest) ← readText (some []) rest
      pure (match s with
        | some s => .text s
        | none => .garbled, rest)
    | '[' :: rest =>
      match skipGaps rest with
      | ']' :: rest => some (.array [], rest)
      | rest => do
        let (js, rest) ← readItems fuel rest
        pure (.array js, rest)
    | '\x7b' :: rest =>
      match skipGaps rest with
      | '\x7d' :: rest => some (.object [], rest)
      | rest => do
        let (ms, rest) ← readMembers fuel rest
        pure (ofMembers ms, rest)
    | cs => (readNumber cs).map fun (n, rest) => (.number n, rest)

/-- Reads the items up to the closing bracket; there is at least one. -/
def readItems : Nat → List Char → Option (List Json × List Char)
  | 0, _ => none
  | fuel + 1, cs => do
    let (j, rest) ← readValue fuel cs
    match skipGaps rest with
    | ',' :: rest =>
      let (js, rest) ← readItems fuel rest
      pure (j :: js, rest)
    | ']' :: rest => pure ([j], rest)
    | _ => none

/-- Reads the members up to the closing brace; there is at least one. -/
def readMembers : Nat → List Char → Option (List (Option String × Json) × List Char)
  | 0, _ => none
  | fuel + 1, cs =>
    match skipGaps cs with
    | '"' :: rest => do
      let (name, rest) ← readText (some []) rest
      match skipGaps rest with
      | ':' :: rest =>
        let (j, rest) ← readValue fuel rest
        match skipGaps rest with
        | ',' :: rest =>
          let (ms, rest) ← readMembers fuel rest
          pure ((name, j) :: ms, rest)
        | '\x7d' :: rest => pure ([(name, j)], rest)
        | _ => none
      | _ => none
    | _ => none

end

/-- Reads a whole text as one document. -/
def parse? (s : String) : Option Json :=
  let cs := s.toList
  match readValue (2 * cs.length + 2) cs with
  | some (j, rest) => if (skipGaps rest).isEmpty then some j else none
  | none => none

end LeaseKeeper.Json
