import LeaseKeeper.Pattern.Escape

/-!
# Sets in patterns

A set of characters between brackets (`readBracket?`). In a set stand characters, ranges,
shorthands, named classes between brackets and colons, and further sets in brackets; two
ampersands, hyphens or tildes combine what stands before them with what follows, from left
to right. Hyphens at the start stand for themselves, and so does a closing bracket there.
-/

namespace LeaseKeeper.Pattern

/-- The names of classes. -/
def classNames : List String :=
  ["alnum", "alpha", "ascii", "blank", "cntrl", "digit", "graph", "lower", "print", "punct",
    "space", "upper", "word", "xdigit"]

/-- Reads a class by its name, the bracket in front being gone. -/
def readNamed? : List Char → Option (CharSet × List Char)
  | ':' :: cs =>
    let negated := cs.head? == some '^'
    let cs := if negated then cs.tail else cs
    let name := cs.takeWhile (· != ':')
    match cs.drop name.length with
    | ':' :: ']' :: rest =>
      if classNames.contains (String.ofList name) then
        some (.named (String.ofList name) negated, rest)
      else none
    | _ => none
  | _ => none

/-- Reads a character or an escape. -/
def readMember? (roomy : Bool) : List Char → Option (Escape × List Char)
  | [] => none
  | '\\' :: cs => readEscape? roomy cs
  | c :: cs => some (.sign ⟨c, false⟩, cs)

/-- An escape as a set; a place is none. -/
def Escape.toSet? : Escape → Option CharSet
  | .sign s => some (.one s)
  | .shorthand letter => some (.shorthand letter)
  | .edge => none
  | .boundary => none

/-- The range between two characters that stand in order. -/
def rangeOf? : Escape → Escape → Option CharSet
  | .sign first, .sign last => if first.char ≤ last.char then some (.range first last) else none
  | _, _ => none

/-- Reads a member or a range; a hyphen makes no range before another or at the end. -/
def readRange? (roomy : Bool) (cs : List Char) : Option (CharSet × List Char) :=
  (readMember? roomy cs).bind fun (first, rest) =>
    match skip roomy rest with
    | '-' :: more =>
      if peek? roomy more == some ']' || peek? roomy more == some '-' then
        first.toSet?.map fun s => (s, '-' :: more)
      else
        (readMember? roomy (skip roomy more)).bind fun (last, rest) =>
          (rangeOf? first last).map fun s => (s, rest)
    | rest => first.toSet?.map fun s => (s, rest)

/-- What has been read of a set. -/
structure Gathered where
  /-- What stands before the last operation. -/
  left : Option (SetOperation × CharSet)
  /-- What stands behind it, the latest first. -/
  parts : List CharSet

namespace Gathered

/-- Nothing has been read. -/
def empty : Gathered := ⟨none, []⟩

/-- Takes up a part. -/
def add (g : Gathered) (s : CharSet) : Gathered := { g with parts := s :: g.parts }

/-- The set of what has been read. -/
def toSet (g : Gathered) : CharSet :=
  let right := CharSet.ofParts g.parts.reverse
  match g.left with
  | none => right
  | some (op, left) => .combined op left right

/-- Takes up an operation. -/
def operate (g : Gathered) (op : SetOperation) : Gathered := ⟨some (op, g.toSet), []⟩

end Gathered

/-- Reads a caret at the start of a set. -/
def readNegation (roomy : Bool) (cs : List Char) : Bool × List Char :=
  match skip roomy cs with
  | '^' :: rest => (true, rest)
  | rest => (false, rest)

/-- Reads the rest of a set up to its closing bracket; `atStart` while nothing but hyphens
has been read. The first number bounds how many members are read. -/
def readMembers (roomy : Bool) : Nat → Bool → Gathered → List Char →
    Option (CharSet × List Char)
  | 0, _, _, _ => none
  | fuel + 1, atStart, g, cs =>
    let one c := CharSet.one ⟨c, false⟩
    match skip roomy cs with
    | [] => none
    | ']' :: rest =>
      if atStart && g.parts.isEmpty then readMembers roomy fuel false (g.add (one ']')) rest
      else some (g.toSet, rest)
    | '[' :: rest =>
      match readNamed? rest with
      | some (named, rest) => readMembers roomy fuel false (g.add named) rest
      | none =>
        let (negated, rest) := readNegation roomy rest
        (readMembers roomy fuel true .empty rest).bind fun (body, rest) =>
          readMembers roomy fuel false (g.add (.bracket body negated)) rest
    | '-' :: rest =>
      if atStart then readMembers roomy fuel true (g.add (one '-')) rest
      else if rest.head? == some '-' then
        readMembers roomy fuel false (g.operate .difference) rest.tail
      else
        (readRange? roomy ('-' :: rest)).bind fun (s, rest) =>
          readMembers roomy fuel false (g.add s) rest
    | '&' :: '&' :: rest => readMembers roomy fuel false (g.operate .intersection) rest
    | '~' :: '~' :: rest => readMembers roomy fuel false (g.operate .symmetricDifference) rest
    | rest =>
      (readRange? roomy rest).bind fun (s, rest) => readMembers roomy fuel false (g.add s) rest

/-- Reads a set, the opening bracket being gone. -/
def readBracket? (roomy : Bool) (cs : List Char) : Option (Pattern × List Char) :=
  let (negated, rest) := readNegation roomy cs
  (readMembers roomy (rest.length + 1) true .empty rest).map fun (body, rest) =>
    (.set body negated, rest)

end LeaseKeeper.Pattern
