/-!
# Patterns

Shapes of text, as regular expressions write them. A `Pattern` keeps what decides whether
one can be used at all: how it is put together (`depth`), which characters and sets of
characters it names, and where its switches are turned. The number of repetitions, the kind
of an edge and the names of groups are not kept.
-/

namespace LeaseKeeper

/-- A single character of a pattern. -/
structure Sign where
  char : Char
  /-- Whether it is written as a byte, by two digits. -/
  isByte : Bool
deriving DecidableEq, Repr

/-- How two sets are combined. -/
inductive SetOperation where
  | intersection
  | difference
  | symmetricDifference
deriving DecidableEq, Repr

/-- A set of characters, as it stands in brackets. -/
inductive CharSet where
  | nothing
  | one (s : Sign)
  | range (first last : Sign)
  | named (name : String) (negated : Bool)
  /-- Digits, blanks or the characters of words, by the letter behind a backslash; a capital
  takes all others. -/
  | shorthand (letter : Char)
  | bracket (body : CharSet) (negated : Bool)
  | union (parts : List CharSet)
  | combined (operation : SetOperation) (left right : CharSet)

/-- Switches turned on or off, each by its letter. -/
abbrev Switches := List (Char × Bool)

/-- How a switch is turned, if it is. -/
def Switches.get? (s : Switches) (letter : Char) : Option Bool :=
  (s.find? (·.1 == letter)).map (·.2)

/-- A regular expression. -/
inductive Pattern where
  | empty
  /-- Switches turned from here to the end of the group. -/
  | switches (s : Switches)
  | sign (s : Sign)
  | anyChar
  | shorthand (letter : Char)
  | set (body : CharSet) (negated : Bool)
  /-- The start or the end of a line or of the text. -/
  | edge
  /-- A place by the characters of words around it. -/
  | boundary
  | repeated (body : Pattern)
  | group (s : Switches) (body : Pattern)
  | sequence (parts : List Pattern)
  | choice (branches : List Pattern)

mutual

/-- How many brackets, unions and operations stand within each other. -/
def CharSet.depth : CharSet → Nat
  | .bracket body _ => body.depth + 1
  | .union parts => CharSet.depthOfAll parts + 1
  | .combined _ left right => max left.depth right.depth + 1
  | _ => 0

/-- The depth of the deepest set. -/
def CharSet.depthOfAll : List CharSet → Nat
  | [] => 0
  | s :: ss => max s.depth (CharSet.depthOfAll ss)

end

namespace Pattern

mutual

/-- How many sets, repetitions, groups, sequences and choices stand within each other. -/
def depth : Pattern → Nat
  | .set body _ => body.depth + 1
  | .repeated body => body.depth + 1
  | .group _ body => body.depth + 1
  | .sequence parts => depthOfAll parts + 1
  | .choice branches => depthOfAll branches + 1
  | _ => 0

/-- The depth of the deepest pattern. -/
def depthOfAll : List Pattern → Nat
  | [] => 0
  | p :: ps => max p.depth (depthOfAll ps)

end

/-- Whether a repetition may stand behind the pattern. -/
def isRepeatable : Pattern → Bool
  | .empty => false
  | .switches _ => false
  | _ => true

/-- Patterns behind each other. -/
def ofParts : List Pattern → Pattern
  | [] => .empty
  | [p] => p
  | ps => .sequence ps

/-- Patterns to choose from. -/
def ofBranches : List Pattern → Pattern
  | [p] => p
  | ps => .choice ps

end Pattern

/-- The sets taken together. -/
def CharSet.ofParts : List CharSet → CharSet
  | [] => .nothing
  | [s] => s
  | ss => .union ss

end LeaseKeeper
