import LeaseKeeper.Pattern.Bracket
import LeaseKeeper.Text.Word

/-!
# Reading patterns

The pattern that a text writes (`Pattern.read?`). Bars part branches; a star, a plus or a
question mark repeats what stands before it, and a question mark behind one of these changes
which repetition is tried first. A bracket opens a group, which may have switches or a name
of its own, or only turns switches. Braces count repetitions in other patterns; here none
can be closed, so an opening one is refused. The switch `x` gives room from where it is
turned to the end of its group.
-/

namespace LeaseKeeper.Pattern

open Text

/-- The letters of switches. -/
def switchLetters : List Char := ['i', 'm', 's', 'U', 'u', 'R', 'x']

/-- Reads switches up to what ends them; those behind a hyphen are turned off, and each
letter stands at most once. `dangling` while the last sign was the hyphen. -/
def readSwitches? (off dangling : Bool) (read : Switches) :
    List Char → Option (Switches × List Char)
  | [] => none
  | c :: cs =>
    if c == ':' || c == ')' then if dangling then none else some (read, c :: cs)
    else if c == '-' then if off then none else readSwitches? true true read cs
    else if switchLetters.contains c && (read.get? c).isNone then
      readSwitches? off false ((c, !off) :: read) cs
    else none

/-- Whether the characters may name a group. -/
def isName : List Char → Bool
  | [] => false
  | c :: cs =>
    (c == '_' || isLetter c) && cs.all fun c => ['_', '.', '[', ']'].contains c || isWord c

/-- How far a pattern has been read. -/
structure Place where
  rest : List Char
  /-- Whether there may be room. -/
  roomy : Bool
  /-- The names given so far. -/
  names : List String

namespace Place

/-- The place behind room. -/
def skip (p : Place) : Place := { p with rest := Pattern.skip p.roomy p.rest }

/-- Whether there may be room once switches are turned. -/
def turn (p : Place) (s : Switches) : Place := { p with roomy := (s.get? 'x').getD p.roomy }

/-- Reads the name of a group, which none before it has. -/
def readName? (p : Place) : Option Place :=
  let name := p.rest.takeWhile (· != '>')
  match p.rest.drop name.length with
  | '>' :: rest =>
    if isName name && !p.names.contains (String.ofList name) then
      some { p with rest, names := String.ofList name :: p.names }
    else none
  | _ => none

end Place

/-- What an opening bracket begins. -/
inductive Opening where
  | switches (s : Switches)
  | group (s : Switches)

/-- Reads what begins behind an opening bracket. -/
def readOpening? (p : Place) : Option (Opening × Place) :=
  match p.skip.rest with
  | '?' :: 'P' :: '<' :: rest => Place.readName? { p with rest } |>.map fun p => (.group [], p)
  | '?' :: '<' :: rest => Place.readName? { p with rest } |>.map fun p => (.group [], p)
  | '?' :: rest =>
    match readSwitches? false false [] rest with
    | some (s, ':' :: rest) => some (.group s, { p with rest })
    | some (s@(_ :: _), ')' :: rest) => some (.switches s, { p with rest })
    | _ => none
  | rest => some (.group [], { p with rest })

/-- Reads a part that is one character, an escape or a set. -/
def readPart? (roomy : Bool) : List Char → Option (Pattern × List Char)
  | '[' :: cs => readBracket? roomy cs
  | '.' :: cs => some (.anyChar, cs)
  | '^' :: cs => some (.edge, cs)
  | '$' :: cs => some (.edge, cs)
  | '\\' :: 'b' :: '\x7b' :: _ => none
  | '\\' :: cs =>
    (readEscape? roomy cs).map fun (e, rest) =>
      (match e with
        | .sign s => .sign s
        | .shorthand letter => .shorthand letter
        | .edge => .edge
        | .boundary => .boundary, rest)
  | '\x7b' :: _ => none
  | c :: cs => some (.sign ⟨c, false⟩, cs)
  | [] => none

/-- What stands behind a repetition. -/
def dropLazy : List Char → List Char
  | '?' :: cs => cs
  | cs => cs

/-- The pattern of branches that have been read and the parts of the last one, the latest
first. -/
def whole (branches parts : List Pattern) : Pattern :=
  ofBranches (ofParts parts.reverse :: branches).reverse

/-- Reads branches up to the closing bracket of the group or the end; `branches` and `parts`
hold what has been read of the group and of the branch, the latest first. The first number
bounds how many parts are read. -/
def readBranches : Nat → List Pattern → List Pattern → Place → Option (Pattern × Place)
  | 0, _, _, _ => none
  | fuel + 1, branches, parts, p =>
    let p := p.skip
    match p.rest with
    | [] => some (whole branches parts, p)
    | ')' :: _ => some (whole branches parts, p)
    | '|' :: rest => readBranches fuel (ofParts parts.reverse :: branches) [] { p with rest }
    | '(' :: rest =>
      match readOpening? { p with rest } with
      | none => none
      | some (.switches s, inner) =>
        readBranches fuel branches (.switches s :: parts) (inner.turn s)
      | some (.group s, inner) =>
        match readBranches fuel [] [] (inner.turn s) with
        | some (body, ⟨')' :: rest, _, names⟩) =>
          readBranches fuel branches (.group s body :: parts) ⟨rest, p.roomy, names⟩
        | _ => none
    | c :: rest =>
      if c == '*' || c == '+' || c == '?' then
        match parts with
        | [] => none
        | last :: parts =>
          if last.isRepeatable then
            readBranches fuel branches (.repeated last :: parts) { p with rest := dropLazy rest }
          else none
      else
        match readPart? p.roomy (c :: rest) with
        | none => none
        | some (part, rest) => readBranches fuel branches (part :: parts) { p with rest }

/-- Reads a pattern. -/
def read? (cs : List Char) : Option Pattern :=
  match readBranches (cs.length + 1) [] [] ⟨cs, false, []⟩ with
  | some (pattern, ⟨[], _, _⟩) => some pattern
  | _ => none

end LeaseKeeper.Pattern
