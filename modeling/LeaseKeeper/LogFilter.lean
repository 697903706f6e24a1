import LeaseKeeper.Pattern.Mode
import LeaseKeeper.Pattern.Reader
import LeaseKeeper.Text.Numeral
import LeaseKeeper.Text.Quoted

/-!
# Log filters

Which lines go into a log, as a comma-separated list of directives. A directive is a
level, a target, or a target with a level behind an equals sign; a span in brackets, with a
field in braces, may stand behind the target or in its place. A field may have a value
behind an equals sign, which is a number or a pattern. `LogFilter.check` tells whether a
text is such a list; empty directives are passed over.

A directive is read without its outer blanks, but its pieces are cut from the text with
them, at the distances in bytes that they have without. So blanks in front shift each
piece, and blanks behind spoil a level; and a cut can fall into a character (`Split`).
-/

namespace LeaseKeeper

open Text

/-- A cut that falls into a character. -/
structure Split where
  /-- Whether a piece was to end there. -/
  isEnd : Bool
  /-- The byte in front of which the cut is. -/
  index : Nat
  char : Char
  /-- The byte that the character begins with. -/
  first : Nat
deriving DecidableEq, Repr

/-- The split in words. -/
def Split.message (s : Split) : String :=
  (if s.isEnd then "end" else "start") ++ " byte index " ++ toString s.index ++
    " is not a char boundary; it is inside '" ++ String.ofList (escape s.char) ++ "' (bytes " ++
    toString s.first ++ ".." ++ toString (s.first + s.char.utf8Size) ++ " of string)"

namespace LogFilter

/-- Why a text is no list of directives. -/
inductive Flaw where
  | malformed
  | split (s : Split)
deriving DecidableEq, Repr

/-- The names of the levels. -/
def levelNames : List String := ["off", "error", "warn", "info", "debug", "trace"]

/-- Whether the text names a level: by its name in capitals or not, by its rank, or not at
all. -/
def isLevel (s : String) : Bool :=
  s.isEmpty || levelNames.contains (lower s) ||
    (match readNumber s with
      | .ok n => n < 6
      | .error _ => false)

/-! ## Pieces -/

/-- The number of bytes of a list of characters. -/
def byteCount (cs : List Char) : Nat := cs.foldl (fun n c => n + c.utf8Size) 0

/-- The characters with the bytes that they begin with, the first of them with `start`. -/
def placed (start : Nat) : List Char → List (Nat × Char)
  | [] => []
  | c :: cs => (start, c) :: placed (start + c.utf8Size) cs

/-- A cut in front of a byte must not fall into a character. -/
def cutAt (cs : List Char) (isEnd : Bool) (index : Nat) : Except Flaw Unit :=
  match (placed 0 cs).find? fun p => p.1 < index && index < p.1 + p.2.utf8Size with
  | some (first, c) => .error (.split ⟨isEnd, index, c, first⟩)
  | none => .ok ()

/-- The characters from one byte on up to another. -/
def piece (cs : List Char) (start stop : Nat) : Except Flaw (List Char) := do
  cutAt cs false start
  cutAt cs true stop
  return ((placed 0 cs).filter fun p => start ≤ p.1 && p.1 < stop).map (·.2)

/-! ## Directives -/

/-- Refuses what is no directive. -/
def require (holds : Bool) : Except Flaw Unit := if holds then .ok () else .error .malformed

/-- Whether a field has no value, or one that is a number or a pattern. A number without a
plus sign is a pattern as well, and so is a truth value. -/
def isField (cs : List Char) : Bool :=
  match cs.splitOnP (· == '=') with
  | _ :: value :: _ => isPlusNumeral value || (Pattern.read? value).any Pattern.isPlain
  | _ => true

/-- A level stands from a byte on to the end. -/
def checkLevel (directive : List Char) (start : Nat) : Except Flaw Unit := do
  let level ← piece directive start (byteCount directive)
  require (isLevel (String.ofList level))

/-- A directive may end where a span is closed, or go on with a level; `rest` is what is left
of it, from the byte `start` on. -/
def checkEnd (directive : List Char) (start : Nat) : List Char → Except Flaw Unit
  | [] => .ok ()
  | '=' :: _ => checkLevel directive (start + 1)
  | _ => .error .malformed

/-- The field of a span is not empty, and the span is closed behind it; the opening brace is
gone. -/
def checkField (directive : List Char) (start : Nat) (rest : List Char) : Except Flaw Unit := do
  let field := rest.takeWhile (· != '\x7d')
  let stop := start + byteCount field
  match field, rest.drop field.length with
  | _ :: _, '\x7d' :: rest =>
    require (isField (← piece directive start stop))
    match rest with
    | ']' :: rest => checkEnd directive (stop + 2) rest
    | _ => .error .malformed
  | _, _ => .error .malformed

/-- A span is closed, at once or behind a field, its opening bracket being gone. -/
def checkSpan (directive : List Char) (start : Nat) (rest : List Char) : Except Flaw Unit := do
  let name := rest.takeWhile fun c => c != ']' && c != '\x7b'
  let stop := start + byteCount name
  match rest.drop name.length with
  | ']' :: rest =>
    let _ ← piece directive start stop
    checkEnd directive (stop + 1) rest
  | '\x7b' :: rest =>
    let _ ← piece directive start stop
    checkField directive (stop + 1) rest
  | _ => .error .malformed

/-- Whether a character may begin a level or a target. -/
def beginsName (c : Char) : Bool := c == '-' || c == ':' || c == '_' || isWord c

/-- The characters are a directive. -/
def checkDirective (directive : List Char) : Except Flaw Unit := do
  let trimmed := trimChars directive
  let name := trimmed.takeWhile fun c => c != '=' && c != '['
  let stop := byteCount name
  match name, trimmed.drop name.length with
  | [], '[' :: rest => checkSpan directive 1 rest
  | [], _ => .error .malformed
  | c :: _, rest =>
    require (beginsName c)
    match rest with
    | '=' :: _ =>
      let _ ← piece directive 0 stop
      checkLevel directive (stop + 1)
    | '[' :: rest =>
      let _ ← piece directive 0 stop
      checkSpan directive (stop + 1) rest
    | _ => .ok ()

/-- The parts between the commas. -/
def parts (s : String) : List (List Char) := s.toList.splitOnP (· == ',')

/-- The text is a list of directives. -/
def check (s : String) : Except Flaw Unit :=
  ((parts s).filter (!·.isEmpty)).forM checkDirective

end LogFilter

end LeaseKeeper
