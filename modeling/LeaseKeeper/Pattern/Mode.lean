import LeaseKeeper.Pattern.Basic

/-!
# Modes of patterns

What a pattern may say under the switches in force where it says it, when a text is followed
byte by byte and nothing is known of the characters beyond ASCII but their code points. In
the Unicode mode, which is on at first, kinds of characters and word boundaries would need
such knowledge, and so would characters in any case. Outside it a pattern must not match
half a character. `Pattern.isPlain` tells whether a pattern keeps to this and is not nested
too deep.
-/

namespace LeaseKeeper.Pattern

/-- The switches in force that decide what may be said. -/
structure Mode where
  unicode : Bool
  anyCase : Bool
deriving DecidableEq, Repr

namespace Mode

/-- The mode that a pattern begins in. -/
def initial : Mode := ⟨true, false⟩

/-- The mode after switches are turned. -/
def turn (m : Mode) (s : Switches) : Mode :=
  ⟨(s.get? 'u').getD m.unicode, (s.get? 'i').getD m.anyCase⟩

/-- Whether digits, blanks or characters of words may be asked for. -/
def allowsShorthand (m : Mode) (letter : Char) : Bool := !m.unicode && letter.isLower

/-- Whether a character may stand on its own. -/
def allowsSign (m : Mode) (s : Sign) : Bool :=
  if m.unicode then !m.anyCase else !s.isByte || s.char.toNat < 0x80

/-- Whether a character may stand in a set. -/
def allowsMember (m : Mode) (s : Sign) : Bool :=
  if m.unicode then !m.anyCase else s.char.toNat < 0x80

/-- Whether all characters but some may be asked for. -/
def allowsNegation (m : Mode) (negated : Bool) : Bool := m.unicode || !negated

mutual

/-- Whether a set may be asked for. -/
def allowsSet (m : Mode) : CharSet → Bool
  | .nothing => true
  | .one s => m.allowsMember s
  | .range first last => m.allowsMember first && m.allowsMember last
  | .named _ negated => if m.unicode then !m.anyCase else !negated
  | .shorthand letter => m.allowsShorthand letter
  | .bracket body negated => m.allowsSet body && m.allowsNegation negated
  | .union parts => m.allowsSets parts
  | .combined _ left right => m.allowsSet left && m.allowsSet right

/-- Whether sets may be asked for. -/
def allowsSets (m : Mode) : List CharSet → Bool
  | [] => true
  | s :: ss => m.allowsSet s && m.allowsSets ss

end

/-- The mode behind a part that may stand here. -/
def keepIf (m : Mode) (allowed : Bool) : Option Mode := if allowed then some m else none

mutual

/-- The mode behind a pattern that begins in `m`, if it says nothing that it must not. -/
def after? (m : Mode) : Pattern → Option Mode
  | .empty => some m
  | .switches s => some (m.turn s)
  | .sign s => m.keepIf (m.allowsSign s)
  | .anyChar => m.keepIf m.unicode
  | .shorthand letter => m.keepIf (m.allowsShorthand letter)
  | .set body negated => m.keepIf (m.allowsSet body && m.allowsNegation negated)
  | .edge => some m
  | .boundary => m.keepIf !m.unicode
  | .repeated body => m.after? body
  | .group s body => ((m.turn s).after? body).map fun _ => m
  | .sequence parts => m.afterAll? parts
  | .choice branches => m.afterAll? branches

/-- The mode behind patterns, each beginning in the mode behind the one before. -/
def afterAll? (m : Mode) : List Pattern → Option Mode
  | [] => some m
  | p :: ps => (m.after? p).bind fun m => m.afterAll? ps

end

end Mode

/-- How deep a pattern may be nested. -/
def deepest : Nat := 250

/-- Whether a pattern can be followed through a text. -/
def isPlain (p : Pattern) : Bool := p.depth ≤ deepest && (Mode.initial.after? p).isSome

end LeaseKeeper.Pattern
