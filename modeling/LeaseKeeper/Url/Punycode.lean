/-!
# Punycode

A label of a domain name in which the characters beyond ASCII are written as digits:
behind the last hyphen stand numbers of variable length in base 36, each telling how far
to go on, through code points and places at once, to the next character to insert. How
many digits a number takes depends on the numbers before it (`adapt`). `decode?` reads
such a label and fails where the digits end too early or lead out of the code points.
-/

namespace LeaseKeeper.Url.Punycode

/-- The value of a digit. -/
def digit? (c : Char) : Option Nat :=
  let n := c.toNat
  if 0x61 ≤ n ∧ n ≤ 0x7a then some (n - 0x61)
  else if 0x41 ≤ n ∧ n ≤ 0x5a then some (n - 0x41)
  else if 0x30 ≤ n ∧ n ≤ 0x39 then some (n - 0x30 + 26)
  else none

/-- A digit below this is the last one of its number. -/
def threshold (weight bias : Nat) : Nat := max 1 (min 26 (weight - bias))

/-- Divides until what is left is small. -/
def shrink (delta weight : Nat) : Nat :=
  if 455 < delta then shrink (delta / 35) (weight + 36)
  else weight + 36 * delta / (delta + 38)
termination_by delta
decreasing_by omega

/-- The bias after a step of that length; `count` characters are there by then. -/
def adapt (delta count : Nat) (isFirst : Bool) : Nat :=
  let scaled := if isFirst then delta / 700 else delta / 2
  shrink (scaled + scaled / count) 0

/-- Reads a number and tells what stands behind it. -/
def readNumber? (bias weight factor : Nat) : List Char → Option (Nat × List Char)
  | [] => none
  | c :: cs =>
    match digit? c with
    | none => none
    | some d =>
      if d < threshold weight bias then some (d * factor, cs)
      else
        (readNumber? bias (weight + 36) (factor * (36 - threshold weight bias)) cs).map fun r =>
          (d * factor + r.1, r.2)

theorem length_lt_of_readNumber? {bias weight factor n : Nat} {cs rest : List Char}
    (h : readNumber? bias weight factor cs = some (n, rest)) : rest.length < cs.length := by
  induction cs generalizing weight factor n with
  | nil => simp [readNumber?] at h
  | cons c cs ih =>
    rw [readNumber?] at h
    split at h
    · simp at h
    · split at h
      · simp at h; simp [← h.2]
      · obtain ⟨r, hr, e⟩ := Option.map_eq_some_iff.1 h
        simp at e
        have := ih (n := r.1) (by rw [hr, ← e.2])
        simp only [List.length_cons]
        omega

/-- Inserts one character after the other. -/
def insertAll? (bias code place : Nat) (found : List Char) (cs : List Char) :
    Option (List Char) :=
  match cs with
  | [] => some found
  | c :: rest =>
    match _h : readNumber? bias 36 1 (c :: rest) with
    | none => none
    | some (step, left) =>
      let count := found.length + 1
      let code' := code + (place + step) / count
      if code'.isValidChar then
        insertAll? (adapt step count (place == 0)) code' ((place + step) % count + 1)
          (found.insertIdx ((place + step) % count) (Char.ofNat code')) left
      else none
termination_by cs.length
decreasing_by exact length_lt_of_readNumber? _h

/-- The characters before the last hyphen, and those behind it; a hyphen with nothing before
it divides nothing. -/
def splitLast (cs : List Char) : List Char × List Char :=
  let tail := cs.reverse.takeWhile (· != '-')
  match (cs.take (cs.length - tail.length)).dropLast with
  | [] => ([], cs)
  | plain => (plain, tail.reverse)

/-- Reads a label. -/
def decode? (cs : List Char) : Option (List Char) :=
  let (plain, coded) := splitLast cs
  insertAll? 72 0x80 0 plain coded

end LeaseKeeper.Url.Punycode
