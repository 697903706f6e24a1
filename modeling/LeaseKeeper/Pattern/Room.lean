import LeaseKeeper.Text.Blank

/-!
# Room in patterns

A pattern may be written with room in it: blanks, and comments from a number sign to the end
of the line, which mean nothing (`skip`).
-/

namespace LeaseKeeper.Pattern

open Text

/-- What stands behind blanks and comments; `inComment` tells whether one has begun. -/
def dropRoom (inComment : Bool) : List Char → List Char
  | [] => []
  | c :: cs =>
    if inComment then dropRoom (c != '\n') cs
    else if isBlank c then dropRoom false cs
    else if c == '#' then dropRoom true cs
    else c :: cs

/-- What stands behind blanks and comments, if there may be any. -/
def skip (roomy : Bool) (cs : List Char) : List Char := if roomy then dropRoom false cs else cs

/-- The next character. Where there may be room it is the first that is no blank, also in a
comment. -/
def peek? (roomy : Bool) (cs : List Char) : Option Char :=
  if roomy then
    match cs.dropWhile isBlank with
    | '#' :: rest => (rest.dropWhile isBlank).head?
    | rest => rest.head?
  else cs.head?

end LeaseKeeper.Pattern
