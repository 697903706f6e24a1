import LeaseKeeper.Json.Basic

/-!
# Secret texts

A text that shows itself to nobody: every written form of it is the same mark
(`SecretText.mark`), whatever it holds. Only `SecretText.expose` gives the text away.
-/

namespace LeaseKeeper

/-- A text kept out of every log line and every written form. -/
structure SecretText where
  /-- The text itself, for the wire only. -/
  expose : String
deriving DecidableEq, Inhabited

namespace SecretText

/-- What is written in place of the text. -/
def mark : String := "[REDACTED]"

/-- Whether there is nothing to hide. -/
def isEmpty (s : SecretText) : Bool := s.expose.isEmpty

/-- The text in words. -/
def display (_ : SecretText) : String := mark

/-- The text on one line of a larger value. -/
def render (_ : SecretText) : String := "SecretString([REDACTED])"

/-- The text in a document. -/
def toJson (_ : SecretText) : Json := .text mark

/-- Reads a text from a document; there it stands in the clear. -/
def ofJson? (j : Json) : Option SecretText := j.text?.map SecretText.mk

end SecretText

end LeaseKeeper
