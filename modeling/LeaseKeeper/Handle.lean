import LeaseKeeper.Json.Basic
import LeaseKeeper.Json.Reader
import LeaseKeeper.Text.Quoted

/-!
# Handles

The name of a registered secret. An engine gives out a new serial number each time
(`Handle`); written down it is a universally unique identifier of the fourth version
(`Handle.text`). A handle that was written elsewhere is kept as it was given
(`HandleText`); `HandleText.parse?` accepts thirty-two hexadecimal digits, the same with
hyphens, and the hyphenated form in braces or as a resource name.
-/

namespace LeaseKeeper

/-- The name of a registered secret. -/
structure Handle where
  serial : Nat
deriving DecidableEq, Inhabited, Repr

namespace Handle

/-- The digits of a serial number, thirty at least. -/
def digits (h : Handle) : List Char :=
  let ds := Nat.toDigits 16 h.serial
  List.replicate (30 - ds.length) '0' ++ ds

/-- A handle in its five groups. -/
def text (h : Handle) : String :=
  let ds := h.digits
  let part (start count : Nat) := String.ofList ((ds.drop start).take count)
  part 0 8 ++ "-" ++ part 8 4 ++ "-4" ++ part 12 3 ++ "-8" ++ part 15 3 ++ "-" ++
    String.ofList (ds.drop 18)

end Handle

/-- A handle as somebody wrote it. -/
structure HandleText where
  text : String
deriving DecidableEq, Inhabited

namespace HandleText

/-- Whether the characters are so many hexadecimal digits. -/
def isGroup (count : Nat) (cs : List Char) : Bool :=
  cs.length == count && cs.all fun c => (Json.hex? c).isSome

/-- Whether the characters are groups of those lengths with hyphens between them. -/
def isHyphenated : List Nat → List Char → Bool
  | [], _ => false
  | [n], cs => isGroup n cs
  | n :: ns, cs =>
    isGroup n (cs.take n) &&
      (match cs.drop n with
        | '-' :: rest => isHyphenated ns rest
        | _ => false)

/-- The lengths of the groups of an identifier. -/
def groups : List Nat := [8, 4, 4, 4, 12]

/-- What stands before an identifier written as a resource name. -/
def resourceMark : List Char := "urn:uuid:".toList

/-- Whether the characters write an identifier in one of the four forms. -/
def isIdentifier (cs : List Char) : Bool :=
  isGroup 32 cs || isHyphenated groups cs ||
    (cs.head? == some '\x7b' && cs.getLast? == some '\x7d' &&
      isHyphenated groups (cs.drop 1).dropLast) ||
    ((cs.take 9).map Char.toLower == resourceMark && isHyphenated groups (cs.drop 9))

/-- Reads a handle, keeping the text as given. -/
def parse? (s : String) : Option HandleText :=
  if isIdentifier s.toList then some ⟨s⟩ else none

/-- A handle from a document, unchecked. -/
def ofJson? (j : Json) : Option HandleText := j.text?.map HandleText.mk

/-- The handle with its text, on one line. -/
def render (h : HandleText) : String := Text.tuple "SecretHandle" [Text.quote h.text]

end HandleText

end LeaseKeeper
