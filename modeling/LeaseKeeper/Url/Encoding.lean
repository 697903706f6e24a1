import LeaseKeeper.Json.Reader

/-!
# Percent encoding

A byte as a percent sign with two hexadecimal digits. `percentEncode` writes the bytes of
the characters that do not stand for themselves; `percentDecode?` reads every such triple
back, and fails where the bytes are no text.
-/

namespace LeaseKeeper.Url

/-- A byte as a percent sign with two digits. -/
def encodeByte (b : UInt8) : List Char :=
  let ds := (Nat.toDigits 16 b.toNat).map Char.toUpper
  '%' :: List.replicate (2 - ds.length) '0' ++ ds

/-- The bytes of a character, each one encoded. -/
def encodeChar (c : Char) : List Char := (String.utf8EncodeChar c).flatMap encodeByte

/-- Encodes the characters of a kind, and all beyond ASCII and all controls. -/
def percentEncode (isSpecial : Char → Bool) (cs : List Char) : List Char :=
  cs.flatMap fun c =>
    if c.toNat < 0x20 || 0x7e < c.toNat || isSpecial c then encodeChar c else [c]

/-- The characters that are encoded in a path. -/
def isEncodedInPath (c : Char) : Bool := " \"<>`#?\x7b\x7d".toList.contains c

/-- The characters that are encoded in a query. -/
def isEncodedInQuery (special : Bool) (c : Char) : Bool :=
  " \"#<>".toList.contains c || (special && c == '\'')

/-- The characters that are encoded in a segment put into a path as a whole. -/
def isEncodedInSegment (c : Char) : Bool := isEncodedInPath c || c == '/' || c == '%' || c == '\\'

/-- The bytes of a text in which triples stand for bytes. -/
def decodeBytes : List Char → List UInt8
  | [] => []
  | '%' :: a :: b :: cs =>
    match Json.hex? a, Json.hex? b with
    | some x, some y => UInt8.ofNat (x * 16 + y) :: decodeBytes cs
    | _, _ => 37 :: decodeBytes (a :: b :: cs)
  | c :: cs => String.utf8EncodeChar c ++ decodeBytes cs

/-- The text in which triples stand for bytes. -/
def percentDecode? (cs : List Char) : Option (List Char) :=
  (String.fromUTF8? ⟨⟨decodeBytes cs⟩⟩).map String.toList

end LeaseKeeper.Url
