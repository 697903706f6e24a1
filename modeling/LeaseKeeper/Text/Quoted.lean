import LeaseKeeper.Text.Classes

/-!
# Quoted text

The one-line form of a text (`quote`): between double quotes, with an escape for each
quote, backslash, tab, line end and zero character, and the code point in hexadecimal
for a character that cannot be shown on its own. Beside it the one-line layout of a
value with named or unnamed parts (`record`, `tuple`, `listing`).
-/

namespace LeaseKeeper.Text

/-- The hexadecimal digits of a code point between braces. -/
def codePoint (c : Char) : List Char :=
  ['\\', 'u', '\x7b'] ++ Nat.toDigits 16 c.toNat ++ ['\x7d']

/-- How one character stands between double quotes. -/
def escape (c : Char) : List Char :=
  if c = '"' then ['\\', '"']
  else if c = '\\' then ['\\', '\\']
  else if c = '\n' then ['\\', 'n']
  else if c = '\r' then ['\\', 'r']
  else if c = '\t' then ['\\', 't']
  else if c = '\x00' then ['\\', '0']
  else if isAttaching c || !isMarked c then codePoint c
  else [c]

/-- A text between double quotes. -/
def quote (s : String) : String :=
  String.ofList ('"' :: s.toList.flatMap escape ++ ['"'])

/-- The parts of a value, joined by commas. -/
def commas (parts : List String) : String := String.intercalate ", " parts

/-- A value with named parts: `Name \x7b a: x, b: y \x7d`. -/
def record (name : String) (fields : List (String × String)) : String :=
  match fields with
  | [] => name
  | _ => name ++ " \x7b " ++ commas (fields.map fun f => f.1 ++ ": " ++ f.2) ++ " \x7d"

/-- A value of which only some parts are shown. -/
def partialRecord (name : String) (fields : List (String × String)) : String :=
  match fields with
  | [] => name ++ " \x7b .. \x7d"
  | _ => name ++ " \x7b " ++ commas (fields.map fun f => f.1 ++ ": " ++ f.2) ++ ", .. \x7d"

/-- A value with unnamed parts: `Name(x, y)`. -/
def tuple (name : String) (parts : List String) : String :=
  name ++ "(" ++ commas parts ++ ")"

/-- A list of values: `[x, y]`. -/
def listing (parts : List String) : String := "[" ++ commas parts ++ "]"

/-- A table of texts: `\x7b"a": "x", "b": "y"\x7d`. -/
def mapping (entries : List (String × String)) : String :=
  "\x7b" ++ commas (entries.map fun e => quote e.1 ++ ": " ++ quote e.2) ++ "\x7d"

/-- A value that may be absent. -/
def optional (part : Option String) : String :=
  match part with
  | none => "None"
  | some s => tuple "Some" [s]

/-- A truth value. -/
def truth (b : Bool) : String := if b then "true" else "false"

end LeaseKeeper.Text
