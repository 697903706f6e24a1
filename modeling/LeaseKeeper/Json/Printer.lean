import LeaseKeeper.Json.Basic

/-!
# Writing documents

The compact text of a document: no blanks, members in their order, characters beyond
ASCII as they are.
-/

namespace LeaseKeeper.Json

/-- A code unit as four hexadecimal digits. -/
def unitEscape (n : Nat) : List Char :=
  let ds := Nat.toDigits 16 n
  ['\\', 'u'] ++ List.replicate (4 - ds.length) '0' ++ ds

/-- How one character stands in a text. -/
def escape (c : Char) : List Char :=
  if c = '"' then ['\\', '"']
  else if c = '\\' then ['\\', '\\']
  else if c = '\n' then ['\\', 'n']
  else if c = '\r' then ['\\', 'r']
  else if c = '\t' then ['\\', 't']
  else if c.toNat < 0x20 then unitEscape c.toNat
  else [c]

/-- A text between quotes. -/
def renderText (s : String) : String :=
  String.ofList ('"' :: s.toList.flatMap escape ++ ['"'])

/-- A number in digits. -/
def Number.render : Number → String
  | natural n => toString n
  | negated n => "-" ++ toString n
  | real m e => toString m ++ "e" ++ toString e

mutual

/-- A document on one line. -/
def render : Json → String
  | null => "null"
  | bool b => if b then "true" else "false"
  | number n => n.render
  | text s => renderText s
  | garbled => "\"\\ud800\""
  | array js => "[" ++ String.intercalate "," (renderItems js) ++ "]"
  | object ms => "\x7b" ++ String.intercalate "," (renderMembers ms) ++ "\x7d"

/-- The items one by one. -/
def renderItems : List Json → List String
  | [] => []
  | j :: js => render j :: renderItems js

/-- The members one by one. -/
def renderMembers : List (String × Json) → List String
  | [] => []
  | (k, j) :: ms => (renderText k ++ ":" ++ render j) :: renderMembers ms

end

end LeaseKeeper.Json
