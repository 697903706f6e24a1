import LeaseKeeper.Text.Blank
import LeaseKeeper.Url.Basic
import LeaseKeeper.Url.Name

/-!
# Hosts

Which texts name a host. In a special URL a host is an address of the sixth version in
brackets, an address of the fourth version if its last part is a number, or else a domain
name. Elsewhere it is any text without the
characters that would end it.
-/

namespace LeaseKeeper.Url

open Text

/-! ## Addresses of the fourth version -/

/-- The value of digits of a base, if they are such. -/
def digitsValue? (base : Nat) : List Char → Option Nat
  | cs => cs.foldl (fun value c => do
      let v ← value
      let d ← Json.hex? c
      if d < base then some (v * base + d) else none) (some 0)

/-- A number of an address: octal behind a zero, hexadecimal behind a zero and an x. -/
def ipv4Number? : List Char → Option Nat
  | [] => none
  | '0' :: 'x' :: cs => digitsValue? 16 cs
  | '0' :: 'X' :: cs => digitsValue? 16 cs
  | '0' :: c :: cs => digitsValue? 8 (c :: cs)
  | cs => digitsValue? 10 cs

/-- The parts of a name between its dots; a dot at the end is of no account. -/
def nameParts (cs : List Char) : List (List Char) :=
  let parts := cs.splitOnP (· == '.')
  if parts.getLast? == some [] then parts.dropLast else parts

/-- Whether a name can only be an address: its last part is a number. -/
def endsInNumber (cs : List Char) : Bool :=
  match (nameParts cs).getLast? with
  | none => false
  | some [] => false
  | some part => part.all Char.isDigit || (ipv4Number? part).isSome

/-- Whether numbers make an address: the last one fills the bytes that the others leave. -/
def isIpv4 (cs : List Char) : Bool :=
  let parts := nameParts cs
  match parts.mapM ipv4Number? with
  | none => false
  | some numbers =>
    numbers.length ≤ 4 && numbers.dropLast.all (· ≤ 255) &&
      (match numbers.getLast? with
        | none => false
        | some n => decide (n < Nat.pow 256 (5 - numbers.length)))

/-! ## Addresses of the sixth version -/

/-- A decimal number of a byte, without a zero in front. -/
def isByte (cs : List Char) : Bool :=
  match cs with
  | [] => false
  | ['0'] => true
  | '0' :: _ => false
  | cs => cs.length ≤ 3 && cs.all Char.isDigit && (digitsValue? 10 cs).any (· ≤ 255)

/-- Four bytes with dots between them. -/
def isDotted (cs : List Char) : Bool :=
  let parts := cs.splitOnP (· == '.')
  parts.length == 4 && parts.all isByte

/-- Whether the characters are the groups of an address behind `count` others; `gap` tells
whether some groups have been left out already. -/
def areGroups (gap : Bool) (count : Nat) (cs : List Char) : Bool :=
  match cs with
  | [] => gap || count == 8
  | ':' :: rest => if gap || count == 8 then false else areGroups true (count + 1) rest
  | c :: rest =>
    if count == 8 then false
    else
      let ds := ((c :: rest).take 4).takeWhile fun c => (Json.hex? c).isSome
      match h : (c :: rest).drop ds.length with
      | [] => gap || count + 1 == 8
      | '.' :: _ =>
        !ds.isEmpty && count ≤ 6 && isDotted (c :: rest) && (gap || count + 2 == 8)
      | ':' :: rest' => !rest'.isEmpty && areGroups gap (count + 1) rest'
      | _ => false
termination_by cs.length
decreasing_by
  · simp
  · have := congrArg List.length h
    simp only [List.length_drop, List.length_cons] at this ⊢
    omega

/-- Whether the characters are an address of the sixth version. -/
def isIpv6 : List Char → Bool
  | ':' :: ':' :: rest => areGroups true 1 rest
  | ':' :: _ => false
  | [] => false
  | [_] => false
  | cs => areGroups false 0 cs

/-! ## Names -/

/-- The domain name that a text stands for, if it is one. -/
def domain? (cs : List Char) : Option (List Char) := (percentDecode? cs).bind Name.read?

/-- The content of brackets around the whole text, which it begins with. -/
def bracketed? (cs : List Char) : Option (List Char) :=
  if cs.getLast? == some ']' && 1 < cs.length then some (cs.drop 1).dropLast else none

/-- Reads a host in brackets. -/
def readBracketed (cs : List Char) : Except UrlFault String :=
  match bracketed? cs with
  | some inner => if isIpv6 inner then .ok (String.ofList cs) else .error .ipv6
  | none => .error .ipv6

/-- Reads the host of a special URL. -/
def readHost (cs : List Char) : Except UrlFault String :=
  if cs.head? == some '[' then readBracketed cs
  else
    match domain? cs with
    | none => .error .domain
    | some [] => .error .emptyHost
    | some name =>
      if endsInNumber name && !isIpv4 name then .error .ipv4 else .ok (String.ofList name)

/-- The characters that no host holds. -/
def endsHost (c : Char) : Bool := " #/:<>?@[\\]^|\x00\t\n\r".toList.contains c

/-- Reads the host of a URL that is not special. -/
def readPlainHost (cs : List Char) : Except UrlFault String :=
  if cs.head? == some '[' then readBracketed cs
  else if cs.any endsHost then .error .hostCharacter
  else .ok (String.ofList (percentEncode (fun _ => false) cs))

end LeaseKeeper.Url
