/-!
# Documents

A JSON document as a tree. Numbers keep what their digits say: a whole number without a
sign, a negated whole number, or any other decimal. A text whose escapes do not pair up
has no characters to show (`Json.garbled`); it is harmless where nobody reads it.
-/

namespace LeaseKeeper

/-- A number of a document. -/
inductive Json.Number where
  | natural (n : Nat)
  | negated (n : Nat)
  /-- The decimal `mantissa * 10 ^ exponent`. -/
  | real (mantissa exponent : Int)
deriving DecidableEq, Repr

/-- A document. -/
inductive Json where
  | null
  | bool (b : Bool)
  | number (n : Json.Number)
  | text (s : String)
  | garbled
  | array (items : List Json)
  | object (members : List (String × Json))
deriving Inhabited, Repr

namespace Json

/-- A whole number. -/
def nat (n : Nat) : Json := .number (.natural n)

/-- A whole number with a sign. -/
def int : Int → Json
  | .ofNat n => .number (.natural n)
  | .negSucc n => .number (.negated (n + 1))

/-- A value or nothing. -/
def optional (o : Option Json) : Json := o.getD null

/-- The characters of a text. -/
def text? : Json → Option String
  | text s => some s
  | _ => none

/-- A truth value. -/
def bool? : Json → Option Bool
  | bool b => some b
  | _ => none

/-- A whole number written without sign, fraction or exponent. -/
def natural? : Json → Option Nat
  | number (.natural n) => some n
  | _ => none

/-- A whole number below `2 ^ 64`. -/
def word? (j : Json) : Option UInt64 :=
  j.natural?.bind fun n => if n < 18446744073709551616 then some (UInt64.ofNat n) else none

/-- A value that may be null. -/
def nullable {α : Type} (read : Json → Option α) : Json → Option (Option α)
  | null => some none
  | j => (read j).map some

/-- The items of an array. -/
def items? : Json → Option (List Json)
  | array js => some js
  | _ => none

/-- The members of an object. -/
def members? : Json → Option (List (String × Json))
  | object ms => some ms
  | _ => none

/-- The member of that name. -/
def member? (j : Json) (name : String) : Option Json :=
  j.members?.bind fun ms => ms.lookup name

mutual

/-- Whether two documents are the same, the order of members left aside. -/
def same : Json → Json → Bool
  | null, null => true
  | bool a, bool b => a == b
  | number a, number b => a == b
  | text a, text b => a == b
  | garbled, garbled => true
  | array as, array bs => sameItems as bs
  | object as, object bs => as.length == bs.length && sameMembers as bs
  | _, _ => false

/-- Item by item. -/
def sameItems : List Json → List Json → Bool
  | [], [] => true
  | a :: as, b :: bs => same a b && sameItems as bs
  | _, _ => false

/-- Every member has one of its name that is the same. -/
def sameMembers : List (String × Json) → List (String × Json) → Bool
  | [], _ => true
  | (k, a) :: as, bs =>
    (match bs.lookup k with
      | some b => same a b
      | none => false) && sameMembers as bs

end

end Json

end LeaseKeeper
