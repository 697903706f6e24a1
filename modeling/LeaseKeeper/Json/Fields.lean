import LeaseKeeper.Json.Basic

/-!
# Fields of a document

A record is written as an object by the names of its fields, or as a list of its fields
in order (`Json.fields?`). Names that the record does not have are passed over; a field
given twice is refused, and so is a list with more items than fields. A field may be left
out as its `Presence` says. A choice among names is written as the name, or as an object
whose one member has that name and no content (`Json.choice?`).
-/

namespace LeaseKeeper.Json

/-- When a field may be left out. -/
inductive Presence where
  /-- Never. -/
  | required
  /-- From an object, not from a list. -/
  | nullable
  /-- Always: it has a default. -/
  | defaulted
deriving DecidableEq, Repr

/-- The fields of a record in order. -/
abbrev Shape := List (String × Presence)

/-- The one member of that name; two are refused. -/
def onlyMember? (name : String) (ms : List (String × Json)) : Option (Option Json) :=
  match ms.filter (·.1 == name) with
  | [] => some none
  | [m] => some (some m.2)
  | _ => none

/-- The fields of an object, in the order of the shape. -/
def keyedFields? (ms : List (String × Json)) : Shape → Option (List (Option Json))
  | [] => some []
  | (name, presence) :: shape => do
    let found ← onlyMember? name ms
    if found.isNone && presence == .required then none
    else
      let rest ← keyedFields? ms shape
      pure (found :: rest)

/-- The fields of a list, in the order of the shape. -/
def listedFields? : Shape → List Json → Option (List (Option Json))
  | [], [] => some []
  | [], _ :: _ => none
  | (_, presence) :: shape, [] => do
    if presence != .defaulted then none
    else
      let rest ← listedFields? shape []
      pure (none :: rest)
  | _ :: shape, j :: js => do
    let rest ← listedFields? shape js
    pure (some j :: rest)

/-- The fields of a record, one entry for each field of the shape. -/
def fields? (shape : Shape) : Json → Option (List (Option Json))
  | object ms => keyedFields? ms shape
  | array js => listedFields? shape js
  | _ => none

/-- The name of a choice. -/
def choice? : Json → Option String
  | text s => some s
  | object [(name, null)] => some name
  | _ => none

/-- Reads a field if it was given, else takes the default. -/
def orDefault {α : Type} (default : α) (read : Json → Option α) : Option Json → Option α
  | none => some default
  | some j => read j

end LeaseKeeper.Json
