/-!
# Arrangements

Things put into the order of keys made of several texts, the first text counting most. What
a shutdown does to one holding after the other has no order of its own; a record shows it
arranged. Things with the same key stay as they were.
-/

namespace LeaseKeeper.Rehearsal

/-- Whether one list of texts comes before another or is the same. -/
def keyLe : List String → List String → Bool
  | [], _ => true
  | _ :: _, [] => false
  | a :: as, b :: bs => if a = b then keyLe as bs else decide (a < b)

/-- Puts things into the order of their keys. -/
def arrange {α : Type} (key : α → List String) (xs : List α) : List α :=
  xs.mergeSort fun a b => keyLe (key a) (key b)

end LeaseKeeper.Rehearsal
