import Mathlib.Data.List.Basic

/-!
# Operations by number

What is under way is kept in lists of numbered items. An item is struck out of such a list, or
moved by being struck out and put in front; what is found under a number afterwards, and how many
items are counted by what they show.
-/

namespace LeaseKeeper

variable {α : Type} (ps : List (Nat × α)) (op q : Nat)

theorem lookup_filter :
    (ps.filter (·.1 != op)).lookup q = if q = op then none else ps.lookup q := by
  induction ps with
  | nil => simp
  | cons p ps ih =>
    by_cases hp : p.1 = op
    · rw [List.filter_cons_of_neg (by simpa using hp), ih, List.lookup_cons]
      by_cases hq : q = op
      · simp [hq]
      · rw [if_neg hq, if_neg hq, show (q == p.1) = false by simpa [hp] using hq]
    · rw [List.filter_cons_of_pos (by simpa using hp), List.lookup_cons, List.lookup_cons, ih]
      by_cases hq : q = p.1
      · simp [hq, hp]
      · simp [show (q == p.1) = false by simpa using hq]

theorem lookup_move (p : α) :
    ((op, p) :: ps.filter (·.1 != op)).lookup q = if q = op then some p else ps.lookup q := by
  rw [List.lookup_cons, lookup_filter]
  by_cases hq : q = op
  · simp [hq]
  · simp [show (q == op) = false by simpa using hq, hq]

theorem lookup_mem {p : α} {ps : List (Nat × α)} {op : Nat} (h : ps.lookup op = some p) :
    (op, p) ∈ ps := by
  obtain ⟨before, after, rfl, -⟩ := List.lookup_eq_some_iff.mp h
  exact List.mem_append_right _ List.mem_cons_self

theorem lookup_map_snd {β : Type} (g : α → β) :
    (ps.map fun x => (x.1, g x.2)).lookup op = (ps.lookup op).map g := by
  induction ps with
  | nil => rfl
  | cons x ps ih =>
    rw [List.map_cons, List.lookup_cons, List.lookup_cons]
    cases op == x.1 with
    | true => rfl
    | false => exact ih

/-! ## Counting -/

variable (f : α → Option Nat) (n : Nat)

theorem countP_filter_le :
    (ps.filter (·.1 != op)).countP (fun x => f x.2 == some n) ≤ ps.countP fun x => f x.2 == some n :=
  List.filter_sublist.countP_le

/-- An item that is struck out is counted no more. -/
theorem countP_filter_add_le {p : α} {ps : List (Nat × α)} {op : Nat} (h : ps.lookup op = some p) :
    (ps.filter (·.1 != op)).countP (fun x => f x.2 == some n) + (f p).toList.count n ≤
      ps.countP fun x => f x.2 == some n := by
  induction ps with
  | nil => cases h
  | cons x ps ih =>
    rw [List.lookup_cons] at h
    by_cases hx : op = x.1
    · rw [show (op == x.1) = true by simpa using hx] at h
      cases h
      rw [List.filter_cons_of_neg (by simp [hx]), List.countP_cons]
      refine Nat.add_le_add (countP_filter_le ..) ?_
      cases f x.2 with
      | none => exact Nat.zero_le _
      | some k => by_cases hk : k = n <;> simp [hk]
    · rw [show (op == x.1) = false by simpa using hx] at h
      rw [List.filter_cons_of_pos (by simpa using Ne.symm hx), List.countP_cons, List.countP_cons]
      have := ih h
      omega

theorem countP_move (p : α) :
    ((op, p) :: ps.filter (·.1 != op)).countP (fun x => f x.2 == some n) =
      (ps.filter (·.1 != op)).countP (fun x => f x.2 == some n) + (f p).toList.count n := by
  rw [List.countP_cons]
  refine congrArg _ ?_
  cases f p with
  | none => rfl
  | some k => by_cases hk : k = n <;> simp [hk]

end LeaseKeeper
