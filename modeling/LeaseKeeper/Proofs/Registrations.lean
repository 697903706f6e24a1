import LeaseKeeper.Proofs.Multicaster
import Mathlib.Algebra.Group.Nat.Defs
import Mathlib.Data.List.Nodup

/-!
# Registrations

What the two lists of a multicaster hold after any changes. The changes are told by the numbers they
gave out and by those they took off (`Multicaster.issues`, `Multicaster.removals`, both in the order
of the changes and with the channel), and each list is known from that: it holds the numbers that
were given out on its channel and not taken off, in order (`Multicaster.Tracks.lists`). Since no
number is given out twice, a number stands on one list at most and once at most, so that a removal
takes one entry off and leaves the order of the others (`Ordered.filter_eq`). Every change keeps this
(`Tracks.apply`), and so does every delivery, in which listeners change the lists as they like
(`registrations_exact`).
-/

namespace LeaseKeeper

variable {σ L : Type}

/-- The number that a change gives out, and on which channel. -/
def Edit.issue? (m : Multicaster L) : Edit L → Option (Nat × Channel)
  | .register channel listener => some ((m.add channel listener).1, channel)
  | .unregister _ _ => none

/-- The number that a change takes off, and from which channel. -/
def Edit.removal? (m : Multicaster L) : Edit L → Option (Nat × Channel)
  | .register _ _ => none
  | .unregister channel id => if (m.remove channel id).1 then some (id, channel) else none

namespace Multicaster

/-- What some changes tell, one after the other. -/
def gather {α : Type} (tell : Multicaster L → Edit L → Option α) (m : Multicaster L) :
    List (Edit L) → List α
  | [] => []
  | e :: es => (tell m e).toList ++ (e.apply m).gather tell es

/-- The numbers that some changes give out, with their channels. -/
def issues (m : Multicaster L) (edits : List (Edit L)) : List (Nat × Channel) :=
  m.gather Edit.issue? edits

/-- The numbers that some changes take off, with their channels. -/
def removals (m : Multicaster L) (edits : List (Edit L)) : List (Nat × Channel) :=
  m.gather Edit.removal? edits

variable {m : Multicaster L} {issued removed : List (Nat × Channel)}

/-! ## Removing -/

theorem remove_eq_true_iff {c : Channel} {id : Nat} :
    (m.remove c id).1 = true ↔ ∃ r ∈ m.listeners c, r.id = id := by
  have hhas : m.has c id = true ↔ ∃ r ∈ m.listeners c, r.id = id := by simp [has]
  unfold remove
  split
  · rename_i h
    exact iff_of_true rfl (hhas.mp h)
  · rename_i h
    exact iff_of_false (by simp) fun he => h (hhas.mpr he)

theorem remove_of_true {c : Channel} {id : Nat} (h : (m.remove c id).1 = true) :
    (m.remove c id).2 = m.setListeners ((m.listeners c).filter (·.id != id)) c := by
  unfold remove at h ⊢
  split at h
  · rename_i hhas
    rw [if_pos hhas]
  · cases h

theorem remove_of_false {c : Channel} {id : Nat} (h : (m.remove c id).1 = false) :
    (m.remove c id).2 = m := by
  unfold remove at h ⊢
  split at h
  · cases h
  · rename_i hhas
    rw [if_neg hhas]

theorem map_id_remove {c : Channel} {id : Nat} (h : (m.remove c id).1 = true) (d : Channel) :
    ((m.remove c id).2.listeners d).map Registration.id =
      ((m.listeners d).map Registration.id).filter fun i => ¬(c = d ∧ i = id) := by
  rw [remove_of_true h, listeners_setListeners, List.filter_map]
  split
  · rename_i hd
    subst hd
    exact congrArg _ (List.filter_congr fun r _ => by simp [bne, beq_eq_decide])
  · rename_i hd
    rw [List.filter_eq_self.mpr fun r _ => by simp [hd]]

/-- Nobody else on a list has the number of somebody who is on it. -/
theorem Ordered.filter_eq (h : m.Ordered) {c : Channel} {before after : List (Registration L)}
    {r : Registration L} (he : m.listeners c = before ++ r :: after) :
    (m.listeners c).filter (·.id != r.id) = before ++ after := by
  have hp := (h c).1
  rw [he, List.pairwise_append, List.pairwise_cons] at hp
  obtain ⟨-, ⟨hafter, -⟩, hbefore⟩ := hp
  have hb : before.filter (·.id != r.id) = before := List.filter_eq_self.mpr fun s hs => by
    have := hbefore s hs r List.mem_cons_self
    simp only [bne_iff_ne, ne_eq]
    omega
  have ha : after.filter (·.id != r.id) = after := List.filter_eq_self.mpr fun s hs => by
    have := hafter s hs
    simp only [bne_iff_ne, ne_eq]
    omega
  rw [he, List.filter_append, List.filter_cons, hb, ha]
  simp

/-! ## Lists and changes -/

/-- What the lists have to do with the numbers that were given out and taken off. -/
structure Tracks (m : Multicaster L) (issued removed : List (Nat × Channel)) : Prop where
  /-- Each list is in the order of registration, and so are its numbers, none of which is still to
  be given out. -/
  ordered : m.Ordered
  /-- Numbers are given out from one up, each once. -/
  numbers : issued.map Prod.fst = List.range' 1 m.issued
  /-- A list holds what was given out on its channel and not taken off. -/
  lists : ∀ c, (m.listeners c).map Registration.id =
    (issued.filter fun x => x.2 = c ∧ x ∉ removed).map Prod.fst
  /-- A number is taken off the list that it was given out on. -/
  own : removed ⊆ issued
  /-- A number is taken off once at most. -/
  once : (removed.map Prod.fst).Nodup

namespace Tracks

theorem channel_unique (h : m.Tracks issued removed) {id : Nat} {c d : Channel}
    (hc : (id, c) ∈ issued) (hd : (id, d) ∈ issued) : c = d := by
  have hnd : (issued.map Prod.fst).Nodup := h.numbers ▸ List.nodup_range'
  exact congrArg Prod.snd (List.inj_on_of_nodup_map hnd hc hd rfl)

theorem le_issued (h : m.Tracks issued removed) {x : Nat × Channel} (hx : x ∈ issued) :
    x.1 ≤ m.issued := by
  have hm : x.1 ∈ List.range' 1 m.issued := h.numbers ▸ List.mem_map_of_mem hx
  have := List.mem_range'_1.mp hm
  omega

/-- Who stands on a list was registered there and has not been taken off. -/
theorem mem_listeners_iff (h : m.Tracks issued removed) {c : Channel} {id : Nat} :
    (∃ r ∈ m.listeners c, r.id = id) ↔ (id, c) ∈ issued ∧ (id, c) ∉ removed := by
  rw [← List.mem_map (f := Registration.id), h.lists, List.mem_map]
  simp only [List.mem_filter, decide_eq_true_eq, Prod.exists]
  constructor
  · rintro ⟨_, _, ⟨hi, rfl, hr⟩, rfl⟩
    exact ⟨hi, hr⟩
  · rintro ⟨hi, hr⟩
    exact ⟨id, c, ⟨hi, rfl, hr⟩, rfl⟩

theorem initial : (empty : Multicaster L).Tracks [] [] where
  ordered := ordered_empty
  numbers := rfl
  lists c := by cases c <;> rfl
  own := List.Subset.refl _
  once := List.nodup_nil

/-- A new listener joins its list at the end; nobody can have taken it off before. -/
theorem register (h : m.Tracks issued removed) (c : Channel) (l : L) :
    (m.add c l).2.Tracks (issued ++ [(m.issued + 1, c)]) removed := by
  have hfresh : ∀ d, (m.issued + 1, d) ∉ removed := fun d hd => by
    have := h.le_issued (h.own hd)
    omega
  refine ⟨h.ordered.apply (.register c l), ?_, fun d => ?_,
    List.Subset.trans h.own (List.subset_append_left ..), h.once⟩
  · show _ = List.range' 1 (m.issued + 1)
    rw [List.map_append, h.numbers, List.range'_concat]
    simp [Nat.add_comm]
  · rw [listeners_add, List.filter_append, List.map_append, ← h.lists d]
    by_cases hd : c = d
    · subst hd
      simp [hfresh]
    · simp [hd]

/-- Whoever is taken off leaves its list as it was but for itself. -/
theorem unregister (h : m.Tracks issued removed) {c : Channel} {id : Nat}
    (hr : (m.remove c id).1 = true) :
    (m.remove c id).2.Tracks issued (removed ++ [(id, c)]) := by
  obtain ⟨hissued, hnot⟩ := h.mem_listeners_iff.mp (remove_eq_true_iff.mp hr)
  have hnew : id ∉ removed.map Prod.fst := fun hm => by
    obtain ⟨⟨_, d⟩, hd, rfl⟩ := List.mem_map.mp hm
    cases h.channel_unique hissued (h.own hd)
    exact hnot hd
  refine ⟨h.ordered.apply (.unregister c id), ?_, fun d => ?_,
    List.append_subset.mpr ⟨h.own, by simpa using hissued⟩, ?_⟩
  · rw [issued_remove, h.numbers]
  · rw [map_id_remove hr, h.lists, List.filter_map, List.filter_filter]
    refine congrArg _ (List.filter_congr fun x _ => ?_)
    have hx : x = (id, c) ↔ c = x.2 ∧ x.1 = id := by
      rw [Prod.ext_iff, and_comm, eq_comm (a := x.2)]
    simp only [Function.comp_apply, List.mem_append, List.mem_singleton, hx, Bool.decide_and]
    by_cases hd : x.2 = d <;> simp [hd, Bool.and_comm]
  · rw [List.map_append]
    refine List.nodup_append.mpr ⟨h.once, List.nodup_singleton _, fun a ha b hb e => ?_⟩
    rw [e, List.mem_singleton.mp hb] at ha
    exact hnew ha

theorem apply (h : m.Tracks issued removed) (e : Edit L) :
    (e.apply m).Tracks (issued ++ (e.issue? m).toList) (removed ++ (e.removal? m).toList) := by
  cases e with
  | register c l =>
    rw [show (Edit.register c l).removal? m = none from rfl, Option.toList_none, List.append_nil]
    exact h.register c l
  | unregister c id =>
    rw [show (Edit.unregister c id).issue? m = none from rfl, Option.toList_none, List.append_nil]
    show (m.remove c id).2.Tracks issued
      (removed ++ (if (m.remove c id).1 then some (id, c) else none).toList)
    cases hr : (m.remove c id).1 with
    | true => exact h.unregister hr
    | false =>
      rw [remove_of_false hr]
      simpa using h

theorem edited (h : m.Tracks issued removed) (es : List (Edit L)) :
    (m.edited es).Tracks (issued ++ m.issues es) (removed ++ m.removals es) := by
  induction es generalizing m issued removed with
  | nil => simpa [issues, removals, gather] using h
  | cons e es ih => simpa [issues, removals, gather] using ih (h.apply e)

/-- Nobody stands on both lists. -/
theorem disjoint (h : m.Tracks issued removed) {r s : Registration L} (hr : r ∈ m.regular)
    (hs : s ∈ m.errors) : r.id ≠ s.id := by
  intro e
  have hreg := (h.mem_listeners_iff (c := .regular)).mp ⟨r, hr, e⟩
  have herr := (h.mem_listeners_iff (c := .errors)).mp ⟨s, hs, rfl⟩
  cases h.channel_unique hreg.1 herr.1

end Tracks

/-! ## The registry -/

/-- What can be told of the lists, and of a removal from one of them. -/
structure Exact (m : Multicaster L) (issued removed : List (Nat × Channel)) : Prop extends
    m.Tracks issued removed where
  disjoint : ∀ r ∈ m.regular, ∀ s ∈ m.errors, r.id ≠ s.id
  below : ∀ c, ∀ r ∈ m.listeners c, ∀ d l, r.id < (m.add d l).1
  /-- A counter of sixty-four bits does for fewer than `2 ^ 64` registrations. -/
  word : issued.length < 2 ^ 64 → ∀ x ∈ issued, x.1 < 2 ^ 64
  /-- A removal succeeds exactly if the number stands on that list, that is, if it was given out
  there and has not been taken off. -/
  removes_iff : ∀ c id, ((m.remove c id).1 = true ↔ ∃ r ∈ m.listeners c, r.id = id) ∧
    ((∃ r ∈ m.listeners c, r.id = id) ↔ (id, c) ∈ issued ∧ (id, c) ∉ removed)
  /-- A removal that succeeds takes that entry off and leaves everything else. -/
  removes : ∀ c id, (m.remove c id).1 = true → ∃ before r after, r.id = id ∧
    m.listeners c = before ++ r :: after ∧ (m.remove c id).2.listeners c = before ++ after ∧
      (∀ d, d ≠ c → (m.remove c id).2.listeners d = m.listeners d) ∧
        (m.remove c id).2.issued = m.issued
  /-- Any other removal changes nothing. -/
  spares : ∀ c id, (m.remove c id).1 = false → (m.remove c id).2 = m

theorem Tracks.exact (h : m.Tracks issued removed) : m.Exact issued removed where
  toTracks := h
  disjoint _ hr _ hs := h.disjoint hr hs
  below c r hr _ _ := Nat.lt_succ_of_le ((h.ordered c).2 r hr)
  word hlen x hx := by
    have hle := h.le_issued hx
    have hnumbers := congrArg List.length h.numbers
    rw [List.length_map, List.length_range'] at hnumbers
    omega
  removes_iff _ _ := ⟨remove_eq_true_iff, h.mem_listeners_iff⟩
  removes c id hr := by
    obtain ⟨r, hmem, rfl⟩ := remove_eq_true_iff.mp hr
    obtain ⟨before, after, he⟩ := List.append_of_mem hmem
    refine ⟨before, r, after, rfl, he, ?_, fun d hd => ?_, issued_remove ..⟩
    · rw [remove_of_true hr, listeners_setListeners, if_pos rfl, h.ordered.filter_eq he]
    · rw [remove_of_true hr, listeners_setListeners, if_neg (Ne.symm hd)]
  spares _ _ := remove_of_false

/-- Whatever was registered and taken off on either channel, the lists hold exactly what was given
out and not taken off, and a removal takes off exactly what it is asked for. What the listeners do
in a delivery is a sequence of such changes too. -/
theorem registrations_exact (edits : List (Edit L)) :
    (empty.edited edits : Multicaster L).Exact (empty.issues edits) (empty.removals edits) ∧
      ∀ (respond : Registration L → σ → Reaction σ L) (kind : String) (isError : Bool) (memory : σ),
        ∃ more, ((empty.edited edits).multicast respond kind isError memory).caster =
          empty.edited (edits ++ more) := by
  refine ⟨?_, fun respond kind isError memory => ?_⟩
  · have h := (Tracks.initial (L := L)).edited edits
    rw [List.nil_append, List.nil_append] at h
    exact h.exact
  · have h : Delivery.Tells kind (empty.edited edits) _
        ((empty.edited edits).multicast respond kind isError memory) :=
      Delivery.tells_multicast isError memory
    exact ⟨_, h.caster.trans (edited_append ..).symm⟩

end Multicaster

end LeaseKeeper
