import LeaseKeeper.Proofs.Leases.Course
import LeaseKeeper.Proofs.Leases.Motions

/-!
# Whom a shutdown waits for

The operation that shuts a lease engine down waits for as many removals as it has made room for, and
counts off each that ends. `Joined` says that no more removals are under way for a shutdown than it
waits for; every motion keeps that (`Motion.joined`). So when nobody waits for removals any more,
none is under way for a shutdown, and as one would have to be about to begin for whatever is still
registered in an engine that is shut down, nothing is (`unregistered_of_over`). An engine at that
stage is `Over`; it stays so, and what it still gives back comes from removals that have waited for
their entries and from registrations that come too late (`Motion.strays`).
-/

namespace LeaseKeeper.Leases

/-- How many removals are waited for at a point. -/
def Point.awaits : Point → Nat
  | joining left => left
  | _ => 0

/-- Where an operation stands when a removal has ended for which it waits there. -/
def Point.told : Point → Option Point
  | joining left => if left ≤ 1 then none else some (joining (left - 1))
  | q => some q

/-- Whether an operation stands there that may yet come to give a lease back: the first fetch is with
the server, or a removal waits for its entry. -/
def Point.lags : Point → Bool
  | registering _ => true
  | queued _ (.remove _) => true
  | _ => false

namespace World

/-- How many removals are under way for a shutdown. -/
def children (w : World) (parent : Nat) : Nat :=
  w.operations.countP fun x => x.2.parent? == some parent

/-- How many removals an operation waits for. -/
def awaits (w : World) (op : Nat) : Nat := (w.point? op).elim 0 Point.awaits

/-- Every removal that is under way for a shutdown is waited for, and who has ended is gone. -/
structure Joined (w : World) : Prop where
  children : ∀ parent, w.children parent ≤ w.awaits parent
  gone : ∀ a o, .ended a o ∈ w.history → a < w.nextOperation ∧ w.point? a = none

/-- A lease is given back by a removal that has waited for its entry, or by the registration of a
secret that has just been fetched. -/
inductive Strays (w : World) (m : Move) (op : Nat) : Lease → Prop
  | waited {h : Handle} {remover : Remover} {e : Entry} {s : Snapshot} : m = .enter op →
    w.point? op = some (.queued h (.remove remover)) → w.entry? h = some e →
    e.lock.head? = some op → e.snapshot = some s → s.lease.hasId = true → Strays w m op s.lease
  | late {h : Handle} {secret : Secret} : m = .answer op (.fetched (.ok (some secret))) →
    w.point? op = some (.registering h) → secret.lease.hasId = true → Strays w m op secret.lease

/-- The engine has been shut down, and nobody waits for removals any more. -/
structure Over (w : World) : Prop where
  destroyed : w.destroyed = true
  joined : ∀ a n, w.point? a ≠ some (.joining n)

variable {w u v w' : World} {m : Move} {op a : Nat} {h : Handle} {q : Point} {parent? : Option Nat}

/-! ## Points and numbers -/

theorem awaits_of_ne (h : ∀ n, w.point? a ≠ some (.joining n)) : w.awaits a = 0 := by
  unfold awaits
  cases hq : w.point? a with
  | none => rfl
  | some q =>
    cases q with
    | joining n => exact absurd hq (h n)
    | _ => rfl

theorem point?_childEnded (u : World) (parent a : Nat) : (u.childEnded parent).point? a =
    if a = parent then (u.point? parent).bind Point.told else u.point? a := by
  unfold childEnded
  split
  · rename_i left hq
    rw [hq]
    by_cases hl : left ≤ 1
    · rw [if_pos hl, point?_finish]
      simp [Point.told, hl]
    · rw [if_neg hl, point?_setPoint]
      simp [Point.told, hl]
  · rename_i hno
    split
    · rename_i ha
      subst ha
      cases hq : u.point? a with
      | none => rfl
      | some q =>
        cases q with
        | joining n => exact absurd hq (hno n)
        | _ => rfl
    · rfl

theorem point?_childEnded_of_ne (u : World) (parent : Nat) (hq : q.isJoining = false) :
    (u.childEnded parent).point? a = some q ↔ u.point? a = some q := by
  rw [point?_childEnded]
  split
  · rename_i ha
    subst ha
    cases u.point? a with
    | none => simp
    | some r =>
      cases r with
      | joining n =>
        simp only [Option.bind_some, Point.told, Option.some.injEq]
        refine iff_of_false ?_ ?_ <;> intro hr
        · split at hr
          · cases hr
          · cases hr
            cases hq
        · cases hr
          cases hq
      | _ => rfl
  · rfl

theorem children_finish (u : World) (op : Nat) (o : Outcome) (parent : Nat) :
    (u.finish op o).children parent =
      (u.operations.filter (·.1 != op)).countP fun x => x.2.parent? == some parent := by
  obtain ⟨_, _, he⟩ := u.finish_eq op o
  rw [he]
  rfl

theorem children_setPoint (u : World) (op : Nat) (q : Point) (parent : Nat) :
    (u.setPoint op q).children parent =
      (u.operations.filter (·.1 != op)).countP (fun x => x.2.parent? == some parent) +
        q.parent?.toList.count parent :=
  countP_move u.operations op Point.parent? parent q

/-- Who waits for removals is no removal. -/
theorem children_join (u : World) (op n parent : Nat) :
    (u.setPoint op (.joining n)).children parent ≤ u.children parent := by
  rw [children_setPoint]
  exact countP_filter_le ..

theorem awaits_finish (u : World) (op : Nat) (o : Outcome) (a : Nat) :
    (u.finish op o).awaits a = if a = op then 0 else u.awaits a := by
  unfold awaits
  rw [point?_finish]
  split <;> rfl

theorem awaits_setPoint (u : World) (op : Nat) (q : Point) (a : Nat) :
    (u.setPoint op q).awaits a = if a = op then q.awaits else u.awaits a := by
  unfold awaits
  rw [point?_setPoint]
  split <;> rfl

/-! ## What becomes of the operations in a motion -/

theorem Still.point? (h : Still w u) (a : Nat) : u.point? a = w.point? a :=
  congrArg (List.lookup a) h.operations

theorem Still.children (h : Still w u) (parent : Nat) : u.children parent = w.children parent :=
  congrArg (List.countP _) h.operations

theorem Still.awaits (h : Still w u) (a : Nat) : u.awaits a = w.awaits a :=
  congrArg (Option.elim · 0 Point.awaits) (h.point? a)

/-- Who is to move waits for no removal. -/
theorem Turning.awaits (hw : Sound w) (h : Turning w m op parent? u) : w.awaits op = 0 := by
  refine awaits_of_ne fun n hn => ?_
  obtain ⟨rfl, -, -⟩ | ⟨q, hq, -, -, hj⟩ := h.stands
  · cases hw.point?_next.symm.trans hn
  · cases hq.symm.trans hn
    cases hj

/-- Who is to move is struck out of the removals under way for a shutdown. -/
theorem Turning.children (h : Turning w m op parent? u) (parent : Nat) :
    (u.operations.filter (·.1 != op)).countP (fun x => x.2.parent? == some parent) +
      parent?.toList.count parent ≤ w.children parent := by
  rw [h.still.operations]
  obtain ⟨-, -, rfl⟩ | ⟨q, hq, -, rfl, -⟩ := h.stands
  · exact countP_filter_le ..
  · exact countP_filter_add_le Point.parent? parent hq

/-- Only who has ended before the motion is somebody else. -/
theorem Turning.ne_of_gone (h : Turning w m op parent? u) (ha : a < w.nextOperation)
    (hgone : w.point? a = none) : a ≠ op := by
  rintro rfl
  obtain ⟨rfl, -, -⟩ | ⟨q, hq, -, -, -⟩ := h.stands
  · exact Nat.lt_irrefl _ ha
  · cases hq.symm.trans hgone

/-- The move names nobody who does not move. -/
theorem Turning.mover (h : Turning w m op parent? u) (ha : a ≠ op) : m.mover? ≠ some a := by
  obtain ⟨-, hm, -⟩ | ⟨-, -, hm, -, -⟩ := h.stands <;> rw [hm]
  · nofun
  · exact fun he => ha (Option.some.inj he).symm

/-- What the shutdown of an engine leaves: the old operations, the removals, and who waits for
them. -/
theorem enrolled_removals (hw : Sound w) (hs : List Handle) :
    let v := hs.foldl (enrollRemoval w.nextOperation)
      (({ w.enroll.2 with destroyed := true } : World).setPoint w.nextOperation (.joining hs.length))
    v.history = w.history ∧ v.held = w.held ∧ v.destroyed = true ∧ w.nextOperation < v.nextOperation ∧
      v.point? w.nextOperation = some (.joining hs.length) ∧
      (∀ a, a < w.nextOperation → v.point? a = w.point? a) ∧
      ∀ a q, w.nextOperation < a → v.point? a = some q → ∃ k, q = .opening k w.nextOperation := by
  generalize hv : ({ w.enroll.2 with destroyed := true } : World).setPoint w.nextOperation
    (.joining hs.length) = v
  have hpoint : ∀ a, v.point? a =
      if a = w.nextOperation then some (.joining hs.length) else w.point? a :=
    fun a => hv ▸ point?_setPoint ..
  obtain ⟨ps, n, heq, hn, hold, -, hnew⟩ := foldl_enrollRemoval w.nextOperation hs v
  dsimp only
  rw [heq]
  subst hv
  refine ⟨rfl, rfl, rfl, hn, ?_, fun a ha => ?_, fun a q ha hq => ?_⟩
  · exact (hold _ (Nat.lt_succ_self _)).trans ((hpoint _).trans (if_pos rfl))
  · exact (hold a (Nat.lt_succ_of_lt ha)).trans ((hpoint a).trans (if_neg (Nat.ne_of_lt ha)))
  · obtain hu | ⟨-, hk⟩ := hnew a q ha hq
    · rw [hpoint, if_neg (Nat.ne_of_gt ha)] at hu
      exact absurd (hw.fresh a q hu) (Nat.not_lt.mpr (Nat.le_of_lt ha))
    · exact hk

theorem children_enrollRemovals (parent : Nat) (hs : List Handle) (u : World) (p : Nat) :
    (hs.foldl (enrollRemoval parent) u).children p ≤
      u.children p + if p = parent then hs.length else 0 := by
  induction hs generalizing u with
  | nil => exact Nat.le_add_right _ _
  | cons h hs ih =>
    have hk : (enrollRemoval parent u h).children p ≤ u.children p + if p = parent then 1 else 0 := by
      show (World.setPoint _ _ (.opening h parent)).children p ≤ _
      rw [children_setPoint]
      refine Nat.add_le_add (countP_filter_le ..) (Nat.le_of_eq ?_)
      show [parent].count p = _
      by_cases hp : p = parent
      · rw [if_pos hp, hp, List.count_singleton_self]
      · rw [if_neg hp, List.count_eq_zero_of_not_mem fun hm => hp (List.mem_singleton.mp hm)]
    refine Nat.le_trans (ih _) ?_
    rw [List.length_cons]
    split at hk
    · rename_i hp
      rw [if_pos hp, if_pos hp]
      omega
    · rename_i hp
      rw [if_neg hp, if_neg hp]
      omega

/-! ## Waiting for the removals -/

/-- Who is told of the end of a removal waits for one less. -/
theorem children_childEnded {parent : Nat}
    (h : ∀ p, v.children p + [parent].count p ≤ v.awaits p) (p : Nat) :
    (v.childEnded parent).children p ≤ (v.childEnded parent).awaits p := by
  have hp := h p
  have hle := countP_filter_le v.operations parent Point.parent? p
  change _ ≤ v.children p at hle
  unfold childEnded
  split
  · rename_i left hq
    have hleft : v.awaits parent = left := by rw [World.awaits, hq]; rfl
    split
    · rw [children_finish, awaits_finish]
      by_cases he : p = parent
      · subst he
        simp only [List.count_singleton_self, hleft] at hp
        rw [if_pos rfl]
        omega
      · rw [if_neg he]
        omega
    · have hjoin := v.children_join parent (left - 1) p
      rw [awaits_setPoint]
      by_cases he : p = parent
      · subst he
        simp only [List.count_singleton_self, hleft] at hp
        rw [if_pos rfl, Point.awaits]
        omega
      · rw [if_neg he]
        omega
  · omega

theorem gone_childEnded {parent : Nat} (hf : ∀ a q, v.point? a = some q → a < v.nextOperation)
    (h : ∀ a o, .ended a o ∈ v.history → a < v.nextOperation ∧ v.point? a = none) (a : Nat)
    (o : Outcome) (ha : .ended a o ∈ (v.childEnded parent).history) :
    a < (v.childEnded parent).nextOperation ∧ (v.childEnded parent).point? a = none := by
  revert ha
  unfold childEnded
  split <;> intro ha
  · rename_i left hq
    split at ha
    · rename_i hl
      obtain ⟨_, _, he⟩ := v.finish_eq parent .finished
      rw [if_pos hl, point?_finish, show (v.finish parent .finished).nextOperation = v.nextOperation by
        rw [he]]
      rw [history_finish] at ha
      rcases List.mem_cons.mp ha with ha | ha
      · cases ha
        exact ⟨hf _ _ hq, if_pos rfl⟩
      · refine ⟨(h a o ha).1, ?_⟩
        rw [(h a o ha).2, ite_self]
    · rename_i hl
      obtain ⟨hlt, hnone⟩ := h a o ha
      rw [if_neg hl, point?_setPoint, if_neg fun hp => by rw [hp, hq] at hnone; cases hnone]
      exact ⟨hlt, hnone⟩
  · exact h a o ha

/-- Room is made for just the removals that are waited for. -/
theorem joined_shuts (hw : Sound w) (hj : Joined w) (hs : List Handle) :
    Joined (hs.foldl (enrollRemoval w.nextOperation)
      (({ w.enroll.2 with destroyed := true } : World).setPoint w.nextOperation
        (.joining hs.length))) := by
  have hcount := children_enrollRemovals w.nextOperation hs
    (({ w.enroll.2 with destroyed := true } : World).setPoint w.nextOperation (.joining hs.length))
  obtain ⟨hhist, -, -, hlt, hjoin, hold, hnew⟩ := enrolled_removals hw hs
  generalize hs.foldl _ _ = v at *
  refine ⟨fun p => ?_, fun a o ha => ?_⟩
  · refine Nat.le_trans (hcount p) ?_
    have hle : (World.setPoint { w.enroll.2 with destroyed := true } w.nextOperation
        (.joining hs.length)).children p ≤ w.awaits p :=
      Nat.le_trans (children_join ..) (hj.children p)
    have hnext : w.awaits w.nextOperation = 0 := by rw [World.awaits, hw.point?_next]; rfl
    by_cases hp : p = w.nextOperation
    · subst hp
      have hv : v.awaits w.nextOperation = hs.length := by rw [World.awaits, hjoin]; rfl
      rw [hv, if_pos rfl]
      omega
    · rw [if_neg hp]
      refine Nat.le_trans hle ?_
      rcases Nat.lt_trichotomy p w.nextOperation with hlt | rfl | hgt
      · exact Nat.le_of_eq (by rw [World.awaits, World.awaits, hold p hlt])
      · exact absurd rfl hp
      · rw [World.awaits]
        cases hq : w.point? p with
        | none => exact Nat.zero_le _
        | some q => exact absurd (hw.fresh p q hq) (Nat.not_lt.mpr (Nat.le_of_lt hgt))
  · rw [hhist] at ha
    obtain ⟨hlt', hnone⟩ := hj.gone a o ha
    exact ⟨Nat.lt_trans hlt' hlt, (hold a hlt').trans hnone⟩

theorem Turning.joined_finish (hw : Sound w) (hj : Joined w) (ht : Turning w m op parent? u)
    (o : Outcome) : (∀ p, (u.finish op o).children p + parent?.toList.count p ≤
        (u.finish op o).awaits p) ∧
      ∀ a r, .ended a r ∈ (u.finish op o).history →
        a < (u.finish op o).nextOperation ∧ (u.finish op o).point? a = none := by
  refine ⟨fun p => ?_, fun a r ha => ?_⟩
  · rw [children_finish, awaits_finish]
    have hle := Nat.le_trans (ht.children p) (hj.children p)
    split
    · rename_i hp
      subst hp
      rwa [ht.awaits hw] at hle
    · rwa [ht.still.awaits]
  · obtain ⟨_, _, he⟩ := u.finish_eq op o
    rw [point?_finish, show (u.finish op o).nextOperation = u.nextOperation by rw [he]]
    rw [history_finish] at ha
    rcases List.mem_cons.mp ha with ha | ha
    · cases ha
      exact ⟨ht.lt, if_pos rfl⟩
    · obtain ⟨hlt, hnone⟩ := hj.gone a r (ht.still.ended a r ha)
      rw [if_neg (ht.ne_of_gone hlt hnone), ht.still.point?]
      exact ⟨Nat.lt_of_lt_of_le hlt ht.still.nextOperation, hnone⟩

theorem Joined.gone_of_outcome? {o : Outcome} (hj : Joined w) (h : w.outcome? a = some o) :
    w.point? a = none := by
  obtain ⟨x, hx, he⟩ := List.exists_of_findSome?_eq_some h
  split at he
  · rename_i b r
    split at he
    · rename_i hb
      exact (hj.gone a r (eq_of_beq hb ▸ hx)).2
    · cases he
  · cases he

theorem joined_initial (settings : Settings) (d : Discipline) (draws : Nat → Nat) :
    Joined (initial settings d draws) :=
  ⟨fun _ => Nat.le_refl _, fun _ _ ha => by cases ha⟩

theorem Motion.joined (hw : Sound w) (hj : Joined w) (hm : Motion w m w') : Joined w' := by
  cases hm with
  | rests _ hs =>
    refine ⟨fun p => ?_, fun a o ha => ?_⟩
    · rw [hs.children, hs.awaits]
      exact hj.children p
    · obtain ⟨hlt, hnone⟩ := hj.gone a o (hs.ended a o ha)
      exact ⟨Nat.lt_of_lt_of_le hlt hs.nextOperation, (hs.point? a).trans hnone⟩
  | ends ht he =>
    subst he
    obtain ⟨hc, hg⟩ := ht.joined_finish hw hj _
    exact ⟨hc, hg⟩
  | @moves u op q ht hq hs =>
    refine ⟨fun p => ?_, fun a o ha => ?_⟩
    · rw [hs.children, hs.awaits, children_setPoint, awaits_setPoint]
      have hle := Nat.le_trans (ht.children p) (hj.children p)
      split
      · rename_i hp
        subst hp
        rw [ht.awaits hw] at hle
        exact Nat.le_trans hle (Nat.zero_le _)
      · rwa [ht.still.awaits]
    · obtain ⟨hlt, hnone⟩ := hj.gone a o (ht.still.ended a o (hs.ended a o ha))
      rw [hs.point?, point?_setPoint, if_neg (ht.ne_of_gone hlt hnone), ht.still.point?]
      exact ⟨Nat.lt_of_lt_of_le hlt (Nat.le_trans ht.still.nextOperation hs.nextOperation), hnone⟩
  | @tells u op parent o ht he =>
    subst he
    obtain ⟨hc, hg⟩ := ht.joined_finish hw hj o
    refine ⟨children_childEnded hc, gone_childEnded (fun a q hq => ?_) hg⟩
    obtain ⟨_, _, he⟩ := u.finish_eq op o
    rw [show (u.finish op o).nextOperation = u.nextOperation by rw [he]]
    rw [point?_finish] at hq
    split at hq
    · cases hq
    · rw [ht.still.point?] at hq
      exact Nat.lt_of_lt_of_le (hw.fresh a q hq) ht.still.nextOperation
  | shuts _ _ he =>
    subst he
    exact joined_shuts hw hj _
  | @shutsBare o _ _ he =>
    subst he
    have ht : Turning w (.begin .destroy) w.nextOperation none w.enroll.2 :=
      .begins ((Still.refl w).same rfl (Nat.le_succ _) rfl rfl rfl) rfl (Nat.lt_succ_self _)
    obtain ⟨hc, hg⟩ := ht.joined_finish hw hj o
    obtain ⟨_, _, he⟩ := w.enroll.2.finish_eq w.nextOperation o
    obtain ⟨_, _, he'⟩ := ({ w.enroll.2 with destroyed := true } : World).finish_eq w.nextOperation o
    rw [he] at hc hg
    rw [he']
    exact ⟨hc, hg⟩

/-! ## Where operations are after a motion -/

/-- Who is left when somebody else has ended was there before, and the move does not name it. -/
theorem Turning.stood (ht : Turning w m op parent? u) {o : Outcome}
    (hq : (u.finish op o).point? a = some q) : w.point? a = some q ∧ m.mover? ≠ some a := by
  rw [point?_finish] at hq
  split at hq
  · cases hq
  · exact ⟨(ht.still.point? a).symm.trans hq, ht.mover ‹_›⟩

theorem access_finish (u : World) (op : Nat) (o : Outcome) :
    (u.finish op o).held = u.held ∧ (u.finish op o).destroyed = u.destroyed := by
  obtain ⟨_, _, he⟩ := u.finish_eq op o
  rw [he]
  exact ⟨rfl, rfl⟩

theorem access_childEnded (u : World) (parent : Nat) :
    (u.childEnded parent).held = u.held ∧ (u.childEnded parent).destroyed = u.destroyed := by
  unfold childEnded
  split
  · split
    · exact access_finish ..
    · exact ⟨rfl, rfl⟩
  · exact ⟨rfl, rfl⟩

/-- Nobody lets go of an engine in a motion, and only a request shuts it down. -/
theorem Motion.access (hw : Sound w) (hm : Motion w m w') : w'.held = w.held ∧
    (w'.destroyed = w.destroyed ∨ m = .begin .destroy ∧ w'.destroyed = true) := by
  cases hm with
  | rests _ hs => exact ⟨hs.held, .inl hs.destroyed⟩
  | @ends u op o ht he =>
    obtain ⟨hh, hd⟩ := u.access_finish op o
    exact ⟨he ▸ hh.trans ht.still.held, .inl (he ▸ hd.trans ht.still.destroyed)⟩
  | moves ht _ hs =>
    exact ⟨hs.held.trans ht.still.held, .inl (hs.destroyed.trans ht.still.destroyed)⟩
  | @tells u op parent o ht he =>
    obtain ⟨hh, hd⟩ := u.access_finish op o
    obtain ⟨hh', hd'⟩ := (u.finish op o).access_childEnded parent
    exact ⟨he ▸ hh'.trans (hh.trans ht.still.held),
      .inl (he ▸ hd'.trans (hd.trans ht.still.destroyed))⟩
  | shuts hm _ he =>
    obtain ⟨-, hh, hd, -⟩ := enrolled_removals hw _
    exact ⟨he ▸ hh, .inr ⟨hm, he ▸ hd⟩⟩
  | shutsBare hm _ he =>
    obtain ⟨hh, hd⟩ := access_finish ({ w.enroll.2 with destroyed := true } : World) _ _
    exact ⟨he ▸ hh, .inr ⟨hm, he ▸ hd⟩⟩

/-- Who waits for no removal and is not named by the move stays where it is. -/
theorem Motion.stays (hw : Sound w) (hm : Motion w m w') (hq : w.point? a = some q)
    (hj : q.isJoining = false) (hmv : m.mover? ≠ some a) : w'.point? a = some q := by
  have hne : ∀ {op parent? u}, Turning w m op parent? u → a ≠ op := fun ht => by
    rintro rfl
    obtain ⟨rfl, -, -⟩ | ⟨-, -, hm, -, -⟩ := ht.stands
    · cases hw.point?_next.symm.trans hq
    · exact hmv hm
  have hlt := hw.fresh a q hq
  cases hm with
  | rests _ hs => exact (hs.point? a).trans hq
  | ends ht he => rw [he, point?_finish, if_neg (hne ht), ht.still.point?, hq]
  | moves ht _ hs => rw [hs.point?, point?_setPoint, if_neg (hne ht), ht.still.point?, hq]
  | tells ht he =>
    rw [he, point?_childEnded_of_ne _ _ hj, point?_finish, if_neg (hne ht), ht.still.point?, hq]
  | shuts _ _ he =>
    obtain ⟨-, -, -, -, -, hold, -⟩ := enrolled_removals hw _
    exact he ▸ (hold a hlt).trans hq
  | shutsBare _ _ he =>
    rw [he, point?_finish, if_neg (Nat.ne_of_lt hlt)]
    exact hq

/-- Who waits for no removal was there before, has moved there, or is a removal of a shutdown. -/
theorem Motion.comes (hw : Sound w) (hm : Motion w m w') (hq : w'.point? a = some q)
    (hj : q.isJoining = false) : w.point? a = some q ∧ m.mover? ≠ some a ∨ w.Arrives m a q ∨
      ∃ k parent, q = .opening k parent := by
  cases hm with
  | rests hn hs =>
    refine .inl ⟨(hs.point? a).symm.trans hq, ?_⟩
    rw [hn]
    nofun
  | ends ht he => exact .inl (ht.stood (he ▸ hq))
  | moves ht hr hs =>
    rw [hs.point?, point?_setPoint] at hq
    split at hq
    · rename_i ha
      cases ha
      cases hq
      exact .inr (.inl hr)
    · exact .inl ⟨(ht.still.point? a).symm.trans hq, ht.mover ‹_›⟩
  | tells ht he =>
    rw [he, point?_childEnded_of_ne _ _ hj] at hq
    exact .inl (ht.stood hq)
  | @shuts hs hm _ he =>
    subst he hm
    obtain ⟨-, -, -, -, hjoin, hold, hnew⟩ := enrolled_removals hw hs
    rcases Nat.lt_trichotomy a w.nextOperation with hlt | rfl | hgt
    · exact .inl ⟨(hold a hlt).symm.trans hq, nofun⟩
    · cases hq.symm.trans hjoin
      cases hj
    · obtain ⟨k, rfl⟩ := hnew a q hgt hq
      exact .inr (.inr ⟨k, _, rfl⟩)
  | shutsBare hm _ he =>
    subst he hm
    rw [point?_finish] at hq
    split at hq
    · cases hq
    · exact .inl ⟨hq, nofun⟩

/-- Nobody begins to wait for removals but who shuts the engine down. -/
theorem Motion.joins {n : Nat} (hw : Sound w) (hm : Motion w m w')
    (hq : w'.point? a = some (.joining n)) : (∃ k, w.point? a = some (.joining k)) ∨
      m = .begin .destroy ∧ w.destroyed = false ∧ a = w.nextOperation := by
  cases hm with
  | rests _ hs => exact .inl ⟨n, (hs.point? a).symm.trans hq⟩
  | ends ht he => exact .inl ⟨n, (ht.stood (he ▸ hq)).1⟩
  | moves ht hr hs =>
    rw [hs.point?, point?_setPoint] at hq
    split at hq
    · cases hq
      cases hr.stays
    · exact .inl ⟨n, (ht.still.point? a).symm.trans hq⟩
  | tells ht he =>
    rw [he, point?_childEnded] at hq
    split at hq
    · rename_i ha
      subst ha
      obtain ⟨r, hr, hq⟩ := Option.bind_eq_some_iff.mp hq
      cases r with
      | joining k => exact .inl ⟨k, (ht.stood hr).1⟩
      | _ => cases hq
    · exact .inl ⟨n, (ht.stood hq).1⟩
  | @shuts hs hm hd he =>
    subst he
    obtain ⟨-, -, -, -, -, hold, hnew⟩ := enrolled_removals hw hs
    rcases Nat.lt_trichotomy a w.nextOperation with hlt | ha | hgt
    · exact .inl ⟨n, (hold a hlt).symm.trans hq⟩
    · exact .inr ⟨hm, hd, ha⟩
    · obtain ⟨k, hk⟩ := hnew a _ hgt hq
      cases hk
  | shutsBare _ _ he =>
    rw [he, point?_finish] at hq
    split at hq
    · cases hq
    · exact .inl ⟨n, hq⟩

/-- While nobody shuts the engine down, nobody else begins to wait for removals. -/
theorem Motion.joiners {b : Bool} {P : Nat → Prop} (hw : Sound w) (hm : Motion w m w')
    (hne : m ≠ .begin .destroy)
    (hp : w.destroyed = b ∧ ∀ a n, w.point? a = some (.joining n) → P a) :
    w'.destroyed = b ∧ ∀ a n, w'.point? a = some (.joining n) → P a := by
  refine ⟨?_, fun a n hq => ?_⟩
  · obtain h | ⟨h, -⟩ := (hm.access hw).2
    · exact h.trans hp.1
    · exact absurd h hne
  · obtain ⟨k, hk⟩ | ⟨h, -⟩ := hm.joins hw hq
    · exact hp.2 a k hk
    · exact absurd h hne

/-- An answer that brings no secret ends a revocation, but leads to none. -/
theorem Motion.revoking_iff {r : Reply} {s : Snapshot} {remover : Remover} (hw : Sound w)
    (hm : Motion w (.answer op r) w') (hr : ∀ secret, r ≠ .fetched (.ok (some secret))) :
    w'.point? a = some (.revoking h s remover) ↔
      a ≠ op ∧ w.point? a = some (.revoking h s remover) := by
  refine ⟨fun hq => ?_, fun ⟨ha, hq⟩ => hm.stays hw hq rfl fun he => ha (Option.some.inj he).symm⟩
  obtain ⟨hq, hmv⟩ | ha | ⟨_, _, he⟩ := hm.comes hw hq rfl
  · exact ⟨fun ha => hmv (congrArg some ha.symm), hq⟩
  · obtain ⟨-, hy⟩ := ha.yields h s remover rfl
    cases hy with
    | removes hrem _ _ =>
      cases hrem with
      | asked hm _ => cases hm
      | opened hm _ => cases hm
    | waited hm _ _ _ _ => cases hm
    | late hm _ _ _ =>
      cases hm
      exact absurd rfl (hr _)
  · cases he

/-! ## After the last removal -/

/-- Nothing is under way for a shutdown that is over. -/
theorem Over.childless (ho : Over w) (hj : Joined w) (hq : w.point? a = some q) :
    q.parent? = none := by
  cases hp : q.parent? with
  | none => rfl
  | some parent =>
    have hcount := countP_filter_add_le Point.parent? parent hq
    have hle := hj.children parent
    rw [awaits_of_ne fun n => ho.joined parent n] at hle
    rw [hp, show (some parent).toList.count parent = 1 by simp] at hcount
    exact absurd (Nat.le_trans (Nat.le_trans (Nat.le_add_left _ _) hcount) hle) (by decide)

theorem unregistered_of_over (hw : Sound w) (hj : Joined w) (ho : Over w) (h : Handle) :
    w.registered? h = none := by
  refine registered?_eq_none fun e he hs => ?_
  obtain ⟨a, parent, hq⟩ := hw.opening ho.destroyed h e he hs
  cases ho.childless hj hq

theorem Motion.over (hw : Sound w) (hm : Motion w m w') (hd : w'.destroyed = true) (ho : Over w) :
    Over w' := by
  refine ⟨hd, fun a n hq => ?_⟩
  obtain ⟨k, hk⟩ | ⟨-, hno, -⟩ := hm.joins hw hq
  · exact ho.joined a k hk
  · cases ho.destroyed.symm.trans hno

/-- Who gives a lease back once everything is over did so before, or has waited, or is late. -/
theorem Motion.strays (hw : Sound w) (hj : Joined w) (ho : Over w) (hm : Motion w m w')
    {s : Snapshot} {remover : Remover} (hq : w'.point? a = some (.revoking h s remover)) :
    w.point? a = some (.revoking h s remover) ∧ m.mover? ≠ some a ∨ w.Strays m a s.lease := by
  obtain hold | hr | ⟨_, _, hk⟩ := hm.comes hw hq rfl
  · exact .inl hold
  · obtain ⟨hid, hy⟩ := hr.yields h s remover rfl
    cases hy with
    | removes _ hreg _ => cases (unregistered_of_over hw hj ho h).symm.trans hreg
    | waited hmv hp he hl hs => exact .inr (.waited hmv hp he hl hs hid)
    | late hmv hp _ hs =>
      rw [hs] at hid ⊢
      exact .inr (.late hmv hp hid)
  · cases hk

theorem Strays.move {l : Lease} (hs : w.Strays m op l) :
    (m = .enter op ∨ ∃ r, m = .answer op r) ∧ l.hasId = true := by
  cases hs with
  | waited hm _ _ _ _ hid => exact ⟨.inl hm, hid⟩
  | late hm _ hid => exact ⟨.inr ⟨_, hm⟩, hid⟩

/-- Who strays could be told before. -/
theorem Strays.lags {l : Lease} (hs : w.Strays m op l) :
    ∃ q, w.point? op = some q ∧ q.lags = true := by
  cases hs with
  | waited _ hq _ _ _ _ => exact ⟨_, hq, rfl⟩
  | late _ hq _ => exact ⟨_, hq, rfl⟩

/-- Whoever has waited or is late does give the lease back. -/
theorem Strays.revokes {l : Lease} (hs : w.Strays m op l) (hw : Sound w) (hd : w.destroyed = true)
    (hstep : step w m = some w') :
    ∃ h s remover, w'.point? op = some (.revoking h s remover) ∧ s.lease = l := by
  cases hs with
  | @waited h remover e s hm hq he hl hs hid =>
    subst hm
    simp only [step, enter, hq, he, hl, if_true, Option.some.injEq] at hstep
    subst hstep
    refine ⟨e.handle, s, remover, ?_, rfl⟩
    rw [withLock, takeOut, hs]
    dsimp only
    rw [if_pos hid]
    exact (point?_setPoint ..).trans (if_pos rfl)
  | @late h secret hm hq hid =>
    subst hm
    simp only [step, answer, hq, Option.some.injEq] at hstep
    subst hstep
    obtain ⟨f, hf⟩ := hw.wanted op _ h hq rfl
    obtain ⟨s, u, l, p, hs, hlease, ht, hu, hx⟩ :=
      afterFirstFetch_late (r := .ok (some secret)) hw hq hf rfl hd
    obtain ⟨_, _, hframe⟩ := hx.frame
    cases ht with
    | @returns s _ _ =>
      refine ⟨h, s, .registration, ?_, Option.some.inj hlease⟩
      rcases hu with hu | ⟨parent, hu⟩
      · rw [hu, hframe.point]
      · rw [hu, point?_childEnded_of_ne _ _ rfl, hframe.point]
    | ends hnone =>
      rw [hlease, show leaseOf? (.ok (some secret)) = some secret.lease from rfl,
        Option.filter_some, if_pos hid] at hnone
      cases hnone

theorem history_suffix_childEnded (u : World) (parent : Nat) :
    u.history <:+ (u.childEnded parent).history := by
  unfold childEnded
  split
  · split
    · rw [history_finish]
      exact List.suffix_cons ..
    · exact List.suffix_rfl
  · exact List.suffix_rfl

/-- A lease that could not be given back is told of. -/
theorem failed_of_answer (hw : Sound w) {s : Snapshot} {remover : Remover}
    (hq : w.point? op = some (.revoking h s remover)) (f : Fault) :
    ∃ w' path, w.answer op (.revocation (.error f)) = some w' ∧
      .published ⟨h, path, .failed s.lease f⟩ :: w.history <:+ w'.history := by
  obtain ⟨e, he, rfl, -, hx⟩ := entry_of_point hw hq rfl
  refine ⟨w.afterRevocation op e.handle s remover (.error f), e.request.path, by simp only [answer, hq], ?_⟩
  have hend := ((hx.publish rfl (.failed s.lease f)).unlock op).finish (remover.verdict true)
  have hsuffix : .published ⟨e.handle, e.request.path, .failed s.lease f⟩ :: w.history <:+ _ :=
    ⟨[.ended op (remover.verdict true)], hend.history.symm⟩
  simp only [afterRevocation, he]
  obtain hr | ⟨parent, hr⟩ :=
    ((w.publish e (.failed s.lease f)).unlock op e.handle).endRemoval_cases op remover true
  · exact hr ▸ hsuffix
  · exact hr ▸ hsuffix.trans (history_suffix_childEnded ..)

/-- Who may yet come to give a lease back once everything is over could do so before. -/
theorem Motion.lags (hw : Sound w) (hj : Joined w) (ho : Over w) (hm : Motion w m w')
    (hs : ∀ a q, w.point? a = some q → q.lags = false) (hq : w'.point? a = some q) :
    q.lags = false := by
  have hback : q.isJoining = false → w.point? a = some q ∨ w.Arrives m a q ∨ q.lags = false :=
    fun hjoin => by
      obtain ⟨hold, -⟩ | hr | ⟨_, _, rfl⟩ := hm.comes hw hq hjoin
      · exact .inl hold
      · exact .inr (.inl hr)
      · exact .inr (.inr rfl)
  cases q with
  | registering h =>
    obtain hold | hr | hl := hback rfl
    · exact hs a _ hold
    · cases ho.destroyed.symm.trans (hr.registers h rfl)
    · exact hl
  | queued h errand =>
    cases errand with
    | remove remover =>
      obtain hold | hr | hl := hback rfl
      · exact hs a _ hold
      · obtain ⟨e, he⟩ | hp := hr.queues h remover rfl
        · cases (unregistered_of_over hw hj ho h).symm.trans he
        · cases hs a _ hp
      · exact hl
    | _ => rfl
  | _ => rfl

end World

end LeaseKeeper.Leases
