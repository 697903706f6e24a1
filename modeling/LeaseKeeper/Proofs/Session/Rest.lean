import LeaseKeeper.Proofs.Session.Hands
import Mathlib.Algebra.GroupWithZero.Nat
import Mathlib.Algebra.Order.BigOperators.Group.List

/-!
# A session at rest

Once a session has been shut down it has no grant and no task, and gets neither again (`Rests`).
All that is left to do is to let go of the operations that were under way: nobody joins the queue
for the lock any more, and whoever resumes at its head leaves it, or gives back what its login has
brought and then leaves it (`Ebb`). So the queue runs dry (`legs_turn`).
-/

namespace LeaseKeeper.Session

/-- How often an operation in the queue for the lock has to be resumed yet, at most: after the
login there may be a question about the token, or the token may have to be given back. -/
def Point.legs : Point → Nat
  | .queued _ _ => 1
  | .loggingIn _ _ => 3
  | .lookingUp _ _ => 2
  | .discarding _ _ => 1
  | _ => 0

theorem Point.legs_pos {p : Point} (h : p.wantsLock = true) : 0 < p.legs := by
  cases p <;> first | exact Nat.succ_pos _ | cases h

/-- The operation that a move resumes or gives up. -/
def Move.mover? : Move → Option Nat
  | .enter op => some op
  | .answer op _ => some op
  | .abandon op => some op
  | _ => none

/-- The login of that operation is refused. -/
abbrev Move.denies (op : Nat) (f : Fault) : Move := .answer op (.login (.error f))

/-- The session has been shut down and has neither a grant nor a task; `n` tasks have been
scheduled in all. -/
structure Rests (n : Nat) (w : World) : Prop where
  destroyed : w.destroyed = true
  bare : w.current = none
  idle : w.schedule.live = []
  issued : w.schedule.issued = n

namespace Rests

open World

variable {n : Nat} {w u w' : World} {m : Move} {op : Nat}

theorem same (h : Rests n w) (hd : u.destroyed = w.destroyed) (hc : u.current = w.current)
    (hs : u.schedule = w.schedule) : Rests n u :=
  ⟨hd.trans h.destroyed, hc.trans h.bare, by rw [hs]; exact h.idle, by rw [hs]; exact h.issued⟩

theorem cancelTask (h : Rests n w) : Rests n w.cancelTask where
  destroyed := h.destroyed
  bare := h.bare
  idle := by
    show (w.schedule.cancel? w.slot).live = []
    rw [Schedule.live_cancel?, h.idle]
    rfl
  issued := (Schedule.issued_cancel? ..).trans h.issued

theorem reap (h : Rests n w) : Rests n w.reap := by
  unfold World.reap
  split
  · exact h
  · exact h.cancelTask

theorem finish (h : Rests n w) (o : Outcome) : Rests n (w.finish op o) := by
  refine Rests.reap (h.same ?_ ?_ ?_) <;> rfl

theorem endLogin (h : Rests n w) (purpose : Purpose) (r : Except Fault Grant) :
    Rests n (w.endLogin op purpose r) := by
  rw [endLogin_eq]
  refine Rests.finish (h.same ?_ ?_ ?_) _ <;> rfl

theorem tellRevocation (h : Rests n w) (g : Grant) (r : Except Fault Unit) :
    Rests n (w.tellRevocation g r) := by
  cases r <;> exact h.same rfl rfl rfl

theorem stop (h : Rests n w) : Rests n w.stop where
  destroyed := h.destroyed
  bare := h.bare
  idle := by
    show w.schedule.stop.live = []
    rcases w.schedule.stop_cases with hs | hs <;> rw [hs]
    · exact h.idle
    · exact Schedule.live_of_stopped rfl
  issued := by
    show w.schedule.stop.issued = n
    rcases w.schedule.stop_cases with hs | hs <;> rw [hs] <;> exact h.issued

theorem welcomes (h : Rests n w) {purpose : Purpose} {c : Credential}
    (hw : Welcomes w op purpose c w') : Rests n w' := by
  have hm : Rests n w.minted := h.same rfl rfl rfl
  cases hw with
  | late _ _ => exact hm.same rfl rfl rfl
  | dropped _ _ => exact hm.endLogin ..
  | installed hd => cases h.destroyed.symm.trans hd

/-- No task is left to start. -/
theorem not_fires (h : Rests n w) {t : Task Job} {s : Schedule Job} : ¬ w.Fires m t s := fun hf => by
  cases hf with
  | due hf => simp [Schedule.startDue, h.idle] at hf
  | next hf => simp [Schedule.startNext, h.idle] at hf

/-- The first to shut a session down puts it to rest. -/
theorem of_destroy (hd : w.destroyed = false) (hb : Booked w.schedule w.slot)
    (ht : Turn w (.begin .destroy) w') : Rests w.schedule.issued w' := by
  have hr : Rests w.schedule.issued
      ((({ w.enrolled with destroyed := true } : World).cancelTask).install none) :=
    ⟨rfl, rfl, (booked_cancelTask hb).2, Schedule.issued_cancel? ..⟩
  cases ht with
  | destroyAgain _ hd' => cases hd.symm.trans hd'
  | destroy _ _ hk =>
    cases hk with
    | quiet _ => exact hr.finish _
    | sends _ _ => exact hr.same rfl rfl rfl
  | orphan hf _ | stale hf _ _ | renew hf _ _ _ _ | expire hf _ _ _ _ => cases hf

end Rests

/-! ## What a step still does -/

namespace World

/-- What a step does in a session at rest. -/
inductive Ebb (w : World) (m : Move) (w' : World) : Prop
  /-- An operation ends that has no place in the queue, or nothing happens to any. -/
  | aside {op : Nat} : w.Beside w' op → w'.lock = w.lock → op ∉ w.lock → w'.point? op = none →
    (∀ a ∈ w.lock, m.mover? ≠ some a) → w.brings? m = none → Ebb w m w'
  /-- An operation is given up. -/
  | abandoned {op : Nat} : m = .abandon op → w.Beside w' op → w'.lock = w.lock.filter (· != op) →
    w'.point? op = none → Ebb w m w'
  /-- The head of the queue ends without a credential. -/
  | refused {op : Nat} {p : Point} {purpose : Purpose} {f : Fault} : m.mover? = some op →
    w.Beside w' op → w.lock.head? = some op → w'.lock = w.lock.filter (· != op) →
    w.point? op = some p → p.purpose? = some purpose → w'.point? op = none →
    w'.outcome? op = some (purpose.outcome (.error f)) →
    (w.LogsIn op ∧ m = .denies op f ∨ f = .destroyed ∧ ∀ f', m ≠ .denies op f') → Ebb w m w'
  /-- The server is asked about the token of a login. -/
  | looksUp {op : Nat} {purpose : Purpose} {since : Instant} {c : Credential} :
    m = .answer op (.login (.ok c)) → w.Beside w' op → w'.lock = w.lock →
    w.point? op = some (.loggingIn purpose since) → w'.point? op = some (.lookingUp purpose c) →
    w.brings? m = none → Ebb w m w'
  /-- The token of a login is given back. -/
  | discards {op : Nat} {r : Reply} {p : Point} {purpose : Purpose} {g : Grant} :
    m = .answer op r → (∀ f, m ≠ .denies op f) → w.Beside w' op → w'.lock = w.lock →
    w.point? op = some p → p.isLogin = true → p.purpose? = some purpose → 2 ≤ p.legs →
    w'.point? op = some (.discarding purpose g) → Ebb w m w'

variable {n : Nat} {w u w' : World} {m : Move} {op : Nat}

/-- An operation ends that has no place in the queue. -/
theorem Ebb.finish (h : Alike w u) (hop : op ∉ w.lock) (hm : ∀ a ∈ w.lock, m.mover? ≠ some a)
    (hb : w.brings? m = none) (o : Outcome) : Ebb w m (u.finish op o) :=
  .aside (h.finish o).1 ((lock_finish ..).trans h.lock) hop (h.finish o).2 hm hb

/-- Nothing happens to any operation. -/
theorem Ebb.still (ho : w.IsOrderly) (h : Alike w u) (hm : m.mover? = none)
    (hb : w.brings? m = none) : Ebb w m u :=
  .aside (⟨fun a _ => h.points a, h.next⟩ : Beside w u w.nextOperation) h.lock ho.next_not_mem
    (by rw [h.points]; exact ho.lookup_next) (fun _ _ he => by cases hm.symm.trans he) hb

theorem ebb_endLogin {p : Point} {purpose : Purpose} {f : Fault} (ho : w.IsOrderly) (h : Alike w u)
    (hm : m.mover? = some op) (hp : w.point? op = some p) (hl : p.isLogin = true)
    (hpu : p.purpose? = some purpose)
    (hf : w.LogsIn op ∧ m = .denies op f ∨ f = .destroyed ∧ ∀ f', m ≠ .denies op f') :
    Ebb w m (u.endLogin op purpose (.error f)) := by
  rw [endLogin_eq]
  refine .refused hm (⟨fun a ha => ?_, ?_⟩ : Beside w _ op) (ho.head op p hp hl) ?_ hp hpu ?_
    (outcome?_finish ..) hf
  · rw [point?_finish, if_neg ha]
    exact h.points a
  · rw [nextOperation_finish]
    exact h.next
  · rw [lock_finish, ← h.lock]
    rfl
  · rw [point?_finish, if_pos rfl]

theorem ebb_welcomes {p : Point} {purpose : Purpose} {c : Credential} {r : Reply} (ho : w.IsOrderly)
    (h : Alike w u) (hd : u.destroyed = true) (hp : w.point? op = some p) (hl : p.isLogin = true)
    (hpu : p.purpose? = some purpose) (hlegs : 2 ≤ p.legs)
    (hf : ∀ f, Move.answer op r ≠ .denies op f) (hw : Welcomes u op purpose c w') :
    Ebb w (.answer op r) w' := by
  have hm : Alike w u.minted := ⟨h.points, h.next, h.lock, h.done, h.fault⟩
  cases hw with
  | late _ _ =>
    exact .discards rfl hf (hm.call ..).1 h.lock hp hl hpu hlegs (hm.call ..).2
  | dropped _ _ => exact ebb_endLogin ho hm rfl hp hl hpu (.inr ⟨rfl, hf⟩)
  | installed hd' => cases hd.symm.trans hd'

section rest

variable (h : Rests n w) (ho : w.IsOrderly)

include h ho

/-- Whoever begins is let go of at once. -/
theorem ebb_begins {r : Request} (o : Outcome) :
    Ebb w (.begin r) (w.enrolled.finish w.nextOperation o) ∧
      Rests n (w.enrolled.finish w.nextOperation o) := by
  have hq : Alike w w.enrolled := .same rfl (Nat.le_succ _) rfl rfl rfl
  have hr : Rests n w.enrolled := h.same rfl rfl rfl
  exact ⟨.finish hq ho.next_not_mem (fun _ _ he => by cases he) rfl _, hr.finish _⟩

theorem ebb_acquires (hk : Acquires w.enrolled w.nextOperation .caller w') :
    Ebb w (.begin .token) w' ∧ Rests n w' := by
  cases hk with
  | shut _ => exact ebb_begins h ho _
  | found hd _ | starts hd _ _ | waits hd _ _ => cases h.destroyed.symm.trans hd

theorem ebb_takes (hk : Takes w.enrolled w.nextOperation w') :
    Ebb w (.begin .revoke) w' ∧ Rests n w' := by
  cases hk with
  | quiet _ =>
    have hq : Alike w (w.enrolled.cancelTask.install none) := ⟨fun _ => rfl, Nat.le_succ _, rfl, rfl, rfl⟩
    have hr : Rests n (w.enrolled.cancelTask.install none) :=
      Rests.same (h.same rfl rfl rfl : Rests n w.enrolled).cancelTask rfl h.bare.symm rfl
    exact ⟨.finish hq ho.next_not_mem (fun _ _ he => by cases he) rfl _, hr.finish _⟩
  | sends hc _ => cases h.bare.symm.trans hc

omit ho in
theorem ebb_enters {observed : Nat} {purpose : Purpose} (hl : w.lock.head? = some op)
    (hp : w.point? op = some (.queued observed purpose)) (hk : Enters w op observed purpose w') :
    Ebb w (.enter op) w' ∧ Rests n w' := by
  cases hk with
  | shut _ =>
    have hr : Rests n (w.unlock op) := h.same rfl rfl rfl
    refine ⟨.refused rfl (⟨fun a ha => ?_, ?_⟩ : Beside w _ op) hl (lock_finish ..) hp rfl ?_
      (outcome?_finish ..) (.inr ⟨rfl, fun _ he => (by cases he)⟩), hr.finish _⟩
    · rw [point?_finish, if_neg ha]
      rfl
    · rw [nextOperation_finish]
      exact Nat.le_refl _
    · rw [point?_finish, if_pos rfl]
  | found hd _ | shared hd _ _ _ | starts hd _ _ => cases h.destroyed.symm.trans hd

omit h in
/-- An operation without a place in the queue is answered, and ends. -/
theorem ebb_answered {r : Reply} {p : Point} (hp : w.point? op = some p) (hl : p.wantsLock = false)
    (hu : Alike w u) (hr : Rests n u) (hb : w.brings? (.answer op r) = none) (o : Outcome) :
    Ebb w (.answer op r) (u.finish op o) ∧ Rests n (u.finish op o) := by
  have hop : op ∉ w.lock := ho.not_mem_lock fun q hq => by cases hp.symm.trans hq; exact hl
  refine ⟨.finish hu hop (fun a ha he => ?_) hb _, hr.finish _⟩
  cases he
  exact hop ha

theorem ebb_renews {g : Grant} {since : Instant} {r : Except Fault Credential}
    (hp : w.point? op = some (.renewing g since)) (hk : Renews w op g r w') :
    Ebb w (.answer op (.renewal r)) w' ∧ Rests n w' := by
  cases hk with
  | discarded _ =>
    exact ebb_answered ho hp rfl (.same rfl (Nat.le_refl _) rfl rfl rfl) h (by simp only [brings?, hp]) _
  | superseded hd _ | brief hd _ _ | renewed hd _ _ | retried hd _ _ | tooLate hd _ _ _ | failed hd _ _ =>
    cases h.destroyed.symm.trans hd

/-- So every turn ebbs, and the session stays at rest. -/
theorem ebb_of_turn (ht : Turn w m w') : Ebb w m w' ∧ Rests n w' := by
  cases ht with
  | token _ hk => exact ebb_acquires h ho hk
  | revoke _ hk => exact ebb_takes h ho hk
  | destroyAgain _ _ => exact ebb_begins h ho _
  | destroy _ hd _ => cases h.destroyed.symm.trans hd
  | orphan hf _ | stale hf _ _ | renew hf _ _ _ _ | expire hf _ _ _ _ => exact absurd hf h.not_fires
  | enter hl hp hk => exact ebb_enters h hl hp hk
  | @loginFailed op purpose since f hp =>
    have hq : Alike w ((w.timed false since).publish (.failed f none)) :=
      .same rfl (Nat.le_refl _) rfl rfl rfl
    have hr : Rests n ((w.timed false since).publish (.failed f none)) := h.same rfl rfl rfl
    exact ⟨ebb_endLogin ho hq rfl hp rfl rfl (.inl ⟨⟨purpose, since, hp⟩, rfl⟩), hr.endLogin ..⟩
  | @looksUp op purpose since c hp hl =>
    have hq : Alike w (w.timed true since) := .same rfl (Nat.le_refl _) rfl rfl rfl
    refine ⟨.looksUp rfl (hq.call ..).1 rfl hp (hq.call ..).2 ?_, h.same rfl rfl rfl⟩
    simp only [brings?, hp, hl, if_true]
  | @welcome op purpose since c _ hp hl hw =>
    have hq : Alike w (w.timed true since) := .same rfl (Nat.le_refl _) rfl rfl rfl
    have hr : Rests n (w.timed true since) := h.same rfl rfl rfl
    exact ⟨ebb_welcomes ho hq h.destroyed hp rfl rfl (Nat.le_succ 2) (fun _ he => by cases he) hw,
      hr.welcomes hw⟩
  | lookedUp hp hw | notLookedUp hp hw =>
    exact ⟨ebb_welcomes ho (.same rfl (Nat.le_refl _) rfl rfl rfl) h.destroyed hp rfl rfl
      (Nat.le_refl _) (fun _ he => by cases he) hw, h.welcomes hw⟩
  | @discarded op purpose g r hp =>
    exact ⟨ebb_endLogin ho (.tellRevocation ..) rfl hp rfl rfl (.inr ⟨rfl, fun _ he => (by cases he)⟩),
      (h.tellRevocation g r).endLogin ..⟩
  | renewed hp hk => exact ebb_renews h ho hp hk
  | @revoked op g r hp =>
    exact ebb_answered ho hp rfl (.tellRevocation ..) (h.tellRevocation g r)
      (by simp only [brings?, hp]) _
  | @abandon op p hp =>
    obtain ⟨hb, hn⟩ := beside_abandon w op
    have hr : Rests n ({ w.unlock op with operations := w.operations.filter (·.1 != op) } : World) :=
      h.same rfl rfl rfl
    exact ⟨.abandoned rfl hb (lock_reap _) hn, hr.reap⟩
  | release =>
    have hr : Rests n { w with held := false } := h.same rfl rfl rfl
    exact ⟨.still ho (.release w) rfl rfl, hr.reap⟩
  | stop => exact ⟨.still ho (.same rfl (Nat.le_refl _) rfl rfl rfl) rfl rfl, h.stop⟩
  | elapse | listen | unlisten =>
    exact ⟨.still ho (.same rfl (Nat.le_refl _) rfl rfl rfl) rfl rfl, h.same rfl rfl rfl⟩

end rest

/-! ## The queue runs dry -/

/-- How often that operation has to be resumed yet, at most. -/
def legsOf (w : World) (op : Nat) : Nat := (w.point? op).elim 0 Point.legs

/-- How often the operations in the queue have to be resumed yet, at most. -/
def legs (w : World) : Nat := (w.lock.map w.legsOf).sum

/-- The move resumes the head of the queue, or gives it up. -/
def isHeadMove (w : World) (m : Move) : Bool := m.mover?.any fun op => w.lock.head? == some op

theorem legsOf_eq {p : Point} (h : w.point? op = some p) : w.legsOf op = p.legs := by
  rw [legsOf, h]
  rfl

theorem legs_split (ho : w.IsOrderly) (hop : op ∈ w.lock) :
    w.legs = w.legsOf op + ((w.lock.filter (· != op)).map w.legsOf).sum := by
  rw [← ho.nodup.erase_eq_filter, legs, ((List.perm_cons_erase hop).map w.legsOf).sum_eq]
  rfl

theorem legsOf_filter (hb : Beside w w' op) (l : List Nat) :
    (l.filter (· != op)).map w'.legsOf = (l.filter (· != op)).map w.legsOf :=
  List.map_congr_left fun a ha => by
    rw [legsOf, hb.points a (by simpa using (List.mem_filter.mp ha).2)]
    rfl

theorem filter_of_not_mem {l : List Nat} (h : op ∉ l) : l.filter (· != op) = l :=
  List.filter_eq_self.mpr fun a ha => bne_iff_ne.mpr fun (he : a = op) => h (he ▸ ha)

/-- An operation leaves the queue. -/
theorem legs_leave (ho : w.IsOrderly) (hb : Beside w w' op) (hl : w'.lock = w.lock.filter (· != op)) :
    w'.legs + (if op ∈ w.lock then 1 else 0) ≤ w.legs := by
  rw [legs, hl, legsOf_filter hb]
  by_cases hop : op ∈ w.lock
  · obtain ⟨p, hp, hw⟩ := (ho.mem_lock op).mp hop
    have := Point.legs_pos hw
    rw [legs_split ho hop, legsOf_eq hp, if_pos hop]
    omega
  · rw [if_neg hop, filter_of_not_mem hop]
    exact Nat.le_refl _

/-- An operation in the queue goes on. -/
theorem legs_go (ho : w.IsOrderly) (hb : Beside w w' op) (hl : w'.lock = w.lock) {p p' : Point}
    (hp : w.point? op = some p) (hw : p.wantsLock = true) (hp' : w'.point? op = some p')
    (hlt : p'.legs < p.legs) : w'.legs + 1 ≤ w.legs := by
  have hop : op ∈ w.lock := (ho.mem_lock op).mpr ⟨p, hp, hw⟩
  have hs : w'.legs = w'.legsOf op + ((w.lock.filter (· != op)).map w'.legsOf).sum := by
    rw [← ho.nodup.erase_eq_filter, legs, hl, ((List.perm_cons_erase hop).map w'.legsOf).sum_eq]
    rfl
  rw [hs, legsOf_filter hb, legs_split ho hop, legsOf_eq hp, legsOf_eq hp']
  omega

theorem isHeadMove_le (hm : ∀ a ∈ w.lock, m.mover? ≠ some a) : w.isHeadMove m = false := by
  unfold isHeadMove
  cases hmo : m.mover? with
  | none => rfl
  | some op =>
    simp only [Option.any_some, beq_eq_false_iff_ne]
    exact fun hh => hm op (List.mem_of_mem_head? hh) hmo

/-- In a session at rest a step makes the queue no longer, and a step of its head makes it
shorter. -/
theorem Ebb.legs (h : Ebb w m w') (ho : w.IsOrderly) :
    w'.legs + (if w.isHeadMove m then 1 else 0) ≤ w.legs := by
  cases h with
  | @aside op hb hl hop _ hm _ =>
    have := legs_leave ho hb (hl.trans (filter_of_not_mem hop).symm)
    rw [if_neg hop] at this
    simpa [isHeadMove_le hm] using this
  | @abandoned op hm hb hl _ =>
    have hle := legs_leave ho hb hl
    subst hm
    by_cases hop : op ∈ w.lock
    · rw [if_pos hop] at hle
      split <;> omega
    · have hm : w.isHeadMove (.abandon op) = false := isHeadMove_le fun a ha he => by
        cases he
        exact hop ha
      rw [if_neg hop] at hle
      simpa [hm] using hle
  | @refused op _ _ _ _ hb hh hl _ _ _ _ _ =>
    have hle := legs_leave ho hb hl
    rw [if_pos (List.mem_of_mem_head? hh)] at hle
    split <;> omega
  | looksUp _ hb hl hp hp' _ =>
    have hle := legs_go ho hb hl hp rfl hp' (Nat.lt_succ_self 2)
    split <;> omega
  | discards _ _ hb hl hp hlog _ hlegs hp' =>
    have hle := legs_go ho hb hl hp (Point.wantsLock_of_isLogin hlog) hp' hlegs
    split <;> omega

/-- Whoever is in the queue has to be resumed yet. -/
theorem length_le_legs (ho : w.IsOrderly) : w.lock.length ≤ w.legs := by
  rw [legs, ← List.length_map w.legsOf]
  refine List.length_le_sum_of_one_le _ fun i hi => ?_
  obtain ⟨a, ha, rfl⟩ := List.mem_map.mp hi
  obtain ⟨p, hp, hw⟩ := (ho.mem_lock a).mp ha
  rw [legsOf_eq hp]
  exact Point.legs_pos hw

/-- Only the head of the queue has to be resumed more than once. -/
theorem legs_le (ho : w.IsOrderly) : w.legs ≤ w.lock.length + 2 := by
  cases hl : w.lock with
  | nil => simp [legs, hl]
  | cons a as =>
    have hrest : as.map w.legsOf = List.replicate as.length 1 := by
      refine List.eq_replicate_iff.mpr ⟨List.length_map .., fun i hi => ?_⟩
      obtain ⟨b, hb, rfl⟩ := List.mem_map.mp hi
      obtain ⟨p, hp, hw⟩ := (ho.mem_lock b).mp (hl ▸ List.mem_cons_of_mem a hb)
      rw [legsOf_eq hp]
      cases hlog : p.isLogin with
      | true =>
        -- Then `b` is the head, which occurs only once.
        have hh := ho.head b p hp hlog
        rw [hl, List.head?_cons, Option.some.injEq] at hh
        have hnd := ho.nodup
        rw [hl, List.nodup_cons] at hnd
        exact absurd (hh ▸ hb) hnd.1
      | false =>
        cases p with
        | queued _ _ => rfl
        | loggingIn | lookingUp | discarding => cases hlog
        | renewing | revoking => cases hw
    have hhead : w.legsOf a ≤ 3 := by
      obtain ⟨p, hp, -⟩ := (ho.mem_lock a).mp (hl ▸ List.mem_cons_self ..)
      rw [legsOf_eq hp]
      cases p <;> simp [Point.legs]
    rw [legs, hl, List.map_cons, List.sum_cons, hrest, List.sum_replicate_nat, List.length_cons]
    omega

/-! ## The login under way -/

/-- Nobody waits any more for what a login will bring. -/
def Settled (w : World) : Prop := ∀ op p, w.point? op = some p → p.legs ≤ 1

theorem Settled.brings? (h : w.Settled) (m : Move) : w.brings? m = none := by
  unfold World.brings?
  split
  · rename_i op r
    split
    · exact absurd (h _ _ ‹_›) (by simp [Point.legs])
    · exact absurd (h _ _ ‹_›) (by simp [Point.legs])
    · exact absurd (h _ _ ‹_›) (by simp [Point.legs])
    · rfl
  · rfl

/-- The head of the queue is the only one that may wait for a login. -/
theorem settled_of_head (ho : w.IsOrderly) (hh : w.lock.head? = some op) (hb : Beside w w' op)
    (hop : ∀ p, w'.point? op = some p → p.legs ≤ 1) : w'.Settled := fun a p ha => by
  by_cases he : a = op
  · exact hop p (he ▸ ha)
  rw [hb.points a he] at ha
  cases hlog : p.isLogin with
  | true => exact absurd (Option.some.inj ((ho.head a p ha hlog).symm.trans hh)) he
  | false => cases p <;> first | exact Nat.le_refl _ | exact Nat.zero_le _ | cases hlog

theorem Ebb.settled (h : Ebb w m w') (hs : w.Settled) : w'.Settled := by
  have hother : ∀ {op}, Beside w w' op → (∀ p, w'.point? op = some p → p.legs ≤ 1) → w'.Settled :=
    fun {op} hb hop a p ha => by
      by_cases he : a = op
      · exact hop p (he ▸ ha)
      · exact hs a p (hb.points a he ▸ ha)
  cases h with
  | aside hb _ _ hn _ _ | abandoned _ hb _ hn | refused _ hb _ _ _ _ hn _ _ =>
    exact hother hb fun p hp => by cases hn.symm.trans hp
  | looksUp _ _ _ hp _ _ => exact absurd (hs _ _ hp) (by simp [Point.legs])
  | discards _ _ _ _ hp _ _ hlegs _ => exact absurd (hs _ _ hp) (by omega)

/-- A login brings one credential. -/
theorem Ebb.settles (h : Ebb w m w') (ho : w.IsOrderly) {c : Credential}
    (hc : w.brings? m = some c) : w'.Settled := by
  cases h with
  | aside _ _ _ _ _ hn => cases hn.symm.trans hc
  | abandoned hm _ _ _ =>
    subst hm
    cases hc
  | refused _ hb hh _ _ _ hn _ _ =>
    exact settled_of_head ho hh hb fun p hp => by cases hn.symm.trans hp
  | looksUp _ _ _ _ _ hn => cases hn.symm.trans hc
  | discards _ _ hb _ hp hlog _ _ hp' =>
    refine settled_of_head ho (ho.head _ _ hp hlog) hb fun p hq => ?_
    cases hp'.symm.trans hq
    exact Nat.le_refl _

end World

end LeaseKeeper.Session
