import LeaseKeeper.Proofs.Session.Onward
import LeaseKeeper.Proofs.Session.Queue

/-!
# Who looks after the installed grant

A grant that wants renewal is looked after by its own renewal while that is under way, and
otherwise by a task that waits for its start (`Tended`); and no task waits for anything but
the installed grant (`Focused`). `Cared` is the invariant behind both: a renewal under way for
the installed grant is the only one, and has no task beside it.

One turn breaks it. A renewal that fails on the way is tried again without a look at what is
installed by then (`StaleRetry`): the task of the grant installed meanwhile is cancelled and
replaced by one for the old grant. Every other turn keeps `Cared` (`cared_turn`), so a run
looks after its grants just if it has no such turn (`tended_iff_no_stale_retry`).
-/

namespace LeaseKeeper.Session

namespace World

/-- A renewal of that grant is under way, by that operation. -/
def Renewing (w : World) (op : Nat) (g : Grant) : Prop :=
  ∃ since, w.point? op = some (.renewing g since)

/-- An installed grant that wants renewal is being renewed, or its task waits. -/
def Tended (w : World) : Prop :=
  ∀ g, w.current = some g → g.credential.wantsRenewal = true →
    (∃ op, w.Renewing op g) ∨ ∃ t ∈ w.schedule.live, t.job = w.duty g

/-- Every task that waits is aimed at the installed grant. -/
def Focused (w : World) : Prop := ∀ t ∈ w.schedule.live, w.current = some t.job.grant

/-- A failed renewal of a grant that is no longer installed is about to be tried again. -/
def StaleRetry (w : World) (m : Move) : Prop :=
  ∃ op g f, w.Renewing op g ∧ m = .answer op (.renewal (.error f)) ∧ w.destroyed = false ∧
    f.isTransient = true ∧
    isInTime (g.credential.remaining w.now) (w.renewalDelay g.credential).1 = true ∧
    w.isCurrent g = false

/-- An operation that renews a grant is given up. -/
def DropsRenewal (w : World) (m : Move) : Prop := ∃ op g, w.Renewing op g ∧ m = .abandon op

/-- What a session keeps up that looks after its grants. -/
structure Cared (w : World) : Prop where
  focused : w.Focused
  tended : w.Tended
  /-- A renewal of the installed grant has neither a task nor another one beside it. -/
  alone : ∀ op g, w.current = some g → w.Renewing op g →
    w.schedule.live = [] ∧ ∀ q, w.Renewing q g → q = op
  installed_lt : ∀ g, w.current = some g → g.serial < w.nextGrant
  renewing_lt : ∀ op g, w.Renewing op g → g.serial < w.nextGrant
  /-- The number of the installed grant belongs to no other grant under renewal. -/
  distinct : ∀ op g h, w.current = some g → w.Renewing op h → h.serial = g.serial → h = g

theorem isCurrent_iff {w : World} {g : Grant} :
    w.isCurrent g = true ↔ ∃ h, w.current = some h ∧ h.serial = g.serial := by
  simp [isCurrent, Option.any_eq_true]

theorem isCurrent_of_installed {w : World} {g : Grant} (h : w.current = some g) :
    w.isCurrent g = true :=
  isCurrent_iff.mpr ⟨g, h, rfl⟩

/-! ## What may become of the care for a grant -/

namespace Cared

variable {w w' : World}

/-- A grant under renewal that counts as installed is the installed one. -/
theorem installed (h : Cared w) {op : Nat} {g : Grant} (hr : w.Renewing op g)
    (hc : w.isCurrent g = true) : w.current = some g := by
  obtain ⟨i, hi, hs⟩ := isCurrent_iff.mp hc
  rw [hi, h.distinct op i g hi hr hs.symm]

/-- Without a grant no task waits. -/
theorem live_nil (h : Cared w) (hc : w.current = none) : w.schedule.live = [] :=
  List.eq_nil_iff_forall_not_mem.mpr fun t ht => by
    have := h.focused t ht
    rw [hc] at this
    cases this

/-- Nothing happens to the grant, its task and its renewal. -/
theorem keep (h : Cared w) (hc : w'.current = w.current) (hl : w'.schedule.live = w.schedule.live)
    (ht : w'.trigger = w.trigger) (hn : w.nextGrant ≤ w'.nextGrant)
    (hr : ∀ op g, w'.Renewing op g → w.Renewing op g)
    (hk : ∀ op g, w.current = some g → w.Renewing op g → w'.Renewing op g) : Cared w' where
  focused t htl := by rw [hc]; exact h.focused t (hl ▸ htl)
  tended g hg hw := by
    rw [hc] at hg
    rw [hl, duty_congr ht]
    exact (h.tended g hg hw).imp (fun ⟨op, ho⟩ => ⟨op, hk op g hg ho⟩) id
  alone op g hg ho := by
    rw [hc] at hg
    rw [hl]
    obtain ⟨hnil, hone⟩ := h.alone op g hg (hr op g ho)
    exact ⟨hnil, fun q hq => hone q (hr q g hq)⟩
  installed_lt g hg := Nat.lt_of_lt_of_le (h.installed_lt g (hc ▸ hg)) hn
  renewing_lt op g ho := Nat.lt_of_lt_of_le (h.renewing_lt op g (hr op g ho)) hn
  distinct op g i hg ho := h.distinct op g i (hc ▸ hg) (hr op i ho)

/-- Nothing happens but that an operation ends, or goes somewhere else, that did not renew the
installed grant. -/
theorem leave (h : Cared w) (op : Nat) (hop : ∀ g, w.current = some g → ¬ w.Renewing op g)
    (hc : w'.current = w.current) (hl : w'.schedule.live = w.schedule.live)
    (ht : w'.trigger = w.trigger) (hn : w.nextGrant ≤ w'.nextGrant)
    (hr : ∀ q g, w'.Renewing q g ↔ q ≠ op ∧ w.Renewing q g) : Cared w' :=
  h.keep hc hl ht hn (fun q g hq => ((hr q g).mp hq).2) fun q g hg hq =>
    (hr q g).mpr ⟨fun e => hop g hg (e ▸ hq), hq⟩

/-- The grant is taken away, and its task with it. -/
theorem drop (h : Cared w) (hc : w'.current = none) (hl : w'.schedule.live = [])
    (hn : w.nextGrant ≤ w'.nextGrant) (hr : ∀ op g, w'.Renewing op g → w.Renewing op g) :
    Cared w' where
  focused t ht := by rw [hl] at ht; cases ht
  tended g hg := by rw [hc] at hg; cases hg
  alone op g hg := by rw [hc] at hg; cases hg
  installed_lt g hg := by rw [hc] at hg; cases hg
  renewing_lt op g ho := Nat.lt_of_lt_of_le (h.renewing_lt op g (hr op g ho)) hn
  distinct op g i hg := by rw [hc] at hg; cases hg

/-- The task of the grant is started, and its renewal begins. -/
theorem fire (h : Cared w) {g : Grant} (hg : w.current = some g) (hne : w.schedule.live ≠ [])
    (op : Nat) (hc : w'.current = w.current) (hl : w'.schedule.live = [])
    (hn : w.nextGrant ≤ w'.nextGrant)
    (hr : ∀ q i, w'.Renewing q i ↔ (q = op ∧ i = g) ∨ (q ≠ op ∧ w.Renewing q i)) : Cared w' where
  focused t ht := by rw [hl] at ht; cases ht
  tended i hi _ := by
    rw [hc, hg, Option.some.injEq] at hi
    exact .inl ⟨op, (hr op i).mpr (.inl ⟨rfl, hi.symm⟩)⟩
  alone q i hi hq := by
    rw [hc, hg, Option.some.injEq] at hi
    subst hi
    have hone : ∀ p, w'.Renewing p g → p = op := fun p hp => by
      rcases (hr p g).mp hp with ⟨rfl, -⟩ | ⟨-, hp⟩
      · rfl
      · exact absurd (h.alone p g hg hp).1 hne
    exact ⟨hl, fun p hp => (hone p hp).trans (hone q hq).symm⟩
  installed_lt i hi := Nat.lt_of_lt_of_le (h.installed_lt i (hc ▸ hi)) hn
  renewing_lt q i hq := by
    rcases (hr q i).mp hq with ⟨-, rfl⟩ | ⟨-, hq⟩
    · exact Nat.lt_of_lt_of_le (h.installed_lt i hg) hn
    · exact Nat.lt_of_lt_of_le (h.renewing_lt q i hq) hn
  distinct q i j hi hq hs := by
    rw [hc, hg, Option.some.injEq] at hi
    subst hi
    rcases (hr q j).mp hq with ⟨-, rfl⟩ | ⟨-, hq⟩
    · rfl
    · exact h.distinct q g j hg hq hs

/-- The renewal of the grant ends, and a task takes its place. -/
theorem retry (h : Cared w) {g : Grant} (hg : w.current = some g) {t : Task Job}
    (hc : w'.current = w.current) (hl : w'.schedule.live = [t]) (ht : t.job = w'.duty g)
    (hn : w.nextGrant ≤ w'.nextGrant) (hr : ∀ op i, w'.Renewing op i → w.Renewing op i)
    (hk : ∀ op, ¬ w'.Renewing op g) : Cared w' where
  focused u hu := by
    rw [hl, List.mem_singleton] at hu
    rw [hu, ht, duty_grant, hc, hg]
  tended i hi _ := by
    rw [hc, hg, Option.some.injEq] at hi
    rw [hl, ← hi]
    exact .inr ⟨t, List.mem_singleton_self t, ht⟩
  alone op i hi ho := by
    rw [hc, hg, Option.some.injEq] at hi
    exact absurd (hi ▸ ho) (hk op)
  installed_lt i hi := Nat.lt_of_lt_of_le (h.installed_lt i (hc ▸ hi)) hn
  renewing_lt op i ho := Nat.lt_of_lt_of_le (h.renewing_lt op i (hr op i ho)) hn
  distinct op i j hi ho := h.distinct op i j (hc ▸ hi) (hr op j ho)

/-- A new grant is installed, with a task if it wants renewal. -/
theorem install (h : Cared w) {c : Credential} (hc : w'.current = some ⟨w.nextGrant, c⟩)
    (hl : c.wantsRenewal = true ∧
        (∃ t, w'.schedule.live = [t] ∧ t.job = w'.duty ⟨w.nextGrant, c⟩) ∨
      c.wantsRenewal = false ∧ w'.schedule.live = [])
    (hn : w.nextGrant < w'.nextGrant) (hr : ∀ op g, w'.Renewing op g → w.Renewing op g) :
    Cared w' where
  focused u hu := by
    rcases hl with ⟨-, t, hl, ht⟩ | ⟨-, hl⟩ <;> rw [hl] at hu
    · rw [List.mem_singleton] at hu
      rw [hu, ht, duty_grant, hc]
    · cases hu
  tended g hg hw := by
    rw [hc, Option.some.injEq] at hg
    subst hg
    rcases hl with ⟨-, t, hl, ht⟩ | ⟨hf, -⟩
    · rw [hl]
      exact .inr ⟨t, List.mem_singleton_self t, ht⟩
    · exact absurd (hw.symm.trans hf) (by decide)
  -- The number of the new grant is higher than that of any grant under renewal.
  alone op g hg ho := by
    rw [hc, Option.some.injEq] at hg
    subst hg
    exact absurd (h.renewing_lt op _ (hr op _ ho)) (Nat.lt_irrefl _)
  installed_lt g hg := by
    rw [hc, Option.some.injEq] at hg
    exact hg ▸ hn
  renewing_lt op g ho := Nat.lt_trans (h.renewing_lt op g (hr op g ho)) hn
  distinct op g i hg ho hs := by
    rw [hc, Option.some.injEq] at hg
    subst hg
    have hi := h.renewing_lt op i (hr op i ho)
    simp only at hs
    omega

end Cared

/-! ## Every other turn keeps it -/

/-- An operation that stands at no renewal, or has ended, renews nothing. -/
theorem renewing_iff {w w' : World} {op : Nat} {p : Option Point}
    (h : ∀ q, w'.point? q = if q = op then p else w.point? q)
    (hp : ∀ g since, p ≠ some (.renewing g since)) (q : Nat) (g : Grant) :
    w'.Renewing q g ↔ q ≠ op ∧ w.Renewing q g := by
  unfold Renewing
  rw [h]
  by_cases hq : q = op
  · simp [hq, hp]
  · simp [hq]

theorem renewing_of_operations {w w' : World} {q : Nat} {g : Grant} (h : w'.operations = w.operations)
    (hq : w'.Renewing q g) : w.Renewing q g := by
  obtain ⟨since, hs⟩ := hq
  exact ⟨since, by rwa [point?, h] at hs⟩

/-- Nothing happens to any operation, nor to the grant and its task. -/
theorem Cared.same {w w' : World} (h : Cared w) (hp : w'.operations = w.operations)
    (hc : w'.current = w.current) (hl : w'.schedule.live = w.schedule.live)
    (ht : w'.trigger = w.trigger) (hn : w.nextGrant ≤ w'.nextGrant) : Cared w' :=
  h.keep hc hl ht hn (fun _ _ => renewing_of_operations hp) fun _ _ _ => renewing_of_operations hp.symm

theorem renewing_finish {w : World} {op : Nat} {o : Outcome} (q : Nat) (g : Grant) :
    (w.finish op o).Renewing q g ↔ q ≠ op ∧ w.Renewing q g :=
  renewing_iff (point?_finish w op o) (fun _ _ => by simp) q g

theorem renewing_call {w : World} {op : Nat} {c : Call} {p : Point}
    (hp : ∀ g since, p ≠ .renewing g since) (q : Nat) (g : Grant) :
    (w.call op c p).Renewing q g ↔ q ≠ op ∧ w.Renewing q g :=
  renewing_iff (fun q => point?_call w op q c p) (fun g s => by simpa using hp g s) q g

theorem renewing_inj {w : World} {op : Nat} {g h : Grant} (hg : w.Renewing op g)
    (hh : w.Renewing op h) : g = h := by
  obtain ⟨s, hs⟩ := hg
  obtain ⟨t, ht⟩ := hh
  exact (Point.renewing.inj (Option.some.inj (hs.symm.trans ht))).1

theorem schedule_reap {w : World} (h : w.reap.isAlive = true) : w.reap.schedule = w.schedule := by
  unfold reap at h ⊢
  split
  · rfl
  · rename_i hn
    rw [if_neg hn] at h
    exact absurd h hn

theorem schedule_finish {w : World} {op : Nat} {o : Outcome} (h : (w.finish op o).isAlive = true) :
    (w.finish op o).schedule = w.schedule :=
  schedule_reap h

section parts

variable {w u w' : World} {op : Nat} {t : FixedTrigger}

/-- An operation ends that did not renew the installed grant. -/
theorem Cared.finish (h : Cared w) (hop : ∀ g, w.current = some g → ¬ w.Renewing op g) {o : Outcome}
    (ha : (w.finish op o).isAlive = true) : Cared (w.finish op o) :=
  h.leave op hop (current_finish ..) (congrArg _ (schedule_finish ha)) (trigger_finish ..)
    (Nat.le_of_eq (nextGrant_finish ..).symm) renewing_finish

theorem Cared.endLogin (h : Cared w) (hop : ∀ g, w.current = some g → ¬ w.Renewing op g)
    {purpose : Purpose} {r : Except Fault Grant} (ha : (w.endLogin op purpose r).isAlive = true) :
    Cared (w.endLogin op purpose r) := by
  have hm : Cared ({ w with lastFault := faultOf r, loginsDone := w.loginsDone + 1 }.unlock op) :=
    h.same rfl rfl rfl rfl (Nat.le_refl _)
  rw [endLogin_eq] at ha ⊢
  exact hm.finish hop ha

theorem Cared.tellRevocation (h : Cared w) (g : Grant) (r : Except Fault Unit) :
    Cared (w.tellRevocation g r) := by
  cases r <;> exact h.same rfl rfl rfl rfl (Nat.le_refl _)

/-- A grant is taken away with its task, and an operation ends. -/
theorem Cared.drop_finish (h : Cared w) (hc : u.current = none) (hl : u.schedule.live = [])
    (hn : w.nextGrant ≤ u.nextGrant) (hp : u.operations = w.operations) {o : Outcome}
    (ha : (u.finish op o).isAlive = true) : Cared (u.finish op o) := by
  refine h.drop ((current_finish ..).trans hc) ?_ ?_ fun q g hq => ?_
  · rw [schedule_finish ha, hl]
  · rw [nextGrant_finish]; exact hn
  · exact renewing_of_operations hp ((renewing_finish q g).mp hq).2

/-- An expired grant is dropped, and a login begins. -/
theorem Cared.login (h : Cared w) (hb : Booked w.schedule w.slot) (hu : w.usable? = none)
    (purpose : Purpose) (since : Instant) :
    Cared (w.dropExpired.call op .login (.loggingIn purpose since)) := by
  have hc : w.dropExpired.current = none := current_dropExpired hu
  have hl : w.dropExpired.schedule.live = [] := by
    obtain he | ⟨g, -, -, he⟩ := w.dropExpired_eq
    · rw [he] at hc ⊢
      exact h.live_nil hc
    · rw [he]
      exact (booked_cancelTask (w := w.install none) hb).2
  refine h.drop hc hl ?_ fun q g hq => ?_
  · exact Nat.le_of_eq (nextGrant_dropExpired w).symm
  · exact renewing_of_operations (operations_dropExpired w) ((renewing_call (by simp) q g).mp hq).2

theorem cared_acquires {purpose : Purpose} (h : Cared u) (hb : Booked u.schedule u.slot)
    (hop : ∀ g, u.current = some g → ¬ u.Renewing op g) (ha : w'.isAlive = true)
    (hd : w'.destroyed = false) (hk : Acquires u op purpose w') : Cared w' := by
  cases hk with
  | shut h => rw [destroyed_finish, h] at hd; cases hd
  | found _ _ => exact h.finish hop ha
  | starts _ hu _ =>
    have hq : Cared { u with lock := [op] } := h.same rfl rfl rfl rfl (Nat.le_refl _)
    exact hq.login hb hu _ _
  | waits _ _ _ =>
    refine h.leave op hop rfl rfl rfl (Nat.le_refl _)
      (renewing_iff (p := some (.queued u.loginsDone purpose))
      (fun q => ?_) fun g s => by simp)
    exact point?_setPoint { u with lock := u.lock ++ [op] } op q _

theorem cared_enters {observed : Nat} {purpose : Purpose} (h : Cared w)
    (hb : Booked w.schedule w.slot) (hp : w.point? op = some (.queued observed purpose))
    (ha : w'.isAlive = true) (hd : w'.destroyed = false) (he : Enters w op observed purpose w') :
    Cared w' := by
  have hop : ∀ g, w.current = some g → ¬ w.Renewing op g := by
    rintro g - ⟨s, hs⟩
    cases hp.symm.trans hs
  have hq : Cared (w.unlock op) := h.same rfl rfl rfl rfl (Nat.le_refl _)
  cases he with
  | shut h => rw [destroyed_finish] at hd; cases h.symm.trans hd
  | found | shared => exact hq.finish hop ha
  | starts _ hu _ => exact h.login hb hu _ _

/-- A grant that has just arrived is installed. -/
theorem Cared.installs (h : Cared w) (ht : w.trigger = .fixed t) (hr : w.schedule.stopped = false)
    (hd : w.destroyed = false) (hb : Booked w.schedule w.slot) (hl : w.schedule.live = [])
    (c : Credential) (e : Grant → SessionEvent) : Cared (w.installs c e) := by
  let u := (w.minted.install (some ⟨w.nextGrant, c⟩)).publish (e ⟨w.nextGrant, c⟩)
  have hk := live_scheduleRenewal (w := u) ht hd hr hb ⟨w.nextGrant, c⟩
  have hduty := duty_congr (w := u) (trigger_scheduleRenewal (w := u) ht ⟨w.nextGrant, c⟩)
  refine h.install (current_installs ..) ?_ ?_ fun q g hq => ?_
  · rcases hk with ⟨hw, task, htask, hj⟩ | ⟨hw, he⟩
    · exact .inl ⟨hw, task, htask, hj.trans (hduty _).symm⟩
    · refine .inr ⟨hw, ?_⟩
      show (u.scheduleRenewal ⟨w.nextGrant, c⟩).schedule.live = []
      rw [he]
      exact hl
  · rw [nextGrant_installs]
    exact Nat.lt_succ_self _
  · exact renewing_of_operations (operations_installs w c e) hq

theorem cared_welcomes {purpose : Purpose} {c : Credential} {p : Point} (h : Cared w)
    (ht : w.trigger = .fixed t) (hr : w.schedule.stopped = false) (hb : Booked w.schedule w.slot)
    (ho : w.IsOrderly) (hp : w.point? op = some p) (hl : p.isLogin = true) (ha : w'.isAlive = true)
    (hd : w'.destroyed = false) (hw : Welcomes w op purpose c w') : Cared w' := by
  cases hw with
  | late h _ => cases h.symm.trans hd
  | dropped h _ => rw [endLogin_eq, destroyed_finish] at hd; cases h.symm.trans hd
  | installed hw =>
    have hi := h.installs ht hr hw hb (h.live_nil (ho.bare op p hp hl)) c .created
    refine hi.endLogin (fun g _ hq => ?_) ha
    obtain ⟨s, hs⟩ := renewing_of_operations (operations_installs w c .created) hq
    cases hp.symm.trans hs
    cases hl

theorem cared_takes (h : Cared u) (hb : Booked u.schedule u.slot) (ha : w'.isAlive = true)
    (hk : Takes u op w') : Cared w' := by
  have hl := (booked_cancelTask hb).2
  cases hk with
  | quiet _ => exact h.drop_finish (u := u.cancelTask.install none) rfl hl (Nat.le_refl _) rfl ha
  | sends _ _ =>
    exact h.drop rfl hl (Nat.le_refl _) fun q g hq => ((renewing_call (by simp) q g).mp hq).2

theorem cared_loses {g : Grant} (h : Cared u) (hb : Booked u.schedule u.slot)
    (hg : u.Renewing op g) (ha : w'.isAlive = true) (hd : w'.destroyed = false)
    (hk : Loses u op g w') : Cared w' := by
  have hl := (booked_cancelTask (w := u.install none) hb).2
  cases hk with
  | superseded hc =>
    refine h.finish (fun i hi hr => ?_) ha
    rw [renewing_inj hr hg] at hi
    exact absurd (isCurrent_of_installed hi) (by simp [hc])
  | again _ _ hk =>
    have hn : Cared (u.install none).cancelTask :=
      h.drop rfl hl (Nat.le_refl _) fun _ _ => id
    exact cared_acquires hn (booked_cancelTask (w := u.install none) hb).1
      (fun i hi => by cases hi) ha hd hk
  | ended _ _ =>
    exact h.drop_finish (u := ((u.install none).cancelTask).publish (.loginTokenExpired g)) rfl hl
      (Nat.le_refl _) rfl ha

/-- A retry that comes in time is one of a grant that wants renewal. -/
theorem wantsRenewal_of_isInTime {c : Credential} {left : Span}
    (h : isInTime left (w.renewalDelay c).1 = true) : c.wantsRenewal = true := by
  by_contra hw
  rw [fst_renewalDelay, if_pos (by simp [hw])] at h
  cases h

/-- When a renewal is tried again, the task of its grant is the only one that waits. -/
theorem live_retries {g : Grant} {f : Fault} (ht : w.trigger = .fixed t)
    (hr : w.schedule.stopped = false) (hb : Booked w.schedule w.slot) (hd : w.destroyed = false)
    (hi : isInTime (g.credential.remaining w.now) (w.renewalDelay g.credential).1 = true) :
    (w.retries g f).trigger = w.trigger ∧
      ∃ task, (w.retries g f).schedule.live = [task] ∧ task.job = w.duty g := by
  have hu := (Onward.told w g f).renewalDelay g.credential
  obtain ⟨t', n, he⟩ := (w.told g f).snd_renewalDelay g.credential
  unfold retries
  rw [he] at hu ⊢
  have ht' : t' = .fixed t := hu.trigger t ht
  refine ⟨(trigger_scheduleRenewal ht' g).trans (ht'.trans ht.symm), ?_⟩
  rcases live_scheduleRenewal (w := { w.told g f with trigger := t', drawn := n }) ht' hd hr hb g
    with ⟨-, task, hl, hj⟩ | ⟨hw, -⟩
  · exact ⟨task, hl, hj.trans (duty_congr (ht'.trans ht.symm) g)⟩
  · cases (wantsRenewal_of_isInTime hi).symm.trans hw

/-- A renewal of the installed grant failed for now: it ends, and its retry is scheduled. -/
theorem Cared.retries {g : Grant} {f : Fault} (h : Cared w) (ht : w.trigger = .fixed t)
    (hr : w.schedule.stopped = false) (hb : Booked w.schedule w.slot) (hg : w.Renewing op g)
    (hd : w.destroyed = false) (hcur : w.current = some g)
    (hi : isInTime (g.credential.remaining w.now) (w.renewalDelay g.credential).1 = true)
    (ha : ((w.retries g f).finish op .finished).isAlive = true) :
    Cared ((w.retries g f).finish op .finished) := by
  obtain ⟨htr, task, hl, hj⟩ := live_retries (f := f) ht hr hb hd hi
  have hren : ∀ q i, ((w.retries g f).finish op .finished).Renewing q i → q ≠ op ∧ w.Renewing q i :=
    fun q i hq => by
      obtain ⟨hne, hq⟩ := (renewing_finish q i).mp hq
      exact ⟨hne, renewing_of_operations (operations_retries w g f) hq⟩
  refine h.retry hcur ?_ ((congrArg _ (schedule_finish ha)).trans hl)
    (hj.trans (duty_congr ?_ g).symm) ?_ (fun q i hq => (hren q i hq).2) fun q hq => ?_
  · rw [current_finish, current_retries]
  · rw [trigger_finish, htr]
  · exact Nat.le_of_eq ((nextGrant_finish ..).trans (nextGrant_retries ..)).symm
  · obtain ⟨hne, hq⟩ := hren q g hq
    exact hne ((h.alone op g hcur hg).2 q hq)

theorem cared_renews {g : Grant} {r : Except Fault Credential} (h : Cared w)
    (ht : w.trigger = .fixed t) (hr : w.schedule.stopped = false) (hb : Booked w.schedule w.slot)
    (hg : w.Renewing op g)
    (hs : ∀ f, r = .error f → f.isTransient = true →
      isInTime (g.credential.remaining w.now) (w.renewalDelay g.credential).1 = true →
      w.isCurrent g = true)
    (ha : w'.isAlive = true) (hd : w'.destroyed = false) (hk : Renews w op g r w') : Cared w' := by
  have hgranted : Cared w.granted := h.same rfl rfl rfl rfl (Nat.le_refl _)
  have htold : ∀ f, Cared (w.told g f) := fun f => h.same rfl rfl rfl rfl (Nat.le_refl _)
  cases hk with
  | discarded h => rw [destroyed_finish] at hd; cases h.symm.trans hd
  | superseded _ hc =>
    have hm : Cared w.granted.minted := h.same rfl rfl rfl rfl (Nat.le_succ _)
    refine hm.finish (fun i hi hq => ?_) ha
    rw [renewing_inj hq hg] at hi
    exact absurd (isCurrent_of_installed (w := w) hi) (by simp [hc])
  | @brief c _ _ _ =>
    have hl := (booked_cancelTask (w := w.granted.minted.install none) hb).2
    exact h.drop_finish (u := ((w.granted.minted.install none).cancelTask).publish
      (.loginTokenExpired ⟨w.nextGrant, c⟩)) rfl hl (Nat.le_succ _) rfl ha
  | @renewed c hd' hc _ =>
    have hcur : w.current = some g := h.installed hg hc
    have hi := hgranted.installs ht hr hd' hb (h.alone op g hcur hg).1 c .renewed
    refine hi.finish (fun i hi hq => ?_) ha
    -- The new grant has a number of its own.
    have hw : w.Renewing op i := renewing_of_operations (operations_installs w.granted c .renewed) hq
    rw [current_installs, Option.some.injEq] at hi
    rw [renewing_inj hw hg] at hi
    exact absurd (h.renewing_lt op g hg) (by rw [← hi]; exact Nat.lt_irrefl _)
  | retried hd' hf hi => exact h.retries ht hr hb hg hd' (h.installed hg (hs _ rfl hf hi)) hi ha
  | @tooLate f _ _ _ _ hl =>
    have hu := (Onward.told w g f).renewalDelay g.credential
    obtain ⟨t', n, he⟩ := (w.told g f).snd_renewalDelay g.credential
    rw [he] at hu hl
    have hk : Cared { w.told g f with trigger := t', drawn := n } :=
      h.same rfl rfl rfl ((hu.trigger t ht).trans ht.symm) (Nat.le_refl _)
    exact cared_loses hk hb hg ha hd hl
  | failed _ _ hl => exact cared_loses (htold _) hb hg ha hd hl

/-- The task of the installed grant starts its renewal. -/
theorem Cared.begins_renewal {m : Move} {task : Task Job} {s : Schedule Job} {g : Grant} (h : Cared w)
    (hb : Booked w.schedule w.slot) (hf : w.Fires m task s) (hj : task.job = .renew g) :
    Cared (({ w with schedule := s } : World).enrolled.call w.nextOperation (.renew g)
      (.renewing g w.now)) := by
  have hs := hf.starts hb.numbered
  have hc : w.current = some g := by rw [h.focused task hs.mem, hj]; rfl
  refine h.fire hc (List.ne_nil_of_mem hs.mem) w.nextOperation rfl (hb.starts hs).2
    (Nat.le_refl _) fun q i => ?_
  have hp := point?_call (({ w with schedule := s } : World).enrolled) w.nextOperation q (.renew g)
    (.renewing g w.now)
  unfold Renewing
  rw [hp]
  by_cases hq : q = w.nextOperation
  · simp [hq, eq_comm]
  · simp [hq, point?]

/-- An operation is given up that did not renew the installed grant. -/
theorem Cared.abandon (h : Cared w) (op : Nat) (hop : ∀ g, w.current = some g → ¬ w.Renewing op g)
    (ha : ({ w.unlock op with operations := w.operations.filter (·.1 != op) } : World).reap.isAlive =
      true) :
    Cared ({ w.unlock op with operations := w.operations.filter (·.1 != op) } : World).reap := by
  refine h.leave op hop (current_reap _) (congrArg _ (schedule_reap ha)) (trigger_reap _)
    (by simp [unlock]) (renewing_iff (p := none) (fun q => ?_) fun _ _ => by simp)
  rw [point?, operations_reap, lookup_filter]
  rfl

end parts

/-- Every turn keeps up the care for the installed grant, unless it is a stale retry or gives
up a renewal. -/
theorem cared_turn {w w' : World} {m : Move} {t : FixedTrigger} (h : Cared w) (ho : w.IsOrderly)
    (hb : Booked w.schedule w.slot) (ht : w.trigger = .fixed t) (hns : ¬ w.StaleRetry m)
    (hnd : ¬ w.DropsRenewal m) (ha : w'.isAlive = true) (hd : w'.destroyed = false)
    (hr : w'.schedule.stopped = false) (hk : Turn w m w') : Cared w' := by
  have hdw : w.destroyed = false := by
    by_contra hn
    rw [(Onward.of_turn hk).destroyed (by simpa using hn)] at hd
    cases hd
  have hrw : w.schedule.stopped = false := by
    by_contra hn
    rw [(Onward.of_turn hk).stopped (by simpa using hn)] at hr
    cases hr
  have henr : Cared w.enrolled := h.same rfl rfl rfl rfl (Nat.le_refl _)
  have hnew : ∀ g, w.current = some g → ¬ w.Renewing w.nextOperation g := by
    rintro g - ⟨s, hs⟩
    cases ho.lookup_next.symm.trans hs
  -- An operation at another point renews nothing.
  have hno : ∀ {op p}, w.point? op = some p → (∀ g s, p ≠ .renewing g s) →
      ∀ g, w.current = some g → ¬ w.Renewing op g := by
    rintro op p hp hne g - ⟨s, hs⟩
    exact hne g s (Option.some.inj (hp.symm.trans hs))
  cases hk with
  | token _ hk => exact cared_acquires henr hb hnew ha hd hk
  | revoke _ hk => exact cared_takes henr hb ha hk
  | destroyAgain _ h => cases h.symm.trans hdw
  | destroy _ _ hk =>
    have hw := Onward.of_takes (w := { w.enrolled with destroyed := true }) (.same rfl rfl rfl rfl) hk
    cases (hw.destroyed rfl).symm.trans hd
  | orphan _ hn => cases hn.symm.trans ha
  | @stale _ task _ hf _ hn =>
    have hc := isCurrent_of_installed (h.focused task (hf.starts hb.numbered).mem)
    rw [hdw, hc] at hn
    cases hn
  | renew hf _ hj _ _ => exact h.begins_renewal hb hf hj
  | @expire _ task s g hf _ hj _ _ =>
    have hs := hf.starts hb.numbered
    exact h.drop_finish (u := ((({ w with schedule := s } : World).enrolled).install none).publish
      (.loginTokenExpired g)) rfl (hb.starts hs).2 (Nat.le_refl _) rfl ha
  | enter _ hp hk => exact cared_enters h hb hp ha hd hk
  | @loginFailed op purpose since f hp =>
    have hm : Cared ((w.timed false since).publish (.failed f none)) :=
      h.same rfl rfl rfl rfl (Nat.le_refl _)
    exact hm.endLogin (hno hp (by simp)) ha
  | @looksUp op _ since _ hp _ =>
    exact h.leave _ (hno hp (by simp)) rfl rfl rfl (Nat.le_refl _)
      (renewing_call (w := w.timed true since) (by simp))
  | @welcome _ purpose since _ _ hp _ hk =>
    have hm : Cared (w.timed true since) := h.same rfl rfl rfl rfl (Nat.le_refl _)
    exact cared_welcomes hm ht hrw hb ho (p := .loggingIn purpose since) hp rfl ha hd hk
  | lookedUp hp hk | notLookedUp hp hk => exact cared_welcomes h ht hrw hb ho hp rfl ha hd hk
  | @discarded _ _ g r hp =>
    refine (h.tellRevocation g r).endLogin ?_ ha
    cases r <;> exact hno hp (by simp)
  | @renewed op g since r _ hp hk =>
    refine cared_renews h ht hrw hb ⟨since, hp⟩ (fun f hf htr hi => ?_) ha hd hk
    by_contra hc
    exact hns ⟨op, g, f, ⟨since, hp⟩, by rw [hf], hdw, htr, hi, by simpa using hc⟩
  | @revoked _ g r hp =>
    refine (h.tellRevocation g r).finish ?_ ha
    cases r <;> exact hno hp (by simp)
  | abandon _ => exact h.abandon _ (fun g _ hg => hnd ⟨_, g, hg, rfl⟩) ha
  | release =>
    have hl := schedule_reap (w := { w with held := false }) ha
    exact h.same (operations_reap _) (current_reap _) (congrArg _ hl) (trigger_reap _) (by simp [release])
  | stop =>
    have hs : w.schedule.stop = w.schedule := by
      rcases w.schedule.stop_cases with hs | hs
      · exact hs
      · cases (congrArg Schedule.stopped hs).symm.trans hr
    exact h.same rfl rfl (congrArg _ hs) rfl (Nat.le_refl _)
  | elapse | listen | unlisten => exact h.same rfl rfl rfl rfl (Nat.le_refl _)

end World

open World

/-! ## Whole runs -/

section run

variable {t : FixedTrigger} {selfLookup canLogInAgain : Bool} {d : Discipline} {draws : Nat → Nat}
  {ms : List Move} {w : World}

/-- Wherever a run passes, the queue is in order, the slot holds the only task, and the trigger is
the one of the beginning. -/
theorem Visits.settled {v : World}
    (h : Visits (World.initial ⟨.fixed t, selfLookup, canLogInAgain⟩ d draws) ms v) :
    v.IsOrderly ∧ Booked v.schedule v.slot ∧ v.trigger = .fixed t := by
  refine h.keeps (P := fun v => v.IsOrderly ∧ Booked v.schedule v.slot ∧ v.trigger = .fixed t)
    ⟨orderly_initial .., booked_empty d, rfl⟩ fun u m u' hs hu => ?_
  obtain ⟨-, -, -, hs⟩ := hs
  have hk := turn_of_step hs
  exact ⟨orderly_turn hu.1 hk, (Onward.of_turn hk).booked hu.2.1, (Onward.of_turn hk).trigger t hu.2.2⟩

/-- What comes later in a run than a session it passes through. -/
theorem Visits.onward {start v : World} (h : Visits start ms v) (hw : run? start ms = some w) :
    Onward v w := by
  obtain ⟨ns, ⟨os, rfl⟩, hv⟩ := h
  rw [run?_append, hv, Option.bind_some] at hw
  exact run?_keeps (P := Onward v) (fun hu hk => hu.trans (.of_turn hk)) (.same rfl rfl rfl rfl) hw

theorem cared_initial (settings : Settings) : Cared (World.initial settings d draws) :=
  ⟨by simp [Focused, World.initial], by simp [Tended, World.initial], by simp [World.initial],
    by simp [World.initial], by simp [Renewing, point?, World.initial], by simp [World.initial]⟩

/-- What a stale retry does. -/
theorem World.StaleRetry.retries {v v' : World} {m : Move} (h : v.StaleRetry m) (hs : step v m = some v') :
    ∃ op g f, v' = (v.retries g f).finish op .finished ∧ v.destroyed = false ∧
      isInTime (g.credential.remaining v.now) (v.renewalDelay g.credential).1 = true ∧
      v.isCurrent g = false := by
  obtain ⟨op, g, f, ⟨since, hp⟩, rfl, hd, htr, hi, hc⟩ := h
  refine ⟨op, g, f, ?_, hd, hi, hc⟩
  cases turn_of_step hs with
  | orphan hf _ | stale hf _ _ | renew hf _ _ _ _ | expire hf _ _ _ _ => cases hf
  | renewed hp' hk =>
    cases hp.symm.trans hp'
    cases hk with
    | discarded h => cases h.symm.trans hd
    | retried _ _ _ => rfl
    | tooLate _ _ h _ => cases h.symm.trans hi
    | failed _ h _ => cases h.symm.trans htr

/-- After a stale retry the task of the old grant waits. -/
theorem World.StaleRetry.not_focused {v v' : World} {m : Move} (h : v.StaleRetry m)
    (hs : step v m = some v') (ht : v.trigger = .fixed t) (hr : v.schedule.stopped = false)
    (hb : Booked v.schedule v.slot) (ha : v'.isAlive = true) : v'.destroyed = false ∧ ¬ v'.Focused := by
  obtain ⟨op, g, f, rfl, hd, hi, hc⟩ := h.retries hs
  obtain ⟨-, task, hl, hj⟩ := live_retries (f := f) ht hr hb hd hi
  refine ⟨by simpa using hd, fun hfocus => ?_⟩
  have hg := hfocus task (by rw [schedule_finish ha, hl]; exact List.mem_singleton_self task)
  rw [current_finish, current_retries, hj, duty_grant] at hg
  exact absurd (isCurrent_of_installed hg) (by simp [hc])

/-- As long as the scheduler is not stopped and no renewal is given up, a run looks after every
grant it installs, and lets no task wait for another, just if it has no stale retry. -/
theorem tended_iff_no_stale_retry
    (h : run? (World.initial ⟨.fixed t, selfLookup, canLogInAgain⟩ d draws) ms = some w)
    (hr : w.schedule.stopped = false)
    (hnd : ∀ v m v', Passes (World.initial ⟨.fixed t, selfLookup, canLogInAgain⟩ d draws) ms v m v' →
      ¬ v.DropsRenewal m) :
    (∀ v, Visits (World.initial ⟨.fixed t, selfLookup, canLogInAgain⟩ d draws) ms v →
        v.isAlive = true → v.destroyed = false → v.Tended ∧ v.Focused) ↔
      ∀ v m v', Passes (World.initial ⟨.fixed t, selfLookup, canLogInAgain⟩ d draws) ms v m v' →
        v'.isAlive = true → ¬ v.StaleRetry m := by
  have hrun : ∀ {v}, Visits (World.initial ⟨.fixed t, selfLookup, canLogInAgain⟩ d draws) ms v →
      v.schedule.stopped = false := fun {v} hv => by
    by_contra hn
    rw [(hv.onward h).stopped (by simpa using hn)] at hr
    cases hr
  refine ⟨fun hall v m v' hp ha hstale => ?_, fun hall v hv ha hd => ?_⟩
  · obtain ⟨hv, hv'⟩ := hp.visits
    obtain ⟨-, hb, ht⟩ := hv.settled
    obtain ⟨hd, hnf⟩ := hstale.not_focused hp.step ht (hrun hv) hb ha
    exact hnf (hall v' hv' ha hd).2
  · have hcared := hv.keeps (P := fun v => v.isAlive = true → v.destroyed = false → Cared v)
      (fun _ _ => cared_initial _) fun u m u' hp hu ha' hd' => by
        obtain ⟨hvu, hvu'⟩ := hp.visits
        obtain ⟨ho, hb, ht⟩ := hvu.settled
        have hk := turn_of_step hp.step
        have hdu : u.destroyed = false := by
          by_contra hn
          rw [(Onward.of_turn hk).destroyed (by simpa using hn)] at hd'
          cases hd'
        exact cared_turn (hu (alive_of_turn hk ha') hdu) ho hb ht (hall u m u' hp ha')
          (hnd u m u' hp) ha' hd' (hrun hvu') hk
    exact ⟨(hcared ha hd).tended, (hcared ha hd).focused⟩

end run

/-- A credential of a minute that can be renewed. -/
def minuteLogin : Credential := .ofLogin .start "s.login" (.ofSeconds 60) true

/-- A session that renews ten seconds before the end, under the manual discipline. -/
def early : World :=
  .initial ⟨.fixed ⟨.ofSeconds 10, minimalDelay, .ofSeconds 12, .zero⟩, false, true⟩ .manual fun _ => 0

/-- A renewal outlives its grant, which is given back and replaced, and then fails on the way. -/
def overtaken : List Move :=
  [.begin .token, .answer 0 (.login (.ok minuteLogin)), .fireNext, .begin .revoke, .begin .token,
    .answer 3 (.login (.ok minuteLogin)), .answer 1 (.renewal (.error (.transport "reset")))]

/-- The care is lost: the one task that waits is aimed at the first grant, and the second one is
left alone. -/
theorem stale_retry_leaves_alone :
    ∃ w, run? early overtaken = some w ∧ w.schedule.stopped = false ∧ w.isAlive = true ∧
      w.destroyed = false ∧ ¬ w.Tended ∧ ¬ w.Focused := by
  refine ⟨_, rfl, rfl, rfl, rfl, fun h => ?_, fun h => ?_⟩
  · rcases h ⟨1, minuteLogin⟩ rfl rfl with ⟨op, since, hp⟩ | ⟨task, ht, hj⟩
    · -- Only the revocation is still under way.
      have hm := lookup_mem hp
      change (op, Point.renewing ⟨1, minuteLogin⟩ since) ∈ [(2, Point.revoking ⟨0, minuteLogin⟩)] at hm
      simp at hm
    · change task ∈ [_] at ht
      rw [List.mem_singleton] at ht
      subst ht
      change Job.renew ⟨0, minuteLogin⟩ = Job.renew ⟨1, minuteLogin⟩ at hj
      simp at hj
  · have hf := h _ (List.mem_singleton_self _)
    change some (⟨1, minuteLogin⟩ : Grant) = some ⟨0, minuteLogin⟩ at hf
    simp at hf

/-- The theorem at that run, which has no step by which a renewal is given up. -/
theorem tended_iff_overtaken :
    ∃ w, run? early overtaken = some w ∧ w.schedule.stopped = false ∧
      ((∀ v, Visits early overtaken v → v.isAlive = true → v.destroyed = false → v.Tended ∧ v.Focused) ↔
        ∀ v m v', Passes early overtaken v m v' → v'.isAlive = true → ¬ v.StaleRetry m) := by
  refine ⟨_, rfl, rfl, tended_iff_no_stale_retry rfl rfl fun v m v' hp => ?_⟩
  rintro ⟨op, g, -, rfl⟩
  have hm := hp.mem
  simp [overtaken] at hm

end LeaseKeeper.Session
