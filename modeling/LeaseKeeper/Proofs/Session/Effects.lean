import LeaseKeeper.Proofs.Operations
import LeaseKeeper.Proofs.Schedule
import LeaseKeeper.Session.Step

/-!
# What the parts of a session's step change

Small lemmas about the parts that steps are made of. Ending an operation (`finish`) may
cancel the task of a session that nobody holds any more, and scheduling a renewal may use up
a draw; nothing else of the world depends on either. `Booked` says that the task in the slot
is the only one that can still start.
-/

namespace LeaseKeeper.Session

/-- What an operation that went after a credential ends with. -/
def Purpose.outcome : Purpose → Except Fault Grant → Outcome
  | .caller, .ok g => .granted g
  | .caller, .error f => .refused f
  | .relogin, _ => .finished

/-- The fault of a login, if it failed. -/
def faultOf : Except Fault Grant → Option Fault
  | .ok _ => none
  | .error f => some f

namespace World

/-- The next operation number is given out. -/
abbrev enrolled (w : World) : World := { w with nextOperation := w.nextOperation + 1 }

/-- The next serial number is given out. -/
abbrev minted (w : World) : World := { w with nextGrant := w.nextGrant + 1 }

theorem conclude_eq (w : World) (op : Nat) (purpose : Purpose) (result : Except Fault Grant) :
    w.conclude op purpose result = w.finish op (purpose.outcome result) := by
  cases purpose <;> cases result <;> rfl

theorem endLogin_eq (w : World) (op : Nat) (purpose : Purpose) (result : Except Fault Grant) :
    w.endLogin op purpose result =
      ({ w with lastFault := faultOf result, loginsDone := w.loginsDone + 1 }.unlock op).finish op
        (purpose.outcome result) := by
  cases result <;> simp only [endLogin, leave, conclude_eq, faultOf]

/-! ## Where operations stand -/

@[simp] theorem point?_setPoint (w : World) (op q : Nat) (p : Point) :
    (w.setPoint op p).point? q = if q = op then some p else w.point? q :=
  lookup_move ..

@[simp] theorem point?_call (w : World) (op q : Nat) (c : Call) (p : Point) :
    (w.call op c p).point? q = if q = op then some p else w.point? q :=
  point?_setPoint w op q p

/-! ## Ending an operation -/

section finish

variable (w : World) (op : Nat) (o : Outcome)

@[simp] theorem now_reap : w.reap.now = w.now := by unfold reap; split <;> rfl
@[simp] theorem trigger_reap : w.reap.trigger = w.trigger := by unfold reap; split <;> rfl
@[simp] theorem current_reap : w.reap.current = w.current := by unfold reap; split <;> rfl
@[simp] theorem lock_reap : w.reap.lock = w.lock := by unfold reap; split <;> rfl
@[simp] theorem lastFault_reap : w.reap.lastFault = w.lastFault := by unfold reap; split <;> rfl
@[simp] theorem loginsDone_reap : w.reap.loginsDone = w.loginsDone := by unfold reap; split <;> rfl
@[simp] theorem destroyed_reap : w.reap.destroyed = w.destroyed := by unfold reap; split <;> rfl
@[simp] theorem held_reap : w.reap.held = w.held := by unfold reap; split <;> rfl
@[simp] theorem operations_reap : w.reap.operations = w.operations := by unfold reap; split <;> rfl
@[simp] theorem nextOperation_reap : w.reap.nextOperation = w.nextOperation :=
  by unfold reap; split <;> rfl
@[simp] theorem nextGrant_reap : w.reap.nextGrant = w.nextGrant := by unfold reap; split <;> rfl
@[simp] theorem history_reap : w.reap.history = w.history := by unfold reap; split <;> rfl

@[simp] theorem trigger_finish : (w.finish op o).trigger = w.trigger := trigger_reap _
@[simp] theorem current_finish : (w.finish op o).current = w.current := current_reap _
@[simp] theorem lock_finish : (w.finish op o).lock = w.lock := lock_reap _
@[simp] theorem lastFault_finish : (w.finish op o).lastFault = w.lastFault := lastFault_reap _
@[simp] theorem loginsDone_finish : (w.finish op o).loginsDone = w.loginsDone := loginsDone_reap _
@[simp] theorem destroyed_finish : (w.finish op o).destroyed = w.destroyed := destroyed_reap _
@[simp] theorem nextOperation_finish : (w.finish op o).nextOperation = w.nextOperation :=
  nextOperation_reap _
@[simp] theorem nextGrant_finish : (w.finish op o).nextGrant = w.nextGrant := nextGrant_reap _

@[simp] theorem history_finish : (w.finish op o).history = .ended op o :: w.history :=
  history_reap _

@[simp] theorem operations_finish :
    (w.finish op o).operations = w.operations.filter (·.1 != op) :=
  operations_reap _

@[simp] theorem point?_finish (q : Nat) :
    (w.finish op o).point? q = if q = op then none else w.point? q := by
  simp only [point?, operations_finish, lookup_filter]

end finish

/-! ## Scheduling a renewal -/

theorem fst_renewalDelay (w : World) (c : Credential) :
    (w.renewalDelay c).1 = if (!c.wantsRenewal || w.isBelowThreshold c) = true then none
      else (w.trigger.next (w.draws w.drawn) (c.remaining w.now)).1 := by
  unfold renewalDelay
  split <;> rfl

/-- Asking the trigger changes nothing but the trigger and the draws. -/
theorem snd_renewalDelay (w : World) (c : Credential) :
    ∃ t n, (w.renewalDelay c).2 = { w with trigger := t, drawn := n } := by
  unfold renewalDelay
  split
  · exact ⟨_, _, rfl⟩
  · exact ⟨_, _, rfl⟩

/-- Scheduling changes nothing but the trigger, the draws and the tasks. -/
theorem scheduleRenewal_eq (w : World) (g : Grant) :
    ∃ t n s i, w.scheduleRenewal g = { w with trigger := t, drawn := n, schedule := s, slot := i } := by
  unfold scheduleRenewal
  split
  · exact ⟨_, _, _, _, rfl⟩
  split
  · exact ⟨_, _, _, _, rfl⟩
  obtain ⟨t, n, h⟩ := w.snd_renewalDelay g.credential
  split <;> (rename_i he; rw [he] at h; subst h; exact ⟨_, _, _, _, rfl⟩)

section scheduleRenewal

variable (w : World) (g : Grant)

@[simp] theorem now_scheduleRenewal : (w.scheduleRenewal g).now = w.now := by
  obtain ⟨_, _, _, _, h⟩ := w.scheduleRenewal_eq g; rw [h]

@[simp] theorem current_scheduleRenewal : (w.scheduleRenewal g).current = w.current := by
  obtain ⟨_, _, _, _, h⟩ := w.scheduleRenewal_eq g; rw [h]

@[simp] theorem lock_scheduleRenewal : (w.scheduleRenewal g).lock = w.lock := by
  obtain ⟨_, _, _, _, h⟩ := w.scheduleRenewal_eq g; rw [h]

@[simp] theorem lastFault_scheduleRenewal : (w.scheduleRenewal g).lastFault = w.lastFault := by
  obtain ⟨_, _, _, _, h⟩ := w.scheduleRenewal_eq g; rw [h]

@[simp] theorem loginsDone_scheduleRenewal : (w.scheduleRenewal g).loginsDone = w.loginsDone := by
  obtain ⟨_, _, _, _, h⟩ := w.scheduleRenewal_eq g; rw [h]

@[simp] theorem destroyed_scheduleRenewal : (w.scheduleRenewal g).destroyed = w.destroyed := by
  obtain ⟨_, _, _, _, h⟩ := w.scheduleRenewal_eq g; rw [h]

@[simp] theorem held_scheduleRenewal : (w.scheduleRenewal g).held = w.held := by
  obtain ⟨_, _, _, _, h⟩ := w.scheduleRenewal_eq g; rw [h]

@[simp] theorem operations_scheduleRenewal : (w.scheduleRenewal g).operations = w.operations := by
  obtain ⟨_, _, _, _, h⟩ := w.scheduleRenewal_eq g; rw [h]

@[simp] theorem nextOperation_scheduleRenewal : (w.scheduleRenewal g).nextOperation = w.nextOperation :=
  by
  obtain ⟨_, _, _, _, h⟩ := w.scheduleRenewal_eq g; rw [h]

@[simp] theorem nextGrant_scheduleRenewal : (w.scheduleRenewal g).nextGrant = w.nextGrant := by
  obtain ⟨_, _, _, _, h⟩ := w.scheduleRenewal_eq g; rw [h]

end scheduleRenewal

/-! ## Installing a grant -/

/-- The world in which a credential that has just arrived is installed and told of. -/
def installs (w : World) (c : Credential) (e : Grant → SessionEvent) : World :=
  ((w.minted.install (some ⟨w.nextGrant, c⟩)).publish (e ⟨w.nextGrant, c⟩)).scheduleRenewal
    ⟨w.nextGrant, c⟩

section installs

variable (w : World) (c : Credential) (e : Grant → SessionEvent)

@[simp] theorem now_installs : (w.installs c e).now = w.now := now_scheduleRenewal ..
@[simp] theorem current_installs : (w.installs c e).current = some ⟨w.nextGrant, c⟩ :=
  current_scheduleRenewal ..
@[simp] theorem lock_installs : (w.installs c e).lock = w.lock := lock_scheduleRenewal ..
@[simp] theorem lastFault_installs : (w.installs c e).lastFault = w.lastFault :=
  lastFault_scheduleRenewal ..
@[simp] theorem loginsDone_installs : (w.installs c e).loginsDone = w.loginsDone :=
  loginsDone_scheduleRenewal ..
@[simp] theorem destroyed_installs : (w.installs c e).destroyed = w.destroyed :=
  destroyed_scheduleRenewal ..
@[simp] theorem held_installs : (w.installs c e).held = w.held := held_scheduleRenewal ..
@[simp] theorem operations_installs : (w.installs c e).operations = w.operations :=
  operations_scheduleRenewal ..
@[simp] theorem nextOperation_installs : (w.installs c e).nextOperation = w.nextOperation :=
  nextOperation_scheduleRenewal ..
@[simp] theorem nextGrant_installs : (w.installs c e).nextGrant = w.nextGrant + 1 :=
  nextGrant_scheduleRenewal ..

@[simp] theorem point?_installs (q : Nat) : (w.installs c e).point? q = w.point? q := by
  simp only [point?, operations_installs]

end installs

/-- The world in which a failed renewal of `g` has been told. -/
abbrev told (w : World) (g : Grant) (f : Fault) : World :=
  { w with audience := w.audience.count (.renewal .session false) }.publish (.failed f (some g))

/-- The world in which a failed renewal of `g` has been told and is to be tried again. -/
def retries (w : World) (g : Grant) (f : Fault) : World :=
  ((w.told g f).renewalDelay g.credential).2.scheduleRenewal g

theorem retries_eq (w : World) (g : Grant) (f : Fault) :
    ∃ t n s i, w.retries g f =
      { w.told g f with trigger := t, drawn := n, schedule := s, slot := i } := by
  obtain ⟨_, _, hd⟩ := (w.told g f).snd_renewalDelay g.credential
  obtain ⟨_, _, _, _, hs⟩ := ((w.told g f).renewalDelay g.credential).2.scheduleRenewal_eq g
  exact ⟨_, _, _, _, by rw [retries, hs, hd]⟩

section retries

variable (w : World) (g : Grant) (f : Fault)

@[simp] theorem current_retries : (w.retries g f).current = w.current := by
  obtain ⟨_, _, _, _, h⟩ := w.retries_eq g f; rw [h]; rfl

@[simp] theorem lock_retries : (w.retries g f).lock = w.lock := by
  obtain ⟨_, _, _, _, h⟩ := w.retries_eq g f; rw [h]; rfl

@[simp] theorem lastFault_retries : (w.retries g f).lastFault = w.lastFault := by
  obtain ⟨_, _, _, _, h⟩ := w.retries_eq g f; rw [h]; rfl

@[simp] theorem loginsDone_retries : (w.retries g f).loginsDone = w.loginsDone := by
  obtain ⟨_, _, _, _, h⟩ := w.retries_eq g f; rw [h]; rfl

@[simp] theorem destroyed_retries : (w.retries g f).destroyed = w.destroyed := by
  obtain ⟨_, _, _, _, h⟩ := w.retries_eq g f; rw [h]; rfl

@[simp] theorem operations_retries : (w.retries g f).operations = w.operations := by
  obtain ⟨_, _, _, _, h⟩ := w.retries_eq g f; rw [h]; rfl

@[simp] theorem nextOperation_retries : (w.retries g f).nextOperation = w.nextOperation := by
  obtain ⟨_, _, _, _, h⟩ := w.retries_eq g f; rw [h]; rfl

@[simp] theorem nextGrant_retries : (w.retries g f).nextGrant = w.nextGrant := by
  obtain ⟨_, _, _, _, h⟩ := w.retries_eq g f; rw [h]; rfl

end retries

/-! ## Dropping an expired grant -/

theorem expired_of_usable? {w : World} (hu : w.usable? = none) {g : Grant} (hg : w.current = some g) :
    g.credential.isExpired w.now = true := by
  simpa [usable?, hg, Option.filter] using hu

theorem dropExpired_eq (w : World) :
    w.dropExpired = w ∨ ∃ g, w.current = some g ∧ g.credential.isExpired w.now = true ∧
      w.dropExpired = ((w.install none).cancelTask).publish (.loginTokenExpired g) := by
  unfold dropExpired
  split
  · split
    · exact .inr ⟨_, ‹_›, ‹_›, rfl⟩
    · exact .inl rfl
  · exact .inl rfl

/-- If none is usable, none is installed afterwards. -/
theorem current_dropExpired {w : World} (hu : w.usable? = none) : w.dropExpired.current = none := by
  unfold dropExpired
  cases hc : w.current with
  | none => exact hc
  | some g => simp only [expired_of_usable? hu hc, if_true]; rfl

/-- Dropping changes nothing but the grant, its task and what is told of it. -/
theorem dropExpired_frame (w : World) :
    ∃ c s i a h, w.dropExpired =
      { w with current := c, schedule := s, slot := i, audience := a, history := h } := by
  obtain h | ⟨_, _, _, h⟩ := w.dropExpired_eq <;> rw [h] <;> exact ⟨_, _, _, _, _, rfl⟩

section dropExpired

variable (w : World)

@[simp] theorem now_dropExpired : w.dropExpired.now = w.now := by
  obtain ⟨_, _, _, _, _, h⟩ := w.dropExpired_frame; rw [h]

@[simp] theorem lock_dropExpired : w.dropExpired.lock = w.lock := by
  obtain ⟨_, _, _, _, _, h⟩ := w.dropExpired_frame; rw [h]

@[simp] theorem lastFault_dropExpired : w.dropExpired.lastFault = w.lastFault := by
  obtain ⟨_, _, _, _, _, h⟩ := w.dropExpired_frame; rw [h]

@[simp] theorem loginsDone_dropExpired : w.dropExpired.loginsDone = w.loginsDone := by
  obtain ⟨_, _, _, _, _, h⟩ := w.dropExpired_frame; rw [h]

@[simp] theorem destroyed_dropExpired : w.dropExpired.destroyed = w.destroyed := by
  obtain ⟨_, _, _, _, _, h⟩ := w.dropExpired_frame; rw [h]

@[simp] theorem held_dropExpired : w.dropExpired.held = w.held := by
  obtain ⟨_, _, _, _, _, h⟩ := w.dropExpired_frame; rw [h]

@[simp] theorem operations_dropExpired : w.dropExpired.operations = w.operations := by
  obtain ⟨_, _, _, _, _, h⟩ := w.dropExpired_frame; rw [h]

@[simp] theorem nextOperation_dropExpired : w.dropExpired.nextOperation = w.nextOperation := by
  obtain ⟨_, _, _, _, _, h⟩ := w.dropExpired_frame; rw [h]

@[simp] theorem nextGrant_dropExpired : w.dropExpired.nextGrant = w.nextGrant := by
  obtain ⟨_, _, _, _, _, h⟩ := w.dropExpired_frame; rw [h]

@[simp] theorem point?_dropExpired (q : Nat) : w.dropExpired.point? q = w.point? q := by
  simp only [point?, operations_dropExpired]

end dropExpired

end World

/-! ## The one task -/

/-- The task in the slot is the only one that can still start. -/
structure Booked (s : Schedule Job) (slot : Option Nat) : Prop where
  numbered : s.Numbered
  slot_le : ∀ id ∈ slot, id ≤ s.issued
  slot_live : ∀ t ∈ s.live, slot = some t.id

theorem booked_empty (d : Discipline) : Booked (Schedule.empty d) none :=
  ⟨Schedule.numbered_empty d, by simp, by simp⟩

/-- There is no other live task beside a live task. -/
theorem Booked.live_eq {s : Schedule Job} {slot : Option Nat} (hb : Booked s slot) {t : Task Job}
    (ht : t ∈ s.live) : s.live = [t] := by
  have honly : ∀ u ∈ s.live, u = t := fun u hu => by
    have h := (hb.slot_live u hu).symm.trans (hb.slot_live t ht)
    exact hb.numbered.live_inj hu ht (by simpa using h)
  have hnd := hb.numbered.live_nodup
  match hl : s.live with
  | [] => rw [hl] at ht; cases ht
  | [u] => rw [honly u (hl ▸ List.mem_singleton_self _)]
  | u :: v :: us =>
    rw [hl] at honly hnd
    rw [honly u (by simp), honly v (by simp)] at hnd
    simp at hnd

/-- A started task leaves none behind. -/
theorem Booked.starts {s s' : Schedule Job} {slot : Option Nat} (hb : Booked s slot) {t : Task Job}
    (hs : s.Starts t s') : Booked s' slot ∧ s'.live = [] := by
  have hl : s'.live = [] := by rw [hs.live, hb.live_eq hs.mem]; simp
  exact ⟨⟨hs.numbered, fun id hid => hs.issued ▸ hb.slot_le id hid, by simp [hl]⟩, hl⟩

namespace World

theorem booked_cancelTask {w : World} (hb : Booked w.schedule w.slot) :
    Booked w.cancelTask.schedule w.cancelTask.slot ∧ w.cancelTask.schedule.live = [] := by
  have hl : (w.schedule.cancel? w.slot).live = [] := by
    rw [Schedule.live_cancel?, List.filter_eq_nil_iff]
    intro t ht
    simp [hb.slot_live t ht]
  exact ⟨⟨hb.numbered.cancel? hb.slot_le, by simp [cancelTask], by simp [cancelTask, hl]⟩, hl⟩

theorem booked_replaceTask {w : World} (hb : Booked w.schedule w.slot) (delay : Span) (job : Job) :
    Booked (w.replaceTask delay job).schedule (w.replaceTask delay job).slot ∧
      (w.schedule.stopped = false →
        (w.replaceTask delay job).schedule.live = [w.schedule.next w.now delay job]) := by
  have hlive : w.schedule.stopped = false →
      ((w.schedule.add w.now delay job).2.cancel? w.slot).live =
        [w.schedule.next w.now delay job] := fun hr => by
    rw [Schedule.live_cancel?, hb.numbered.live_add hr, List.filter_append,
      List.filter_eq_nil_iff.mpr fun t ht => by simp [hb.slot_live t ht], List.nil_append,
      List.filter_eq_self]
    intro t ht
    rw [List.mem_singleton] at ht
    subst ht
    -- The new number is above the one in the slot.
    refine bne_iff_ne.mpr fun e => ?_
    exact absurd (hb.slot_le _ e.symm) (Nat.not_succ_le_self _)
  refine ⟨⟨(hb.numbered.add ..).cancel? fun id hid => Nat.le_succ_of_le (hb.slot_le id hid), ?_, ?_⟩,
    hlive⟩
  · simp [replaceTask, Schedule.add]
  · intro t ht
    change t ∈ ((w.schedule.add w.now delay job).2.cancel? w.slot).live at ht
    cases hr : w.schedule.stopped with
    | false =>
      rw [hlive hr, List.mem_singleton] at ht
      subst ht; rfl
    | true =>
      rw [Schedule.live_of_stopped (by rw [Schedule.stopped_cancel?]; exact hr)] at ht
      cases ht

/-- The task that looks after a grant. -/
def duty (w : World) (g : Grant) : Job :=
  if w.isBelowThreshold g.credential then .expire g else .renew g

theorem duty_grant (w : World) (g : Grant) : (w.duty g).grant = g := by
  unfold duty
  split <;> rfl

theorem duty_congr {w w' : World} (h : w'.trigger = w.trigger) (g : Grant) : w'.duty g = w.duty g := by
  unfold duty isBelowThreshold
  rw [h]

/-- Asking a fixed trigger always brings a delay, and leaves it as it was. -/
theorem renewalDelay_fixed {w : World} {t : FixedTrigger} (ht : w.trigger = .fixed t) {c : Credential}
    (hc : (!c.wantsRenewal || w.isBelowThreshold c) = false) :
    ∃ n, w.renewalDelay c =
      (some (t.delay (w.draws w.drawn) (c.remaining w.now)), { w with drawn := n }) := by
  unfold renewalDelay
  rw [if_neg (by simp [hc])]
  simp only [askTrigger, ht, Trigger.next]
  exact ⟨_, rfl⟩

/-- Scheduling for a grant that wants renewal leaves just its task, and otherwise changes no
task. -/
theorem live_scheduleRenewal {w : World} {t : FixedTrigger} (ht : w.trigger = .fixed t)
    (hd : w.destroyed = false) (hr : w.schedule.stopped = false) (hb : Booked w.schedule w.slot)
    (g : Grant) :
    (g.credential.wantsRenewal = true ∧
        ∃ task, (w.scheduleRenewal g).schedule.live = [task] ∧ task.job = w.duty g) ∨
      g.credential.wantsRenewal = false ∧ w.scheduleRenewal g = w := by
  unfold scheduleRenewal duty
  rw [if_neg (by simp [hd])]
  cases hn : g.credential.wantsRenewal with
  | false =>
    refine .inr ⟨rfl, ?_⟩
    simp only [renewalDelay, hn, Bool.false_and, Bool.not_false, Bool.true_or, Bool.false_eq_true,
      if_true, if_false]
  | true =>
    refine .inl ⟨rfl, ?_⟩
    cases hs : w.isBelowThreshold g.credential with
    | true => exact ⟨_, (booked_replaceTask hb _ (.expire g)).2 hr, rfl⟩
    | false =>
      obtain ⟨n, h⟩ := renewalDelay_fixed ht (c := g.credential) (by simp [hn, hs])
      simp only [h, Bool.and_false, Bool.false_eq_true, if_false]
      exact ⟨_, (booked_replaceTask (w := { w with drawn := n }) hb _ (.renew g)).2 hr, rfl⟩

/-- A fixed trigger stays as it was. -/
theorem trigger_scheduleRenewal {w : World} {t : FixedTrigger} (ht : w.trigger = .fixed t) (g : Grant) :
    (w.scheduleRenewal g).trigger = w.trigger := by
  unfold scheduleRenewal
  split
  · rfl
  split
  · rfl
  cases hc : !g.credential.wantsRenewal || w.isBelowThreshold g.credential with
  | true => simp only [renewalDelay, hc, if_true]
  | false =>
    obtain ⟨n, h⟩ := renewalDelay_fixed ht hc
    rw [h]
    rfl

end World

end LeaseKeeper.Session
