import LeaseKeeper.Clockwork
import LeaseKeeper.Proofs.Operations
import LeaseKeeper.Proofs.Schedule

/-!
# What clockworks write down

What a run of a timed clockwork writes down is lawful (`Lawful`): a task starts once at most, when its
delay has passed since it was scheduled, and only if neither its cancellation nor the end of the
schedule was written down before. Conversely the trace tells what is going to happen: a task that
was neither started nor barred in time can still start (`Sound`), and a body that began and has not
ended sleeps (`Bodies`). Each of the things that a body does keeps this, so that its whole course does
(`play_keeps`), and each move, so that every run does (`run_keeps`). What is told of bodies does not
depend on who starts the tasks.
-/

namespace LeaseKeeper

theorem Instant.le_antisymm {i j : Instant} (h : i ≤ j) (h' : j ≤ i) : i = j := by
  cases i
  cases j
  exact congrArg Instant.mk (Nat.le_antisymm h h')

namespace Clockwork

variable {κ σ : Type} {program : κ → Body κ σ} {c c' : Clockwork κ σ} {awake : Option Nat}

/-! ## Traces -/

/-- Whether that was written down, whenever it was. -/
def Happened (es : List (Instant × Tick)) (k : Tick) : Prop := ∃ s, (s, k) ∈ es

@[simp] theorem happened_cons {es : List (Instant × Tick)} {s : Instant} {k k' : Tick} :
    Happened ((s, k') :: es) k ↔ k = k' ∨ Happened es k := by
  simp only [Happened, List.mem_cons, Prod.mk.injEq, exists_or]
  exact or_congr ⟨fun ⟨_, h⟩ => h.2, fun h => ⟨s, rfl, h⟩⟩ Iff.rfl

theorem exists_suffix_of_mem {es : List (Instant × Tick)} {e : Instant × Tick} (h : e ∈ es) :
    ∃ earlier, e :: earlier <:+ es := by
  obtain ⟨later, earlier, rfl⟩ := List.append_of_mem h
  exact ⟨earlier, List.suffix_append ..⟩

/-- Whether something may be written down after what is there already: a number is given out once,
and a task starts in time and ends, both once. -/
def Fits (es : List (Instant × Tick)) (now : Instant) : Tick → Prop
  | .scheduled id _ => ∀ d, ¬Happened es (.scheduled id d)
  | .started id =>
    (∃ t d, (t, .scheduled id d) ∈ es ∧ now = t.plus d) ∧ ¬Happened es (.started id) ∧
      ∀ e ∈ es, e.2.bars id = false
  | .ended id => Happened es (.started id) ∧ ¬Happened es (.ended id)
  | _ => True

/-- A trace, the latest entry first, of which every entry fits those before it. -/
inductive Lawful : List (Instant × Tick) → Prop where
  | nil : Lawful []
  | cons {es : List (Instant × Tick)} {s : Instant} {k : Tick} (fits : Fits es s k)
    (lawful : Lawful es) : Lawful ((s, k) :: es)

namespace Lawful

variable {es : List (Instant × Tick)}

/-- What starts does so when its delay has passed. -/
theorem onTime (h : Lawful es) {s : Instant} {id : Nat} (hs : (s, .started id) ∈ es) :
    ∃ t d, (t, .scheduled id d) ∈ es ∧ s = t.plus d := by
  induction h with
  | nil => cases hs
  | cons fits _ ih =>
    rcases List.mem_cons.mp hs with h | h
    · cases h
      obtain ⟨t, d, ht, e⟩ := fits.1
      exact ⟨t, d, List.mem_cons_of_mem _ ht, e⟩
    · obtain ⟨t, d, ht, e⟩ := ih h
      exact ⟨t, d, List.mem_cons_of_mem _ ht, e⟩

/-- What ends has started. -/
theorem ended (h : Lawful es) {id : Nat} (he : Happened es (.ended id)) :
    Happened es (.started id) := by
  induction h with
  | nil => cases he with | intro _ he => cases he
  | cons fits _ ih =>
    rcases happened_cons.mp he with rfl | he
    · exact happened_cons.mpr (.inr fits.1)
    · exact happened_cons.mpr (.inr (ih he))

/-- What starts does so before anything bars it. -/
theorem sooner (h : Lawful es) {e : Instant × Tick} {earlier : List (Instant × Tick)} {id : Nat}
    (he : e :: earlier <:+ es) (hb : e.2.bars id = true) (hs : Happened es (.started id)) :
    Happened earlier (.started id) := by
  induction h with
  | nil => cases hs with | intro _ hs => cases hs
  | cons fits _ ih =>
    rcases List.suffix_cons_iff.mp he with heq | hsuf <;> rcases happened_cons.mp hs with hk | hs
    · cases heq
      subst hk
      cases hb
    · cases heq
      exact hs
    · subst hk
      exact absurd (fits.2.2 e (hsuf.subset List.mem_cons_self)) (by simp [hb])
    · exact ih hsuf hs

end Lawful

/-! ## What holds of every state -/

/-- A task that can start has not started, and its time is to come. -/
structure Upcoming (c : Clockwork κ σ) (u : Task κ) : Prop where
  scheduled : ∃ t, (t, .scheduled u.id u.delay) ∈ c.trace ∧ u.due = t.plus u.delay
  toCome : c.now ≤ u.due
  waits : ¬Happened c.trace (.started u.id)

/-- A task has started, was barred before its time had passed, or can start. -/
def Accounted (c : Clockwork κ σ) (due : Instant) (id : Nat) : Prop :=
  Happened c.trace (.started id) ∨ (∃ e ∈ c.trace, e.2.bars id = true ∧ e.1 ≤ due) ∨
    ∃ u ∈ c.schedule.live, u.id = id ∧ u.due = due

/-- What the trace of a clockwork tells of its schedule. -/
structure Sound (c : Clockwork κ σ) : Prop where
  timed : c.schedule.discipline = .timed
  numbered : c.schedule.Numbered
  lawful : Lawful c.trace
  past : ∀ e ∈ c.trace, e.1 ≤ c.now
  issued : ∀ id d, Happened c.trace (.scheduled id d) → id ≤ c.schedule.issued
  cancelled : ∀ id, c.schedule.isCancelled id = true ↔ ∃ e ∈ c.trace, e.2.bars id = true
  upcoming : ∀ u ∈ c.schedule.live, c.Upcoming u
  accounted : ∀ t id d, (t, .scheduled id d) ∈ c.trace → c.Accounted (t.plus d) id

/-- What the trace of a clockwork tells of the bodies that began. Nobody but that of `awake` is just
being played. -/
structure Bodies (awake : Option Nat) (c : Clockwork κ σ) : Prop where
  /-- A body that sleeps has begun and not ended, and its time is to come. -/
  asleep : ∀ x ∈ c.asleep, c.now ≤ x.2.due ∧ Happened c.trace (.started x.1) ∧
    ¬Happened c.trace (.ended x.1) ∧ awake ≠ some x.1
  /-- A body that began has ended, unless it sleeps. -/
  going : ∀ id, Happened c.trace (.started id) →
    Happened c.trace (.ended id) ∨ id ∈ c.asleep.map Prod.fst ∨ awake = some id
  awake : ∀ id, awake = some id →
    Happened c.trace (.started id) ∧ ¬Happened c.trace (.ended id)

theorem sound_initial (memory : σ) : Sound (initial .timed memory : Clockwork κ σ) where
  timed := rfl
  numbered := Schedule.numbered_empty _
  lawful := .nil
  past e he := by cases he
  issued id d h := by cases h with | intro _ h => cases h
  cancelled id := by simp [initial, Schedule.empty, Schedule.isCancelled]
  upcoming u hu := by cases hu
  accounted t id d h := by cases h

theorem bodies_initial (discipline : Discipline) (memory : σ) :
    Bodies none (initial discipline memory : Clockwork κ σ) where
  asleep x hx := by cases hx
  going id h := by cases h with | intro _ h => cases h
  awake id h := by cases h

theorem Upcoming.mono {u : Task κ} (h : c.Upcoming u) (ht : c.trace ⊆ c'.trace)
    (hn : c'.now = c.now)
    (hs : Happened c'.trace (.started u.id) → Happened c.trace (.started u.id)) :
    c'.Upcoming u where
  scheduled := h.scheduled.imp fun _ h => ⟨ht h.1, h.2⟩
  toCome := hn ▸ h.toCome
  waits hs' := h.waits (hs hs')

theorem Accounted.mono {due : Instant} {id : Nat} (h : c.Accounted due id)
    (ht : c.trace ⊆ c'.trace) (hl : ∀ u ∈ c.schedule.live, c'.Accounted u.due u.id) :
    c'.Accounted due id := by
  rcases h with ⟨s, hs⟩ | ⟨e, he, hb⟩ | ⟨u, hu, rfl, rfl⟩
  · exact .inl ⟨s, ht hs⟩
  · exact .inr (.inl ⟨e, ht he, hb⟩)
  · exact hl u hu

/-- The bodies are as before unless one of them begins, sleeps or ends. -/
theorem Bodies.congr (h : Bodies awake c) (ha : c'.asleep = c.asleep) (hn : c'.now = c.now)
    (hs : ∀ id, Happened c'.trace (.started id) ↔ Happened c.trace (.started id))
    (he : ∀ id, Happened c'.trace (.ended id) ↔ Happened c.trace (.ended id)) :
    Bodies awake c' where
  asleep x hx := by
    rw [ha] at hx
    rw [hn, hs, he]
    exact h.asleep x hx
  going id hid := by
    rw [he, ha]
    exact h.going id ((hs id).mp hid)
  awake id hid := by
    rw [hs, he]
    exact h.awake id hid

/-- The schedule is as before. -/
theorem Sound.congr (h : Sound c) (hs : c'.schedule = c.schedule) (hn : c'.now = c.now)
    (ht : c'.trace = c.trace) : Sound c' where
  timed := hs ▸ h.timed
  numbered := hs ▸ h.numbered
  lawful := ht ▸ h.lawful
  past := ht ▸ hn ▸ h.past
  issued := ht ▸ hs ▸ h.issued
  cancelled := ht ▸ hs ▸ h.cancelled
  upcoming u hu := (h.upcoming u (hs ▸ hu)).mono (fun _ => ht ▸ id) hn (ht ▸ id)
  accounted t id d hm := (h.accounted t id d (ht ▸ hm)).mono (ht ▸ List.Subset.refl _) fun u hu =>
    .inr (.inr ⟨u, hs ▸ hu, rfl, rfl⟩)

/-! ## What a body does -/

theorem Sound.started_le (h : Sound c) {id : Nat} (hs : Happened c.trace (.started id)) :
    id ≤ c.schedule.issued := by
  obtain ⟨s, hs⟩ := hs
  obtain ⟨t, d, ht, _⟩ := h.lawful.onTime hs
  exact h.issued id d ⟨t, ht⟩

/-- A new task can start, unless the schedule is stopped. -/
theorem live_add (hc : c.schedule.Numbered) (delay : Span) (job : κ) :
    (c.add delay job).schedule.live = if c.schedule.stopped then []
      else c.schedule.live ++ [c.schedule.next c.now delay job] := by
  cases hr : c.schedule.stopped with
  | true => exact Schedule.live_of_stopped (s := (c.schedule.add c.now delay job).2) hr
  | false => exact hc.live_add hr ..

theorem Sound.add (h : Sound c) (delay : Span) (job : κ) : Sound (c.add delay job) := by
  have hsub : c.trace ⊆ (c.add delay job).trace := List.subset_cons_self ..
  have hl := live_add h.numbered delay job
  have hnot : ¬Happened c.trace (.started (c.schedule.issued + 1)) := fun hs =>
    absurd (h.started_le hs) (by omega)
  refine ⟨h.timed, h.numbered.add .., .cons (fun d hm => ?_) h.lawful,
    List.forall_mem_cons.mpr ⟨Nat.le_refl _, h.past⟩, fun id d hm => ?_, fun id => ?_,
    fun u hu => ?_, fun t id d hm => ?_⟩
  · exact absurd (h.issued _ _ hm) (by omega)
  · rcases happened_cons.mp hm with hk | hm
    · cases hk
      exact Nat.le_refl _
    · exact Nat.le_succ_of_le (h.issued id d hm)
  · rw [show (c.add delay job).schedule.isCancelled id = c.schedule.isCancelled id from rfl,
      h.cancelled]
    exact (List.exists_mem_cons_iff ..).trans (or_iff_right (by simp [Tick.bars])) |>.symm
  · have hu' : u ∈ c.schedule.live ∨ u = c.schedule.next c.now delay job := by
      rw [hl] at hu
      split at hu
      · cases hu
      · simpa using hu
    rcases hu' with hu' | rfl
    · exact (h.upcoming u hu').mono hsub rfl fun hs => (happened_cons.mp hs).resolve_left (by simp)
    · exact ⟨⟨c.now, List.mem_cons_self, rfl⟩, Instant.le_plus .., fun hs =>
        hnot ((happened_cons.mp hs).resolve_left (by simp))⟩
  · rcases List.mem_cons.mp hm with hk | hm
    · cases hk
      cases hr : c.schedule.stopped with
      | true =>
        obtain ⟨e, he, hb⟩ := (h.cancelled (c.schedule.issued + 1)).mp (by
          simp [Schedule.isCancelled, hr])
        exact .inr (.inl ⟨e, hsub he, hb, Nat.le_trans (h.past e he) (Instant.le_plus ..)⟩)
      | false =>
        exact .inr (.inr ⟨c.schedule.next c.now delay job, by simp [hl, hr], rfl, rfl⟩)
    · refine (h.accounted t id d hm).mono hsub fun u hu => .inr (.inr ⟨u, ?_, rfl, rfl⟩)
      rw [hl, if_neg fun hr => by
        rw [Schedule.live_of_stopped hr] at hu
        cases hu]
      exact List.mem_append_left _ hu

/-- What is written down of the end of a body, or of what bars tasks if it bars them. -/
theorem Sound.note (h : Sound c) {k : Tick} {s : Schedule κ} (hk : Fits c.trace c.now k)
    (hnew : ∀ id d, k ≠ .scheduled id d) (hno : ∀ id, k ≠ .started id)
    (hd : s.discipline = c.schedule.discipline) (hs : s.Numbered)
    (hw : s.waiting = c.schedule.waiting) (hi : s.issued = c.schedule.issued)
    (hb : ∀ id, s.isCancelled id = (c.schedule.isCancelled id || k.bars id)) :
    Sound ({ c with schedule := s }.log k) := by
  have hsub : c.trace ⊆ ({ c with schedule := s }.log k).trace := List.subset_cons_self ..
  refine ⟨hd.trans h.timed, hs, .cons hk h.lawful,
    List.forall_mem_cons.mpr ⟨Nat.le_refl _, h.past⟩, fun id d hm => ?_, fun id => ?_,
    fun u hu => ?_, fun t id d hm => ?_⟩
  · exact hi ▸ h.issued id d ((happened_cons.mp hm).resolve_left (hnew id d).symm)
  · refine (Bool.eq_iff_iff.mp (hb id)).trans ?_
    rw [Bool.or_eq_true, h.cancelled, or_comm]
    exact (List.exists_mem_cons_iff (·.2.bars id = true) (c.now, k) c.trace).symm
  · have hu : u ∈ s.live := hu
    rw [Schedule.mem_live, hw, hb, Bool.or_eq_false_iff] at hu
    exact (h.upcoming u (Schedule.mem_live.mpr ⟨hu.1, hu.2.1⟩)).mono hsub rfl fun hs =>
      (happened_cons.mp hs).resolve_left (hno _).symm
  · have hm' := (List.mem_cons.mp hm).resolve_left fun e => hnew id d (congrArg Prod.snd e).symm
    refine (h.accounted t id d hm').mono hsub fun u hu => ?_
    cases hkb : k.bars u.id with
    | true =>
      exact .inr (.inl ⟨(c.now, k), List.mem_cons_self, hkb, (h.upcoming u hu).toCome⟩)
    | false =>
      obtain ⟨hu, hc⟩ := Schedule.mem_live.mp hu
      have hu' : u ∈ s.live := Schedule.mem_live.mpr ⟨hw ▸ hu, by rw [hb, hc, hkb]; rfl⟩
      exact .inr (.inr ⟨u, hu', rfl, rfl⟩)

theorem Sound.cancel (h : Sound c) (task : Nat) : Sound (c.cancel task) := by
  unfold Clockwork.cancel
  split
  · rename_i hid
    exact h.note trivial (by simp) (by simp) (c.schedule.discipline_cancel task)
      (h.numbered.cancel hid.2) (c.schedule.waiting_cancel task) (c.schedule.issued_cancel task)
      (c.schedule.isCancelled_cancel task)
  · exact h

theorem stop_of_timed (h : c.schedule.discipline = .timed) :
    c.stop = { c with schedule := { c.schedule with stopped := true } }.log .stopped := by
  unfold stop
  split
  · rename_i hm
    cases h.symm.trans hm
  · rw [Schedule.stop_of_timed h]

theorem Sound.stop (h : Sound c) : Sound c.stop := by
  rw [stop_of_timed h.timed]
  exact h.note trivial (by simp) (by simp) rfl
    ⟨h.numbered.waiting, h.numbered.cancelled, h.numbered.nodup⟩ rfl rfl fun _ =>
    (Bool.or_true _).symm

theorem Sound.end (h : Sound c) {task : Nat} (hs : Happened c.trace (.started task))
    (he : ¬Happened c.trace (.ended task)) : Sound (c.log (.ended task)) :=
  h.note ⟨hs, he⟩ (by simp) (by simp) rfl h.numbered rfl rfl fun _ => (Bool.or_false _).symm

/-- Who starts or ends is not told by what is written down of a new task or of what bars tasks. -/
theorem Bodies.log (h : Bodies awake c) {k : Tick} {s : Schedule κ} (hs : ∀ id, k ≠ .started id)
    (he : ∀ id, k ≠ .ended id) : Bodies awake ({ c with schedule := s }.log k) :=
  h.congr rfl rfl (fun id => happened_cons.trans (or_iff_right (hs id).symm))
    fun id => happened_cons.trans (or_iff_right (he id).symm)

theorem Bodies.add (h : Bodies awake c) (delay : Span) (job : κ) : Bodies awake (c.add delay job) :=
  h.log (by simp) (by simp)

theorem Bodies.cancel (h : Bodies awake c) (task : Nat) : Bodies awake (c.cancel task) := by
  unfold Clockwork.cancel
  split
  · exact h.log (by simp) (by simp)
  · exact h

theorem Bodies.stop (h : Bodies awake c) : Bodies awake c.stop := by
  unfold Clockwork.stop
  split
  · exact h
  · exact h.log (by simp) (by simp)

/-- The body that is played ends. -/
theorem Bodies.end {task : Nat} (h : Bodies (some task) c) : Bodies none (c.log (.ended task)) where
  asleep x hx := by
    obtain ⟨hn, hs, he, ha⟩ := h.asleep x hx
    refine ⟨hn, happened_cons.mpr (.inr hs), fun h' => ?_, by simp⟩
    rcases happened_cons.mp h' with hk | h'
    · exact ha (by cases hk; rfl)
    · exact he h'
  going id hid := by
    rcases h.going id ((happened_cons.mp hid).resolve_left (by simp)) with he | ha | ha
    · exact .inl (happened_cons.mpr (.inr he))
    · exact .inr (.inl ha)
    · cases ha
      exact .inl (happened_cons.mpr (.inl rfl))
  awake id hid := by cases hid

/-- The body that is played falls asleep. -/
theorem Bodies.sleep {task : Nat} (h : Bodies (some task) c) (time : Span) (next : Body κ σ) :
    Bodies none { c with asleep := (task, ⟨c.now.plus time, next⟩) :: c.asleep } where
  asleep x hx := by
    rcases List.mem_cons.mp hx with rfl | hx
    · exact ⟨Instant.le_plus .., (h.awake task rfl).1, (h.awake task rfl).2, by simp⟩
    · obtain ⟨hn, hs, he, _⟩ := h.asleep x hx
      exact ⟨hn, hs, he, by simp⟩
  going id hid := by
    rcases h.going id hid with he | ha | ha
    · exact .inl he
    · exact .inr (.inl (List.mem_cons_of_mem _ ha))
    · cases ha
      exact .inr (.inl List.mem_cons_self)
  awake id hid := by cases hid

theorem Bodies.play {task : Nat} (h : Bodies (some task) c) (b : Body κ σ) :
    Bodies none (Clockwork.play task b c) := by
  induction b generalizing c with
  | done => exact h.end
  | sleep time next _ => exact h.sleep time next
  | schedule delay job next ih => exact ih _ (h.add delay job)
  | cancel id next ih => exact ih (h.cancel id)
  | ask id next ih => exact ih _ h
  | stop next ih => exact ih h.stop
  | share change next ih => exact ih _ (h.congr rfl rfl (fun _ => Iff.rfl) fun _ => Iff.rfl)

/-- The whole course of a body, until it sleeps or ends. -/
theorem play_keeps {task : Nat} (b : Body κ σ) (h : Sound c) (hb : Bodies (some task) c) :
    Sound (play task b c) ∧ Bodies none (play task b c) := by
  refine ⟨?_, hb.play b⟩
  induction b generalizing c with
  | done => exact h.end (hb.awake task rfl).1 (hb.awake task rfl).2
  | sleep time next _ => exact h.congr rfl rfl rfl
  | schedule delay job next ih => exact ih _ (h.add delay job) (hb.add delay job)
  | cancel id next ih => exact ih (h.cancel id) (hb.cancel id)
  | ask id next ih => exact ih _ h hb
  | stop next ih => exact ih h.stop hb.stop
  | share change next ih =>
    exact ih _ (h.congr rfl rfl rfl) (hb.congr rfl rfl (fun _ => Iff.rfl) fun _ => Iff.rfl)

/-! ## What happens next -/

/-- A task is taken from the schedule when its time has come. -/
theorem Sound.start (h : Sound c) {t : Task κ} {s : Schedule κ} (ht : c.schedule.Starts t s)
    (hd : s.discipline = c.schedule.discipline)
    (hc : ∀ id, s.isCancelled id = c.schedule.isCancelled id) (hdue : t.due ≤ c.now) :
    Sound ({ c with schedule := s }.log (.started t.id)) := by
  have hsub : c.trace ⊆ ({ c with schedule := s }.log (.started t.id)).trace :=
    List.subset_cons_self ..
  have hu := h.upcoming t ht.mem
  obtain ⟨r, hr, hr'⟩ := hu.scheduled
  have hbars : ∀ e ∈ c.trace, e.2.bars t.id = false := fun e he => by
    by_contra hb
    have := (h.cancelled t.id).mpr ⟨e, he, by simpa using hb⟩
    cases (Schedule.mem_live.mp ht.mem).2.symm.trans this
  have hnow : c.now = t.due := Instant.le_antisymm hu.toCome hdue
  refine ⟨hd.trans h.timed, ht.numbered, .cons ⟨⟨r, t.delay, hr, hnow.trans hr'⟩, hu.waits, hbars⟩
    h.lawful, List.forall_mem_cons.mpr ⟨Nat.le_refl _, h.past⟩, fun id d hm => ?_, fun id => ?_,
    fun u hu => ?_, fun r id d hm => ?_⟩
  · exact ht.issued ▸ h.issued id d ((happened_cons.mp hm).resolve_left (by simp))
  · refine (Bool.eq_iff_iff.mp (hc id)).trans ((h.cancelled id).trans ?_)
    refine ((List.exists_mem_cons_iff (·.2.bars id = true) (c.now, .started t.id) c.trace).trans
      (or_iff_right (by simp [Tick.bars]))).symm
  · obtain ⟨hu', hne⟩ := ht.not_mem hu
    exact (h.upcoming u hu').mono hsub rfl fun hs =>
      (happened_cons.mp hs).resolve_left (by simpa using hne)
  · refine (h.accounted r id d ((List.mem_cons.mp hm).resolve_left (by simp))).mono hsub fun u hu => ?_
    by_cases e : u.id = t.id
    · exact .inl (e ▸ happened_cons.mpr (.inl rfl))
    · refine .inr (.inr ⟨u, ?_, rfl, rfl⟩)
      exact ht.live ▸ List.mem_filter.mpr ⟨hu, by simpa using e⟩

/-- The body of a task that has not started yet begins. -/
theorem Bodies.start (h : Bodies none c) {id : Nat} {s : Schedule κ}
    (hs : ¬Happened c.trace (.started id)) (he : ¬Happened c.trace (.ended id)) :
    Bodies (some id) ({ c with schedule := s }.log (.started id)) where
  asleep x hx := by
    obtain ⟨hn, hs', he', _⟩ := h.asleep x hx
    refine ⟨hn, happened_cons.mpr (.inr hs'), fun h' => he' ((happened_cons.mp h').resolve_left
      (by simp)), fun e => hs ?_⟩
    rw [Option.some.inj e]
    exact hs'
  going id' hid := by
    rcases happened_cons.mp hid with hk | hid
    · cases hk
      exact .inr (.inr rfl)
    · rcases h.going id' hid with he' | ha | ha
      · exact .inl (happened_cons.mpr (.inr he'))
      · exact .inr (.inl ha)
      · cases ha
  awake id' hid := by
    cases hid
    exact ⟨happened_cons.mpr (.inl rfl), fun h' => he ((happened_cons.mp h').resolve_left (by simp))⟩

/-- A body that has slept long enough is played again. -/
theorem Bodies.wake (h : Bodies none c) {task : Nat} (hm : task ∈ c.asleep.map Prod.fst) :
    Bodies (some task) { c with asleep := c.asleep.filter (·.1 != task) } where
  asleep x hx := by
    obtain ⟨hx, hne⟩ := List.mem_filter.mp hx
    obtain ⟨hn, hs, he, _⟩ := h.asleep x hx
    exact ⟨hn, hs, he, fun e => by simp [Option.some.inj e] at hne⟩
  going id hid := by
    rcases h.going id hid with he | ha | ha
    · exact .inl he
    · by_cases e : id = task
      · exact .inr (.inr (congrArg some e.symm))
      · obtain ⟨x, hx, rfl⟩ := List.mem_map.mp ha
        exact .inr (.inl (List.mem_map_of_mem (List.mem_filter.mpr ⟨hx, by simpa using e⟩)))
    · cases ha
  awake id hid := by
    cases hid
    obtain ⟨x, hx, rfl⟩ := List.mem_map.mp hm
    exact ⟨(h.asleep x hx).2.1, (h.asleep x hx).2.2.1⟩

/-- The clock passes no deadline. -/
theorem passes_eq_false {t : Instant} : c.passes t = false ↔
    (c.schedule.discipline = .timed → ∀ u ∈ c.schedule.live, t ≤ u.due) ∧
      ∀ x ∈ c.asleep, t ≤ x.2.due := by
  have hlt : ∀ i : Instant, decide (i < t) = false ↔ t ≤ i := fun i =>
    decide_eq_false_iff_not.trans Nat.not_lt
  simp only [passes, Bool.or_eq_false_iff, Bool.and_eq_false_imp, beq_iff_eq, List.any_eq_false,
    Bool.not_eq_true, hlt]

/-- Time passes, and no deadline with it. -/
theorem Sound.elapse (h : Sound c) {t : Instant} (ht : c.now ≤ t ∧ c.passes t = false) :
    Sound { c with now := t } where
  timed := h.timed
  numbered := h.numbered
  lawful := h.lawful
  past e he := Nat.le_trans (h.past e he) ht.1
  issued := h.issued
  cancelled := h.cancelled
  upcoming u hu :=
    ⟨(h.upcoming u hu).scheduled, (passes_eq_false.mp ht.2).1 h.timed u hu, (h.upcoming u hu).waits⟩
  accounted := h.accounted

theorem Bodies.elapse (h : Bodies none c) {t : Instant} (ht : c.passes t = false) :
    Bodies none { c with now := t } where
  asleep x hx := ⟨(passes_eq_false.mp ht).2 x hx, (h.asleep x hx).2⟩
  going := h.going
  awake := h.awake

theorem step_elapse {t : Instant} : c.step program (.elapse t) = some c' ↔
    (c.now ≤ t ∧ c.passes t = false) ∧ { c with now := t } = c' := by
  rw [step]
  split
  · rename_i ht
    exact ⟨fun h => ⟨ht, Option.some.inj h⟩, fun h => congrArg some h.2⟩
  · rename_i ht
    exact ⟨nofun, fun h => absurd h.1 ht⟩

theorem wake?_eq_some {task : Nat} : c.wake? task = some c' ↔ ∃ s, c.asleep.lookup task = some s ∧
    s.due ≤ c.now ∧ play task s.rest { c with asleep := c.asleep.filter (·.1 != task) } = c' := by
  unfold wake?
  cases hs : c.asleep.lookup task with
  | none => simp
  | some s =>
    by_cases hd : s.due ≤ c.now
    · simp [hd]
    · simp [hd]

theorem poll?_eq_some {task : Nat} (h : c.poll? program task = some c') :
    ∃ t s, c.schedule.startDue c.now task = (some t, s) ∧ c' = c.start program t s := by
  unfold poll? at h
  split at h
  · cases h
  · rename_i t s hs
    cases h
    exact ⟨t, s, hs, rfl⟩

theorem poll_keeps (h : Sound c) (hb : Bodies none c) {task : Nat}
    (hm : c.poll? program task = some c') : Sound c' ∧ Bodies none c' := by
  obtain ⟨t, s, hs, rfl⟩ := poll?_eq_some hm
  obtain ⟨ht, -, hdue⟩ := Schedule.starts_of_startDue h.numbered hs
  have hno := (h.upcoming t ht.mem).waits
  exact play_keeps _ (h.start ht (Schedule.discipline_startDue hs)
    (fun _ => by rw [Schedule.isCancelled_startDue hs]) hdue) (hb.start hno fun he =>
      hno (h.lawful.ended he))

theorem step_keeps (h : Sound c) (hb : Bodies none c) {m : Move κ}
    (hm : c.step program m = some c') : Sound c' ∧ Bodies none c' := by
  cases m with
  | schedule delay job =>
    cases hm
    exact ⟨h.add delay job, hb.add delay job⟩
  | cancel task =>
    cases hm
    exact ⟨h.cancel task, hb.cancel task⟩
  | stop =>
    cases hm
    exact ⟨h.stop, hb.stop⟩
  | pick =>
    rw [step, h.timed] at hm
    cases hm
  | poll task =>
    rw [step, h.timed] at hm
    exact poll_keeps h hb hm
  | wake task =>
    obtain ⟨s, hs, -, rfl⟩ := wake?_eq_some.mp hm
    exact play_keeps s.rest (h.congr rfl rfl rfl)
      (hb.wake (List.mem_map.mpr ⟨_, lookup_mem hs, rfl⟩))
  | elapse t =>
    obtain ⟨ht, rfl⟩ := step_elapse.mp hm
    exact ⟨h.elapse ht, hb.elapse ht.2⟩

/-- What every move keeps, every run keeps. -/
theorem run?_keeps {P : Clockwork κ σ → Prop}
    (hP : ∀ v v' m, P v → v.step program m = some v' → P v') {ms : List (Move κ)} (h : P c)
    (hm : c.run? program ms = some c') : P c' := by
  induction ms generalizing c with
  | nil =>
    cases hm
    exact h
  | cons m ms ih =>
    obtain ⟨v, hv, hm⟩ := Option.bind_eq_some_iff.mp hm
    exact ih (hP c v m h hv) hm

theorem Bodies.lookup (hb : Bodies none c) {id : Nat} (hs : Happened c.trace (.started id)) :
    Happened c.trace (.ended id) ∨ ∃ s, c.asleep.lookup id = some s ∧ c.now ≤ s.due := by
  rcases hb.going id hs with he | ha | ha
  · exact .inl he
  · cases hl : c.asleep.lookup id with
    | some s => exact .inr ⟨s, rfl, (hb.asleep _ (lookup_mem hl)).1⟩
    | none =>
      obtain ⟨x, hx, rfl⟩ := List.mem_map.mp ha
      exact absurd (List.lookup_eq_none_iff.mp hl x hx) (by simp)
  · cases ha

/-! ## What is left alone -/

theorem asleep_cancel (c : Clockwork κ σ) (task : Nat) : (c.cancel task).asleep = c.asleep := by
  unfold Clockwork.cancel
  split <;> rfl

theorem asleep_stop (c : Clockwork κ σ) : c.stop.asleep = c.asleep := by
  unfold Clockwork.stop
  split <;> rfl

end Clockwork

end LeaseKeeper
