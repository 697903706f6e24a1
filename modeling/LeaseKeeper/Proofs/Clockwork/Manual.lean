import LeaseKeeper.Proofs.Clockwork.Calls

/-!
# Clockworks by hand

Under the manual discipline a clockwork is a queue. It does what it is asked (`Obeys`): whoever asks
for the oldest task starts it, whatever its delay, and tasks leave the queue unseen when they are
cancelled. What the queue has to hold is told by the trace alone (`awaiting`), as are the calls that
were made (`announced`) and the tasks that started (`begun`). Every entry of a trace follows from
those before it (`InTurn`), from which alone it is plain that tasks start in the order in which they
were scheduled (`InTurn.turns`); that the schedule holds what the trace says (`Queued`) is kept by
each of the things that a body does, and so by its whole course, by induction on the body
(`Queued.played`). Bodies are looked at in between too: what is told of a state (`TakesTurns`) also
holds where a body that is being played finds it (`Finds`).
-/

namespace LeaseKeeper

namespace Tick

/-- The task that was scheduled then, and its delay. -/
def announces? : Tick → Option (Nat × Span)
  | .scheduled id delay => some (id, delay)
  | _ => none

/-- The task that started then. -/
def begins? : Tick → Option Nat
  | .started id => some id
  | _ => none

/-- Whether a task does not wait for its start any more once that has happened. -/
def settles (task : Nat) : Tick → Bool
  | .cancelled id | .started id => id == task
  | _ => false

variable (task id : Nat)

@[simp] theorem settles_scheduled (delay : Span) : (scheduled id delay).settles task = false := rfl

@[simp] theorem settles_cancelled : (cancelled id).settles task = (id == task) := rfl

@[simp] theorem settles_started : (started id).settles task = (id == task) := rfl

@[simp] theorem settles_ended : (ended id).settles task = false := rfl

theorem settles_eq_true {k : Tick} :
    k.settles task = true ↔ k = .cancelled task ∨ k = .started task := by
  cases k <;> simp [settles]

end Tick

namespace Clockwork

variable {κ σ β : Type} {program : κ → Body κ σ} {c c' d : Clockwork κ σ}
  {es earlier : List (Instant × Tick)} {e : Instant × Tick} {s : Instant} {k : Tick} {id task : Nat}

/-! ## What a trace tells -/

/-- What the entries of a trace tell, the earliest first. -/
def told (f : Tick → Option β) (es : List (Instant × Tick)) : List β :=
  es.reverse.filterMap (f ·.2)

theorem told_cons (f : Tick → Option β) : told f ((s, k) :: es) = told f es ++ (f k).toList := by
  rw [told, List.reverse_cons, List.filterMap_append]
  cases hk : f k <;> simp [told, hk]

/-- The tasks that were scheduled, in that order, with their delays. -/
def announced (es : List (Instant × Tick)) : List (Nat × Span) := told Tick.announces? es

/-- The tasks that started, in that order. -/
def begun (es : List (Instant × Tick)) : List Nat := told Tick.begins? es

/-- The tasks that were scheduled and neither cancelled nor started. -/
def awaiting (es : List (Instant × Tick)) : List (Nat × Span) :=
  (announced es).filter fun x => !es.any (·.2.settles x.1)

theorem announced_cons : announced ((s, k) :: es) = announced es ++ k.announces?.toList :=
  told_cons _

theorem begun_cons : begun ((s, k) :: es) = begun es ++ k.begins?.toList := told_cons _

theorem mem_begun : id ∈ begun es ↔ Happened es (.started id) := by
  have hk : ∀ k : Tick, k.begins? = some id ↔ k = .started id := fun k => by
    cases k <;> simp [Tick.begins?]
  simp only [begun, told, List.mem_filterMap, List.mem_reverse, hk, Happened, Prod.exists,
    exists_eq_right]

theorem mem_awaiting {x : Nat × Span} :
    x ∈ awaiting es ↔ x ∈ announced es ∧ ∀ e ∈ es, e.2.settles x.1 = false := by
  simp [awaiting]

theorem not_started_of_awaiting {x : Nat × Span} (hx : x ∈ awaiting es) :
    ¬Happened es (.started x.1) := fun ⟨s, hs⟩ => by
  have hno := (mem_awaiting.mp hx).2 _ hs
  cases ((Tick.settles_eq_true _).mpr (.inr rfl)).symm.trans hno

theorem awaiting_cons (hk : k.announces? = none) :
    awaiting ((s, k) :: es) = (awaiting es).filter fun x => !k.settles x.1 := by
  simp only [awaiting, announced_cons, hk, Option.toList_none, List.append_nil, List.filter_filter,
    List.any_cons, Bool.not_or]

theorem announced_prefix (h : earlier <:+ es) : announced earlier <+: announced es :=
  (List.reverse_prefix.mpr h).filterMap _

/-! ## Traces of a queue -/

/-- Whether something may be written down of a queue after what is there already: numbers are given
out in order, only tasks that were scheduled are cancelled, the one that starts is the oldest of
those that wait, and what ends has started. -/
def Follows (es : List (Instant × Tick)) : Tick → Prop
  | .scheduled id _ => id = (announced es).length + 1
  | .cancelled id => 0 < id ∧ id ≤ (announced es).length
  | .stopped => False
  | .started id => ((awaiting es).map Prod.fst).head? = some id
  | .ended id => Happened es (.started id) ∧ ¬Happened es (.ended id)

/-- A trace, the latest entry first, of which every entry follows those before it. -/
inductive InTurn : List (Instant × Tick) → Prop where
  | nil : InTurn []
  | cons {es : List (Instant × Tick)} {s : Instant} {k : Tick} (follows : Follows es k)
    (inTurn : InTurn es) : InTurn ((s, k) :: es)

namespace InTurn

theorem follows_of_suffix (h : InTurn es) (he : e :: earlier <:+ es) : Follows earlier e.2 := by
  induction h with
  | nil => cases List.suffix_nil.mp he
  | cons follows _ ih =>
    rcases List.suffix_cons_iff.mp he with heq | hsuf
    · cases heq
      exact follows
    · exact ih hsuf

/-- Tasks are numbered as they are scheduled. -/
theorem numbers (h : InTurn es) :
    (announced es).map Prod.fst = List.range' 1 (announced es).length := by
  induction h with
  | nil => rfl
  | @cons es s k follows _ ih =>
    rw [announced_cons, List.map_append, ih, List.length_append]
    cases k with
    | scheduled id d =>
      obtain rfl : id = (announced es).length + 1 := follows
      rw [Nat.add_comm (announced es).length 1]
      exact (List.range'_1_concat ..).symm
    | cancelled _ | stopped | started _ | ended _ => exact List.append_nil _

theorem nodup (h : InTurn es) : ((announced es).map Prod.fst).Nodup := by
  rw [h.numbers]
  exact List.nodup_range'

theorem mem_announced (h : InTurn es) (hid : id ∈ (announced es).map Prod.fst) :
    0 < id ∧ id ≤ (announced es).length := by
  rw [h.numbers, List.mem_range'_1] at hid
  omega

/-- What starts is the oldest of the tasks that wait. -/
theorem awaiting_of_follows (h : Follows es (.started id)) :
    ∃ d rest, awaiting es = (id, d) :: rest := by
  have hf : ((awaiting es).map Prod.fst).head? = some id := h
  cases ha : awaiting es with
  | nil => simp [ha] at hf
  | cons x rest =>
    rw [ha, List.map_cons, List.head?_cons, Option.some.injEq] at hf
    exact ⟨x.2, rest, by rw [← hf]⟩

/-- A task is settled only after it was scheduled. -/
theorem settled_le (h : InTurn es) (he : e ∈ es) (hs : e.2.settles id = true) :
    id ≤ (announced es).length := by
  obtain ⟨earlier, hsuf⟩ := exists_suffix_of_mem he
  have hpre : announced earlier <+: announced es :=
    announced_prefix ((List.suffix_cons ..).trans hsuf)
  have hf := h.follows_of_suffix hsuf
  rcases (Tick.settles_eq_true id).mp hs with hk | hk <;> rw [hk] at hf
  · exact Nat.le_trans hf.2 hpre.length_le
  · obtain ⟨d, rest, ha⟩ := awaiting_of_follows hf
    have hm : (id, d) ∈ announced earlier := (mem_awaiting.mp (ha ▸ List.mem_cons_self)).1
    exact (h.mem_announced (List.mem_map_of_mem (hpre.subset hm))).2

/-- A new task waits behind the others. -/
theorem awaiting_scheduled (h : InTurn es) (hid : (announced es).length < id) (delay : Span) :
    awaiting ((s, .scheduled id delay) :: es) = awaiting es ++ [(id, delay)] := by
  have hnew : es.any (·.2.settles id) = false := by
    rw [List.any_eq_false]
    exact fun e he hs => absurd (h.settled_le he hs) (Nat.not_le.mpr hid)
  simp only [awaiting, announced_cons, Tick.announces?, Option.toList_some, List.filter_append,
    List.any_cons, Tick.settles_scheduled, Bool.false_or]
  rw [List.filter_singleton, hnew]
  rfl

/-- Whoever starts leaves the others waiting. -/
theorem awaiting_started (h : InTurn es) {delay : Span} {rest : List (Nat × Span)}
    (ha : awaiting es = (id, delay) :: rest) : awaiting ((s, .started id) :: es) = rest := by
  have hnd : ((awaiting es).map Prod.fst).Nodup := (List.filter_sublist.map _).nodup h.nodup
  rw [ha, List.map_cons, List.nodup_cons] at hnd
  rw [awaiting_cons rfl, ha, List.filter_cons, if_neg (by simp),
    List.filter_eq_self]
  intro x hx
  have hne : id ≠ x.1 := fun e => hnd.1 (List.mem_map.mpr ⟨x, hx, e.symm⟩)
  simpa using hne

/-- The tasks that started and then those that wait are in the order in which they were
scheduled. -/
theorem turns (h : InTurn es) :
    (begun es ++ (awaiting es).map Prod.fst).Sublist ((announced es).map Prod.fst) := by
  induction h with
  | nil => exact .slnil
  | @cons es s k follows hes ih =>
    -- Whatever is written down otherwise only shortens the queue.
    have hleave : k.announces? = none → k.begins? = none →
        (begun ((s, k) :: es) ++ (awaiting ((s, k) :: es)).map Prod.fst).Sublist
          ((announced ((s, k) :: es)).map Prod.fst) := fun ha hb => by
      rw [begun_cons, announced_cons, awaiting_cons ha, ha, hb, Option.toList_none,
        Option.toList_none, List.append_nil, List.append_nil]
      exact ((List.filter_sublist.map _).append_left _).trans ih
    cases k with
    | scheduled id d =>
      obtain rfl : id = (announced es).length + 1 := follows
      have hsame : begun ((s, .scheduled ((announced es).length + 1) d) :: es) = begun es :=
        begun_cons.trans (List.append_nil _)
      rw [hsame, announced_cons, hes.awaiting_scheduled (Nat.lt_succ_self _), List.map_append,
        List.map_append, ← List.append_assoc]
      exact ih.append_right _
    | started id =>
      obtain ⟨d, rest, ha⟩ := awaiting_of_follows follows
      rw [begun_cons, announced_cons, hes.awaiting_started ha]
      rw [ha] at ih
      simpa [Tick.begins?, Tick.announces?] using ih
    | cancelled _ | stopped | ended _ => exact hleave rfl rfl

/-- Tasks start in the order in which they were scheduled. -/
theorem inOrder (h : InTurn es) : (begun es).Sublist ((announced es).map Prod.fst) :=
  (List.sublist_append_left ..).trans h.turns

/-- A task starts once at most. -/
theorem once (h : InTurn es) (id : Nat) : (begun es).count id ≤ 1 :=
  List.nodup_iff_count_le_one.mp (h.inOrder.nodup h.nodup) id

/-- What ends has started. -/
theorem ended (h : InTurn es) (he : Happened es (.ended id)) : Happened es (.started id) := by
  obtain ⟨s, he⟩ := he
  obtain ⟨earlier, hsuf⟩ := exists_suffix_of_mem he
  obtain ⟨⟨s', hs⟩, -⟩ := h.follows_of_suffix hsuf
  exact ⟨s', hsuf.subset (List.mem_cons_of_mem _ hs)⟩

/-- What starts does so before it is cancelled. -/
theorem sooner (h : InTurn es) (he : e :: earlier <:+ es) (hk : e.2 = .cancelled id)
    (hs : Happened es (.started id)) : Happened earlier (.started id) := by
  obtain ⟨s, hs⟩ := hs
  obtain ⟨before, hsuf⟩ := exists_suffix_of_mem hs
  have hne : e ≠ (s, .started id) := fun heq => by
    rw [heq] at hk
    cases hk
  rcases List.suffix_or_suffix_of_suffix hsuf he with hle | hle
  · rcases List.suffix_cons_iff.mp hle with heq | hle
    · exact absurd (List.cons.inj heq).1.symm hne
    · exact ⟨s, hle.subset List.mem_cons_self⟩
  · rcases List.suffix_cons_iff.mp hle with heq | hle
    · exact absurd (List.cons.inj heq).1 hne
    · obtain ⟨d, rest, ha⟩ := awaiting_of_follows (h.follows_of_suffix hsuf)
      have hno := (mem_awaiting.mp (ha ▸ List.mem_cons_self)).2 e (hle.subset List.mem_cons_self)
      cases ((Tick.settles_eq_true _).mpr (.inl hk)).symm.trans hno

end InTurn

/-! ## What the schedule holds -/

/-- The tasks that can start are those that wait by the trace, in that order. -/
structure Queued (c : Clockwork κ σ) : Prop where
  byHand : c.schedule.discipline = .manual
  runs : c.schedule.stopped = false
  numbered : c.schedule.Numbered
  issued : c.schedule.issued = (announced c.trace).length
  live : (c.schedule.live.map fun t => (t.id, t.delay)) = awaiting c.trace
  inTurn : InTurn c.trace

theorem queued_initial (memory : σ) : Queued (initial .manual memory : Clockwork κ σ) :=
  ⟨rfl, rfl, Schedule.numbered_empty _, rfl, rfl, .nil⟩

namespace Queued

theorem congr (h : Queued c) (hs : c'.schedule = c.schedule) (ht : c'.trace = c.trace) :
    Queued c' :=
  ⟨hs ▸ h.byHand, hs ▸ h.runs, hs ▸ h.numbered, hs ▸ ht ▸ h.issued, hs ▸ ht ▸ h.live,
    ht ▸ h.inTurn⟩

theorem add (h : Queued c) (delay : Span) (job : κ) : Queued (c.add delay job) := by
  have hnew : (announced c.trace).length < c.schedule.issued + 1 := by
    rw [h.issued]
    exact Nat.lt_succ_self _
  refine ⟨h.byHand, h.runs, h.numbered.add .., ?_, ?_, .cons (congrArg (· + 1) h.issued) h.inTurn⟩
  · exact (congrArg (· + 1) h.issued).trans (by simp [Clockwork.add, log, announced_cons,
      Tick.announces?])
  · refine Eq.trans ?_ (h.inTurn.awaiting_scheduled hnew delay).symm
    refine (congrArg (List.map _) (h.numbered.live_add h.runs c.now delay job)).trans ?_
    rw [List.map_append, h.live]
    rfl

/-- What is written down apart from new tasks takes those that it settles out of the queue. -/
theorem note (h : Queued c) {r : Schedule κ} (hf : Follows c.trace k)
    (ha : k.announces? = none) (hd : r.discipline = c.schedule.discipline)
    (hr : r.stopped = c.schedule.stopped) (hn : r.Numbered) (hi : r.issued = c.schedule.issued)
    (hl : r.live = c.schedule.live.filter fun t => !k.settles t.id) :
    Queued ({ c with schedule := r }.log k) := by
  refine ⟨hd.trans h.byHand, hr.trans h.runs, hn, ?_, ?_, .cons hf h.inTurn⟩
  · refine (hi.trans h.issued).trans (congrArg List.length (?_ : _ = announced ((c.now, k) :: _)))
    rw [announced_cons, ha, Option.toList_none, List.append_nil]
  · refine Eq.trans ?_ (awaiting_cons ha).symm
    rw [← h.live, List.filter_map]
    exact congrArg (List.map _) hl

theorem cancel (h : Queued c) (task : Nat) : Queued (c.cancel task) := by
  unfold Clockwork.cancel
  split
  · rename_i hid
    refine h.note ⟨hid.1, h.issued ▸ hid.2⟩ rfl (c.schedule.discipline_cancel task)
      (c.schedule.stopped_cancel? (some task)) (h.numbered.cancel hid.2)
      (c.schedule.issued_cancel task) ((c.schedule.live_cancel task).trans ?_)
    exact List.filter_congr fun t _ => by simp [bne, Bool.beq_comm]
  · exact h

theorem stop (h : Queued c) : c.stop = c := by
  unfold Clockwork.stop
  rw [h.byHand]

theorem finish (h : Queued c) (hs : Happened c.trace (.started task))
    (he : ¬Happened c.trace (.ended task)) : Queued (c.log (.ended task)) :=
  h.note ⟨hs, he⟩ rfl rfl rfl h.numbered rfl (List.filter_eq_self.mpr fun _ _ => by simp).symm

theorem start (h : Queued c) {t : Task κ} {rest : Schedule κ} (ht : c.schedule.Starts t rest)
    (hl : c.schedule.live = t :: rest.live)
    (hd : rest.discipline = c.schedule.discipline) :
    Queued ({ c with schedule := rest }.log (.started t.id)) := by
  refine h.note ?_ rfl hd ht.stopped ht.numbered ht.issued (ht.live.trans ?_)
  · rw [Follows, ← h.live, hl]
    rfl
  · exact List.filter_congr fun u _ => by simp [bne, Bool.beq_comm]

/-- Where no task can start, those that are discarded are not missed. -/
theorem startNext_none (h : Queued c) {rest : Schedule κ}
    (hn : c.schedule.startNext = (none, rest)) : Queued { c with schedule := rest } := by
  obtain ⟨hl, rfl⟩ := Schedule.startNext_eq_none hn
  refine ⟨h.byHand, h.runs, h.numbered.of_waiting (List.nil_sublist _), h.issued, ?_, h.inTurn⟩
  rw [← h.live, hl, Schedule.live_of_waiting c.schedule.live.nil_sublist]

/-- The task that starts has waited until then. -/
theorem startNext_some (h : Queued c) {t : Task κ} {rest : Schedule κ}
    (hn : c.schedule.startNext = (some t, rest)) : (t.id, t.delay) ∈ awaiting c.trace ∧
      Queued ({ c with schedule := rest }.log (.started t.id)) := by
  obtain ⟨ht, hl⟩ := Schedule.starts_of_startNext h.numbered hn
  refine ⟨?_, h.start ht hl (Schedule.discipline_startNext hn)⟩
  rw [← h.live, hl]
  exact List.mem_cons_self

end Queued

/-! ## Where bodies find the clockwork -/

/-- The states in which the body of a task finds the clockwork while it is played, and the one in
which it leaves it. -/
def stages (task : Nat) : Body κ σ → Clockwork κ σ → List (Clockwork κ σ)
  | .done, c => [c, c.log (.ended task)]
  | .sleep time next, c => [c, play task (.sleep time next) c]
  | .schedule delay job next, c =>
    c :: stages task (next (c.schedule.issued + 1)) (c.add delay job)
  | .cancel id next, c => c :: stages task next (c.cancel id)
  | .ask id next, c => c :: stages task (next (c.schedule.isCancelled id)) c
  | .stop next, c => c :: stages task next c.stop
  | .share change next, c =>
    c :: stages task (next c.memory) { c with memory := change c.now c.memory }

theorem play_mem_stages (b : Body κ σ) : play task b c ∈ stages task b c := by
  induction b generalizing c with
  | done | sleep => exact .tail _ (.head _)
  | schedule delay job next ih => exact .tail _ (ih _)
  | cancel id next ih => exact .tail _ ih
  | ask id next ih => exact .tail _ (ih _)
  | stop next ih => exact .tail _ ih
  | share change next ih => exact .tail _ (ih _)

theorem Queued.played (h : Queued c) (hb : Bodies (some task) c) (b : Body κ σ) :
    ∀ d ∈ stages task b c, Queued d := by
  induction b generalizing c with
  | done =>
    have hend : Queued (c.log (.ended task)) :=
      h.finish (hb.awake task rfl).1 (hb.awake task rfl).2
    exact List.forall_mem_cons.mpr ⟨h, List.forall_mem_singleton.mpr hend⟩
  | sleep time next _ =>
    exact List.forall_mem_cons.mpr ⟨h, List.forall_mem_singleton.mpr (h.congr rfl rfl)⟩
  | schedule delay job next ih =>
    exact List.forall_mem_cons.mpr ⟨h, ih _ (h.add delay job) (hb.add delay job)⟩
  | cancel id next ih =>
    exact List.forall_mem_cons.mpr ⟨h, ih (h.cancel id) (hb.cancel id)⟩
  | ask id next ih => exact List.forall_mem_cons.mpr ⟨h, ih _ h hb⟩
  | stop next ih =>
    refine List.forall_mem_cons.mpr ⟨h, ih ?_ hb.stop⟩
    rwa [h.stop]
  | share change next ih =>
    exact List.forall_mem_cons.mpr ⟨h, ih _ (h.congr rfl rfl)
      (hb.congr rfl rfl (fun _ => Iff.rfl) fun _ => Iff.rfl)⟩

/-- The states that a move goes through: the one that comes of it, and those in which a body that is
played finds the clockwork. -/
inductive Finds (program : κ → Body κ σ) (c : Clockwork κ σ) : Move κ → Clockwork κ σ → Prop where
  | step {m : Move κ} {d : Clockwork κ σ} (h : c.step program m = some d) : Finds program c m d
  | pick {t : Task κ} {rest : Schedule κ} {d : Clockwork κ σ}
    (h : c.schedule.startNext = (some t, rest))
    (hd : d ∈ stages t.id (program t.job) ({ c with schedule := rest }.log (.started t.id))) :
    Finds program c .pick d
  | wake {task : Nat} {s : Sleeper κ σ} {d : Clockwork κ σ} (h : c.asleep.lookup task = some s)
    (hdue : s.due ≤ c.now)
    (hd : d ∈ stages task s.rest { c with asleep := c.asleep.filter (·.1 != task) }) :
    Finds program c (.wake task) d

namespace Queued

/-- A task that has waited begins its body. -/
theorem bodies_start (h : Queued c) (hb : Bodies none c) {t : Task κ} {rest : Schedule κ}
    (hn : c.schedule.startNext = (some t, rest)) :
    Bodies (some t.id) ({ c with schedule := rest }.log (.started t.id)) := by
  have hno : ¬Happened c.trace (.started t.id) := not_started_of_awaiting (h.startNext_some hn).1
  exact hb.start hno fun he => hno (h.inTurn.ended he)

theorem played_pick (h : Queued c) (hb : Bodies none c) {t : Task κ} {rest : Schedule κ}
    (hn : c.schedule.startNext = (some t, rest)) :
    ∀ d ∈ stages t.id (program t.job) ({ c with schedule := rest }.log (.started t.id)), Queued d :=
  (h.startNext_some hn).2.played (h.bodies_start hb hn) _

theorem played_wake (h : Queued c) (hb : Bodies none c) {s : Sleeper κ σ}
    (hs : c.asleep.lookup task = some s) :
    ∀ d ∈ stages task s.rest { c with asleep := c.asleep.filter (·.1 != task) }, Queued d := by
  have hq : Queued { c with asleep := c.asleep.filter (·.1 != task) } := h.congr rfl rfl
  exact hq.played (hb.wake (List.mem_map.mpr ⟨_, lookup_mem hs, rfl⟩)) s.rest

theorem pick (h : Queued c) (hb : Bodies none c) :
    Queued (c.pick program).2 ∧ Bodies none (c.pick program).2 := by
  unfold Clockwork.pick
  split
  · rename_i rest hn
    exact ⟨h.startNext_none hn, hb.congr rfl rfl (fun _ => Iff.rfl) fun _ => Iff.rfl⟩
  · rename_i t rest hn
    exact ⟨h.played_pick hb hn _ (play_mem_stages _), (h.bodies_start hb hn).play _⟩

theorem step (h : Queued c) (hb : Bodies none c) {m : Move κ} (hm : c.step program m = some c') :
    Queued c' ∧ Bodies none c' := by
  cases m with
  | schedule delay job =>
    cases hm
    exact ⟨h.add delay job, hb.add delay job⟩
  | cancel task =>
    cases hm
    exact ⟨h.cancel task, hb.cancel task⟩
  | stop =>
    cases hm
    rw [h.stop]
    exact ⟨h, hb⟩
  | pick =>
    rw [Clockwork.step, h.byHand] at hm
    cases hm
    exact h.pick hb
  | poll task =>
    rw [Clockwork.step, h.byHand] at hm
    cases hm
  | wake task =>
    obtain ⟨s, hs, -, rfl⟩ := wake?_eq_some.mp hm
    exact ⟨h.played_wake hb hs _ (play_mem_stages _),
      (hb.wake (List.mem_map.mpr ⟨_, lookup_mem hs, rfl⟩)).play _⟩
  | elapse t =>
    obtain ⟨ht, rfl⟩ := step_elapse.mp hm
    exact ⟨h.congr rfl rfl, hb.elapse ht.2⟩

theorem run (h : Queued c) (hb : Bodies none c) {ms : List (Move κ)}
    (hm : c.run? program ms = some c') : Queued c' ∧ Bodies none c' :=
  run?_keeps (P := fun v => Queued v ∧ Bodies none v) (fun _ _ _ h => h.1.step h.2) ⟨h, hb⟩ hm

theorem finds (h : Queued c) (hb : Bodies none c) {m : Move κ} (hd : Finds program c m d) :
    Queued d := by
  cases hd with
  | step hm => exact (h.step hb hm).1
  | pick hn hd => exact h.played_pick hb hn d hd
  | wake hs _ hd => exact h.played_wake hb hs d hd

end Queued

/-! ## Taking turns -/

/-- Nobody starts another task than the one that is asked for. -/
theorem begun_play (b : Body κ σ) : begun (play task b c).trace = begun c.trace := by
  have hlog : ∀ {c : Clockwork κ σ} {k : Tick}, k.begins? = none →
      begun (c.log k).trace = begun c.trace := fun hk => by
    rw [log, begun_cons, hk, Option.toList_none, List.append_nil]
  induction b generalizing c with
  | done => exact hlog rfl
  | sleep => rfl
  | schedule delay job next ih => exact (ih _).trans (hlog rfl)
  | cancel id next ih =>
    refine ih.trans ?_
    unfold Clockwork.cancel
    split
    · exact hlog rfl
    · rfl
  | ask id next ih => exact ih _
  | stop next ih =>
    refine ih.trans ?_
    unfold Clockwork.stop
    split
    · rfl
    · exact hlog rfl
  | share change next ih => exact ih _

theorem Queued.pick_fst (h : Queued c) :
    (c.pick program).1 = ((awaiting c.trace).map Prod.fst).head? := by
  have hfst : (c.pick program).1 = c.schedule.startNext.1.map Task.id := by
    unfold Clockwork.pick
    split <;> rename_i hn <;> rw [hn] <;> rfl
  rw [hfst, Schedule.startNext_fst, ← h.live, List.map_map, List.head?_map]
  rfl

theorem begun_pick :
    begun (c.pick program).2.trace = begun c.trace ++ (c.pick program).1.toList := by
  unfold pick
  split
  · exact (List.append_nil _).symm
  · exact (begun_play _).trans begun_cons

/-- Whoever has begun a body is told of its end once it has ended. -/
theorem Bodies.answer?_eq (hb : Bodies none c) (hs : Happened c.trace (.started id)) :
    c.answer? (some id) = some true ↔ Happened c.trace (.ended id) := by
  have hiff : c.answer? (some id) = some true ↔ c.asleep.lookup id = none := by
    rw [← Option.isNone_iff_eq_none, answer?]
    cases (c.asleep.lookup id).isNone <;> decide
  rw [hiff]
  refine ⟨fun hl => (hb.lookup hs).resolve_right fun ⟨s, hl', _⟩ => ?_, fun he => ?_⟩
  · cases hl.symm.trans hl'
  · cases hl : c.asleep.lookup id with
    | none => rfl
    | some s => exact absurd he (hb.asleep _ (lookup_mem hl)).2.2.1

theorem answer?_eq_false {asked : Option Nat} : c.answer? asked = some false ↔ asked = none := by
  cases asked with
  | none => exact iff_of_true rfl rfl
  | some id => simp [answer?]

/-- Who has started is out of reach. -/
theorem Queued.cancel_started (h : Queued c) (hs : Happened c.trace (.started id)) :
    ∃ ids, c.cancel id =
      { c with schedule := { c.schedule with cancelled := ids } }.log (.cancelled id) ∧
        (c.cancel id).schedule.live = c.schedule.live := by
  have hid := h.inTurn.mem_announced (h.inTurn.inOrder.subset (mem_begun.mpr hs))
  have hcancel : c.cancel id = { c with schedule := c.schedule.cancel id }.log (.cancelled id) :=
    if_pos (h.issued ▸ hid)
  have heq : c.schedule.cancel id =
      { c.schedule with cancelled := (c.schedule.cancel id).cancelled } := by
    unfold Schedule.cancel
    split <;> rfl
  refine ⟨(c.schedule.cancel id).cancelled, heq ▸ hcancel, ?_⟩
  rw [hcancel]
  refine (c.schedule.live_cancel id).trans (List.filter_eq_self.mpr fun t ht => ?_)
  have hw : (t.id, t.delay) ∈ awaiting c.trace := h.live ▸ List.mem_map_of_mem ht
  have hne : t.id ≠ id := fun e => not_started_of_awaiting hw (e ▸ hs)
  simpa using hne

/-- What can be told of a queue of tasks. -/
structure TakesTurns (program : κ → Body κ σ) (c : Clockwork κ σ) : Prop where
  /-- What is asked of it is written down and done. -/
  obeys : Obeys program c
  /-- The pending delays are those of the tasks that were scheduled and neither cancelled nor
  started, in the order in which they were scheduled. -/
  delays : c.schedule.delays = (awaiting c.trace).map Prod.snd
  /-- The total counts the tasks that were scheduled, and they are numbered in that order. -/
  issued : c.schedule.issued = (announced c.trace).length
  numbers : (announced c.trace).map Prod.fst = List.range' 1 c.schedule.issued
  /-- Whoever asks for the oldest task is given the first of those that wait, and it starts. -/
  picks : (c.pick program).1 = ((awaiting c.trace).map Prod.fst).head?
  starts : begun (c.pick program).2.trace = begun c.trace ++ (c.pick program).1.toList
  /-- Who asks is told that there was none exactly if no task waits then. -/
  refused : ∀ d : Clockwork κ σ, d.answer? (c.pick program).1 = some false ↔ awaiting c.trace = []
  /-- A task starts once at most. -/
  once : ∀ id, (begun c.trace).count id ≤ 1
  /-- Tasks start in the order in which they were scheduled. -/
  inOrder : (begun c.trace).Sublist ((announced c.trace).map Prod.fst)
  /-- A task that was cancelled before it started never starts. -/
  never : ∀ e earlier id, e :: earlier <:+ c.trace → e.2 = .cancelled id →
    Happened c.trace (.started id) → Happened earlier (.started id)
  /-- Cancelling a task that has started is noted, and changes nothing else. -/
  deaf : ∀ id, Happened c.trace (.started id) → ∃ ids, c.cancel id =
    { c with schedule := { c.schedule with cancelled := ids } }.log (.cancelled id) ∧
      (c.cancel id).schedule.live = c.schedule.live

theorem Queued.takesTurns (h : Queued c) : TakesTurns program c where
  obeys := Clockwork.obeys h.numbered
  delays := by
    rw [← h.live, List.map_map]
    rfl
  issued := h.issued
  numbers := by
    rw [h.issued]
    exact h.inTurn.numbers
  picks := h.pick_fst
  starts := begun_pick
  refused d := by
    rw [answer?_eq_false, h.pick_fst, List.head?_eq_none_iff, List.map_eq_nil_iff]
  once := h.inTurn.once
  inOrder := h.inTurn.inOrder
  never _ _ _ := h.inTurn.sooner
  deaf _ := h.cancel_started

/-- A clockwork by hand takes turns, wherever it gets to, and wherever a body finds it. -/
theorem takes_turns (program : κ → Body κ σ) (memory : σ) (ms : List (Move κ)) (c : Clockwork κ σ)
    (hc : (initial .manual memory).run? program ms = some c) :
    TakesTurns program c ∧ (∀ id, Happened c.trace (.started id) →
      (c.answer? (some id) = some true ↔ Happened c.trace (.ended id))) ∧
        ∀ m d, Finds program c m d → TakesTurns program d := by
  obtain ⟨h, hb⟩ := (queued_initial memory).run (bodies_initial .manual memory) hc
  exact ⟨h.takesTurns, fun id => hb.answer?_eq, fun m d hd => (h.finds hb hd).takesTurns⟩

/-- The first job works for five seconds; then it schedules another task, and cancels the third one and
the first. -/
def busyJob : Bool → Body Bool Nat
  | true => .sleep (.ofSeconds 5) <| .schedule (.ofSeconds 7) false fun _ =>
    .cancel 3 (.cancel 1 .done)
  | false => .done

/-- Two tasks are under way at once; one of them is cancelled too late, and another one in time. -/
def crossing : List (Move Bool) :=
  [.schedule (.ofSeconds 4) true, .schedule (.ofSeconds 3) true, .schedule (.ofSeconds 2) false,
    .schedule (.ofSeconds 1) false, .pick, .pick, .cancel 2, .cancel 4, .cancel 4, .elapse ⟨5000⟩,
    .wake 1]

/-- Only the task that was scheduled by the first one is left to start. -/
theorem crossing_takes_turns : ∃ c, (initial .manual 0).run? busyJob crossing = some c ∧
    TakesTurns busyJob c ∧ c.schedule.delays = [.ofSeconds 7] ∧ begun c.trace = [1, 2] ∧
      c.answer? (some 1) = some true ∧ c.answer? (some 2) = none :=
  ⟨_, rfl, (takes_turns busyJob 0 crossing _ rfl).1, rfl, rfl, rfl, rfl⟩

end Clockwork

end LeaseKeeper
