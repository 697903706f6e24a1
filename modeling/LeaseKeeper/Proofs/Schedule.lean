import LeaseKeeper.Schedule
import Mathlib.Data.List.Nodup

/-!
# What schedules keep

The numbers of a schedule are given out in order (`Schedule.Numbered`), so a new task is
never one that was cancelled before. With that, each operation is described by what it does
to the tasks that can still start: `live_add` appends one, `live_cancel?` strikes one out,
and a start (`Schedule.Starts`) takes one and leaves the others.
-/

namespace LeaseKeeper.Schedule

variable {τ : Type}

/-- Every number in use was given out, and no two waiting tasks share one. -/
structure Numbered (s : Schedule τ) : Prop where
  waiting : ∀ t ∈ s.waiting, t.id ≤ s.issued
  cancelled : ∀ id ∈ s.cancelled, id ≤ s.issued
  nodup : (s.waiting.map Task.id).Nodup

theorem numbered_empty (d : Discipline) : (empty d : Schedule τ).Numbered :=
  ⟨by simp [empty], by simp [empty], by simp [empty]⟩

theorem mem_live {s : Schedule τ} {t : Task τ} :
    t ∈ s.live ↔ t ∈ s.waiting ∧ s.isCancelled t.id = false := by
  simp [live]

theorem Numbered.live_le {s : Schedule τ} (hs : s.Numbered) {t : Task τ} (ht : t ∈ s.live) :
    t.id ≤ s.issued :=
  hs.waiting t (mem_live.mp ht).1

theorem Numbered.live_nodup {s : Schedule τ} (hs : s.Numbered) : (s.live.map Task.id).Nodup :=
  (List.filter_sublist.map Task.id).nodup hs.nodup

/-- Two live tasks of one number are the same task. -/
theorem Numbered.live_inj {s : Schedule τ} (hs : s.Numbered) {t u : Task τ} (ht : t ∈ s.live)
    (hu : u ∈ s.live) (h : t.id = u.id) : t = u :=
  List.inj_on_of_nodup_map hs.live_nodup ht hu h

/-- A stopped schedule starts nothing any more. -/
theorem live_of_stopped {s : Schedule τ} (hs : s.stopped = true) : s.live = [] := by
  simp [live, isCancelled, hs]

/-! ## Adding -/

/-- The task that the next addition makes. -/
def next (s : Schedule τ) (now : Instant) (delay : Span) (job : τ) : Task τ :=
  ⟨s.issued + 1, delay, now.plus delay, job⟩

theorem Numbered.add {s : Schedule τ} (hs : s.Numbered) (now : Instant) (delay : Span) (job : τ) :
    (s.add now delay job).2.Numbered := by
  refine ⟨fun t ht => ?_, fun id hid => Nat.le_succ_of_le (hs.cancelled id hid), ?_⟩
  · simp only [Schedule.add, List.mem_append, List.mem_singleton] at ht ⊢
    rcases ht with ht | rfl
    · exact Nat.le_succ_of_le (hs.waiting t ht)
    · exact Nat.le_refl _
  · simp only [Schedule.add, List.map_append, List.map_cons, List.map_nil]
    refine List.nodup_append.mpr ⟨hs.nodup, List.nodup_singleton _, fun a ha b hb => ?_⟩
    obtain ⟨t, ht, rfl⟩ := List.mem_map.mp ha
    have := hs.waiting t ht
    simp only [List.mem_singleton] at hb
    omega

/-- A new task joins the live ones at the end. -/
theorem Numbered.live_add {s : Schedule τ} (hs : s.Numbered) (hr : s.stopped = false) (now : Instant)
    (delay : Span) (job : τ) :
    (s.add now delay job).2.live = s.live ++ [s.next now delay job] := by
  have hnew : s.cancelled.contains (s.issued + 1) = false := by
    by_contra h
    simp only [Bool.not_eq_false, List.contains_iff_mem] at h
    exact absurd (hs.cancelled _ h) (by omega)
  simp only [live, isCancelled, Schedule.add, List.filter_append, hr, Bool.false_or]
  congr 1
  rw [List.filter_cons, hnew]
  rfl

/-! ## Cancelling -/

theorem Numbered.cancel {s : Schedule τ} (hs : s.Numbered) {id : Nat} (hid : id ≤ s.issued) :
    (s.cancel id).Numbered := by
  simp only [Schedule.cancel]
  split
  · exact hs
  · refine ⟨hs.waiting, fun j hj => ?_, hs.nodup⟩
    rcases List.mem_cons.mp hj with rfl | hj
    · exact hid
    · exact hs.cancelled j hj

theorem Numbered.cancel? {s : Schedule τ} (hs : s.Numbered) {slot : Option Nat}
    (hid : ∀ id ∈ slot, id ≤ s.issued) : (s.cancel? slot).Numbered := by
  cases slot with
  | none => exact hs
  | some id => exact hs.cancel (hid id rfl)

theorem live_cancel? (s : Schedule τ) (slot : Option Nat) :
    (s.cancel? slot).live = s.live.filter fun t => some t.id != slot := by
  cases slot with
  | none => exact (List.filter_eq_self.mpr fun _ _ => rfl).symm
  | some id =>
    rw [Schedule.cancel?, live_cancel]
    exact List.filter_congr fun t _ => by simp [bne]

/-- Whoever cancels a task changes nothing about another one. -/
theorem isCancelled_cancel (s : Schedule τ) (task id : Nat) :
    (s.cancel task).isCancelled id = (s.isCancelled id || task == id) := by
  unfold Schedule.cancel
  split
  · rename_i hc
    by_cases e : task = id
    · rw [e, List.contains_iff_mem] at hc
      simp [isCancelled, hc]
    · simp [e]
  · simp only [isCancelled, List.contains_cons, Bool.beq_comm (a := id), Bool.or_assoc,
      Bool.or_comm (task == id)]

theorem waiting_cancel (s : Schedule τ) (task : Nat) : (s.cancel task).waiting = s.waiting := by
  unfold Schedule.cancel
  split <;> rfl

theorem discipline_cancel (s : Schedule τ) (task : Nat) :
    (s.cancel task).discipline = s.discipline := by
  unfold Schedule.cancel
  split <;> rfl

theorem issued_cancel (s : Schedule τ) (task : Nat) : (s.cancel task).issued = s.issued := by
  unfold Schedule.cancel
  split <;> rfl

@[simp] theorem discipline_cancel? (s : Schedule τ) (slot : Option Nat) :
    (s.cancel? slot).discipline = s.discipline := by
  cases slot with
  | none => rfl
  | some id => exact s.discipline_cancel id

@[simp] theorem issued_cancel? (s : Schedule τ) (slot : Option Nat) :
    (s.cancel? slot).issued = s.issued := by
  cases slot with
  | none => rfl
  | some id => exact s.issued_cancel id

@[simp] theorem stopped_cancel? (s : Schedule τ) (slot : Option Nat) :
    (s.cancel? slot).stopped = s.stopped := by
  cases slot with
  | none => rfl
  | some id => simp only [Schedule.cancel?, Schedule.cancel]; split <;> rfl

/-! ## Stopping -/

/-- Only the clock can be stopped. -/
theorem stop_cases (s : Schedule τ) :
    s.stop = s ∨ s.stop = { s with stopped := true } := by
  unfold stop
  split
  · exact .inl rfl
  · exact .inr rfl

theorem stop_of_timed {s : Schedule τ} (h : s.discipline = .timed) :
    s.stop = { s with stopped := true } := by
  unfold Schedule.stop
  rw [h]

theorem Numbered.stop {s : Schedule τ} (hs : s.Numbered) : s.stop.Numbered := by
  rcases s.stop_cases with h | h <;> rw [h]
  · exact hs
  · exact ⟨hs.waiting, hs.cancelled, hs.nodup⟩

/-! ## Starting -/

/-- `t` is taken from `s`, and `s'` is what is left. -/
structure Starts (s : Schedule τ) (t : Task τ) (s' : Schedule τ) : Prop where
  mem : t ∈ s.live
  live : s'.live = s.live.filter fun u => u.id != t.id
  numbered : s'.Numbered
  issued : s'.issued = s.issued
  stopped : s'.stopped = s.stopped

/-- Keeping only some of the live tasks leaves just these live. -/
theorem live_of_waiting {s : Schedule τ} {ts : List (Task τ)} (h : ts.Sublist s.live) :
    ({ s with waiting := ts } : Schedule τ).live = ts := by
  simp only [Schedule.live, List.filter_eq_self]
  intro t ht
  simpa [isCancelled] using (mem_live.mp (h.subset ht)).2

theorem Numbered.of_waiting {s : Schedule τ} (hs : s.Numbered) {ts : List (Task τ)}
    (h : ts.Sublist s.live) : ({ s with waiting := ts } : Schedule τ).Numbered :=
  ⟨fun _ ht => hs.live_le (h.subset ht), hs.cancelled, (h.map Task.id).nodup hs.live_nodup⟩

theorem starts_of_startDue {s s' : Schedule τ} {now : Instant} {id : Nat} {t : Task τ}
    (hs : s.Numbered) (h : s.startDue now id = (some t, s')) :
    s.Starts t s' ∧ t.id = id ∧ t.due ≤ now := by
  simp only [startDue] at h
  split at h <;> simp only [Prod.mk.injEq, reduceCtorEq, false_and, Option.some.injEq] at h
  rename_i u hu
  obtain ⟨rfl, rfl⟩ := h
  have hp := List.find?_some hu
  simp only [Bool.and_eq_true, beq_iff_eq, decide_eq_true_eq] at hp
  obtain ⟨rfl, hdue⟩ := hp
  have hsub : (s.live.filter fun v => v.id != u.id).Sublist s.live := List.filter_sublist
  exact ⟨⟨List.mem_of_find?_eq_some hu, live_of_waiting hsub, hs.of_waiting hsub, rfl, rfl⟩, rfl, hdue⟩

theorem starts_of_startNext {s s' : Schedule τ} {t : Task τ} (hs : s.Numbered)
    (h : s.startNext = (some t, s')) : s.Starts t s' ∧ s.live = t :: s'.live := by
  simp only [startNext] at h
  split at h <;> simp only [Prod.mk.injEq, reduceCtorEq, false_and, Option.some.injEq] at h
  rename_i u rest hu
  obtain ⟨rfl, rfl⟩ := h
  have hsub : rest.Sublist s.live := hu ▸ List.sublist_cons_self ..
  have hnd := hs.live_nodup
  rw [hu, List.map_cons, List.nodup_cons] at hnd
  have hne : ∀ v ∈ rest, (v.id != u.id) = true := fun v hv => by
    simp only [bne_iff_ne, ne_eq]
    exact fun e => hnd.1 (e ▸ List.mem_map_of_mem hv)
  refine ⟨⟨hu ▸ List.mem_cons_self .., ?_, hs.of_waiting hsub, rfl, rfl⟩, ?_⟩
  · rw [live_of_waiting hsub, hu, List.filter_cons, List.filter_eq_self.mpr hne]
    simp
  · rw [live_of_waiting hsub, hu]

theorem startNext_eq_none {s s' : Schedule τ} (h : s.startNext = (none, s')) :
    s.live = [] ∧ s' = { s with waiting := [] } := by
  unfold startNext at h
  split at h
  · rename_i hl
    exact ⟨hl, (congrArg Prod.snd h).symm⟩
  · cases h

/-- A task can be started once it is due. -/
theorem Numbered.startDue {s : Schedule τ} {now : Instant} {t : Task τ} (hs : s.Numbered)
    (ht : t ∈ s.live) (hd : t.due ≤ now) : ∃ s', s.startDue now t.id = (some t, s') := by
  have hfind : s.live.find? (fun u => u.id == t.id && decide (u.due ≤ now)) = some t := by
    cases hu : s.live.find? (fun u => u.id == t.id && decide (u.due ≤ now)) with
    | none =>
      have := List.find?_eq_none.mp hu t ht
      simp [hd] at this
    | some u =>
      have hp := List.find?_some hu
      simp only [Bool.and_eq_true, beq_iff_eq] at hp
      rw [hs.live_inj (List.mem_of_find?_eq_some hu) ht hp.1]
  refine ⟨{ s with waiting := s.live.filter fun u => u.id != t.id }, ?_⟩
  unfold Schedule.startDue
  rw [hfind]

theorem discipline_startDue {s s' : Schedule τ} {now : Instant} {id : Nat} {t : Option (Task τ)}
    (h : s.startDue now id = (t, s')) : s'.discipline = s.discipline := by
  unfold Schedule.startDue at h
  split at h <;> cases h <;> rfl

theorem isCancelled_startDue {s s' : Schedule τ} {now : Instant} {id : Nat} {t : Option (Task τ)}
    (h : s.startDue now id = (t, s')) : s'.isCancelled = s.isCancelled := by
  unfold Schedule.startDue at h
  split at h <;> cases h <;> rfl

theorem discipline_startNext {s s' : Schedule τ} {t : Option (Task τ)}
    (h : s.startNext = (t, s')) : s'.discipline = s.discipline := by
  unfold Schedule.startNext at h
  split at h <;> cases h <;> rfl

/-- A started task is live no more. -/
theorem Starts.not_mem {s s' : Schedule τ} {t : Task τ} (h : s.Starts t s') {u : Task τ}
    (hu : u ∈ s'.live) : u ∈ s.live ∧ u.id ≠ t.id := by
  rw [h.live, List.mem_filter] at hu
  exact ⟨hu.1, by simpa using hu.2⟩

end LeaseKeeper.Schedule
