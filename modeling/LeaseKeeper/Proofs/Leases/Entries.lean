import LeaseKeeper.Leases.Step
import LeaseKeeper.Proofs.Operations
import LeaseKeeper.Proofs.Schedule

/-!
# The entries of a lease engine and their tasks

How an entry, seen without the number of its task (`World.face?`), is changed by the parts
that steps are made of, and what has been published about it (`World.changes`). `Booked`
says that every task that can still start stands in the slot of its own entry; cancelling and
replacing a task keep that, and touch the tasks of no other entry.
-/

namespace LeaseKeeper.Leases

/-- The entry without the number of its task. -/
def Entry.bare (e : Entry) : Entry := { e with slot := none }

namespace World

/-- The entry of a handle without the number of its task. -/
def face? (w : World) (h : Handle) : Option Entry := (w.entry? h).map Entry.bare

/-- What has been published about the secret of that handle, in order. -/
def changes (w : World) (h : Handle) : List LeaseChange :=
  w.history.reverse.filterMap fun
    | .published event => if event.handle = h then some event.change else none
    | _ => none

/-- The tasks of an entry that can still start. -/
def tasks (w : World) (h : Handle) : List (Task Job) :=
  w.schedule.live.filter fun t => t.job.handle = h

theorem mem_tasks {w : World} {h : Handle} {t : Task Job} :
    t ∈ w.tasks h ↔ t ∈ w.schedule.live ∧ t.job.handle = h := by
  simp [tasks]

theorem find_handle {w : World} {h : Handle} {e : Entry} (he : w.entry? h = some e) :
    e.handle = h := by
  simpa using List.find?_some he

theorem face?_some {w : World} {h : Handle} {e : Entry} (he : w.entry? h = some e) :
    w.face? h = some e.bare := by
  simp [face?, he]

theorem face?_none {w : World} {h : Handle} : w.face? h = none ↔ w.entry? h = none := by
  simp [face?]

/-! ## Changing one entry -/

section modify

variable (w : World) (h : Handle) (f : Entry → Entry)

theorem find_modify (hf : ∀ e, (f e).handle = e.handle) (k : Handle) :
    World.entry? (w.modify h f) k = if k = h then (w.entry? k).map f else w.entry? k := by
  unfold modify entry?
  induction w.entries with
  | nil => simp
  | cons e es ih =>
    have hk : ((if e.handle = h then f e else e).handle == k) = (e.handle == k) := by
      split <;> simp [hf]
    rw [List.map_cons, List.find?_cons, hk, List.find?_cons]
    by_cases he : e.handle = k
    · simp only [he, beq_self_eq_true]
      by_cases hkh : k = h <;> simp [hkh]
    · simp only [show (e.handle == k) = false by simpa using he]
      exact ih

theorem face?_modify (hf : ∀ e, (f e).handle = e.handle) (hb : ∀ e, (f e).bare = f e.bare)
    (k : Handle) :
    (w.modify h f).face? k = if k = h then (w.face? k).map f else w.face? k := by
  unfold face?
  rw [find_modify w h f hf]
  split
  · cases w.entry? k <;> simp [hb]
  · rfl

/-- A change of the task's number is not seen. -/
theorem face?_modify_slot (hf : ∀ e, (f e).handle = e.handle) (hb : ∀ e, (f e).bare = e.bare)
    (k : Handle) : (w.modify h f).face? k = w.face? k := by
  unfold face?
  rw [find_modify w h f hf]
  split
  · cases w.entry? k <;> simp [hb]
  · rfl

end modify

theorem find_forget (w : World) (h k : Handle) :
    World.entry? (w.forget h) k = if k = h then none else w.entry? k := by
  simp only [forget, entry?, List.find?_filter]
  by_cases hk : k = h
  · rw [if_pos hk, List.find?_eq_none]
    rintro e - he
    simp [hk] at he
  · rw [if_neg hk]
    congr 1
    funext e
    by_cases he : e.handle = k <;> simp [he, hk]

/-- A new entry is put last, and the next handle is given out. -/
abbrev enlist (w : World) (e : Entry) : World :=
  { w with nextHandle := w.nextHandle + 1, entries := w.entries ++ [e] }

theorem find_enlist (w : World) (e : Entry) (k : Handle) :
    World.entry? (w.enlist e) k = if e.handle = k then (w.entry? k).or (some e) else w.entry? k := by
  simp only [List.find?_append, List.find?_singleton, beq_iff_eq, entry?]
  split
  · rfl
  · exact Option.or_none

@[simp] theorem face?_cancelTask (w : World) (h k : Handle) :
    (w.cancelTask h).face? k = w.face? k := by
  unfold cancelTask
  split
  · rfl
  · exact face?_modify_slot _ h (fun e => { e with slot := none }) (fun _ => rfl) (fun _ => rfl) k

@[simp] theorem face?_replaceTask (w : World) (h : Handle) (delay : Span) (s : Snapshot) (a : Action)
    (k : Handle) : (w.replaceTask h delay s a).face? k = w.face? k := by
  unfold replaceTask
  split
  · rfl
  · exact face?_modify_slot _ h (fun e => { e with slot := some (w.schedule.issued + 1) })
      (fun _ => rfl) (fun _ => rfl) k

/-! ## Cancelling -/

/-- Cancelling changes nothing but the tasks and the slots. -/
theorem cancelTask_eq (w : World) (h : Handle) : ∃ s es, w.cancelTask h =
    { w with schedule := s, entries := es } ∧ s.stopped = w.schedule.stopped := by
  unfold cancelTask
  split
  · exact ⟨_, _, rfl, rfl⟩
  · exact ⟨_, _, rfl, Schedule.stopped_cancel? ..⟩

theorem foldl_cancelTask_eq (w : World) (hs : List Handle) : ∃ s es, hs.foldl cancelTask w =
    { w with schedule := s, entries := es } ∧ s.stopped = w.schedule.stopped := by
  induction hs generalizing w with
  | nil => exact ⟨_, _, rfl, rfl⟩
  | cons h hs ih =>
    obtain ⟨s, es, he, hs⟩ := w.cancelTask_eq h
    obtain ⟨s', es', he', hs'⟩ := ih (w.cancelTask h)
    rw [he] at he' hs'
    rw [List.foldl_cons, he]
    exact ⟨s', es', he', hs'.trans hs⟩

theorem reap_eq (w : World) : ∃ s es, w.reap = { w with schedule := s, entries := es } ∧
    s.stopped = w.schedule.stopped := by
  unfold reap
  split
  · exact ⟨_, _, rfl, rfl⟩
  · exact w.foldl_cancelTask_eq w.handles

@[simp] theorem isAlive_reap (w : World) : w.reap.isAlive = w.isAlive := by
  obtain ⟨_, _, he, -⟩ := w.reap_eq
  rw [he]
  rfl

/-- An engine that somebody holds keeps its tasks. -/
theorem reap_of_isAlive {w : World} (ha : w.reap.isAlive = true) : w.reap = w := by
  rw [isAlive_reap] at ha
  exact if_pos ha

/-! ## Where operations stand -/

theorem point?_setPoint (w : World) (op q : Nat) (p : Point) :
    (w.setPoint op p).point? q = if q = op then some p else w.point? q :=
  lookup_move ..

/-! ## What is published -/

theorem changes_publish (w : World) (e : Entry) (c : LeaseChange) (k : Handle) :
    (w.publish e c).changes k = w.changes k ++ if e.handle = k then [c] else [] := by
  simp only [changes, publish, note, List.reverse_cons, List.filterMap_append, List.filterMap_cons,
    List.filterMap_nil]
  by_cases he : e.handle = k <;> simp [he]

/-! ## Tasks and slots -/

/-- Every task that can still start stands in the slot of its entry, and no slot is shared. -/
structure Booked (w : World) : Prop where
  numbered : w.schedule.Numbered
  slot_le : ∀ h e id, w.entry? h = some e → e.slot = some id → id ≤ w.schedule.issued
  slot_live : ∀ t ∈ w.schedule.live, ∃ e, w.entry? t.job.handle = some e ∧ e.slot = some t.id
  apart : ∀ h k e f id, w.entry? h = some e → w.entry? k = some f → e.slot = some id →
    f.slot = some id → h = k

theorem booked_initial (settings : Settings) (d : Discipline) (draws : Nat → Nat) :
    (initial settings d draws).Booked :=
  ⟨Schedule.numbered_empty d, fun _ _ _ h => (by cases h), by simp [initial],
    fun _ _ _ _ _ h => (by cases h)⟩

/-- An entry has no two tasks that can still start. -/
theorem Booked.tasks_eq {w : World} (hb : w.Booked) {h : Handle} {t : Task Job}
    (ht : t ∈ w.tasks h) : w.tasks h = [t] := by
  have hnd : ((w.tasks h).map Task.id).Nodup :=
    (List.filter_sublist.map Task.id).nodup hb.numbered.live_nodup
  have hall : ∀ u ∈ w.tasks h, u.id = t.id := fun u hu => by
    obtain ⟨hul, huh⟩ := mem_tasks.mp hu
    obtain ⟨htl, hth⟩ := mem_tasks.mp ht
    obtain ⟨e, he, hes⟩ := hb.slot_live t htl
    obtain ⟨f, hf, hfs⟩ := hb.slot_live u hul
    rw [hth] at he
    rw [huh] at hf
    cases he.symm.trans hf
    exact Option.some.inj (hfs.symm.trans hes)
  generalize w.tasks h = ts at ht hnd hall
  match ts with
  | [] => cases ht
  | [u] => rw [List.mem_singleton.mp ht]
  | u :: v :: ts =>
    have huv : u.id = v.id := (hall u (by simp)).trans (hall v (by simp)).symm
    simp [huv] at hnd

/-- A change that leaves slots and schedule alone. -/
theorem Booked.same {w u : World} (hb : w.Booked) (hs : u.schedule = w.schedule)
    (he : ∀ k, (u.entry? k).map Entry.slot = (w.entry? k).map Entry.slot) : u.Booked := by
  have hback : ∀ {k e}, u.entry? k = some e → ∃ f, w.entry? k = some f ∧ f.slot = e.slot :=
    fun {k e} h => by
      have hk := he k
      rw [h, Option.map_some] at hk
      obtain ⟨f, hf, hs⟩ := Option.map_eq_some_iff.mp hk.symm
      exact ⟨f, hf, hs⟩
  refine ⟨hs ▸ hb.numbered, fun h e id hk hid => ?_, fun t ht => ?_, fun h k e f id hh hk hid hid' => ?_⟩
  · obtain ⟨f, hf, hfs⟩ := hback hk
    exact hs ▸ hb.slot_le h f id hf (hfs.trans hid)
  · obtain ⟨e, hk, hid⟩ := hb.slot_live t (hs ▸ ht)
    have hk' := he t.job.handle
    rw [hk, Option.map_some] at hk'
    obtain ⟨f, hf, hfs⟩ := Option.map_eq_some_iff.mp hk'
    exact ⟨f, hf, hfs.trans hid⟩
  · obtain ⟨e', he', hes⟩ := hback hh
    obtain ⟨f', hf', hfs⟩ := hback hk
    exact hb.apart h k e' f' id he' hf' (hes.trans hid) (hfs.trans hid')

theorem Booked.modify {w : World} (hb : w.Booked) (h : Handle) {f : Entry → Entry}
    (hf : ∀ e, (f e).handle = e.handle) (hs : ∀ e, (f e).slot = e.slot) : (w.modify h f).Booked := by
  refine hb.same rfl fun k => ?_
  rw [find_modify w h f hf]
  split
  · cases w.entry? k <;> simp [hs]
  · rfl

/-- A new entry has no task yet. -/
theorem Booked.enlist {w : World} (hb : w.Booked) {e : Entry} (hn : w.entry? e.handle = none)
    (hs : e.slot = none) : (w.enlist e).Booked := by
  have hold : ∀ {k f id}, World.entry? (w.enlist e) k = some f → f.slot = some id →
      w.entry? k = some f := fun {k f id} hf hid => by
    rw [find_enlist] at hf
    split at hf
    · rename_i hk
      rw [← hk, hn, Option.none_or, Option.some.injEq] at hf
      rw [← hf, hs] at hid
      cases hid
    · exact hf
  refine ⟨hb.numbered, fun k f id hf hid => hb.slot_le k f id (hold hf hid) hid, fun t ht => ?_,
    fun k l f g id hf hg hid hid' => hb.apart k l f g id (hold hf hid) (hold hg hid') hid hid'⟩
  obtain ⟨f, hf, hid⟩ := hb.slot_live t ht
  refine ⟨f, ?_, hid⟩
  rw [find_enlist, hf, Option.some_or, ite_self]

/-- An entry without a task is forgotten. -/
theorem Booked.forget {w : World} (hb : w.Booked) {h : Handle}
    (hn : ∀ t ∈ w.schedule.live, t.job.handle ≠ h) : (w.forget h).Booked := by
  have hold : ∀ {k e}, World.entry? (w.forget h) k = some e → w.entry? k = some e := fun {k e} he => by
    rw [find_forget] at he
    split at he
    · cases he
    · exact he
  refine ⟨hb.numbered, fun k e id he => hb.slot_le k e id (hold he), fun t ht => ?_,
    fun k l e f id he hf => hb.apart k l e f id (hold he) (hold hf)⟩
  obtain ⟨e, he, hs⟩ := hb.slot_live t ht
  exact ⟨e, by rw [find_forget, if_neg (hn t ht)]; exact he, hs⟩

/-- A started task leaves the others as they are. -/
theorem Booked.starts {w : World} (hb : w.Booked) {t : Task Job} {s : Schedule Job}
    (hs : w.schedule.Starts t s) : ({ w with schedule := s } : World).Booked :=
  ⟨hs.numbered, fun h e id he hid => hs.issued ▸ hb.slot_le h e id he hid,
    fun u hu => hb.slot_live u (hs.not_mem hu).1, hb.apart⟩

/-- A stopped schedule has no task left that could start. -/
theorem Booked.stop {w : World} (hb : w.Booked) :
    w.stop.Booked ∧ (∀ t ∈ w.stop.schedule.live, t ∈ w.schedule.live) ∧
      (w.stop.schedule.stopped = false → w.stop.schedule = w.schedule) := by
  unfold World.stop
  rcases w.schedule.stop_cases with h | h <;> rw [h]
  · exact ⟨hb, fun _ => id, fun _ => rfl⟩
  · have hl : ({ w.schedule with stopped := true } : Schedule Job).live = [] :=
      Schedule.live_of_stopped rfl
    refine ⟨⟨h ▸ hb.numbered.stop, hb.slot_le, fun t ht => ?_, hb.apart⟩, fun t ht => ?_,
      fun hr => (by cases hr)⟩
    · rw [hl] at ht
      cases ht
    · rw [hl] at ht
      cases ht

/-- Cancelling the task of an entry takes just its tasks away. -/
theorem Booked.cancelTask {w : World} (hb : w.Booked) (h : Handle) :
    (w.cancelTask h).Booked ∧
      ∀ t, t ∈ (w.cancelTask h).schedule.live ↔ t ∈ w.schedule.live ∧ t.job.handle ≠ h := by
  unfold World.cancelTask
  split
  · rename_i hn
    refine ⟨hb, fun t => ⟨fun ht => ⟨ht, ?_⟩, And.left⟩⟩
    rintro rfl
    obtain ⟨e, he, -⟩ := hb.slot_live t ht
    cases hn.symm.trans he
  · rename_i e he
    have hlive : ∀ t, t ∈ (w.schedule.cancel? e.slot).live ↔
        t ∈ w.schedule.live ∧ t.job.handle ≠ h := fun t => by
      rw [Schedule.live_cancel?, List.mem_filter, bne_iff_ne]
      refine and_congr_right fun ht => not_congr ?_
      obtain ⟨f, hf, hid⟩ := hb.slot_live t ht
      constructor
      · exact fun hs => hb.apart _ _ f e t.id hf he hid hs.symm
      · rintro rfl
        cases hf.symm.trans he
        exact hid.symm
    have hentry : ∀ k, World.entry? (({ w with schedule := w.schedule.cancel? e.slot } : World).modify h
        fun e => { e with slot := none }) k =
          if k = h then (w.entry? k).map fun e => { e with slot := none } else w.entry? k :=
      find_modify _ h _ fun _ => rfl
    refine ⟨⟨hb.numbered.cancel? fun id hid => hb.slot_le h e id he hid, fun k f id hk hid => ?_,
      fun t ht => ?_, fun k l f g id hk hl hf hg => ?_⟩, hlive⟩
    · rw [hentry] at hk
      split at hk
      · obtain ⟨g, -, rfl⟩ := Option.map_eq_some_iff.mp hk
        cases hid
      · show id ≤ (w.schedule.cancel? e.slot).issued
        rw [Schedule.issued_cancel?]
        exact hb.slot_le k f id hk hid
    · obtain ⟨ht, hne⟩ := (hlive t).mp ht
      obtain ⟨f, hf, hid⟩ := hb.slot_live t ht
      exact ⟨f, by rw [hentry, if_neg hne]; exact hf, hid⟩
    · rw [hentry] at hk hl
      split at hk
      · obtain ⟨_, -, rfl⟩ := Option.map_eq_some_iff.mp hk
        cases hf
      split at hl
      · obtain ⟨_, -, rfl⟩ := Option.map_eq_some_iff.mp hl
        cases hg
      exact hb.apart k l f g id hk hl hf hg

/-- The tasks of an engine that nobody holds any more are cancelled. -/
theorem Booked.reap {w : World} (hb : w.Booked) :
    w.reap.Booked ∧ (∀ t ∈ w.reap.schedule.live, t ∈ w.schedule.live) ∧
      ∀ k, w.reap.face? k = w.face? k := by
  have hall : ∀ (hs : List Handle) {u : World}, u.Booked → (hs.foldl World.cancelTask u).Booked ∧
      (∀ t ∈ (hs.foldl World.cancelTask u).schedule.live, t ∈ u.schedule.live) ∧
      ∀ k, (hs.foldl World.cancelTask u).face? k = u.face? k := fun hs => by
    induction hs with
    | nil => exact fun hu => ⟨hu, fun _ => id, fun _ => rfl⟩
    | cons h hs ih =>
      intro u hu
      obtain ⟨hb', hl⟩ := hu.cancelTask h
      obtain ⟨hb'', hl', hf⟩ := ih hb'
      exact ⟨hb'', fun t ht => ((hl t).mp (hl' t ht)).1,
        fun k => (hf k).trans (face?_cancelTask u h k)⟩
  unfold World.reap
  split
  · exact ⟨hb, fun _ => id, fun _ => rfl⟩
  · exact hall w.handles hb

section replaces

variable {w : World} {h : Handle} {e : Entry}

theorem replaceTask_eq (he : w.entry? h = some e) (delay : Span) (s : Snapshot) (a : Action) :
    w.replaceTask h delay s a =
      ({ w with schedule := (w.schedule.add w.now delay ⟨h, s, a⟩).2.cancel? e.slot } : World).modify h
        fun e => { e with slot := some (w.schedule.issued + 1) } := by
  unfold World.replaceTask
  simp only [he]
  rfl

theorem entry?_replaceTask (he : w.entry? h = some e) (delay : Span) (s : Snapshot) (a : Action)
    (k : Handle) :
    World.entry? (w.replaceTask h delay s a) k =
      if k = h then (w.entry? k).map fun e => { e with slot := some (w.schedule.issued + 1) }
      else w.entry? k := by
  rw [replaceTask_eq he delay s a]
  exact find_modify _ h (fun e => { e with slot := some (w.schedule.issued + 1) }) (fun _ => rfl) k

/-- A scheduler that runs takes the new task on, and the tasks of the other entries stay. -/
theorem Booked.mem_live_replaceTask (hb : w.Booked) (he : w.entry? h = some e)
    (hr : w.schedule.stopped = false) (delay : Span) (s : Snapshot) (a : Action) (t : Task Job) :
    t ∈ (w.replaceTask h delay s a).schedule.live ↔
      (t ∈ w.schedule.live ∧ t.job.handle ≠ h) ∨ t = w.schedule.next w.now delay ⟨h, s, a⟩ := by
  rw [replaceTask_eq he delay s a]
  show t ∈ ((w.schedule.add w.now delay ⟨h, s, a⟩).2.cancel? e.slot).live ↔ _
  rw [Schedule.live_cancel?, hb.numbered.live_add hr, List.mem_filter, List.mem_append,
    List.mem_singleton, or_and_right, bne_iff_ne]
  refine or_congr (and_congr_right fun ht => not_congr ?_) (and_iff_left_of_imp fun ht hs => ?_)
  · obtain ⟨f, hf, hid⟩ := hb.slot_live t ht
    constructor
    · exact fun hs => hb.apart _ _ f e t.id hf he hid hs.symm
    · rintro rfl
      cases hf.symm.trans he
      exact hid.symm
  · -- The new number is above the one in the slot.
    subst ht
    exact absurd (hb.slot_le h e _ he hs.symm) (Nat.not_succ_le_self _)

theorem Booked.live_replaceTask (hb : w.Booked) (he : w.entry? h = some e) (delay : Span)
    (s : Snapshot) (a : Action) {t : Task Job}
    (ht : t ∈ (w.replaceTask h delay s a).schedule.live) :
    (t ∈ w.schedule.live ∧ t.job.handle ≠ h) ∨ t = w.schedule.next w.now delay ⟨h, s, a⟩ := by
  cases hr : w.schedule.stopped with
  | false => exact (hb.mem_live_replaceTask he hr delay s a t).mp ht
  | true =>
    rw [replaceTask_eq he delay s a] at ht
    change t ∈ ((w.schedule.add w.now delay ⟨h, s, a⟩).2.cancel? e.slot).live at ht
    rw [Schedule.live_of_stopped (by rw [Schedule.stopped_cancel?]; exact hr)] at ht
    cases ht

/-- Replacing the task of an entry leaves the tasks of the others, and of its own just the new
one. -/
theorem Booked.replaceTask (hb : w.Booked) (he : w.entry? h = some e) (delay : Span) (s : Snapshot)
    (a : Action) :
    (w.replaceTask h delay s a).Booked ∧
      (∀ t ∈ (w.replaceTask h delay s a).schedule.live,
        (t ∈ w.schedule.live ∧ t.job.handle ≠ h) ∨ t = w.schedule.next w.now delay ⟨h, s, a⟩) ∧
      (w.schedule.stopped = false → ∀ t,
        (t ∈ w.schedule.live ∧ t.job.handle ≠ h) ∨ t = w.schedule.next w.now delay ⟨h, s, a⟩ →
          t ∈ (w.replaceTask h delay s a).schedule.live) := by
  have hle : ∀ id ∈ e.slot, id ≤ w.schedule.issued := fun id hid => hb.slot_le h e id he hid
  have hold : ∀ {k f}, w.entry? k = some f → f.slot ≠ some (w.schedule.issued + 1) :=
    fun {k f} hk hs => absurd (hb.slot_le k f _ hk hs) (Nat.not_succ_le_self _)
  refine ⟨⟨?_, fun k f id hk hid => ?_, fun t ht => ?_, fun k l f g id hk hl hf hg => ?_⟩,
    fun _ => hb.live_replaceTask he delay s a, fun hr t => (hb.mem_live_replaceTask he hr delay s a t).mpr⟩
  · rw [replaceTask_eq he delay s a]
    exact (hb.numbered.add ..).cancel? fun id hid => Nat.le_succ_of_le (hle id hid)
  · have hissued : (w.replaceTask h delay s a).schedule.issued = w.schedule.issued + 1 := by
      rw [replaceTask_eq he delay s a]
      exact Schedule.issued_cancel? ..
    rw [hissued]
    rw [entry?_replaceTask he delay s a] at hk
    split at hk
    · obtain ⟨g, -, rfl⟩ := Option.map_eq_some_iff.mp hk
      cases hid
      exact Nat.le_refl _
    · exact Nat.le_succ_of_le (hb.slot_le k f id hk hid)
  · rw [entry?_replaceTask he delay s a]
    rcases hb.live_replaceTask he delay s a ht with ⟨ht, hne⟩ | rfl
    · obtain ⟨f, hf, hid⟩ := hb.slot_live t ht
      exact ⟨f, by rw [if_neg hne]; exact hf, hid⟩
    · refine ⟨{ e with slot := some (w.schedule.issued + 1) }, ?_, rfl⟩
      show (if h = h then (w.entry? h).map _ else w.entry? h) = _
      rw [if_pos rfl, he]
      rfl
  · rw [entry?_replaceTask he delay s a] at hk hl
    split at hk <;> split at hl
    · rename_i hkh hlh
      exact hkh.trans hlh.symm
    · obtain ⟨_, -, rfl⟩ := Option.map_eq_some_iff.mp hk
      cases hf
      exact absurd hg (hold hl)
    · obtain ⟨_, -, rfl⟩ := Option.map_eq_some_iff.mp hl
      cases hg
      exact absurd hf (hold hk)
    · exact hb.apart k l f g id hk hl hf hg

end replaces

end World

end LeaseKeeper.Leases
