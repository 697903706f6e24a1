import LeaseKeeper.Proofs.Leases.Entries

/-!
# What the parts of a lease engine's step leave alone

A step works on one entry by one operation. `Frame` says of a world on the way from `w` what
has become of that entry, of that operation, of what is published about the entry and of its
tasks (`Care`), and that all the rest is as it was in `w`. There is one lemma for each part that
steps are made of; a step is followed by composing them.
-/

namespace LeaseKeeper.Leases

/-- What has become of the tasks of an entry. -/
inductive Care where
  | kept
  | cancelled
  | replaced (snapshot : Snapshot) (action : Action)
  /-- That one has been started. -/
  | started (task : Task Job)

namespace Care

/-- The tasks that an entry may have afterwards. -/
def Allows (w : World) (h : Handle) : Care → Task Job → Prop
  | kept, t => t ∈ w.schedule.live
  | cancelled, _ => False
  | replaced s a, t => t.job = ⟨h, s, a⟩
  | started _, t => t ∈ w.schedule.live

/-- The tasks that an entry has afterwards at least. -/
def Owes (w u : World) (h : Handle) : Care → Prop
  | kept => ∀ t ∈ w.schedule.live, t.job.handle = h → t ∈ u.schedule.live
  | replaced s a => ∃ t ∈ u.schedule.live, t.job = ⟨h, s, a⟩
  | _ => True

end Care

/-- On the way from `w`, the entry of `h` and the operation `op` have become what is given here,
and all the rest is as it was; `n` snapshots have arrived. That no task is lost holds where `c`
does: in an engine that somebody holds. -/
structure Frame (c : Prop) (w u : World) (op : Nat) (h : Handle) (face : Option Entry)
    (point : Option Point) (added : List LeaseChange) (care : Care) (n : Nat) : Prop where
  face : u.face? h = face
  faces : ∀ k, k ≠ h → u.face? k = w.face? k
  point : u.point? op = point
  points : ∀ a, a ≠ op → u.point? a = w.point? a
  change : u.changes h = w.changes h ++ added
  changes : ∀ k, k ≠ h → u.changes k = w.changes k
  fresh : op < u.nextOperation
  nextOperation : w.nextOperation ≤ u.nextOperation
  nextHandle : w.nextHandle ≤ u.nextHandle
  nextSnapshot : u.nextSnapshot = n
  destroyed : u.destroyed = w.destroyed
  threshold : u.trigger.thresholdFor = w.trigger.thresholdFor
  fixed : ∀ t, w.trigger = .fixed t → u.trigger = .fixed t
  stopped : u.schedule.stopped = w.schedule.stopped
  booked : u.Booked
  others : ∀ t ∈ u.schedule.live, t.job.handle ≠ h → t ∈ w.schedule.live
  spared : c → ∀ t ∈ w.schedule.live, t.job.handle ≠ h → t ∈ u.schedule.live
  own : ∀ t ∈ u.schedule.live, t.job.handle = h → care.Allows w h t
  owed : c → w.schedule.stopped = false → care.Owes w u h

namespace Frame

variable {c : Prop} {w u v : World} {op : Nat} {h : Handle} {face : Option Entry}
  {point : Option Point} {added : List LeaseChange} {care : Care} {n : Nat}

/-- An operation under way gets on. -/
theorem refl (hb : w.Booked) (hop : op < w.nextOperation) (h : Handle) :
    Frame c w w op h (w.face? h) (w.point? op) [] .kept w.nextSnapshot where
  face := rfl
  faces _ _ := rfl
  point := rfl
  points _ _ := rfl
  change := (List.append_nil _).symm
  changes _ _ := rfl
  fresh := hop
  nextOperation := Nat.le_refl _
  nextHandle := Nat.le_refl _
  nextSnapshot := rfl
  destroyed := rfl
  threshold := rfl
  fixed _ ht := ht
  stopped := rfl
  booked := hb
  others _ ht _ := ht
  spared _ _ ht _ := ht
  own _ ht _ := ht
  owed _ _ _ ht _ := ht

/-- A new operation begins. -/
theorem enroll (hb : w.Booked) (h : Handle) :
    Frame c w w.enroll.2 w.nextOperation h (w.face? h) (w.point? w.nextOperation) [] .kept
      w.nextSnapshot where
  face := rfl
  faces _ _ := rfl
  point := rfl
  points _ _ := rfl
  change := (List.append_nil _).symm
  changes _ _ := rfl
  fresh := Nat.lt_succ_self _
  nextOperation := Nat.le_succ _
  nextHandle := Nat.le_refl _
  nextSnapshot := rfl
  destroyed := rfl
  threshold := rfl
  fixed _ ht := ht
  stopped := rfl
  booked := hb.same rfl fun _ => rfl
  others _ ht _ := ht
  spared _ _ ht _ := ht
  own _ ht _ := ht
  owed _ _ _ ht _ := ht

/-- A task of the entry is started, and its operation begins. -/
theorem starts (hb : w.Booked) {t : Task Job} {s : Schedule Job} (hs : w.schedule.Starts t s)
    (ht : t.job.handle = h) :
    Frame c w ({ w with schedule := s } : World).enroll.2 w.nextOperation h (w.face? h)
      (w.point? w.nextOperation) [] (.started t) w.nextSnapshot :=
  { enroll (c := c) hb h with
    stopped := hs.stopped
    booked := (hb.starts hs).same rfl fun _ => rfl
    others := fun _ hu _ => (hs.not_mem hu).1
    spared := fun _ u hu hne => by
      show u ∈ s.live
      rw [hs.live, List.mem_filter]
      refine ⟨hu, bne_iff_ne.mpr fun he => ?_⟩
      exact hne (hb.numbered.live_inj hu hs.mem he ▸ ht)
    own := fun _ hu _ => (hs.not_mem hu).1
    owed := fun _ _ => trivial }

/-- A change that leaves entries, operations, tasks and what is published alone. -/
theorem same (hf : Frame c w u op h face point added care n) (he : v.entries = u.entries)
    (ho : v.operations = u.operations) (hh : v.history = u.history) (hs : v.schedule = u.schedule)
    (hd : v.destroyed = u.destroyed) (hop : v.nextOperation = u.nextOperation)
    (hnh : u.nextHandle ≤ v.nextHandle) (hns : v.nextSnapshot = u.nextSnapshot)
    (ht : v.trigger.thresholdFor = u.trigger.thresholdFor)
    (hfix : ∀ t, u.trigger = .fixed t → v.trigger = .fixed t) :
    Frame c w v op h face point added care n := by
  have hentry : ∀ k, v.entry? k = u.entry? k := fun k => by unfold World.entry?; rw [he]
  have hface : ∀ k, v.face? k = u.face? k := fun k => by unfold World.face?; rw [hentry]
  have hpoint : ∀ a, v.point? a = u.point? a := fun a => by unfold World.point?; rw [ho]
  have hchanges : ∀ k, v.changes k = u.changes k := fun k => by unfold World.changes; rw [hh]
  refine ⟨(hface h).trans hf.face, fun k hk => (hface k).trans (hf.faces k hk),
    (hpoint op).trans hf.point, fun a ha => (hpoint a).trans (hf.points a ha),
    (hchanges h).trans hf.change, fun k hk => (hchanges k).trans (hf.changes k hk),
    hop ▸ hf.fresh, hop ▸ hf.nextOperation, Nat.le_trans hf.nextHandle hnh,
    hns.trans hf.nextSnapshot, hd.trans hf.destroyed, ht.trans hf.threshold,
    fun t h => hfix t (hf.fixed t h), hs ▸ hf.stopped, ?_, hs ▸ hf.others, ?_, hs ▸ hf.own, ?_⟩
  · exact hf.booked.same hs fun k => by rw [hentry]
  · rw [hs]; exact hf.spared
  · intro hc hr
    have := hf.owed hc hr
    cases care with
    | kept => intro t ht hth; rw [hs]; exact this t ht hth
    | replaced s a => obtain ⟨t, ht, hj⟩ := this; exact ⟨t, hs ▸ ht, hj⟩
    | cancelled => trivial
    | started t => trivial

theorem mint (hf : Frame c w u op h face point added care n) (l : Lease) (d : SecretData) :
    Frame c w (u.mint l d).2 op h face point added care (n + 1) :=
  { hf with
    nextSnapshot := congrArg (· + 1) hf.nextSnapshot
    booked := hf.booked.same rfl fun _ => rfl }

theorem tally (hf : Frame c w u op h face point added care n) (k : Mark) :
    Frame c w (u.tally k) op h face point added care n :=
  hf.same rfl rfl rfl rfl rfl rfl (Nat.le_refl _) rfl rfl fun _ ht => ht

theorem updateGauge (hf : Frame c w u op h face point added care n) :
    Frame c w u.updateGauge op h face point added care n :=
  hf.same rfl rfl rfl rfl rfl rfl (Nat.le_refl _) rfl rfl fun _ ht => ht

theorem askTrigger (hf : Frame c w u op h face point added care n) (left : Span) :
    Frame c w (u.askTrigger left).2 op h face point added care n := by
  refine hf.same rfl rfl rfl rfl rfl rfl (Nat.le_refl _) rfl (u.trigger.thresholdFor_next ..)
    fun t ht => ?_
  show (u.trigger.next (u.draws u.drawn) left).2 = .fixed t
  rw [ht]
  rfl

theorem publish (hf : Frame c w u op h face point added care n) {e : Entry} (he : e.handle = h)
    (k : LeaseChange) : Frame c w (u.publish e k) op h face point (added ++ [k]) care n :=
  { hf with
    change := by rw [World.changes_publish, if_pos he, hf.change, List.append_assoc]
    changes := fun l hl => by
      rw [World.changes_publish, if_neg (he ▸ hl.symm), List.append_nil, hf.changes l hl]
    booked := hf.booked.same rfl fun _ => rfl }

/-- The entry is changed in a part other than its task. -/
theorem modify (hf : Frame c w u op h face point added care n) {f : Entry → Entry}
    (hh : ∀ e, (f e).handle = e.handle) (hs : ∀ e, (f e).slot = e.slot)
    (hb : ∀ e, (f e).bare = f e.bare) :
    Frame c w (u.modify h f) op h (face.map f) point added care n :=
  { hf with
    face := by rw [World.face?_modify u h f hh hb, if_pos rfl, hf.face]
    faces := fun k hk => by rw [World.face?_modify u h f hh hb, if_neg hk, hf.faces k hk]
    booked := hf.booked.modify h hh hs }

theorem install (hf : Frame c w u op h face point added care n) (s : Option Snapshot) :
    Frame c w (u.install h s) op h (face.map fun e => { e with snapshot := s }) point added care n :=
  hf.modify (fun _ => rfl) (fun _ => rfl) fun _ => rfl

theorem unlock (hf : Frame c w u op h face point added care n) (a : Nat) :
    Frame c w (u.unlock a h) op h (face.map fun e => { e with lock := e.lock.filter (· != a) }) point
      added care n :=
  hf.modify (fun _ => rfl) (fun _ => rfl) fun _ => rfl

theorem enlist (hf : Frame c w u op h none point added care n) {e : Entry} (he : e.handle = h)
    (hs : e.slot = none) : Frame c w (u.enlist e) op h (some e.bare) point added care n := by
  subst he
  have hn := World.face?_none.mp hf.face
  exact { hf with
    face := by
      rw [World.face?, World.find_enlist, if_pos rfl, hn]
      rfl
    faces := fun k hk => by
      rw [World.face?, World.find_enlist, if_neg hk.symm]
      exact hf.faces k hk
    nextHandle := Nat.le_succ_of_le hf.nextHandle
    booked := hf.booked.enlist hn hs }

theorem forget (hf : Frame c w u op h face point added care n)
    (hn : ∀ t ∈ u.schedule.live, t.job.handle ≠ h) :
    Frame c w (u.forget h) op h none point added care n :=
  { hf with
    face := by rw [World.face?_none, World.find_forget, if_pos rfl]
    faces := fun k hk => by
      rw [World.face?, World.find_forget, if_neg hk]
      exact hf.faces k hk
    booked := hf.booked.forget hn }

theorem setPoint (hf : Frame c w u op h face point added care n) (p : Point) :
    Frame c w (u.setPoint op p) op h face (some p) added care n :=
  { hf with
    point := by rw [World.point?_setPoint, if_pos rfl]
    points := fun a ha => by rw [World.point?_setPoint, if_neg ha, hf.points a ha]
    booked := hf.booked.same rfl fun _ => rfl }

theorem changes_note {k : Happening} (hk : ∀ e, k ≠ .published e) (u : World) (l : Handle) :
    (u.note k).changes l = u.changes l := by
  simp only [World.changes, World.note, List.reverse_cons, List.filterMap_append, List.filterMap_cons,
    List.filterMap_nil]
  cases k with
  | published e => exact absurd rfl (hk e)
  | called | ended => simp

/-- Something is noted that was not published. -/
theorem note (hf : Frame c w u op h face point added care n) {k : Happening}
    (hk : ∀ e, k ≠ .published e) : Frame c w (u.note k) op h face point added care n :=
  { hf with
    change := (changes_note hk u h).trans hf.change
    changes := fun l hl => (changes_note hk u l).trans (hf.changes l hl)
    booked := hf.booked.same rfl fun _ => rfl }

theorem call (hf : Frame c w u op h face point added care n) (k : Handle) (a : Call) (p : Point) :
    Frame c w (u.call op k a p) op h face (some p) added care n :=
  (hf.setPoint p).note fun _ => by simp

/-! ## Tasks -/

theorem cancelTask (hf : Frame c w u op h face point added care n) :
    Frame c w (u.cancelTask h) op h face point added .cancelled n := by
  obtain ⟨hb, hl⟩ := hf.booked.cancelTask h
  have hface : ∀ k, (u.cancelTask h).face? k = u.face? k := World.face?_cancelTask u h
  obtain ⟨s, es, he, hs⟩ := u.cancelTask_eq h
  rw [he] at hb hl hface ⊢
  exact { hf with
    face := (hface h).trans hf.face
    faces := fun k hk => (hface k).trans (hf.faces k hk)
    stopped := hs.trans hf.stopped
    booked := hb
    others := fun t ht hne => hf.others t ((hl t).mp ht).1 hne
    spared := fun hc t ht hne => (hl t).mpr ⟨hf.spared hc t ht hne, hne⟩
    own := fun t ht hh => ((hl t).mp ht).2 hh
    owed := fun _ _ => trivial }

theorem replaceTask {e : Entry} (hf : Frame c w u op h (some e) point added care n) (delay : Span)
    (s : Snapshot) (a : Action) :
    Frame c w (u.replaceTask h delay s a) op h (some e) point added (.replaced s a) n := by
  obtain ⟨e', he', -⟩ := Option.map_eq_some_iff.mp hf.face
  obtain ⟨hb, hsub, hsup⟩ := hf.booked.replaceTask he' delay s a
  have hface : ∀ k, (u.replaceTask h delay s a).face? k = u.face? k :=
    World.face?_replaceTask u h delay s a
  have heq : ∃ t es, u.replaceTask h delay s a = { u with schedule := t, entries := es } ∧
      t.stopped = u.schedule.stopped := by
    unfold World.replaceTask
    rw [he']
    exact ⟨_, _, rfl, Schedule.stopped_cancel? ..⟩
  obtain ⟨t, es, he, hs⟩ := heq
  rw [he] at hb hsub hsup hface ⊢
  exact { hf with
    face := (hface h).trans hf.face
    faces := fun k hk => (hface k).trans (hf.faces k hk)
    stopped := hs.trans hf.stopped
    booked := hb
    others := fun t ht hne => by
      rcases hsub t ht with ⟨ht, -⟩ | rfl
      · exact hf.others t ht hne
      · exact absurd rfl hne
    spared := fun hc t ht hne => by
      have hu := hf.spared hc t ht hne
      -- A stopped schedule has no live task.
      refine hsup ?_ t (.inl ⟨hu, hne⟩)
      rw [← Bool.not_eq_true]
      intro hr
      rw [Schedule.live_of_stopped hr] at hu
      cases hu
    own := fun t ht hh => by
      rcases hsub t ht with ⟨-, hne⟩ | rfl
      · exact absurd hh hne
      · rfl
    owed := fun _ hr => ⟨_, hsup (hf.stopped.trans hr) _ (.inr rfl), rfl⟩ }

/-! ## Ending an operation -/

theorem reap (hf : Frame c w u op h face point added care n) (hc : c → u.reap.isAlive = true) :
    Frame c w u.reap op h face point added care n := by
  obtain ⟨hb, hl, hface⟩ := hf.booked.reap
  have hu := World.reap_of_isAlive (w := u)
  obtain ⟨s, es, he, hs⟩ := u.reap_eq
  rw [he] at hb hl hface hc hu ⊢
  exact { hf with
    face := (hface h).trans hf.face
    faces := fun k hk => (hface k).trans (hf.faces k hk)
    stopped := hs.trans hf.stopped
    booked := hb
    others := fun t ht hne => hf.others t (hl t ht) hne
    spared := fun hc' t ht hne => by
      rw [hu (hc hc')]
      exact hf.spared hc' t ht hne
    own := fun t ht hh => hf.own t (hl t ht) hh
    owed := fun hc' hr => by
      rw [hu (hc hc')]
      exact hf.owed hc' hr }

theorem finish (hf : Frame c w u op h face point added care n) (o : Outcome)
    (hc : c → (u.finish op o).isAlive = true) :
    Frame c w (u.finish op o) op h face none added care n := by
  have ho : Frame c w { u with operations := u.operations.filter (·.1 != op) } op h face none added
      care n :=
    { hf with
      point := by
        show (u.operations.filter (·.1 != op)).lookup op = none
        rw [lookup_filter, if_pos rfl]
      points := fun a ha => by
        show (u.operations.filter (·.1 != op)).lookup a = _
        rw [lookup_filter, if_neg ha]
        exact hf.points a ha
      booked := hf.booked.same rfl fun _ => rfl }
  exact (ho.note fun _ => by simp).reap hc

theorem leave (hf : Frame c w u op h face point added care n) (o : Outcome)
    (hc : c → (u.leave op h o).isAlive = true) :
    Frame c w (u.leave op h o) op h
      (face.map fun e => { e with lock := e.lock.filter (· != op) }) none added care n :=
  (hf.unlock op).finish o hc

end Frame

end LeaseKeeper.Leases
