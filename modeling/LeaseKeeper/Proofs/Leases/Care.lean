import LeaseKeeper.Proofs.Leases.Tending

/-!
# Who looks after a lease

While an engine is not shut down, a snapshot that wants care is looked after: a task of its
entry waits, or an operation sees to it, one that waits for the lock to act on it, renews it, or
fetches the secret again because it is lost (`Minded`). So when nobody holds the lock of an
entry or waits for it, there is a task, and since tasks stand in slots it is the only one
(`tasks_of_free_entry`). That is so for a trigger that never runs out, on a scheduler that is
not stopped, in an engine that somebody holds.
-/

namespace LeaseKeeper.Leases

open World

/-- Whether an operation sees to a snapshot of an entry. -/
def Point.Minds (h : Handle) (s : Snapshot) : Point → Prop
  | queued k (.act r _) => k = h ∧ r = s
  | renewing k r _ => k = h ∧ r = s
  | rotating k _ cause => k = h ∧ cause = .loss
  | _ => False

/-- A task of the entry waits for its start, or an operation sees to the snapshot. -/
def Minded (w : World) (h : Handle) (s : Snapshot) : Prop :=
  (∃ t ∈ w.schedule.live, t.job.handle = h) ∨ ∃ a q, w.point? a = some q ∧ q.Minds h s

/-- Every snapshot that wants care is looked after. -/
def AllMinded (w : World) : Prop :=
  ∀ h e s, w.face? h = some e → e.standing = .registered → e.snapshot = some s →
    wantsCare e s.lease = true → Minded w h s

variable {c : Prop} {w w' : World} {op n : Nat} {h : Handle} {e e' : Entry} {p : Option Point}
  {s : Option Snapshot} {st : Standing} {added : List LeaseChange} {care : Care}

theorem Point.wants?_of_minds {q : Point} {r : Snapshot} (hq : q.Minds h r) : q.wants? = some h := by
  cases q with
  | queued k errand =>
    cases errand with
    | act r' a => exact congrArg some hq.1
    | _ => exact hq.elim
  | renewing k r' t | rotating k l cause => exact congrArg some hq.1
  | _ => exact hq.elim

/-- The tasks of the entry wait on, and the operation did not see to the snapshot. -/
theorem Minded.kept {r : Snapshot} (hm : Minded w h r)
    (hf : Frame True w w' op h (some e') p added .kept n) (hs : w.schedule.stopped = false)
    (hop : ∀ q, w.point? op = some q → ¬ q.Minds h r) : Minded w' h r := by
  rcases hm with ⟨t, ht, hh⟩ | ⟨a, q, hq, hqm⟩
  · exact .inl ⟨t, hf.owed trivial hs t ht hh, hh⟩
  · refine .inr ⟨a, q, ?_, hqm⟩
    rwa [hf.points a fun ha => hop q (ha ▸ hq) hqm]

/-- The operation sees to the snapshot. -/
theorem Minded.moves {r : Snapshot} {q : Point}
    (hf : Frame True w w' op h (some e') (some q) added care n)
    (hq : q.Minds h r) : Minded w' h r :=
  .inr ⟨op, q, hf.point, hq⟩

theorem Minded.replaced {r r' : Snapshot} {a : Action}
    (hf : Frame True w w' op h (some e') p added (.replaced r a) n) (hs : w.schedule.stopped = false) :
    Minded w' h r' := by
  obtain ⟨t, ht, hj⟩ := hf.owed trivial hs
  exact .inl ⟨t, ht, by rw [hj]⟩

/-- What is scheduled for a snapshot looks after it. -/
theorem minded_of_cares {r : Snapshot} {t : FixedTrigger} (htr : w.trigger = .fixed t)
    (hf : Frame True w w' op h (some e') p added care n) (hs : w.schedule.stopped = false)
    (hr : e'.isRotating = e.isRotating) (hc : Cares w r (wantsCare e r.lease) care)
    (hw : wantsCare e' r.lease = true) : Minded w' h r := by
  cases hc with
  | wanted _ => exact .replaced hf hs
  | unwanted hu =>
    unfold wantsCare at hu hw
    rw [hr, hu] at hw
    cases hw
  | exhausted hx => exact absurd htr (hx t)

/-- A registered secret that an operation works on stays looked after. -/
theorem Tended.minded (ho : Orderly w) (htend : Tended w h e) (hst : e.standing = .registered)
    {t : FixedTrigger} (htr : w.trigger = .fixed t) (hs : w.schedule.stopped = false) {l : List Nat}
    (hf : Frame True w w' op h (some { e with snapshot := s, lock := l, standing := .registered }) p
      added care n)
    (he : w.face? h = some e) (hk : Works w op h e s st p added care n) {r : Snapshot}
    (hold : s = e.snapshot → Minded w h r) (hr : s = some r) (hw : wantsCare e r.lease = true) :
    Minded w' h r := by
  cases hk with
  | joins hg =>
    have hnone := ho.point?_of_comes hg
    cases hg with
    | asks _ _ =>
      refine (hold rfl).kept hf hs fun q hq => ?_
      cases hnone.symm.trans hq
    | fires _ _ ht' hh =>
      have hsuits := htend.tasks _ ht' hh
      exact .moves hf ⟨rfl, Option.some.inj (hsuits.1.symm.trans hr)⟩
  | passes hg hc =>
    cases hg with
    | comes hg =>
      cases hg with
      | fires _ _ ht' hh => exact absurd (htend.tasks _ ht' hh).isCurrent (by rw [hc]; decide)
    | enters hp =>
      refine (hold rfl).kept hf hs fun q hq hqm => ?_
      cases hp.symm.trans hq
      obtain ⟨-, rfl⟩ := hqm
      exact absurd (isCurrent_iff.mpr ⟨_, hr, rfl⟩) (by rw [hc]; decide)
  | asksAgain hg _ =>
    cases hg with
    | comes hg =>
      have hnone := ho.point?_of_comes hg
      cases hg with
      | asks _ _ =>
        refine (hold rfl).kept hf hs fun q hq => ?_
        cases hnone.symm.trans hq
    | enters hp =>
      refine (hold rfl).kept hf hs fun q hq hqm => ?_
      cases hp.symm.trans hq
      exact hqm
  | renews hg hc => exact .moves hf ⟨rfl, Option.some.inj ((htend.suits hg hc).1.symm.trans hr)⟩
  | loses _ _ _ => exact .moves hf ⟨rfl, rfl⟩
  | registers hp _ _ => exact absurd hp (ho.not_registering he hst)
  | registersBare | drops | failsAndDrops | lost => cases hr
  | renewed _ _ _ hc | rotated _ _ hc =>
    cases hr
    exact minded_of_cares htr hf hs (by rfl) hc hw
  | retained _ => exact .replaced hf hs
  | failsAndLoses _ _ => exact .moves hf ⟨rfl, rfl⟩
  | refused hp _ =>
    refine (hold rfl).kept hf hs fun q hq hqm => ?_
    cases hp.symm.trans hq
    cases hqm.2

/-- The entry that an operation works on is looked after. -/
theorem minded_of_works (ho : Orderly w) (ht : Tends w) (hm : AllMinded w) {t : FixedTrigger}
    (htr : w.trigger = .fixed t) (hs : w.schedule.stopped = false) {l : List Nat}
    (hf : Frame True w w' op h (some { e with snapshot := s, lock := l, standing := .registered }) p
      added care n)
    (he : w.face? h = some e) (hst : e.standing = .registered ∨ w.point? op = some (.registering h))
    (hk : Works w op h e s st p added care n) {r : Snapshot} (hr : s = some r)
    (hw : wantsCare e r.lease = true) : Minded w' h r := by
  rcases hst with hst | hreg
  · exact (ht.registered h e he hst).minded ho hst htr hs hf he hk
      (fun hse => hm h e r he hst (hse ▸ hr) hw) hr hw
  · rcases ho.first_of_works he hreg hk with ⟨r', rfl, -, -, hc, -⟩ | ⟨_, _, rfl, -⟩
    · cases hr
      exact minded_of_cares htr hf hs (by rfl) hc hw
    · cases hr

/-- As long as an engine is not shut down and somebody holds it, every turn keeps its snapshots
looked after. -/
theorem allMinded_of_advance (ho : Orderly w) (ht : Tends w) (hm : AllMinded w) {t : FixedTrigger}
    (htr : w.trigger = .fixed t) (ha : w'.isAlive = true) (hs : w'.schedule.stopped = false)
    (hadv : Advance w w') : AllMinded w' := by
  intro k f r hk hst hr hw
  cases hadv with
  | rests hq =>
    rcases hm k f r (hq.faces k ▸ hk) hst hr hw with ⟨t, hl, hh⟩ | ⟨a, q, hqa, hqm⟩
    · exact .inl ⟨t, hq.spared ha hs t hl, hh⟩
    · exact .inr ⟨a, q, (hq.points a).trans hqa, hqm⟩
  | @acts op h face p added care n hf hd =>
    have hs' : w.schedule.stopped = false := hf.stopped.symm.trans hs
    have hf' : Frame True w w' op h face p added care n :=
      { hf with
        spared := fun _ => hf.spared ha
        owed := fun _ => hf.owed ha }
    by_cases hkh : k = h
    · subst hkh
      have hface := hf.face.symm.trans hk
      cases hd with
      | adds _ _ _ hp _ _ =>
        cases hface
        cases hp.symm.trans hst
      | forgets _ => cases hface
      | removes _ _ _ _ _ _ =>
        cases hface
        cases hst
      | works he hne hq hwk =>
        obtain ⟨rfl, hreg⟩ := ho.standing_of_works he hne hwk
        cases hface
        exact minded_of_works ho ht hm htr hs' hf' he (hreg.imp_right And.left) hwk hr hw
    · -- The entry of another handle has its tasks and operations as before.
      rcases hm k f r (hf.faces k hkh ▸ hk) hst hr hw with ⟨t, hl, hh⟩ | ⟨a, q, hqa, hqm⟩
      · exact .inl ⟨t, hf'.spared trivial t hl (hh ▸ hkh), hh⟩
      · have hao : a ≠ op := fun hao => by
          have hwant := ho.wants_of_deed hd (hao ▸ hqa)
          exact hkh (Option.some.inj ((Point.wants?_of_minds hqm).symm.trans hwant))
        exact .inr ⟨a, q, (hf.points a hao).trans hqa, hqm⟩

section run

variable {t : FixedTrigger} {strategy : Strategy} {increment : Option Span} {d : Discipline}
  {draws : Nat → Nat} {ms : List Move}

/-- What holds of the entries, the trigger and the care at the end of a run. -/
theorem allMinded_of_run (hrun : run? (initial ⟨.fixed t, strategy, increment⟩ d draws) ms = some w)
    (hd : w.destroyed = false) : Orderly w ∧ Tends w ∧ w.trigger = .fixed t ∧
      (w.isAlive = true → w.schedule.stopped = false → AllMinded w) := by
  refine run?_keeps_open (P := fun v => v.trigger = .fixed t ∧
      (v.isAlive = true → v.schedule.stopped = false → AllMinded v)) hrun hd
    ⟨rfl, fun _ _ _ _ _ he => (by cases he)⟩ fun {v v' m} ho ht hp hk ha => ?_
  obtain ⟨htr, hm⟩ := hp
  have hfix : v'.trigger = .fixed t := by
    cases ha with
    | rests hq => exact hq.fixed t htr
    | acts hf _ => exact hf.fixed t htr
  have hrunning : v'.schedule.stopped = false → v.schedule.stopped = false := by
    cases ha with
    | rests hq => exact hq.running
    | acts hf _ => exact fun hs => hf.stopped.symm.trans hs
  exact ⟨hfix, fun hal hs =>
    allMinded_of_advance ho ht (hm (alive_of_turn hk hal) (hrunning hs)) htr hal hs ha⟩

/-- An entry whose lock nobody holds or waits for has just the task that is due for its snapshot if
that wants care, and no task otherwise. -/
theorem tasks_of_free_entry
    (hrun : run? (initial ⟨.fixed t, strategy, increment⟩ d draws) ms = some w)
    (hd : w.destroyed = false) (ha : w.isAlive = true) (hs : w.schedule.stopped = false)
    (he : w.registered? h = some e) (hl : e.lock = []) :
    (∀ r, e.snapshot = some r → wantsCare e r.lease = true → ∃ task, w.tasks h = [task] ∧
      task.job = ⟨h, r, if r.lease.canRenew = true ∧ t.threshold < r.lease.ttl then .renew
        else .expire⟩) ∧
    ((∀ r, e.snapshot = some r → wantsCare e r.lease = false) → w.tasks h = []) := by
  obtain ⟨ho, ht, htr, hm⟩ := allMinded_of_run hrun hd
  obtain ⟨hentry, hst⟩ := registered?_some he
  have hface := face?_some hentry
  have htend := ht.registered h _ hface hst
  refine ⟨fun r hr hw => ?_, fun hno => ?_⟩
  · rcases hm ha hs h _ r hface hst hr hw with ⟨task, hlive, hh⟩ | ⟨a, q, hq, hqm⟩
    · obtain ⟨hsnap, -, hact⟩ := htend.tasks task hlive hh
      have hrs : task.job.snapshot = r := Option.some.inj (hsnap.symm.trans hr)
      refine ⟨task, ho.booked.tasks_eq (mem_tasks.mpr ⟨hlive, hh⟩), ?_⟩
      have hduty : w.duty r = if r.lease.canRenew = true ∧ t.threshold < r.lease.ttl then .renew
          else .expire := by
        unfold duty
        rw [htr]
        exact if_congr (and_congr_right fun _ => Nat.not_le) rfl rfl
      rw [← hduty, ← hrs, ← hact, ← hh]
    · -- Whoever sees to the snapshot stands in the queue, which is empty.
      have hmem := (ho.mem_lock h _ hface a).mpr ⟨q, hq, Point.wants?_of_minds hqm⟩
      rw [show e.bare.lock = [] from hl] at hmem
      cases hmem
  · rw [List.eq_nil_iff_forall_not_mem]
    intro task htask
    obtain ⟨hlive, hh⟩ := mem_tasks.mp htask
    obtain ⟨hsnap, hw, -⟩ := htend.tasks task hlive hh
    cases (hno _ hsnap).symm.trans hw

end run

/-- An engine that renews ten seconds before the end, under the manual discipline. -/
def early : World :=
  initial ⟨.fixed ⟨.ofSeconds 10, minimalDelay, .ofSeconds 12, .zero⟩, .dropOnError, none⟩ .manual
    fun _ => 0

/-- A secret with a lease of a minute that can be renewed. -/
def minuteSecret : Secret := ⟨[], .granted .start "lease" (.ofSeconds 60) true⟩

/-- Somebody fetches a secret again while its task is waiting for the lock. -/
def overtaking : List Move :=
  [.begin (.add ⟨"path", .renewable⟩ "kv"), .answer 0 (.fetched (.ok (some minuteSecret))),
    .begin (.rotate ⟨1⟩), .fireNext, .answer 1 (.fetched (.ok (some minuteSecret))), .enter 2]

/-- The task finds its snapshot gone and does nothing; the one that waits then is aimed at the
second snapshot. -/
theorem tasks_after_overtaking :
    ∃ w e, run? early overtaking = some w ∧ w.destroyed = false ∧ w.isAlive = true ∧
      w.schedule.stopped = false ∧ w.registered? ⟨1⟩ = some e ∧ e.lock = [] ∧
      ∃ task, w.tasks ⟨1⟩ = [task] ∧
        task.job = ⟨⟨1⟩, ⟨1, minuteSecret.lease, minuteSecret.data⟩, .renew⟩ := by
  refine ⟨_, _, rfl, rfl, rfl, rfl, rfl, rfl, ?_⟩
  have hrun : run? early overtaking = some _ := rfl
  refine (tasks_of_free_entry (e := ?e) hrun ?_ ?_ ?_ ?he ?_).1 _ ?_ ?_
  case he => exact rfl
  all_goals rfl

end LeaseKeeper.Leases
