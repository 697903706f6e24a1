import LeaseKeeper.Proofs.Leases.Queue

/-!
# What tasks and operations aim at

A task that can still start aims at the snapshot that is installed, and does what is due for
it; so does an operation that waits for the lock to do that, unless the snapshot has been
replaced meanwhile. A renewal that is under way is of the installed snapshot, and whoever
fetches a secret again names its lease (`Tended`). As long as an engine is not shut down,
that holds of every entry that is registered (`tends_of_advance`), so it holds of every run
(`run?_keeps_open`).
-/

namespace LeaseKeeper.Leases

open World

/-- The snapshot is installed and wants care, and that is what is due for it. -/
def Suits (w : World) (e : Entry) (s : Snapshot) (a : Action) : Prop :=
  e.snapshot = some s ∧ wantsCare e s.lease = true ∧ a = w.duty s

/-- What where an operation stands says of the entry that it wants. -/
def Point.Fits (w : World) (e : Entry) : Point → Prop
  | queued _ (.act s a) => s.serial < w.nextSnapshot ∧ (e.isCurrent s = true → Suits w e s a)
  | renewing _ s _ => Suits w e s .renew
  | rotating _ previous cause =>
    Names e.snapshot previous ∧ (cause = .loss → e.isRotating = true ∧ e.snapshot ≠ none)
  | _ => True

/-- The tasks of an entry and the operations that want it aim at what is installed. -/
structure Tended (w : World) (h : Handle) (e : Entry) : Prop where
  tasks : ∀ t ∈ w.schedule.live, t.job.handle = h → Suits w e t.job.snapshot t.job.action
  points : ∀ a q, w.point? a = some q → q.wants? = some h → q.Fits w e
  serial : ∀ s, e.snapshot = some s → s.serial < w.nextSnapshot

/-- Every registered entry is tended, and one that is pending has nothing to show. -/
structure Tends (w : World) : Prop where
  registered : ∀ h e, w.face? h = some e → e.standing = .registered → Tended w h e
  pending : ∀ h e, w.face? h = some e → e.standing = .pending → e.snapshot = none ∧ w.changes h = []

variable {c : Prop} {w w' : World} {op n : Nat} {h : Handle} {e e' : Entry} {p : Option Point}
  {s : Option Snapshot} {st : Standing} {added : List LeaseChange} {care : Care}

theorem isCurrent_iff {r : Snapshot} :
    e.isCurrent r = true ↔ ∃ r', e.snapshot = some r' ∧ r'.serial = r.serial := by
  simp [Entry.isCurrent, Option.any_eq_true]

theorem Suits.isCurrent {r : Snapshot} {a : Action} (hs : Suits w e r a) : e.isCurrent r = true :=
  isCurrent_iff.mpr ⟨r, hs.1, rfl⟩

theorem Suits.names {r : Snapshot} {a : Action} (hs : Suits w e r a) : Names e.snapshot r.lease := by
  rw [hs.1]
  exact rfl

/-- What suits depends on the snapshot and the mode of the entry, and on the threshold. -/
theorem Suits.congr {r : Snapshot} {a : Action} (hs : Suits w e r a)
    (ht : w'.trigger.thresholdFor = w.trigger.thresholdFor) (he : e'.snapshot = e.snapshot)
    (hr : e'.isRotating = e.isRotating) : Suits w' e' r a := by
  refine ⟨he.trans hs.1, ?_, ?_⟩
  · unfold wantsCare
    rw [hr]
    exact hs.2.1
  · unfold World.duty
    rw [ht]
    exact hs.2.2

theorem Point.Fits.congr {q : Point} (hq : q.Fits w e)
    (ht : w'.trigger.thresholdFor = w.trigger.thresholdFor) (hn : w.nextSnapshot ≤ w'.nextSnapshot)
    (he : e'.snapshot = e.snapshot) (hr : e'.isRotating = e.isRotating) : q.Fits w' e' := by
  cases q with
  | queued k errand =>
    cases errand with
    | act r a =>
      refine ⟨Nat.lt_of_lt_of_le hq.1 hn, fun hc => (hq.2 ?_).congr ht he hr⟩
      rw [isCurrent_iff] at hc ⊢
      rwa [he] at hc
    | _ => trivial
  | renewing k r t => exact Suits.congr hq ht he hr
  | rotating k l cause => exact ⟨he ▸ hq.1, fun hc => ⟨hr.trans (hq.2 hc).1, he ▸ (hq.2 hc).2⟩⟩
  | _ => trivial

theorem Tended.congr (ht : Tended w h e) (hthr : w'.trigger.thresholdFor = w.trigger.thresholdFor)
    (hn : w.nextSnapshot ≤ w'.nextSnapshot)
    (hl : ∀ t ∈ w'.schedule.live, t.job.handle = h → t ∈ w.schedule.live)
    (hp : ∀ a q, w'.point? a = some q → q.wants? = some h → w.point? a = some q) : Tended w' h e where
  tasks t hlive hh := (ht.tasks t (hl t hlive hh) hh).congr hthr rfl rfl
  points a q hq hw := (ht.points a q (hp a q hq hw) hw).congr hthr hn rfl rfl
  serial r hr := Nat.lt_of_lt_of_le (ht.serial r hr) hn

/-- Whoever gets the lock to act on the installed snapshot does what is due for it. -/
theorem Tended.suits (ht : Tended w h e) {r : Snapshot} {a : Action}
    (hg : Gets w op h e (.act r a) care) (hc : e.isCurrent r = true) : Suits w e r a := by
  cases hg with
  | comes hg =>
    cases hg with
    | fires _ _ ht' hh => exact ht.tasks _ ht' hh
  | enters hp => exact (ht.points op _ hp rfl).2 hc

/-- Nobody but the operation that gets on with an entry holds its lock, unless it only joins
the queue. -/
theorem Orderly.alone (ho : Orderly w) (he : w.face? h = some e) {l : List Nat}
    (hq : Queues w op h e.lock l p) (hp : ∀ q, p = some q → q.holds? = some h) {a : Nat} {q : Point}
    (ha : w.point? a = some q) (hh : q.holds? = some h) : a = op := by
  have hhead := ho.head a q h e ha hh he
  have hpass := ho.passed he hq
  by_contra hne
  have hl := hpass.others a hne hhead
  cases p with
  | some r => exact hne (Option.some.inj (hl.symm.trans (hpass.head r rfl (hp r rfl))))
  | none =>
    cases hq with
    | leaves hm =>
      generalize hk : e.lock = k at hm
      cases hm with
      | free _ => rw [hk] at hhead; cases hhead
      | waited _ hh' => exact hne (Option.some.inj ((hk ▸ hhead).symm.trans hh'))
      | holds hp' hh' => exact hne (ho.holder_unique ha hh hp' hh')

/-! ## Working on an entry -/

/-- The snapshot stays. -/
theorem Tended.keeps (ht : Tended w h e) (hf : Frame c w w' op h (some e') p added care n)
    (hn : w.nextSnapshot ≤ n) (he : e'.snapshot = e.snapshot) (hr : e'.isRotating = e.isRotating)
    (hcare : ∀ t, care.Allows w h t → t.job.handle = h → Suits w e t.job.snapshot t.job.action)
    (hpoint : ∀ q, p = some q → q.Fits w e) : Tended w' h e' := by
  have hn' : w.nextSnapshot ≤ w'.nextSnapshot := hf.nextSnapshot ▸ hn
  refine ⟨fun t hl hh => (hcare t (hf.own t hl hh) hh).congr hf.threshold he hr, fun a q hq hw => ?_,
    fun r hr => Nat.lt_of_lt_of_le (ht.serial r (he ▸ hr)) hn'⟩
  by_cases ha : a = op
  · subst ha
    exact (hpoint q (hf.point ▸ hq)).congr hf.threshold hn' he hr
  · exact (ht.points a q (hf.points a ha ▸ hq) hw).congr hf.threshold hn' he hr

/-- The snapshot is taken away, or another takes its place, and the operation ends: those that
wait to act on the one before will find it gone. -/
theorem Tended.fresh (ho : Orderly w) (hf : Frame c w w' op h (some e') none added care n)
    (he : w.face? h = some e) (hn : w.nextSnapshot ≤ n) {l : List Nat}
    (hq : Queues w op h e.lock l none) (hnew : ∀ r, e'.snapshot = some r → r.serial = w.nextSnapshot)
    (hlt : ∀ r, e'.snapshot = some r → r.serial < n)
    (hold : ∀ a r b, w.point? a = some (.queued h (.act r b)) → r.serial < w.nextSnapshot)
    (hcare : ∀ t, care.Allows w h t → t.job.handle = h → Suits w e' t.job.snapshot t.job.action) :
    Tended w' h e' := by
  refine ⟨fun t hl hh => (hcare t (hf.own t hl hh) hh).congr hf.threshold rfl rfl,
    fun a q hqa hw => ?_, fun r hr => hf.nextSnapshot ▸ hlt r hr⟩
  by_cases ha : a = op
  · subst ha
    cases hf.point.symm.trans hqa
  have hq' := hf.points a ha ▸ hqa
  have hno : q.holds? ≠ some h := fun hh => ha (ho.alone he hq (fun _ hx => by cases hx) hq' hh)
  cases q with
  | queued k errand =>
    cases errand with
    | act r b =>
      cases hw
      have hr := hold a r b hq'
      refine ⟨hf.nextSnapshot ▸ Nat.lt_of_lt_of_le hr hn, fun hc => ?_⟩
      obtain ⟨r', hr', hser⟩ := isCurrent_iff.mp hc
      exact absurd (hser.symm.trans (hnew r' hr')) (Nat.ne_of_lt hr)
    | _ => trivial
  | _ => exact absurd hw hno

theorem suits_of_cares {r : Snapshot} (he : e'.snapshot = some r) (hr : e'.isRotating = e.isRotating)
    (hc : Cares w r (wantsCare e r.lease) care) {t : Task Job} (ha : care.Allows w h t) :
    Suits w e' t.job.snapshot t.job.action := by
  cases hc with
  | wanted hw =>
    rw [show t.job = ⟨h, r, w.duty r⟩ from ha]
    refine ⟨he, ?_, rfl⟩
    unfold wantsCare at hw ⊢
    rwa [hr]
  | unwanted | exhausted => exact ha.elim

theorem Tended.installs (ho : Orderly w) {r : Snapshot} {l : List Nat}
    (hf : Frame c w w' op h (some { e with snapshot := some r, lock := l, standing := .registered })
      none added care (w.nextSnapshot + 1))
    (he : w.face? h = some e) (hq : Queues w op h e.lock l none) (hser : r.serial = w.nextSnapshot)
    (hold : ∀ a r b, w.point? a = some (.queued h (.act r b)) → r.serial < w.nextSnapshot)
    (hc : Cares w r (wantsCare e r.lease) care) :
    Tended w' h { e with snapshot := some r, lock := l, standing := .registered } := by
  have hser' : ∀ r', some r = some r' → r'.serial = w.nextSnapshot := fun r' hr => by
    cases hr
    exact hser
  refine .fresh ho hf he (Nat.le_succ _) hq hser'
    (fun r' hr => Nat.lt_succ_of_le (Nat.le_of_eq (hser' r' hr))) hold fun t ha _ => ?_
  exact suits_of_cares (e := e) (by rfl) (by rfl) hc ha

theorem Tended.drops (ho : Orderly w) {l : List Nat}
    (hf : Frame c w w' op h (some { e with snapshot := none, lock := l, standing := .registered })
      none added care w.nextSnapshot)
    (he : w.face? h = some e) (hq : Queues w op h e.lock l none)
    (hold : ∀ a r b, w.point? a = some (.queued h (.act r b)) → r.serial < w.nextSnapshot)
    (hc : ∀ t, care.Allows w h t → t.job.handle ≠ h) :
    Tended w' h { e with snapshot := none, lock := l, standing := .registered } :=
  .fresh ho hf he (Nat.le_refl _) hq (fun _ hr => (by cases hr)) (fun _ hr => (by cases hr)) hold
    fun t ha hh => absurd hh (hc t ha)

theorem World.Comes.allowed {errand : Errand} {t : Task Job} (hg : Comes w op h e errand care)
    (ha : care.Allows w h t) : t ∈ w.schedule.live := by
  cases hg <;> exact ha

theorem World.Gets.allowed {errand : Errand} {t : Task Job} (hg : Gets w op h e errand care)
    (ha : care.Allows w h t) : t ∈ w.schedule.live := by
  cases hg with
  | comes hg => exact hg.allowed ha
  | enters _ => exact ha

/-- A registered entry that an operation works on stays tended. -/
theorem Tended.works (ho : Orderly w) (htend : Tended w h e) (hs : e.standing = .registered)
    {l : List Nat}
    (hf : Frame c w w' op h (some { e with snapshot := s, lock := l, standing := .registered }) p
      added care n)
    (he : w.face? h = some e) (hq : Queues w op h e.lock l p)
    (hk : Works w op h e s st p added care n) :
    Tended w' h { e with snapshot := s, lock := l, standing := .registered } := by
  have hold : ∀ a r b, w.point? a = some (.queued h (.act r b)) → r.serial < w.nextSnapshot :=
    fun a r b hq => (htend.points a _ hq rfl).1
  have hkept : ∀ t ∈ w.schedule.live, t.job.handle = h → Suits w e t.job.snapshot t.job.action :=
    htend.tasks
  cases hk with
  | joins hg =>
    refine htend.keeps hf (Nat.le_refl _) rfl rfl (fun t ha => hkept t (hg.allowed ha)) fun q hq => ?_
    cases hq
    cases hg with
    | asks _ _ => trivial
    | fires _ _ ht' hh =>
      have hsuits := hkept _ ht' hh
      exact ⟨htend.serial _ hsuits.1, fun _ => hsuits⟩
  | passes hg _ =>
    exact htend.keeps hf (Nat.le_refl _) rfl rfl (fun t ha => hkept t (hg.allowed ha))
      fun q hq => by cases hq
  | asksAgain hg hn =>
    refine htend.keeps hf (Nat.le_refl _) rfl rfl (fun t ha => hkept t (hg.allowed ha)) fun q hq => ?_
    cases hq
    exact ⟨hn, fun hc => by cases hc⟩
  | renews hg hc =>
    refine htend.keeps hf (Nat.le_refl _) rfl rfl (fun t ha => hkept t (hg.allowed ha)) fun q hq => ?_
    cases hq
    exact htend.suits hg hc
  | @loses r _ hg hc hr =>
    refine htend.keeps hf (Nat.le_refl _) rfl rfl (fun t ha => hkept t (hg.allowed ha)) fun q hq => ?_
    cases hq
    have hsuits := htend.suits hg hc
    exact ⟨hsuits.names, fun _ => ⟨hr, by rw [hsuits.1]; simp⟩⟩
  | drops | failsAndDrops | lost => exact .drops ho hf he hq hold fun t ha => ha.elim
  | registers hp _ _ | registersBare hp _ => exact absurd hp (ho.not_registering he hs)
  | renewed _ hser _ hc | rotated _ hser hc => exact .installs ho hf he hq hser hold hc
  | @retained r since f hp =>
    have hfit : Suits w e r .renew := htend.points op _ hp rfl
    refine htend.keeps hf (Nat.le_refl _) rfl rfl (fun t ha _ => ?_) fun q hq => by cases hq
    rw [show t.job = ⟨h, r, .renew⟩ from ha]
    exact hfit
  | @failsAndLoses r since f hp hr =>
    have hfit : Suits w e r .renew := htend.points op _ hp rfl
    refine htend.keeps hf (Nat.le_refl _) rfl rfl hkept fun q hq => ?_
    cases hq
    exact ⟨hfit.names, fun _ => ⟨hr, by rw [hfit.1]; simp⟩⟩
  | refused _ _ => exact htend.keeps hf (Nat.le_refl _) rfl rfl hkept fun q hq => by cases hq

/-- The first fetch of a secret leaves its entry tended. -/
theorem tended_of_first (ho : Orderly w) {l : List Nat}
    (hf : Frame c w w' op h (some { e with snapshot := s, lock := l, standing := .registered }) none
      added care n)
    (he : w.face? h = some e) (hp : w.point? op = some (.registering h))
    (hq : Queues w op h e.lock l none) (hk : Works w op h e s st none added care n) :
    Tended w' h { e with snapshot := s, lock := l, standing := .registered } := by
  have hpend := (ho.calm.pending op _ h e hp rfl he).mpr rfl
  have hold : ∀ a r b, w.point? a = some (.queued h (.act r b)) → r.serial < w.nextSnapshot :=
    fun a r b hq => by cases (ho.calm.pending a _ h e hq rfl he).mp hpend
  rcases ho.first_of_works he hp hk with ⟨r, rfl, hser, -, hc, rfl⟩ | ⟨_, _, rfl, -, -, rfl, rfl⟩
  · exact .installs ho hf he hq hser hold hc
  · refine .drops ho hf he hq hold fun t ha hh => ?_
    cases hpend.symm.trans (ho.calm.working t ha e (by rw [hh]; exact he))

/-- The entry that an operation works on is tended. -/
theorem tended_of_works (ho : Orderly w) (ht : Tends w) {l : List Nat}
    (hf : Frame c w w' op h (some { e with snapshot := s, lock := l, standing := .registered }) p
      added care n)
    (he : w.face? h = some e) (hs : e.standing = .registered ∨ w.point? op = some (.registering h) ∧
      p = none)
    (hq : Queues w op h e.lock l p) (hk : Works w op h e s st p added care n) :
    Tended w' h { e with snapshot := s, lock := l, standing := .registered } := by
  rcases hs with hs | ⟨hp, rfl⟩
  · exact (ht.registered h e he hs).works ho hs hf he hq hk
  · exact tended_of_first ho hf he hp hq hk

/-! ## Every turn keeps it -/

theorem tends_initial (settings : Settings) (d : Discipline) (draws : Nat → Nat) :
    Tends (initial settings d draws) :=
  ⟨fun _ _ he => (by cases he), fun _ _ he => (by cases he)⟩

theorem snapshots_of_works (hk : Works w op h e s st p added care n) : w.nextSnapshot ≤ n := by
  cases hk <;> first | exact Nat.le_refl _ | exact Nat.le_succ _

/-- No snapshot is unlearnt. -/
theorem snapshots_of_deed (hd : Deed w w' op h face p added care n) : w.nextSnapshot ≤ n := by
  cases hd with
  | adds | forgets => exact Nat.le_refl _
  | removes _ _ _ _ hn _ => exact hn
  | works _ _ _ hk => exact snapshots_of_works hk

/-- Entries other than the one that an operation gets on with are tended as before. -/
theorem Tends.of_deed (ht : Tends w) (ho : Orderly w) (hf : Frame c w w' op h face p added care n)
    (hd : Deed w w' op h face p added care n)
    (hreg : ∀ e, face = some e → e.standing = .registered → Tended w' h e)
    (hpend : ∀ e, face = some e → e.standing = .pending → e.snapshot = none ∧
      w.changes h ++ added = []) : Tends w' where
  registered k e he hs := by
    by_cases hk : k = h
    · subst hk
      exact hreg e (hf.face ▸ he) hs
    refine (ht.registered k e (hf.faces k hk ▸ he) hs).congr hf.threshold
      (hf.nextSnapshot ▸ snapshots_of_deed hd)
      (fun t hl hh => hf.others t hl (hh ▸ hk)) fun a q hq hw => ?_
    by_cases ha : a = op
    · subst ha
      exact absurd (Option.some.inj (hw.symm.trans (ho.wants_after_deed hd (hf.point ▸ hq)))) hk
    · exact hf.points a ha ▸ hq
  pending k e he hs := by
    by_cases hk : k = h
    · subst hk
      exact hf.change ▸ hpend e (hf.face ▸ he) hs
    · exact hf.changes k hk ▸ ht.pending k e (hf.faces k hk ▸ he) hs

/-- As long as an engine is not shut down, every turn keeps its entries tended. -/
theorem tends_of_advance (ho : Orderly w) (ht : Tends w) (ha : Advance w w') : Tends w' := by
  cases ha with
  | rests hq =>
    refine ⟨fun k e he hs => ?_, fun k e he hs => ?_⟩
    · exact (ht.registered k e (hq.faces k ▸ he) hs).congr hq.threshold
        (Nat.le_of_eq hq.nextSnapshot.symm) (fun t hl _ => hq.live t hl)
        fun a q hqa _ => hq.points a ▸ hqa
    · rw [hq.changes]
      exact ht.pending k e (hq.faces k ▸ he) hs
  | acts hf hd =>
    refine ht.of_deed ho hf hd (fun f hfe hs => ?_) fun f hfe hs => ?_
    · cases hd with
      | adds _ _ _ hp _ _ =>
        cases hfe
        cases hp.symm.trans hs
      | forgets => cases hfe
      | removes _ _ _ _ _ _ =>
        cases hfe
        cases hs
      | works he hr hq hk =>
        obtain ⟨rfl, hreg⟩ := ho.standing_of_works he hr hk
        cases hfe
        exact tended_of_works ho ht hf he hreg hq hk
    · cases hd with
      | adds _ hh _ _ hsn _ =>
        cases hfe
        exact ⟨hsn, (List.append_nil _).trans (ho.silent _ (Nat.le_of_eq hh.symm))⟩
      | forgets => cases hfe
      | removes _ _ _ _ _ _ =>
        cases hfe
        cases hs
      | works he hr _ hk =>
        obtain ⟨rfl, -⟩ := ho.standing_of_works he hr hk
        cases hfe
        cases hs

/-! ## Runs -/

/-- What holds at the start of a run that does not shut the engine down, and is kept by its
turns, holds at its end. -/
theorem run?_keeps_open {P : World → Prop} {settings : Settings} {d : Discipline}
    {draws : Nat → Nat} {ms : List Move} (h : run? (initial settings d draws) ms = some w)
    (hd : w.destroyed = false) (h₀ : P (initial settings d draws))
    (hstep : ∀ {v v' : World} {m : Move}, Orderly v → Tends v → P v → Turn v m v' → Advance v v' →
      P v') : Orderly w ∧ Tends w ∧ P w := by
  refine run?_keeps (P := fun v => v.destroyed = false → Orderly v ∧ Tends v ∧ P v)
    (fun {v v' m} hv ht hd' => ?_)
    (fun _ => ⟨orderly_initial settings d draws, tends_initial settings d draws, h₀⟩) h hd
  obtain ⟨ho, hk, hp⟩ := hv (destroyed_of_turn ht hd')
  have ha := advance_of_turn ho.booked ho.calm ht hd'
  exact ⟨ho.of_advance ha, tends_of_advance ho hk ha, hstep ho hk hp ht ha⟩

end LeaseKeeper.Leases
