import LeaseKeeper.Proofs.Session.Care

/-!
# What a step leaves behind of grants and notes

A session has hold of a grant that is installed, under renewal, or the aim of a task
(`World.Holds`). Whatever a step adds to these is one new grant, whose number comes from the step
itself, so a number stands for one grant only (`Distinct`, `distinct_turn`). Every note of an
observer goes back to an event that was published, and an observer that looks finds what was
installed at that moment, if its lifetime was not over (`Witnessed`). Both follow from `Follows`,
which every part of a step keeps up.
-/

namespace LeaseKeeper

namespace Audience

variable {E V : Type}

/-- What an observer notes of an announcement is its event and, if it looks, the view that comes
with it. -/
theorem mem_attend (now : Instant) (n : Announcement E V) (r : Registration Observer)
    (a : Audience E V) {x : Note E V} (h : x ∈ (attend now n r a).1.notes) :
    x ∈ a.notes ∨ x.event = n.event ∧ x.time = now ∧ (x.sees = none ∨ x.sees = some n.view) := by
  have hnote : ∀ {o sees}, x ∈ (a.note now n.event o sees).notes → (sees = none ∨ sees = some n.view) →
      x ∈ a.notes ∨ x.event = n.event ∧ x.time = now ∧ (x.sees = none ∨ x.sees = some n.view) :=
    fun hx hs => by
      rcases List.mem_cons.mp hx with rfl | hx
      · exact .inr ⟨rfl, rfl, hs⟩
      · exact .inl hx
  unfold attend at h
  split at h
  · exact hnote h (.inl rfl)
  · exact hnote h (.inl rfl)
  · exact hnote h (.inl rfl)
  · exact hnote h (.inr rfl)
  · exact .inl h
  · exact .inl h

theorem notes_hear (now : Instant) (n : Announcement E V) (a : Audience E V) {x : Note E V}
    (h : x ∈ (a.hear now n).notes) :
    x ∈ a.notes ∨ x.event = n.event ∧ x.time = now ∧ (x.sees = none ∨ x.sees = some n.view) := by
  unfold hear at h
  generalize a.listeners.targets n.isError = rs at h
  induction rs generalizing a with
  | nil => exact .inl h
  | cons r rs ih =>
    rcases ih _ h with h | h
    · exact mem_attend now n r a h
    · exact .inr h

end Audience

namespace Session

namespace World

/-- What an observer finds that looks while `i` is installed. -/
def shown (i : Option Grant) (t : Instant) : Option Credential :=
  (i.filter fun g => !g.credential.isExpired t).map Grant.credential

/-- That grant is installed, under renewal, or the aim of a task. -/
def Holds (w : World) (g : Grant) : Prop :=
  w.current = some g ∨ (∃ op, w.Renewing op g) ∨ ∃ t ∈ w.schedule.waiting, t.job.grant = g

/-- Each note is of an event that was published, and shows what was installed then. -/
def Witnessed (w : World) : Prop :=
  ∀ n ∈ w.audience.notes, ∃ i, .published n.event i ∈ w.history ∧
    ∀ v, n.sees = some (some v) → v.credential = shown i n.time

/-- On the way from `w` to `u` no grant has come up but one of that credential, and all notes go
back to what was published. -/
structure Follows (c : Credential) (w u : World) : Prop where
  next : w.nextGrant ≤ u.nextGrant
  holds : ∀ g, u.Holds g → w.Holds g ∨ g = ⟨w.nextGrant, c⟩ ∧ w.nextGrant < u.nextGrant
  witnessed : w.Witnessed → u.Witnessed

variable {w u v w' : World} {m : Move} {op : Nat} {c : Credential}

namespace Follows

/-- Where a grant comes from that the session has hold of on the way. -/
abbrev Knows (c : Credential) (w u : World) (g : Grant) : Prop :=
  w.Holds g ∨ g = ⟨w.nextGrant, c⟩ ∧ w.nextGrant < u.nextGrant

theorem refl (c : Credential) (w : World) : Follows c w w := ⟨Nat.le_refl _, fun _ => .inl, id⟩

theorem knows_mono {g : Grant} (hn : u.nextGrant ≤ v.nextGrant) (hk : Knows c w u g) : Knows c w v g :=
  hk.imp id fun ⟨he, hlt⟩ => ⟨he, Nat.lt_of_lt_of_le hlt hn⟩

/-- A change by which nothing new comes up but what is known already, and nothing is told. -/
theorem trans (h : Follows c w u) (hn : u.nextGrant ≤ v.nextGrant)
    (hv : ∀ g, v.Holds g → u.Holds g ∨ Knows c w v g) (hnotes : v.audience.notes = u.audience.notes)
    (hh : ∀ x ∈ u.history, x ∈ v.history) : Follows c w v where
  next := Nat.le_trans h.next hn
  holds g hg := (hv g hg).elim (fun hu => knows_mono hn (h.holds g hu)) id
  witnessed hw n hm := by
    obtain ⟨i, hi, hs⟩ := h.witnessed hw n (hnotes ▸ hm)
    exact ⟨i, hh _ hi, hs⟩

/-- A change that leaves the grants alone. -/
theorem same (h : Follows c w u) (hc : v.current = u.current) (ho : v.operations = u.operations)
    (hs : v.schedule.waiting = u.schedule.waiting) (hn : u.nextGrant ≤ v.nextGrant)
    (hnotes : v.audience.notes = u.audience.notes) (hh : v.history = u.history) : Follows c w v := by
  refine h.trans hn (fun g hg => .inl ?_) hnotes fun _ => by rw [hh]; exact id
  unfold Holds Renewing point? at hg ⊢
  rwa [hc, ho, hs] at hg

theorem waiting_cancel? (s : Schedule Job) (slot : Option Nat) :
    (s.cancel? slot).waiting = s.waiting := by
  cases slot with
  | none => rfl
  | some id => simp only [Schedule.cancel?, Schedule.cancel]; split <;> rfl

theorem cancelTask (h : Follows c w u) : Follows c w u.cancelTask :=
  h.same rfl rfl (waiting_cancel? ..) (Nat.le_refl _) rfl rfl

theorem publish (h : Follows c w u) (e : SessionEvent) : Follows c w (u.publish e) where
  next := h.next
  holds := h.holds
  witnessed hw n hm := by
    rcases Audience.notes_hear _ _ _ hm with hm | ⟨he, ht, hs⟩
    · obtain ⟨i, hi, hs⟩ := h.witnessed hw n hm
      exact ⟨i, List.mem_cons_of_mem _ hi, hs⟩
    · refine ⟨u.current, he ▸ List.mem_cons_self .., fun v hv => ?_⟩
      -- Whoever looks is shown the view of that moment, if anybody holds the session.
      rw [hv] at hs
      simp only [reduceCtorEq, Option.some.injEq, false_or] at hs
      split at hs
      · cases hs
        rw [ht]
        rfl
      · cases hs

theorem clear (h : Follows c w u) : Follows c w (u.install none) := by
  refine h.trans (Nat.le_refl _) (fun g hg => .inl ?_) rfl fun _ => id
  rcases hg with hg | hg
  · cases hg
  · exact .inr hg

theorem install (h : Follows c w u) {g : Grant} (hk : Knows c w u g) :
    Follows c w (u.install (some g)) := by
  refine h.trans (Nat.le_refl _) (fun i hi => ?_) rfl fun _ => id
  rcases hi with hi | hi
  · cases hi
    exact .inr hk
  · exact .inl (.inr hi)

theorem reap (h : Follows c w u) : Follows c w u.reap := by
  unfold World.reap
  split
  · exact h
  · exact h.cancelTask

/-- An operation is struck out. -/
theorem strike (h : Follows c w u) (op : Nat) :
    Follows c w { u with operations := u.operations.filter (·.1 != op) } := by
  refine h.trans (Nat.le_refl _) (fun g hg => .inl ?_) rfl fun _ => id
  rcases hg with hg | ⟨q, s, hq⟩ | hg
  · exact .inl hg
  · change (u.operations.filter (·.1 != op)).lookup q = _ at hq
    rw [lookup_filter] at hq
    split at hq
    · cases hq
    · exact .inr (.inl ⟨q, s, hq⟩)
  · exact .inr (.inr hg)

theorem note (h : Follows c w u) (x : Happening) : Follows c w (u.note x) :=
  h.trans (Nat.le_refl _) (fun _ => .inl) rfl fun _ => List.mem_cons_of_mem _

theorem finish (h : Follows c w u) (op : Nat) (o : Outcome) : Follows c w (u.finish op o) :=
  ((h.strike op).note _).reap

theorem endLogin (h : Follows c w u) (op : Nat) (purpose : Purpose) (r : Except Fault Grant) :
    Follows c w (u.endLogin op purpose r) := by
  rw [endLogin_eq]
  refine .finish ?_ _ _
  exact h.same rfl rfl rfl (Nat.le_refl _) rfl rfl

/-- An operation goes to a point where it renews what is known, if anything. -/
theorem setPoint (h : Follows c w u) (op : Nat) {p : Point}
    (hp : ∀ g since, p = .renewing g since → Knows c w u g) : Follows c w (u.setPoint op p) := by
  refine h.trans (Nat.le_refl _) (fun g hg => ?_) rfl fun _ => id
  rcases hg with hg | ⟨q, s, hq⟩ | hg
  · exact .inl (.inl hg)
  · rw [point?_setPoint] at hq
    split at hq
    · exact .inr (hp g s (Option.some.inj hq))
    · exact .inl (.inr (.inl ⟨q, s, hq⟩))
  · exact .inl (.inr (.inr hg))

theorem call (h : Follows c w u) (op : Nat) (k : Call) {p : Point}
    (hp : ∀ g since, p = .renewing g since → Knows c w u g) : Follows c w (u.call op k p) :=
  (h.setPoint op hp).note _

theorem replaceTask (h : Follows c w u) (delay : Span) {job : Job} (hk : Knows c w u job.grant) :
    Follows c w (u.replaceTask delay job) := by
  refine h.trans (Nat.le_refl _) (fun g hg => ?_) rfl fun _ => id
  rcases hg with hg | hg | ⟨t, ht, he⟩
  · exact .inl (.inl hg)
  · exact .inl (.inr (.inl hg))
  · change t ∈ ((u.schedule.add u.now delay job).2.cancel? u.slot).waiting at ht
    rw [waiting_cancel?] at ht
    rcases List.mem_append.mp ht with ht | ht
    · exact .inl (.inr (.inr ⟨t, ht, he⟩))
    · rw [List.mem_singleton] at ht
      subst ht
      exact .inr (he ▸ hk)

theorem renewalDelay (h : Follows c w u) (d : Credential) : Follows c w (u.renewalDelay d).2 := by
  obtain ⟨_, _, he⟩ := u.snd_renewalDelay d
  rw [he]
  exact h.same rfl rfl rfl (Nat.le_refl _) rfl rfl

theorem scheduleRenewal (h : Follows c w u) {g : Grant} (hk : Knows c w u g) :
    Follows c w (u.scheduleRenewal g) := by
  have hr := h.renewalDelay g.credential
  have hn : (u.renewalDelay g.credential).2.nextGrant = u.nextGrant := by
    obtain ⟨_, _, he⟩ := u.snd_renewalDelay g.credential
    rw [he]
  unfold World.scheduleRenewal
  split
  · exact h
  split
  · exact h.replaceTask _ hk
  split <;> rename_i he <;> rw [he] at hr hn
  · exact hr
  · exact hr.replaceTask _ (knows_mono (Nat.le_of_eq hn.symm) hk)

/-- The credential itself is installed. -/
theorem installs (h : Follows c w u) (hn : u.nextGrant = w.nextGrant) (e : Grant → SessionEvent) :
    Follows c w (u.installs c e) := by
  have hm : Follows c w u.minted := h.same rfl rfl rfl (Nat.le_succ _) rfl rfl
  have hk : Knows c w u.minted ⟨u.nextGrant, c⟩ :=
    .inr ⟨by rw [hn], hn ▸ Nat.lt_succ_self _⟩
  exact ((hm.install hk).publish _).scheduleRenewal hk

theorem dropExpired (h : Follows c w u) : Follows c w u.dropExpired := by
  obtain he | ⟨g, -, -, he⟩ := u.dropExpired_eq <;> rw [he]
  · exact h
  · exact (h.clear.cancelTask).publish _

theorem tellRevocation (h : Follows c w u) (g : Grant) (r : Except Fault Unit) :
    Follows c w (u.tellRevocation g r) := by
  cases r <;> exact h.publish _

/-- A task that is started was waiting, and those that are left were. -/
theorem waiting_of_fires {t : Task Job} {s : Schedule Job} (hf : w.Fires m t s) :
    t ∈ w.schedule.waiting ∧ ∀ x ∈ s.waiting, x ∈ w.schedule.waiting := by
  have hlive : ∀ x ∈ w.schedule.live, x ∈ w.schedule.waiting := fun x hx =>
    (Schedule.mem_live.mp hx).1
  cases hf with
  | due h =>
    unfold Schedule.startDue at h
    split at h <;> cases h
    rename_i hu
    exact ⟨hlive _ (List.mem_of_find?_eq_some hu), fun x hx => hlive x (List.mem_filter.mp hx).1⟩
  | next h =>
    unfold Schedule.startNext at h
    split at h <;> cases h
    rename_i hu
    exact ⟨hlive _ (hu ▸ List.mem_cons_self ..), fun x hx => hlive x (hu ▸ List.mem_cons_of_mem _ hx)⟩

theorem starts {t : Task Job} {s : Schedule Job} (hf : w.Fires m t s) :
    Follows c w { w with schedule := s } := by
  refine (Follows.refl c w).trans (Nat.le_refl _) (fun g hg => .inl ?_) rfl fun _ => id
  rcases hg with hg | hg | ⟨x, hx, he⟩
  · exact .inl hg
  · exact .inr (.inl hg)
  · exact .inr (.inr ⟨x, (waiting_of_fires hf).2 x hx, he⟩)

/-! ## Every turn keeps it up -/

theorem of_acquires {purpose : Purpose} (h : Follows c w u) (ha : Acquires u op purpose v) :
    Follows c w v := by
  cases ha with
  | shut | found => exact h.finish _ _
  | starts _ _ _ =>
    refine .call (.dropExpired ?_) _ _ fun _ _ hp => by cases hp
    exact h.same rfl rfl rfl (Nat.le_refl _) rfl rfl
  | waits _ _ _ =>
    refine .setPoint ?_ _ fun _ _ hp => by cases hp
    exact h.same rfl rfl rfl (Nat.le_refl _) rfl rfl

theorem of_enters {observed : Nat} {purpose : Purpose} (he : Enters w op observed purpose v) :
    Follows c w v := by
  have h : Follows c w (w.unlock op) := (refl c w).same rfl rfl rfl (Nat.le_refl _) rfl rfl
  cases he with
  | shut | found | shared => exact h.finish _ _
  | starts _ _ _ => exact (refl c w).dropExpired.call _ _ fun _ _ hp => by cases hp

theorem of_welcomes {purpose : Purpose} (h : Follows c w u) (hn : u.nextGrant = w.nextGrant)
    (hw : Welcomes u op purpose c v) : Follows c w v := by
  have hm : Follows c w u.minted := h.same rfl rfl rfl (Nat.le_succ _) rfl rfl
  cases hw with
  | late _ _ => exact hm.call _ _ fun _ _ hp => by cases hp
  | dropped _ _ => exact hm.endLogin _ _ _
  | installed _ => exact (h.installs hn _).endLogin _ _ _

theorem of_takes (h : Follows c w u) (ht : Takes u op v) : Follows c w v := by
  cases ht with
  | quiet _ => exact h.cancelTask.clear.finish _ _
  | sends _ _ => exact h.cancelTask.clear.call _ _ fun _ _ hp => by cases hp

theorem of_loses {g : Grant} (h : Follows c w u) (hl : Loses u op g v) : Follows c w v := by
  cases hl with
  | superseded _ => exact h.finish _ _
  | again _ _ ha => exact h.clear.cancelTask.of_acquires ha
  | ended _ _ => exact (h.clear.cancelTask.publish _).finish _ _

theorem told (c : Credential) (w : World) (g : Grant) (f : Fault) : Follows c w (w.told g f) :=
  ((refl c w).same rfl rfl rfl (Nat.le_refl _) rfl rfl :
    Follows c w { w with audience := w.audience.count (.renewal .session false) }).publish _

/-- What the renewal of a grant comes to; what it brings is `c`, if it brings anything. -/
theorem of_renews {g : Grant} {r : Except Fault Credential} (hp : w.Renewing op g)
    (hc : ∀ d, r = .ok d → d = c) (hr : Renews w op g r v) : Follows c w v := by
  have hg : Follows c w w.granted := (refl c w).same rfl rfl rfl (Nat.le_refl _) rfl rfl
  have hm : Follows c w w.granted.minted := hg.same rfl rfl rfl (Nat.le_succ _) rfl rfl
  cases hr with
  | discarded _ => exact (refl c w).finish _ _
  | superseded _ _ => exact hm.finish _ _
  | brief _ _ _ => exact (hm.clear.cancelTask.publish _).finish _ _
  | renewed _ _ _ =>
    cases hc _ rfl
    exact (hg.installs rfl _).finish _ _
  | @retried f _ _ _ =>
    refine .finish (.scheduleRenewal ?_ (.inl (.inr (.inl ⟨op, hp⟩)))) _ _
    exact (told c w g f).renewalDelay _
  | tooLate _ _ _ hl => exact ((told ..).renewalDelay _).of_loses hl
  | failed _ _ hl => exact (told ..).of_loses hl

theorem of_turn (ht : Turn w m v) : ∃ c, Follows c w v := by
  have hn : ∀ {c}, Follows c w w.enrolled := (refl _ w).same rfl rfl rfl (Nat.le_refl _) rfl rfl
  have hfires : ∀ {c t s}, w.Fires m t s → Follows c w ({ w with schedule := s } : World).enrolled :=
    fun hf => (starts hf).same rfl rfl rfl (Nat.le_refl _) rfl rfl
  cases ht with
  | token _ ha => exact ⟨default, hn.of_acquires ha⟩
  | revoke _ hk => exact ⟨default, hn.of_takes hk⟩
  | destroyAgain _ _ => exact ⟨default, hn.finish _ _⟩
  | destroy _ _ hk =>
    have hd : Follows default w { w.enrolled with destroyed := true } :=
      hn.same rfl rfl rfl (Nat.le_refl _) rfl rfl
    exact ⟨default, hd.of_takes hk⟩
  | orphan hf _ => exact ⟨default, starts hf⟩
  | stale hf _ _ => exact ⟨default, (hfires hf).finish _ _⟩
  | @renew _ t _ g hf _ hj _ _ =>
    refine ⟨default, (hfires hf).call _ _ fun i s hi => ?_⟩
    cases hi
    exact .inl (.inr (.inr ⟨t, (waiting_of_fires hf).1, by rw [hj]; rfl⟩))
  | expire hf _ _ _ _ => exact ⟨default, ((hfires hf).clear.publish _).finish _ _⟩
  | enter _ _ he => exact ⟨default, of_enters he⟩
  | @loginFailed _ _ since f _ =>
    have h : Follows default w (w.timed false since) := (refl _ w).same rfl rfl rfl (Nat.le_refl _) rfl rfl
    exact ⟨default, (h.publish _).endLogin _ _ _⟩
  | @looksUp _ _ since d _ _ =>
    have h : Follows default w (w.timed true since) := (refl _ w).same rfl rfl rfl (Nat.le_refl _) rfl rfl
    exact ⟨default, h.call _ _ fun _ _ hp => by cases hp⟩
  | @welcome _ _ since d _ _ _ hw =>
    have h : Follows d w (w.timed true since) := (refl _ w).same rfl rfl rfl (Nat.le_refl _) rfl rfl
    exact ⟨d, h.of_welcomes rfl hw⟩
  | lookedUp _ hw | notLookedUp _ hw => exact ⟨_, (refl _ w).of_welcomes rfl hw⟩
  | discarded _ => exact ⟨default, ((refl _ w).tellRevocation _ _).endLogin _ _ _⟩
  | @renewed _ g since r _ hp hr =>
    cases r with
    | ok d => exact ⟨d, of_renews ⟨since, hp⟩ (fun _ he => (Except.ok.inj he).symm) hr⟩
    | error f => exact ⟨default, of_renews ⟨since, hp⟩ (fun _ he => by cases he) hr⟩
  | revoked _ => exact ⟨default, ((refl _ w).tellRevocation _ _).finish _ _⟩
  | @abandon op _ _ =>
    refine ⟨default, .reap (.strike ?_ op)⟩
    exact (refl _ w).same rfl rfl rfl (Nat.le_refl _) rfl rfl
  | release =>
    exact ⟨default, reap ((refl _ w).same rfl rfl rfl (Nat.le_refl _) rfl rfl)⟩
  | stop =>
    refine ⟨default, (refl _ w).same rfl rfl ?_ (Nat.le_refl _) rfl rfl⟩
    show w.schedule.stop.waiting = w.schedule.waiting
    rcases w.schedule.stop_cases with h | h <;> rw [h]
  | elapse | listen | unlisten => exact ⟨default, (refl _ w).same rfl rfl rfl (Nat.le_refl _) rfl rfl⟩

end Follows

/-! ## One grant for each number -/

/-- A number stands for one grant only. -/
structure Distinct (w : World) : Prop where
  lt : ∀ g, w.Holds g → g.serial < w.nextGrant
  inj : ∀ g h, w.Holds g → w.Holds h → g.serial = h.serial → g = h

theorem distinct_turn (h : w.Distinct) (ht : Turn w m w') : w'.Distinct := by
  obtain ⟨c, hf⟩ := Follows.of_turn ht
  refine ⟨fun g hg => ?_, fun a b ha hb he => ?_⟩
  · rcases hf.holds g hg with hg | ⟨rfl, hlt⟩
    · exact Nat.lt_of_lt_of_le (h.lt g hg) hf.next
    · exact hlt
  · rcases hf.holds a ha with ha | ⟨rfl, -⟩ <;> rcases hf.holds b hb with hb | ⟨rfl, -⟩
    · exact h.inj a b ha hb he
    · exact absurd (h.lt a ha) (by rw [he]; exact Nat.lt_irrefl _)
    · exact absurd (h.lt b hb) (by rw [← he]; exact Nat.lt_irrefl _)
    · rfl

/-- A grant under renewal that counts as installed is the installed one. -/
theorem Distinct.installed {g : Grant} (h : w.Distinct) (hg : w.Holds g) (hc : w.isCurrent g = true) :
    w.current = some g := by
  obtain ⟨i, hi, hs⟩ := isCurrent_iff.mp hc
  rw [hi, h.inj i g (.inl hi) hg hs]

end World

end Session

end LeaseKeeper
