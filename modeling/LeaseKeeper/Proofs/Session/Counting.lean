import LeaseKeeper.Proofs.Metrics.Tallies
import LeaseKeeper.Proofs.Session.Turns

/-!
# What a session counts

A session that is observed by somebody who counts (`Audience.Metered`) counts the logins that are
answered, the renewals that are answered while it is not shut down (`World.counts`), and the events it
publishes, in every step (`counts_of_turn`) and so in every run (`counts_of_run`).
-/

namespace LeaseKeeper.Session

open World

/-- The mark of an event, if it was published. -/
def Happening.mark? : Happening → Option Mark
  | .published e _ => some (.sessionEvent e.kind)
  | _ => none

namespace World

/-- The marks of the events that were published, the latest first. -/
def published (w : World) : List Mark := w.history.filterMap Happening.mark?

/-- What is counted of the answer that a move brings. -/
def counts (w : World) : Move → List Mark
  | .answer _ (.login r) => [.login r.isOk]
  | .answer _ (.renewal r) => if w.destroyed then [] else [.renewal .session r.isOk]
  | _ => []

end World

/-- Whether a move leaves those in place who count, and brings no other. -/
def Move.Spares (ids : Channel → Nat) : Move → Prop
  | .listen _ o => o.behaviour ≠ .measure
  | .unlisten c id => id ≠ ids c
  | _ => True

/-- What was counted from `w` to `u`, but for events. -/
structure Counts (ids : Channel → Nat) (w u : World) (js : List Mark) : Prop where
  metered : u.audience.Metered ids
  tally : Tally w.audience.metrics u.audience.metrics w.published u.published js
  managed : u.audience.metrics.managed = w.audience.metrics.managed

namespace Counts

variable {ids : Channel → Nat} {w u v : World} {js : List Mark} {op : Nat} {m : Move}

theorem refl (hm : w.audience.Metered ids) : Counts ids w w [] := ⟨hm, .refl .., rfl⟩

/-- Nothing is published or counted. -/
theorem same (h : Counts ids w u js) (ha : v.audience = u.audience) (hh : v.published = u.published) :
    Counts ids w v js := by
  refine ⟨ha ▸ h.metered, ?_, ha ▸ h.managed⟩
  rw [ha, hh]
  exact h.tally

theorem publish (h : Counts ids w u js) (e : SessionEvent) : Counts ids w (u.publish e) js := by
  refine ⟨h.metered.hear .., ?_, ?_⟩
  · refine Eq.subst (motive := fun m => Tally _ m _ _ _) (h.metered.metrics_hear ..).symm ?_
    exact h.tally.mark rfl
  · exact (congrArg Metrics.managed (h.metered.metrics_hear ..)).trans h.managed

theorem timed (h : Counts ids w u js) (ok : Bool) (since : Instant) :
    Counts ids w (u.timed ok since) (.login ok :: js) :=
  ⟨⟨h.metered.meters⟩, h.tally.login .., h.managed⟩

theorem count (h : Counts ids w u js) (ok : Bool) :
    Counts ids w { u with audience := u.audience.count (.renewal .session ok) }
      (.renewal .session ok :: js) :=
  ⟨⟨h.metered.meters⟩, h.tally.mark rfl, h.managed⟩

theorem cancelTask (h : Counts ids w u js) : Counts ids w u.cancelTask js := h.same rfl rfl

theorem reap (h : Counts ids w u js) : Counts ids w u.reap js := by
  unfold World.reap
  split
  · exact h
  · exact h.cancelTask

theorem finish (h : Counts ids w u js) (op : Nat) (o : Outcome) : Counts ids w (u.finish op o) js :=
  .reap (h.same rfl rfl)

theorem call (h : Counts ids w u js) (op : Nat) (c : Call) (p : Point) :
    Counts ids w (u.call op c p) js := h.same rfl rfl

theorem endLogin (h : Counts ids w u js) (op : Nat) (purpose : Purpose) (r : Except Fault Grant) :
    Counts ids w (u.endLogin op purpose r) js := by
  rw [endLogin_eq]
  refine .finish ?_ ..
  exact h.same rfl rfl

theorem renewalDelay (h : Counts ids w u js) (c : Credential) :
    Counts ids w (u.renewalDelay c).2 js := by
  unfold World.renewalDelay
  split
  · exact h
  · exact h.same rfl rfl

theorem scheduleRenewal (h : Counts ids w u js) (g : Grant) :
    Counts ids w (u.scheduleRenewal g) js := by
  have hr := h.renewalDelay g.credential
  unfold World.scheduleRenewal
  split
  · exact h
  split
  · exact h.same rfl rfl
  split <;> rename_i he <;> rw [he] at hr
  · exact hr
  · exact hr.same rfl rfl

theorem installs (h : Counts ids w u js) (c : Credential) (e : Grant → SessionEvent) :
    Counts ids w (u.installs c e) js := by
  refine .scheduleRenewal (.publish ?_ _) _
  exact h.same rfl rfl

theorem dropExpired (h : Counts ids w u js) : Counts ids w u.dropExpired js := by
  obtain he | ⟨g, -, -, he⟩ := u.dropExpired_eq <;> rw [he]
  · exact h
  · refine .publish ?_ _
    exact h.same rfl rfl

theorem tellRevocation (h : Counts ids w u js) (g : Grant) (r : Except Fault Unit) :
    Counts ids w (u.tellRevocation g r) js := by
  cases r <;> exact h.publish _

/-! ## Every turn -/

theorem of_acquires {purpose : Purpose} (h : Counts ids w u js) (ha : Acquires u op purpose v) :
    Counts ids w v js := by
  cases ha with
  | shut | found => exact h.finish ..
  | starts _ _ _ =>
    refine .call (.dropExpired ?_) ..
    exact h.same rfl rfl
  | waits _ _ _ => exact h.same rfl rfl

theorem of_enters {observed : Nat} {purpose : Purpose} (h : Counts ids w u js)
    (he : Enters u op observed purpose v) : Counts ids w v js := by
  cases he with
  | shut | found | shared =>
    refine .finish ?_ ..
    exact h.same rfl rfl
  | starts => exact .call h.dropExpired ..

theorem of_welcomes {purpose : Purpose} {c : Credential} (h : Counts ids w u js)
    (hw : Welcomes u op purpose c v) : Counts ids w v js := by
  cases hw with
  | late => exact h.same rfl rfl
  | dropped =>
    refine .endLogin ?_ ..
    exact h.same rfl rfl
  | installed => exact .endLogin (h.installs ..) ..

theorem of_takes (h : Counts ids w u js) (ht : Takes u op v) : Counts ids w v js := by
  cases ht with
  | quiet =>
    refine .finish ?_ ..
    exact h.same rfl rfl
  | sends => exact h.same rfl rfl

theorem of_loses {g : Grant} (h : Counts ids w u js) (hl : Loses u op g v) : Counts ids w v js := by
  cases hl with
  | superseded => exact h.finish ..
  | again _ _ ha =>
    refine of_acquires ?_ ha
    exact h.same rfl rfl
  | ended =>
    refine .finish (.publish ?_ _) ..
    exact h.same rfl rfl

theorem told (h : Counts ids w u js) (g : Grant) (f : Fault) :
    Counts ids w (u.told g f) (.renewal .session false :: js) := (h.count false).publish _

theorem of_renews {g : Grant} {r : Except Fault Credential} (hm : w.audience.Metered ids)
    (hr : Renews w op g r v) : Counts ids w v (w.counts (.answer op (.renewal r))) := by
  have h := refl hm
  cases hr with
  | discarded hd =>
    rw [counts, if_pos hd]
    exact h.finish ..
  | superseded hd _ =>
    rw [counts, if_neg (by simp [hd])]
    refine .finish ?_ ..
    exact (h.count true).same rfl rfl
  | brief hd _ _ =>
    rw [counts, if_neg (by simp [hd])]
    refine .finish (.publish ?_ _) ..
    exact (h.count true).same rfl rfl
  | renewed hd _ _ =>
    rw [counts, if_neg (by simp [hd])]
    exact .finish ((h.count true).installs ..) ..
  | @retried f hd _ _ =>
    rw [counts, if_neg (by simp [hd])]
    exact .finish (.scheduleRenewal (.renewalDelay (h.told g f) _) _) ..
  | @tooLate f _ hd _ _ hl =>
    rw [counts, if_neg (by simp [hd])]
    exact of_loses (.renewalDelay (h.told g f) _) hl
  | @failed f _ hd _ hl =>
    rw [counts, if_neg (by simp [hd])]
    exact of_loses (h.told g f) hl

end Counts

/-- What a step counts. -/
theorem counts_of_turn {ids : Channel → Nat} {w w' : World} {m : Move} (hm : w.audience.Metered ids)
    (hs : m.Spares ids) (ht : Turn w m w') : Counts ids w w' (w.counts m) := by
  have h := Counts.refl hm
  have hfires : ∀ {t s}, w.Fires m t s →
      Counts ids w ({ w with schedule := s } : World).enrolled (w.counts m) := fun hf => by
    cases hf <;> exact h.same rfl rfl
  cases ht with
  | token _ ha =>
    refine .of_acquires ?_ ha
    exact h.same rfl rfl
  | revoke _ hk =>
    refine .of_takes ?_ hk
    exact h.same rfl rfl
  | destroyAgain _ _ =>
    refine .finish ?_ ..
    exact h.same rfl rfl
  | destroy _ _ hk =>
    refine .of_takes ?_ hk
    exact h.same rfl rfl
  | orphan hf _ => exact (hfires hf).same rfl rfl
  | stale hf _ _ => exact (hfires hf).finish ..
  | renew hf _ _ _ _ => exact (hfires hf).call ..
  | expire hf _ _ _ _ =>
    refine .finish (.publish ?_ _) ..
    exact (hfires hf).same rfl rfl
  | enter _ _ he => exact h.of_enters he
  | loginFailed _ => exact ((h.timed ..).publish _).endLogin ..
  | looksUp _ _ => exact (h.timed ..).call ..
  | welcome _ _ hw => exact (h.timed ..).of_welcomes hw
  | lookedUp _ hw | notLookedUp _ hw => exact h.of_welcomes hw
  | discarded _ => exact (h.tellRevocation ..).endLogin ..
  | renewed _ hr => exact .of_renews hm hr
  | revoked _ => exact (h.tellRevocation ..).finish ..
  | abandon _ =>
    refine .reap ?_
    exact h.same rfl rfl
  | elapse _ _ | stop => exact h.same rfl rfl
  | release =>
    refine .reap ?_
    exact h.same rfl rfl
  | listen => exact ⟨hm.add _ hs, h.tally, rfl⟩
  | unlisten => exact ⟨hm.remove hs, h.tally, rfl⟩

/-- What a run counts. -/
theorem counts_of_run {ids : Channel → Nat} {w w' : World} {ms : List Move}
    (hm : w.audience.Metered ids) (hs : ∀ m ∈ ms, m.Spares ids) (hrun : run? w ms = some w') :
    Counts ids w w' (countsAlong step World.counts w ms) := by
  induction ms generalizing w with
  | nil =>
    cases hrun
    exact .refl hm
  | cons m ms ih =>
    obtain ⟨u, hu, hrun⟩ := Option.bind_eq_some_iff.mp hrun
    have h₁ := counts_of_turn hm (hs m List.mem_cons_self) (turn_of_step hu)
    have h₂ := ih h₁.metered (fun k hk => hs k (List.mem_cons_of_mem _ hk)) hrun
    rw [countsAlong, hu]
    exact ⟨h₂.metered, h₁.tally.trans h₂.tally, h₂.managed.trans h₁.managed⟩

/-! ## What the counts are -/

/-- Whether the event of that name was published. -/
def Happening.publishes (kind : String) : Happening → Bool
  | .published e _ => e.kind == kind
  | _ => false

namespace World

/-- Whether a login is answered, with that outcome. -/
def answersLogin (ok : Bool) (_ : World) : Move → Bool
  | .answer _ (.login r) => r.isOk == ok
  | _ => false

/-- Whether a renewal is answered while the session is not shut down, with that outcome. -/
def answersRenewal (ok : Bool) (w : World) : Move → Bool
  | .answer _ (.renewal r) => !w.destroyed && r.isOk == ok
  | _ => false

theorem count_published (w : World) (kind : String) :
    w.published.count (.sessionEvent kind) = w.history.countP (Happening.publishes kind) := by
  unfold published
  induction w.history with
  | nil => rfl
  | cons x xs ih =>
    rw [List.countP_cons, ← ih]
    cases x <;> simp [Happening.mark?, Happening.publishes, List.count_cons, List.filterMap_cons]

theorem isSession_published (w : World) : ∀ k ∈ w.published, k.isSession = true := by
  intro k hk
  obtain ⟨x, -, hx⟩ := List.mem_filterMap.mp hk
  cases x with
  | published e _ =>
    cases hx
    rfl
  | _ => cases hx

theorem count_counts (w : World) (m : Move) (ok : Bool) :
    (w.counts m).count (.login ok) = (w.answersLogin ok m).toNat ∧
      (w.counts m).count (.renewal .session ok) = (w.answersRenewal ok m).toNat := by
  cases m with
  | answer op r =>
    cases r with
    | login r => cases hr : r.isOk <;> cases ok <;> simp [counts, answersLogin, answersRenewal, hr]
    | renewal r =>
      cases hd : w.destroyed <;> cases hr : r.isOk <;> cases ok <;>
        simp [counts, answersLogin, answersRenewal, hd, hr]
    | _ => exact ⟨rfl, rfl⟩
  | _ => exact ⟨rfl, rfl⟩

theorem isSession_counts (w : World) (m : Move) : ∀ k ∈ w.counts m, k.isSession = true := by
  cases m with
  | answer op r =>
    cases r with
    | login r => simp [counts, Mark.isSession]
    | renewal r => cases hd : w.destroyed <;> simp [counts, Mark.isSession, hd]
    | _ => simp [counts]
  | _ => simp [counts]

end World

/-- Observers register. -/
theorem listen_of_run {w w₀ : World} {ls : List (Channel × Observer)}
    (h : run? w (ls.map fun l => .listen l.1 l.2) = some w₀) :
    w₀.audience.metrics = w.audience.metrics ∧ w₀.history = w.history := by
  induction ls generalizing w with
  | nil =>
    cases h
    exact ⟨rfl, rfl⟩
  | cons l ls ih => exact ih (w := (w.listen l.1 l.2).2) h

/-- What the counters of a session show after the moves `ms` from `w₀`. -/
structure Reports (w₀ : World) (ms : List Move) (w : World) : Prop where
  logins : ∀ ok, w.audience.metrics.count (.login ok) = timesAlong step (answersLogin ok) w₀ ms
  spans : w.audience.metrics.loginSpans.length =
    w.audience.metrics.count (.login true) + w.audience.metrics.count (.login false)
  renewals : ∀ ok, w.audience.metrics.count (.renewal .session ok) =
    timesAlong step (answersRenewal ok) w₀ ms
  events : ∀ kind, w.audience.metrics.count (.sessionEvent kind) =
    w.history.countP (Happening.publishes kind)
  /-- It makes no mark of a lease engine. -/
  foreign : ∀ k, k.isSession = false → w.audience.metrics.count k = 0
  managed : w.audience.metrics.managed = none

/-- A session to which somebody listens who counts. -/
theorem reports_of_run {settings : Settings} {d : Discipline} {draws : Nat → Nat}
    {ls : List (Channel × Observer)} {ids : Channel → Nat} {w₀ w : World} {ms : List Move}
    (hw₀ : run? (.initial settings d draws) (ls.map fun l => .listen l.1 l.2) = some w₀)
    (hm : w₀.audience.Metered ids) (hs : ∀ m ∈ ms, m.Spares ids) (hrun : run? w₀ ms = some w) :
    Reports w₀ ms w := by
  obtain ⟨hmetrics, hhistory⟩ := listen_of_run hw₀
  have hc := counts_of_run hm hs hrun
  have ht : Tally .empty w.audience.metrics [] w.published (countsAlong step World.counts w₀ ms) := by
    have ht := hc.tally
    rwa [hmetrics, World.published, hhistory] at ht
  have hk := ht.count_eq
  refine ⟨fun ok => ?_, ht.spans_eq, fun ok => ?_, fun kind => ?_, fun k hf => ?_, ?_⟩
  · rw [(hk _).2 rfl, count_countsAlong step fun w m => (count_counts w m ok).1]
  · rw [(hk _).2 rfl, count_countsAlong step fun w m => (count_counts w m ok).2]
  · rw [(hk _).1 rfl, count_published]
  · refine ht.count_eq_zero (fun hmem => ?_) fun hmem => ?_
    · cases hf.symm.trans (isSession_published w k hmem)
    · cases hf.symm.trans (of_mem_countsAlong step isSession_counts w₀ ms k hmem)
  · rw [hc.managed, hmetrics]
    rfl

end LeaseKeeper.Session
