import LeaseKeeper.Proofs.Session.Effects
import Mathlib.Data.List.Induction

/-!
# What a step of a session can do

`Turn` lists what may become of a session in one step: which guards were met, and what was
done. Every step is one of these turns (`turn_of_step`), so what each turn keeps is kept
by every run (`run?_keeps`). The lists for the parts that several steps share come first:
going after a credential (`Acquires`), holding the lock (`Enters`), welcoming the credential
of a login (`Welcomes`), and taking the installed grant away (`Takes`).
-/

namespace LeaseKeeper.Session

namespace World

/-- A task of the scheduler is started by a move. -/
inductive Fires (w : World) : Move → Task Job → Schedule Job → Prop
  | due {id : Nat} {t : Task Job} {s : Schedule Job} :
    w.schedule.startDue w.now id = (some t, s) → Fires w (.fire id) t s
  | next {t : Task Job} {s : Schedule Job} :
    w.schedule.startNext = (some t, s) → Fires w .fireNext t s

theorem Fires.starts {w : World} {m : Move} {t : Task Job} {s : Schedule Job} (h : w.Fires m t s)
    (hn : w.schedule.Numbered) : w.schedule.Starts t s := by
  cases h with
  | due h => exact (Schedule.starts_of_startDue hn h).1
  | next h => exact (Schedule.starts_of_startNext hn h).1

/-- What becomes of `u` when the operation `op` goes after a credential. -/
inductive Acquires (u : World) (op : Nat) (purpose : Purpose) : World → Prop
  | shut : u.destroyed = true →
    Acquires u op purpose (u.finish op (purpose.outcome (.error .destroyed)))
  | found {g : Grant} : u.destroyed = false → u.usable? = some g →
    Acquires u op purpose (u.finish op (purpose.outcome (.ok g)))
  | starts : u.destroyed = false → u.usable? = none → u.lock = [] →
    Acquires u op purpose
      ({ u with lock := [op] }.dropExpired.call op .login (.loggingIn purpose u.now))
  | waits : u.destroyed = false → u.usable? = none → u.lock ≠ [] →
    Acquires u op purpose
      ({ u with lock := u.lock ++ [op] }.setPoint op (.queued u.loginsDone purpose))

/-- What becomes of `w` when the operation `op` has been handed the lock. -/
inductive Enters (w : World) (op observed : Nat) (purpose : Purpose) : World → Prop
  | shut : w.destroyed = true →
    Enters w op observed purpose ((w.unlock op).finish op (purpose.outcome (.error .destroyed)))
  | found {g : Grant} : w.destroyed = false → w.usable? = some g →
    Enters w op observed purpose ((w.unlock op).finish op (purpose.outcome (.ok g)))
  | shared {f : Fault} : w.destroyed = false → w.usable? = none → observed < w.loginsDone →
    w.lastFault = some f →
    Enters w op observed purpose ((w.unlock op).finish op (purpose.outcome (.error f)))
  | starts : w.destroyed = false → w.usable? = none →
    (observed < w.loginsDone → w.lastFault = none) →
    Enters w op observed purpose (w.dropExpired.call op .login (.loggingIn purpose w.now))

/-- What becomes of `w` when the login of `op` has brought a credential. -/
inductive Welcomes (w : World) (op : Nat) (purpose : Purpose) (c : Credential) : World → Prop
  | late : w.destroyed = true → c.isLogin = true →
    Welcomes w op purpose c
      (w.minted.call op (.revoke ⟨w.nextGrant, c⟩) (.discarding purpose ⟨w.nextGrant, c⟩))
  | dropped : w.destroyed = true → c.isLogin = false →
    Welcomes w op purpose c (w.minted.endLogin op purpose (.error .destroyed))
  | installed : w.destroyed = false →
    Welcomes w op purpose c
      ((w.installs c .created).endLogin op purpose (.ok ⟨w.nextGrant, c⟩))

/-- What becomes of `u` when the operation `op` takes the installed grant away. -/
inductive Takes (u : World) (op : Nat) : World → Prop
  | quiet : (∀ g, u.current = some g → g.credential.isLogin = false) →
    Takes u op ((u.cancelTask.install none).finish op .finished)
  | sends {g : Grant} : u.current = some g → g.credential.isLogin = true →
    Takes u op ((u.cancelTask.install none).call op (.revoke g) (.revoking g))

/-- A renewal of `g` has failed and is not tried again: `u` has been told so. -/
inductive Loses (u : World) (op : Nat) (g : Grant) : World → Prop
  | superseded : u.isCurrent g = false → Loses u op g (u.finish op .finished)
  | again {w' : World} : u.isCurrent g = true → u.canLogInAgain = true →
    Acquires (u.install none).cancelTask op .relogin w' → Loses u op g w'
  | ended : u.isCurrent g = true → u.canLogInAgain = false →
    Loses u op g
      ((((u.install none).cancelTask).publish (.loginTokenExpired g)).finish op .finished)

/-- The world in which the time that a login took has been measured. -/
abbrev timed (w : World) (success : Bool) (since : Instant) : World :=
  { w with audience := { w.audience with
    metrics := w.audience.metrics.login success (w.now.since since) } }

/-- The world in which a successful renewal has been counted. -/
abbrev granted (w : World) : World :=
  { w with audience := w.audience.count (.renewal .session true) }

/-- What becomes of `w` when the renewal of `g` by `op` is answered. -/
inductive Renews (w : World) (op : Nat) (g : Grant) : Except Fault Credential → World → Prop
  | discarded {r : Except Fault Credential} : w.destroyed = true →
    Renews w op g r (w.finish op .finished)
  | superseded {c : Credential} : w.destroyed = false → w.isCurrent g = false →
    Renews w op g (.ok c) (w.granted.minted.finish op .finished)
  | brief {c : Credential} : w.destroyed = false → w.isCurrent g = true →
    w.isBelowThreshold c = true →
    Renews w op g (.ok c)
      ((((w.granted.minted.install none).cancelTask).publish
        (.loginTokenExpired ⟨w.nextGrant, c⟩)).finish op .finished)
  | renewed {c : Credential} : w.destroyed = false → w.isCurrent g = true →
    w.isBelowThreshold c = false →
    Renews w op g (.ok c) ((w.granted.installs c .renewed).finish op .finished)
  | retried {f : Fault} : w.destroyed = false → f.isTransient = true →
    isInTime (g.credential.remaining w.now) (w.renewalDelay g.credential).1 = true →
    Renews w op g (.error f)
      ((w.retries g f).finish op .finished)
  | tooLate {f : Fault} {w' : World} : w.destroyed = false → f.isTransient = true →
    isInTime (g.credential.remaining w.now) (w.renewalDelay g.credential).1 = false →
    Loses ((w.told g f).renewalDelay g.credential).2 op g w' → Renews w op g (.error f) w'
  | failed {f : Fault} {w' : World} : w.destroyed = false → f.isTransient = false →
    Loses (w.told g f) op g w' → Renews w op g (.error f) w'

end World

open World in
/-- What may become of `w` in a step by that move. -/
inductive Turn (w : World) : Move → World → Prop
  | token {w' : World} : w.held = true → Acquires w.enrolled w.nextOperation .caller w' →
    Turn w (.begin .token) w'
  | revoke {w' : World} : w.held = true → Takes w.enrolled w.nextOperation w' →
    Turn w (.begin .revoke) w'
  | destroyAgain : w.held = true → w.destroyed = true →
    Turn w (.begin .destroy) (w.enrolled.finish w.nextOperation .finished)
  | destroy {w' : World} : w.held = true → w.destroyed = false →
    Takes { w.enrolled with destroyed := true } w.nextOperation w' → Turn w (.begin .destroy) w'
  | orphan {m : Move} {t : Task Job} {s : Schedule Job} : w.Fires m t s → w.isAlive = false →
    Turn w m { w with schedule := s }
  | stale {m : Move} {t : Task Job} {s : Schedule Job} : w.Fires m t s → w.isAlive = true →
    (w.destroyed || !w.isCurrent t.job.grant) = true →
    Turn w m (({ w with schedule := s }.enrolled).finish w.nextOperation .finished)
  | renew {m : Move} {t : Task Job} {s : Schedule Job} {g : Grant} : w.Fires m t s →
    w.isAlive = true → t.job = .renew g → w.destroyed = false → w.isCurrent g = true →
    Turn w m (({ w with schedule := s }.enrolled).call w.nextOperation (.renew g) (.renewing g w.now))
  | expire {m : Move} {t : Task Job} {s : Schedule Job} {g : Grant} : w.Fires m t s →
    w.isAlive = true → t.job = .expire g → w.destroyed = false → w.isCurrent g = true →
    Turn w m ((((({ w with schedule := s }.enrolled).install none).publish
      (.loginTokenExpired g))).finish w.nextOperation .finished)
  | enter {op observed : Nat} {purpose : Purpose} {w' : World} : w.lock.head? = some op →
    w.point? op = some (.queued observed purpose) → Enters w op observed purpose w' →
    Turn w (.enter op) w'
  | loginFailed {op : Nat} {purpose : Purpose} {since : Instant} {f : Fault} :
    w.point? op = some (.loggingIn purpose since) →
    Turn w (.answer op (.login (.error f)))
      (((w.timed false since).publish (.failed f none)).endLogin op purpose (.error f))
  | looksUp {op : Nat} {purpose : Purpose} {since : Instant} {c : Credential} :
    w.point? op = some (.loggingIn purpose since) → w.wantsLookup c = true →
    Turn w (.answer op (.login (.ok c)))
      ((w.timed true since).call op (.lookup c) (.lookingUp purpose c))
  | welcome {op : Nat} {purpose : Purpose} {since : Instant} {c : Credential} {w' : World} :
    w.point? op = some (.loggingIn purpose since) → w.wantsLookup c = false →
    Welcomes (w.timed true since) op purpose c w' →
    Turn w (.answer op (.login (.ok c))) w'
  | lookedUp {op : Nat} {purpose : Purpose} {c : Credential} {found : TokenLookup} {w' : World} :
    w.point? op = some (.lookingUp purpose c) →
    Welcomes w op purpose (c.withLease w.now found.ttl found.renewable) w' →
    Turn w (.answer op (.lookup (.ok found))) w'
  | notLookedUp {op : Nat} {purpose : Purpose} {c : Credential} {f : Fault} {w' : World} :
    w.point? op = some (.lookingUp purpose c) → Welcomes w op purpose c w' →
    Turn w (.answer op (.lookup (.error f))) w'
  | discarded {op : Nat} {purpose : Purpose} {g : Grant} {r : Except Fault Unit} :
    w.point? op = some (.discarding purpose g) →
    Turn w (.answer op (.revocation r))
      ((w.tellRevocation g r).endLogin op purpose (.error .destroyed))
  | renewed {op : Nat} {g : Grant} {since : Instant} {r : Except Fault Credential} {w' : World} :
    w.point? op = some (.renewing g since) → Renews w op g r w' →
    Turn w (.answer op (.renewal r)) w'
  | revoked {op : Nat} {g : Grant} {r : Except Fault Unit} :
    w.point? op = some (.revoking g) →
    Turn w (.answer op (.revocation r)) ((w.tellRevocation g r).finish op .finished)
  | abandon {op : Nat} {p : Point} : w.point? op = some p →
    Turn w (.abandon op) ({ w.unlock op with operations := w.operations.filter (·.1 != op) }.reap)
  | elapse {t : Instant} : w.now ≤ t → w.isPunctual t = true →
    Turn w (.elapse t) { w with now := t }
  | release : Turn w .release w.release
  | stop : Turn w .stop w.stop
  | listen {channel : Channel} {o : Observer} :
    Turn w (.listen channel o) (w.listen channel o).2
  | unlisten {channel : Channel} {id : Nat} :
    Turn w (.unlisten channel id) (w.unlisten channel id).2

/-! ## Every step is a turn -/

namespace World

theorem enters_withLock (w : World) (op observed : Nat) (purpose : Purpose) :
    Enters w op observed purpose (w.withLock op observed purpose) := by
  simp only [withLock, leave, conclude_eq, now_dropExpired]
  split
  · exact .shut ‹_›
  rename_i hd
  simp only [Bool.not_eq_true] at hd
  split
  · exact .found hd ‹_›
  rename_i hu
  split
  · rename_i f hf
    split at hf
    · exact .shared hd hu ‹_› hf
    · cases hf
  · rename_i hf
    refine .starts hd hu fun ho => ?_
    rwa [if_pos ho] at hf

theorem acquires_acquire (w : World) (op : Nat) (purpose : Purpose) :
    Acquires w op purpose (w.acquire op purpose) := by
  simp only [acquire, conclude_eq]
  split
  · exact .shut ‹_›
  rename_i hd
  simp only [Bool.not_eq_true] at hd
  split
  · exact .found hd ‹_›
  rename_i hu
  split
  · rename_i hl
    rw [List.isEmpty_iff] at hl
    rw [hl, List.nil_append]
    -- The lock is free, so no login can have finished meanwhile.
    have h := enters_withLock { w with lock := [op] } op w.loginsDone purpose
    generalize World.withLock _ _ _ _ = w' at h ⊢
    cases h with
    | shut h => exact absurd (hd.symm.trans h) (by decide)
    | found _ h => cases hu.symm.trans h
    | shared _ _ h => exact absurd h (Nat.lt_irrefl _)
    | starts => exact .starts hd hu hl
  · exact .waits hd hu (by simpa using ‹¬ w.lock.isEmpty = true›)

theorem welcomes_welcome (w : World) (op : Nat) (purpose : Purpose) (c : Credential) :
    Welcomes w op purpose c (w.welcome op purpose c) := by
  show Welcomes w op purpose c (ite (w.destroyed = true) (ite (c.isLogin = true) _ _) _)
  by_cases hd : w.destroyed = true
  · rw [if_pos hd]
    by_cases hl : c.isLogin = true
    · rw [if_pos hl]; exact .late hd hl
    · rw [if_neg hl]; exact .dropped hd (by simpa using hl)
  · rw [if_neg hd]; exact .installed (by simpa using hd)

theorem takes_revoke (w : World) (op : Nat) : Takes w op (w.revoke op) := by
  unfold revoke
  cases hc : w.current with
  | none => exact .quiet fun g hg => by simp [hc] at hg
  | some g =>
    show Takes w op (ite (g.credential.isLogin = true) _ _)
    by_cases hl : g.credential.isLogin = true
    · rw [if_pos hl]; exact .sends hc hl
    · rw [if_neg hl]
      refine .quiet fun g' hg' => ?_
      rw [hc, Option.some.injEq] at hg'
      simpa [← hg'] using hl

theorem loses_lose (w : World) (op : Nat) (g : Grant) : Loses w op g (w.lose op g) := by
  show Loses w op g (ite (w.isCurrent g = true) (ite (w.canLogInAgain = true) _ _) _)
  by_cases hc : w.isCurrent g = true
  · rw [if_pos hc]
    by_cases hr : w.canLogInAgain = true
    · rw [if_pos hr]; exact .again hc hr (acquires_acquire ..)
    · rw [if_neg hr]; exact .ended hc (by simpa using hr)
  · rw [if_neg hc]; exact .superseded (by simpa using hc)

theorem renews_afterRenewal (w : World) (op : Nat) (g : Grant) (r : Except Fault Credential) :
    Renews w op g r (w.afterRenewal op g r) := by
  unfold afterRenewal
  by_cases hd : w.destroyed = true
  · rw [if_pos hd]; exact .discarded hd
  rw [if_neg hd]
  simp only [Bool.not_eq_true] at hd
  cases r with
  | ok c =>
    show Renews w op g (.ok c) (ite (w.isBelowThreshold c = true)
      (ite (w.isCurrent g = true) _ _) (ite (w.isCurrent g = true) _ _))
    by_cases hc : w.isCurrent g = true
    · rw [if_pos hc, if_pos hc]
      by_cases hb : w.isBelowThreshold c = true
      · rw [if_pos hb]; exact .brief hd hc hb
      · rw [if_neg hb]; exact .renewed hd hc (by simpa using hb)
    · rw [if_neg hc, if_neg hc, ite_self]; exact .superseded hd (by simpa using hc)
  | error f =>
    have hi : ((w.told g f).renewalDelay g.credential).1 = (w.renewalDelay g.credential).1 := by
      rw [fst_renewalDelay, fst_renewalDelay]; rfl
    show Renews w op g (.error f) (ite (f.isTransient = true)
      (ite (isInTime (g.credential.remaining w.now) ((w.told g f).renewalDelay g.credential).1 = true)
        _ _) _)
    rw [hi]
    by_cases ht : f.isTransient = true
    · rw [if_pos ht]
      by_cases hi : isInTime (g.credential.remaining w.now) (w.renewalDelay g.credential).1 = true
      · rw [if_pos hi]; exact .retried hd ht hi
      · rw [if_neg hi]; exact .tooLate hd ht (by simpa using hi) (loses_lose ..)
    · rw [if_neg ht]; exact .failed hd (by simpa using ht) (loses_lose ..)

/-- Running a started task. -/
theorem turn_of_fires {w : World} {m : Move} {t : Task Job} {s : Schedule Job}
    (h : w.Fires m t s) : Turn w m ({ w with schedule := s }.run t.job) := by
  show Turn w m (ite (w.isAlive = true) _ _)
  by_cases ha : w.isAlive = true
  · rw [if_pos ha]
    cases hj : t.job with
    | renew g =>
      show Turn w m (ite ((w.destroyed || !w.isCurrent g) = true) _ _)
      by_cases hn : (w.destroyed || !w.isCurrent g) = true
      · rw [if_pos hn]; exact .stale h ha (by rwa [hj])
      · rw [if_neg hn]
        simp only [Bool.or_eq_true, Bool.not_eq_true', not_or, Bool.not_eq_true, Bool.not_eq_false] at hn
        exact .renew h ha hj hn.1 hn.2
    | expire g =>
      show Turn w m (ite ((w.destroyed || !w.isCurrent g) = true) _ _)
      by_cases hn : (w.destroyed || !w.isCurrent g) = true
      · rw [if_pos hn]; exact .stale h ha (by rwa [hj])
      · rw [if_neg hn]
        simp only [Bool.or_eq_true, Bool.not_eq_true', not_or, Bool.not_eq_true, Bool.not_eq_false] at hn
        exact .expire h ha hj hn.1 hn.2
  · rw [if_neg ha]; exact .orphan h (by simpa using ha)

end World

open World in
/-- Every step is one of the turns. -/
theorem turn_of_step {w w' : World} {m : Move} (h : step w m = some w') : Turn w m w' := by
  cases m with
  | begin r =>
    simp only [step] at h
    split at h <;> simp only [Option.some.injEq, reduceCtorEq] at h
    rename_i hh
    subst h
    cases r with
    | token => exact .token hh (acquires_acquire ..)
    | revoke => exact .revoke hh (takes_revoke ..)
    | destroy =>
      show Turn w (.begin .destroy) (ite (w.destroyed = true) _ _)
      by_cases hd : w.destroyed = true
      · rw [if_pos hd]; exact .destroyAgain hh hd
      · rw [if_neg hd]; exact .destroy hh (by simpa using hd) (takes_revoke ..)
  | fire id =>
    simp only [step] at h
    split at h <;> simp only [World.fire, reduceCtorEq] at h
    split at h <;> simp only [Option.some.injEq, reduceCtorEq] at h
    exact h ▸ turn_of_fires (.due ‹_›)
  | fireNext =>
    simp only [step] at h
    split at h <;> simp only [World.fireNext, reduceCtorEq] at h
    split at h <;> simp only [Option.some.injEq, reduceCtorEq] at h
    exact h ▸ turn_of_fires (.next ‹_›)
  | enter op =>
    simp only [step, World.enter] at h
    split at h
    · rename_i holder observed purpose hl hp
      split at h <;> simp only [Option.some.injEq, reduceCtorEq] at h
      rename_i ho
      subst ho
      exact h ▸ .enter hl hp (enters_withLock ..)
    · cases h
  | answer op r =>
    simp only [step, World.answer] at h
    split at h <;> simp only [Option.some.injEq, reduceCtorEq] at h
    · rename_i purpose since result hp
      subst h
      cases result with
      | error f => exact .loginFailed hp
      | ok c =>
        show Turn w (.answer op (.login (.ok c))) (ite (w.wantsLookup c = true) _ _)
        by_cases hl : w.wantsLookup c = true
        · rw [if_pos hl]; exact .looksUp hp hl
        · rw [if_neg hl]; exact .welcome hp (by simpa using hl) (welcomes_welcome ..)
    · rename_i purpose c result hp
      subst h
      cases result with
      | ok found => exact .lookedUp hp (welcomes_welcome ..)
      | error f => exact .notLookedUp hp (welcomes_welcome ..)
    · exact h ▸ .discarded ‹_›
    · exact h ▸ .renewed ‹_› (renews_afterRenewal ..)
    · exact h ▸ .revoked ‹_›
  | abandon op =>
    simp only [step, World.abandon] at h
    split at h <;> simp only [Option.some.injEq, reduceCtorEq] at h
    exact h ▸ .abandon ‹_›
  | elapse t =>
    simp only [step, World.elapse] at h
    split at h <;> simp only [Option.some.injEq, reduceCtorEq] at h
    rename_i hg
    exact h ▸ .elapse hg.1 hg.2
  | release => cases h; exact .release
  | stop => cases h; exact .stop
  | listen channel o => cases h; exact .listen
  | unlisten channel id => cases h; exact .unlisten

/-! ## Runs -/

theorem run?_append (w : World) (ms ns : List Move) :
    run? w (ms ++ ns) = (run? w ms).bind fun v => run? v ns := by
  induction ms generalizing w with
  | nil => rfl
  | cons m ms ih =>
    simp only [List.cons_append, run?]
    cases step w m with
    | none => rfl
    | some v => exact ih v

theorem run?_concat {w w' : World} {ms : List Move} {m : Move} :
    run? w (ms ++ [m]) = some w' ↔ ∃ v, run? w ms = some v ∧ step v m = some w' := by
  rw [run?_append, Option.bind_eq_some_iff]
  simp only [run?, Option.bind_fun_some]

/-- The run passes through that session. -/
def Visits (start : World) (ms : List Move) (w : World) : Prop :=
  ∃ ns, ns <+: ms ∧ run? start ns = some w

/-- The run takes that step. -/
def Passes (start : World) (ms : List Move) (w : World) (m : Move) (w' : World) : Prop :=
  ∃ ns, ns ++ [m] <+: ms ∧ run? start ns = some w ∧ step w m = some w'

theorem Passes.mem {start w w' : World} {ms : List Move} {m : Move} (h : Passes start ms w m w') :
    m ∈ ms := by
  obtain ⟨ns, hp, -⟩ := h
  exact hp.subset (by simp)

theorem Passes.step {start w w' : World} {ms : List Move} {m : Move} (h : Passes start ms w m w') :
    step w m = some w' := by
  obtain ⟨-, -, -, hs⟩ := h
  exact hs

theorem Passes.visits {start w w' : World} {ms : List Move} {m : Move} (h : Passes start ms w m w') :
    Visits start ms w ∧ Visits start ms w' := by
  obtain ⟨ns, hp, hw, hs⟩ := h
  exact ⟨⟨ns, (List.prefix_append ns [m]).trans hp, hw⟩, ns ++ [m], hp, run?_concat.mpr ⟨w, hw, hs⟩⟩

theorem visits_cons {start next v : World} {m : Move} {ms : List Move} (hs : step start m = some next)
    (h : Visits start (m :: ms) v) : v = start ∨ Visits next ms v := by
  obtain ⟨ns, hpre, hv⟩ := h
  cases ns with
  | nil => cases hv; exact .inl rfl
  | cons n ns =>
    obtain ⟨rfl, hrest⟩ := List.cons_prefix_cons.mp hpre
    rw [run?, hs] at hv
    exact .inr ⟨ns, hrest, hv⟩

theorem passes_cons {start next u v : World} {k m : Move} {ms : List Move}
    (hs : step start m = some next) (h : Passes start (m :: ms) u k v) :
    u = start ∧ k = m ∨ Passes next ms u k v := by
  obtain ⟨ns, hpre, hu, hk⟩ := h
  cases ns with
  | nil =>
    cases hu
    exact .inl ⟨rfl, (List.cons_prefix_cons.mp hpre).1⟩
  | cons n ns =>
    obtain ⟨rfl, hrest⟩ := List.cons_prefix_cons.mp hpre
    rw [run?, hs] at hu
    exact .inr ⟨ns, hrest, hu, hk⟩

/-- What holds at the start and is kept by each step that a run takes holds wherever it
passes. -/
theorem Visits.keeps {P : World → Prop} {start : World} {ms : List Move} (h₀ : P start)
    (hstep : ∀ w m w', Passes start ms w m w' → P w → P w') {w : World} (h : Visits start ms w) :
    P w := by
  obtain ⟨ns, hp, hw⟩ := h
  induction ns using List.reverseRecOn generalizing w with
  | nil => cases hw; exact h₀
  | append_singleton ns m ih =>
    obtain ⟨v, hv, hs⟩ := run?_concat.mp hw
    exact hstep v m w ⟨ns, hp, hv, hs⟩ (ih ((List.prefix_append ns [m]).trans hp) hv)

/-- What every turn keeps, every run keeps. -/
theorem run?_keeps {P : World → Prop} (hstep : ∀ {w w' : World} {m : Move}, P w → Turn w m w' → P w')
    {w w' : World} {ms : List Move} (hw : P w) (h : run? w ms = some w') : P w' := by
  induction ms generalizing w with
  | nil => cases h; exact hw
  | cons m ms ih =>
    simp only [run?, Option.bind_eq_some_iff] at h
    obtain ⟨v, hv, h⟩ := h
    exact ih (hstep hw (turn_of_step hv)) h

end LeaseKeeper.Session
