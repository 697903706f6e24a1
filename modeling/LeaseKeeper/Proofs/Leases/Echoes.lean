import LeaseKeeper.Proofs.Leases.Mirrors

/-!
# What operations go through in both engines

Each thing that an operation goes through on its way does the same in an engine in which a secret is
alone as in one that it mirrors, for it is made of parts that do (`Alike.afterFetch`,
`Alike.afterRenewal`, `Alike.want` and so on). Where an operation ends, tasks may be lost in the
shared engine, if that was its last holder (`Ended`).
-/

namespace LeaseKeeper.Leases

open World

variable {c : Prop} {r : Renaming} {h : Handle} {w₀ u₀ w u : World} {op : Nat} {e f : Entry}
  {s : Snapshot}

namespace Alike

/-! ## What operations go through -/

section operations

variable (hx : Alike True r h w₀ u₀ op w u) (ht : Twins r h e f)

include hx

theorem ended : Ended r h w₀ u₀ op w u := hx.weaken fun _ => trivial

include ht

theorem scheduleCare (hs : s.serial < u.nextSnapshot) :
    Alike True r h w₀ u₀ op (w.scheduleCare e (s.rename r)) (u.scheduleCare f s) := by
  have hcare : wantsCare e (s.rename r).lease = wantsCare f s.lease := by
    unfold wantsCare
    rw [ht.isRotating]
    rfl
  obtain ⟨delay, hw, hu⟩ := hx.asks (s.lease.remaining u.now)
  unfold World.scheduleCare
  rw [hx.isLive ht, hcare, hx.threshold, ht.handle, ht.handle', hx.now,
    show (s.rename r).lease = s.lease from rfl, hw, hu]
  split
  · exact hx
  split
  · exact hx.cancelTask
  split
  · exact hx.replaceTask minimalDelay .expire hs
  · exact (hx.askTrigger _).replaceTask delay _ hs

theorem expire (s : Snapshot) :
    Ended r h w₀ u₀ op (w.expire (r.op op) e (s.rename r)) (u.expire op f s) := by
  have hp := hx.publish ht (.expired s.lease)
  unfold World.expire
  rw [ht.isRotating, ht.handle, ht.handle', show (s.rename r).lease = s.lease from rfl]
  dsimp only
  by_cases hr : f.isRotating = true
  · rw [if_pos hr, if_pos hr]
    unfold World.fetchAgain
    rw [ht.handle, ht.handle', ht.source, ht.request]
    exact (hp.call (p := .rotating h s.lease .loss) rfl (fun _ hq => by cases hq) _).ended
  · rw [if_neg hr, if_neg hr]
    exact (hp.cancelTask.install (s := none) fun _ hq => by cases hq).leave trivial

theorem afterFailure (hs : s.serial < u.nextSnapshot) (k : Fault) :
    Ended r h w₀ u₀ op (w.afterFailure (r.op op) e (s.rename r) k) (u.afterFailure op f s k) := by
  have hp := hx.publish ht (.failed s.lease k)
  have hstrategy : w.strategy = u.strategy :=
    hx.shared.strategy.trans (hx.base.strategy.trans hx.alone.strategy.symm)
  unfold World.afterFailure
  rw [show (s.rename r).lease = s.lease from rfl]
  dsimp only
  rw [show (w.publish e (.failed s.lease k)).strategy = u.strategy from hstrategy,
    show (w.publish e (.failed s.lease k)).now = u.now from hx.now,
    show (u.publish f (.failed s.lease k)).strategy = u.strategy from rfl,
    show (u.publish f (.failed s.lease k)).now = u.now from rfl]
  obtain ⟨delay, hw, hu⟩ := hp.asks (s.lease.remaining u.now)
  rw [hw, hu, ht.handle, ht.handle']
  dsimp only
  have ha := hp.askTrigger (s.lease.remaining u.now)
  by_cases hk : u.strategy.retains k = true
  · rw [if_pos hk, if_pos hk]
    by_cases hd : delay < s.lease.remaining u.now
    · rw [if_pos hd, if_pos hd]
      exact (ha.replaceTask delay .renew hs).leave trivial
    · rw [if_neg hd, if_neg hd]
      exact ha.expire ht s
  · rw [if_neg hk, if_neg hk]
    exact hp.expire ht s

theorem endFetch (cause : Cause) (k : Fault) :
    Ended r h w₀ u₀ op (w.endFetch (r.op op) e cause k) (u.endFetch op f cause k) := by
  unfold World.endFetch
  rw [ht.handle, ht.handle']
  cases cause with
  | caller => exact hx.leave trivial
  | loss =>
    have hc := hx.cancelTask
    dsimp only
    rw [hc.isLive ht]
    by_cases hl : (u.cancelTask h).isLive f = true
    · rw [if_pos hl, if_pos hl]
      exact (hc.install (s := none) fun _ hq => by cases hq).leave trivial
    · rw [if_neg hl, if_neg hl]
      exact hc.leave trivial

theorem publish_ite (p : Prop) [Decidable p] (m : LeaseChange) :
    Alike True r h w₀ u₀ op (if p then w.publish e m else w) (if p then u.publish f m else u) := by
  split
  · exact hx.publish ht m
  · exact hx

/-- A snapshot that has arrived is installed, and told and looked after while the entry is. -/
theorem arrival {s' : Snapshot} (hs' : s' = s.rename r) (hs : s.serial < u.nextSnapshot)
    (m : LeaseChange) : Ended r h w₀ u₀ op
      ((if (w.install h (some s')).isLive e = true then
        ((w.install h (some s')).publish e m).scheduleCare e s' else w.install h (some s')).leave
          (r.op op) h .finished)
      ((if (u.install h (some s)).isLive f = true then
        ((u.install h (some s)).publish f m).scheduleCare f s else u.install h (some s)).leave
          op h .finished) := by
  subst hs'
  have hi := hx.install (s := some s) fun x hx' => by
    cases hx'
    exact hs
  rw [Option.map_some] at hi
  rw [hi.isLive ht]
  by_cases hl : (u.install h (some s)).isLive f = true
  · rw [if_pos hl, if_pos hl]
    exact ((hi.publish ht m).scheduleCare ht hs).leave trivial
  · rw [if_neg hl, if_neg hl]
    exact hi.leave trivial

end operations

/-! ## What follows an answer -/

section answers

variable (hx : Alike True r h w₀ u₀ op w u)

include hx

theorem afterFetch (previous : Lease) (cause : Cause) (k : Except Fault (Option Secret)) :
    Ended r h w₀ u₀ op (w.afterFetch (r.op op) h previous cause k)
      (u.afterFetch op h previous cause k) := by
  unfold World.afterFetch
  cases hf : u.entry? h with
  | none =>
    rw [hx.entry_none hf]
    exact hx.ended
  | some f =>
    obtain ⟨e, he, ht⟩ := hx.entry hf
    rw [he]
    match k with
    | .ok (some secret) =>
      have hy := hx.tally (.rotation f.request.mode true)
      dsimp only
      rw [ht.request]
      exact (hy.mint secret.lease secret.data).arrival ht (hy.mint_fst ..) (Nat.lt_succ_self _)
        (.rotated previous secret.lease secret.data)
    | .ok none =>
      have hy := hx.tally (.rotation f.request.mode false)
      dsimp only
      rw [ht.request, hy.isLive ht]
      exact (hy.publish_ite ht _ .notFound).endFetch ht cause _
    | .error k =>
      have hy := hx.tally (.rotation f.request.mode false)
      dsimp only
      rw [ht.request, hy.isLive ht]
      exact (hy.publish_ite ht _ (.failed previous k)).endFetch ht cause k

theorem afterRenewal (hs : s.serial < u.nextSnapshot) (k : Except Fault Lease) :
    Ended r h w₀ u₀ op (w.afterRenewal (r.op op) h (s.rename r) k) (u.afterRenewal op h s k) := by
  unfold World.afterRenewal
  cases hf : u.entry? h with
  | none =>
    rw [hx.entry_none hf]
    exact hx.ended
  | some f =>
    obtain ⟨e, he, ht⟩ := hx.entry hf
    rw [he]
    match k with
    | .ok lease =>
      have hy := hx.tally (.renewal .lease true)
      exact (hy.mint lease s.data).arrival ht (hy.mint_fst ..) (Nat.lt_succ_self _)
        (.renewed s.lease lease)
    | .error k =>
      have hy := hx.tally (.renewal .lease false)
      dsimp only
      rw [hy.isLive ht]
      by_cases hl : (u.tally (.renewal .lease false)).isLive f = true
      · rw [if_pos hl, if_pos hl]
        exact hy.afterFailure ht hs k
      · rw [if_neg hl, if_neg hl]
        exact hy.leave trivial

theorem takeOut (ht : Twins r h e f) (hf : ∀ s, f.snapshot = some s → s.serial < u.nextSnapshot) :
    Ended r h w₀ u₀ op (w.takeOut (r.op op) e .caller) (u.takeOut op f .caller) := by
  have hi := hx.install (s := none) fun _ hq => by cases hq
  unfold World.takeOut
  rw [ht.snapshot, ht.handle, ht.handle']
  cases hsnap : f.snapshot with
  | none => exact hi.leave trivial
  | some s =>
    dsimp only [Option.map_some]
    rw [show (s.rename r).lease = s.lease from rfl]
    by_cases hid : s.lease.hasId = true
    · rw [if_pos hid, if_pos hid]
      exact (hi.call (p := .revoking h s .caller) rfl (fun x hx' => by
        cases hx'
        exact hf s hsnap) _).ended
    · rw [if_neg hid, if_neg hid]
      exact hi.leave trivial

theorem remove : Ended r h w₀ u₀ op (w.remove (r.op op) h .caller) (u.remove op h .caller) := by
  unfold World.remove
  rcases hx.registered with ⟨hw, hu⟩ | ⟨e, f, hw, hu, hf, ht⟩
  · rw [hw, hu]
    exact hx.finish trivial
  · rw [hw, hu]
    have hy := ((hx.modify (f := fun e => { e with standing := .removed })
      (g := fun e => { e with standing := .removed }) (.standing _) (.standing _) (fun _ => rfl)
      fun _ _ hs => .inl hs).cancelTask.updateGauge).join
    obtain ⟨_, _, hc, -⟩ := (u.modify h fun e => { e with standing := .removed }).cancelTask_eq h
    dsimp only
    rw [ht.lock, List.isEmpty_map]
    by_cases hl : f.lock.isEmpty = true
    · rw [if_pos hl, if_pos hl]
      refine hy.takeOut ht ?_
      rw [hc]
      exact hx.dated hf
    · rw [if_neg hl, if_neg hl]
      exact (hy.setPoint (p := .queued h (.remove .caller)) rfl fun _ hq => by cases hq).ended

theorem afterRevocation (s : Snapshot) (k : Except Fault Unit) :
    Ended r h w₀ u₀ op (w.afterRevocation (r.op op) h (s.rename r) .caller k)
      (u.afterRevocation op h s .caller k) := by
  unfold World.afterRevocation
  cases hf : u.entry? h with
  | none =>
    rw [hx.entry_none hf]
    exact hx.ended
  | some f =>
    obtain ⟨e, he, ht⟩ := hx.entry hf
    rw [he]
    match k with
    | .ok _ => exact (hx.publish ht (.revoked s.lease)).leave trivial
    | .error k => exact (hx.publish ht (.failed s.lease k)).leave trivial

/-- The entry is made known, told of and let go. -/
theorem known {g g' : World → World} {s : Option Snapshot} (ht : Twins r h e f)
    (hs : ∀ x, s = some x → x.serial < u.nextSnapshot)
    (hg : ∀ {w' u' : World}, u'.nextSnapshot = u.nextSnapshot →
      Alike True r h w₀ u₀ op w' u' → Alike True r h w₀ u₀ op (g w') (g' u')) :
    Ended r h w₀ u₀ op (w.register (r.op op) e (s.map (·.rename r)) g) (u.register op f s g') := by
  rw [register_eq hx.unlocked.1, register_eq hx.unlocked.2, ht.handle, ht.handle']
  have hy := (hx.modify (f := fun e => { e with snapshot := s.map (·.rename r), standing := .registered })
    (g := fun e => { e with snapshot := s, standing := .registered })
    ⟨fun _ => rfl, fun _ => rfl, fun _ => rfl⟩ ⟨fun _ => rfl, fun _ => rfl, fun _ => rfl⟩
    (fun _ => rfl) fun _ x hx' => .inr (hs x hx')).updateGauge
  exact Alike.leave (o := .registered h) (hg (by rfl) hy) rfl

/-- The first fetch has ended; there are no tasks yet. -/
theorem afterFirstFetch (hw : ∀ t ∈ w.schedule.live, t.job.handle ≠ h)
    (hu : ∀ t ∈ u.schedule.live, t.job.handle ≠ h) (k : Except Fault (Option Secret)) :
    Ended r h w₀ u₀ op (w.afterFirstFetch (r.op op) h k) (u.afterFirstFetch op h k) := by
  unfold World.afterFirstFetch
  cases hf : u.entry? h with
  | none =>
    rw [hx.entry_none hf]
    exact hx.ended
  | some f =>
    obtain ⟨e, he, ht⟩ := hx.entry hf
    rw [he]
    have ht' : Twins r h { e with standing := .registered } { f with standing := .registered } :=
      { ht with standing := rfl }
    match k with
    | .ok (some secret) =>
      have hm := hx.mint secret.lease secret.data
      have hfst := hx.mint_fst secret.lease secret.data
      dsimp only
      rw [hfst]
      refine hm.known (s := some (u.mint secret.lease secret.data).1) ht (fun x hx' => ?_)
        fun hn hy => ?_
      · cases hx'
        exact Nat.lt_succ_self _
      · exact (hy.publish ht _).scheduleCare ht' (hn ▸ Nat.lt_succ_self _)
    | .ok none =>
      dsimp only
      rw [ht.request]
      by_cases hi : f.request.mode.isImmediate = true
      · rw [if_pos hi, if_pos hi]
        exact (hx.forget hw hu).finish trivial
      · rw [if_neg hi, if_neg hi]
        exact hx.known (s := none) ht (fun _ hq => by cases hq) fun _ hy => hy.publish ht .notFound
    | .error k =>
      dsimp only
      rw [ht.request]
      by_cases hi : f.request.mode.isImmediate = true
      · rw [if_pos hi, if_pos hi]
        exact (hx.forget hw hu).finish trivial
      · rw [if_neg hi, if_neg hi]
        exact hx.known (s := none) ht (fun _ hq => by cases hq) fun _ hy => by
          rw [hy.now]
          exact hy.publish ht _

end answers

/-! ## Waiting for the entry -/

section waiting

variable (hx : Alike True r h w₀ u₀ op w u) (ht : Twins r h e f)

include hx ht

/-- An errand whose snapshot has its number. -/
theorem withLock {errand : Errand} (hr : ∀ m, errand = .remove m → m = .caller)
    (hs : ∀ s a, errand = .act s a → s.serial < u.nextSnapshot)
    (hf : ∀ s, f.snapshot = some s → s.serial < u.nextSnapshot) :
    Ended r h w₀ u₀ op (w.withLock (r.op op) e (errand.rename r)) (u.withLock op f errand) := by
  cases errand with
  | act s a =>
    unfold World.withLock
    dsimp only [Errand.rename]
    rw [hx.isLive ht, ht.isCurrent, ht.handle, ht.handle']
    by_cases hl : (u.isLive f && f.isCurrent s) = true
    · rw [if_pos hl, if_pos hl]
      cases a with
      | renew =>
        have hincrement : w.increment = u.increment :=
          hx.shared.increment.trans (hx.base.increment.trans hx.alone.increment.symm)
        dsimp only
        unfold World.renew
        rw [ht.handle, ht.handle', hx.now, hincrement]
        refine (hx.call (p := .renewing h s u.now) rfl (fun x hx' => ?_) _).ended
        cases hx'
        exact hs s _ rfl
      | expire => exact hx.expire ht s
    · rw [if_neg hl, if_neg hl]
      exact hx.leave trivial
  | rotate =>
    unfold World.withLock
    dsimp only [Errand.rename]
    rw [hx.isLive ht, ht.handle, ht.handle', ht.snapshot, hx.now]
    by_cases hl : u.isLive f = true
    · rw [if_pos hl, if_pos hl]
      unfold World.fetchAgain
      rw [ht.handle, ht.handle', ht.source, ht.request]
      cases f.snapshot with
      | none =>
        exact (hx.call (p := .rotating h (.absent u.now) .caller) rfl (fun _ hq => by cases hq) _).ended
      | some s => exact (hx.call (p := .rotating h s.lease .caller) rfl (fun _ hq => by cases hq) _).ended
    · rw [if_neg hl, if_neg hl]
      exact hx.leave trivial
  | remove m =>
    obtain rfl := hr m rfl
    exact hx.takeOut ht hf

theorem want {a : Errand} (hr : ∀ m, a = .remove m → m = .caller)
    (hs : ∀ s x, a = .act s x → s.serial < u.nextSnapshot)
    (hf : ∀ s, f.snapshot = some s → s.serial < u.nextSnapshot) :
    Ended r h w₀ u₀ op (w.want (r.op op) e (a.rename r)) (u.want op f a) := by
  unfold World.want
  dsimp only
  rw [ht.lock, List.isEmpty_map, ht.handle, ht.handle']
  by_cases hl : f.lock.isEmpty = true
  · rw [if_pos hl, if_pos hl]
    exact hx.join.withLock ht hr hs hf
  · rw [if_neg hl, if_neg hl]
    refine (hx.join.setPoint (p := .queued h a) rfl fun s hq => ?_).ended
    cases a with
    | act x y =>
      cases hq
      exact hs s y rfl
    | _ => cases hq

end waiting

theorem rotate (hx : Alike True r h w₀ u₀ op w u) :
    Ended r h w₀ u₀ op (w.rotate (r.op op) h) (u.rotate op h) := by
  unfold World.rotate
  rw [if_neg (by rw [hx.unlocked.1]; decide), if_neg (by rw [hx.unlocked.2]; decide)]
  rcases hx.registered with ⟨hw, hu⟩ | ⟨e, f, hw, hu, hf, ht⟩
  · rw [hw, hu]
    exact hx.finish trivial
  · rw [hw, hu]
    exact hx.want (a := .rotate) ht (fun _ h => by cases h) (fun _ _ h => by cases h)
      (hx.dated hf)

end Alike

end LeaseKeeper.Leases
