import LeaseKeeper.Proofs.Leases.Deeds
import LeaseKeeper.Proofs.Leases.Onward

/-!
# The steps of a lease engine as deeds

First each part that ends an operation or leaves it waiting is followed on its own, from any
world on the way (`Frame.scheduleCare`, `Frame.expire`, `Frame.takeOut`, ...); then the
steps are put together from them. In an engine that is not shut down every turn rests, or is
one of the deeds (`advance_of_turn`).
-/

namespace LeaseKeeper.Leases

/-! ## The parts -/

namespace Frame

open World

variable {c : Prop} {w u : World} {op : Nat} {e f : Entry} {p : Option Point}
  {added : List LeaseChange} {care : Care} {n : Nat}

theorem scheduleCare {h : Handle} (hf : Frame c w u op h (some f) p added care n)
    (he : e.handle = h) (hl : u.isLive e = true) (s : Snapshot) :
    ∃ care', Cares w s (wantsCare e s.lease) care' ∧
      Frame c w (u.scheduleCare e s) op h (some f) p added care' n := by
  subst he
  unfold World.scheduleCare
  rw [hl]
  cases hw : wantsCare e s.lease with
  | false => exact ⟨_, .unwanted rfl, hf.cancelTask⟩
  | true =>
    simp only [Bool.not_true, Bool.false_eq_true, if_false]
    by_cases ht : s.lease.ttl ≤ u.trigger.thresholdFor s.lease.ttl
    · rw [if_pos ht]
      have hd : w.duty s = .expire := if_neg fun h => h.2 (hf.threshold ▸ ht)
      exact ⟨_, .wanted rfl, hd ▸ hf.replaceTask minimalDelay s .expire⟩
    · rw [if_neg ht]
      have ha := hf.askTrigger (s.lease.remaining u.now)
      cases hq : (u.askTrigger (s.lease.remaining u.now)) with
      | mk delay v =>
        rw [hq] at ha
        cases delay with
        | some delay =>
          have hd : w.duty s = if s.lease.canRenew then .renew else .expire := by
            unfold World.duty
            rw [hf.threshold] at ht
            simp only [ht, not_false_eq_true, and_true]
          exact ⟨_, .wanted rfl, hd ▸ ha.replaceTask delay s _⟩
        | none =>
          refine ⟨_, .exhausted fun t hfix => ?_, ha.cancelTask⟩
          have : (u.askTrigger (s.lease.remaining u.now)).1 = none := congrArg Prod.fst hq
          simp [World.askTrigger, hf.fixed t hfix, Trigger.next] at this

/-- An expiry of a rotating secret begins another fetch; any other secret is dropped. -/
theorem expire (hf : Frame c w u op e.handle (some f) p added care n) (s : Snapshot)
    (hc : c → (u.expire op e s).isAlive = true) :
    (e.isRotating = true ∧
      Frame c w (u.expire op e s) op e.handle (some f) (some (.rotating e.handle s.lease .loss))
        (added ++ [.expired s.lease]) care n) ∨
    (e.isRotating = false ∧
      Frame c w (u.expire op e s) op e.handle
        (some { f with snapshot := none, lock := f.lock.filter (· != op) }) none
        (added ++ [.expired s.lease]) .cancelled n) := by
  have hp := hf.publish rfl (.expired s.lease)
  cases hr : e.isRotating with
  | true =>
    have he : u.expire op e s = (u.publish e (.expired s.lease)).fetchAgain op e s.lease .loss :=
      if_pos hr
    rw [he]
    exact .inl ⟨rfl, hp.call ..⟩
  | false =>
    have he : u.expire op e s = (((u.publish e (.expired s.lease)).cancelTask e.handle).install
        e.handle none).leave op e.handle .finished := if_neg (by rw [hr]; decide)
    rw [he] at hc ⊢
    exact .inr ⟨rfl, (hp.cancelTask.install none).leave .finished hc⟩

/-- A failed renewal is retried, or the lease is lost at once. -/
theorem afterFailure (hf : Frame c w u op e.handle (some f) p added care n) (s : Snapshot)
    (k : Fault) (hc : c → (u.afterFailure op e s k).isAlive = true) :
    Frame c w (u.afterFailure op e s k) op e.handle
      (some { f with lock := f.lock.filter (· != op) }) none (added ++ [.failed s.lease k])
      (.replaced s .renew) n ∨
    (e.isRotating = true ∧
      Frame c w (u.afterFailure op e s k) op e.handle (some f)
        (some (.rotating e.handle s.lease .loss))
        (added ++ [.failed s.lease k] ++ [.expired s.lease]) care n) ∨
    (e.isRotating = false ∧
      Frame c w (u.afterFailure op e s k) op e.handle
        (some { f with snapshot := none, lock := f.lock.filter (· != op) }) none
        (added ++ [.failed s.lease k] ++ [.expired s.lease]) .cancelled n) := by
  have hp := hf.publish rfl (.failed s.lease k)
  unfold World.afterFailure at hc ⊢
  generalize u.publish e (.failed s.lease k) = v at hp hc ⊢
  simp only at hc ⊢
  split at hc
  · rename_i hs
    rw [if_pos hs]
    have ha := hp.askTrigger (s.lease.remaining v.now)
    generalize v.askTrigger (s.lease.remaining v.now) = q at ha hc ⊢
    obtain ⟨_ | delay, v'⟩ := q
    · exact .inr (ha.expire s hc)
    · simp only at ha hc ⊢
      split at hc
      · rename_i hd
        rw [if_pos hd]
        exact .inl ((ha.replaceTask delay s .renew).leave .finished hc)
      · rename_i hd
        rw [if_neg hd]
        exact .inr (ha.expire s hc)
  · rename_i hs
    rw [if_neg hs]
    exact .inr (hp.expire s hc)

/-- Taking the snapshot away ends a removal, or waits for the lease to be given back. -/
theorem takeOut (hf : Frame c w u op e.handle (some f) p added care n)
    (hc : c → (u.takeOut op e .caller).isAlive = true) :
    Frame c w (u.takeOut op e .caller) op e.handle
      (some { f with snapshot := none, lock := f.lock.filter (· != op) }) none added care n ∨
    ∃ s, Frame c w (u.takeOut op e .caller) op e.handle (some { f with snapshot := none })
      (some (.revoking e.handle s .caller)) added care n := by
  have hi := hf.install none
  unfold World.takeOut at hc ⊢
  cases hs : e.snapshot with
  | none =>
    rw [hs] at hc
    exact .inl (hi.leave (.removed true) hc)
  | some s =>
    rw [hs] at hc
    simp only at hc ⊢
    split at hc
    · rename_i hid
      rw [if_pos hid]
      exact .inr ⟨s, hi.call ..⟩
    · rename_i hid
      rw [if_neg hid]
      exact .inl (hi.leave (.removed true) hc)

/-- A fetch that brought nothing leaves a secret as it is if somebody asked for it, and drops
one that was lost. -/
theorem endFetch (hf : Frame c w u op e.handle (some f) p added care n) (cause : Cause) (k : Fault)
    (hl : u.isLive e = true) (hc : c → (u.endFetch op e cause k).isAlive = true) :
    (cause = .caller ∧ Frame c w (u.endFetch op e cause k) op e.handle
      (some { f with lock := f.lock.filter (· != op) }) none added care n) ∨
    (cause = .loss ∧ Frame c w (u.endFetch op e cause k) op e.handle
      (some { f with snapshot := none, lock := f.lock.filter (· != op) }) none added
        .cancelled n) := by
  cases cause with
  | caller => exact .inl ⟨rfl, hf.leave _ hc⟩
  | loss =>
    have hl' : (u.cancelTask e.handle).isLive e = true := by
      obtain ⟨_, _, he, -⟩ := u.cancelTask_eq e.handle
      rw [he]
      exact hl
    have he : u.endFetch op e .loss k =
        ((u.cancelTask e.handle).install e.handle none).leave op e.handle .finished := by
      show World.leave (ite _ _ _) op e.handle .finished = _
      rw [if_pos hl']
    rw [he] at hc ⊢
    exact .inr ⟨rfl, (hf.cancelTask.install none).leave _ hc⟩

end Frame

namespace World

variable {w u : World} {op : Nat} {h : Handle} {e : Entry}

/-- An operation gets on with an entry that keeps its standing. -/
theorem Advance.works {s : Option Snapshot} {l : List Nat} {p : Option Point}
    {added : List LeaseChange} {care : Care} {n : Nat} (he : w.face? h = some e)
    (hr : e.standing ≠ .removed) (hq : Queues w op h e.lock l p)
    (hk : Works w op h e s e.standing p added care n)
    (hf : Frame (u.isAlive = true) w u op h (some { e with snapshot := s, lock := l }) p added care n) :
    Advance w u :=
  .acts hf (.works (e := e) he hr hq hk)

/-- An operation gets on with an entry that is removed already. -/
theorem Advance.retires {s : Option Snapshot} {l : List Nat} {p : Option Point}
    {added : List LeaseChange} {care : Care} {n : Nat} (he : w.face? h = some e)
    (hr : e.standing = .removed) (hq : Queues w op h e.lock l p) (hp : Retires h p)
    (hn : w.nextSnapshot ≤ n) (hc : care = .cancelled ∨ care = .kept)
    (hf : Frame (u.isAlive = true) w u op h (some { e with snapshot := s, lock := l }) p added care n) :
    Advance w u := by
  have hs : ({ e with snapshot := s, lock := l } : Entry) =
      { e with snapshot := s, lock := l, standing := .removed } := by rw [← hr]
  rw [hs] at hf
  exact .acts hf (.removes (e := e) he (by rw [hr]; decide) hq hp hn (hc.imp_right fun hk => ⟨hk, hr⟩))

theorem Comes.registered {errand : Errand} {care : Care} (hg : Comes w op h e errand care) :
    e.standing = .registered := by
  cases hg with
  | asks _ hr | fires _ hr _ _ => exact hr

theorem Comes.op_eq {errand : Errand} {care : Care} (hg : Comes w op h e errand care) :
    op = w.nextOperation := by
  cases hg with
  | asks hop _ | fires hop _ _ _ => exact hop

/-- Nobody comes for an entry that is removed. -/
theorem Gets.kept {errand : Errand} {care : Care} (hg : Gets w op h e errand care)
    (hr : e.standing = .removed) : care = .kept := by
  cases hg with
  | comes hg => cases hr.symm.trans hg.registered
  | enters _ => rfl

/-! ## Errands -/

/-- What a handed over lock leads to, from a world on the way in which the entry is as it was
but for the queue. -/
theorem advance_withLock {l : List Nat} {p : Option Point} {errand : Errand} {care : Care}
    (hm : w.Calm) (hd : u.destroyed = false) (he : w.face? e.handle = some e.bare)
    (hg : Gets w op e.handle e.bare errand care) (hl : Holds w op e.handle e.bare.lock l)
    (hf : ∀ c, Frame c w u op e.handle (some { e.bare with lock := l }) p [] care w.nextSnapshot) :
    Advance w (u.withLock op e errand) := by
  have hlive : u.isLive e = true ↔ e.bare.standing ≠ .removed := by simp [isLive, hd, Entry.bare]
  have hleaves : Queues w op e.handle e.bare.lock (l.filter (· != op)) none := .leaves hl
  cases errand with
  | act s a =>
    by_cases hc : (u.isLive e && e.isCurrent s) = true
    · cases a with
      | renew =>
        rw [show u.withLock op e (.act s .renew) = u.renew op e s from if_pos hc]
        rw [Bool.and_eq_true, hlive] at hc
        exact .works he hc.1 (.stays hl rfl) (.renews hg hc.2) ((hf _).call ..)
      | expire =>
        rw [show u.withLock op e (.act s .expire) = u.expire op e s from if_pos hc]
        rw [Bool.and_eq_true, hlive] at hc
        rcases (hf _).expire s id with ⟨hr, hx⟩ | ⟨hr, hx⟩
        · exact .works he hc.1 (.stays hl rfl) (.loses hg hc.2 hr) hx
        · exact .works he hc.1 hleaves (.drops hg hc.2 hr) hx
    · rw [show u.withLock op e (.act s a) = u.leave op e.handle .finished from if_neg hc]
      have hx := (hf ((u.leave op e.handle .finished).isAlive = true)).leave .finished id
      by_cases hr : e.bare.standing = .removed
      · exact .retires he hr hleaves .ended (Nat.le_refl _) (.inr (hg.kept hr)) hx
      · refine .works he hr hleaves (.passes hg ?_) hx
        rw [hlive.mpr hr, Bool.true_and, Bool.not_eq_true] at hc
        exact hc
  | rotate =>
    by_cases hc : u.isLive e = true
    · obtain ⟨previous, hn, hw⟩ : ∃ previous, Names e.bare.snapshot previous ∧
          u.withLock op e .rotate = u.fetchAgain op e previous .caller := by
        refine ⟨_, ?_, if_pos hc⟩
        show Names e.snapshot _
        cases e.snapshot with
        | some s => exact rfl
        | none => exact ⟨_, rfl⟩
      rw [hw]
      exact .works he (hlive.mp hc) (.stays hl rfl) (.asksAgain hg hn) ((hf _).call ..)
    · rw [show u.withLock op e .rotate = u.leave op e.handle (.refused (.notFound e.handle.text)) from
        if_neg hc]
      have hr : e.bare.standing = .removed := by rwa [hlive, not_not] at hc
      exact .retires he hr hleaves .ended (Nat.le_refl _) (.inr (hg.kept hr)) ((hf _).leave _ id)
  | remove remover =>
    cases hg with
    | comes h => cases h
    | enters hp =>
      have hr : e.bare.standing = .removed := hm.leaving op _ _ _ hp rfl he
      have ho : remover = .caller := by simpa [Point.isClosing] using hm.unclosed op _ hp
      subst ho
      rcases (hf ((u.takeOut op e .caller).isAlive = true)).takeOut id with hx | ⟨s, hx⟩
      · exact .retires he hr hleaves .ended (Nat.le_refl _) (.inr rfl) hx
      · exact .retires he hr (.stays hl rfl) .returns (Nat.le_refl _) (.inr rfl) hx

/-- What an operation that comes for an entry does. -/
theorem advance_want {p : Option Point} {errand : Errand} {care : Care} (hm : w.Calm)
    (hd : u.destroyed = false) (hop : op = w.nextOperation) (he : w.face? e.handle = some e.bare)
    (hg : Comes w op e.handle e.bare errand care)
    (hf : ∀ c, Frame c w u op e.handle (some e.bare) p [] care w.nextSnapshot) :
    Advance w (u.want op e errand) := by
  have hf' : ∀ c, Frame c w (u.modify e.handle fun e => { e with lock := e.lock ++ [op] }) op
      e.handle (some { e.bare with lock := e.bare.lock ++ [op] }) p [] care w.nextSnapshot :=
    fun c => (hf c).modify (fun _ => rfl) (fun _ => rfl) fun _ => rfl
  show Advance w (ite (e.bare.lock.isEmpty = true) _ _)
  by_cases hl : e.bare.lock.isEmpty = true
  · rw [if_pos hl]
    rw [List.isEmpty_iff] at hl
    have hq : Holds w op e.handle e.bare.lock (e.bare.lock ++ [op]) := by rw [hl]; exact .free hop
    exact advance_withLock hm hd he (.comes hg) hq hf'
  · rw [if_neg hl]
    rw [List.isEmpty_iff] at hl
    have hr : e.bare.standing ≠ .removed := by rw [hg.registered]; decide
    exact .works he hr (.joins hop hl) (.joins hg) ((hf' _).setPoint _)

/-! ## Answers -/

theorem Quiet.refl (hb : w.Booked) : Quiet w w :=
  ⟨fun _ => rfl, fun _ => rfl, fun _ => rfl, Nat.le_refl _, Nat.le_refl _, rfl, rfl, fun _ ht => ht, hb,
    fun _ ht => ht, id, fun _ _ _ ht => ht⟩

/-- A frame in which nothing became of the entry and the operation. -/
theorem Quiet.of_frame
    (hf : Frame (u.isAlive = true) w u op h (w.face? h) (w.point? op) [] .kept w.nextSnapshot) :
    Quiet w u where
  faces k := by
    by_cases hk : k = h
    · exact hk ▸ hf.face
    · exact hf.faces k hk
  points a := by
    by_cases ha : a = op
    · exact ha ▸ hf.point
    · exact hf.points a ha
  changes k := by
    by_cases hk : k = h
    · rw [hk, hf.change, List.append_nil]
    · exact hf.changes k hk
  nextOperation := hf.nextOperation
  nextHandle := hf.nextHandle
  nextSnapshot := hf.nextSnapshot
  threshold := hf.threshold
  fixed := hf.fixed
  booked := hf.booked
  live t ht := by
    by_cases hk : t.job.handle = h
    · exact hf.own t ht hk
    · exact hf.others t ht hk
  running hr := hf.stopped ▸ hr
  spared ha hr t ht := by
    by_cases hk : t.job.handle = h
    · exact hf.owed ha (hf.stopped ▸ hr) t ht hk
    · exact hf.spared ha t ht hk

/-- The way from `w` begins at `w`. -/
theorem frame_refl (hb : w.Booked) (hm : w.Calm) (he : w.entry? h = some e) {p : Point}
    (hp : w.point? op = some p) (c : Prop) :
    Frame c w w op h (some e.bare) (w.point? op) [] .kept w.nextSnapshot :=
  face?_some he ▸ .refl hb (hm.fresh op p hp) h

theorem isLive_iff (hd : w.destroyed = false) : w.isLive e = true ↔ e.bare.standing ≠ .removed := by
  simp [isLive, hd, Entry.bare]

theorem not_isLive (hd : w.destroyed = false) (hl : ¬ w.isLive e = true) :
    e.bare.standing = .removed := by
  rwa [isLive_iff hd, not_not] at hl

theorem advance_afterRevocation (hb : w.Booked) (hm : w.Calm) {s : Snapshot} {remover : Remover}
    (hp : w.point? op = some (.revoking h s remover)) (r : Except Fault Unit) :
    Advance w (w.afterRevocation op h s remover r) := by
  have ho : remover = .caller := by simpa [Point.isClosing] using hm.unclosed op _ hp
  subst ho
  unfold afterRevocation
  cases he : w.entry? h with
  | none => exact .rests (.refl hb)
  | some e =>
    obtain rfl := find_handle he
    have hw := face?_some he
    have hr : e.bare.standing = .removed := hm.leaving op _ _ _ hp rfl hw
    have hq : Queues w op e.handle e.bare.lock (e.bare.lock.filter (· != op)) none :=
      .leaves (.holds hp rfl)
    have hf := frame_refl hb hm he hp
    cases r with
    | ok _ =>
      exact .retires hw hr hq .ended (Nat.le_refl _) (.inr rfl)
        (((hf _).publish rfl (.revoked s.lease)).leave (.removed true) id)
    | error f =>
      exact .retires hw hr hq .ended (Nat.le_refl _) (.inr rfl)
        (((hf _).publish rfl (.failed s.lease f)).leave (.removed true) id)

theorem advance_afterRenewal (hb : w.Booked) (hm : w.Calm) (hd : w.destroyed = false) {s : Snapshot}
    {since : Instant} (hp : w.point? op = some (.renewing h s since)) (r : Except Fault Lease) :
    Advance w (w.afterRenewal op h s r) := by
  unfold afterRenewal
  cases he : w.entry? h with
  | none => exact .rests (.refl hb)
  | some e =>
    obtain rfl := find_handle he
    have hw := face?_some he
    have hq : Queues w op e.handle e.bare.lock (e.bare.lock.filter (· != op)) none :=
      .leaves (.holds hp rfl)
    have hf := frame_refl hb hm he hp
    cases r with
    | ok lease =>
      let r : Snapshot := ⟨w.nextSnapshot, lease, s.data⟩
      let v := ((w.tally (.renewal .lease true)).mint lease s.data).2.install e.handle (some r)
      have hv : ∀ c, Frame c w v op e.handle (some { e.bare with snapshot := some r }) (w.point? op) []
          .kept (w.nextSnapshot + 1) :=
        fun c => (((hf c).tally _).mint lease s.data).install _
      show Advance w (World.leave (ite (v.isLive e = true) _ _) op e.handle .finished)
      by_cases hl : v.isLive e = true
      · rw [if_pos hl]
        obtain ⟨care, hcare, hx⟩ := ((hv ((((v.publish e (.renewed s.lease lease)).scheduleCare e
          r).leave op e.handle .finished).isAlive = true)).publish rfl
            (.renewed s.lease lease)).scheduleCare rfl hl r
        exact .works hw ((isLive_iff hd).mp hl) hq (.renewed (r := r) hp rfl rfl hcare) (hx.leave _ id)
      · rw [if_neg hl]
        exact .retires hw (not_isLive hd hl) hq .ended (Nat.le_succ _) (.inr rfl) ((hv _).leave _ id)
    | error f =>
      show Advance w (ite (w.isLive e = true) _ _)
      have ht := fun c => (hf c).tally (.renewal .lease false)
      by_cases hl : w.isLive e = true
      · rw [if_pos hl]
        have hr := (isLive_iff hd).mp hl
        rcases (ht _).afterFailure s f id with hx | ⟨hm, hx⟩ | ⟨hm, hx⟩
        · exact .works hw hr hq (.retained hp) hx
        · exact .works hw hr (.stays (.holds hp rfl) rfl) (.failsAndLoses hp hm) hx
        · exact .works hw hr hq (.failsAndDrops hp hm) hx
      · rw [if_neg hl]
        exact .retires hw (not_isLive hd hl) hq .ended (Nat.le_refl _) (.inr rfl) ((ht _).leave _ id)

/-- A fetch has brought nothing, and that is told of an entry that is not removed. -/
theorem advance_endFetch (hb : w.Booked) (hm : w.Calm) (hd : w.destroyed = false)
    (he : w.entry? e.handle = some e)
    {previous : Lease} {cause : Cause} (hp : w.point? op = some (.rotating e.handle previous cause))
    (m : Mark) {k : LeaseChange} (hk : Misses previous k) (f : Fault) :
    Advance w (World.endFetch (if (w.tally m).isLive e then (w.tally m).publish e k else w.tally m)
      op e cause f) := by
  have hw := face?_some he
  have hq : Queues w op e.handle e.bare.lock (e.bare.lock.filter (· != op)) none :=
    .leaves (.holds hp rfl)
  have ht := fun c => (frame_refl hb hm he hp c).tally m
  by_cases hl : (w.tally m).isLive e = true
  · rw [if_pos hl]
    have hr := (isLive_iff hd).mp hl
    rcases ((ht _).publish rfl k).endFetch cause f hl id with ⟨rfl, hx⟩ | ⟨rfl, hx⟩
    · exact .works hw hr hq (.refused hp hk) hx
    · exact .works hw hr hq (.lost hp hk) hx
  · rw [if_neg hl]
    have hr := not_isLive hd hl
    cases cause with
    | caller => exact .retires hw hr hq .ended (Nat.le_refl _) (.inr rfl) ((ht _).leave _ id)
    | loss =>
      have hl' : ¬ ((w.tally m).cancelTask e.handle).isLive e = true := by
        obtain ⟨_, _, he, -⟩ := (w.tally m).cancelTask_eq e.handle
        rw [he]
        exact hl
      show Advance w (World.leave (ite _ _ _) op e.handle .finished)
      rw [if_neg hl']
      exact .retires hw hr hq .ended (Nat.le_refl _) (.inl rfl) ((ht _).cancelTask.leave _ id)

theorem advance_afterFetch (hb : w.Booked) (hm : w.Calm) (hd : w.destroyed = false) {previous : Lease}
    {cause : Cause} (hp : w.point? op = some (.rotating h previous cause))
    (r : Except Fault (Option Secret)) : Advance w (w.afterFetch op h previous cause r) := by
  unfold afterFetch
  cases he : w.entry? h with
  | none => exact .rests (.refl hb)
  | some e =>
    obtain rfl := find_handle he
    match r with
    | .ok none => exact advance_endFetch hb hm hd he hp _ .notFound _
    | .error f => exact advance_endFetch hb hm hd he hp _ .failed f
    | .ok (some secret) =>
      have hw := face?_some he
      have hq : Queues w op e.handle e.bare.lock (e.bare.lock.filter (· != op)) none :=
        .leaves (.holds hp rfl)
      let s : Snapshot := ⟨w.nextSnapshot, secret.lease, secret.data⟩
      let v := ((w.tally (.rotation e.request.mode true)).mint secret.lease secret.data).2.install
        e.handle (some s)
      have hv : ∀ c, Frame c w v op e.handle (some { e.bare with snapshot := some s }) (w.point? op) []
          .kept (w.nextSnapshot + 1) :=
        fun c => (((frame_refl hb hm he hp c).tally _).mint secret.lease secret.data).install _
      show Advance w (World.leave (ite (v.isLive e = true) _ _) op e.handle .finished)
      by_cases hl : v.isLive e = true
      · rw [if_pos hl]
        obtain ⟨care, hcare, hx⟩ := ((hv ((((v.publish e (.rotated previous s.lease
          s.data)).scheduleCare e s).leave op e.handle .finished).isAlive = true)).publish rfl
            (.rotated previous s.lease s.data)).scheduleCare rfl hl s
        exact .works hw ((isLive_iff hd).mp hl) hq (.rotated (s := s) hp rfl hcare) (hx.leave _ id)
      · rw [if_neg hl]
        exact .retires hw (not_isLive hd hl) hq .ended (Nat.le_succ _) (.inr rfl) ((hv _).leave _ id)

/-- In an engine that is not shut down an entry becomes known, and `tell` goes on with it. -/
theorem register_eq (hd : u.destroyed = false) (op : Nat) (e : Entry) (s : Option Snapshot)
    (tell : World → World) : u.register op e s tell =
      (tell (u.modify e.handle fun e =>
        { e with snapshot := s, standing := .registered }).updateGauge).leave op e.handle
          (.registered e.handle) := by
  show ite (u.destroyed = true) _ _ = _
  rw [hd]
  exact if_neg (by decide)

theorem advance_afterFirstFetch (hb : w.Booked) (hm : w.Calm) (hd : w.destroyed = false)
    (hp : w.point? op = some (.registering h)) (r : Except Fault (Option Secret)) :
    Advance w (w.afterFirstFetch op h r) := by
  unfold afterFirstFetch
  cases he : w.entry? h with
  | none => exact .rests (.refl hb)
  | some e =>
    obtain rfl := find_handle he
    have hf := frame_refl hb hm he hp
    have hw := face?_some he
    have hq : Queues w op e.handle e.bare.lock (e.bare.lock.filter (· != op)) none :=
      .leaves (.holds hp rfl)
    -- The entry becomes known with a snapshot or without one.
    have hr : ∀ {c u n} (s : Option Snapshot), Frame c w u op e.handle (some e.bare) (w.point? op) []
        .kept n → Frame c w (u.modify e.handle fun e =>
          { e with snapshot := s, standing := .registered }).updateGauge op e.handle
            (some { e.bare with snapshot := s, standing := .registered }) (w.point? op) [] .kept n :=
      fun s hx => (hx.modify (f := fun e => { e with snapshot := s, standing := .registered })
        (fun _ => rfl) (fun _ => rfl) fun _ => rfl).updateGauge
    have hne : Standing.registered ≠ .removed := by decide
    have hforget : ∀ f, Advance w ((w.forget e.handle).finish op (.refused f)) := fun f => by
      have hs : e.bare.standing = .pending := (hm.pending op _ _ _ hp rfl hw).mpr rfl
      refine .acts (((hf _).forget fun t ht hh => ?_).finish _ id) (.forgets hp)
      cases hs.symm.trans (hm.working t ht _ (hh ▸ hw))
    have hbare : ∀ {t : Instant} {k : LeaseChange}, Misses (Lease.absent t) k →
        Advance w (w.register op e none fun w => w.publish e k) := fun hk => by
      rw [register_eq hd]
      exact .acts (((hr none (hf _)).publish rfl _).leave _ id)
        (.works (e := e.bare) hw hne hq (.registersBare hp hk))
    match r with
    | .ok none =>
      show Advance w (ite (e.request.mode.isImmediate = true) _ _)
      by_cases hi : e.request.mode.isImmediate = true
      · rw [if_pos hi]; exact hforget _
      · rw [if_neg hi]; exact hbare (t := w.now) .notFound
    | .error f =>
      show Advance w (ite (e.request.mode.isImmediate = true) _ _)
      by_cases hi : e.request.mode.isImmediate = true
      · rw [if_pos hi]; exact hforget f
      · rw [if_neg hi]; exact hbare .failed
    | .ok (some secret) =>
      let s : Snapshot := ⟨w.nextSnapshot, secret.lease, secret.data⟩
      let v := ((w.mint secret.lease secret.data).2.modify e.handle fun e =>
        { e with snapshot := some s, standing := .registered }).updateGauge
      show Advance w ((w.mint secret.lease secret.data).2.register op e (some s) fun w =>
        (w.publish e (.created s.lease s.data)).scheduleCare { e with standing := .registered } s)
      rw [register_eq (u := (w.mint secret.lease secret.data).2) hd]
      have hl : (v.publish e (.created s.lease s.data)).isLive
          { e with standing := .registered } = true := by
        show (!w.destroyed && _) = true
        rw [hd]
        rfl
      obtain ⟨care, hcare, hx⟩ := ((hr (some s) ((hf ((((v.publish e (.created s.lease
        s.data)).scheduleCare { e with standing := .registered } s).leave op e.handle
          (.registered e.handle)).isAlive = true)).mint secret.lease secret.data)).publish rfl
            (.created s.lease s.data)).scheduleCare (e := { e with standing := .registered }) rfl hl s
      exact .acts (hx.leave _ id) (.works (e := e.bare) hw hne hq (.registers (s := s) hp rfl hcare))

/-! ## Requests -/

/-- An operation that ends at once changes nothing. -/
theorem quiet_finish (hb : w.Booked) (hm : w.Calm) (o : Outcome) :
    Quiet w (w.enroll.2.finish w.nextOperation o) := by
  have hp : w.point? w.nextOperation = none := by
    cases hp : w.point? w.nextOperation with
    | none => rfl
    | some p => exact absurd (hm.fresh _ _ hp) (Nat.lt_irrefl _)
  have hf := (Frame.enroll (c := (w.enroll.2.finish w.nextOperation o).isAlive = true) hb ⟨0⟩).finish
    o id
  have hq : Frame ((w.enroll.2.finish w.nextOperation o).isAlive = true) w
      (w.enroll.2.finish w.nextOperation o) w.nextOperation ⟨0⟩ (w.face? ⟨0⟩)
      (w.point? w.nextOperation) [] .kept w.nextSnapshot := hp ▸ hf
  exact .of_frame hq

theorem advance_add (hb : w.Booked) (hm : w.Calm) (hd : w.destroyed = false) (r : SecretRequest)
    (source : String) : Advance w (w.enroll.2.add w.nextOperation r source) := by
  show Advance w (ite (w.destroyed = true) _ _)
  rw [if_neg (by rw [hd]; decide)]
  have hn : w.face? ⟨w.nextHandle⟩ = none := by
    cases he : w.face? ⟨w.nextHandle⟩ with
    | none => rfl
    | some e => exact absurd (hm.known _ _ he) (Nat.lt_irrefl _)
  have hf := fun c => Frame.enroll (c := c) hb ⟨w.nextHandle⟩
  rw [hn] at hf
  exact .acts (((hf _).enlist rfl rfl).call ..)
    (.adds rfl rfl (Nat.lt_succ_self _) rfl rfl rfl)

theorem registered?_some {h : Handle} (hr : w.registered? h = some e) :
    w.entry? h = some e ∧ e.bare.standing = .registered := by
  obtain ⟨he, hs⟩ := Option.filter_eq_some_iff.mp hr
  exact ⟨he, beq_iff_eq.mp hs⟩

theorem advance_remove (hb : w.Booked) (hm : w.Calm) (h : Handle) :
    Advance w (w.enroll.2.remove w.nextOperation h .caller) := by
  unfold remove
  cases hr : w.registered? h with
  | none =>
    rw [show w.enroll.2.registered? h = none from hr]
    exact .rests (quiet_finish hb hm _)
  | some e =>
    rw [show w.enroll.2.registered? h = some e from hr]
    obtain ⟨he, hs⟩ := registered?_some hr
    obtain rfl := find_handle he
    have hw := face?_some he
    have hf := fun c => ((((hw ▸ Frame.enroll (c := c) hb e.handle).modify
      (f := fun e => { e with standing := .removed }) (fun _ => rfl) (fun _ => rfl)
        fun _ => rfl).cancelTask).updateGauge).modify
          (f := fun e => { e with lock := e.lock ++ [w.nextOperation] }) (fun _ => rfl) (fun _ => rfl)
            fun _ => rfl
    have hne : e.bare.standing ≠ .pending := by rw [hs]; decide
    show Advance w (ite (e.bare.lock.isEmpty = true) _ _)
    by_cases hl : e.bare.lock.isEmpty = true
    · rw [if_pos hl]
      rw [List.isEmpty_iff] at hl
      have hq : Holds w w.nextOperation e.handle e.bare.lock (e.bare.lock ++ [w.nextOperation]) := by
        rw [hl]
        exact .free rfl
      rcases (hf _).takeOut id with hx | ⟨s, hx⟩
      · exact .acts hx (.removes (e := e.bare) hw hne (.leaves hq) .ended (Nat.le_refl _) (.inl rfl))
      · exact .acts hx
          (.removes (e := e.bare) hw hne (.stays hq rfl) .returns (Nat.le_refl _) (.inl rfl))
    · rw [if_neg hl]
      rw [List.isEmpty_iff] at hl
      exact .acts ((hf _).setPoint _)
        (.removes (e := e.bare) (s := e.bare.snapshot) hw hne (.joins rfl hl) .waits (Nat.le_refl _)
          (.inl rfl))

theorem advance_rotate (hb : w.Booked) (hm : w.Calm) (hd : w.destroyed = false) (h : Handle) :
    Advance w (w.enroll.2.rotate w.nextOperation h) := by
  show Advance w (ite (w.destroyed = true) _ _)
  rw [if_neg (by rw [hd]; decide)]
  cases hr : w.registered? h with
  | none =>
    rw [show w.enroll.2.registered? h = none from hr]
    exact .rests (quiet_finish hb hm _)
  | some e =>
    rw [show w.enroll.2.registered? h = some e from hr]
    obtain ⟨he, hs⟩ := registered?_some hr
    obtain rfl := find_handle he
    exact advance_want hm (u := w.enroll.2) hd rfl (face?_some he) (.asks rfl hs)
      fun c => face?_some he ▸ Frame.enroll (c := c) hb e.handle

/-! ## Tasks -/

/-- Running a started task. -/
theorem advance_run (hb : w.Booked) (hm : w.Calm) (hd : w.destroyed = false) {t : Task Job}
    {s : Schedule Job} (hs : w.schedule.Starts t s) :
    Advance w ({ w with schedule := s }.run t.job) := by
  have hf := fun c => Frame.starts (c := c) hb hs rfl
  show Advance w (ite (w.isAlive = true) _ _)
  by_cases ha : w.isAlive = true
  · rw [if_pos ha]
    obtain ⟨e, he, -⟩ := hb.slot_live t hs.mem
    rw [show World.entry? { w with schedule := s } t.job.handle = some e from he]
    have hh := find_handle he
    rw [face?_some he] at hf
    rw [← hh] at hf he
    have hr := hm.working t hs.mem _ (hh ▸ face?_some he)
    exact advance_want hm (u := ({ w with schedule := s } : World).enroll.2) hd rfl (face?_some he)
      (.fires rfl hr hs.mem hh.symm) hf
  · rw [if_neg ha]
    exact .rests { Quiet.refl hb with
      booked := hb.starts hs
      live := fun u hu => (hs.not_mem hu).1
      running := fun hr => hs.stopped ▸ hr
      spared := fun hx => absurd hx ha }

/-! ## Letting go -/

theorem quiet_release (hb : w.Booked) : Quiet w w.release := by
  have hb' : ({ w with held := false } : World).Booked := hb.same rfl fun _ => rfl
  obtain ⟨hr, hl, hf⟩ := hb'.reap
  have hu := reap_of_isAlive (w := { w with held := false })
  obtain ⟨s, es, he, hs⟩ := reap_eq { w with held := false }
  unfold release
  rw [he] at hr hl hf hu ⊢
  exact { Quiet.refl hb with
    faces := hf
    booked := hr
    live := hl
    running := fun hq => hs.symm.trans hq
    spared := fun ha _ t ht => by
      rw [hu ha]
      exact ht }

end World

open World

/-! ## Turns -/

/-- In an engine that is not shut down every turn rests, or is one of the deeds. -/
theorem advance_of_turn {w w' : World} {m : Move} (hb : w.Booked) (hm : w.Calm) (ht : Turn w m w')
    (hd' : w'.destroyed = false) : Advance w w' := by
  have hd := destroyed_of_turn ht hd'
  cases ht with
  | @begins r _ =>
    cases r with
    | add r source => exact advance_add hb hm hd r source
    | remove h => exact advance_remove hb hm h
    | rotate h => exact advance_rotate hb hm hd h
    | destroy => cases (destroyed_destroy w.enroll.2 _).symm.trans hd'
  | runs hf => exact advance_run hb hm hd (hf.starts hb.numbered)
  | @enters op h errand e hp he hl =>
    obtain rfl := find_handle he
    exact advance_withLock hm hd (face?_some he) (.enters hp) (.waited hp hl)
      fun c => frame_refl hb hm he hp c
  | opens hp => cases hm.unclosed _ _ hp
  | fetchedFirst hp => exact advance_afterFirstFetch hb hm hd hp _
  | fetchedAgain hp => exact advance_afterFetch hb hm hd hp _
  | renewed hp => exact advance_afterRenewal hb hm hd hp _
  | revoked hp => exact advance_afterRevocation hb hm hp _
  | elapses => exact .rests { Quiet.refl hb with booked := hb.same rfl fun _ => rfl }
  | releases => exact .rests (quiet_release hb)
  | stops =>
    obtain ⟨hb', hl, hs⟩ := hb.stop
    exact .rests { Quiet.refl hb with
      booked := hb'
      live := hl
      running := fun hr => hs hr ▸ hr
      spared := fun _ hr t ht => (hs hr).symm ▸ ht }
  | listens | unlistens => exact .rests { Quiet.refl hb with booked := hb.same rfl fun _ => rfl }

end LeaseKeeper.Leases
