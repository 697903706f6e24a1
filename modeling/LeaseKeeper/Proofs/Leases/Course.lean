import LeaseKeeper.Proofs.Leases.Asides

/-!
# The steps of any lease engine as acts

The parts that end an operation or leave it waiting are followed on their own from any world on
the way (`Scene.takeOut`, `Scene.remove`, ...); the steps are put together from them. So every
turn of an engine that is sound is one of the acts (`act_of_turn`), and every engine that is
run is sound (`sound_of_run`).
-/

namespace LeaseKeeper.Leases

open World

variable {w u v : World} {m : Move} {op : Nat} {h : Handle} {e f : Entry} {p : Option Point}
  {hs : List Happening} {care : Care}

namespace World

/-- The end of a removal is the end of its operation, and an operation that waits for it is
told. -/
theorem endRemoval_cases (w : World) (op : Nat) (remover : Remover) (found : Bool) :
    w.endRemoval op remover found = w.finish op (remover.verdict found) ∨
      ∃ parent, w.endRemoval op remover found =
        (w.finish op (remover.verdict found)).childEnded parent := by
  cases remover with
  | caller | registration => exact .inl rfl
  | shutdown parent => exact .inr ⟨parent, rfl⟩

/-- An operation wants an entry that is there. -/
theorem entry_of_point (hw : Sound w) {op : Nat} {q : Point} (hq : w.point? op = some q) {h : Handle}
    (hk : q.wants? = some h) : ∃ e, w.entry? h = some e ∧ e.handle = h ∧ w.face? h = some e.bare ∧
      Scene w w op h (some e.bare) (w.point? op) [] .kept := by
  obtain ⟨f, hf⟩ := hw.wanted op q h hq hk
  obtain ⟨e, he, rfl⟩ := Option.map_eq_some_iff.mp hf
  exact ⟨e, he, find_handle he, hf, hf ▸ .refl hw.booked (hw.fresh op q hq) h⟩

end World

/-! ## The parts -/

namespace Scene

theorem scheduleCare (hx : Scene w u op h (some f) p hs care) (he : e.handle = h) (s : Snapshot) :
    ∃ care', Scene w (u.scheduleCare e s) op h (some f) p hs care' := by
  subst he
  unfold World.scheduleCare
  split
  · exact ⟨_, hx⟩
  split
  · exact ⟨_, hx.cancelTask⟩
  split
  · exact ⟨_, hx.replaceTask ..⟩
  · have ha := hx.askTrigger (s.lease.remaining u.now)
    generalize u.askTrigger (s.lease.remaining u.now) = q at ha ⊢
    obtain ⟨_ | delay, v⟩ := q
    · exact ⟨_, ha.cancelTask⟩
    · exact ⟨_, ha.replaceTask ..⟩

/-- Taking the snapshot away ends a removal, or waits for the lease to be given back. -/
theorem takeOut (hx : Scene w u op e.handle (some f) p [] care) (remover : Remover) :
    ∃ u' l p' ks, (u.takeOut op e remover = u' ∨
        ∃ parent, u.takeOut op e remover = u'.childEnded parent) ∧
      Takes op e.handle remover e.snapshot f.lock l p' ks ∧
      Scene w u' op e.handle (some { f with snapshot := none, lock := l }) p' ks care := by
  have hi := hx.install none
  have hleave := (hi.unlock op).finish (remover.verdict true)
  unfold World.takeOut
  cases hs : e.snapshot with
  | none => exact ⟨_, _, _, _, endRemoval_cases .., .ends rfl, hleave⟩
  | some s =>
    dsimp only
    by_cases hid : s.lease.hasId = true
    · rw [if_pos hid]
      exact ⟨_, _, _, _, .inl rfl, .returns hid, hi.call ..⟩
    · rw [if_neg hid]
      exact ⟨_, _, _, _, endRemoval_cases .., .ends (by simp [Option.filter, hid]), hleave⟩

/-- A registered entry is removed: the operation takes it out at once, or waits for the lock. -/
theorem remove (hx : Scene w u op h (some f) p [] care) (hu : u.registered? h = some e)
    (remover : Remover) :
    f = e.bare ∧
    (e.lock = [] → ∃ u' l p' ks, (u.remove op h remover = u' ∨
        ∃ parent, u.remove op h remover = u'.childEnded parent) ∧
      Takes op h remover e.snapshot [op] l p' ks ∧
      Scene w u' op h (some { f with snapshot := none, lock := l, standing := .removed }) p' ks
        .cancelled) ∧
    (e.lock ≠ [] → Scene w (u.remove op h remover) op h
      (some { f with lock := f.lock ++ [op], standing := .removed })
      (some (.queued h (.remove remover))) [] .cancelled) := by
  obtain ⟨he, -⟩ := registered?_some hu
  obtain rfl := find_handle he
  have hf : f = e.bare := by
    obtain ⟨_, _, hf⟩ := hx.frame
    exact Option.some.inj (hf.face.symm.trans (face?_some he))
  have hq := ((hx.modify (g := fun e => { e with standing := .removed }) (fun _ => rfl) (fun _ => rfl)
    fun _ => rfl).cancelTask.updateGauge).modify (g := fun e => { e with lock := e.lock ++ [op] })
      (fun _ => rfl) (fun _ => rfl) fun _ => rfl
  unfold World.remove
  rw [hu]
  dsimp only
  refine ⟨hf, fun hl => ?_, fun hl => ?_⟩
  · rw [if_pos (List.isEmpty_iff.mpr hl)]
    obtain ⟨u', l, p', ks, hu', ht, hx'⟩ := hq.takeOut remover
    have hlock : f.lock ++ [op] = [op] := by rw [hf, show e.bare.lock = [] from hl]; rfl
    exact ⟨u', l, p', ks, hu', hlock ▸ ht, hx'⟩
  · rw [if_neg fun hi => hl (List.isEmpty_iff.mp hi)]
    exact hq.setPoint _

end Scene

/-! ## Acts of no grant and no removal -/

/-- Neither a lease nor a removal comes by the move. -/
def Plain (w : World) (m : Move) : Prop :=
  (∀ k, w.grant? k m = none) ∧ ∀ k, w.removal? k m = none

theorem Act.plain (hm : Plain w m) {face : Option Entry}
    (hd : Does w u m op h face p hs care none none) (hx : Scene w u op h face p hs care) :
    Act w m u :=
  .does hd hx (.inl rfl) (fun k => by rw [hm.1, ite_self]) fun k => by rw [hm.2, ite_self]

theorem Tells.nil : Tells w h e [] := fun _ hx => by cases hx

theorem Tells.cons (ht : Tells w h e hs) (hl : w.isLive e = true) {event : LeaseEvent}
    (hh : event.handle = h) : Tells w h e (.published event :: hs) := fun x hx => by
  rcases List.mem_cons.mp hx with rfl | hx
  · exact ⟨hl, event, rfl, hh⟩
  · exact ht x hx

section served

variable {l : List Nat} {hs' : List Happening}

/-- An operation lets an entry go that it has served. -/
theorem act_leave (hm : Plain w m) (he : w.face? h = some f) (hs : Serving w op h f)
    (hh : Heads op f.lock l) {s : Option Snapshot}
    (hsnap : s = f.snapshot ∨ w.isLive f = true ∧ s = none) (ht : Tells w h f hs')
    (hcare : w.isLive f = true ∨ ∀ t, care.Allows w h t → t ∈ w.schedule.live)
    (hx : Scene w u op h (some { f with snapshot := s, lock := l }) p hs' care) (o : Outcome) :
    Act w m (u.leave op h o) :=
  .plain hm (.passes he hs hh.leaves hsnap ht hcare) (hx.leave o)

/-- The lease of an entry is lost. -/
theorem act_expire (hm : Plain w m) (he : w.face? e.handle = some e.bare)
    (hs : Serving w op e.handle e.bare) (hh : Heads op e.bare.lock l) (hl : w.isLive e.bare = true)
    (ht : Tells w e.handle e.bare hs')
    (hx : Scene w u op e.handle (some { e.bare with lock := l }) p hs' care) (s : Snapshot) :
    Act w m (u.expire op e s) := by
  have hp := hx.publish rfl (.expired s.lease)
  have ht' : Tells w e.handle e.bare
      (.published ⟨e.handle, e.request.path, .expired s.lease⟩ :: hs') := ht.cons hl rfl
  unfold World.expire
  by_cases hr : e.isRotating = true
  · rw [if_pos hr]
    exact .plain hm (.fetches he hs hl (hh.stays rfl) ht') (hp.call ..)
  · rw [if_neg hr]
    exact act_leave hm he hs hh (.inr ⟨hl, rfl⟩) ht' (.inl hl) (hp.cancelTask.install none) _

/-- What a handed over lock leads to, from a world on the way in which the entry is as it was but
for the queue. -/
theorem act_withLock (hw : Sound w) (hm : Plain w m) (hd : u.destroyed = w.destroyed)
    (he : w.face? e.handle = some e.bare) {errand : Errand}
    (hg : Gets w op e.handle e.bare errand care) (hh : Heads op e.bare.lock l)
    (hx : Scene w u op e.handle (some { e.bare with lock := l }) p [] care) :
    Act w m (u.withLock op e errand) := by
  have hlive : u.isLive e = w.isLive e.bare := by simp [isLive, hd, Entry.bare]
  have hkept : w.isLive e.bare = true ∨ ∀ t, care.Allows w e.handle t → t ∈ w.schedule.live :=
    .inr fun _ => hg.mem_live
  cases errand with
  | act s a =>
    have hs : Serving w op e.handle e.bare := by
      cases hg with
      | comes hg => exact .inl ⟨hg.op_eq, hg.registered⟩
      | enters hq => exact .inr ⟨_, hq, rfl⟩
    by_cases hc : (u.isLive e && e.isCurrent s) = true
    · have hc' := hc
      rw [Bool.and_eq_true, hlive] at hc'
      cases a with
      | renew =>
        rw [show u.withLock op e (.act s .renew) = u.renew op e s from if_pos hc]
        exact .plain hm (.renews he hs hg hc'.1 hc'.2 (hh.stays rfl)) (hx.call ..)
      | expire =>
        rw [show u.withLock op e (.act s .expire) = u.expire op e s from if_pos hc]
        exact act_expire hm he hs hh hc'.1 .nil hx s
    · rw [show u.withLock op e (.act s a) = u.leave op e.handle .finished from if_neg hc]
      exact act_leave (s := e.bare.snapshot) hm he hs hh (.inl rfl) .nil hkept hx _
  | rotate =>
    have hs : Serving w op e.handle e.bare := by
      cases hg with
      | comes hg => exact .inl ⟨hg.op_eq, hg.registered⟩
      | enters hq => exact .inr ⟨_, hq, rfl⟩
    unfold World.withLock
    dsimp only
    by_cases hc : u.isLive e = true
    · rw [if_pos hc]
      exact .plain hm (.fetches he hs (hlive ▸ hc) (hh.stays rfl) .nil) (hx.call ..)
    · rw [if_neg hc]
      exact act_leave (s := e.bare.snapshot) hm he hs hh (.inl rfl) .nil hkept hx _
  | remove remover =>
    cases hg with
    | comes hg => cases hg
    | enters hq =>
      have hrem := hw.leaving op _ _ _ hq rfl he
      obtain ⟨u', l', p', ks, hu', ht, hx'⟩ := hx.takeOut remover
      have hface : ({ e.bare with snapshot := none, lock := l' } : Entry) =
          { e.bare with snapshot := none, lock := l', standing := .removed } := by rw [← hrem]
      exact .does (.takes he (.waited hq hrem) hh ht) (hface ▸ hx') hu'
        (fun k => by rw [hm.1, ite_self]) fun k => by rw [hm.2, ite_self]

/-- What an operation that comes for an entry does. -/
theorem act_want (hw : Sound w) (hm : Plain w m) (hd : u.destroyed = w.destroyed)
    (he : w.face? e.handle = some e.bare) {errand : Errand}
    (hg : Comes w op e.handle e.bare errand care)
    (hx : Scene w u op e.handle (some e.bare) p [] care) : Act w m (u.want op e errand) := by
  have hq := hx.modify (g := fun e => { e with lock := e.lock ++ [op] }) (fun _ => rfl) (fun _ => rfl)
    fun _ => rfl
  have hop : op ∉ e.bare.lock := hw.not_mem_lock he fun q hq => by
    cases hw.point?_next.symm.trans (hg.op_eq ▸ hq)
  show Act w m (ite (e.bare.lock.isEmpty = true) _ _)
  by_cases hl : e.bare.lock.isEmpty = true
  · rw [if_pos hl]
    exact act_withLock hw hm (by simpa using hd) he (.comes hg) (.free (List.isEmpty_iff.mp hl)) hq
  · rw [if_neg hl]
    have hserves : Point.Serves e.handle (.queued e.handle errand) := by
      cases hg <;> exact rfl
    exact .plain hm (.joins he hg.op_eq hg.registered (.joins (hw.nodup _ _ he) hop errand) hserves
      fun t ht => Gets.mem_live (.comes hg) ht) (hq.setPoint _)

end served

/-! ## Answers -/

section answers

variable {s : Snapshot}

/-- Whoever holds the lock heads the queue. -/
theorem heads_of_holds (hw : Sound w) {q : Point} (hq : w.point? op = some q)
    (hk : q.holds? = some h) (he : w.face? h = some f) : Heads op f.lock f.lock :=
  .same (hw.head op q h f hq hk he) (hw.nodup h f he)

theorem act_afterRevocation (hw : Sound w) {remover : Remover}
    (hq : w.point? op = some (.revoking h s remover)) (r : Except Fault Unit) :
    Act w (.answer op (.revocation r)) (w.afterRevocation op h s remover r) := by
  obtain ⟨e, hentry, rfl, he, hx⟩ := entry_of_point hw hq rfl
  have hh := heads_of_holds hw hq rfl he
  have hgrant : ∀ k, w.grant? k (.answer op (.revocation r)) = if k = e.handle then none else none :=
    fun k => by simp [grant?, hq]
  unfold afterRevocation
  rw [hentry]
  cases r with
  | ok _ =>
    exact .does (.returned he hq hh.leaves .revoked)
      (((hx.publish rfl (.revoked s.lease)).unlock op).finish (remover.verdict true))
      (endRemoval_cases ..) hgrant fun k => by rw [ite_self]; rfl
  | error f =>
    exact .does (.returned he hq hh.leaves .failed)
      (((hx.publish rfl (.failed s.lease f)).unlock op).finish (remover.verdict true))
      (endRemoval_cases ..) hgrant fun k => by rw [ite_self]; rfl

theorem act_afterFailure (hm : Plain w m) (he : w.face? e.handle = some e.bare)
    (hs : Serving w op e.handle e.bare) (hh : Heads op e.bare.lock e.bare.lock)
    (hl : w.isLive e.bare = true) (hx : Scene w u op e.handle (some e.bare) p [] .kept) (f : Fault) :
    Act w m (u.afterFailure op e s f) := by
  have hp := hx.publish rfl (.failed s.lease f)
  have ht : Tells w e.handle e.bare [.published ⟨e.handle, e.request.path, .failed s.lease f⟩] :=
    Tells.nil.cons hl rfl
  unfold World.afterFailure
  generalize u.publish e (.failed s.lease f) = v at hp ⊢
  dsimp only
  split
  · have ha := hp.askTrigger (s.lease.remaining v.now)
    generalize v.askTrigger (s.lease.remaining v.now) = q at ha ⊢
    obtain ⟨_ | delay, v'⟩ := q
    · exact act_expire hm he hs hh hl ht ha s
    · dsimp only
      split
      · exact act_leave (s := e.bare.snapshot) hm he hs hh (.inl rfl) ht (.inl hl)
          (ha.replaceTask delay s .renew) _
      · exact act_expire hm he hs hh hl ht ha s
  · exact act_expire hm he hs hh hl ht hp s

theorem act_afterRenewal (hw : Sound w) {since : Instant}
    (hq : w.point? op = some (.renewing h s since)) (r : Except Fault Lease) :
    Act w (.answer op (.renewal r)) (w.afterRenewal op h s r) := by
  obtain ⟨e, hentry, rfl, he, hx⟩ := entry_of_point hw hq rfl
  have hh := heads_of_holds hw hq rfl he
  have hs : Serving w op e.handle e.bare := .inr ⟨_, hq, rfl⟩
  have hkept : w.isLive e.bare = true ∨ ∀ t, Care.kept.Allows w e.handle t → t ∈ w.schedule.live :=
    .inr fun _ => id
  unfold afterRenewal
  rw [hentry]
  cases r with
  | ok lease =>
    let n : Snapshot := ⟨w.nextSnapshot, lease, s.data⟩
    let v := ((w.tally (.renewal .lease true)).mint lease s.data).2.install e.handle (some n)
    have hv : Scene w v op e.handle (some { e.bare with snapshot := some n }) (w.point? op) []
        .kept :=
      ((hx.tally _).mint lease s.data).install _
    have hgrant : ∀ k, w.grant? k (.answer op (.renewal (.ok lease))) =
        if k = e.handle then some n.lease else none := fun k => by
      simp [grant?, hq, Except.toOption, n]
    show Act w _ (World.leave (ite (v.isLive e = true) _ _) op e.handle .finished)
    by_cases hl : v.isLive e = true
    · rw [if_pos hl]
      obtain ⟨care', hc⟩ := (hv.publish rfl (.renewed s.lease lease)).scheduleCare rfl n
      exact .does (.installs he hq rfl rfl hh.leaves (Tells.nil.cons hl rfl) (.inl hl))
        (hc.leave .finished) (.inl rfl) hgrant fun k => by rw [ite_self]; rfl
    · rw [if_neg hl]
      exact .does (.installs he hq rfl rfl hh.leaves .nil hkept) (hv.leave .finished) (.inl rfl)
        hgrant fun k => by rw [ite_self]; rfl
  | error f =>
    have hm : Plain w (.answer op (.renewal (.error f))) :=
      ⟨fun k => by simp [grant?, hq, Except.toOption], fun _ => rfl⟩
    show Act w _ (ite (w.isLive e = true) _ _)
    by_cases hl : w.isLive e = true
    · rw [if_pos hl]
      exact act_afterFailure hm he hs hh hl (hx.tally _) f
    · rw [if_neg hl]
      exact act_leave (s := e.bare.snapshot) hm he hs hh (.inl rfl) .nil hkept (hx.tally _) _

/-- A fetch has brought nothing, and that is told of an entry that is looked after. -/
theorem act_endFetch (hm : Plain w m) (he : w.face? e.handle = some e.bare)
    (hs : Serving w op e.handle e.bare) (hh : Heads op e.bare.lock e.bare.lock)
    (hx : Scene w u op e.handle (some e.bare) p [] .kept) (hd : u.destroyed = w.destroyed)
    (k : LeaseChange) (cause : Cause) (f : Fault) :
    Act w m (World.endFetch (if u.isLive e then u.publish e k else u) op e cause f) := by
  have hlive : u.isLive e = w.isLive e.bare := by simp [isLive, hd, Entry.bare]
  obtain ⟨hs', v, hv, ht, hvx, hvd⟩ : ∃ hs' v, v = (if u.isLive e then u.publish e k else u) ∧
      Tells w e.handle e.bare hs' ∧
      Scene w v op e.handle (some e.bare) p hs' .kept ∧ v.destroyed = w.destroyed := by
    by_cases hl : u.isLive e = true
    · exact ⟨_, _, (if_pos hl).symm, Tells.nil.cons (hlive ▸ hl) rfl, hx.publish rfl k, hd⟩
    · exact ⟨_, _, (if_neg hl).symm, .nil, hx, hd⟩
  rw [← hv]
  cases cause with
  | caller =>
    exact act_leave (s := e.bare.snapshot) hm he hs hh (.inl rfl) ht (.inr fun _ => id) hvx _
  | loss =>
    have hlive' : (v.cancelTask e.handle).isLive e = w.isLive e.bare := by
      simp [isLive, hvd, Entry.bare]
    show Act w m (World.leave (ite ((v.cancelTask e.handle).isLive e = true) _ _) op e.handle
      .finished)
    by_cases hl : (v.cancelTask e.handle).isLive e = true
    · rw [if_pos hl]
      exact act_leave hm he hs hh (.inr ⟨hlive' ▸ hl, rfl⟩) ht (.inl (hlive' ▸ hl))
        (hvx.cancelTask.install none) _
    · rw [if_neg hl]
      exact act_leave (s := e.bare.snapshot) hm he hs hh (.inl rfl) ht (.inr fun _ => False.elim)
        hvx.cancelTask _

theorem act_afterFetch (hw : Sound w) {previous : Lease} {cause : Cause}
    (hq : w.point? op = some (.rotating h previous cause)) (r : Except Fault (Option Secret)) :
    Act w (.answer op (.fetched r)) (w.afterFetch op h previous cause r) := by
  obtain ⟨e, hentry, rfl, he, hx⟩ := entry_of_point hw hq rfl
  have hh := heads_of_holds hw hq rfl he
  have hs : Serving w op e.handle e.bare := .inr ⟨_, hq, rfl⟩
  have hplain : leaseOf? r = none → Plain w (.answer op (.fetched r)) := fun hr =>
    ⟨fun k => by simp [grant?, hq, hr], fun _ => rfl⟩
  unfold afterFetch
  rw [hentry]
  match r with
  | .ok none => exact act_endFetch (hplain rfl) he hs hh (hx.tally _) rfl _ _ _
  | .error f => exact act_endFetch (hplain rfl) he hs hh (hx.tally _) rfl _ _ _
  | .ok (some secret) =>
    let n : Snapshot := ⟨w.nextSnapshot, secret.lease, secret.data⟩
    let v := ((w.tally (.rotation e.request.mode true)).mint secret.lease secret.data).2.install
      e.handle (some n)
    have hv : Scene w v op e.handle (some { e.bare with snapshot := some n }) (w.point? op) []
        .kept :=
      ((hx.tally _).mint secret.lease secret.data).install _
    have hgrant : ∀ k, w.grant? k (.answer op (.fetched (.ok (some secret)))) =
        if k = e.handle then some n.lease else none := fun k => by
      simp [grant?, hq, leaseOf?, n]
    show Act w _ (World.leave (ite (v.isLive e = true) _ _) op e.handle .finished)
    by_cases hl : v.isLive e = true
    · rw [if_pos hl]
      obtain ⟨care', hc⟩ := (hv.publish rfl (.rotated previous n.lease n.data)).scheduleCare rfl n
      exact .does (.installs he hq rfl rfl hh.leaves (Tells.nil.cons hl rfl) (.inl hl))
        (hc.leave .finished) (.inl rfl) hgrant fun k => by rw [ite_self]; rfl
    · rw [if_neg hl]
      exact .does (.installs he hq rfl rfl hh.leaves .nil (.inr fun _ => id)) (hv.leave .finished)
        (.inl rfl) hgrant fun k => by rw [ite_self]; rfl

end answers

/-! ## The first fetch -/

section first

variable {r : Except Fault (Option Secret)}

/-- A first fetch that was to bring something and did not leaves nothing behind. -/
theorem afterFirstFetch_rejected (hw : Sound w) (hq : w.point? op = some (.registering h))
    (he : w.face? h = some f) {k : Fault} (hr : rejection? f.request r = some k) :
    Scene w (w.afterFirstFetch op h r) op h none none [.ended op (.refused k)] .kept := by
  obtain ⟨e, hentry, rfl, he', hx⟩ := entry_of_point hw hq rfl
  cases he.symm.trans he'
  have hpend := (hw.pending op _ _ _ hq rfl he).mpr rfl
  have hforget : ∀ k, Scene w ((w.forget e.handle).finish op (.refused k)) op e.handle none none
      [.ended op (.refused k)] .kept := fun k =>
    (hx.forget fun t ht hh => by cases hpend.symm.trans (hw.working t ht _ (hh ▸ he))).finish _
  unfold afterFirstFetch
  rw [hentry]
  match r with
  | .ok (some _) => cases hr
  | .ok none =>
    have hr : (if e.request.mode.isImmediate = true then some (Fault.notFound e.request.path)
      else none) = some k := hr
    obtain ⟨hi, hk⟩ := Option.ite_none_right_eq_some.mp hr
    cases hk
    show Scene w (ite (e.request.mode.isImmediate = true) _ _) op e.handle none none _ .kept
    rw [if_pos hi]
    exact hforget _
  | .error f =>
    have hr : (if e.request.mode.isImmediate = true then some f else none) = some k := hr
    obtain ⟨hi, hk⟩ := Option.ite_none_right_eq_some.mp hr
    cases hk
    show Scene w (ite (e.request.mode.isImmediate = true) _ _) op e.handle none none _ .kept
    rw [if_pos hi]
    exact hforget _

/-- Any other first fetch makes the entry known, and tells one thing about it unless the engine is
shut down. -/
theorem afterFirstFetch_register (hw : Sound w) (hq : w.point? op = some (.registering h))
    (he : w.face? h = some f) (hr : rejection? f.request r = none) :
    ∃ e v s tell, e.bare = f ∧ e.handle = h ∧ w.afterFirstFetch op h r = v.register op e s tell ∧
      s.map Snapshot.lease = leaseOf? r ∧ v.destroyed = w.destroyed ∧
      Scene w v op h (some f) (w.point? op) [] .kept ∧
      ∀ {u : World} {f' : Entry} {p : Option Point}, Scene w u op h (some f') p [] .kept →
        ∃ k care', Scene w (tell u) op h (some f') p [.published ⟨h, e.request.path, k⟩] care' := by
  obtain ⟨e, hentry, rfl, he', hx⟩ := entry_of_point hw hq rfl
  cases he.symm.trans he'
  unfold afterFirstFetch
  rw [hentry]
  match r with
  | .ok (some secret) =>
    refine ⟨e, _, _, _, rfl, rfl, rfl, rfl, rfl, hx.mint secret.lease secret.data, fun hu => ?_⟩
    obtain ⟨care', hc⟩ := (hu.publish (e := e) rfl _).scheduleCare
      (e := { e with standing := .registered }) rfl ⟨w.nextSnapshot, secret.lease, secret.data⟩
    exact ⟨_, care', hc⟩
  | .ok none =>
    have hi : ¬ e.request.mode.isImmediate = true := fun hi => by
      cases (show some (Fault.notFound e.request.path) = none from (if_pos hi).symm.trans hr)
    exact ⟨e, w, none, _, rfl, rfl, if_neg hi, rfl, rfl, hx,
      fun hu => ⟨_, _, hu.publish (e := e) rfl .notFound⟩⟩
  | .error k =>
    have hi : ¬ e.request.mode.isImmediate = true := fun hi => by
      cases (show some k = none from (if_pos hi).symm.trans hr)
    exact ⟨e, w, none, _, rfl, rfl, if_neg hi, rfl, rfl, hx,
      fun hu => ⟨_, _, hu.publish (e := e) rfl (.failed (Lease.absent _) k)⟩⟩

/-- An entry becomes known by its handle. -/
def World.known (w : World) (h : Handle) (s : Option Snapshot) : World :=
  (w.modify h fun e => { e with snapshot := s, standing := .registered }).updateGauge

theorem Scene.known (hv : Scene w v op h (some f) p hs care) (s : Option Snapshot) :
    Scene w (v.known h s) op h (some { f with snapshot := s, standing := .registered }) p hs care :=
  (hv.modify (g := fun e => { e with snapshot := s, standing := .registered }) (fun _ => rfl)
    (fun _ => rfl) fun _ => rfl).updateGauge

/-- In an engine that was shut down meanwhile the entry is taken out again. -/
theorem afterFirstFetch_late (hw : Sound w) (hq : w.point? op = some (.registering h))
    (he : w.face? h = some f) (hr : rejection? f.request r = none) (hd : w.destroyed = true) :
    ∃ s u' l p ks, s.map Snapshot.lease = leaseOf? r ∧ Takes op h .registration s [op] l p ks ∧
      (w.afterFirstFetch op h r = u' ∨ ∃ parent, w.afterFirstFetch op h r = u'.childEnded parent) ∧
      Scene w u' op h (some { f with snapshot := none, lock := l, standing := .removed }) p ks
        .cancelled := by
  obtain ⟨e, v, s, tell, rfl, rfl, heq, hs, hvd, hv, -⟩ := afterFirstFetch_register hw hq he hr
  have hlock : e.bare.lock.filter (· != op) = [] := by
    rw [hw.lock_of_registering hq he]
    simp
  have hknown := (hv.known s).unlock op
  have hreg : w.afterFirstFetch op e.handle r =
      ((v.known e.handle s).unlock op e.handle).remove op e.handle .registration := by
    rw [heq]
    show ite (v.destroyed = true) _ _ = _
    rw [if_pos (hvd.trans hd)]
    rfl
  rw [hreg]
  generalize (v.known e.handle s).unlock op e.handle = v' at hknown ⊢
  -- The entry is found again as it has just become.
  obtain ⟨e', hu, hbare⟩ : ∃ e', v'.registered? e.handle = some e' ∧ e'.bare =
      { e.bare with snapshot := s, lock := [], standing := .registered } := by
    obtain ⟨_, _, hf⟩ := hknown.frame
    obtain ⟨e', he', hb⟩ := exists_registered? hf.face rfl
    exact ⟨e', he', by rw [hb, ← hlock]⟩
  obtain ⟨hf, hfree, -⟩ := hknown.remove hu .registration
  obtain ⟨u', l, p, ks, hu', ht, hx⟩ := hfree (congrArg Entry.lock hbare)
  rw [show e'.snapshot = s from congrArg Entry.snapshot hbare] at ht
  exact ⟨s, u', l, p, ks, hs, ht, hu', hx⟩

theorem act_afterFirstFetch (hw : Sound w) (hq : w.point? op = some (.registering h)) :
    Act w (.answer op (.fetched r)) (w.afterFirstFetch op h r) := by
  obtain ⟨f, he⟩ := hw.wanted op _ h hq rfl
  have hpend := (hw.pending op _ h f hq rfl he).mpr rfl
  have hh := heads_of_holds hw hq rfl he
  have hgrant : ∀ k, w.grant? k (.answer op (.fetched r)) = if k = h then leaseOf? r else none :=
    fun k => by simp [grant?, hq]
  have hremoval : ∀ k, w.removal? k (.answer op (.fetched r)) = if k = h then none else none :=
    fun k => by rw [ite_self]; rfl
  cases hr : rejection? f.request r with
  | some k =>
    have hnone : leaseOf? r = none := by
      match r with
      | .ok (some _) => cases hr
      | .ok none => rfl
      | .error _ => rfl
    exact .does (.forgets hq he rfl hr) (afterFirstFetch_rejected hw hq he hr) (.inl rfl)
      (hnone ▸ hgrant) hremoval
  | none =>
    cases hd : w.destroyed with
    | true =>
      obtain ⟨s, u', l, p, ks, hs, ht, hu', hx⟩ := afterFirstFetch_late hw hq he hr hd
      have hlock := hw.lock_of_registering hq he
      rw [← hlock] at ht
      exact .does (.takes he (.late rfl hq hd hr hs) hh ht) hx hu' hgrant hremoval
    | false =>
      obtain ⟨e, v, s, tell, rfl, rfl, heq, hs, hvd, hv, htell⟩ :=
        afterFirstFetch_register hw hq he hr
      have hl : w.isLive e.bare = true := by simp [isLive, hd, hpend]
      obtain ⟨k, care', hx⟩ := htell (hv.known s)
      rw [heq, register_eq (hvd.trans hd)]
      exact .does (.registers hq he hd hh.leaves (Tells.nil.cons hl rfl)) (hx.leave _) (.inl rfl)
        (hs ▸ hgrant) hremoval

end first

/-! ## Requests -/

theorem act_finish (hw : Sound w) (hm : Plain w m) (o : Outcome) :
    Act w m (w.enroll.2.finish w.nextOperation o) :=
  .aside (aside_finish hw o) hm.1 hm.2

theorem act_add (hw : Sound w) (r : SecretRequest) (source : String) :
    Act w (.begin (.add r source)) (w.enroll.2.add w.nextOperation r source) := by
  have hm : Plain w (.begin (.add r source)) := ⟨fun _ => rfl, fun _ => rfl⟩
  show Act w _ (ite (w.destroyed = true) _ _)
  by_cases hd : w.destroyed = true
  · rw [if_pos hd]
    exact act_finish hw hm _
  · rw [if_neg hd]
    have hn : w.face? ⟨w.nextHandle⟩ = none := by
      cases he : w.face? ⟨w.nextHandle⟩ with
      | none => rfl
      | some e => exact absurd (hw.known _ _ he) (Nat.lt_irrefl _)
    have hx := Scene.enroll hw.booked ⟨w.nextHandle⟩
    rw [hn] at hx
    exact .plain hm (.adds (Bool.not_eq_true _ ▸ hd) rfl rfl (Nat.lt_succ_self _) rfl rfl rfl)
      ((hx.enlist rfl rfl).call ..)

/-- A removal, from a world on the way in which nothing has become of the entries. -/
theorem act_remove (hw : Sound w) {remover : Remover} (hr : Removes w m op h remover)
    (hgrant : ∀ k, w.grant? k m = none)
    (hremoval : ∀ k, w.removal? k m = if k = h then some op else none)
    (hop : ∀ q, w.point? op = some q → q.wants? = none) (he : w.registered? h = some e)
    (hu : u.registered? h = some e) (hx : Scene w u op h (w.face? h) p [] .kept) :
    Act w m (u.remove op h remover) := by
  obtain ⟨hentry, hs⟩ := registered?_some he
  have hface := face?_some hentry
  rw [hface] at hx
  obtain ⟨-, hfree, hwaits⟩ := hx.remove hu remover
  have hgrant' : ∀ k, w.grant? k m = if k = h then none else none := fun k => by
    rw [hgrant, ite_self]
  by_cases hl : e.lock = []
  · obtain ⟨u', l, p', ks, hu', ht, hx'⟩ := hfree hl
    have hh : Heads op e.bare.lock [op] := by
      have hjoined : Heads op e.bare.lock (e.bare.lock ++ [op]) := .free hl
      rwa [show e.bare.lock = [] from hl] at hjoined ⊢
    exact .does (.takes hface (.removes hr hs) hh ht) hx' hu' hgrant' hremoval
  · have hnot : op ∉ e.bare.lock := hw.not_mem_lock hface hop
    exact .does (.waits hface hr hs (.joins (hw.nodup _ _ hface) hnot _)) (hwaits hl) (.inl rfl)
      hgrant' hremoval

theorem act_removeAsked (hw : Sound w) (h : Handle) :
    Act w (.begin (.remove h)) (w.enroll.2.remove w.nextOperation h .caller) := by
  have hp := hw.point?_next
  cases hr : w.registered? h with
  | none =>
    have heq : w.enroll.2.remove w.nextOperation h .caller =
        w.enroll.2.finish w.nextOperation (.removed false) := by
      unfold World.remove
      rw [show w.enroll.2.registered? h = none from hr]
      rfl
    rw [heq]
    refine .misses ((Aside.enroll hw).finish (fun q hq => ?_) (fun _ _ _ hq => ?_)
      (fun _ => Nat.le_refl _) _) (fun _ => rfl) (fun _ => rfl) hr (.finish (Nat.lt_succ_self _))
    · cases hp.symm.trans hq
    · cases hp.symm.trans hq
  | some e =>
    exact act_remove hw (.asked rfl rfl) (fun _ => rfl) (fun _ => rfl)
      (fun q hq => by cases hp.symm.trans hq) hr hr (.enroll hw.booked h)

theorem act_removeOpened (hw : Sound w) {parent : Nat} (hq : w.point? op = some (.opening h parent)) :
    Act w (.openNext op) (w.remove op h (.shutdown parent)) := by
  have hremoval : ∀ k, w.removal? k (.openNext op) = if k = h then some op else none := fun k => by
    simp [removal?, hq]
  have hop := hw.fresh op _ hq
  cases hr : w.registered? h with
  | none =>
    have heq : w.remove op h (.shutdown parent) =
        (w.finish op (.removed false)).childEnded parent := by
      unfold World.remove
      rw [hr]
      rfl
    have ha : Aside w (w.finish op (.removed false)) := by
      refine (Aside.refl hw).finish (fun q hq' => ?_) (fun k parent' f hq' hf hs => ?_)
        (fun hn => by cases hn.symm.trans hq) _
      · cases hq.symm.trans hq'
        rfl
      · cases hq.symm.trans hq'
        obtain ⟨e, he, -⟩ := exists_registered? hf hs
        cases hr.symm.trans he
    rw [heq]
    exact .misses (ha.childEnded parent) (fun _ => rfl) hremoval hr
      ((Concluded.finish hop).aside ((Aside.refl (hw.of_aside ha)).childEnded parent))
  | some e =>
    refine act_remove hw (.opened rfl hq) (fun _ => rfl) hremoval (fun q hq' => ?_) hr hr
      (.refl hw.booked hop h)
    cases hq.symm.trans hq'
    rfl

theorem act_rotate (hw : Sound w) (h : Handle) :
    Act w (.begin (.rotate h)) (w.enroll.2.rotate w.nextOperation h) := by
  have hm : Plain w (.begin (.rotate h)) := ⟨fun _ => rfl, fun _ => rfl⟩
  show Act w _ (ite (w.destroyed = true) _ _)
  by_cases hd : w.destroyed = true
  · rw [if_pos hd]
    exact act_finish hw hm _
  · rw [if_neg hd]
    cases hr : w.registered? h with
    | none =>
      rw [show w.enroll.2.registered? h = none from hr]
      exact act_finish hw hm _
    | some e =>
      rw [show w.enroll.2.registered? h = some e from hr]
      obtain ⟨he, hs⟩ := registered?_some hr
      obtain rfl := find_handle he
      exact act_want (u := w.enroll.2) hw hm rfl (face?_some he) (.asks rfl hs)
        (face?_some he ▸ Scene.enroll hw.booked e.handle)

theorem act_destroy (hw : Sound w) : Act w (.begin .destroy) (w.enroll.2.destroy w.nextOperation) :=
  .aside (aside_destroy hw) (fun _ => rfl) fun _ => rfl

/-! ## Tasks -/

/-- Running a started task. -/
theorem act_run (hw : Sound w) (hm : Plain w m) {t : Task Job} {s : Schedule Job}
    (hs : w.schedule.Starts t s) : Act w m ({ w with schedule := s }.run t.job) := by
  have hx := Scene.starts hw.booked hs rfl
  show Act w _ (ite (w.isAlive = true) _ _)
  by_cases ha : w.isAlive = true
  · rw [if_pos ha]
    obtain ⟨e, he, -⟩ := hw.booked.slot_live t hs.mem
    rw [show World.entry? { w with schedule := s } t.job.handle = some e from he]
    have hh := find_handle he
    rw [face?_some he] at hx
    rw [← hh] at hx he
    have hr := hw.working t hs.mem _ (hh ▸ face?_some he)
    exact act_want (u := ({ w with schedule := s } : World).enroll.2) hw hm rfl (face?_some he)
      (.fires rfl hr hs.mem hh.symm) hx
  · rw [if_neg ha]
    exact .aside (.same hw (fun _ => rfl) rfl rfl (Nat.le_refl _) rfl rfl (hw.booked.starts hs)
      fun u hu => (hs.not_mem hu).1) hm.1 hm.2

/-! ## Turns -/

/-- Every turn of an engine that is sound is one of the acts. -/
theorem act_of_turn {w w' : World} (hw : Sound w) (ht : Turn w m w') : Act w m w' := by
  have hsame : ∀ {u : World}, u.entries = w.entries → u.operations = w.operations →
      u.history = w.history → u.nextOperation = w.nextOperation → u.nextHandle = w.nextHandle →
      u.destroyed = w.destroyed → u.schedule = w.schedule → Aside w u :=
    fun {u} he ho hh hn hk hd hs => by
      have hentry : ∀ k, u.entry? k = w.entry? k := fun k => by unfold entry?; rw [he]
      exact .same hw (fun k => by unfold face?; rw [hentry]) ho hh (Nat.le_of_eq hn.symm) hk hd
        (hw.booked.same hs fun k => by rw [hentry]) fun t ht => hs ▸ ht
  cases ht with
  | @begins r _ =>
    cases r with
    | add r source => exact act_add hw r source
    | remove h => exact act_removeAsked hw h
    | rotate h => exact act_rotate hw h
    | destroy => exact act_destroy hw
  | runs hf =>
    refine act_run hw ?_ (hf.starts hw.booked.numbered)
    cases hf <;> exact ⟨fun _ => rfl, fun _ => rfl⟩
  | @enters op h errand e hq he hl =>
    obtain rfl := find_handle he
    have hface := face?_some he
    have hx := Scene.refl hw.booked (hw.fresh op _ hq) e.handle
    rw [hface] at hx
    exact act_withLock hw ⟨fun _ => rfl, fun _ => rfl⟩ rfl hface (.enters hq)
      (.same hl (hw.nodup _ _ hface)) hx
  | opens hq => exact act_removeOpened hw hq
  | fetchedFirst hq => exact act_afterFirstFetch hw hq
  | fetchedAgain hq => exact act_afterFetch hw hq _
  | renewed hq => exact act_afterRenewal hw hq _
  | revoked hq => exact act_afterRevocation hw hq _
  | elapses => exact .aside (hsame rfl rfl rfl rfl rfl rfl rfl) (fun _ => rfl) fun _ => rfl
  | releases => exact .aside (aside_release hw) (fun _ => rfl) fun _ => rfl
  | stops =>
    obtain ⟨hb, hl, -⟩ := hw.booked.stop
    exact .aside (.same hw (fun _ => rfl) rfl rfl (Nat.le_refl _) rfl rfl hb hl) (fun _ => rfl)
      fun _ => rfl
  | listens | unlistens => exact .aside (hsame rfl rfl rfl rfl rfl rfl rfl) (fun _ => rfl) fun _ => rfl

theorem Sound.of_act {w' : World} (hw : Sound w) (ha : Act w m w') : Sound w' := by
  cases ha with
  | aside ha _ _ | misses ha _ _ _ _ => exact hw.of_aside ha
  | does hd hx hu _ _ =>
    have hu' := hw.of_does hd hx
    exact hu'.of_aside (.told hu' hu)

/-- Every turn keeps an engine sound. -/
theorem Sound.of_turn {w' : World} (hw : Sound w) (ht : Turn w m w') : Sound w' :=
  hw.of_act (act_of_turn hw ht)

theorem sound_of_run {settings : Settings} {d : Discipline} {draws : Nat → Nat} {ms : List Move}
    (hrun : run? (initial settings d draws) ms = some w) : Sound w :=
  run?_keeps Sound.of_turn (sound_initial settings d draws) hrun

end LeaseKeeper.Leases
