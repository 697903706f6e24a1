import LeaseKeeper.Proofs.Leases.Course
import LeaseKeeper.Proofs.Metrics.Tallies

/-!
# What a lease engine counts

A lease engine that is observed by somebody who counts (`Audience.Metered`) counts the renewals that are
answered and the secrets that are fetched again (`World.counts`), and the events it publishes, in every
step (`counts_of_turn`) and so in every run (`counts_of_run`). Of the events it tells that a lease was
renewed, or a secret fetched again, where the secret is still looked after when the answer arrives.
The gauge shows how many secrets are registered, once it shows anything (`World.Gauged`): whoever
registers a secret or takes one out brings it up to date, and nobody else changes their number.
-/

namespace LeaseKeeper.Leases

open World

/-- The mark of an event, if it was published. -/
def Happening.mark? : Happening → Option Mark
  | .published e => some (.leaseEvent e.kind)
  | _ => none

/-- Whether a fetch found a secret. -/
def isFound : Except Fault (Option Secret) → Bool
  | .ok (some _) => true
  | _ => false

namespace World

/-- The marks of the events that were published, the latest first. -/
def published (w : World) : List Mark := w.history.filterMap Happening.mark?

/-- The entries are told apart by their handles, and the gauge shows how many of them are registered,
if it shows anything. -/
structure Gauged (w : World) : Prop where
  distinct : (w.entries.map Entry.handle).Nodup
  shown : ∀ n, w.audience.metrics.managed = some n → n = w.count

/-- The entry whose lock an operation holds. -/
def served? (w : World) (op : Nat) : Option Entry :=
  ((w.point? op).bind Point.holds?).bind w.entry?

/-- Whether an operation holds the lock of an entry that is still looked after. -/
def servesLive (w : World) (op : Nat) : Bool := (w.served? op).any w.isLive

/-- What is counted of the answer to a renewal, of an entry that is still looked after or not. -/
def countsRenewal (live : Bool) (r : Except Fault Lease) : List Mark :=
  (if r.isOk && live then [.leaseEvent "renewed"] else []) ++ [.renewal .lease r.isOk]

/-- What is counted of the answer to another fetch, for an entry of that mode. -/
def countsFetch (mode : Mode) (live : Bool) (r : Except Fault (Option Secret)) : List Mark :=
  (if isFound r && live then [.leaseEvent "rotated"] else []) ++ [.rotation mode (isFound r)]

/-- The entry for which another fetch is answered, and the answer. -/
def refetch? (w : World) : Move → Option (Entry × Except Fault (Option Secret))
  | .answer op (.fetched r) =>
    match w.point? op with
    | some (.rotating _ _ _) => (w.served? op).map (·, r)
    | _ => none
  | _ => none

/-- What is counted of the answer that a move brings. -/
def counts (w : World) (m : Move) : List Mark :=
  match m with
  | .answer op (.renewal r) => countsRenewal (w.servesLive op) r
  | .answer _ (.fetched _) =>
    (w.refetch? m).elim [] fun x => countsFetch x.1.request.mode (w.isLive x.1) x.2
  | _ => []

end World

/-- Whether a move leaves those in place who count, and brings no other. -/
def Move.Spares (ids : Channel → Nat) : Move → Prop
  | .listen _ o => o.behaviour ≠ .measure
  | .unlisten c id => id ≠ ids c
  | _ => True

/-- What was counted from `w` to `u`, but for most events. -/
structure Counts (ids : Channel → Nat) (w u : World) (js : List Mark) : Prop where
  metered : u.audience.Metered ids
  tally : Tally w.audience.metrics u.audience.metrics w.published u.published js
  gauged : u.Gauged

/-! ## The number of secrets -/

section modify

variable (w : World) (h : Handle) {f : Entry → Entry}

/-- Who registers nothing and takes nothing out leaves the number of secrets as it is. -/
theorem count_modify (hf : ∀ e, (f e).standing = e.standing) : (w.modify h f).count = w.count := by
  simp only [World.count, World.registered, World.modify, List.filter_map, List.length_map]
  refine congrArg List.length (List.filter_congr fun e _ => ?_)
  simp only [Function.comp, Entry.isRegistered]
  split
  · rw [hf]
  · rfl

theorem handles_modify (hf : ∀ e, (f e).handle = e.handle) :
    (w.modify h f).entries.map Entry.handle = w.entries.map Entry.handle := by
  simp only [World.modify, List.map_map]
  refine List.map_congr_left fun e _ => ?_
  simp only [Function.comp]
  split
  · exact hf e
  · rfl

end modify

/-- Cancelling a task counts nothing and leaves the entries in place. -/
theorem rest_cancelTask (w : World) (h : Handle) : (w.cancelTask h).audience = w.audience ∧
    (w.cancelTask h).published = w.published ∧
    (w.cancelTask h).entries.map Entry.handle = w.entries.map Entry.handle := by
  unfold World.cancelTask
  split
  · exact ⟨rfl, rfl, rfl⟩
  · exact ⟨rfl, rfl, handles_modify (f := fun e => { e with slot := none }) _ _ fun _ => rfl⟩

/-- An entry that is not known yet does not count. -/
theorem count_enlist (w : World) {e : Entry} (hs : e.standing = .pending) :
    (w.enlist e).count = w.count := by
  simp [World.count, World.registered, Entry.isRegistered, hs]

/-- Nor does it count when it is forgotten. -/
theorem count_forget {w : World} {h : Handle} {e : Entry}
    (hd : (w.entries.map Entry.handle).Nodup) (he : w.entry? h = some e) (hs : e.standing = .pending) :
    (w.forget h).count = w.count := by
  simp only [World.count, World.registered, World.forget, List.filter_filter]
  refine congrArg List.length (List.filter_congr fun f hf => ?_)
  cases hr : f.isRegistered with
  | false => rfl
  | true =>
    have hne : f.handle ≠ h := fun hfh => by
      obtain rfl := List.inj_on_of_nodup_map hd hf (List.mem_of_find?_eq_some he)
        (hfh.trans (find_handle he).symm)
      rw [Entry.isRegistered, hs] at hr
      cases hr
    simp [hne]

namespace Counts

variable {ids : Channel → Nat} {w u v : World} {js : List Mark} {op : Nat} {h : Handle} {e : Entry}

theorem refl (hm : w.audience.Metered ids) (hg : w.Gauged) : Counts ids w w [] := ⟨hm, .refl .., hg⟩

/-- Nothing is published or counted, and the entries stay. -/
theorem same (hc : Counts ids w u js) (ha : v.audience = u.audience) (hh : v.published = u.published)
    (he : v.entries = u.entries) : Counts ids w v js := by
  refine ⟨ha ▸ hc.metered, ?_, he ▸ hc.gauged.distinct, fun n hm => ?_⟩
  · rw [ha, hh]
    exact hc.tally
  · rw [World.count, World.registered, he]
    exact hc.gauged.shown n (ha ▸ hm)

/-- Nothing is published or counted, and the gauge is brought up to date. -/
theorem updateGauge (hc : Counts ids w u js) (ha : v.audience = u.audience)
    (hh : v.published = u.published) (he : v.entries.map Entry.handle = u.entries.map Entry.handle) :
    Counts ids w v.updateGauge js := by
  refine ⟨⟨?_⟩, ?_, ?_, fun n hm => (Option.some.inj hm).symm⟩
  · rw [World.updateGauge, ha]
    exact hc.metered.meters
  · have ht := hc.tally.setManaged v.count
    rw [← ha, ← hh] at ht
    exact ht
  · exact he ▸ hc.gauged.distinct

theorem modify (hc : Counts ids w u js) (h : Handle) {f : Entry → Entry}
    (hf : ∀ e, (f e).handle = e.handle ∧ (f e).standing = e.standing) :
    Counts ids w (u.modify h f) js := by
  refine ⟨hc.metered, hc.tally, ?_, fun n hm => ?_⟩
  · rw [handles_modify u h fun e => (hf e).1]
    exact hc.gauged.distinct
  · rw [count_modify u h fun e => (hf e).2]
    exact hc.gauged.shown n hm

theorem publish (hc : Counts ids w u js) (e : Entry) (change : LeaseChange) :
    Counts ids w (u.publish e change)
      (if (Mark.leaseEvent change.kind).isTold then .leaseEvent change.kind :: js else js) := by
  have hm := hc.metered.metrics_hear
  refine ⟨hc.metered.hear .., ?_, hc.gauged.distinct, fun n hn => ?_⟩
  · refine Eq.subst (motive := fun m => Tally _ m _ _ _) (hm ..).symm ?_
    exact hc.tally.mark rfl
  · exact hc.gauged.shown n ((congrArg Metrics.managed (hm ..)).symm.trans hn)

theorem count (hc : Counts ids w u js) {k : Mark} (hl : k.isLogin = false) (he : k.isEvent = false)
    (hk : k.isTold = true) : Counts ids w (u.tally k) (k :: js) := by
  refine ⟨⟨hc.metered.meters⟩, ?_, hc.gauged.distinct, hc.gauged.shown⟩
  have ht := hc.tally.mark hl
  rwa [he, hk] at ht

/-! ## Tasks, locks and operations -/

theorem cancelTask (hc : Counts ids w u js) (h : Handle) : Counts ids w (u.cancelTask h) js := by
  unfold World.cancelTask
  split
  · exact hc
  · refine .modify ?_ h fun _ => ⟨rfl, rfl⟩
    exact hc.same rfl rfl rfl

theorem replaceTask (hc : Counts ids w u js) (h : Handle) (delay : Span) (s : Snapshot) (a : Action) :
    Counts ids w (u.replaceTask h delay s a) js := by
  unfold World.replaceTask
  split
  · exact hc
  · refine .modify ?_ h fun _ => ⟨rfl, rfl⟩
    exact hc.same rfl rfl rfl

theorem cancelTasks (hc : Counts ids w u js) (hs : List Handle) :
    Counts ids w (hs.foldl World.cancelTask u) js := by
  induction hs generalizing u with
  | nil => exact hc
  | cons h hs ih => exact ih (hc.cancelTask h)

theorem reap (hc : Counts ids w u js) : Counts ids w u.reap js := by
  unfold World.reap
  split
  · exact hc
  · exact hc.cancelTasks _

theorem finish (hc : Counts ids w u js) (op : Nat) (o : Outcome) : Counts ids w (u.finish op o) js :=
  .reap (hc.same rfl rfl rfl)

theorem install (hc : Counts ids w u js) (h : Handle) (s : Option Snapshot) :
    Counts ids w (u.install h s) js := hc.modify h fun _ => ⟨rfl, rfl⟩

theorem unlock (hc : Counts ids w u js) (op : Nat) (h : Handle) : Counts ids w (u.unlock op h) js :=
  hc.modify h fun _ => ⟨rfl, rfl⟩

/-- An operation queues up. -/
theorem queue (hc : Counts ids w u js) (op : Nat) (h : Handle) :
    Counts ids w (u.modify h fun e => { e with lock := e.lock ++ [op] }) js :=
  hc.modify h fun _ => ⟨rfl, rfl⟩

theorem leave (hc : Counts ids w u js) (op : Nat) (h : Handle) (o : Outcome) :
    Counts ids w (u.leave op h o) js := (hc.unlock op h).finish op o

theorem setPoint (hc : Counts ids w u js) (op : Nat) (p : Point) :
    Counts ids w (u.setPoint op p) js := hc.same rfl rfl rfl

theorem call (hc : Counts ids w u js) (op : Nat) (h : Handle) (c : Call) (p : Point) :
    Counts ids w (u.call op h c p) js := hc.same rfl rfl rfl

theorem mint (hc : Counts ids w u js) (l : Lease) (d : SecretData) :
    Counts ids w (u.mint l d).2 js := hc.same rfl rfl rfl

theorem enroll (hc : Counts ids w u js) : Counts ids w u.enroll.2 js := hc.same rfl rfl rfl

theorem askTrigger (hc : Counts ids w u js) (left : Span) : Counts ids w (u.askTrigger left).2 js :=
  hc.same rfl rfl rfl

theorem scheduleCare (hc : Counts ids w u js) (e : Entry) (s : Snapshot) :
    Counts ids w (u.scheduleCare e s) js := by
  have ha := hc.askTrigger (s.lease.remaining u.now)
  unfold World.scheduleCare
  split
  · exact hc
  split
  · exact hc.cancelTask _
  split
  · exact hc.replaceTask ..
  split <;> rename_i hq <;> rw [hq] at ha
  · exact ha.cancelTask _
  · exact ha.replaceTask ..

/-! ## Removing -/

theorem childEnded (hc : Counts ids w u js) (parent : Nat) :
    Counts ids w (u.childEnded parent) js := by
  unfold World.childEnded
  split
  · split
    · exact hc.finish ..
    · exact hc.setPoint ..
  · exact hc

theorem endRemoval (hc : Counts ids w u js) (op : Nat) (remover : Remover) (found : Bool) :
    Counts ids w (u.endRemoval op remover found) js := by
  cases remover with
  | caller | registration => exact hc.finish ..
  | shutdown parent => exact (hc.finish ..).childEnded parent

theorem takeOut (hc : Counts ids w u js) (op : Nat) (e : Entry) (remover : Remover) :
    Counts ids w (u.takeOut op e remover) js := by
  have hi := hc.install e.handle none
  have hend := (hi.unlock op e.handle).endRemoval op remover true
  unfold World.takeOut
  split
  · exact hend
  · split
    · exact hi.call ..
    · exact hend

theorem remove (hc : Counts ids w u js) (op : Nat) (h : Handle) (remover : Remover) :
    Counts ids w (u.remove op h remover) js := by
  unfold World.remove
  split
  · exact hc.endRemoval ..
  · obtain ⟨ha, hh, he⟩ := rest_cancelTask (u.modify h fun e => { e with standing := .removed }) h
    have hg := hc.updateGauge ha hh (he.trans (handles_modify u h fun _ => rfl))
    dsimp only
    split
    · exact (hg.queue op h).takeOut ..
    · exact (hg.queue op h).setPoint ..

theorem afterRevocation (hc : Counts ids w u js) (op : Nat) (h : Handle) (s : Snapshot)
    (remover : Remover) (r : Except Fault Unit) :
    Counts ids w (u.afterRevocation op h s remover r) js := by
  unfold World.afterRevocation
  split
  · exact hc
  · refine .endRemoval (.unlock ?_ ..) ..
    cases r with
    | ok _ => exact hc.publish _ (.revoked s.lease)
    | error f => exact hc.publish _ (.failed s.lease f)

/-! ## Renewing and fetching again -/

theorem expire (hc : Counts ids w u js) (op : Nat) (e : Entry) (s : Snapshot) :
    Counts ids w (u.expire op e s) js := by
  have hp := hc.publish e (.expired s.lease)
  unfold World.expire
  dsimp only
  split
  · exact hp.call ..
  · exact ((hp.cancelTask _).install ..).leave ..

theorem endFetch (hc : Counts ids w u js) (op : Nat) (e : Entry) (cause : Cause) (f : Fault) :
    Counts ids w (u.endFetch op e cause f) js := by
  cases cause with
  | caller => exact hc.leave ..
  | loss =>
    refine .leave ?_ ..
    split
    · exact (hc.cancelTask _).install ..
    · exact hc.cancelTask _

theorem afterFailure (hc : Counts ids w u js) (op : Nat) (e : Entry) (s : Snapshot) (f : Fault) :
    Counts ids w (u.afterFailure op e s f) js := by
  have hp := hc.publish e (.failed s.lease f)
  unfold World.afterFailure
  dsimp only
  split
  · have ha := hp.askTrigger (s.lease.remaining (u.publish e (.failed s.lease f)).now)
    split <;> rename_i hq <;> rw [hq] at ha
    · split
      · exact (ha.replaceTask ..).leave ..
      · exact ha.expire ..
    · exact ha.expire ..
  · exact hp.expire ..

/-- The answer to a renewal is counted, and the event if there is one. -/
theorem afterRenewal (hc : Counts ids w w []) (he : w.entry? h = some e) (s : Snapshot)
    (r : Except Fault Lease) :
    Counts ids w (w.afterRenewal op h s r) (countsRenewal (w.isLive e) r) := by
  unfold World.afterRenewal countsRenewal
  rw [he]
  cases r with
  | ok lease =>
    have ht := hc.count (k := .renewal .lease true) rfl rfl rfl
    have hi := (ht.mint lease s.data).install h
      (some ((w.tally (.renewal .lease true)).mint lease s.data).1)
    refine .leave ?_ ..
    cases hl : w.isLive e with
    | false =>
      refine Eq.subst (motive := fun v => Counts ids w v _) (if_neg ?_).symm hi
      exact fun hl' => by cases hl.symm.trans hl'
    | true =>
      refine Eq.subst (motive := fun v => Counts ids w v _) (if_pos hl).symm ?_
      exact (hi.publish e (.renewed s.lease lease)).scheduleCare ..
  | error f =>
    have ht := hc.count (k := .renewal .lease false) rfl rfl rfl
    dsimp only
    split
    · exact ht.afterFailure ..
    · exact ht.leave ..

/-- The answer to another fetch is counted, and the event if there is one. -/
theorem afterFetch (hc : Counts ids w w []) (he : w.entry? h = some e) (previous : Lease)
    (cause : Cause) (r : Except Fault (Option Secret)) :
    Counts ids w (w.afterFetch op h previous cause r) (countsFetch e.request.mode (w.isLive e) r) := by
  have ht := fun ok => hc.count (k := .rotation e.request.mode ok) rfl rfl rfl
  unfold World.afterFetch countsFetch
  rw [he]
  match r with
  | .ok (some secret) =>
    have hi := ((ht true).mint secret.lease secret.data).install h
      (some ((w.tally (.rotation e.request.mode true)).mint secret.lease secret.data).1)
    refine .leave ?_ ..
    cases hl : w.isLive e with
    | false =>
      refine Eq.subst (motive := fun v => Counts ids w v _) (if_neg ?_).symm hi
      exact fun hl' => by cases hl.symm.trans hl'
    | true =>
      refine Eq.subst (motive := fun v => Counts ids w v _) (if_pos hl).symm ?_
      exact (hi.publish e (.rotated previous secret.lease secret.data)).scheduleCare ..
  | .ok none =>
    refine .endFetch ?_ ..
    split
    · exact (ht false).publish e .notFound
    · exact ht false
  | .error f =>
    refine .endFetch ?_ ..
    split
    · exact (ht false).publish e (.failed previous f)
    · exact ht false

/-! ## Registering -/

theorem add (hc : Counts ids w u js) (hn : u.entry? ⟨u.nextHandle⟩ = none) (op : Nat)
    (request : SecretRequest) (source : String) : Counts ids w (u.add op request source) js := by
  unfold World.add
  split
  · exact hc.finish ..
  · refine .call ?_ ..
    refine ⟨hc.metered, hc.tally, ?_, fun n hm => ?_⟩
    · refine Eq.subst (motive := List.Nodup) List.map_append.symm (hc.gauged.distinct.append
        (List.nodup_singleton _) fun k hk hk' => ?_)
      obtain ⟨f, hf, hfk⟩ := List.mem_map.mp hk
      refine List.find?_eq_none.mp hn f hf (beq_iff_eq.mpr (hfk.trans (List.mem_singleton.mp hk')))
    · rw [count_enlist u rfl]
      exact hc.gauged.shown n hm

theorem forget (hc : Counts ids w u js) (he : u.entry? h = some e) (hs : e.standing = .pending) :
    Counts ids w (u.forget h) js := by
  refine ⟨hc.metered, hc.tally, ?_, fun n hm => ?_⟩
  · exact hc.gauged.distinct.sublist (List.filter_sublist.map _)
  · rw [count_forget hc.gauged.distinct he hs]
    exact hc.gauged.shown n hm

theorem register (hc : Counts ids w u js) (op : Nat) (e : Entry) (s : Option Snapshot)
    {tell : World → World} (ht : ∀ {v}, Counts ids w v js → Counts ids w (tell v) js) :
    Counts ids w (u.register op e s tell) js := by
  have hg : Counts ids w (u.modify e.handle fun e =>
      { e with snapshot := s, standing := .registered }).updateGauge js :=
    hc.updateGauge rfl rfl (handles_modify _ _ fun _ => rfl)
  unfold World.register
  dsimp only
  split
  · exact (hg.unlock ..).remove ..
  · exact (ht hg).leave ..

theorem afterFirstFetch (hc : Counts ids w u js)
    (hs : ∀ e, u.entry? h = some e → e.standing = .pending) (r : Except Fault (Option Secret)) :
    Counts ids w (u.afterFirstFetch op h r) js := by
  unfold World.afterFirstFetch
  split
  · exact hc
  rename_i e he
  have hforget : ∀ f, Counts ids w ((u.forget h).finish op (.refused f)) js :=
    fun f => (hc.forget he (hs e he)).finish ..
  match r with
  | .ok (some secret) =>
    refine (hc.mint secret.lease secret.data).register _ _ _ fun hv => ?_
    exact (hv.publish e (.created secret.lease secret.data)).scheduleCare ..
  | .ok none =>
    dsimp only
    split
    · exact hforget _
    · exact hc.register _ _ _ fun hv => hv.publish e .notFound
  | .error f =>
    dsimp only
    split
    · exact hforget _
    · exact hc.register _ _ _ fun hv => hv.publish e (.failed _ f)

/-! ## Waiting for an entry, and shutting down -/

theorem withLock (hc : Counts ids w u js) (op : Nat) (e : Entry) (errand : Errand) :
    Counts ids w (u.withLock op e errand) js := by
  cases errand with
  | act s action =>
    unfold World.withLock
    dsimp only
    split
    · cases action with
      | renew => exact hc.call ..
      | expire => exact hc.expire ..
    · exact hc.leave ..
  | rotate =>
    unfold World.withLock
    dsimp only
    split
    · exact hc.call ..
    · exact hc.leave ..
  | remove remover => exact hc.takeOut ..

theorem want (hc : Counts ids w u js) (op : Nat) (e : Entry) (errand : Errand) :
    Counts ids w (u.want op e errand) js := by
  unfold World.want
  dsimp only
  split
  · exact (hc.queue ..).withLock ..
  · exact (hc.queue ..).setPoint ..

theorem rotate (hc : Counts ids w u js) (op : Nat) (h : Handle) : Counts ids w (u.rotate op h) js := by
  unfold World.rotate
  split
  · exact hc.finish ..
  split
  · exact hc.finish ..
  · exact hc.want ..

theorem enrollRemovals (hc : Counts ids w u js) (parent : Nat) (hs : List Handle) :
    Counts ids w (hs.foldl (enrollRemoval parent) u) js := by
  induction hs generalizing u with
  | nil => exact hc
  | cons h hs ih => exact ih (hc.enroll.setPoint ..)

theorem destroy (hc : Counts ids w u js) (op : Nat) : Counts ids w (u.destroy op) js := by
  have hd : Counts ids w { u with destroyed := true } js := hc.same rfl rfl rfl
  unfold World.destroy
  dsimp only
  split
  · exact hc.finish ..
  split
  · exact hd.finish ..
  · exact (hd.setPoint ..).enrollRemovals ..

end Counts

/-! ## Steps and runs -/

/-- What a step counts. -/
theorem counts_of_turn {ids : Channel → Nat} {w w' : World} {m : Move} (hw : Sound w)
    (hm : w.audience.Metered ids) (hg : w.Gauged) (hs : m.Spares ids) (ht : Turn w m w') :
    Counts ids w w' (w.counts m) := by
  have hc := Counts.refl hm hg
  -- Who holds a lock holds that of an entry.
  have hserved : ∀ {a q h}, w.point? a = some q → q.holds? = some h →
      ∃ e, w.entry? h = some e ∧ w.served? a = some e := fun {a q h} hq hh => by
    obtain ⟨_, hf⟩ := hw.wanted a q h hq (Point.wants?_of_holds? hh)
    obtain ⟨e, he, -⟩ := Option.map_eq_some_iff.mp hf
    exact ⟨e, he, by rw [World.served?, hq, Option.bind_some, hh]; exact he⟩
  cases ht with
  | @begins r _ =>
    cases r with
    | add request source =>
      refine hc.enroll.add ?_ ..
      cases hn : w.entry? ⟨w.nextHandle⟩ with
      | none => exact hn
      | some e => exact absurd (hw.known _ _ (face?_some hn)) (Nat.lt_irrefl _)
    | remove h => exact hc.enroll.remove ..
    | rotate h => exact hc.enroll.rotate ..
    | destroy => exact hc.enroll.destroy ..
  | @runs _ t s hf =>
    have hnone : w.counts m = [] := by cases hf <;> rfl
    have hs' : Counts ids w { w with schedule := s } [] := hc.same rfl rfl rfl
    rw [hnone]
    unfold World.run
    split
    · split
      · exact hs'
      · exact hs'.enroll.want ..
    · exact hs'
  | enters _ _ _ => exact hc.withLock ..
  | opens _ => exact hc.remove ..
  | @fetchedFirst op h r hp =>
    rw [World.counts, World.refetch?, hp]
    refine hc.afterFirstFetch (fun e he => ?_) r
    exact (hw.pending op _ h e.bare hp rfl (face?_some he)).mpr rfl
  | @fetchedAgain op h previous cause r hp =>
    obtain ⟨e, he, hs⟩ := hserved hp rfl
    rw [World.counts, World.refetch?, hp, hs]
    exact hc.afterFetch he ..
  | @renewed op h s since r hp =>
    obtain ⟨e, he, hs⟩ := hserved hp rfl
    rw [World.counts, World.servesLive, hs]
    exact hc.afterRenewal he ..
  | revoked _ => exact hc.afterRevocation ..
  | elapses | stops => exact hc.same rfl rfl rfl
  | releases =>
    refine .reap ?_
    exact hc.same rfl rfl rfl
  | listens => exact ⟨hm.add _ hs, hc.tally, hg.distinct, hg.shown⟩
  | unlistens => exact ⟨hm.remove hs, hc.tally, hg.distinct, hg.shown⟩

/-- What a run counts. -/
theorem counts_of_run {ids : Channel → Nat} {w w' : World} {ms : List Move} (hw : Sound w)
    (hm : w.audience.Metered ids) (hg : w.Gauged) (hs : ∀ m ∈ ms, m.Spares ids)
    (hrun : run? w ms = some w') : Counts ids w w' (countsAlong step World.counts w ms) := by
  induction ms generalizing w with
  | nil =>
    cases hrun
    exact .refl hm hg
  | cons m ms ih =>
    obtain ⟨u, hu, hrun⟩ := Option.bind_eq_some_iff.mp hrun
    have ht := turn_of_step hu
    have h₁ := counts_of_turn hw hm hg (hs m List.mem_cons_self) ht
    have h₂ := ih (hw.of_turn ht) h₁.metered h₁.gauged (fun k hk => hs k (List.mem_cons_of_mem _ hk))
      hrun
    rw [countsAlong, hu]
    exact ⟨h₂.metered, h₁.tally.trans h₂.tally, h₂.gauged⟩

/-! ## What the counts are -/

/-- Whether the event of that name was published. -/
def Happening.publishes (kind : String) : Happening → Bool
  | .published e => e.kind == kind
  | _ => false

namespace World

/-- Whether a renewal is answered, with that outcome. -/
def answersRenewal (ok : Bool) (_ : World) : Move → Bool
  | .answer _ (.renewal r) => r.isOk == ok
  | _ => false

/-- Whether another fetch is answered for a secret of that mode, with that outcome. -/
def answersRotation (mode : Mode) (ok : Bool) (w : World) (m : Move) : Bool :=
  (w.refetch? m).any fun x => x.1.request.mode == mode && isFound x.2 == ok

/-- Whether a renewal is answered well, while its secret is still looked after or no more. -/
def renewsLive (live : Bool) (w : World) : Move → Bool
  | .answer op (.renewal r) => r.isOk && w.servesLive op == live
  | _ => false

/-- Whether another fetch finds a secret that is still looked after, or no more. -/
def rotatesLive (live : Bool) (w : World) (m : Move) : Bool :=
  (w.refetch? m).any fun x => isFound x.2 && w.isLive x.1 == live

theorem count_published (w : World) (kind : String) :
    w.published.count (.leaseEvent kind) = w.history.countP (Happening.publishes kind) := by
  unfold published
  induction w.history with
  | nil => rfl
  | cons x xs ih =>
    rw [List.countP_cons, ← ih]
    cases x <;> simp [Happening.mark?, Happening.publishes, List.count_cons, List.filterMap_cons]

theorem isSession_published (w : World) : ∀ k ∈ w.published, k.isSession = false := by
  intro k hk
  obtain ⟨x, -, hx⟩ := List.mem_filterMap.mp hk
  cases x with
  | published e =>
    cases hx
    rfl
  | _ => cases hx

theorem count_renewal (w : World) (m : Move) (ok : Bool) :
    (w.counts m).count (.renewal .lease ok) = (w.answersRenewal ok m).toNat := by
  cases m with
  | answer op r =>
    cases r with
    | renewal r =>
      cases hr : r.isOk <;> cases ok <;> cases hl : w.servesLive op <;>
        simp [counts, countsRenewal, answersRenewal, hr, hl]
    | fetched r =>
      cases hx : w.refetch? (.answer op (.fetched r)) with
      | none => simp [counts, answersRenewal, hx]
      | some x =>
        cases hf : isFound x.2 <;> cases hl : w.isLive x.1 <;>
          simp [counts, countsFetch, answersRenewal, hx, hf, hl]
    | _ => rfl
  | _ => rfl

theorem count_rotation (w : World) (m : Move) (mode : Mode) (ok : Bool) :
    (w.counts m).count (.rotation mode ok) = (w.answersRotation mode ok m).toNat := by
  cases m with
  | answer op r =>
    cases r with
    | renewal r =>
      cases hr : r.isOk <;> cases hl : w.servesLive op <;>
        simp [counts, countsRenewal, answersRotation, refetch?, hr, hl]
    | fetched r =>
      cases hx : w.refetch? (.answer op (.fetched r)) with
      | none => simp [counts, answersRotation, hx]
      | some x =>
        simp only [counts, hx, answersRotation, Option.elim_some, Option.any_some, countsFetch]
        by_cases hm : x.1.request.mode = mode
        · cases isFound x.2 <;> cases w.isLive x.1 <;> cases ok <;> simp [hm]
        · rw [beq_false_of_ne hm]
          cases isFound x.2 <;> cases w.isLive x.1 <;> simp [hm]
    | _ => rfl
  | _ => rfl

theorem count_told (w : World) (m : Move) :
    (w.counts m).count (.leaseEvent "renewed") = (w.renewsLive true m).toNat ∧
      (w.counts m).count (.leaseEvent "rotated") = (w.rotatesLive true m).toNat := by
  cases m with
  | answer op r =>
    cases r with
    | renewal r =>
      cases hr : r.isOk <;> cases hl : w.servesLive op <;>
        simp [counts, countsRenewal, renewsLive, rotatesLive, refetch?, hr, hl]
    | fetched r =>
      cases hx : w.refetch? (.answer op (.fetched r)) with
      | none => simp [counts, renewsLive, rotatesLive, hx]
      | some x =>
        cases hf : isFound x.2 <;> cases hl : w.isLive x.1 <;>
          simp [counts, countsFetch, renewsLive, rotatesLive, hx, hf, hl]
    | _ => exact ⟨rfl, rfl⟩
  | _ => exact ⟨rfl, rfl⟩

theorem isSession_counts (w : World) (m : Move) : ∀ k ∈ w.counts m, k.isSession = false := by
  have hr : ∀ live r, ∀ k ∈ countsRenewal live r, k.isSession = false := fun live r => by
    cases hr : r.isOk <;> cases live <;> simp [countsRenewal, hr, Mark.isSession]
  have hf : ∀ mode live r, ∀ k ∈ countsFetch mode live r, k.isSession = false := fun mode live r => by
    cases hf : isFound r <;> cases live <;> simp [countsFetch, hf, Mark.isSession]
  cases m with
  | answer op r =>
    cases r with
    | renewal r => exact hr _ _
    | fetched r =>
      unfold counts
      dsimp only
      cases w.refetch? (.answer op (.fetched r)) with
      | none => exact fun k hk => by cases hk
      | some x => exact hf _ _ _
    | _ => exact fun k hk => by cases hk
  | _ => exact fun k hk => by cases hk

/-- Every renewal that succeeds does so in time or too late. -/
theorem answersRenewal_add (w : World) (m : Move) : (w.answersRenewal true m).toNat =
    (w.renewsLive true m).toNat + (w.renewsLive false m).toNat := by
  cases m with
  | answer op r =>
    cases r with
    | renewal r =>
      cases hr : r.isOk <;> cases hl : w.servesLive op <;> simp [answersRenewal, renewsLive, hr, hl]
    | _ => rfl
  | _ => rfl

/-- So does every other fetch that finds a secret, of whatever mode. -/
theorem answersRotation_add (w : World) (m : Move) :
    (w.answersRotation .renewable true m).toNat + (w.answersRotation .rotating true m).toNat +
      (w.answersRotation .immediate true m).toNat =
      (w.rotatesLive true m).toNat + (w.rotatesLive false m).toNat := by
  unfold answersRotation rotatesLive
  cases w.refetch? m with
  | none => rfl
  | some x =>
    cases hf : isFound x.2 <;> cases hl : w.isLive x.1 <;> cases hm : x.1.request.mode <;>
      simp [hf, hl, hm] <;> rfl

end World

/-- Observers register. -/
theorem listen_of_run {w w₀ : World} {ls : List (Channel × Observer)}
    (h : run? w (ls.map fun l => .listen l.1 l.2) = some w₀) :
    w₀.audience.metrics = w.audience.metrics ∧ w₀.history = w.history ∧ w₀.entries = w.entries := by
  induction ls generalizing w with
  | nil =>
    cases h
    exact ⟨rfl, rfl, rfl⟩
  | cons l ls ih => exact ih (w := (w.listen l.1 l.2).2) h

/-- What the counters of a lease engine show after the moves `ms` from `w₀`. -/
structure Reports (w₀ : World) (ms : List Move) (w : World) : Prop where
  managed : ∀ n, w.audience.metrics.managed = some n → n = w.count
  renewals : ∀ ok, w.audience.metrics.count (.renewal .lease ok) =
    timesAlong step (answersRenewal ok) w₀ ms
  rotations : ∀ mode ok, w.audience.metrics.count (.rotation mode ok) =
    timesAlong step (answersRotation mode ok) w₀ ms
  events : ∀ kind, w.audience.metrics.count (.leaseEvent kind) =
    w.history.countP (Happening.publishes kind)
  renewed : w.audience.metrics.count (.leaseEvent "renewed") = timesAlong step (renewsLive true) w₀ ms
  rotated : w.audience.metrics.count (.leaseEvent "rotated") = timesAlong step (rotatesLive true) w₀ ms
  /-- It makes no mark of a session, and times no login. -/
  foreign : ∀ k, k.isSession = true → w.audience.metrics.count k = 0
  spans : w.audience.metrics.loginSpans = []

/-- A lease engine to which somebody listens who counts. -/
theorem reports_of_run {settings : Settings} {d : Discipline} {draws : Nat → Nat}
    {ls : List (Channel × Observer)} {ids : Channel → Nat} {w₀ w : World} {ms : List Move}
    (hw₀ : run? (.initial settings d draws) (ls.map fun l => .listen l.1 l.2) = some w₀)
    (hm : w₀.audience.Metered ids) (hs : ∀ m ∈ ms, m.Spares ids) (hrun : run? w₀ ms = some w) :
    Reports w₀ ms w := by
  obtain ⟨hmetrics, hhistory, hentries⟩ := listen_of_run hw₀
  have hg : w₀.Gauged := by
    refine ⟨?_, fun n hn => ?_⟩
    · rw [hentries]
      exact List.nodup_nil
    · rw [hmetrics] at hn
      cases hn
  have hc := counts_of_run (sound_of_run hw₀) hm hg hs hrun
  have ht : Tally .empty w.audience.metrics [] w.published (countsAlong step World.counts w₀ ms) := by
    have ht := hc.tally
    rwa [hmetrics, World.published, hhistory] at ht
  have hk := ht.count_eq
  have hforeign : ∀ k, k.isSession = true → w.audience.metrics.count k = 0 := fun k hf => by
    refine ht.count_eq_zero (fun hmem => ?_) fun hmem => ?_
    · cases hf.symm.trans (isSession_published w k hmem)
    · cases hf.symm.trans (of_mem_countsAlong step isSession_counts w₀ ms k hmem)
  refine ⟨hc.gauged.shown, fun ok => ?_, fun mode ok => ?_, fun kind => ?_, ?_, ?_, hforeign, ?_⟩
  · rw [(hk _).2 rfl, count_countsAlong step fun w m => count_renewal w m ok]
  · rw [(hk _).2 rfl, count_countsAlong step fun w m => count_rotation w m mode ok]
  · rw [(hk _).1 rfl, count_published]
  · rw [(hk _).2 rfl, count_countsAlong step fun w m => (count_told w m).1]
  · rw [(hk _).2 rfl, count_countsAlong step fun w m => (count_told w m).2]
  · rw [← List.length_eq_zero_iff, ht.spans_eq, hforeign _ rfl, hforeign _ rfl]

end LeaseKeeper.Leases
