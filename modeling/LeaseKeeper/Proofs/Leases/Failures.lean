import LeaseKeeper.Proofs.Leases.Care
import LeaseKeeper.Proofs.Leases.Confinement
import LeaseKeeper.Proofs.Leases.Paths

/-!
# Registrations and fetches that fail

A secret whose first fetch brings nothing is not registered if it was wanted at once, and a secret that
cannot be fetched again stays as it is. In either case whoever asked is refused, and that is all
(`no_trace_of_failure`): no step of such an operation changes what is settled about any secret, a
snapshot or the slot of a task, nor any task, so that what was scheduled goes on as before (`Spares`). A
registration that is not refused makes one new handle known and tells one thing about it.
-/

namespace LeaseKeeper.Leases

open World

/-- The entry without the queue for it. -/
def Entry.settled (e : Entry) : Entry := { e with lock := [] }

namespace World

/-- What is settled about the secret of a handle: all but who waits for its entry. Nothing is as long
as its first fetch is under way. -/
def settled? (w : World) (h : Handle) : Option Entry :=
  ((w.entry? h).filter (·.standing != .pending)).map Entry.settled

/-- An engine without its entries and operations, and without what is known about it outside: its clock,
its trigger and its tasks. -/
def works (w : World) : World :=
  { w with
    entries := []
    operations := []
    nextOperation := 0
    nextHandle := 0
    audience := Audience.empty
    history := [] }

/-- An operation ends; the engine is not let go yet. -/
def close (w : World) (op : Nat) (o : Outcome) : World :=
  { w with operations := w.operations.filter (·.1 != op) }.note (.ended op o)

end World

/-- From `w` to `u`, the operation `op` gets on and nothing becomes of any secret or of any task. -/
structure Spares (w u : World) (op : Nat) (news : List Happening) : Prop where
  settled : ∀ h, u.settled? h = w.settled? h
  points : ∀ a, a ≠ op → u.point? a = w.point? a
  history : u.history = news ++ w.history
  works : u.works = w.works

/-- From `w` to `w'`, the operation `op` is refused, and nothing becomes of any secret or of any task;
with the last operation goes an engine that nobody holds. -/
def Refuses (w w' : World) (op : Nat) (f : Fault) (news : List Happening) : Prop :=
  w'.outcome? op = some (.refused f) ∧
    ∃ u, Spares w u op (.ended op (.refused f) :: news) ∧ w' = u.reap

/-- Why a fetch brought nothing, and what is told about it. -/
inductive Misses (path : String) : Except Fault (Option Secret) → Fault → LeaseChange → Prop
  | absent : Misses path (.ok none) (.notFound path) .notFound
  | failed {f : Fault} {previous : Lease} : Misses path (.error f) f (.failed previous f)

theorem Misses.fault_eq {path : String} {r : Except Fault (Option Secret)} {f g : Fault}
    {c c' : LeaseChange} (hf : Misses path r f c) (hg : Misses path r g c') : f = g := by
  cases hf <;> cases hg <;> rfl

/-- How the registration of a secret goes on. -/
inductive Registers (w : World) (op : Nat) (h : Handle) (request : SecretRequest) : Move → World → Prop
  | refused {r : Except Fault (Option Secret)} {f : Fault} {w' : World} :
    rejection? request r = some f → Refuses w w' op f [] →
    Registers w op h request (.answer op (.fetched r)) w'
  | registered {r : Except Fault (Option Secret)} {e : Entry} {c : LeaseChange} {w' : World} :
    rejection? request r = none → w.registered? h = none → w'.registered? h = some e →
    e.request = request → (∀ k, k ≠ h → w'.face? k = w.face? k) →
    w'.history = .ended op (.registered h) :: .published ⟨h, request.path, c⟩ :: w.history →
    Registers w op h request (.answer op (.fetched r)) w'

/-- How another fetch goes on that somebody asked for. -/
inductive Rotates (w : World) (op : Nat) (h : Handle) (request : SecretRequest) (source : String) :
    Move → World → Prop
  | unknown {w' : World} : w.registered? h = none → Refuses w w' op (.notFound h.text) [] →
    Rotates w op h request source (.enter op) w'
  | fetches {w' : World} : w.registered? h ≠ none →
    Spares w w' op [.called op h (.fetch source request.path)] →
    Rotates w op h request source (.enter op) w'
  | missed {r : Except Fault (Option Secret)} {f : Fault} {c : LeaseChange} {w' : World} :
    Misses request.path r f c →
    Refuses w w' op f (if w.registered? h = none then [] else [.published ⟨h, request.path, c⟩]) →
    Rotates w op h request source (.answer op (.fetched r)) w'
  | rotated {secret : Secret} {w' : World} : w'.outcome? op = some .finished →
    Rotates w op h request source (.answer op (.fetched (.ok (some secret)))) w'

variable {w w' u v : World} {m : Move} {op : Nat} {h : Handle} {e : Entry} {news : List Happening}

/-- An operation has ended as was noted last. -/
theorem outcome?_of_ended {o : Outcome} (hh : w.history = .ended op o :: news) :
    w.outcome? op = some o := by
  rw [World.outcome?, hh, List.findSome?_cons]
  simp

/-! ## What spares the secrets and the tasks -/

namespace Spares

theorem refl (w : World) (op : Nat) : Spares w w op [] := ⟨fun _ => rfl, fun _ _ => rfl, rfl, rfl⟩

/-- A task can start just when it could. -/
theorem fires (hs : Spares w u op news) (id : Nat) :
    (step u (.fire id)).isSome = (step w (.fire id)).isSome := by
  have hschedule : u.works.schedule = w.works.schedule := congrArg World.schedule hs.works
  have hnow : u.works.now = w.works.now := congrArg World.now hs.works
  have hfire : (u.fire id).isSome = (w.fire id).isSome := by
    unfold World.fire
    rw [show u.schedule = w.schedule from hschedule, show u.now = w.now from hnow]
    split <;> rfl
  simp only [step, show u.schedule = w.schedule from hschedule]
  split
  · exact hfire
  · rfl

section changes

variable (hs : Spares w u op news)

include hs

/-- A change of what is known outside. -/
theorem same (he : v.entries = u.entries) (ho : v.operations = u.operations)
    (hh : v.history = u.history) (hw : v.works = u.works) : Spares w v op news := by
  refine ⟨fun h => ?_, fun a ha => ?_, hh.trans hs.history, hw.trans hs.works⟩
  · rw [← hs.settled]
    unfold World.settled? World.entry?
    rw [he]
  · rw [← hs.points a ha]
    unfold World.point?
    rw [ho]

theorem tally (k : Mark) : Spares w (u.tally k) op news := hs.same rfl rfl rfl rfl

/-- Something is noted. -/
theorem note (x : Happening) : Spares w (u.note x) op (x :: news) :=
  ⟨hs.settled, hs.points, congrArg (x :: ·) hs.history, hs.works⟩

theorem publish (e : Entry) (c : LeaseChange) :
    Spares w (u.publish e c) op (.published ⟨e.handle, e.request.path, c⟩ :: news) :=
  (hs.note _).same rfl rfl rfl rfl

theorem setPoint (p : Point) : Spares w (u.setPoint op p) op news := by
  refine ⟨hs.settled, fun a ha => ?_, hs.history, hs.works⟩
  rw [point?_setPoint, if_neg ha]
  exact hs.points a ha

theorem call (h : Handle) (c : Call) (p : Point) :
    Spares w (u.call op h c p) op (.called op h c :: news) :=
  (hs.setPoint p).note _

/-- Who waits for an entry does not matter. -/
theorem queue (h : Handle) (q : List Nat → List Nat) :
    Spares w (u.modify h fun e => { e with lock := q e.lock }) op news := by
  refine ⟨fun k => ?_, hs.points, hs.history, hs.works⟩
  rw [← hs.settled]
  simp only [World.settled?, find_modify u h (fun e => { e with lock := q e.lock }) fun _ => rfl]
  split
  · cases World.entry? u k with
    | none => rfl
    | some e =>
      simp only [Option.map_some, Option.filter_some]
      split <;> rfl
  · rfl

theorem unlock (a : Nat) (h : Handle) : Spares w (u.unlock a h) op news := hs.queue h _

/-- Nothing is settled yet about a new entry. -/
theorem enlist (he : e.standing = .pending) : Spares w (u.enlist e) op news := by
  refine ⟨fun k => ?_, hs.points, hs.history, hs.works⟩
  rw [← hs.settled]
  simp only [World.settled?, find_enlist]
  split
  · cases World.entry? u k with
    | none => simp [he]
    | some f => rfl
  · rfl

/-- Nor about one that is forgotten before its first fetch has ended. -/
theorem forget (he : ∀ e, u.entry? h = some e → e.standing = .pending) :
    Spares w (u.forget h) op news := by
  refine ⟨fun k => ?_, hs.points, hs.history, hs.works⟩
  rw [← hs.settled]
  simp only [World.settled?, find_forget]
  split
  · rename_i hk
    subst hk
    cases hu : World.entry? u k with
    | none => rfl
    | some e =>
      have hne : (e.standing != .pending) = false := bne_eq_false_iff_eq.mpr (he e hu)
      rw [Option.filter_some, hne]
      rfl
  · rfl

theorem close (o : Outcome) : Spares w (u.close op o) op (.ended op o :: news) := by
  refine ⟨hs.settled, fun a ha => ?_, congrArg (_ :: ·) hs.history, hs.works⟩
  rw [← hs.points a ha]
  show (u.operations.filter (·.1 != op)).lookup a = _
  rw [lookup_filter, if_neg ha]
  rfl

/-- An operation that has spared everything is refused. -/
theorem refuse (f : Fault) : Refuses w (u.finish op (.refused f)) op f news :=
  ⟨outcome?_of_ended (history_finish ..), _, hs.close (.refused f), rfl⟩

end changes

end Spares

/-- A new operation begins. -/
theorem spares_enroll (w : World) : Spares w w.enroll.2 w.nextOperation [] :=
  (Spares.refl w w.nextOperation).same rfl rfl rfl rfl

/-! ## Registering -/

/-- How a registration ends. -/
theorem Registers.outcome {request : SecretRequest} (hr : Registers w op h request m w') :
    ∃ r, m = .answer op (.fetched r) ∧
      w'.outcome? op = some ((rejection? request r).elim (.registered h) .refused) := by
  cases hr with
  | @refused r _ _ hr href => exact ⟨r, rfl, by rw [hr]; exact href.1⟩
  | @registered r _ _ _ hr _ _ _ _ hh => exact ⟨r, rfl, by rw [hr]; exact outcome?_of_ended hh⟩

/-- With a registration, nothing is settled yet. -/
theorem spares_add (hd : w.destroyed = false) (request : SecretRequest) (source : String) :
    Spares w (w.begin (.add request source)) w.nextOperation
      [.called w.nextOperation ⟨w.nextHandle⟩ (.fetch source request.path)] := by
  rw [begin_add hd]
  exact ((spares_enroll w).enlist rfl).call _ _ _

/-- A first fetch that was to bring something and did not: the entry is forgotten. -/
theorem afterFirstFetch_forgets {r : Except Fault (Option Secret)} {f : Fault}
    (he : w.entry? h = some e) (hr : rejection? e.request r = some f) :
    w.afterFirstFetch op h r = (w.forget h).finish op (.refused f) := by
  simp only [World.afterFirstFetch, he]
  cases r with
  | error k =>
    obtain ⟨hi, hf⟩ := Option.ite_none_right_eq_some.mp hr
    cases hf
    exact if_pos hi
  | ok found =>
    cases found with
    | none =>
      obtain ⟨hi, hf⟩ := Option.ite_none_right_eq_some.mp hr
      cases hf
      exact if_pos hi
    | some _ => cases hr

/-- What becomes of a registration once its first fetch is answered. -/
theorem registers_of_turn {request : SecretRequest} {source : String} (hw : Sound w)
    (hd : w'.destroyed = false) (he : Engaged (· = .registering h) op h request source w)
    (ht : Turn w m w') (hm : m.mover? = some op) :
    Registers w op h request m w' ∧
      ((∃ q, w'.point? op = some q ∧ q = .registering h) ∨ ∃ o, w'.outcome? op = some o) := by
  suffices hr : Registers w op h request m w' by
    obtain ⟨_, -, ho⟩ := hr.outcome
    exact ⟨hr, .inr ⟨_, ho⟩⟩
  obtain ⟨q, hq, rfl⟩ := he.point
  obtain ⟨e, hentry, rfl, hsource⟩ := he.entry (fun _ => by rintro rfl; rfl) hw
  have hface := face?_some hentry
  have hpend := (hw.pending op _ h _ hq rfl hface).mpr rfl
  have hd₀ := destroyed_of_turn ht hd
  cases ht with
  | runs hf => cases hf <;> cases hm
  | @fetchedFirst _ _ r hq' =>
    cases hm
    cases hq.symm.trans hq'
    cases hr : rejection? e.request r with
    | some f =>
      rw [afterFirstFetch_forgets hentry hr]
      refine .refused hr (((Spares.refl w op).forget fun f hf => ?_).refuse _)
      cases hentry.symm.trans hf
      exact hpend
    | none =>
      obtain ⟨e', v, s, tell, hbare, hhandle, heq, -, hvd, hv, htell⟩ :=
        afterFirstFetch_register hw hq hface hr
      obtain ⟨c, care, hx⟩ := htell (hv.known s)
      rw [heq, register_eq (hvd.trans hd₀), hhandle]
      have hx := hx.leave (.registered h)
      obtain ⟨_, _, hf⟩ := hx.frame
      obtain ⟨f, hfound, hf'⟩ := exists_registered? hf.face rfl
      have hrequest : e'.request = e.request := (congrArg Entry.request hbare : e'.bare.request = _)
      rw [hrequest] at hx
      refine .registered hr (registered?_eq_none fun k hk => ?_) hfound
        (congrArg Entry.request hf' : f.bare.request = _) hf.faces hx.history
      cases hface.symm.trans hk
      rw [hpend]
      decide
  | enters hq' _ _ | opens hq' | fetchedAgain hq' | renewed hq' | revoked hq' =>
    cases hm
    cases hq.symm.trans hq'
  | _ => cases hm

/-! ## Fetching again -/

/-- Where an operation stands that fetches a secret again because somebody asked for it. -/
inductive Fetching (h : Handle) : Point → Prop
  | waits : Fetching h (.queued h .rotate)
  | fetches {previous : Lease} : Fetching h (.rotating h previous .caller)

theorem Fetching.wants {q : Point} (hq : Fetching h q) : q.wants? = some h := by
  cases hq <;> rfl

section locked

variable (hs : Spares w u op news)

include hs

/-- With the lock in hand, a secret is fetched that is still looked after. -/
theorem Spares.fetches (hl : u.isLive e = true) :
    Spares w (u.withLock op e .rotate) op
        (.called op e.handle (.fetch e.source e.request.path) :: news) ∧
      ∃ q, (u.withLock op e .rotate).point? op = some q ∧ Fetching e.handle q := by
  have heq : ∃ previous, u.withLock op e .rotate = u.fetchAgain op e previous .caller :=
    ⟨_, if_pos hl⟩
  obtain ⟨previous, heq⟩ := heq
  rw [heq]
  refine ⟨hs.call _ _ _, .rotating e.handle previous .caller, ?_, .fetches⟩
  show (u.setPoint op _).point? op = _
  rw [point?_setPoint, if_pos rfl]

theorem Spares.declines (hl : ¬ u.isLive e = true) :
    Refuses w (u.withLock op e .rotate) op (.notFound e.handle.text) news := by
  rw [show u.withLock op e .rotate = _ from if_neg hl]
  exact (hs.unlock op e.handle).refuse _

end locked

/-- Another fetch that brings nothing ends for whoever asked for it. -/
theorem refuses_afterFetch (he : w.entry? h = some e) (op : Nat) (previous : Lease)
    {r : Except Fault (Option Secret)} (hr : ∀ secret, r ≠ .ok (some secret)) :
    ∃ f c, Misses e.request.path r f c ∧ Refuses w (w.afterFetch op h previous .caller r) op f
      (if w.isLive e then [.published ⟨e.handle, e.request.path, c⟩] else []) := by
  have hmiss : ∀ f c, Refuses w
      ((if (w.tally (.rotation e.request.mode false)).isLive e then
        (w.tally (.rotation e.request.mode false)).publish e c
      else w.tally (.rotation e.request.mode false)).leave op e.handle (.refused f)) op f
      (if w.isLive e then [.published ⟨e.handle, e.request.path, c⟩] else []) := fun f c => by
    have ht := (Spares.refl w op).tally (.rotation e.request.mode false)
    rw [show (w.tally (.rotation e.request.mode false)).isLive e = w.isLive e from rfl]
    split
    · exact ((ht.publish e c).unlock op e.handle).refuse f
    · exact (ht.unlock op e.handle).refuse f
  simp only [World.afterFetch, he]
  cases r with
  | error f => exact ⟨_, _, .failed, hmiss f _⟩
  | ok found =>
    cases found with
    | none => exact ⟨_, _, .absent, hmiss _ _⟩
    | some secret => exact absurd rfl (hr secret)

/-- A secret that is not registered is not fetched again. -/
theorem refuses_rotate (hd : w.destroyed = false) (hn : w.registered? h = none) :
    Refuses w (w.begin (.rotate h)) w.nextOperation (.notFound h.text) [] := by
  rw [begin_rotate_none hd hn]
  exact (spares_enroll w).refuse _

/-- One that is registered is fetched at once if nobody holds its entry. -/
theorem spares_rotate (hd : w.destroyed = false) (he : w.registered? h = some e) :
    Spares w (w.begin (.rotate h)) w.nextOperation
        (if e.lock = [] then [.called w.nextOperation h (.fetch e.source e.request.path)] else []) ∧
      ∃ q, (w.begin (.rotate h)).point? w.nextOperation = some q ∧ Fetching h q := by
  obtain ⟨hentry, hst⟩ := registered?_some he
  obtain rfl := find_handle hentry
  have hlive : w.isLive e = true := (isLive_iff hd).mpr (by rw [hst]; decide)
  have hq := (spares_enroll w).queue e.handle (· ++ [w.nextOperation])
  rw [begin_rotate hd he]
  unfold World.want
  by_cases hl : e.lock = []
  · rw [if_pos hl, if_pos (List.isEmpty_iff.mpr hl)]
    exact hq.fetches hlive
  · rw [if_neg hl, if_neg (by rwa [List.isEmpty_iff])]
    exact ⟨hq.setPoint _, _, by rw [point?_setPoint, if_pos rfl], .waits⟩

/-- An entry that has been fetched is registered just if it is still looked after. -/
theorem registered?_ne_none_iff (hd : w.destroyed = false) (he : w.entry? e.handle = some e)
    (hne : e.standing ≠ .pending) : w.registered? e.handle ≠ none ↔ w.isLive e = true := by
  rw [isLive_iff hd, World.registered?, he, Option.filter_some]
  show ite (e.standing == .registered) _ _ ≠ none ↔ e.standing ≠ .removed
  cases hst : e.standing with
  | pending => exact absurd hst hne
  | registered | removed => simp

section turns

variable (hd : w.destroyed = false) (he : w.entry? e.handle = some e) (hne : e.standing ≠ .pending)

include hd he hne

/-- An operation that waited for the lock fetches, or learns that the secret is gone. -/
theorem rotates_of_lock (op : Nat) :
    Rotates w op e.handle e.request e.source (.enter op) (w.withLock op e .rotate) ∧
      ((∃ q, (w.withLock op e .rotate).point? op = some q ∧ Fetching e.handle q) ∨
        ∃ o, (w.withLock op e .rotate).outcome? op = some o) := by
  have hlive := registered?_ne_none_iff hd he hne
  by_cases hl : w.isLive e = true
  · obtain ⟨hs, hpoint⟩ := (Spares.refl w op).fetches hl
    exact ⟨.fetches (hlive.mpr hl) hs, .inl hpoint⟩
  · have hr := (Spares.refl w op).declines hl
    exact ⟨.unknown (not_not.mp (mt hlive.mp hl)) hr, .inr ⟨_, hr.1⟩⟩

/-- With the answer to it, another fetch has come to its end. -/
theorem rotates_of_answer (op : Nat) (previous : Lease) (r : Except Fault (Option Secret)) :
    Rotates w op e.handle e.request e.source (.answer op (.fetched r))
        (w.afterFetch op e.handle previous .caller r) ∧
      ∃ o, (w.afterFetch op e.handle previous .caller r).outcome? op = some o := by
  by_cases hr : ∃ secret, r = .ok (some secret)
  · obtain ⟨secret, rfl⟩ := hr
    have hend : (w.afterFetch op e.handle previous .caller (.ok (some secret))).outcome? op =
        some .finished := by
      simp only [World.afterFetch, he]
      exact outcome?_of_ended (history_finish ..)
    exact ⟨.rotated hend, _, hend⟩
  · obtain ⟨f, c, hmiss, href⟩ := refuses_afterFetch he op previous fun secret hs => hr ⟨secret, hs⟩
    have hnews : (if w.isLive e = true then [Happening.published ⟨e.handle, e.request.path, c⟩]
        else []) = if w.registered? e.handle = none then []
          else [.published ⟨e.handle, e.request.path, c⟩] := by
      have hlive := registered?_ne_none_iff hd he hne
      by_cases hl : w.isLive e = true
      · rw [if_pos hl, if_neg (hlive.mpr hl)]
      · rw [if_neg hl, if_pos (not_not.mp (mt hlive.mp hl))]
    rw [hnews] at href
    exact ⟨.missed hmiss href, _, href.1⟩

end turns

/-- What becomes of another fetch once its operation has the lock, and once it is answered. -/
theorem rotates_of_turn {request : SecretRequest} {source : String} (hw : Sound w)
    (hd : w'.destroyed = false) (he : Engaged (Fetching h) op h request source w) (ht : Turn w m w')
    (hm : m.mover? = some op) : Rotates w op h request source m w' ∧
      ((∃ q, w'.point? op = some q ∧ Fetching h q) ∨ ∃ o, w'.outcome? op = some o) := by
  obtain ⟨q, hq, hf⟩ := he.point
  obtain ⟨e, hentry, rfl, rfl⟩ := he.entry (fun _ => Fetching.wants) hw
  obtain rfl := find_handle hentry
  have hne : e.standing ≠ .pending := fun hp => by
    have hreg := (hw.pending op q _ e.bare hq hf.wants (face?_some hentry)).mp hp
    rw [hreg] at hf
    cases hf
  have hd₀ := destroyed_of_turn ht hd
  cases ht with
  | runs hf => cases hf <;> cases hm
  | enters hq' he' _ =>
    cases hm
    cases hq.symm.trans hq'
    cases hf
    cases hentry.symm.trans he'
    exact rotates_of_lock hd₀ hentry hne op
  | @fetchedAgain _ _ previous cause r hq' =>
    cases hm
    cases hq.symm.trans hq'
    cases hf
    exact (rotates_of_answer hd₀ hentry hne op previous r).imp_right .inr
  | opens hq' | fetchedFirst hq' | renewed hq' | revoked hq' =>
    cases hm
    cases hq.symm.trans hq'
    cases hf
  | _ => cases hm

/-! ## Whole operations -/

/-- A registration, from its beginning to wherever a run has led. -/
structure Registration (w w₁ : World) (ns : List Move) (w₂ : World) (request : SecretRequest)
    (source : String) : Prop where
  begins : Spares w w₁ w.nextOperation
    [.called w.nextOperation ⟨w.nextHandle⟩ (.fetch source request.path)]
  steps : ∀ u m u', Passes w₁ ns u m u' → m.mover? = some w.nextOperation →
    Registers u w.nextOperation ⟨w.nextHandle⟩ request m u'
  /-- It is refused just if what was wanted at once was not found, or could not be fetched. -/
  outcome : ∀ o, w₂.outcome? w.nextOperation = some o ↔ ∃ u r u',
    Passes w₁ ns u (.answer w.nextOperation (.fetched r)) u' ∧
      o = (rejection? request r).elim (.registered ⟨w.nextHandle⟩) .refused

/-- A fetch that somebody has asked for, from its beginning to wherever a run has led. -/
structure Rotation (w w₁ : World) (ns : List Move) (w₂ : World) (h : Handle) : Prop where
  unknown : w.registered? h = none → Refuses w w₁ w.nextOperation (.notFound h.text) []
  known : ∀ e, w.registered? h = some e → Spares w w₁ w.nextOperation
    (if e.lock = [] then [.called w.nextOperation h (.fetch e.source e.request.path)] else [])
  steps : ∀ u m u', Passes w₁ ns u m u' → m.mover? = some w.nextOperation →
    ∃ e, w.registered? h = some e ∧ Rotates u w.nextOperation h e.request e.source m u'
  /-- It is refused just if the secret is not registered when it begins or comes to the lock, or the
  fetch brings nothing. -/
  refused : ∀ f, w₂.outcome? w.nextOperation = some (.refused f) ↔
    f = .notFound h.text ∧ (w.registered? h = none ∨
      ∃ u u', Passes w₁ ns u (.enter w.nextOperation) u' ∧ u.registered? h = none) ∨
    ∃ e u r u' c, w.registered? h = some e ∧
      Passes w₁ ns u (.answer w.nextOperation (.fetched r)) u' ∧ Misses e.request.path r f c

theorem begin_of_step {r : Request} (hs : step w (.begin r) = some w') : w' = w.begin r := by
  cases turn_of_step hs with
  | begins _ => rfl
  | runs hf => cases hf

section runs

variable {settings : Settings} {d : Discipline} {draws : Nat → Nat} {ms ns : List Move}
  {w₁ w₂ : World}

theorem joined_of_run (hrun : run? (initial settings d draws) ms = some w) : Joined w :=
  (joined_initial settings d draws).of_run (sound_initial settings d draws) hrun

theorem registration_of_run (hrun : run? (initial settings d draws) ms = some w)
    {request : SecretRequest} {source : String} (hb : step w (.begin (.add request source)) = some w₁)
    (hns : run? w₁ ns = some w₂) (hd : w₂.destroyed = false) :
    Registration w w₁ ns w₂ request source := by
  have hw := sound_of_run hrun
  have ht := turn_of_step hb
  have hw₁ := hw.of_turn ht
  have hj₁ := (joined_of_run hrun).of_turn hw ht
  have hd₀ := destroyed_of_turn ht (not_destroyed_of_run hns hd)
  obtain rfl := begin_of_step hb
  have hbegins := spares_add hd₀ request source
  have hunknown : w.entry? ⟨w.nextHandle⟩ = none := by
    cases he : w.entry? ⟨w.nextHandle⟩ with
    | none => rfl
    | some e => exact absurd (hw.known _ _ (face?_some he)) (Nat.lt_irrefl _)
  have hstart : Engaged (· = .registering ⟨w.nextHandle⟩) w.nextOperation ⟨w.nextHandle⟩ request
      source (w.begin (.add request source)) := by
    rw [begin_add hd₀]
    refine ⟨⟨_, ?_, rfl⟩, fun e he => ?_⟩
    · show (World.setPoint _ w.nextOperation _).point? w.nextOperation = _
      rw [point?_setPoint, if_pos rfl]
    · have hface : World.face? (w.enroll.2.enlist ⟨⟨w.nextHandle⟩, request, source, none,
          none, [w.nextOperation], .pending⟩) ⟨w.nextHandle⟩ = some e := he
      rw [World.face?, find_enlist, if_pos rfl,
        show World.entry? w.enroll.2 ⟨w.nextHandle⟩ = none from hunknown] at hface
      cases hface
      exact ⟨rfl, rfl⟩
  have hwants : ∀ q : Point, q = .registering ⟨w.nextHandle⟩ → q.wants? = some ⟨w.nextHandle⟩ :=
    fun q hq => by rw [hq]; rfl
  have hsteps : ∀ u m u', Passes (w.begin (.add request source)) ns u m u' →
      m.mover? = some w.nextOperation → Registers u w.nextOperation ⟨w.nextHandle⟩ request m u' :=
    fun _ _ _ => hstart.of_passes hwants registers_of_turn hw₁ hj₁ hns hd
  refine ⟨hbegins, hsteps, fun o => ⟨fun ho => ?_, ?_⟩⟩
  · obtain ⟨u, m, u', hp, hm, ho⟩ :=
      (hstart.outcome?_iff hwants registers_of_turn hw₁ hj₁ hns hd).mp ho
    obtain ⟨r, rfl, ho'⟩ := (hsteps u m u' hp hm).outcome
    exact ⟨u, r, u', hp, Option.some.inj (ho.symm.trans ho')⟩
  · rintro ⟨u, r, u', hp, rfl⟩
    obtain ⟨r', hr, ho⟩ := (hsteps u _ u' hp rfl).outcome
    cases hr
    exact hp.outcome? hj₁ hw₁ hns ho

section begun

variable (hw₁ : Sound w₁) (hj₁ : Joined w₁) (hns : run? w₁ ns = some w₂)

include hw₁ hj₁ hns

/-- Who asks for a secret that is not registered is refused at once. -/
theorem rotation_of_unknown (hn : w.registered? h = none)
    (href : Refuses w w₁ w.nextOperation (.notFound h.text) []) : Rotation w w₁ ns w₂ h := by
  have hno : ∀ {u m u'}, Passes w₁ ns u m u' → m.mover? ≠ some w.nextOperation :=
    hj₁.not_mover hw₁ href.1
  have hend := hj₁.outcome?_of_run hw₁ href.1 hns
  refine ⟨fun _ => href, fun e he => (by cases hn.symm.trans he), fun u m u' hp hm => absurd hm (hno hp),
    fun f => ⟨fun ho => ?_, ?_⟩⟩
  · cases hend.symm.trans ho
    exact .inl ⟨rfl, .inl hn⟩
  · rintro (⟨rfl, -⟩ | ⟨e, u, r, u', c, he, -⟩)
    · exact hend
    · cases hn.symm.trans he

/-- Who asks for one that is registered is refused later, or never. -/
theorem rotation_of_known (hd : w₂.destroyed = false) (he : w.registered? h = some e)
    (hspares : Spares w w₁ w.nextOperation
      (if e.lock = [] then [.called w.nextOperation h (.fetch e.source e.request.path)] else []))
    (hstart : Engaged (Fetching h) w.nextOperation h e.request e.source w₁) :
    Rotation w w₁ ns w₂ h := by
  have hsteps : ∀ u m u', Passes w₁ ns u m u' → m.mover? = some w.nextOperation →
      Rotates u w.nextOperation h e.request e.source m u' :=
    fun _ _ _ => hstart.of_passes (fun _ => Fetching.wants) rotates_of_turn hw₁ hj₁ hns hd
  refine ⟨fun hn => (by cases hn.symm.trans he), fun f hf => ?_,
    fun u m u' hp hm => ⟨e, he, hsteps u m u' hp hm⟩, fun f => ⟨fun ho => ?_, ?_⟩⟩
  · cases he.symm.trans hf
    exact hspares
  · obtain ⟨u, m, u', hp, hm, ho⟩ :=
      (hstart.outcome?_iff (fun _ => Fetching.wants) rotates_of_turn hw₁ hj₁ hns hd).mp ho
    cases hsteps u m u' hp hm with
    | unknown hn href =>
      cases href.1.symm.trans ho
      exact .inl ⟨rfl, .inr ⟨u, u', hp, hn⟩⟩
    | fetches _ hs =>
      have hsame : u'.outcome? w.nextOperation = u.outcome? w.nextOperation := by
        simp only [World.outcome?, hs.history, List.singleton_append, List.findSome?_cons]
      cases (hsame.trans (hp.outcome?_eq_none hj₁ hw₁ hm)).symm.trans ho
    | missed hmiss href =>
      cases href.1.symm.trans ho
      exact .inr ⟨e, u, _, u', _, he, hp, hmiss⟩
    | rotated hend => cases hend.symm.trans ho
  · rintro (⟨rfl, hn | ⟨u, u', hp, hn⟩⟩ | ⟨f', u, r, u', c, hf', hp, hmiss⟩)
    · cases he.symm.trans hn
    · cases hsteps u _ u' hp rfl with
      | unknown _ href => exact hp.outcome? hj₁ hw₁ hns href.1
      | fetches hr _ => exact absurd hn hr
    · cases he.symm.trans hf'
      cases hsteps u _ u' hp rfl with
      | missed hmiss' href =>
        cases hmiss.fault_eq hmiss'
        exact hp.outcome? hj₁ hw₁ hns href.1
      | rotated => cases hmiss

end begun

theorem rotation_of_run (hrun : run? (initial settings d draws) ms = some w)
    (hb : step w (.begin (.rotate h)) = some w₁) (hns : run? w₁ ns = some w₂)
    (hd : w₂.destroyed = false) : Rotation w w₁ ns w₂ h := by
  have hw := sound_of_run hrun
  have ht := turn_of_step hb
  have hw₁ := hw.of_turn ht
  have hj₁ := (joined_of_run hrun).of_turn hw ht
  have hd₀ := destroyed_of_turn ht (not_destroyed_of_run hns hd)
  obtain rfl := begin_of_step hb
  cases he : w.registered? h with
  | none => exact rotation_of_unknown hw₁ hj₁ hns he (refuses_rotate hd₀ he)
  | some e =>
    obtain ⟨hspares, q, hq, hfetching⟩ := spares_rotate hd₀ he
    refine rotation_of_known hw₁ hj₁ hns hd he hspares ⟨⟨q, hq, hfetching⟩, fun f hf => ?_⟩
    exact request_of_act (e := e.bare) hw (act_of_turn hw ht) (face?_some (registered?_some he).1) hf

/-- A registration that is refused leaves nothing behind, and any other makes one handle known; whoever
asks for another fetch in vain is refused, and the secret with its task stays as it is. -/
theorem no_trace_of_failure (hrun : run? (initial settings d draws) ms = some w) :
    (∀ request source w₁ ns w₂, step w (.begin (.add request source)) = some w₁ →
      run? w₁ ns = some w₂ → w₂.destroyed = false → Registration w w₁ ns w₂ request source) ∧
    ∀ h w₁ ns w₂, step w (.begin (.rotate h)) = some w₁ → run? w₁ ns = some w₂ →
      w₂.destroyed = false → Rotation w w₁ ns w₂ h :=
  ⟨fun _ _ _ _ _ => registration_of_run hrun, fun _ _ _ _ => rotation_of_run hrun⟩

end runs

/-- Somebody registers a secret. -/
def oneSecret : List Move :=
  [.begin (.add ⟨"path", .renewable⟩ "kv"), .answer 0 (.fetched (.ok (some minuteSecret)))]

/-- Another secret is wanted at once and not found, and the first cannot be fetched again; its renewal
comes as it was to come. -/
theorem renewal_after_failures :
    ∃ w, run? early oneSecret = some w ∧
      (∃ w₁ w₂, step w (.begin (.add ⟨"other", .immediate⟩ "kv")) = some w₁ ∧
        run? w₁ [.answer 1 (.fetched (.ok none))] = some w₂ ∧
        w₂.outcome? 1 = some (.refused (.notFound "other")) ∧ w₂.handles = [⟨1⟩]) ∧
      ∃ w₁ w₂ w₃, step w (.begin (.rotate ⟨1⟩)) = some w₁ ∧
        run? w₁ [.answer 1 (.fetched (.error (.transport "down")))] = some w₂ ∧
        w₂.outcome? 1 = some (.refused (.transport "down")) ∧ w₂.tasks ⟨1⟩ = w.tasks ⟨1⟩ ∧
        step w₂ .fireNext = some w₃ ∧ w₃.call? 2 = some (.renew minuteSecret.lease (.ofSeconds 60)) := by
  have hrun : run? early oneSecret = some _ := rfl
  obtain ⟨hadd, hrotate⟩ := no_trace_of_failure hrun
  have ha := hadd ⟨"other", .immediate⟩ "kv" _ [.answer 1 (.fetched (.ok none))] _ rfl rfl rfl
  have hr := hrotate ⟨1⟩ _ [.answer 1 (.fetched (.error (.transport "down")))] _ rfl rfl rfl
  refine ⟨_, hrun, ⟨_, _, rfl, rfl, ?_, rfl⟩, _, _, _, rfl, rfl, ?_, rfl, rfl, rfl⟩
  · exact (ha.outcome _).mpr ⟨_, .ok none, _, ⟨[], List.prefix_rfl, rfl, rfl⟩, rfl⟩
  · refine (hr.refused _).mpr (.inr ⟨_, _, .error (.transport "down"), _,
      .failed minuteSecret.lease (.transport "down"), rfl, ⟨[], List.prefix_rfl, rfl, rfl⟩, .failed⟩)

end LeaseKeeper.Leases
