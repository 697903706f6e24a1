import LeaseKeeper.Proofs.Leases.Course

/-!
# The stages of a removal

`Stage` says how far the removal of a secret has come: nobody removes it, somebody waits for
the lock, its lease is being given back, or it is gone; and which lease is given back then.
A step that gets on with a secret moves it at most one stage on, by the operation whose
removal it is, and what is to be given back is the lease that was granted last
(`stage_of_act`). Only a lease that was lost while the engine looked after the secret is
given back no more.
-/

namespace LeaseKeeper.Leases

open World

/-- The lease that is given back to the server for that secret, if that is what happens, and the
operation that does it. -/
def Happening.revocation? (h : Handle) : Happening → Option (Nat × Lease)
  | .called op k (.revoke l) => if k = h then some (op, l) else none
  | _ => none

namespace World

/-- The leases that were given back to the server for a secret, with the operations that did it,
latest first. -/
def revocations (w : World) (h : Handle) : List (Nat × Lease) :=
  w.history.filterMap (Happening.revocation? h)

/-- The lease that an entry shows. -/
def shownLease (w : World) (h : Handle) : Option Lease :=
  ((w.face? h).bind Entry.snapshot).map Snapshot.lease

end World

/-- How far the removal of a secret has come: which operation removes it and on whose behalf, and
the lease to be given back or given back. -/
inductive Stage (w : World) (h : Handle) : Option (Nat × Remover) → Option Lease → Prop
  | early {x : Option Lease} : (∀ e, w.face? h = some e → e.standing ≠ .removed) →
    w.revocations h = [] → x = w.shownLease h → Stage w h none x
  | waits {a : Nat} {r : Remover} {e : Entry} {x : Option Lease} : w.face? h = some e →
    e.standing = .removed → w.point? a = some (.queued h (.remove r)) → w.revocations h = [] →
    x = e.snapshot.map Snapshot.lease → Stage w h (some (a, r)) x
  | returns {a : Nat} {r : Remover} {s : Snapshot} {e : Entry} : w.face? h = some e →
    e.standing = .removed → e.snapshot = none → w.point? a = some (.revoking h s r) →
    s.lease.hasId = true → w.revocations h = [(a, s.lease)] → Stage w h (some (a, r)) (some s.lease)
  | gone {a : Nat} {r : Remover} {e : Entry} {x : Option Lease} : w.face? h = some e →
    e.standing = .removed → e.snapshot = none →
    (∀ b q, w.point? b = some q → q.leaves? ≠ some h ∧ q.holds? ≠ some h) →
    w.revocations h = (x.filter Lease.hasId).toList.map (a, ·) → Concluded w a (r.verdict true) →
    Stage w h (some (a, r)) x

variable {w w' u : World} {m : Move} {op : Nat} {h k : Handle} {e : Entry} {face : Option Entry}
  {p : Option Point} {hs hs' : List Happening} {care : Care} {g x : Option Lease} {rm : Option Nat}
  {y : Option (Nat × Remover)}

/-! ## What leaves a stage as it is -/

/-- Whoever removes a secret has found its entry. -/
theorem Stage.entry {a : Nat × Remover} (hs : Stage w h (some a) x) :
    ∃ e, w.face? h = some e ∧ e.standing = .removed := by
  cases hs with
  | waits he hrem _ _ _ | returns he hrem _ _ _ _ | gone he hrem _ _ _ _ => exact ⟨_, he, hrem⟩

/-- A stage depends on the entry, on who leaves it or holds it, and on what was given back. -/
theorem Stage.congr (hs : Stage w h y x)
    (hface : (u.face? h).map (fun e => (e.standing, e.snapshot)) =
      (w.face? h).map fun e => (e.standing, e.snapshot))
    (hrev : u.revocations h = w.revocations h)
    (hleaves : ∀ a q, q.leaves? = some h → (u.point? a = some q ↔ w.point? a = some q))
    (hholds : ∀ e, w.face? h = some e → e.standing = .removed → ∀ a q, u.point? a = some q →
      q.holds? = some h → w.point? a = some q)
    (hconc : ∀ a o, Concluded w a o → Concluded u a o) : Stage u h y x := by
  have hback : ∀ {e}, w.face? h = some e → ∃ e', u.face? h = some e' ∧ e'.standing = e.standing ∧
      e'.snapshot = e.snapshot := fun {e} he => by
    rw [he, Option.map_some] at hface
    obtain ⟨e', he', heq⟩ := Option.map_eq_some_iff.mp hface
    exact ⟨e', he', congrArg Prod.fst heq, congrArg Prod.snd heq⟩
  cases hs with
  | early hne hr hx =>
    refine .early (fun e he => ?_) (hrev.trans hr) (hx.trans ?_)
    · rw [he, Option.map_some] at hface
      obtain ⟨e', he', heq⟩ := Option.map_eq_some_iff.mp hface.symm
      have hst : e'.standing = e.standing := congrArg Prod.fst heq
      exact hst ▸ hne e' he'
    · have hsnap : ∀ v : World, (v.face? h).bind Entry.snapshot =
          ((v.face? h).map fun e => (e.standing, e.snapshot)).bind Prod.snd := fun v => by
        cases v.face? h <;> rfl
      rw [shownLease, shownLease, hsnap u, hsnap w, hface]
  | waits he hrem hq hr hx =>
    obtain ⟨e', he', hst, hsn⟩ := hback he
    exact .waits he' (hst.trans hrem) ((hleaves _ _ rfl).mpr hq) (hrev.trans hr) (hsn ▸ hx)
  | returns he hrem hsn hq hid hr =>
    obtain ⟨e', he', hst, hsn'⟩ := hback he
    exact .returns he' (hst.trans hrem) (hsn'.trans hsn) ((hleaves _ _ rfl).mpr hq) hid
      (hrev.trans hr)
  | gone he hrem hsn hnone hr hc =>
    obtain ⟨e', he', hst, hsn'⟩ := hback he
    refine .gone he' (hst.trans hrem) (hsn'.trans hsn) (fun b q hq => ⟨fun hl => ?_, fun hh => ?_⟩)
      (hrev.trans hr) (hconc _ _ hc)
    · exact (hnone b q ((hleaves b q hl).mp hq)).1 hl
    · exact (hnone b q (hholds _ he hrem b q hq hh)).2 hh

/-- Nothing is given back beside the entries. -/
theorem Aside.revocations (ha : Aside w u) (h : Handle) : u.revocations h = w.revocations h := by
  obtain ⟨hs', hh, hall⟩ := ha.history
  rw [World.revocations, hh, List.filterMap_append, List.filterMap_eq_nil_iff.mpr, List.nil_append]
  · rfl
  · intro x hx
    obtain ⟨b, o, rfl, -⟩ := hall x hx
    rfl

theorem Stage.of_aside (hs : Stage w h y x) (ha : Aside w u) : Stage u h y x := by
  refine hs.congr (by rw [ha.faces]) (ha.revocations h) (fun a q hl => ha.wants a q ?_)
    (fun _ _ _ a q hq hh => (ha.wants a q ?_).mp hq) fun _ _ hc => hc.aside ha
  · rw [Point.wants?_of_leaves? hl]
    simp
  · rw [Point.wants?_of_holds? hh]
    simp

/-- What an operation gives back, calls and ends is its own, of the entry that it gets on with. -/
theorem Does.happens (hd : Does w u m op h face p hs care g rm) :
    (∀ a o, .ended a o ∈ hs → a = op) ∧ ∀ a j c, .called a j c ∈ hs → a = op ∧ j = h := by
  have htells : ∀ {e ks}, Tells w h e ks → (∀ a o, .ended a o ∉ ks) ∧ ∀ a j c, .called a j c ∉ ks :=
    fun ht => ⟨fun a o hx => (by obtain ⟨-, _, hx, -⟩ := ht _ hx; cases hx),
      fun a j c hx => by obtain ⟨-, _, hx, -⟩ := ht _ hx; cases hx⟩
  cases hd with
  | adds | renews => exact ⟨by simp, by simp +contextual⟩
  | forgets | joins | waits | returned => exact ⟨by simp, by simp⟩
  | registers _ _ _ _ ht | passes _ _ _ _ ht _ | installs _ _ _ _ _ ht _ =>
    exact ⟨by simp [(htells ht).1], by simp [(htells ht).2]⟩
  | fetches _ _ _ _ ht => exact ⟨by simp [(htells ht).1], by simp +contextual [(htells ht).2]⟩
  | takes _ _ _ ht =>
    cases ht with
    | returns _ => exact ⟨by simp, by simp +contextual⟩
    | ends _ => exact ⟨by simp, by simp⟩

/-- Whoever has ended does not get on with anything. -/
theorem Concluded.of_scene {o : Outcome} {a : Nat} (hc : Concluded w a o)
    (hd : Does w u m op h face p hs care g rm) (hx : Scene w u op h face p hs care) :
    a ≠ op ∧ Concluded u a o := by
  obtain ⟨_, _, hf⟩ := hx.frame
  have hne : a ≠ op := by
    rintro rfl
    cases hd.whence with
    | begins hop => exact absurd hc.begun (hop ▸ Nat.lt_irrefl _)
    | stands hq _ | opens hq => cases hc.gone.symm.trans hq
  exact ⟨hne, hc.of_history ((hf.points a hne).trans hc.gone) hf.nextOperation hx.history
    fun r hr => hne (hd.happens.1 a r hr)⟩

/-- What an operation does to one entry does not matter to the removal of another. -/
theorem Stage.of_other (hs : Stage w k y x) (hw : Sound w) (hk : k ≠ h)
    (hd : Does w u m op h face p hs' care g rm) (hx : Scene w u op h face p hs' care)
    (hp : ∀ q, p = some q → q.wants? = some h) : Stage u k y x := by
  obtain ⟨_, _, hf⟩ := hx.frame
  have hpoint : ∀ a q, q.wants? = some k → (u.point? a = some q ↔ w.point? a = some q) :=
    fun a q hwk => by
      by_cases ha : a = op
      · subst ha
        refine iff_of_false (fun hq => hk ?_) fun hq => hk (hw.wants_of_whence hd.whence hq hwk)
        exact Option.some.inj (hwk.symm.trans (hp q (hf.point ▸ hq)))
      · rw [hf.points a ha]
  refine hs.congr (by rw [hf.faces k hk]) ?_ (fun a q hl => hpoint a q (Point.wants?_of_leaves? hl))
    (fun _ _ _ a q hq hh => (hpoint a q (Point.wants?_of_holds? hh)).mp hq)
    fun a o hc => (hc.of_scene hd hx).2
  rw [revocations, hx.history, List.filterMap_append, List.filterMap_eq_nil_iff.mpr, List.nil_append]
  · rfl
  · intro x hx
    match x with
    | .called a j (.revoke l) =>
      obtain ⟨-, rfl⟩ := hd.happens.2 a j _ hx
      exact if_neg hk.symm
    | .called _ _ (.fetch _ _) => rfl
    | .called _ _ (.renew _ _) => rfl
    | .published _ => rfl
    | .ended _ _ => rfl

/-- An operation that gets on with an entry wants no other afterwards. -/
theorem Does.wants (hd : Does w u m op h face p hs care g rm) {q : Point} (hq : p = some q) :
    q.wants? = some h := by
  cases hd with
  | joins _ _ _ _ hserves _ =>
    cases hq
    exact hserves.wants
  | takes _ _ _ ht =>
    cases ht with
    | returns _ => cases hq; rfl
    | ends _ => cases hq
  | _ => cases hq <;> rfl

/-! ## From one stage to the next -/

/-- Who removes a secret after a step: it stays with whoever does, or the step brings the operation
that does, be it because its registration came too late. -/
inductive Follows (w : World) (m : Move) (h : Handle) :
    Option (Nat × Remover) → Option (Nat × Remover) → Prop
  | stays {y : Option (Nat × Remover)} : (y = none → ∀ e a, w.face? h = some e →
    e.standing = .registered → w.removal? h m ≠ some a) → Follows w m h y y
  | comes {a : Nat} {r : Remover} : w.removal? h m = some a → r ≠ .registration →
    Follows w m h none (some (a, r))
  | late {a : Nat} : w.point? a = some (.registering h) → Follows w m h none (some (a, .registration))

/-- What is given back after a step that grants `g` or nothing: what was granted last, unless nothing
is granted and the lease is lost while the engine looks after it. -/
def Carries (w : World) (g : Option Lease) (y' : Option (Nat × Remover)) (x x' : Option Lease) :
    Prop :=
  x' = g.or x ∨ w.destroyed = false ∧ g = none ∧ y' = none ∧ x' = none

theorem Follows.of_none (hr : w.removal? h m = none) : Follows w m h y y :=
  .stays fun _ _ _ _ _ => by rw [hr]; simp

/-- An operation that serves an entry and shows nothing new leaves its stage as it is. -/
theorem Stage.served {e' : Entry} (hs : Stage w h y x) (hw : Sound w)
    (hd : Does w u m op h (some e') p hs' care g rm) (hx : Scene w u op h (some e') p hs' care)
    (he : w.face? h = some e) (hserving : Serving w op h e) (hst : e'.standing = e.standing)
    (hsnap : e'.snapshot = e.snapshot) (hrev : hs'.filterMap (Happening.revocation? h) = [])
    (hp : ∀ q, p = some q → q.Serves h ∧ e.standing ≠ .removed) : Stage u h y x := by
  obtain ⟨_, _, hf⟩ := hx.frame
  have hbefore : ∀ q, w.point? op = some q → q.leaves? = none := fun q hq => by
    rcases hserving with ⟨rfl, -⟩ | ⟨r, hr, hserves⟩
    · cases hw.point?_next.symm.trans hq
    · cases hq.symm.trans hr
      exact hserves.leaves
  refine hs.congr ?_ ?_ (fun a q hl => ?_) (fun f hf' hrem a q hq hh => ?_)
    fun a o hc => (hc.of_scene hd hx).2
  · rw [hf.face, he, Option.map_some, Option.map_some, hst, hsnap]
  · rw [revocations, hx.history, List.filterMap_append, hrev]
    rfl
  · by_cases ha : a = op
    · subst ha
      refine iff_of_false (fun hq => ?_) fun hq => ?_
      · cases hl.symm.trans (hp q (hf.point ▸ hq)).1.leaves
      · cases hl.symm.trans (hbefore q hq)
    · rw [hf.points a ha]
  · cases he.symm.trans hf'
    by_cases ha : a = op
    · subst ha
      exact absurd hrem (hp q (hf.point ▸ hq)).2
    · exact hf.points a ha ▸ hq

/-- Nobody has begun to remove an entry that is not removed. -/
theorem Stage.of_standing (hs : Stage w h y x) (he : w.face? h = some e)
    (hne : e.standing ≠ .removed) :
    y = none ∧ w.revocations h = [] ∧ x = e.snapshot.map Snapshot.lease := by
  cases hs with
  | early _ hr hx => exact ⟨rfl, hr, by rw [hx, shownLease, he]; rfl⟩
  | waits he' hrem _ _ _ | returns he' hrem _ _ _ _ | gone he' hrem _ _ _ _ =>
    cases he.symm.trans he'; exact absurd hrem hne

/-- Whoever takes part in a removal is the one whose removal it is. -/
theorem Stage.of_leaves (hs : Stage w h y x) (hw : Sound w) {a : Nat} {q : Point}
    (hq : w.point? a = some q) (hl : q.leaves? = some h) :
    ∃ r, y = some (a, r) ∧
      ((q = .queued h (.remove r) ∧ w.revocations h = [] ∧
          x = w.shownLease h) ∨
        ∃ s, q = .revoking h s r ∧ w.revocations h = [(a, s.lease)] ∧ s.lease.hasId = true ∧
          x = some s.lease ∧ ∀ e, w.face? h = some e → e.snapshot = none) := by
  cases hs with
  | early hne _ _ =>
    obtain ⟨e, he⟩ := hw.wanted a q h hq (Point.wants?_of_leaves? hl)
    exact absurd (hw.leaving a q h e hq hl he) (hne e he)
  | waits he _ hq' hr hx =>
    obtain rfl := hw.once a _ q _ h hq hl hq' rfl
    cases hq.symm.trans hq'
    exact ⟨_, rfl, .inl ⟨rfl, hr, by rw [hx, shownLease, he]; rfl⟩⟩
  | returns he _ hsn hq' hid hr =>
    obtain rfl := hw.once a _ q _ h hq hl hq' rfl
    cases hq.symm.trans hq'
    exact ⟨_, rfl, .inr ⟨_, rfl, hr, hid, rfl, fun e he' => by cases he.symm.trans he'; exact hsn⟩⟩
  | gone _ _ _ hnone _ _ => exact absurd hl (hnone a q hq).1

theorem revocations_of_scene (hx : Scene w u op h face p hs care) :
    u.revocations h = hs.filterMap (Happening.revocation? h) ++ w.revocations h := by
  rw [revocations, hx.history, List.filterMap_append]
  rfl

/-- Nothing is given back while something is told. -/
theorem Tells.revocations (ht : Tells w h e hs) {a : Happening} (ha : a.revocation? h = none) :
    (a :: hs).filterMap (Happening.revocation? h) = [] := by
  refine List.filterMap_eq_nil_iff.mpr fun b hb => ?_
  rcases List.mem_cons.mp hb with rfl | hb
  · exact ha
  · obtain ⟨-, event, rfl, -⟩ := ht b hb
    rfl

/-- An operation that ends in a step has ended. -/
theorem concluded_of_scene {o : Outcome} (hx : Scene w u op h face none (.ended op o :: hs) care) :
    Concluded u op o := by
  obtain ⟨_, _, hf⟩ := hx.frame
  refine ⟨hf.point, hf.fresh, ?_⟩
  rw [outcome?, hx.history, List.cons_append, List.findSome?_cons]
  simp

/-- Taking an entry out brings its removal to where the lease is given back, or to its end. -/
theorem stage_of_takes (hw : Sound w) {s : Option Snapshot} {l l' : List Nat} {r : Remover}
    (he : w.face? h = some e) (hl : Leaving w m op h e r s care g rm) (hh : Heads op e.lock l)
    (ht : Takes op h r s l l' p hs)
    (hx : Scene w u op h (some { e with snapshot := none, lock := l', standing := .removed }) p hs
      care)
    (hrev : w.revocations h = []) : Stage u h (some (op, r)) (s.map Snapshot.lease) := by
  have hr := revocations_of_scene hx
  rw [hrev, List.append_nil] at hr
  obtain ⟨_, _, hf⟩ := hx.frame
  cases ht with
  | returns hid =>
    refine .returns hf.face rfl rfl hf.point hid (hr.trans ?_)
    simp [Happening.revocation?]
  | ends hnone =>
    have hother : ∀ {b q}, u.point? b = some q → b ≠ op ∧ w.point? b = some q := fun {b q} hq => by
      have hb : b ≠ op := by
        rintro rfl
        cases hf.point.symm.trans hq
      exact ⟨hb, hf.points b hb ▸ hq⟩
    refine .gone hf.face rfl rfl (fun b q hq => ⟨fun hlv => ?_, fun hhd => ?_⟩) (hr.trans ?_)
      (concluded_of_scene hx)
    · obtain ⟨hb, hq'⟩ := hother hq
      have hrem := hw.leaving b q h e hq' hlv he
      cases hl with
      | removes _ hs => cases hs.symm.trans hrem
      | late _ hq'' _ _ _ => cases ((hw.pending op _ h e hq'' rfl he).mpr rfl).symm.trans hrem
      | waited hq'' _ => exact hb (hw.once b op q _ h hq' hlv hq'' rfl)
    · obtain ⟨hb, hq'⟩ := hother hq
      exact hh.others b hb (hw.head b q h e hq' hhd he)
    · rw [hnone]
      rfl

/-- What was granted last is shown. -/
theorem stage_of_installs (hw : Sound w) (hs : Stage w h y x) {s : Snapshot} {l : List Nat}
    {o : Outcome} {q : Point} (he : w.face? h = some e) (hq : w.point? op = some q)
    (hserves : q.Serves h) (hholds : q.holds? = some h) (ht : Tells w h e hs')
    (hd : Does w u m op h (some { e with snapshot := some s, lock := l }) none (.ended op o :: hs')
      care g rm)
    (hx : Scene w u op h (some { e with snapshot := some s, lock := l }) none (.ended op o :: hs')
      care) :
    Stage u h y (some s.lease) := by
  obtain ⟨_, _, hf⟩ := hx.frame
  have hr : u.revocations h = w.revocations h := by
    rw [revocations_of_scene hx, ht.revocations rfl, List.nil_append]
  cases hs with
  | early hne hrev _ =>
    refine .early (fun f hf' => ?_) (hr.trans hrev) ?_
    · cases hf.face.symm.trans hf'
      exact hne e he
    · rw [shownLease, hf.face]
      rfl
  | @waits a r f _ he' hrem hq' hrev _ =>
    cases he.symm.trans he'
    have hne : a ≠ op := by
      rintro rfl
      cases hq.symm.trans hq'
      exact hserves.elim
    exact .waits hf.face hrem ((hf.points a hne).trans hq') (hr.trans hrev) rfl
  | returns he' _ _ hq' _ _ =>
    -- Whoever gives the lease back holds the lock.
    have hop := hw.holder_unique hq hholds hq' rfl
    subst hop
    cases hq.symm.trans hq'
    exact hserves.elim
  | gone _ _ _ hnone _ _ => exact absurd hholds (hnone op q hq).2

/-- What an operation does to an entry brings its removal on by at most one stage. -/
theorem stage_of_does (hw : Sound w) (hs : Stage w h y x)
    (hd : Does w u m op h face p hs' care g rm) (hx : Scene w u op h face p hs' care)
    (hr : w.removal? h m = rm) :
    ∃ y' x', Stage u h y' x' ∧ Follows w m h y y' ∧ Carries w g y' x x' := by
  obtain ⟨_, _, hf⟩ := hx.frame
  have hrevs : ∀ {ks}, ks.filterMap (Happening.revocation? h) = [] → hs' = ks →
      u.revocations h = w.revocations h := fun hks heq => by
    rw [revocations_of_scene hx, heq, hks, List.nil_append]
  have hlive : ∀ {e : Entry}, w.isLive e = true → w.destroyed = false ∧ e.standing ≠ .removed := by
    intro e hl
    simpa [isLive] using hl
  have hd' := hd
  cases hd with
  | @adds e _ _ _ _ hser _ hpend hsnap _ =>
    have hnone : w.face? h = none := by
      cases he : w.face? h with
      | none => rfl
      | some e => exact absurd (hw.known h e he) (by rw [hser]; exact Nat.lt_irrefl _)
    cases hs with
    | early _ hrev hx' =>
      refine ⟨none, x, .early (fun f hf' => ?_) ((hrevs rfl rfl).trans hrev) ?_, .of_none hr,
        .inl rfl⟩
      · cases hf.face.symm.trans hf'
        rw [hpend]
        decide
      · rw [hx', shownLease, shownLease, hf.face, hnone]
        simp [hsnap]
    | waits he _ _ _ _ | returns he _ _ _ _ _ | gone he _ _ _ _ _ => cases hnone.symm.trans he
  | @forgets e _ _ hq he _ _ =>
    have hpend := (hw.pending op _ h e hq rfl he).mpr rfl
    obtain ⟨rfl, hrev, rfl⟩ := hs.of_standing he (by rw [hpend]; decide)
    refine ⟨none, _, .early (fun f hf' => ?_) ((hrevs rfl rfl).trans hrev) ?_, .of_none hr, .inl rfl⟩
    · cases hf.face.symm.trans hf'
    · rw [(hw.registering h e he hpend).1, shownLease, hf.face]
      rfl
  | @registers e s _ ks _ hq he _ _ ht =>
    have hpend := (hw.pending op _ h e hq rfl he).mpr rfl
    obtain ⟨rfl, hrev, rfl⟩ := hs.of_standing he (by rw [hpend]; decide)
    refine ⟨none, s.map Snapshot.lease, .early (fun f hf' => ?_)
      ((hrevs (ht.revocations rfl) rfl).trans hrev) ?_, .of_none hr, .inl ?_⟩
    · cases hf.face.symm.trans hf'
      simp
    · rw [shownLease, hf.face]
      rfl
    · rw [(hw.registering h e he hpend).1, Option.map_none, Option.or_none]
  | joins he hop hreg _ hserves _ =>
    refine ⟨y, x, hs.served hw hd' hx he (.inl ⟨hop, hreg⟩) rfl rfl rfl fun q hq => ?_, .of_none hr,
      .inl rfl⟩
    cases hq
    exact ⟨hserves, by rw [hreg]; decide⟩
  | @passes e s l o ks care he hserving _ hsnap ht _ =>
    by_cases hsame : s = e.snapshot
    · exact ⟨y, x, hs.served hw hd' hx he hserving rfl hsame (ht.revocations rfl)
        (fun _ hq => by cases hq), .of_none hr, .inl rfl⟩
    · obtain ⟨hl, rfl⟩ := hsnap.resolve_left hsame
      obtain ⟨hd, hne⟩ := hlive hl
      obtain ⟨rfl, hrev, rfl⟩ := hs.of_standing he hne
      refine ⟨none, none, .early (fun f hf' => ?_) ((hrevs (ht.revocations rfl) rfl).trans hrev) ?_,
        .of_none hr, .inr ⟨hd, rfl, rfl, rfl⟩⟩
      · cases hf.face.symm.trans hf'
        exact hne
      · rw [shownLease, hf.face]
        rfl
  | renews he hserving _ hl _ _ =>
    refine ⟨y, x, hs.served hw hd' hx he hserving rfl rfl rfl fun q hq => ?_, .of_none hr, .inl rfl⟩
    cases hq
    exact ⟨rfl, (hlive hl).2⟩
  | fetches he hserving hl _ ht =>
    refine ⟨y, x, hs.served hw hd' hx he hserving rfl rfl (ht.revocations rfl) fun q hq => ?_,
      .of_none hr, .inl rfl⟩
    cases hq
    exact ⟨rfl, (hlive hl).2⟩
  | installs he hq hserves hholds _ ht _ =>
    exact ⟨y, _, stage_of_installs hw hs he hq hserves hholds ht hd' hx, .of_none hr, .inl rfl⟩
  | waits he hrm hreg _ =>
    obtain ⟨rfl, hrev, rfl⟩ := hs.of_standing he (by rw [hreg]; decide)
    refine ⟨_, _, .waits hf.face rfl hf.point ((hrevs rfl rfl).trans hrev) rfl, .comes hr ?_,
      .inl rfl⟩
    cases hrm <;> simp
  | @takes e s l l' p r ks care g a he hl hh ht =>
    cases hl with
    | removes hrm hreg =>
      obtain ⟨rfl, hrev, rfl⟩ := hs.of_standing he (by rw [hreg]; decide)
      refine ⟨_, _, stage_of_takes hw he (.removes hrm hreg) hh ht hx hrev, .comes hr ?_, .inl rfl⟩
      cases hrm <;> simp
    | late hm hq hdes hrej hsl =>
      have hpend := (hw.pending op _ h e hq rfl he).mpr rfl
      obtain ⟨rfl, hrev, rfl⟩ := hs.of_standing he (by rw [hpend]; decide)
      refine ⟨_, _, stage_of_takes hw he (.late hm hq hdes hrej hsl) hh ht hx hrev, .late hq, .inl ?_⟩
      rw [hsl, (hw.registering h e he hpend).1, Option.map_none, Option.or_none]
    | waited hq hrem =>
      obtain ⟨r', rfl, ⟨hq', hrev, rfl⟩ | ⟨_, hq', -⟩⟩ := hs.of_leaves hw hq rfl
      · cases hq'
        refine ⟨_, _, stage_of_takes (m := m) hw he (.waited hq hrem) hh ht hx hrev, .of_none hr,
          .inl ?_⟩
        rw [shownLease, he]
        rfl
      · cases hq'
  | @returned e s l r _ _ he hq _ hret =>
    obtain ⟨r', rfl, ⟨hq', -⟩ | ⟨s', hq', hrev, hid, rfl, hsn⟩⟩ := hs.of_leaves hw hq rfl
    · cases hq'
    cases hq'
    have hrem := hw.leaving op _ h e hq rfl he
    refine ⟨_, _, .gone hf.face hrem (hsn e he) (fun b q hq' => ?_) ?_ (concluded_of_scene hx),
      .of_none hr, .inl rfl⟩
    · have hb : b ≠ op := by
        rintro rfl
        cases hf.point.symm.trans hq'
      rw [hf.points b hb] at hq'
      exact ⟨fun hl => hb (hw.once b op q _ h hq' hl hq rfl),
        fun hh => hb (hw.holder_unique hq' hh hq rfl)⟩
    · rw [hrevs rfl rfl, hrev]
      simp [Option.filter, hid]

/-- Whatever happens in a step brings the removal of a secret on by at most one stage, and what is
to be given back is what was granted last. -/
theorem stage_of_act (hw : Sound w) (hs : Stage w h y x) (ha : Act w m w') :
    ∃ y' x', Stage w' h y' x' ∧ Follows w m h y y' ∧ Carries w (w.grant? h m) y' x x' := by
  cases ha with
  | aside ha hg hr =>
    refine ⟨y, x, hs.of_aside ha, .of_none (hr h), .inl ?_⟩
    rw [hg, Option.none_or]
  | @misses op k ha hg hr hmiss _ =>
    refine ⟨y, x, hs.of_aside ha, .stays fun _ e a he hreg hrm => ?_, .inl ?_⟩
    · rw [hr] at hrm
      split at hrm
      · rename_i hk
        obtain ⟨f, hf, -⟩ := exists_registered? (hk ▸ he) hreg
        cases hmiss.symm.trans hf
      · cases hrm
    · rw [hg, Option.none_or]
  | @does u op k face p hs' care g a hd hx hu hg hr =>
    have htold : Aside u w' := .told (hw.of_does hd hx) hu
    by_cases hk : h = k
    · subst hk
      obtain ⟨y', x', hs', hfol, hcar⟩ := stage_of_does hw hs hd hx (by rw [hr, if_pos rfl])
      exact ⟨y', x', hs'.of_aside htold, hfol, by rw [hg, if_pos rfl]; exact hcar⟩
    · have hs' := hs.of_other hw hk hd hx fun q => hd.wants
      refine ⟨y, x, hs'.of_aside htold, .of_none ?_, .inl ?_⟩
      · rw [hr, if_neg hk]
      · rw [hg, if_neg hk, Option.none_or]

end LeaseKeeper.Leases
