import LeaseKeeper.Proofs.Leases.Care

/-!
# The events about a secret as a log of its snapshot

Whoever hears the events about a secret can keep a copy of its snapshot: `Told` is that copy,
with a mark on a snapshot whose lease is lost and which is being fetched again, and
`Told.after` is what an event does to it. In an engine that is not shut down, replaying the
events about a registered secret gives its snapshot, and each event fits the copy before it
(`Told.Admits`): this is `record_of_run`.
-/

namespace LeaseKeeper.Leases

open World

/-! ## Replaying events -/

/-- What the events about a secret have told of it. -/
structure Told where
  /-- The lease and the data of its snapshot. -/
  shown : Option (Lease × SecretData)
  /-- Whether that lease is lost, and the secret is being fetched again. -/
  expiring : Bool

namespace Told

/-- Before any event. -/
def nothing : Told := ⟨none, false⟩

/-- What an event tells of a secret that is fetched again when its lease is lost, or is not. -/
def after (rotating : Bool) (t : Told) : LeaseChange → Told
  | .created lease data => ⟨some (lease, data), false⟩
  | .renewed _ lease => { t with shown := t.shown.map fun x => (lease, x.2) }
  | .rotated _ lease data => ⟨some (lease, data), false⟩
  | .expired _ => if rotating then { t with expiring := true } else nothing
  | .failed _ _ => if t.expiring then nothing else t
  | .notFound => if t.expiring then nothing else t
  | .revoked _ => t

/-- What a series of events tells. -/
def replay (rotating : Bool) (cs : List LeaseChange) : Told := cs.foldl (after rotating) nothing

theorem replay_concat (rotating : Bool) (cs : List LeaseChange) (c : LeaseChange) :
    replay rotating (cs ++ [c]) = (replay rotating cs).after rotating c := by
  rw [replay, List.foldl_append]
  rfl

/-- The lease is the one that was told, or the one that stands for none. -/
def Names (t : Told) (lease : Lease) : Prop :=
  match t.shown with
  | some (shown, _) => lease = shown
  | none => ∃ now, lease = Lease.absent now

/-- The lease is the one that was told. -/
def Shows (t : Told) (lease : Lease) : Prop := ∃ data, t.shown = some (lease, data)

/-- Whether an event fits what was told before; the first event about a secret tells what came of
its first fetch. -/
def Admits (t : Told) (first : Bool) : LeaseChange → Prop
  | .created _ _ => first = true
  | .renewed previous _ => first = false ∧ t.Shows previous
  | .rotated previous _ _ => first = false ∧ t.Names previous
  | .expired lease => first = false ∧ t.Shows lease
  | .failed lease _ => t.Names lease
  | .notFound => True
  | .revoked _ => False

end Told

/-- Every event of a series fits what the ones before it told. -/
def Consistent (rotating : Bool) (cs : List LeaseChange) : Prop :=
  ∀ before c after, cs = before ++ c :: after →
    (Told.replay rotating before).Admits before.isEmpty c

theorem consistent_nil (rotating : Bool) : Consistent rotating [] := fun before c after h => by
  cases before <;> cases h

theorem Consistent.concat {rotating : Bool} {cs : List LeaseChange} (hcs : Consistent rotating cs)
    {c : LeaseChange} (hc : (Told.replay rotating cs).Admits cs.isEmpty c) :
    Consistent rotating (cs ++ [c]) := by
  intro before d after h
  rcases List.eq_nil_or_concat after with rfl | ⟨rest, x, rfl⟩
  · obtain ⟨rfl, hd⟩ := List.append_inj' h rfl
    cases hd
    exact hc
  · rw [List.concat_eq_append, ← List.cons_append, ← List.append_assoc] at h
    exact hcs before d rest (List.append_inj' h rfl).1

/-! ## What a registered secret has told -/

/-- What a snapshot shows of itself. -/
def shownOf (s : Option Snapshot) : Option (Lease × SecretData) := s.map fun s => (s.lease, s.data)

/-- The secret is being fetched again because its lease is lost. -/
def Losing (w : World) (h : Handle) : Prop :=
  ∃ a previous, w.point? a = some (.rotating h previous .loss)

/-- The events about a registered secret are a log of its snapshot. -/
structure Recorded (w : World) (h : Handle) (e : Entry) (cs : List LeaseChange) : Prop where
  begun : cs ≠ []
  shown : (Told.replay e.isRotating cs).shown = shownOf e.snapshot
  expiring : (Told.replay e.isRotating cs).expiring = true ↔ Losing w h
  consistent : Consistent e.isRotating cs

variable {c : Prop} {w w' : World} {op n : Nat} {h : Handle} {e e' : Entry} {p : Option Point}
  {s : Option Snapshot} {st : Standing} {added : List LeaseChange} {care : Care}

/-- One more event that fits what was told, be it the first. -/
theorem recorded_concat {cs : List LeaseChange} (hcs : Consistent e.isRotating cs) {k : LeaseChange}
    (hrot : e'.isRotating = e.isRotating)
    (hk : (Told.replay e.isRotating cs).Admits cs.isEmpty k)
    (hs : ((Told.replay e.isRotating cs).after e.isRotating k).shown = shownOf e'.snapshot)
    (hx : ((Told.replay e.isRotating cs).after e.isRotating k).expiring = true ↔ Losing w' h) :
    Recorded w' h e' (cs ++ [k]) := by
  refine ⟨by simp, ?_, ?_, ?_⟩
  · rw [hrot, Told.replay_concat]
    exact hs
  · rw [hrot, Told.replay_concat]
    exact hx
  · rw [hrot]
    exact hcs.concat hk

theorem Recorded.concat {cs : List LeaseChange} (hr : Recorded w h e cs) {k : LeaseChange}
    (hrot : e'.isRotating = e.isRotating)
    (hk : (Told.replay e.isRotating cs).Admits false k)
    (hs : ((Told.replay e.isRotating cs).after e.isRotating k).shown = shownOf e'.snapshot)
    (hx : ((Told.replay e.isRotating cs).after e.isRotating k).expiring = true ↔ Losing w' h) :
    Recorded w' h e' (cs ++ [k]) := by
  have hne : cs.isEmpty = false := by
    rw [← Bool.not_eq_true, List.isEmpty_iff]
    exact hr.begun
  exact recorded_concat hr.consistent hrot (hne ▸ hk) hs hx

/-- Nothing is told. -/
theorem Recorded.silent {cs : List LeaseChange} (hr : Recorded w h e cs)
    (hs : e'.snapshot = e.snapshot) (hrot : e'.isRotating = e.isRotating)
    (hl : Losing w' h ↔ Losing w h) : Recorded w' h e' cs :=
  ⟨hr.begun, by rw [hrot, hs]; exact hr.shown, by rw [hrot, hl]; exact hr.expiring,
    hrot ▸ hr.consistent⟩

theorem Recorded.not_expiring {cs : List LeaseChange} (hr : Recorded w h e cs) (hl : ¬ Losing w h) :
    (Told.replay e.isRotating cs).expiring = false := by
  rwa [← hr.expiring, Bool.not_eq_true] at hl

theorem Recorded.names {cs : List LeaseChange} (hr : Recorded w h e cs) {lease : Lease}
    (hn : Names e.snapshot lease) : (Told.replay e.isRotating cs).Names lease := by
  unfold Told.Names
  unfold Names at hn
  rw [hr.shown]
  generalize e.snapshot = s at hn ⊢
  cases s <;> exact hn

theorem Recorded.shows {cs : List LeaseChange} (hr : Recorded w h e cs) {r : Snapshot} {a : Action}
    (hs : Suits w e r a) : (Told.replay e.isRotating cs).shown = some (r.lease, r.data) := by
  rw [hr.shown, hs.1]
  rfl

/-- What a fetch tells that brought nothing fits what was told of the lease before. -/
theorem admits_of_misses {t : Told} {previous : Lease} {k : LeaseChange} (hk : Misses previous k)
    (ht : t.Names previous) (first : Bool) : t.Admits first k := by
  cases hk with
  | notFound => trivial
  | failed => exact ht

theorem after_of_misses (rotating : Bool) (t : Told) {previous : Lease} {k : LeaseChange}
    (hk : Misses previous k) : t.after rotating k = if t.expiring then .nothing else t := by
  cases hk <;> rfl

/-- Something has failed, and the snapshot stays. -/
theorem Recorded.misses {cs : List LeaseChange} (hr : Recorded w h e cs) (hl : ¬ Losing w h)
    {previous : Lease} {k : LeaseChange} (hk : Misses previous k) (hn : Names e.snapshot previous)
    (hs : e'.snapshot = e.snapshot) (hrot : e'.isRotating = e.isRotating) (hl' : ¬ Losing w' h) :
    Recorded w' h e' (cs ++ [k]) := by
  have hsame : (Told.replay e.isRotating cs).after e.isRotating k = Told.replay e.isRotating cs := by
    rw [after_of_misses _ _ hk, hr.not_expiring hl]
    rfl
  refine hr.concat hrot (admits_of_misses hk (hr.names hn) false) ?_ ?_
  · rw [hsame, hs]
    exact hr.shown
  · rw [hsame, hr.not_expiring hl]
    exact iff_of_false (by decide) hl'

/-- The lease of a secret is lost that is fetched again. -/
theorem Recorded.loses {cs : List LeaseChange} (hr : Recorded w h e cs) {r : Snapshot} {a : Action}
    (hsuits : Suits w e r a) (hrt : e.isRotating = true) (hs : e'.snapshot = e.snapshot)
    (hrot : e'.isRotating = e.isRotating) (hl : Losing w' h) :
    Recorded w' h e' (cs ++ [.expired r.lease]) := by
  have hshown := hr.shown
  refine hr.concat hrot ⟨rfl, _, hr.shows hsuits⟩ ?_ ?_
  · rw [hs]
    rw [hrt] at hshown ⊢
    exact hshown
  · rw [hrt]
    exact iff_of_true rfl hl

/-- The lease of a secret is lost that is not fetched again. -/
theorem Recorded.drops {cs : List LeaseChange} (hr : Recorded w h e cs) {r : Snapshot} {a : Action}
    (hsuits : Suits w e r a) (hrt : e.isRotating = false) (hs : e'.snapshot = none)
    (hrot : e'.isRotating = e.isRotating) (hl : ¬ Losing w' h) :
    Recorded w' h e' (cs ++ [.expired r.lease]) := by
  have hgone : ∀ t : Told, t.after e.isRotating (.expired r.lease) = .nothing := fun t => by
    rw [hrt]
    rfl
  refine hr.concat hrot ⟨rfl, _, hr.shows hsuits⟩ ?_ ?_
  · rw [hgone, hs]
    rfl
  · rw [hgone]
    exact iff_of_false (by decide) hl

/-! ## Who fetches a lost secret again -/

/-- Whoever gets on with an entry is the one that fetches it again, if anybody does. -/
theorem Losing.own (hl : Losing w h) (ho : Orderly w) (he : w.face? h = some e) {l : List Nat}
    (hq : Queues w op h e.lock l p) (hp : ∀ q, p = some q → q.holds? = some h) :
    ∃ previous, w.point? op = some (.rotating h previous .loss) := by
  obtain ⟨a, previous, ha⟩ := hl
  have hop := ho.alone he hq hp ha rfl
  exact ⟨previous, hop ▸ ha⟩

theorem losing_iff (ho : Orderly w) {face : Option Entry} (hf : Frame c w w' op h face p added care n)
    (he : w.face? h = some e) {l : List Nat} (hq : Queues w op h e.lock l p)
    (hp : ∀ q, p = some q → q.holds? = some h) :
    Losing w' h ↔ ∃ previous, p = some (.rotating h previous .loss) := by
  constructor
  · rintro ⟨a, previous, ha⟩
    by_cases hop : a = op
    · subst hop
      exact ⟨previous, hf.point.symm.trans ha⟩
    · exact absurd (ho.alone he hq hp (hf.points a hop ▸ ha) rfl) hop
  · rintro ⟨previous, rfl⟩
    exact ⟨op, previous, hf.point⟩

/-- Whoever gets the lock was not fetching a lost secret. -/
theorem World.Gets.not_loss (ho : Orderly w) {errand : Errand} (hg : Gets w op h e errand care)
    (previous : Lease) : w.point? op ≠ some (.rotating h previous .loss) := fun hp => by
  cases hg with
  | comes hg => cases (ho.point?_of_comes hg).symm.trans hp
  | enters hq => cases hq.symm.trans hp

/-- The events about a registered entry that an operation works on stay a log of its snapshot. -/
theorem recorded_of_works (ho : Orderly w) (ht : Tended w h e) (hst : e.standing = .registered)
    (hr : Recorded w h e (w.changes h)) {l : List Nat}
    (hf : Frame c w w' op h (some { e with snapshot := s, lock := l, standing := .registered }) p
      added care n)
    (he : w.face? h = some e) (hq : Queues w op h e.lock l p)
    (hk : Works w op h e s st p added care n) :
    Recorded w' h { e with snapshot := s, lock := l, standing := .registered }
      (w.changes h ++ added) := by
  have hrot : Entry.isRotating { e with snapshot := s, lock := l, standing := .registered } =
    e.isRotating := rfl
  -- Nobody fetches the lost secret before, if it is not the operation, and afterwards, likewise.
  have hbefore : (∀ q, p = some q → q.holds? = some h) →
      (∀ previous, w.point? op ≠ some (.rotating h previous .loss)) → ¬ Losing w h :=
    fun hp hno hl => by
      obtain ⟨previous, hpo⟩ := hl.own ho he hq hp
      exact hno previous hpo
  have hafter : (∀ q, p = some q → q.holds? = some h) →
      (Losing w' h ↔ ∃ previous, p = some (.rotating h previous .loss)) :=
    losing_iff ho hf he hq
  have hended : p = none → ¬ Losing w' h := fun hp hl => by
    obtain ⟨previous, hq⟩ := (hafter (fun q hq => by cases hp.symm.trans hq)).mp hl
    cases hp.symm.trans hq
  have hstays : ∀ {q}, p = some q → q.holds? = some h →
      (∀ previous, q ≠ .rotating h previous .loss) → ¬ Losing w' h := fun {q} hp hh hne hl => by
    obtain ⟨previous, hq⟩ := (hafter (fun q' hq => by cases hp.symm.trans hq; exact hh)).mp hl
    exact hne previous (Option.some.inj (hp.symm.trans hq))
  generalize w.changes h = cs at hr ⊢
  cases hk with
  | joins hg =>
    rw [List.append_nil]
    refine hr.silent rfl hrot (exists_congr fun a => exists_congr fun previous => ?_)
    by_cases ha : a = op
    · subst ha
      rw [hf.point, ho.point?_of_comes hg]
      simp
    · rw [hf.points a ha]
  | passes hg _ =>
    have hl := hbefore (fun _ hq => by cases hq) (hg.not_loss ho)
    rw [List.append_nil]
    exact hr.silent rfl hrot (iff_of_false (hended rfl) hl)
  | asksAgain hg _ =>
    have hl := hbefore (fun _ hq => by cases hq; rfl) (hg.not_loss ho)
    rw [List.append_nil]
    exact hr.silent rfl hrot (iff_of_false (hstays rfl rfl fun _ => by simp) hl)
  | renews hg _ =>
    have hl := hbefore (fun _ hq => by cases hq; rfl) (hg.not_loss ho)
    rw [List.append_nil]
    exact hr.silent rfl hrot (iff_of_false (hstays rfl rfl fun _ => by simp) hl)
  | loses hg hc hrt =>
    have hlosing : Losing w' h := (hafter fun q hq => by cases hq; rfl).mpr ⟨_, rfl⟩
    exact hr.loses (ht.suits hg hc) hrt rfl hrot hlosing
  | drops hg hc hrt => exact hr.drops (ht.suits hg hc) hrt rfl hrot (hended rfl)
  | registers hp _ _ | registersBare hp _ => exact absurd hp (ho.not_registering he hst)
  | @renewed r r' since _ hp _ hdata _ =>
    have hsuits : Suits w e r .renew := ht.points op _ hp rfl
    have hl := hbefore (fun _ hq => by cases hq) fun _ hq => by cases hp.symm.trans hq
    refine hr.concat hrot ⟨rfl, _, hr.shows hsuits⟩ ?_ ?_
    · show Option.map _ _ = some (r'.lease, r'.data)
      rw [hr.shows hsuits, hdata]
      rfl
    · exact iff_of_false (by rw [Told.after, hr.not_expiring hl]; decide) (hended rfl)
  | @retained r since f hp =>
    have hsuits : Suits w e r .renew := ht.points op _ hp rfl
    have hl := hbefore (fun _ hq => by cases hq) fun _ hq => by cases hp.symm.trans hq
    exact hr.misses hl .failed hsuits.names rfl hrot (hended rfl)
  | @failsAndLoses r since f hp hrt =>
    have hsuits : Suits w e r .renew := ht.points op _ hp rfl
    have hl := hbefore (fun _ hq => by cases hq; rfl) fun _ hq => by cases hp.symm.trans hq
    have hlosing : Losing w' h := (hafter fun q hq => by cases hq; rfl).mpr ⟨_, rfl⟩
    rw [List.append_cons]
    exact (hr.misses hl .failed hsuits.names rfl rfl hl).loses hsuits hrt rfl hrot hlosing
  | @failsAndDrops r since f hp hrt =>
    have hsuits : Suits w e r .renew := ht.points op _ hp rfl
    have hl := hbefore (fun _ hq => by cases hq) fun _ hq => by cases hp.symm.trans hq
    rw [List.append_cons]
    exact (hr.misses hl .failed hsuits.names rfl rfl hl).drops hsuits hrt rfl hrot (hended rfl)
  | rotated hp _ _ =>
    have hfits := ht.points op _ hp rfl
    exact hr.concat hrot ⟨rfl, hr.names hfits.1⟩ rfl (iff_of_false (by simp [Told.after]) (hended rfl))
  | refused hp hm =>
    have hfits := ht.points op _ hp rfl
    have hl := hbefore (fun _ hq => by cases hq) fun _ hq => by cases hp.symm.trans hq
    exact hr.misses hl hm hfits.1 rfl hrot (hended rfl)
  | @lost previous k hp hm =>
    have hfits := ht.points op _ hp rfl
    have hgone : (Told.replay e.isRotating cs).after e.isRotating k = .nothing := by
      rw [after_of_misses _ _ hm, hr.expiring.mpr ⟨op, _, hp⟩]
      rfl
    refine hr.concat hrot (admits_of_misses hm (hr.names hfits.1) false) ?_ ?_
    · rw [hgone]
      rfl
    · rw [hgone]
      exact iff_of_false (by decide) (hended rfl)

/-- What the first fetch of a secret brought is told first. -/
theorem recorded_of_first (ho : Orderly w) (ht : Tends w) (hp : w.point? op = some (.registering h))
    {l : List Nat}
    (hf : Frame c w w' op h (some { e with snapshot := s, lock := l, standing := .registered }) none
      added care n)
    (he : w.face? h = some e) (hq : Queues w op h e.lock l none)
    (hk : Works w op h e s st none added care n) :
    Recorded w' h { e with snapshot := s, lock := l, standing := .registered }
      (w.changes h ++ added) := by
  have hpend := (ho.calm.pending op _ h e hp rfl he).mpr rfl
  have hl : ¬ Losing w' h := fun hl => by
    obtain ⟨_, hn⟩ := (losing_iff ho hf he hq fun _ hq => by cases hq).mp hl
    cases hn
  rw [(ht.pending h e he hpend).2]
  rcases ho.first_of_works he hp hk with ⟨r, rfl, -, rfl, -, -⟩ | ⟨t, k, rfl, rfl, hm, -, -⟩
  · exact recorded_concat (e := e) (consistent_nil _) rfl rfl rfl
      (iff_of_false (by simp [Told.after]) hl)
  · have hsame : Told.nothing.after e.isRotating k = Told.nothing := after_of_misses _ _ hm
    have hnames : Told.nothing.Names (Lease.absent t) := ⟨t, rfl⟩
    refine recorded_concat (e := e) (consistent_nil _) rfl (admits_of_misses hm hnames true) ?_ ?_
    · rw [show Told.replay e.isRotating [] = Told.nothing from rfl, hsame]
      rfl
    · rw [show Told.replay e.isRotating [] = Told.nothing from rfl, hsame]
      exact iff_of_false (by decide) hl

/-- The events about every registered secret are a log of its snapshot. -/
def AllRecorded (w : World) : Prop :=
  ∀ h e, w.face? h = some e → e.standing = .registered → Recorded w h e (w.changes h)

/-- Who fetches other secrets again does not change when an operation gets on with one. -/
theorem losing_of_frame {face : Option Entry} (hf : Frame c w w' op h face p added care n)
    (hwant : ∀ q, w.point? op = some q → q.wants? = some h)
    (hpoint : ∀ q, p = some q → q.wants? = some h) {k : Handle} (hk : k ≠ h) :
    Losing w' k ↔ Losing w k := by
  refine exists_congr fun a => exists_congr fun previous => ?_
  by_cases ha : a = op
  · subst ha
    refine iff_of_false (fun hq => hk ?_) fun hq => hk ?_
    · have hwk : (Point.rotating k previous .loss).wants? = some h := hpoint _ (hf.point ▸ hq)
      exact Option.some.inj hwk
    · have hwk : (Point.rotating k previous .loss).wants? = some h := hwant _ hq
      exact Option.some.inj hwk
  · rw [hf.points a ha]

/-- As long as an engine is not shut down, every turn keeps the log. -/
theorem allRecorded_of_advance (ho : Orderly w) (ht : Tends w) (hr : AllRecorded w)
    (ha : Advance w w') : AllRecorded w' := by
  intro k f hk hst
  cases ha with
  | rests hq =>
    rw [hq.changes]
    refine (hr k f (hq.faces k ▸ hk) hst).silent rfl rfl ?_
    exact exists_congr fun a => exists_congr fun previous => by rw [hq.points a]
  | @acts op h face p added care n hf hd =>
    by_cases hkh : k = h
    · subst hkh
      have hface := hf.face.symm.trans hk
      rw [hf.change]
      cases hd with
      | adds _ _ _ hp _ _ =>
        cases hface
        cases hp.symm.trans hst
      | forgets _ => cases hface
      | removes _ _ _ _ _ _ =>
        cases hface
        cases hst
      | works he hne hq hwk =>
        obtain ⟨rfl, hs | ⟨hp, rfl⟩⟩ := ho.standing_of_works he hne hwk
        · cases hface
          exact recorded_of_works ho (ht.registered k _ he hs) hs (hr k _ he hs) hf he hq hwk
        · cases hface
          exact recorded_of_first ho ht hp hf he hq hwk
    · rw [hf.changes k hkh]
      refine (hr k f (hf.faces k hkh ▸ hk) hst).silent rfl rfl ?_
      exact losing_of_frame hf (fun q => ho.wants_of_deed hd) (fun q => ho.wants_after_deed hd) hkh

/-! ## Runs -/

/-- Replaying the events about a registered secret gives its snapshot, and every event fits what
the ones before it told. -/
theorem record_of_run {settings : Settings} {d : Discipline} {draws : Nat → Nat} {ms : List Move}
    (hrun : run? (initial settings d draws) ms = some w) (hd : w.destroyed = false)
    (he : w.registered? h = some e) :
    (Told.replay e.isRotating (w.changes h)).shown = shownOf (w.snapshot? h) ∧
      w.changes h ≠ [] ∧ Consistent e.isRotating (w.changes h) := by
  obtain ⟨-, -, hr⟩ := run?_keeps_open (P := AllRecorded) hrun hd
    (fun _ _ hf => by cases hf) fun ho ht hr _ ha => allRecorded_of_advance ho ht hr ha
  obtain ⟨hentry, hst⟩ := registered?_some he
  have hrec := hr h _ (face?_some hentry) hst
  refine ⟨?_, hrec.begun, hrec.consistent⟩
  rw [snapshot?, he]
  exact hrec.shown

/-- A secret's lease is lost, it is not found when it is fetched again, and somebody fetches it once
more. -/
def recovering : List Move :=
  [.begin (.add ⟨"path", .rotating⟩ "kv"), .answer 0 (.fetched (.ok (some minuteSecret))),
    .fireNext, .answer 1 (.renewal (.error (.notFound "lease"))), .answer 1 (.fetched (.ok none)),
    .begin (.rotate ⟨1⟩), .answer 2 (.fetched (.ok (some minuteSecret)))]

/-- Its events tell the last snapshot; in between they told of none. -/
theorem record_of_recovering :
    ∃ w e, run? early recovering = some w ∧ w.destroyed = false ∧ w.registered? ⟨1⟩ = some e ∧
      w.changes ⟨1⟩ = [.created minuteSecret.lease minuteSecret.data,
        .failed minuteSecret.lease (.notFound "lease"), .expired minuteSecret.lease, .notFound,
        .rotated (.absent .start) minuteSecret.lease minuteSecret.data] ∧
      (Told.replay true (w.changes ⟨1⟩)).shown = some (minuteSecret.lease, minuteSecret.data) ∧
      Consistent true (w.changes ⟨1⟩) := by
  refine ⟨_, _, rfl, rfl, rfl, rfl, ?_⟩
  have hrun : run? early recovering = some _ := rfl
  obtain ⟨hshown, -, hfits⟩ := record_of_run hrun rfl (h := ⟨1⟩) rfl
  exact ⟨hshown, hfits⟩

end LeaseKeeper.Leases
