import LeaseKeeper.Proofs.Leases.Care
import LeaseKeeper.Proofs.Leases.Partings

/-!
# Removing a secret

A secret is removed once, whatever is under way for it: the first removal that comes finds it and
all others find nothing, nothing is fetched or renewed for it any more, no task of it is left,
and its lease is given back at most once, by that removal, and it is the one that was granted
last (`closed_once`). Runs are followed with what their moves bring (`gather`), the leases
that are granted (`grants`) and the removals that come (`removals`).
-/

namespace LeaseKeeper.Leases

open World

/-! ## What the moves of a run bring -/

section gather

variable {α : Type} (f : World → Move → Option α)

/-- What the moves of a run bring, in order. -/
def gather (w : World) : List Move → List α
  | [] => []
  | m :: ms =>
    (f w m).toList ++
      match step w m with
      | some u => gather u ms
      | none => []

theorem gather_cons {w u : World} {m : Move} (ms : List Move) (hs : step w m = some u) :
    gather f w (m :: ms) = (f w m).toList ++ gather f u ms := by
  rw [gather, hs]

theorem gather_concat {w u : World} {ms : List Move} (m : Move) (hrun : run? w ms = some u) :
    gather f w (ms ++ [m]) = gather f w ms ++ (f u m).toList := by
  induction ms generalizing w with
  | nil =>
    cases hrun
    rw [List.nil_append, gather, gather, List.nil_append]
    cases step u m <;> exact List.append_nil _
  | cons k ms ih =>
    obtain ⟨v, hv, hrun⟩ := Option.bind_eq_some_iff.mp hrun
    rw [List.cons_append, gather_cons f _ hv, gather_cons f _ hv, ih hrun, List.append_assoc]

end gather

/-- The leases that are granted to a secret in a run, in order. -/
def grants (h : Handle) (w : World) (ms : List Move) : List Lease := gather (·.grant? h ·) w ms

/-- The operations that come to remove a secret in a run, in order. -/
def removals (h : Handle) (w : World) (ms : List Move) : List Nat := gather (·.removal? h ·) w ms

variable {w w' u v : World} {m : Move} {ms : List Move} {h : Handle} {e : Entry}
  {x : Option Lease} {y : Option (Nat × Remover)} {a : Nat} {r : Remover}

/-! ## Following a run -/

/-- A run of moves, one after the other. -/
theorem run?_cons (h : run? w (m :: ms) = some v) :
    ∃ u, step w m = some u ∧ Turn w m u ∧ run? u ms = some v := by
  obtain ⟨u, hu, h⟩ := Option.bind_eq_some_iff.mp h
  exact ⟨u, hu, turn_of_step hu, h⟩

/-- What was granted last in a run of one more move. -/
theorem getLast?_grants (ms : List Move) (hs : step w m = some u) (x : Option Lease) :
    (grants h w (m :: ms)).getLast?.or x = (grants h u ms).getLast?.or ((w.grant? h m).or x) := by
  rw [grants, gather_cons _ ms hs, List.getLast?_append, Option.or_assoc, grants]
  cases w.grant? h m <;> rfl

theorem Sound.of_run (hw : Sound w) (hrun : run? w ms = some v) : Sound v :=
  run?_keeps Sound.of_turn hw hrun

/-- Whatever happens, an engine that was shut down stays so. -/
theorem destroyed_of_step (hd : w.destroyed = true) (hs : step w m = some u) :
    u.destroyed = true := by
  by_contra hno
  cases hd.symm.trans (destroyed_of_turn (turn_of_step hs) (by simpa using hno))

theorem destroyed_of_run (hd : w.destroyed = true) (hrun : run? w ms = some v) :
    v.destroyed = true := by
  induction ms generalizing w with
  | nil => cases hrun; exact hd
  | cons m ms ih =>
    obtain ⟨u, hu, -, hrun⟩ := run?_cons hrun
    exact ih (destroyed_of_step hd hu) hrun

theorem open_of_run (hrun : run? w ms = some v) (hd : v.destroyed = false) : w.destroyed = false := by
  by_contra hno
  cases hd.symm.trans (destroyed_of_run (by simpa using hno) hrun)

/-- What happened stays in the history. -/
theorem history_of_run (hw : Sound w) (hrun : run? w ms = some v) :
    ∃ hs, v.history = hs ++ w.history := by
  induction ms generalizing w with
  | nil =>
    cases hrun
    exact ⟨[], rfl⟩
  | cons m ms ih =>
    obtain ⟨u, -, ht, hrun⟩ := run?_cons hrun
    obtain ⟨hs, hh, -⟩ := news_of_act hw (act_of_turn hw ht)
    obtain ⟨hs', hh'⟩ := ih (hw.of_turn ht) hrun
    exact ⟨hs' ++ hs, by rw [hh', hh, List.append_assoc]⟩

theorem Concluded.of_run {o : Outcome} (hc : Concluded w a o) (hw : Sound w)
    (hrun : run? w ms = some v) : Concluded v a o := by
  induction ms generalizing w with
  | nil => cases hrun; exact hc
  | cons m ms ih =>
    obtain ⟨u, -, ht, hrun⟩ := run?_cons hrun
    exact ih (hc.of_act hw (act_of_turn hw ht)) (hw.of_turn ht) hrun

/-- Whoever removes a secret in a run is still the one in the end, and what is to be given back is
what was granted last, unless its lease was lost before anybody removed it and before the engine
was shut down. -/
theorem stage_of_run (hw : Sound w) (hs : Stage w h y x) (hrun : run? w ms = some v) :
    ∃ y' x', Stage v h y' x' ∧ (∀ p, y = some p → y' = some p) ∧
      (x' = (grants h w ms).getLast?.or x ∨ w.destroyed = false ∧ y = none ∧ x' = none) := by
  induction ms generalizing w y x with
  | nil =>
    cases hrun
    exact ⟨y, x, hs, fun _ hp => hp, .inl rfl⟩
  | cons m ms ih =>
    obtain ⟨u, hu, ht, hrun⟩ := run?_cons hrun
    obtain ⟨y', x', hs', hfol, hcar⟩ := stage_of_act hw hs (act_of_turn hw ht)
    obtain ⟨y'', x'', hs'', hkeep, hlast⟩ := ih (hw.of_turn ht) hs' hrun
    have hopen : u.destroyed = false → w.destroyed = false := destroyed_of_turn ht
    have hnone : y' = none → y = none := fun hy' => by
      cases hfol with
      | stays _ => exact hy'
      | comes _ _ => rfl
      | late _ => rfl
    refine ⟨y'', x'', hs'', fun p hp => hkeep p ?_, ?_⟩
    · cases hfol with
      | stays _ => exact hp
      | comes | late => cases hp
    · rw [getLast?_grants ms hu]
      rcases hlast with rfl | ⟨hd, hy', rfl⟩
      · rcases hcar with rfl | ⟨hd, -, hy', rfl⟩
        · exact .inl rfl
        · -- What was lost is lost until something new is granted.
          cases hg : (grants h u ms).getLast? with
          | none => exact .inr ⟨hd, hnone hy', rfl⟩
          | some l => exact .inl rfl
      · exact .inr ⟨hopen hd, hnone hy', rfl⟩

/-- Removals that come for a secret that is being removed find nothing. -/
theorem missed_of_run (hw : Sound w) (hs : Stage w h (some (a, r)) x) (hrun : run? w ms = some v) :
    ∀ b ∈ removals h w ms, Concluded v b (.removed false) := by
  induction ms generalizing w x with
  | nil => exact fun b hb => by cases hb
  | cons m ms ih =>
    obtain ⟨u, hu, ht, hrun⟩ := run?_cons hrun
    have ha := act_of_turn hw ht
    obtain ⟨y', x', hs', hfol, -⟩ := stage_of_act hw hs ha
    obtain rfl : y' = some (a, r) := by cases hfol; rfl
    intro b hb
    rw [removals, gather_cons _ ms hu, List.mem_append, Option.mem_toList] at hb
    rcases hb with hb | hb
    · have hno : ∀ e, w.face? h = some e → e.standing ≠ .registered := fun e he hreg => by
        cases (hs.of_standing he (by rw [hreg]; decide)).1
      exact (missed_of_act ha hno hb).of_run (hw.of_turn ht) hrun
    · exact ih (hw.of_turn ht) hs' hrun b hb

/-- The first removal that comes for a registered secret removes it, and the others find nothing. -/
theorem removal_of_run (hw : Sound w) (hs : Stage w h none x) (he : w.face? h = some e)
    (hreg : e.standing = .registered) (hrun : run? w ms = some v) :
    (removals h w ms = [] → ∃ e, v.face? h = some e ∧ e.standing = .registered) ∧
    ∀ a rest, removals h w ms = a :: rest → ∃ r x', r ≠ .registration ∧ Stage v h (some (a, r)) x' ∧
      ∀ b ∈ rest, Concluded v b (.removed false) := by
  induction ms generalizing w x e with
  | nil =>
    cases hrun
    exact ⟨fun _ => ⟨e, he, hreg⟩, fun _ _ hb => by cases hb⟩
  | cons m ms ih =>
    obtain ⟨u, hu, ht, hrun⟩ := run?_cons hrun
    have ha := act_of_turn hw ht
    obtain ⟨y', x', hs', hfol, -⟩ := stage_of_act hw hs ha
    rw [removals, gather_cons _ ms hu]
    cases hfol with
    | stays hno =>
      have hnone : w.removal? h m = none := Option.eq_none_iff_forall_ne_some.mpr fun a ha =>
        hno rfl e a he hreg ha
      obtain ⟨e', he', hne⟩ := known_of_act hw ha he (by rw [hreg]; decide)
      have hreg' : e'.standing = .registered := by
        cases hst : e'.standing with
        | pending => exact absurd hst hne
        | registered => rfl
        | removed =>
          cases hs' with
          | early hne' _ _ => exact absurd hst (hne' e' he')
      rw [hnone]
      exact ih (hw.of_turn ht) hs' he' hreg' hrun
    | comes hr hne =>
      rw [hr]
      refine ⟨fun hnil => (by cases hnil), fun b rest hb => ?_⟩
      cases hb
      obtain ⟨y'', x'', hs'', hkeep, -⟩ := stage_of_run (hw.of_turn ht) hs' hrun
      obtain rfl := hkeep _ rfl
      exact ⟨_, _, hne, hs'', missed_of_run (hw.of_turn ht) hs' hrun⟩
    | late hq => cases ((hw.pending _ _ h e hq rfl he).mpr rfl).symm.trans hreg

/-- What is given back of what was granted last: nothing if the server gave it no name. -/
def due (granted : Option Lease) : List Lease := (granted.filter Lease.hasId).toList

/-- Whoever stands nowhere any more has ended the removal. -/
theorem Stage.concluded (hs : Stage w h (some (a, r)) x) (hq : w.point? a = none) :
    Concluded w a (r.verdict true) := by
  cases hs with
  | waits _ _ hq' _ _ | returns _ _ _ hq' _ _ => cases hq.symm.trans hq'
  | gone _ _ _ _ _ hc => exact hc

/-- What whoever has ended the removal gave back. -/
theorem Stage.revocations_of_ended (hs : Stage w h (some (a, r)) x) (hq : w.point? a = none) :
    w.revocations h = (due x).map (a, ·) := by
  cases hs with
  | waits _ _ hq' _ _ | returns _ _ _ hq' _ _ => cases hq.symm.trans hq'
  | gone _ _ _ _ hr _ => exact hr

/-- After a secret was removed, a run tells of it at most how its lease was given back. -/
theorem told_of_run (hw : Sound w) (hs : Stage w h (some (a, r)) x) (hrun : run? w ms = some v) :
    ∃ ks, v.history = ks ++ w.history ∧ (∀ b c, .called b h c ∈ ks → ∃ l, c = .revoke l) ∧
      (ks.filterMap (Happening.change? h) = [] ∨
        w.point? a ≠ none ∧ ∃ c, ks.filterMap (Happening.change? h) = [c] ∧ Returned c) := by
  induction ms generalizing w x with
  | nil =>
    cases hrun
    exact ⟨[], rfl, fun _ _ hx => (by cases hx), .inl rfl⟩
  | cons m ms ih =>
    obtain ⟨u, hu, ht, hrun⟩ := run?_cons hrun
    have ha := act_of_turn hw ht
    obtain ⟨y', x', hs', hfol, -⟩ := stage_of_act hw hs ha
    obtain rfl : y' = some (a, r) := by cases hfol; rfl
    obtain ⟨ks, hh, hcalls, htold⟩ := told_of_act hw hs ha
    obtain ⟨ks', hh', hcalls', htold'⟩ := ih (hw.of_turn ht) hs' hrun
    refine ⟨ks' ++ ks, by rw [hh', hh, List.append_assoc], fun b c hx => ?_, ?_⟩
    · exact (List.mem_append.mp hx).elim (hcalls' b c) (hcalls b c)
    · rw [List.filterMap_append]
      rcases htold with hnil | ⟨hq, hc, htold⟩
      · rw [hnil, List.append_nil]
        refine htold'.imp_right fun ⟨hq, htold⟩ => ⟨fun hn => hq ?_, htold⟩
        exact ((hs.concluded hn).of_act hw ha).gone
      · -- The removal has ended, so nothing more is told.
        have hnil : ks'.filterMap (Happening.change? h) = [] :=
          htold'.resolve_right fun hq => hq.1 hc.gone
        rw [hnil]
        exact .inr ⟨hq, htold⟩

/-! ## Who is served next -/

/-- An operation stands in the queue of an entry whose head can go on. -/
def Attended (w : World) (h : Handle) (a : Nat) : Prop :=
  ∃ e b m u, w.entry? h = some e ∧ a ∈ e.lock ∧ e.lock.head? = some b ∧
    (m = .enter b ∨ ∃ r, m = .answer b r) ∧ step w m = some u

theorem attended (hw : Sound w) {q : Point} (hq : w.point? a = some q) (hk : q.wants? = some h) :
    Attended w h a := by
  obtain ⟨e, hentry, -, he, -⟩ := entry_of_point hw hq hk
  have hmem : a ∈ e.lock := (hw.mem_lock h _ he a).mpr ⟨q, hq, hk⟩
  obtain ⟨b, hb⟩ : ∃ b, e.lock.head? = some b := by
    cases hl : e.lock with
    | nil => rw [hl] at hmem; cases hmem
    | cons b l => exact ⟨b, rfl⟩
  obtain ⟨q', hq', hk'⟩ := (hw.mem_lock h _ he b).mp (List.mem_of_mem_head? hb)
  have hanswer : ∀ r, (w.answer b r).isSome = true → Attended w h a := fun r hu => by
    obtain ⟨u, hu⟩ := Option.isSome_iff_exists.mp hu
    exact ⟨e, b, .answer b r, u, hentry, hmem, hb, .inr ⟨r, rfl⟩, hu⟩
  cases q' with
  | registering k => exact hanswer (.fetched (.ok none)) (by simp [answer, hq'])
  | queued k errand =>
    cases hk'
    obtain ⟨u, hu⟩ : ∃ u, step w (.enter b) = some u := Option.isSome_iff_exists.mp (by
      simp [step, enter, hq', hentry, hb])
    exact ⟨e, b, .enter b, u, hentry, hmem, hb, .inl rfl, hu⟩
  | renewing k s t => exact hanswer (.renewal (.ok s.lease)) (by simp [answer, hq'])
  | rotating k l c => exact hanswer (.fetched (.ok none)) (by simp [answer, hq'])
  | revoking k s r => exact hanswer (.revocation (.ok ())) (by simp [answer, hq'])
  | opening k p | joining n => cases hk'

/-! ## Which lease is renewed -/

/-- Who renews has got the lock to renew the snapshot that is installed. -/
theorem Does.renewal {op : Nat} {face : Option Entry} {p : Option Point} {hs : List Happening}
    {care : Care} {g : Option Lease} {rm : Option Nat} (hd : Does w u m op h face p hs care g rm)
    {k : Handle} {l : Lease} {increment : Span} (hx : .called a k (.renew l increment) ∈ hs) :
    ∃ e s care', w.face? h = some e ∧ Serving w op h e ∧ Gets w op h e (.act s .renew) care' ∧
      w.isLive e = true ∧ e.isCurrent s = true ∧ l = s.lease := by
  have htells : ∀ {e ks}, Tells w h e ks → .called a k (.renew l increment) ∉ ks := fun ht hx => by
    obtain ⟨-, _, hx, -⟩ := ht _ hx
    cases hx
  cases hd with
  | renews he hserving hg hl hc _ =>
    obtain ⟨rfl, rfl, hcall⟩ : a = op ∧ k = h ∧ _ := by simpa using hx
    exact ⟨_, _, _, he, hserving, hg, hl, hc, hcall.1⟩
  | registers _ _ _ _ ht | passes _ _ _ _ ht _ | installs _ _ _ _ _ ht _ | fetches _ _ _ _ ht =>
    exact absurd (by simpa using hx) (htells ht)
  | takes _ _ _ ht => cases ht <;> simp at hx
  | _ => simp at hx

/-- A renewal is of the installed lease, which can be renewed and was granted for long enough. -/
theorem renewed_of_run {settings : Settings} {d : Discipline} {draws : Nat → Nat}
    (hrun : run? (initial settings d draws) ms = some w) (hstep : step w m = some u)
    {hs : List Happening} (hh : u.history = hs ++ w.history) {l : Lease} {increment : Span}
    (hx : .called a h (.renew l increment) ∈ hs) :
    ∃ s, w.snapshot? h = some s ∧ s.lease = l ∧ l.hasId = true ∧ l.renewable = true ∧
      settings.trigger.thresholdFor l.ttl < l.ttl := by
  have hw := sound_of_run hrun
  obtain ⟨ks, hks, hall⟩ := news_of_act hw (act_of_turn hw (turn_of_step hstep))
  obtain rfl : hs = ks := List.append_cancel_right (hh.symm.trans hks)
  rcases hall _ hx with ⟨_, _, hx⟩ | ⟨u', op, k, face, p, ks, care, g, rm, hd, hx⟩
  · cases hx
  obtain ⟨-, rfl⟩ := hd.happens.2 _ _ _ hx
  obtain ⟨e, s, care', he, hserving, hg, hl, hc, rfl⟩ := hd.renewal hx
  obtain ⟨hd, hne⟩ : w.destroyed = false ∧ e.standing ≠ .removed := by simpa [isLive] using hl
  have hreg : e.standing = .registered := by
    cases hst : e.standing with
    | pending => exact absurd hst (hw.not_pending he hserving)
    | registered => rfl
    | removed => exact absurd hst hne
  obtain ⟨-, ht, hthr⟩ := run?_keeps_open
    (P := fun v => v.trigger.thresholdFor = settings.trigger.thresholdFor) hrun hd rfl
    fun _ _ hthr _ hadv => by
      cases hadv with
      | rests hq => exact hq.threshold.trans hthr
      | acts hf _ => exact hf.threshold.trans hthr
  obtain ⟨hsnap, -, hduty⟩ := (ht.registered _ e he hreg).suits hg hc
  obtain ⟨hrenew, hlong⟩ : s.lease.canRenew = true ∧
      ¬ s.lease.ttl ≤ w.trigger.thresholdFor s.lease.ttl := by
    by_contra hno
    rw [World.duty, if_neg hno] at hduty
    cases hduty
  obtain ⟨f, hf, rfl⟩ := exists_registered? he hreg
  rw [Lease.canRenew, Bool.and_eq_true] at hrenew
  refine ⟨s, ?_, rfl, hrenew.1, hrenew.2, hthr ▸ ?_⟩
  · rw [snapshot?, hf]
    exact hsnap
  · exact Nat.lt_of_not_le hlong

/-! ## Closing an entry -/

/-- What holds of the removal of a secret to which these leases have been granted so far. -/
structure ClosedOnce (settings : Settings) (w : World) (h : Handle) (granted : List Lease) :
    Prop where
  /-- The server does at most one thing for the secret at a time. -/
  alone : ∀ a b p q, w.point? a = some p → p.holds? = some h → w.point? b = some q →
    q.holds? = some h → a = b
  /-- A renewal is of the installed lease, which can be renewed and was granted for long enough. -/
  renewed : ∀ m u hs a l increment, step w m = some u → u.history = hs ++ w.history →
    .called a h (.renew l increment) ∈ hs → ∃ s, w.snapshot? h = some s ∧ s.lease = l ∧
      l.hasId = true ∧ l.renewable = true ∧ settings.trigger.thresholdFor l.ttl < l.ttl
  /-- Without a removal the secret stays registered. -/
  kept : ∀ e ns v, w.registered? h = some e → run? w ns = some v → removals h w ns = [] →
    ∃ e, v.registered? h = some e
  /-- The first removal finds the secret, be it that it still waits for its turn, and gives its lease
  back; the others find nothing. -/
  removed : ∀ e ns v a rest, w.registered? h = some e → run? w ns = some v →
    removals h w ns = a :: rest → v.registered? h = none ∧
      (v.outcome? a = some (.removed true) ∨ Attended v h a) ∧
      (∀ b ∈ rest, v.outcome? b = some (.removed false)) ∧ ∀ x ∈ v.revocations h, x.1 = a
  /-- Once that removal has ended, what was given back is what was granted last: what the secret
  showed when the removal came, or what came for it since. -/
  returned : ∀ e m ns v a, w.registered? h = some e → w.removal? h m = some a →
    run? w (m :: ns) = some v → v.point? a = none → v.outcome? a = some (.removed true) ∧
      v.revocations h = (due ((grants h w (m :: ns)).getLast?.or (w.shownLease h))).map (a, ·)
  /-- A secret that was removed stays so and has no task; nothing is called for it but that its lease
  is given back, and nothing is told of it but, once, how that went. -/
  closed : ∀ e ns v, w.entry? h = some e → e.standing = .removed → run? w ns = some v →
    v.registered? h = none ∧ v.tasks h = [] ∧ ∃ hs, v.history = hs ++ w.history ∧
      (∀ b c, .called b h c ∈ hs → ∃ l, c = .revoke l) ∧
      ∃ told, v.changes h = w.changes h ++ told ∧ told.length ≤ 1 ∧ ∀ c ∈ told, Returned c
  /-- At most one lease is given back, the one that was granted last. -/
  given : w.revocations h = [] ∨ ∃ a l, w.revocations h = [(a, l)] ∧ granted.getLast? = some l ∧
    l.hasId = true

/-- Nobody registers a secret again that is removed. -/
theorem Stage.unregistered (hs : Stage w h (some (a, r)) x) (hw : Sound w) :
    w.registered? h = none ∧ w.tasks h = [] := by
  obtain ⟨e, he, hrem⟩ := hs.entry
  have hno : ∀ f, w.face? h = some f → f.standing ≠ .registered := fun f hf hreg => by
    cases he.symm.trans hf
    cases hrem.symm.trans hreg
  refine ⟨registered?_eq_none hno, List.eq_nil_iff_forall_not_mem.mpr fun t ht => ?_⟩
  obtain ⟨hl, rfl⟩ := mem_tasks.mp ht
  exact hno e he (hw.working t hl e he)

/-- What is given back is what is to be given back, by the operation that removes the secret. -/
theorem Stage.revocations (hs : Stage w h y x) : w.revocations h = [] ∨
    ∃ a r l, y = some (a, r) ∧ x = some l ∧ w.revocations h = [(a, l)] ∧ l.hasId = true := by
  cases hs with
  | early _ hr _ | waits _ _ _ hr _ => exact .inl hr
  | returns _ _ _ _ hid hr => exact .inr ⟨_, _, _, rfl, rfl, hr, hid⟩
  | @gone a r e x _ _ _ _ hr _ =>
    cases hx : x.filter Lease.hasId with
    | none => exact .inl (by rw [hr, hx]; rfl)
    | some l =>
      obtain ⟨rfl, hid⟩ := Option.filter_eq_some_iff.mp hx
      exact .inr ⟨a, r, l, rfl, rfl, by rw [hr, hx]; rfl, hid⟩

theorem Remover.verdict_of_ne (hr : r ≠ .registration) (found : Bool) :
    r.verdict found = .removed found := by
  cases r with
  | registration => exact absurd rfl hr
  | caller | shutdown _ => rfl

/-- Once a removal has ended, what is given back is what was granted last: what the secret showed when
the removal came, or what came for it since. -/
theorem returned_of_run (hw : Sound w) (hs : Stage w h none x) (hx : x = w.shownLease h)
    (he : w.face? h = some e) (hreg : e.standing = .registered) (hr : w.removal? h m = some a)
    (hrun : run? w (m :: ms) = some v) (hq : v.point? a = none) :
    v.outcome? a = some (.removed true) ∧
      v.revocations h = (due ((grants h w (m :: ms)).getLast?.or (w.shownLease h))).map (a, ·) := by
  obtain ⟨u, hu, ht, hrun⟩ := run?_cons hrun
  obtain ⟨y', x', hs', hfol, hcar⟩ := stage_of_act hw hs (act_of_turn hw ht)
  cases hfol with
  | stays hno => exact absurd hr (hno rfl e a he hreg)
  | late hq => cases ((hw.pending _ _ h e hq rfl he).mpr rfl).symm.trans hreg
  | @comes b r hb hne =>
    obtain rfl : b = a := Option.some.inj (hb.symm.trans hr)
    obtain rfl : x' = (w.grant? h m).or x := hcar.resolve_right fun hlost => by cases hlost.2.2.1
    obtain ⟨y'', x'', hs'', hkeep, hlast⟩ := stage_of_run (hw.of_turn ht) hs' hrun
    obtain rfl := hkeep _ rfl
    obtain rfl := hlast.resolve_right fun hlost => by cases hlost.2.1
    rw [getLast?_grants ms hu, ← hx, ← Remover.verdict_of_ne hne true]
    exact ⟨(hs''.concluded hq).outcome, hs''.revocations_of_ended hq⟩

/-- Whoever has removed a secret has said so, or can still go on. -/
theorem Stage.settled (hs : Stage w h (some (a, r)) x) (hw : Sound w) (hr : r ≠ .registration) :
    w.outcome? a = some (.removed true) ∨ Attended w h a := by
  cases hq : w.point? a with
  | none => exact .inl (Remover.verdict_of_ne hr true ▸ (hs.concluded hq).outcome)
  | some q =>
    refine .inr (attended hw hq ?_)
    cases hs with
    | waits _ _ hq' _ _ | returns _ _ _ hq' _ _ => cases hq.symm.trans hq'; rfl
    | gone _ _ _ _ _ hc => cases hq.symm.trans hc.gone

/-- Nothing begins for a secret after it was removed. -/
theorem closed_of_run (hw : Sound w) (hs : Stage w h (some (a, r)) x) (hrun : run? w ms = some v) :
    v.registered? h = none ∧ v.tasks h = [] ∧ ∃ hs, v.history = hs ++ w.history ∧
      (∀ b c, .called b h c ∈ hs → ∃ l, c = .revoke l) ∧
      ∃ told, v.changes h = w.changes h ++ told ∧ told.length ≤ 1 ∧ ∀ c ∈ told, Returned c := by
  obtain ⟨y', x', hs', hkeep, -⟩ := stage_of_run hw hs hrun
  obtain rfl := hkeep _ rfl
  obtain ⟨ks, hh, hcalls, htold⟩ := told_of_run hw hs hrun
  obtain ⟨hnone, htasks⟩ := hs'.unregistered (hw.of_run hrun)
  refine ⟨hnone, htasks, ks, hh, hcalls, _, changes_append hh h, ?_⟩
  rcases htold with hnil | ⟨-, c, hone, hret⟩
  · rw [hnil]
    exact ⟨Nat.zero_le _, fun _ hc => by cases hc⟩
  · rw [hone]
    exact ⟨Nat.le_refl _, fun k hk => by rw [List.mem_singleton.mp hk]; exact hret⟩

/-- At the beginning of a run nobody removes anything. -/
theorem stage_initial (settings : Settings) (d : Discipline) (draws : Nat → Nat) (h : Handle) :
    Stage (initial settings d draws) h none none :=
  .early (fun _ he => by cases he) rfl rfl

/-- Whatever is under way for a secret, it is removed once: the first removal that comes finds it, all
others find nothing, nothing is done for it afterwards, and the lease that is given back is the one
that was granted last. -/
theorem closed_once {settings : Settings} {d : Discipline} {draws : Nat → Nat}
    (hrun : run? (initial settings d draws) ms = some w) (h : Handle) :
    ClosedOnce settings w h (grants h (initial settings d draws) ms) := by
  have hw := sound_of_run hrun
  obtain ⟨y, x, hs, -, hx⟩ := stage_of_run (sound_initial settings d draws)
    (stage_initial settings d draws h) hrun
  have hregistered : ∀ {e}, w.registered? h = some e → y = none ∧ x = w.shownLease h ∧
      w.face? h = some e.bare ∧ e.bare.standing = .registered := fun {e} he => by
    obtain ⟨hentry, hreg⟩ := registered?_some he
    have hface : w.face? h = some e.bare := face?_some hentry
    obtain ⟨hy, -, hshown⟩ := hs.of_standing hface (by rw [hreg]; decide)
    exact ⟨hy, by rw [hshown, shownLease, hface]; rfl, hface, hreg⟩
  constructor
  case alone => exact fun a b p q ha hp hb hq => hw.holder_unique ha hp hb hq
  case renewed => exact fun m u hs a l increment hstep hh hx => renewed_of_run hrun hstep hh hx
  case kept =>
    intro e ns v he hns hno
    obtain ⟨rfl, -, hface, hreg⟩ := hregistered he
    obtain ⟨f, hf, hreg'⟩ := (removal_of_run hw hs hface hreg hns).1 hno
    obtain ⟨e', he', -⟩ := exists_registered? hf hreg'
    exact ⟨e', he'⟩
  case removed =>
    intro e ns v a rest he hns hb
    obtain ⟨rfl, -, hface, hreg⟩ := hregistered he
    obtain ⟨r, x', hr, hs', hrest⟩ := (removal_of_run hw hs hface hreg hns).2 a rest hb
    have hv := hw.of_run hns
    refine ⟨(hs'.unregistered hv).1, hs'.settled hv hr, fun b hb => (hrest b hb).outcome,
      fun z hz => ?_⟩
    rcases hs'.revocations with hnil | ⟨_, _, l, hy', -, hone, -⟩
    · rw [hnil] at hz
      cases hz
    · cases hy'
      rw [hone] at hz
      rw [List.mem_singleton.mp hz]
  case returned =>
    intro e m ns v a he hr hns hq
    obtain ⟨rfl, hshown, hface, hreg⟩ := hregistered he
    exact returned_of_run hw hs hshown hface hreg hr hns hq
  case closed =>
    intro e ns v he hrem hns
    cases y with
    | some z => exact closed_of_run hw hs hns
    | none =>
      -- As long as nobody removes it, a secret is not removed.
      cases hs with
      | early hne _ _ => exact absurd hrem (hne e.bare (face?_some he))
  case given =>
    rcases hs.revocations with hnil | ⟨a, r, l, -, rfl, hone, hid⟩
    · exact .inl hnil
    · rcases hx with hx | ⟨-, -, hx⟩
      · exact .inr ⟨a, l, hone, by rw [hx, Option.or_none], hid⟩
      · cases hx

/-- A lease of a minute that is granted later. -/
def laterLease : Lease := .granted .start "later" (.ofSeconds 60) true

/-- Somebody looks after a secret, and its renewal is with the server. -/
def atServer : List Move :=
  [.begin (.add ⟨"path", .renewable⟩ "kv"), .answer 0 (.fetched (.ok (some minuteSecret))), .fireNext]

/-- It is removed twice before the server answers. -/
def removedTwice : List Move :=
  [.begin (.remove ⟨1⟩), .begin (.remove ⟨1⟩), .answer 1 (.renewal (.ok laterLease)), .enter 2,
    .answer 2 (.revocation (.ok ()))]

/-- The first removal waits for the renewal and gives back what that has brought; the second finds
nothing. -/
theorem closed_once_while_renewing :
    ∃ w v, run? early atServer = some w ∧ run? w removedTwice = some v ∧
      v.outcome? 2 = some (.removed true) ∧ v.outcome? 3 = some (.removed false) ∧
      v.revocations ⟨1⟩ = [(2, laterLease)] ∧ v.registered? ⟨1⟩ = none := by
  refine ⟨_, _, rfl, rfl, ?_⟩
  have hrun : run? early atServer = some _ := rfl
  have hclosed := closed_once hrun ⟨1⟩
  obtain ⟨hfound, hback⟩ :=
    hclosed.returned _ (.begin (.remove ⟨1⟩)) removedTwice.tail _ 2 rfl rfl rfl rfl
  obtain ⟨hgone, -, hmissed, -⟩ := hclosed.removed _ removedTwice _ 2 [3] rfl rfl rfl
  exact ⟨hfound, hmissed 3 (by simp), hback.trans rfl, hgone⟩

end LeaseKeeper.Leases
