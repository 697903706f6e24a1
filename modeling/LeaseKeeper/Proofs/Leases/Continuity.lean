import LeaseKeeper.Proofs.Leases.Removal
import LeaseKeeper.Proofs.Leases.Service

/-!
# Rotating secrets that are always served

If every fetch of a rotating secret brings it, every lease that is granted to it lasts for longer than
the threshold, and an operation on it has what it needs from the server in less than the lead time, then
from its registration on the secret can always be read, with a lease whose lifetime is not over and
the data that were fetched last (`always_served`). Before the registration nobody can read it
(`Unserved`); the end of the first fetch makes it served, and every step keeps it so (`Served.turn`).
-/

namespace LeaseKeeper.Leases

open World

/-- A secret is not registered yet, and nobody was told that it is. -/
structure Unserved (h : Handle) (w : World) : Prop where
  pending : ∀ e, w.face? h = some e → e.standing = .pending ∧ e.isRotating = true
  unknown : ∀ op, .ended op (.registered h) ∉ w.history

/-- What was fetched for a secret in a run, in order. -/
def fetches (h : Handle) (w : World) (ms : List Move) : List SecretData := gather (·.fetched? h ·) w ms

variable {w w' v start : World} {m : Move} {ms ns : List Move} {op : Nat} {h : Handle} {e f : Entry}
  {s : Snapshot} {t : FixedTrigger} {since since' : Nat → Instant → Prop}

/-! ## Steps that are about no secret -/

theorem Idles.steady (hi : Idles w m w') (ha : w'.isAlive = true) (he : ∀ i, m ≠ .elapse i)
    (hs : m ≠ .stop) : Steady h w w' := by
  have same : ∀ {u : World}, u.now = w.now → u.face? h = w.face? h →
      u.schedule = w.schedule → u.point? = w.point? → Steady h w u := fun hn hface hsch hpt => by
    refine ⟨hn, fun e he => ⟨e, hface.trans he, rfl, rfl, rfl⟩, fun k hk _ => ?_, fun op hop => ?_⟩
    · rwa [hsch] at hk
    · rwa [AtServer, hpt]
  cases hi with
  | elapses => exact absurd rfl (he _)
  | releases => rw [release_of_isAlive ha]; exact same rfl rfl rfl rfl
  | stops => exact absurd rfl hs
  | listens | unlistens => exact same rfl rfl rfl rfl

theorem wantsCare_of_rotating {l : Lease} (hr : e.isRotating = true) (hl : t.threshold < l.ttl) :
    wantsCare e l = true := by
  have hz : l.ttl.isZero = false := by
    rw [Span.lt_def] at hl
    simp only [Span.isZero, beq_eq_false_iff_ne]
    omega
  simp [wantsCare, hz, hr]

/-- Time passes. If nobody is at the server, then nobody wants the entry, and its task is still to
come. -/
theorem Served.elapse {i : Instant} (hs : Served t h since w e s) (hw : Running t w)
    (hf : w.Favours t h (.elapse i)) (hi : w.now ≤ i) (hp : w.isPunctual i = true)
    (hmono : ∀ op a, since op a → since' op a) : Served t h since' { w with now := i } e s := by
  have hdue : ∀ k ∈ w.schedule.live, i ≤ k.due := by
    rw [isPunctual, hw.timed] at hp
    simpa using hp
  refine ⟨hs.face, hs.registered, hs.rotating, hs.snapshot, hs.above,
    fun k hk hh => ⟨hdue k hk, (hs.tasks k hk hh).2⟩, fun hno => ?_,
    fun op hop => (hs.busy op hop).imp fun a ha => ⟨hmono op a ha.1, ha.2⟩⟩
  rcases Nat.eq_or_lt_of_le (show w.now.millis ≤ i.millis from hi) with heq | hlt
  · rw [show i = w.now from congrArg Instant.mk heq.symm]
    exact hs.idle hno
  have hfree : e.lock = [] := by
    by_contra hne
    obtain ⟨a, ha⟩ : ∃ a, e.lock.head? = some a := by
      cases hl : e.lock with
      | nil => exact absurd hl hne
      | cons a l => exact ⟨a, rfl⟩
    obtain ⟨q, hq, hwant⟩ :=
      (hw.orderly.mem_lock h e hs.face a).mp (List.mem_of_mem_head? ha)
    cases q with
    | registering k =>
      cases hwant
      exact hw.orderly.not_registering hs.face hs.registered hq
    | queued k errand =>
      -- Whoever was handed the lock would go on first.
      cases hwant
      obtain ⟨f, hentry, rfl⟩ := Option.map_eq_some_iff.mp hs.face
      have hno := hf.unhurried i a errand rfl hlt hq
      rw [World.enter, hq] at hno
      simp only [hentry] at hno
      rw [if_pos (show f.lock.head? = some a from ha)] at hno
      cases hno
    | renewing k r b | rotating k l cause => exact hno a ⟨_, hq, Option.some.inj hwant⟩
    | revoking k r b =>
      cases hwant
      cases (hw.orderly.calm.leaving a _ h e hq rfl hs.face).symm.trans hs.registered
    | opening | joining => cases hwant
  rcases hw.minded h e s hs.face hs.registered hs.snapshot
    (wantsCare_of_rotating hs.rotating hs.above) with ⟨k, hk, hh⟩ | ⟨a, q, hq, hqm⟩
  · exact (hs.tasks k hk hh).2.mono (hdue k hk)
  · have hmem := (hw.orderly.mem_lock h e hs.face a).mpr ⟨q, hq, Point.wants?_of_minds hqm⟩
    rw [hfree] at hmem
    cases hmem

/-! ## Every step -/

theorem fetched?_eq_none {k : Handle} (hm : w.subject? m = some k) (hk : k ≠ h) :
    w.fetched? h m = none := by
  unfold World.fetched?
  split
  · exact if_neg fun hh => hk (Option.some.inj (hm.symm.trans hh))
  · rfl

theorem Idles.fetched?_eq_none (hi : Idles w m w') : w.fetched? h m = none := by
  cases hi <;> rfl

/-- A step leaves a served secret served, with the data that it fetches or else those before. -/
theorem Served.turn (hw : Running t w) (hw' : Running t w') (hs : Served t h since w e s)
    (hr : t.IsRoomy) (hl : t.lead.IsWhole) (hi : w.now.Counts) (hf : w.Favours t h m)
    (hstep : step w m = some w') (hmono : ∀ op a, since op a → since' op a)
    (hnew : ∀ op, AtServer w' op h → since' op w'.now) :
    ∃ e' s', Served t h since' w' e' s' ∧ s'.data = (w.fetched? h m).getD s.data := by
  have ht := turn_of_step hstep
  have hsteady : Steady h w w' → w.fetched? h m = none →
      ∃ e' s', Served t h since' w' e' s' ∧ s'.data = (w.fetched? h m).getD s.data := fun hst hn => by
    obtain ⟨e', he'⟩ := hs.steady hst hw'.orderly hmono hnew
    exact ⟨e', s, he', by rw [hn]; rfl⟩
  rcases confined_of_turn hw.orderly ht hw'.unlocked hw.alive with ⟨k, hm, op, hx, hop⟩ | ⟨-, hidle⟩
  · by_cases hk : k = h
    · subst hk
      rcases steady_or_fresh hw hs hr hl hi hf ht hw'.alive hm with ⟨hst, hn⟩ | ⟨s', hfresh, hd⟩
      · exact hsteady hst hn
      · obtain ⟨e', he'⟩ := hfresh.served hr hnew
        exact ⟨e', s', he', hd⟩
    · exact hsteady (.of_confined hk hx hop hw.orderly) (fetched?_eq_none hm hk)
  · cases m with
    | elapse i =>
      simp only [step, World.elapse] at hstep
      split at hstep <;> simp only [Option.some.injEq, reduceCtorEq] at hstep
      subst hstep
      rename_i hguard
      exact ⟨e, s, hs.elapse hw hf hguard.1 hguard.2 hmono, rfl⟩
    | stop => exact absurd rfl hf.runs
    | _ => exact hsteady (hidle.steady hw'.alive (by simp) (by simp)) hidle.fetched?_eq_none

/-- Nobody holds a secret that is not registered, but the operation that registers it. -/
theorem Unserved.registering (hu : Unserved h w) (hw : Running t w) {q : Point}
    (hq : w.point? op = some q) (hwant : q.wants? = some h) : q = .registering h := by
  obtain ⟨e, he⟩ := hw.orderly.wanted op q h hq hwant
  exact (hw.orderly.calm.pending op q h e hq hwant he).mp (hu.pending e he).1

/-- A registration that begins leaves its own secret unserved: its first fetch is still to come. -/
theorem Unserved.begin_add {r : SecretRequest} {source : String} (hu : Unserved ⟨w.nextHandle⟩ w)
    (hw : Running t w) (hrot : r.mode = .rotating) :
    Unserved ⟨w.nextHandle⟩ (w.begin (.add r source)) := by
  have henroll := Frame.enroll (c := False) hw.orderly.booked ⟨w.nextHandle⟩
  rw [face?_nextHandle hw.orderly] at henroll
  have hx := (henroll.enlist (e := ⟨⟨w.nextHandle⟩, r, source, none, none, [w.nextOperation], .pending⟩)
    rfl rfl).call ⟨w.nextHandle⟩ (.fetch source r.path) (.registering ⟨w.nextHandle⟩)
  have hmode : r.mode.isRotating = true := by rw [hrot]; rfl
  rw [Leases.begin_add hw.unlocked]
  refine ⟨fun f hf => ?_, fun o ho => ?_⟩
  · cases hx.face.symm.trans hf
    exact ⟨rfl, hmode⟩
  · rcases List.mem_cons.mp ho with ho | ho
    · cases ho
    · exact hu.unknown o ho

theorem Unserved.registered? (hu : Unserved h w) : w.registered? h = none := by
  cases hreg : w.registered? h with
  | none => rfl
  | some e =>
    obtain ⟨he, hst⟩ := registered?_some hreg
    cases hst.symm.trans (hu.pending _ (face?_some he)).1

/-- Whoever asks for another fetch of a secret that is not registered is refused at once. -/
theorem Unserved.begin_rotate (hu : Unserved h w) (hw : Running t w) :
    Unserved h (w.begin (.rotate h)) := by
  have hx := (Frame.enroll (c := False) hw.orderly.booked h).finish (.refused (.notFound h.text))
    False.elim
  rw [begin_rotate_none hw.unlocked hu.registered?]
  refine ⟨fun f hf => hu.pending f (hx.face.symm.trans hf), fun o ho => ?_⟩
  rw [history_finish] at ho
  rcases List.mem_cons.mp ho with ho | ho
  · cases ho
  · exact hu.unknown o ho

/-- No task is kept for a secret that is not registered. -/
theorem Unserved.not_fires {k : Task Job} {q : Schedule Job} (hu : Unserved h w) (hw : Running t w)
    (hf : w.Fires m k q) : k.job.handle ≠ h := fun hh => by
  obtain ⟨e, he, hst⟩ := hw.orderly.face?_of_live (hf.starts hw.orderly.booked.numbered).mem
  cases hst.symm.trans (hu.pending e (hh ▸ he)).1

/-- The first fetch registers the secret, with what it brought. -/
theorem Unserved.first {r : Except Fault (Option Secret)} (hu : Unserved h w) (hw : Running t w)
    (hr : t.IsRoomy) (hl : t.lead.IsWhole) (hi : w.now.Counts)
    (hf : w.Favours t h (.answer op (.fetched r))) (hp : w.point? op = some (.registering h))
    (ha : (w.afterFirstFetch op h r).isAlive = true) :
    ∃ s, Fresh t h (w.afterFirstFetch op h r) s ∧
      w.fetched? h (.answer op (.fetched r)) = some s.data := by
  have hsub : (w.point? op).bind Point.wants? = some h := by rw [hp]; rfl
  obtain ⟨secret, rfl, hsec⟩ := hf.fetches op r rfl hsub
  obtain ⟨e, he⟩ := hw.orderly.wanted op _ h hp rfl
  refine ⟨_, fresh_of_first hw hr hl hi hp he (hu.pending e he).2 hsec ha, ?_⟩
  simp only [fetched?, hsub, if_true]

/-- A step on a secret that is not registered leaves it so, or registers it. -/
theorem Unserved.turn_own (hu : Unserved h w) (hw : Running t w) (hr : t.IsRoomy) (hl : t.lead.IsWhole)
    (hi : w.now.Counts) (hf : w.Favours t h m) (ht : Turn w m w') (ha : w'.isAlive = true)
    (hm : w.subject? m = some h) :
    Unserved h w' ∨ ∃ s, Fresh t h w' s ∧ w.fetched? h m = some s.data := by
  cases ht with
  | @begins r _ =>
    cases r with
    | add r source =>
      obtain rfl : ⟨w.nextHandle⟩ = h := Option.some.inj hm
      exact .inl (hu.begin_add hw (hf.rotates r source rfl rfl))
    | remove k => exact absurd (congrArg (Move.begin <| .remove ·) (Option.some.inj hm)) hf.keeps
    | rotate k =>
      cases hm
      exact .inl (hu.begin_rotate hw)
    | destroy => cases hm
  | runs hfires =>
    exact absurd (Option.some.inj ((subject?_of_fires hw.orderly.booked hfires).symm.trans hm))
      (hu.not_fires hw hfires)
  | fetchedFirst hp =>
    simp only [World.subject?, hp] at hm
    cases hm
    exact .inr (hu.first hw hr hl hi hf hp ha)
  | opens hp => cases hw.orderly.calm.unclosed _ _ hp
  | enters hp _ _ | fetchedAgain hp | renewed hp | revoked hp =>
    simp only [World.subject?, hp] at hm
    cases hu.registering hw hp hm
  | elapses | releases | stops | listens | unlistens => cases hm

theorem Unserved.turn (hu : Unserved h w) (hw : Running t w) (hw' : Running t w') (hr : t.IsRoomy)
    (hl : t.lead.IsWhole) (hi : w.now.Counts) (hf : w.Favours t h m) (ht : Turn w m w') :
    Unserved h w' ∨ ∃ s, Fresh t h w' s ∧ w.fetched? h m = some s.data := by
  rcases confined_of_turn hw.orderly ht hw'.unlocked hw.alive with ⟨k, hm, op, hx, -⟩ | ⟨-, hidle⟩
  · by_cases hk : k = h
    · subst hk
      exact hu.turn_own hw hr hl hi hf ht hw'.alive hm
    · obtain ⟨_, _, _, _, _, hfr⟩ := hx.frame
      obtain ⟨hs, hh, hall⟩ := hx.history
      refine .inl ⟨fun e he => hu.pending e (hfr.faces h (Ne.symm hk) ▸ he), fun o ho => ?_⟩
      rw [hh] at ho
      rcases List.mem_append.mp ho with ho | ho
      · exact hk (hall _ ho).2.symm
      · exact hu.unknown o ho
  · refine .inl ?_
    cases hidle with
    | releases => rw [release_of_isAlive hw'.alive]; exact ⟨hu.pending, hu.unknown⟩
    | _ => exact ⟨hu.pending, hu.unknown⟩

/-- An engine keeps running. -/
theorem Running.turn (hw : Running t w) (ht : Turn w m w') (hd : m ≠ .begin .destroy) (hs : m ≠ .stop)
    (ha : w'.isAlive = true) : Running t w' := by
  have hd' : w'.destroyed = false := (destroyed_of_other_turn ht hd).trans hw.unlocked
  have hadv := advance_of_turn hw.orderly.booked hw.orderly.calm ht hd'
  have hfix := fixtures_of_turn hw.orderly ht hd' hw.alive
  have htr : w'.trigger = .fixed t := by
    cases hadv with
    | rests hq => exact hq.fixed t hw.trigger
    | acts hf _ => exact hf.fixed t hw.trigger
  have hstop : w'.schedule.stopped = false := by
    rcases confined_of_turn hw.orderly ht hd' hw.alive with ⟨_, _, _, hx, -⟩ | ⟨-, hidle⟩
    · obtain ⟨_, _, _, _, _, hf⟩ := hx.frame
      exact hf.stopped.trans hw.unstopped
    · cases hidle with
      | stops => exact absurd rfl hs
      | releases => rw [release_of_isAlive ha]; exact hw.unstopped
      | _ => exact hw.unstopped
  exact ⟨hw.orderly.of_advance hadv, tends_of_advance hw.orderly hw.tends hadv,
    allMinded_of_advance hw.orderly hw.tends hw.minded hw.trigger ha hstop hadv, htr,
    hfix.strategy.trans hw.strategy, hfix.discipline.trans hw.timed, hstop, hd', ha⟩

/-! ## Runs -/

/-- A run under which a rotating secret is always served. -/
structure Favourable (t : FixedTrigger) (h : Handle) (start : World) (ms : List Move) : Prop where
  favours : ∀ ns m u, ns ++ [m] <+: ms → run? start ns = some u → u.Favours t h m
  /-- Whoever comes to the server for the secret stays there for less than the lead time. -/
  prompt : ∀ ns rs u v op, ns ++ rs <+: ms → run? start ns = some u → run? u rs = some v →
    AtServer u op h → AtServer v op h → v.now.since u.now < t.lead
  counts : ∀ ns u, ns <+: ms → run? start ns = some u → u.now.Counts

/-- In that run, the operation was at the server for the secret at that instant. -/
def CameTo (h : Handle) (start : World) (ns : List Move) (op : Nat) (a : Instant) : Prop :=
  ∃ ks rs u, ks ++ rs = ns ∧ run? start ks = some u ∧ AtServer u op h ∧ u.now = a

theorem CameTo.concat {a : Instant} (hc : CameTo h start ns op a) (m : Move) :
    CameTo h start (ns ++ [m]) op a := by
  obtain ⟨ks, rs, u, rfl, hu, hop, ha⟩ := hc
  exact ⟨ks, rs ++ [m], u, (List.append_assoc ..).symm, hu, hop, ha⟩

theorem CameTo.now (hrun : run? start ns = some v) (hop : AtServer v op h) : CameTo h start ns op v.now :=
  ⟨ns, [], v, List.append_nil _, hrun, hop, rfl⟩

theorem Favourable.prompt_since {a : Instant} (hf : Favourable t h start ms) (hns : ns <+: ms)
    (hrun : run? start ns = some v) (hop : AtServer v op h) (hc : CameTo h start ns op a) :
    v.now.since a < t.lead := by
  obtain ⟨ks, rs, u, rfl, hu, hopu, rfl⟩ := hc
  refine hf.prompt ks rs u v op hns hu ?_ hopu hop
  rwa [run?_append, hu] at hrun

theorem running_initial (t : FixedTrigger) (increment : Option Span) (draws : Nat → Nat) :
    Running t (initial ⟨.fixed t, .dropOnError, increment⟩ .timed draws) :=
  ⟨orderly_initial .., tends_initial .., fun _ _ _ he => (by cases he), rfl, rfl, rfl, rfl, rfl, rfl⟩

/-- As long as somebody holds the engine, the secret is not registered yet, or it is served with the
data that were fetched last. -/
theorem served_of_run {increment : Option Span} {draws : Nat → Nat}
    (hstart : start = initial ⟨.fixed t, .dropOnError, increment⟩ .timed draws)
    (hf : Favourable t h start ms) (hr : t.IsRoomy) (hl : t.lead.IsWhole) (hns : ns <+: ms)
    (hrun : run? start ns = some v) (ha : v.isAlive = true) :
    Running t v ∧ (Unserved h v ∨ ∃ e s, Served t h (CameTo h start ns) v e s ∧
      (fetches h start ns).getLast? = some s.data) := by
  induction ns using List.reverseRecOn generalizing v with
  | nil =>
    cases hrun
    subst hstart
    exact ⟨running_initial .., .inl ⟨fun _ he => (by cases he), fun _ ho => (by cases ho)⟩⟩
  | append_singleton ns m ih =>
    obtain ⟨u, hu, hstep⟩ := run?_concat.mp hrun
    have ht := turn_of_step hstep
    have hpre : ns <+: ms := (List.prefix_append ns [m]).trans hns
    obtain ⟨hw, hphase⟩ := ih hpre hu (alive_of_turn ht ha)
    have hfav := hf.favours ns m u hns hu
    have hw' := hw.turn ht hfav.stays hfav.runs ha
    have hcounts := hf.counts ns u hpre hu
    have hfetch : fetches h start (ns ++ [m]) = fetches h start ns ++ (u.fetched? h m).toList :=
      gather_concat _ m hu
    have hnew : ∀ op, AtServer v op h → CameTo h start (ns ++ [m]) op v.now := fun _ => .now hrun
    refine ⟨hw', ?_⟩
    rcases hphase with hun | ⟨e, s, hs, hlast⟩
    · rcases hun.turn hw hw' hr hl hcounts hfav ht with hun | ⟨s, hfresh, hd⟩
      · exact .inl hun
      · obtain ⟨e, he⟩ := hfresh.served hr hnew
        refine .inr ⟨e, s, he, ?_⟩
        rw [hfetch, hd]
        exact List.getLast?_concat
    · obtain ⟨e', s', hs', hd⟩ := hs.turn hw hw' hr hl hcounts hfav hstep (fun _ _ hc => hc.concat m) hnew
      refine .inr ⟨e', s', hs', ?_⟩
      rw [hfetch, List.getLast?_append, hlast, hd]
      cases u.fetched? h m <;> rfl

/-- From its registration on, as long as somebody holds the engine, a rotating secret can be read at
every point of a run that keeps to the conditions: its lease has time left, and its data are those that
were fetched last. -/
theorem always_served {lead jitter : Span} {t₀ : FixedTrigger} {increment : Option Span}
    {draws : Nat → Nat} (ht : FixedTrigger.ofLead? lead = some t₀) (hpos : Span.zero < lead)
    (hwhole : lead.IsWhole)
    (hf : Favourable (t₀.withJitter jitter) h
      (initial ⟨.fixed (t₀.withJitter jitter), .dropOnError, increment⟩ .timed draws) ms)
    (hns : ns <+: ms)
    (hrun : run? (initial ⟨.fixed (t₀.withJitter jitter), .dropOnError, increment⟩ .timed draws) ns =
      some v)
    (ha : v.isAlive = true) (hreg : .ended op (.registered h) ∈ v.history) :
    ∃ s, v.snapshot? h = some s ∧ Span.zero < s.lease.remaining v.now ∧
      (fetches h (initial ⟨.fixed (t₀.withJitter jitter), .dropOnError, increment⟩ .timed draws)
        ns).getLast? = some s.data := by
  obtain ⟨hlead, hroomy⟩ := FixedTrigger.isRoomy_ofLead? ht jitter
  obtain ⟨-, hphase⟩ := served_of_run rfl hf hroomy (hlead ▸ hwhole) hns hrun ha
  rcases hphase with hun | ⟨e, s, hs, hlast⟩
  · exact absurd hreg (hun.unknown op)
  · refine ⟨s, ?_, hs.remaining (hlead ▸ hpos) hroomy fun _ _ hop hc => hf.prompt_since hns hrun hop hc,
      hlast⟩
    obtain ⟨f, hentry, rfl⟩ := Option.map_eq_some_iff.mp hs.face
    have hst : f.isRegistered = true := beq_iff_eq.mpr hs.registered
    rw [snapshot?, registered?, hentry, Option.filter_some, if_pos hst]
    exact hs.snapshot

/-! ## A run of that kind -/

/-- A favourable run that is over by then. -/
structure FavourableUntil (i : Instant) (t : FixedTrigger) (h : Handle) (start : World)
    (ms : List Move) : Prop where
  favours : ∀ ns m u, ns ++ [m] <+: ms → run? start ns = some u → u.Favours t h m
  prompt : ∀ ns rs u v op, ns ++ rs <+: ms → run? start ns = some u → run? u rs = some v →
    AtServer u op h → AtServer v op h → v.now.since u.now < t.lead
  within : ∀ ns u, ns <+: ms → run? start ns = some u → u.now ≤ i

theorem FavourableUntil.favourable {i : Instant} (hf : FavourableUntil i t h start ms)
    (hc : i.Counts) : Favourable t h start ms :=
  ⟨hf.favours, hf.prompt, fun ns u hns hu =>
    Nat.lt_of_le_of_lt (Nat.add_le_add_right (Nat.div_le_div_right (hf.within ns u hns hu)) _) hc⟩

theorem FavourableUntil.nil {i : Instant} (hi : start.now ≤ i) (hp : ∀ op, ¬ AtServer start op h) :
    FavourableUntil i t h start [] := by
  have hvisits : ∀ {ns u}, ns <+: [] → run? start ns = some u → u = start := fun hpre hu => by
    cases List.prefix_nil.mp hpre
    exact (Option.some.inj hu).symm
  refine ⟨fun ns m _ hns _ => absurd (List.prefix_nil.mp hns) (by simp), fun ns rs u _ op hns hu _ hop =>
    ?_, fun _ _ hns hu => hvisits hns hu ▸ hi⟩
  exact absurd (hvisits ((List.prefix_append ns rs).trans hns) hu ▸ hop) (hp op)

/-- Who is at the server with less than the lead time to go stays there for less than that. -/
theorem FavourableUntil.cons {i : Instant} {next : World} (hs : step start m = some next)
    (hf : start.Favours t h m) (hi : start.now ≤ i)
    (hp : (∀ op, ¬ AtServer start op h) ∨ i.since start.now < t.lead)
    (hn : FavourableUntil i t h next ms) : FavourableUntil i t h start (m :: ms) := by
  have hover : ∀ ns u, ns <+: m :: ms → run? start ns = some u → u.now ≤ i := by
    intro ns u hns hu
    cases ns with
    | nil => exact Option.some.inj hu ▸ hi
    | cons k ns =>
      obtain ⟨rfl, hrest⟩ := List.cons_prefix_cons.mp hns
      rw [run?, hs] at hu
      exact hn.within ns u hrest hu
  refine ⟨fun ns k u hns hu => ?_, fun ns rs u v op hns hu hv hopu hopv => ?_, hover⟩
  · cases ns with
    | nil =>
      cases hu
      exact (List.cons_prefix_cons.mp hns).1 ▸ hf
    | cons k' ns =>
      obtain ⟨rfl, hrest⟩ := List.cons_prefix_cons.mp hns
      rw [run?, hs] at hu
      exact hn.favours ns k u hrest hu
  · cases ns with
    | nil =>
      cases hu
      refine Nat.lt_of_le_of_lt ?_ (hp.resolve_left fun hno => hno op hopu)
      have hle := hover rs v hns hv
      have hsub := Nat.mul_le_mul_right nanosPerMilli (Nat.sub_le_sub_right hle start.now.millis)
      rw [Instant.nanos_since, Instant.nanos_since]
      omega
    | cons k ns =>
      obtain ⟨rfl, hrest⟩ := List.cons_prefix_cons.mp hns
      rw [run?, hs] at hu
      exact hn.prompt ns rs u v op hrest hu hv hopu hopv

/-- A move by which the server does not answer and no time passes. -/
theorem World.Favours.plain (hk : m ≠ .begin (.remove h)) (hd : m ≠ .begin .destroy) (hs : m ≠ .stop)
    (hr : ∀ r source, m = .begin (.add r source) → r.mode = .rotating)
    (ha : ∀ op r, m ≠ .answer op r) (he : ∀ i, m ≠ .elapse i) : w.Favours t h m where
  keeps := hk
  stays := hd
  runs := hs
  rotates r source hm _ := hr r source hm
  fetches op _ hm := absurd hm (ha op _)
  renewals op _ hm := absurd hm (ha op _)
  unhurried i _ _ hm := absurd hm (he i)

/-- An engine under the trigger of ten seconds, with jitter. -/
def clocked : World :=
  initial ⟨.fixed jittery, .dropOnError, none⟩ .timed fun _ => 0

/-- A secret of a minute that is granted after so many seconds. -/
def secretAt (seconds : Nat) : Secret :=
  ⟨[("seconds", .nat seconds)], .granted ⟨seconds * 1000⟩ "lease" (.ofSeconds 60) true⟩

/-- A renewal fails after three seconds, during which somebody asks for a new fetch; the secret is
fetched twice then, for each of the two. -/
def refetched : List Move :=
  [.begin (.add ⟨"path", .rotating⟩ "kv"), .answer 0 (.fetched (.ok (some (secretAt 0)))),
    .elapse ⟨50000⟩, .fire 1, .begin (.rotate ⟨1⟩), .elapse ⟨53000⟩,
    .answer 1 (.renewal (.error (.notFound "lease"))), .answer 1 (.fetched (.ok (some (secretAt 53)))),
    .enter 2, .elapse ⟨55000⟩, .answer 2 (.fetched (.ok (some (secretAt 55))))]

theorem isProper_secretAt (seconds : Nat) :
    (secretAt seconds).lease.IsProper jittery ⟨seconds * 1000⟩ := by
  have habove : jittery.threshold < Span.ofSeconds 60 := by decide
  exact ⟨rfl, habove, ⟨60000, rfl⟩⟩

theorem favourable_refetched :
    FavourableUntil ⟨55000⟩ jittery ⟨1⟩ clocked refetched := by
  have hfree : ∀ {w : World}, (∀ x ∈ w.operations, ¬ x.2.Calls ⟨1⟩) → ∀ op, ¬ AtServer w op ⟨1⟩ :=
    fun hall op ⟨_, hp, hc⟩ => hall _ (lookup_mem hp) hc
  have hheld : ∀ {w : World}, w.operations.all (·.2.holds?.isSome) = true → ∀ op p,
      w.point? op = some p → p.holds?.isSome = true :=
    fun hall _ _ hp => List.all_eq_true.mp hall _ (lookup_mem hp)
  refine .cons rfl (.plain (by simp) (by simp) (by simp) ?_ (by simp) (by simp)) (by decide)
    (.inl (hfree nofun)) ?_
  · rintro r source h
    cases h
    rfl
  refine .cons rfl ⟨by simp, by simp, by simp, by simp, fun op r hm _ => ?_, nofun, nofun⟩
    (by decide) (.inl <| hfree ?_) ?_
  · cases hm
    exact ⟨_, rfl, isProper_secretAt 0⟩
  · intro x hx
    cases List.mem_singleton.mp hx
    exact id
  refine .cons rfl ⟨by simp, by simp, by simp, by simp, by simp, by simp, fun i op errand _ _ hp => ?_⟩
    (by decide) (.inl (hfree nofun)) ?_
  · cases lookup_mem hp
  refine .cons rfl (.plain (by simp) (by simp) (by simp) (by simp) (by simp) (by simp)) (by decide)
    (.inl (hfree nofun)) ?_
  refine .cons rfl (.plain (by simp) (by simp) (by simp) (by simp) (by simp) (by simp)) (by decide)
    (.inr (by decide)) ?_
  refine .cons rfl ⟨by simp, by simp, by simp, by simp, by simp, by simp, fun i op errand _ _ hp => ?_⟩
    (by decide) (.inr (by decide)) ?_
  · -- Whoever asked for another fetch waits for the renewal to end.
    have hm := lookup_mem hp
    change (op, Point.queued ⟨1⟩ errand) ∈ [(2, .queued ⟨1⟩ .rotate), (1, .renewing _ _ _)] at hm
    rcases List.mem_cons.mp hm with hm | hm
    · cases (Prod.mk.inj hm).1
      rfl
    · cases (Prod.mk.inj (List.mem_singleton.mp hm)).2
  refine .cons rfl ⟨by simp, by simp, by simp, by simp, nofun, nofun, nofun⟩ (by decide)
    (.inr (by decide)) ?_
  refine .cons rfl ⟨by simp, by simp, by simp, by simp, fun op r hm _ => ?_, nofun, nofun⟩
    (by decide) (.inr (by decide)) ?_
  · cases hm
    exact ⟨_, rfl, isProper_secretAt 53⟩
  refine .cons rfl (.plain (by simp) (by simp) (by simp) (by simp) (by simp) (by simp)) (by decide)
    (.inr (by decide)) ?_
  refine .cons rfl ⟨by simp, by simp, by simp, by simp, by simp, by simp, fun i op errand _ _ hp => ?_⟩
    (by decide) (.inr (by decide)) ?_
  · exact absurd (hheld (by decide +kernel) op _ hp) Bool.false_ne_true
  refine .cons rfl ⟨by simp, by simp, by simp, by simp, fun op r hm _ => ?_, nofun, nofun⟩
    (by decide) (.inr (by decide)) (.nil (by decide) (hfree nofun))
  · cases hm
    exact ⟨_, rfl, isProper_secretAt 55⟩

/-- At the end of that run the secret is there with what was fetched last. -/
theorem always_served_refetched :
    ∃ v s, run? clocked refetched = some v ∧ v.snapshot? ⟨1⟩ = some s ∧
      Span.zero < s.lease.remaining v.now ∧
      (fetches ⟨1⟩ clocked refetched).getLast? = some s.data := by
  obtain ⟨v, hrun, ha, hreg⟩ : ∃ v, run? clocked refetched = some v ∧ v.isAlive = true ∧
      .ended 0 (.registered ⟨1⟩) ∈ v.history := by
    refine ⟨_, rfl, rfl, ?_⟩
    exact List.mem_of_getElem? (i := 9) (by rfl)
  have ht : FixedTrigger.ofLead? (.ofSeconds 10) = some tenSeconds := by decide
  obtain ⟨s, hs⟩ := always_served ht (by decide) ⟨10000, rfl⟩
    (favourable_refetched.favourable (by decide)) List.prefix_rfl hrun ha hreg
  exact ⟨v, s, hrun, hs⟩

end LeaseKeeper.Leases
