import LeaseKeeper.Proofs.Leases.Losses

/-!
# Shutting a lease engine down

Nothing is left of an engine that was shut down (`nothing_left_of_destroy`): nothing is fetched,
renewed or told any more but how leases were given back, whoever registers a secret is refused,
be it that its first fetch was under way, and once all operations have ended, no secret is
registered, no task waits, and every lease that a secret still showed at the shutdown or that was
granted to it later was given back once. Only a lease that was told to have expired before is
not given back (`expired_lease_not_returned`).
-/

namespace LeaseKeeper.Leases

open World

variable {w w₀ w' u v : World} {m : Move} {ms ns : List Move} {op a : Nat} {h : Handle} {e e' : Entry}
  {x : Option Lease}

/-! ## An engine that was shut down -/

/-- Shutting down leaves the entries alone. -/
theorem aside_of_destroy (hw : Sound w) (hs : step w (.begin .destroy) = some u) :
    Aside w u ∧ u.destroyed = true := by
  obtain ⟨-, hs⟩ := Option.ite_none_right_eq_some.mp hs
  obtain rfl := Option.some.inj hs
  exact ⟨aside_destroy hw, destroyed_destroy w.enroll.2 _⟩

/-- Nothing happens in an engine that was shut down but that leases are given back. -/
theorem parting_of_run (hw : Sound w) (hd : w.destroyed = true) (hrun : run? w ms = some v) :
    ∃ hs, v.history = hs ++ w.history ∧ ∀ x ∈ hs, Parting x := by
  induction ms generalizing w with
  | nil =>
    cases hrun
    exact ⟨[], rfl, fun _ hx => by cases hx⟩
  | cons m ms ih =>
    obtain ⟨u, hu, ht, hrun⟩ := run?_cons hrun
    have hdu := destroyed_of_step hd hu
    obtain ⟨hs, hh, hall⟩ := parting_of_act hw hd (act_of_turn hw ht)
    obtain ⟨hs', hh', hall'⟩ := ih (hw.of_turn ht) hdu hrun
    refine ⟨hs' ++ hs, by rw [hh', hh, List.append_assoc], fun x hx => ?_⟩
    exact (List.mem_append.mp hx).elim (hall' x) (hall x)

/-- No secret gets registered in an engine that was shut down. -/
theorem registered_of_act (hw : Sound w) (hd : w.destroyed = true) (ha : Act w m w')
    (he : w'.face? h = some e') (hreg : e'.standing = .registered) :
    ∃ e, w.face? h = some e ∧ e.standing = .registered := by
  cases ha with
  | aside ha _ _ | misses ha _ _ _ _ => exact ⟨e', (ha.faces h).symm.trans he, hreg⟩
  | @does u op k face p hs care g rm hdoes hx hu _ _ =>
    obtain ⟨_, _, hf⟩ := hx.frame
    rw [(Aside.told (hw.of_does hdoes hx) hu).faces] at he
    by_cases hk : h = k
    · subst hk
      have hface := hf.face.symm.trans he
      cases hdoes with
      | adds hd' | registers _ _ hd' => cases hd.symm.trans hd'
      | forgets => cases hface
      | joins he' | passes he' | renews he' | fetches he' | installs he' | returned he' =>
        cases hface
        exact ⟨_, he', hreg⟩
      | waits | takes =>
        cases hface
        cases hreg
    · exact ⟨e', hf.faces h hk ▸ he, hreg⟩

theorem unregistered_of_run (hw : Sound w) (hd : w.destroyed = true) (hrun : run? w ms = some v)
    (hno : ∀ e, w.face? h = some e → e.standing ≠ .registered) : v.registered? h = none := by
  induction ms generalizing w with
  | nil =>
    cases hrun
    exact registered?_eq_none hno
  | cons m ms ih =>
    obtain ⟨u, hu, ht, hrun⟩ := run?_cons hrun
    have hdu := destroyed_of_step hd hu
    refine ih (hw.of_turn ht) hdu hrun fun e' he' hreg => ?_
    obtain ⟨e, he, hreg⟩ := registered_of_act hw hd (act_of_turn hw ht) he' hreg
    exact hno e he hreg

/-! ## Who comes too late -/

/-- Whoever asks to look after a secret is refused. -/
theorem refused_of_add (hd : w.destroyed = true) {request : SecretRequest}
    {source : String} (hs : step w (.begin (.add request source)) = some u) :
    Concluded u w.nextOperation (.refused .destroyed) := by
  obtain ⟨-, hs⟩ := Option.ite_none_right_eq_some.mp hs
  obtain rfl := Option.some.inj hs
  rw [show w.begin (.add request source) = w.enroll.2.finish w.nextOperation (.refused .destroyed)
    from if_pos hd]
  exact .finish (Nat.lt_succ_self _)

/-- What a first fetch brings after the shutdown is not registered: if the fetch is to fail, whoever
waits for it learns why, else the secret is removed again on behalf of its registration. -/
theorem discarded_of_answer {y : Option (Nat × Remover)} (hw : Sound w) (hd : w.destroyed = true)
    (hst : Stage w h y x) (hq : w.point? a = some (.registering h)) (he : w.face? h = some e)
    {r : Except Fault (Option Secret)} (hs : step w (.answer a (.fetched r)) = some u) :
    (∀ e, u.face? h = some e → e.standing ≠ .registered) ∧
      ((∃ f, rejection? e.request r = some f ∧ Concluded u a (.refused f)) ∨
        rejection? e.request r = none ∧ ∃ x, Stage u h (some (a, .registration)) x ∧
          (Concluded u a (.refused .destroyed) ∨ u.revocations h ≠ [])) := by
  obtain rfl : u = w.afterFirstFetch a h r := by
    simp only [step, answer, hq, Option.some.injEq] at hs
    exact hs.symm
  cases hr : rejection? e.request r with
  | some f =>
    have hx := afterFirstFetch_rejected hw hq he hr
    obtain ⟨_, _, hf⟩ := hx.frame
    refine ⟨fun e he => ?_, .inl ⟨f, rfl, concluded_of_scene hx⟩⟩
    cases hf.face.symm.trans he
  | none =>
    obtain ⟨s, u', l, p, ks, hsl, ht, hu, hx⟩ := afterFirstFetch_late hw hq he hr hd
    have hh := heads_of_holds hw hq rfl he
    rw [← hw.lock_of_registering hq he] at ht
    have hl := Leaving.late rfl hq hd hr hsl
    have hpend := (hw.pending a _ h e hq rfl he).mpr rfl
    obtain ⟨-, hrev, -⟩ := hst.of_standing he (by rw [hpend]; decide)
    have haside : Aside u' (w.afterFirstFetch a h r) := .told (hw.of_takes hx he hl hh ht) hu
    have hstage := stage_of_takes hw he hl hh ht hx hrev
    refine ⟨fun f hf => ?_, .inr ⟨rfl, _, hstage.of_aside haside, ?_⟩⟩
    · obtain ⟨f', hf', hrem⟩ := (hstage.of_aside haside).entry
      cases hf.symm.trans hf'
      rw [hrem]
      decide
    · cases ht with
      | ends _ => exact .inl ((concluded_of_scene hx).aside haside)
      | returns _ =>
        refine .inr ?_
        rw [haside.revocations, revocations_of_scene hx]
        simp [Happening.revocation?]

theorem discarded_of_run {y : Option (Nat × Remover)} (hw : Sound w) (hd : w.destroyed = true)
    (hst : Stage w h y x) (hq : w.point? a = some (.registering h)) (he : w.face? h = some e)
    {r : Except Fault (Option Secret)} (hs : step w (.answer a (.fetched r)) = some u)
    (hrun : run? u ns = some v) :
    v.registered? h = none ∧
      (v.outcome? a = some (.refused ((rejection? e.request r).getD .destroyed)) ∨
        rejection? e.request r = none ∧ ∃ s, v.point? a = some (.revoking h s .registration)) := by
  have hu : Sound u := hw.of_turn (turn_of_step hs)
  have hdu := destroyed_of_step hd hs
  obtain ⟨hno, hend⟩ := discarded_of_answer hw hd hst hq he hs
  refine ⟨unregistered_of_run hu hdu hrun hno, ?_⟩
  rcases hend with ⟨f, hf, hc⟩ | ⟨hr, x, hs', hc | hrev⟩
  · exact .inl (hf ▸ (hc.of_run hu hrun).outcome)
  · exact .inl (hr ▸ (hc.of_run hu hrun).outcome)
  · obtain ⟨y', x', hv, hkeep, -⟩ := stage_of_run hu hs' hrun
    obtain rfl := hkeep _ rfl
    cases hv with
    | waits _ _ _ hnone _ =>
      -- What was given back before is in the history.
      obtain ⟨ks, hks⟩ := history_of_run hu hrun
      rw [revocations, hks, List.filterMap_append] at hnone
      exact absurd (List.append_eq_nil_iff.mp hnone).2 hrev
    | returns _ _ _ hq' _ _ => exact .inr ⟨hr, _, hq'⟩
    | gone _ _ _ _ _ hc => exact .inl (hr ▸ hc.outcome)

/-! ## What is left -/

/-- Once all operations of an engine that was shut down have ended, nothing is registered or about to
be, and no task waits. -/
theorem removed_of_rest (hw : Sound w) (hd : w.destroyed = true) (hnone : w.operations = [])
    (he : w.face? h = some e) : e.standing = .removed := by
  have hpoint : ∀ a, w.point? a = none := fun a => by rw [point?, hnone]; rfl
  cases hst : e.standing with
  | pending =>
    obtain ⟨-, a, ha⟩ := hw.registering h e he hst
    cases (hpoint a).symm.trans ha
  | registered =>
    obtain ⟨a, parent, ha⟩ := hw.opening hd h e he hst
    cases (hpoint a).symm.trans ha
  | removed => rfl

theorem live_of_rest (hw : Sound w) (hd : w.destroyed = true) (hnone : w.operations = []) :
    w.schedule.live = [] :=
  List.eq_nil_iff_forall_not_mem.mpr fun t ht => by
    obtain ⟨e, he, -⟩ := hw.booked.slot_live t ht
    have hreg := hw.working t ht _ (face?_some he)
    cases (removed_of_rest hw hd hnone (face?_some he)).symm.trans hreg

/-- What a secret showed at the shutdown, or was granted to it later, has been given back once. -/
theorem returned_of_rest (hw : Sound w) (hd : w.destroyed = true) (hs : Stage w h none x)
    (hrun : run? w ns = some v) (hnone : v.operations = []) :
    (v.revocations h).map Prod.snd = due ((grants h w ns).getLast?.or x) := by
  have hv := hw.of_run hrun
  have hdv := destroyed_of_run hd hrun
  obtain ⟨y, x', hs', -, hx⟩ := stage_of_run hw hs hrun
  have hpoint : ∀ a, v.point? a = none := fun a => by rw [point?, hnone]; rfl
  rw [← hx.resolve_right fun hlost => by cases hd.symm.trans hlost.1]
  cases hs' with
  | early hne hrev hx' =>
    -- Nobody has ever registered it.
    have hface : v.face? h = none := by
      cases he : v.face? h with
      | none => rfl
      | some e => exact absurd (removed_of_rest hv hdv hnone he) (hne e he)
    rw [hx', hrev, shownLease, hface]
    rfl
  | waits _ _ hq _ _ | returns _ _ _ hq _ _ => cases (hpoint _).symm.trans hq
  | gone _ _ _ _ hrev _ =>
    rw [hrev, List.map_map]
    exact List.map_id _

/-! ## Shutting down -/

/-- What holds of an engine that was shut down in `w₀`, if these leases had been granted to each
secret before and have been granted since. -/
structure NothingLeft (w₀ v : World) (before since : Handle → List Lease) : Prop where
  /-- Nothing has been fetched, renewed or told since but how leases were given back. -/
  parting : ∃ hs, v.history = hs ++ w₀.history ∧ ∀ x ∈ hs, Parting x
  /-- Whoever wants to look after a secret is refused. -/
  refused : ∀ request source u ns u', step v (.begin (.add request source)) = some u →
    run? u ns = some u' → u'.outcome? v.nextOperation = some (.refused .destroyed)
  /-- What a first fetch brings is not registered. Whoever waits for it is refused, as soon as what
  it brought has been given back. -/
  discarded : ∀ a h e r u ns u', v.point? a = some (.registering h) → v.entry? h = some e →
    step v (.answer a (.fetched r)) = some u → run? u ns = some u' → u'.registered? h = none ∧
      (u'.outcome? a = some (.refused ((rejection? e.request r).getD .destroyed)) ∨
        rejection? e.request r = none ∧ ∃ s, u'.point? a = some (.revoking h s .registration))
  /-- Once all operations have ended, nothing is registered and no task waits. -/
  rest : v.operations = [] → (∀ h, v.registered? h = none) ∧ v.schedule.live = []
  /-- By then the lease that was granted last to a secret that was registered at the shutdown, or was
  about to be, has been given back once if it has a name; unless that secret had been told before
  the shutdown to have lost it, and nothing was granted to it since. -/
  returned : v.operations = [] → ∀ h e, w₀.entry? h = some e → e.standing ≠ .removed →
    (v.revocations h).map Prod.snd = due (before h ++ since h).getLast? ∨
      ∃ l, (before h).getLast? = some l ∧ .expired l ∈ w₀.changes h ∧ e.snapshot = none ∧
        since h = [] ∧ v.revocations h = []

/-- What was granted since the shutdown has been given back in any case. -/
theorem NothingLeft.returned_late {before since : Handle → List Lease} {l : Lease}
    (hl : NothingLeft w₀ v before since) (hnone : v.operations = []) (he : w₀.entry? h = some e)
    (hne : e.standing ≠ .removed) (hs : (since h).getLast? = some l) :
    (v.revocations h).map Prod.snd = due (some l) := by
  rcases hl.returned hnone h e he hne with hback | ⟨_, _, _, _, hempty, _⟩
  · rw [hback, List.getLast?_append, hs]
    rfl
  · rw [hempty] at hs
    cases hs

/-- Shutting down tells nobody anything but that operations have ended. -/
theorem parting_since_destroy (hw₀ : Sound w₀) (hs : step w₀ (.begin .destroy) = some w)
    (hns : run? w ns = some v) : ∃ hs, v.history = hs ++ w₀.history ∧ ∀ x ∈ hs, Parting x := by
  obtain ⟨haside, hdw⟩ := aside_of_destroy hw₀ hs
  obtain ⟨hs₀, hh₀, hall₀⟩ := haside.history
  obtain ⟨hs, hh, hall⟩ := parting_of_run (hw₀.of_aside haside) hdw hns
  refine ⟨hs ++ hs₀, by rw [hh, hh₀, List.append_assoc], fun x hx => ?_⟩
  rcases List.mem_append.mp hx with hx | hx
  · exact hall x hx
  · obtain ⟨a, o, rfl, -⟩ := hall₀ x hx
    exact .ended

/-- What a secret still showed at the shutdown, or was granted to it later, has been given back by
the time all operations have ended. Where it showed nothing any more, it had lost what it had. -/
theorem returned_since_destroy {settings : Settings} {d : Discipline} {draws : Nat → Nat}
    (hrun : run? (initial settings d draws) ms = some w₀) (hd : w₀.destroyed = false)
    (hs : step w₀ (.begin .destroy) = some w) (hns : run? w ns = some v)
    (hnone : v.operations = []) (he : w₀.entry? h = some e) (hne : e.standing ≠ .removed) :
    (v.revocations h).map Prod.snd =
        due ((grants h (initial settings d draws) ms) ++ grants h w ns).getLast? ∨
      ∃ l, (grants h (initial settings d draws) ms).getLast? = some l ∧
        .expired l ∈ w₀.changes h ∧ e.snapshot = none ∧ grants h w ns = [] ∧
        v.revocations h = [] := by
  have hw₀ := sound_of_run hrun
  obtain ⟨haside, hdw⟩ := aside_of_destroy hw₀ hs
  have hface : w₀.face? h = some e.bare := face?_some he
  have hunremoved : ∀ f, w₀.face? h = some f → f.standing ≠ .removed := fun f hf => by
    cases hface.symm.trans hf
    exact hne
  obtain ⟨y, x, hst, -⟩ := stage_of_run (sound_initial settings d draws)
    (stage_initial settings d draws h) hrun
  obtain ⟨rfl, -, hx⟩ := hst.of_standing hface hne
  have hback := returned_of_rest (hw₀.of_aside haside) hdw (hst.of_aside haside) hns hnone
  have hshown := shown_of_open_run (sound_initial settings d draws)
    (orderly_initial settings d draws) (tends_initial settings d draws) (fun _ _ _ hq => by cases hq)
    (stage_initial settings d draws h) hrun hd hunremoved
  rw [show w₀.shownLease h = x by rw [hx, shownLease, hface]; rfl, Option.or_none] at hshown
  rw [List.getLast?_append]
  rcases hshown with rfl | ⟨rfl, htold⟩
  · exact .inl hback
  -- It shows nothing, so only what has been granted since the shutdown counts.
  · rw [Option.or_none] at hback
    cases hsince : (grants h w ns).getLast? with
    | some l => exact .inl (hback.trans (by rw [hsince]; rfl))
    | none =>
      rw [hsince] at hback
      cases hbefore : (grants h (initial settings d draws) ms).getLast? with
      | none => exact .inl hback
      | some l =>
        exact .inr ⟨l, rfl, htold l hbefore, Option.map_eq_none_iff.mp hx.symm,
          List.getLast?_eq_none_iff.mp hsince, List.map_eq_nil_iff.mp hback⟩

/-- Shutting down an engine leaves nothing behind, whatever is under way. -/
theorem nothing_left_of_destroy {settings : Settings} {d : Discipline} {draws : Nat → Nat}
    (hrun : run? (initial settings d draws) ms = some w₀) (hd : w₀.destroyed = false)
    (hs : step w₀ (.begin .destroy) = some w) (hns : run? w ns = some v) :
    NothingLeft w₀ v (grants · (initial settings d draws) ms) (grants · w ns) := by
  have hw₀ := sound_of_run hrun
  obtain ⟨haside, hdw⟩ := aside_of_destroy hw₀ hs
  have hw : Sound w := hw₀.of_aside haside
  have hv := hw.of_run hns
  have hdv := destroyed_of_run hdw hns
  constructor
  case parting => exact parting_since_destroy hw₀ hs hns
  case refused =>
    intro request source u ns' u' hu hrun'
    exact ((refused_of_add hdv hu).of_run (hv.of_turn (turn_of_step hu)) hrun').outcome
  case discarded =>
    intro a h e r u ns' u' hq he hu hrun'
    obtain ⟨_, _, hst₀, -⟩ := stage_of_run (sound_initial settings d draws)
      (stage_initial settings d draws h) hrun
    obtain ⟨_, _, hst, -⟩ := stage_of_run hw (hst₀.of_aside haside) hns
    exact discarded_of_run hv hdv hst hq (face?_some he) hu hrun'
  case rest =>
    intro hnone
    refine ⟨fun h => registered?_eq_none fun e he hreg => ?_, live_of_rest hv hdv hnone⟩
    cases (removed_of_rest hv hdv hnone he).symm.trans hreg
  case returned =>
    intro hnone h e he hne
    exact returned_since_destroy hrun hd hs hns hnone he hne

/-- A renewal is with the server, and so is the first fetch of another secret. -/
def twoAtServer : List Move := atServer ++ [.begin (.add ⟨"other", .renewable⟩ "kv")]

/-- After the shutdown both are answered, and what they brought is given back. -/
def lateAnswers : List Move :=
  [.openNext 4, .answer 1 (.renewal (.ok laterLease)), .answer 2 (.fetched (.ok (some minuteSecret))),
    .enter 4, .answer 4 (.revocation (.ok ())), .answer 2 (.revocation (.ok ()))]

/-- What the renewal and the fetch brought is given back. -/
theorem nothing_left_of_late_answers :
    ∃ w₀ w v, run? early twoAtServer = some w₀ ∧ w₀.destroyed = false ∧
      step w₀ (.begin .destroy) = some w ∧ run? w lateAnswers = some v ∧ v.operations = [] ∧
      NothingLeft w₀ v (grants · early twoAtServer) (grants · w lateAnswers) ∧
      (v.revocations ⟨1⟩).map Prod.snd = [laterLease] ∧
      (v.revocations ⟨2⟩).map Prod.snd = [minuteSecret.lease] := by
  refine ⟨_, _, _, rfl, rfl, rfl, rfl, rfl, ?_⟩
  have hrun : run? early twoAtServer = some _ := rfl
  have hleft := nothing_left_of_destroy hrun rfl rfl (show run? _ lateAnswers = some _ from rfl)
  exact ⟨hleft, hleft.returned_late rfl (h := ⟨1⟩) rfl (by decide) rfl,
    hleft.returned_late rfl (h := ⟨2⟩) rfl (by decide) rfl⟩

/-- The renewal of a lease fails, so it is lost. -/
def losing : List Move := atServer ++ [.answer 1 (.renewal (.error (.notFound "lease")))]

/-- The lease that was granted last to a secret is not given back if it was lost before the
shutdown. -/
theorem expired_lease_not_returned :
    ∃ w₀ w v e, run? early losing = some w₀ ∧ w₀.destroyed = false ∧ w₀.registered? ⟨1⟩ = some e ∧
      step w₀ (.begin .destroy) = some w ∧ run? w [.openNext 3] = some v ∧ v.operations = [] ∧
      (grants ⟨1⟩ early losing ++ grants ⟨1⟩ w [.openNext 3]).getLast? = some minuteSecret.lease ∧
      minuteSecret.lease.hasId = true ∧ v.revocations ⟨1⟩ = [] := by
  refine ⟨_, _, _, _, rfl, rfl, rfl, rfl, rfl, rfl, rfl, rfl, rfl⟩

end LeaseKeeper.Leases
