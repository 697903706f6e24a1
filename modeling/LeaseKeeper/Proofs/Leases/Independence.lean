import LeaseKeeper.Proofs.Leases.Chronicles
import LeaseKeeper.Proofs.Leases.Upkeep
import LeaseKeeper.Proofs.Timing

/-!
# Secrets do not influence each other

Without jitter and without a shutdown, every run of an engine is, as far as one secret is concerned, as
a run of an engine in which that secret is alone (`independent`): there is such a run with the same
chronicle, in which nothing is done about any other secret, and any run in which the same is done
about the secret at the same times has that chronicle. However slow the other secrets' operations are,
and however they fail, is of no account.

Numbers of operations are given out to all secrets alike, so the two chronicles name the operations
differently; handles are given out in order too, so the engine in which the secret is alone begins
with the handle of that secret (`World.solitary`). The shared engine goes on as long as anybody holds
it, operations on other secrets among them; the other engine is let go when nobody does any more.
-/

namespace LeaseKeeper.Leases

open World

namespace World

/-- An engine that has that handle to give out first. -/
def solitary (w : World) (h : Handle) : World := { w with nextHandle := h.serial }

end World

/-- The calls that a chronicle tells of, with the time. -/
def callsOf (c : List (Instant × Sign)) : List (Instant × Call) :=
  c.filterMap fun
    | (t, .happened (.called _ _ call)) => some (t, call)
    | _ => none

/-- When and how a server answers is up to the calls that were made for the secret until then, the one
that it answers among them as the last. -/
def ServedBy (server : List (Instant × Call) → Instant × Reply → Prop) (c : List (Instant × Sign)) :
    Prop :=
  ∀ earlier meanwhile later op t i h call k,
    c = earlier ++ (i, .happened (.called op h call)) :: meanwhile ++ (t, .answered op k) :: later →
    (∀ x ∈ meanwhile, ∀ h' call', x.2 ≠ .happened (.called op h' call')) →
    server (callsOf earlier ++ [(i, call)]) (t, k)

variable {σ τ : Nat → Nat} {r r' : Renaming} {h k : Handle} {w w' u u' start solo v : World}
  {m m' : Move} {ms ns : List Move} {op : Nat} {c : Prop}

namespace Reflected

variable (hr : Reflected r h w u m w' m' u' op) (hsub : w.subject? m = some h)

include hr

theorem cue? (hsub : w.subject? m = some h) :
    w.cue? h m = (u.cue? h m').map (·.rename r.op) := by
  have hop : r.op u.nextOperation = w.nextOperation := hr.ended.base.ops 0
  have ha : u.isAlive = true := isAlive_iff.mpr (.inl hr.ended.base.held)
  have hsub' := hr.subject
  unfold World.cue?
  rw [if_pos hr.ended.base.alive, if_pos ha]
  cases hr.renames with
  | begin q =>
    dsimp only
    rw [if_pos hsub, if_pos hsub']
    exact congrArg (fun a => some (Sign.asked a q)) hop.symm
  | fire a b =>
    dsimp only
    rw [if_pos hsub, if_pos hsub']
    exact congrArg (fun a => some (Sign.started a)) hop.symm
  | enter a =>
    dsimp only
    rw [if_pos hsub, if_pos hsub']
    rfl
  | answer a k =>
    dsimp only
    rw [if_pos hsub, if_pos hsub']
    rfl

theorem shown : w.shown w' h = u.shown u' h := by
  have hserial : ∀ o : Option Snapshot, (o.map (·.rename r)).map Snapshot.serial =
      (o.map Snapshot.serial).map r.serial := fun o => by cases o <;> rfl
  unfold World.shown
  rw [snapshot?_of_face? hr.ended.face, snapshot?_of_face? hr.ended.base.face, hserial, hserial,
    value?_of_face? hr.ended.face]
  exact if_congr (Option.map_injective r.serial_injective).eq_iff rfl rfl

/-- The same is seen of the secret in both engines. -/
theorem signs (hsub : w.subject? m = some h) :
    w.signs w' h m = (u.signs u' h m').map (·.rename r.op) := by
  have hx := hr.ended
  have hm := hx.base
  obtain ⟨hs, hu, hw⟩ := hx.history
  obtain ⟨hs', hu', hall'⟩ := hx.alone.history
  obtain rfl : hs = hs' := List.append_cancel_right (hu.symm.trans hu')
  obtain ⟨hs'', hw', hall⟩ := hx.shared.history
  obtain rfl : hs.map (·.rename r.op) = hs'' := List.append_cancel_right (hw.symm.trans hw')
  have hwant : Wanting w (r.op op) h := by
    rcases hr.wanting with rfl | ⟨q, hq, hwant⟩
    · exact .inl (hm.ops 0)
    · refine .inr ⟨q.rename r, ?_, (Point.wants?_rename r q).trans hwant⟩
      rw [hm.points, hq]
      rfl
  have hnews : (w.news w').filter (w.concerns h m) =
      ((u.news u').filter (u.concerns h m')).map (·.rename r.op) := by
    rw [news_eq hw, news_eq hu, List.filter_eq_self.mpr fun x hx => ?_,
      List.filter_eq_self.mpr fun x hx => ?_, List.map_reverse]
    · rw [concerns_of_isOf hm.alone hr.wanting hr.subject (hall' x (List.mem_reverse.mp hx))]
      exact decide_eq_true rfl
    · rw [concerns_of_isOf hm.shared hwant hsub (hall x (List.mem_reverse.mp hx))]
      exact decide_eq_true rfl
  rw [World.signs, World.signs, hr.cue? hsub, hnews, hr.shown, List.map_append, List.map_append,
    List.map_map, List.map_map]
  refine congr (congrArg _ ?_) (congr (congrArg _ rfl) ?_)
  · cases u.cue? h m' <;> rfl
  · unfold World.shown
    split <;> rfl

/-- Whatever is seen of an operation is seen of the one that gets on. -/
theorem operation_lt {x : Sign} (hx : x ∈ u.signs u' h m') {a : Nat} (ha : x.operation? = some a) :
    a < u'.nextOperation := by
  obtain ⟨_, _, _, _, _, hf⟩ := hr.ended.alone.frame
  obtain ⟨hs, hu, hall⟩ := hr.ended.alone.history
  suffices a = op from this ▸ hf.fresh
  have hsub := hr.subject
  simp only [World.signs, List.mem_append, List.mem_map, List.mem_filter, Option.mem_toList,
    news_eq hu, List.mem_reverse] at hx
  rcases hx with hx | ⟨y, ⟨hy, -⟩, rfl⟩ | hx
  · unfold World.cue? at hx
    rw [if_pos (isAlive_iff.mpr (.inl hr.ended.base.held))] at hx
    cases hr.renames <;>
      · dsimp only at hx
        rw [if_pos hsub] at hx
        cases hx
        cases ha
        rfl
  · have hof := hall y hy
    cases y with
    | published event => cases ha
    | called b k call =>
      cases ha
      exact hof.1
    | ended b o =>
      cases ha
      exact hof.1
  · unfold World.shown at hx
    split at hx
    · cases hx
    · cases List.mem_singleton.mp hx
      cases ha

end Reflected

/-! ## Runs -/

/-- As far as the secret is concerned, the same has been done by `ns` in the engine in which it is alone
as by `ms` in the one that it shares, with operations numbered as `σ` tells. -/
structure Shadows (h : Handle) (start solo : World) (σ : Nat → Nat) (ms : List Move) (w : World)
    (ns : List Move) (u : World) : Prop where
  shared : run? start ms = some w
  alone : run? solo ns = some u
  only : OnlyOn h solo ns
  seen : chronicle h start ms = (chronicle h solo ns).map fun x => (x.1, x.2.rename σ)
  numbered : ∀ x ∈ chronicle h solo ns, ∀ a, x.2.operation? = some a → a < u.nextOperation
  kept : w.isAlive = true → .release ∉ ns

namespace Shadows

variable (hx : Shadows h start solo σ ms w ns u) (hs : step w m = some w')

include hx

include hs in
/-- A step is taken in both. -/
theorem both (hs' : step u m' = some u') (hnow : w.now = u.now)
    (honly : u.subject? m' = some h ∨ m'.IsCommon) (hm' : m' ≠ .release)
    (hsigns : w.signs w' h m = (u.signs u' h m').map (·.rename σ))
    (hmono : u.nextOperation ≤ u'.nextOperation)
    (hlt : ∀ x ∈ u.signs u' h m', ∀ a, x.operation? = some a → a < u'.nextOperation) :
    Shadows h start solo σ (ms ++ [m]) w' (ns ++ [m']) u' where
  shared := run?_concat.mpr ⟨w, hx.shared, hs⟩
  alone := run?_concat.mpr ⟨u, hx.alone, hs'⟩
  only := hx.only.concat hx.alone honly
  seen := by
    rw [chronicle_concat hx.shared hs, chronicle_concat hx.alone hs', hx.seen, hsigns, hnow,
      List.map_append, List.map_map, List.map_map]
    rfl
  numbered x hmem a ha := by
    rw [chronicle_concat hx.alone hs', List.mem_append, List.mem_map] at hmem
    rcases hmem with hmem | ⟨y, hy, rfl⟩
    · exact Nat.lt_of_lt_of_le (hx.numbered x hmem a ha) hmono
    · exact hlt y hy a ha
  kept ha hmem := by
    rcases List.mem_append.mp hmem with hmem | hmem
    · exact hx.kept (alive_of_turn (turn_of_step hs) ha) hmem
    · exact hm' (List.mem_singleton.mp hmem).symm

include hs in
/-- A step in which nothing is seen of the secret is taken in both. -/
theorem quietly (hs' : step u m' = some u') (hm' : m'.IsCommon) (hne : m' ≠ .release)
    (hw : w.signs w' h m = []) (hu : u.signs u' h m' = [])
    (hnow : w.now = u.now) (hmono : u.nextOperation ≤ u'.nextOperation) :
    Shadows h start solo σ (ms ++ [m]) w' (ns ++ [m']) u' :=
  hx.both hs hs' hnow (.inr hm') hne (by rw [hw, hu]; rfl) hmono fun x hmem => by
    rw [hu] at hmem
    cases hmem

include hs in
/-- A step in which nothing is seen of the secret is taken in the shared engine only. -/
theorem one (hsigns : w.signs w' h m = []) (hσ : ∀ a < u.nextOperation, τ a = σ a) :
    Shadows h start solo τ (ms ++ [m]) w' ns u where
  shared := run?_concat.mpr ⟨w, hx.shared, hs⟩
  alone := hx.alone
  only := hx.only
  seen := by
    rw [chronicle_concat hx.shared hs, hsigns, hx.seen]
    refine (List.append_nil _).trans (List.map_congr_left fun x hmem => ?_)
    exact congrArg (x.1, ·) (Sign.rename_congr fun a ha => hσ a (hx.numbered x hmem a ha)).symm
  numbered := hx.numbered
  kept ha := hx.kept (alive_of_turn (turn_of_step hs) ha)

/-- The engine in which the secret is alone is let go. -/
theorem letGo (ho : Orderly u) (ha : w.isAlive = false) :
    Shadows h start solo σ ms w (ns ++ [.release]) u.release := by
  have hnext : u.release.nextOperation = u.nextOperation := by
    obtain ⟨_, _, he, -⟩ := reap_eq { u with held := false }
    rw [show u.release = _ from he]
  have hsigns := signs_release (h := h) ho.booked
  exact
    { shared := hx.shared
      alone := run?_concat.mpr ⟨u, hx.alone, rfl⟩
      only := hx.only.concat hx.alone (.inr trivial)
      seen := by
        rw [chronicle_concat (m := .release) hx.alone rfl, hsigns, hx.seen]
        exact congrArg _ (List.append_nil _).symm
      numbered := fun x hmem a hop => by
        rw [chronicle_concat (m := .release) hx.alone rfl, hsigns, List.map_nil, List.append_nil] at hmem
        rw [hnext]
        exact hx.numbered x hmem a hop
      kept := fun ha' => by rw [ha] at ha'; cases ha' }

end Shadows

/-- The engines mirror each other, or nobody holds them any more. -/
def Accompanied (r : Renaming) (h : Handle) (w u : World) : Prop :=
  Mirrors r h w u ∨ Deserted r h w u

/-- A step about the secret is taken in both engines; the other one is let go if it was the last. -/
theorem accompanied_of_own (hx : Shadows h start solo r.op ms w ns u) (hm : Mirrors r h w u)
    (hs : step w m = some w') (ho' : Orderly w') (hsub : w.subject? m = some h) :
    ∃ ns' u', Shadows h start solo r.op (ms ++ [m]) w' ns' u' ∧ Accompanied r h w' u' := by
  obtain ⟨m', u', op, hr⟩ := reflected_of_step hm hs hsub
  obtain ⟨_, _, _, _, _, hf⟩ := hr.ended.alone.frame
  have hou := orderly_of_step hm.alone hr.step hr.ended.unlocked.2
  have hy := hx.both hs hr.step hm.now (.inl hr.subject) (fun hrel => by subst hrel; cases hr.renames)
    (hr.signs hsub) hf.nextOperation fun x hmem a ha => hr.operation_lt hmem ha
  cases ha : w'.isAlive with
  | true => exact ⟨_, _, hy, .inl (hr.mirrors ho' hou ha)⟩
  | false =>
    exact ⟨_, _, hy.letGo hou ha,
      .inr (deserted_of_release hou (hr.operations_eq_nil ha) hr.ended.now hr.ended.face ha)⟩

/-- A step about another secret is taken in the shared engine only. -/
theorem accompanied_of_foreign (hx : Shadows h start solo r.op ms w ns u) (hm : Mirrors r h w u)
    (hs : step w m = some w') (ho' : Orderly w') (hsub : w.subject? m = some k) (hk : k ≠ h)
    (hc : Confined (w'.isAlive = true) w w' op k) (hw : Wanting w op k) :
    ∃ r' ns' u', Shadows h start solo (Renaming.op r') (ms ++ [m]) w' ns' u' ∧
      Accompanied r' h w' u' := by
  have hsigns := signs_of_foreign hm.shared hc hw hsub hk
  cases ha : w'.isAlive with
  | true =>
    obtain ⟨r', hm', hagree⟩ := hm.foreign hc hw hk ho' ha
    exact ⟨r', _, _, hx.one hs hsigns hagree, .inl hm'⟩
  | false =>
    obtain ⟨_, _, _, _, _, hf⟩ := hc.frame
    exact ⟨r, _, _, (hx.one hs hsigns fun _ _ => rfl).letGo hm.alone ha,
      .inr (deserted_of_release hm.alone (hm.operations_eq_nil hc hw hk ha) (hc.now.trans hm.now)
        ((hf.faces h (Ne.symm hk)).trans hm.face) ha)⟩

/-- Time passes and the scheduler is stopped in both engines; observers come and go in the shared
one, and so does who else holds it, up to the last one. -/
theorem accompanied_of_idle (hx : Shadows h start solo r.op ms w ns u) (hm : Mirrors r h w u)
    (hs : step w m = some w') (hi : Idles w m w') (ho' : Orderly w') :
    ∃ ns' u', Shadows h start solo r.op (ms ++ [m]) w' ns' u' ∧ Accompanied r h w' u' := by
  cases hi with
  | @elapses t =>
    obtain ⟨-, hu, hm'⟩ := hm.elapse hs
    exact ⟨_, _, hx.quietly hs (show step u (.elapse t) = _ from hu) trivial (fun hc => by cases hc)
      (signs_elapse ..)
      (signs_elapse ..) hm.now (Nat.le_refl _), .inl hm'⟩
  | stops =>
    have hsigns : ∀ {v : World}, v.isAlive = true → v.signs v.stop h .stop = [.stopped] :=
      fun {v} ha => by
        rw [show v.signs v.stop h .stop = _ from signs_of_same rfl rfl, World.cue?, if_pos ha]
        rfl
    have ha : u.isAlive = true := isAlive_iff.mpr (.inl hm.held)
    refine ⟨_, _, hx.both hs (show step u .stop = some u.stop from rfl) hm.now (.inr trivial)
      (fun hc => by cases hc) ?_
      (Nat.le_refl _) fun x hmem a hop => ?_, .inl hm.stop⟩
    · rw [hsigns hm.alive, hsigns ha]
      rfl
    · rw [hsigns ha, List.mem_singleton] at hmem
      subst hmem
      cases hop
  | releases =>
    have hy := hx.one hs (signs_release hm.shared.booked) fun _ _ => rfl
    cases ha : w.release.isAlive with
    | true => exact ⟨_, _, hy, .inl (hm.release ha)⟩
    | false => exact ⟨_, _, hy.letGo hm.alone ha, .inr (hm.deserted ha)⟩
  | listens =>
    exact ⟨_, _, hx.one hs (signs_eq_nil rfl rfl (cue?_of_none rfl fun hc => by cases hc))
      fun _ _ => rfl, .inl (hm.hear ho')⟩
  | unlistens =>
    exact ⟨_, _, hx.one hs (signs_eq_nil rfl rfl (cue?_of_none rfl fun hc => by cases hc))
      fun _ _ => rfl, .inl (hm.hear ho')⟩

/-- In engines that nobody holds, only time passes. -/
theorem accompanied_of_deserted (hx : Shadows h start solo σ ms w ns u) (hd : Deserted r h w u)
    (hb : w.Booked) (hs : step w m = some w') :
    ∃ ns' u', Shadows h start solo σ (ms ++ [m]) w' ns' u' ∧ Deserted r h w' u' := by
  rcases hd.turn hb (turn_of_step hs) with ⟨t, rfl, rfl⟩ | ⟨hd', hh, hf⟩
  · have hle : w.now ≤ t := by
      simp only [Leases.step, World.elapse] at hs
      split at hs
      · exact (‹_ ∧ _›).1
      · cases hs
    obtain ⟨hu, hd'⟩ := hd.elapse hle
    exact ⟨_, _, hx.quietly hs (show step u (.elapse t) = _ from hu) trivial (fun hc => by cases hc)
      (signs_elapse ..)
      (signs_elapse ..) hd.now (Nat.le_refl _), hd'⟩
  · exact ⟨_, _, hx.one hs (signs_eq_nil hh (hf h) (cue?_of_dead hd.shared)) fun _ _ => rfl, hd'⟩

theorem accompanied_of_step (hx : Shadows h start solo r.op ms w ns u) (ha : Accompanied r h w u)
    (ho : Orderly w) (hs : step w m = some w') (hd : w'.destroyed = false) :
    ∃ r' ns' u', Shadows h start solo (Renaming.op r') (ms ++ [m]) w' ns' u' ∧
      Accompanied r' h w' u' := by
  have ho' := orderly_of_step ho hs hd
  rcases ha with hm | hd
  · rcases confined_of_turn ho (turn_of_step hs) hd hm.alive with ⟨k, hsub, op, hc, hw⟩ | ⟨-, hi⟩
    · by_cases hk : k = h
      · subst hk
        exact ⟨r, accompanied_of_own hx hm hs ho' hsub⟩
      · exact accompanied_of_foreign hx hm hs ho' hsub hk hc hw
    · exact ⟨r, accompanied_of_idle hx hm hs hi ho'⟩
  · obtain ⟨ns', u', hy, hd'⟩ := accompanied_of_deserted hx hd ho.booked hs
    exact ⟨r, ns', u', hy, .inr hd'⟩

/-! ## The result -/

/-- A server to which only the calls for the secret matter answers as before when the secret is alone. -/
theorem ServedBy.of_rename {server : List (Instant × Call) → Instant × Reply → Prop}
    {c : List (Instant × Sign)} (hσ : Function.Injective σ)
    (hc : ServedBy server (c.map fun x => (x.1, x.2.rename σ))) : ServedBy server c := by
  have hcalls : ∀ l : List (Instant × Sign), callsOf (l.map fun x => (x.1, x.2.rename σ)) = callsOf l :=
    fun l => by
      unfold callsOf
      rw [List.filterMap_map]
      refine List.filterMap_congr fun x _ => ?_
      obtain ⟨t, _ | _ | _ | _ | _ | (_ | _ | _) | _⟩ := x <;> rfl
  rintro earlier meanwhile later op t i l call k rfl hlast
  have := hc (earlier.map fun x => (x.1, x.2.rename σ)) (meanwhile.map fun x => (x.1, x.2.rename σ))
    (later.map fun x => (x.1, x.2.rename σ)) (σ op) t i l call k
    (by simp only [List.map_append, List.map_cons]; rfl) fun x hmem h' call' heq => ?_
  · rwa [hcalls] at this
  · obtain ⟨y, hy, rfl⟩ := List.mem_map.mp hmem
    exact hlast y hy h' call' (Sign.rename_injective hσ heq)

/-- As far as the secret is concerned, the run is as one of an engine in which it is alone. -/
structure AsIfAlone (h : Handle) (start : World) (ms : List Move) (v : World) (σ : Nat → Nat)
    (ns : List Move) (u : World) : Prop where
  /-- No two operations are given the same number. -/
  injective : Function.Injective σ
  runs : run? (start.solitary h) ns = some u
  only : OnlyOn h (start.solitary h) ns
  now : u.now = v.now
  /-- In the end the same is read of the secret. -/
  value : v.value? h = u.value? h
  /-- Nobody lets go while the shared engine is held. -/
  kept : v.isAlive = true → .release ∉ ns
  seen : chronicle h start ms =
    (chronicle h (start.solitary h) ns).map fun x => (x.1, x.2.rename σ)
  /-- A server for which only the calls for the secret matter answers in the one as in the other. -/
  served : ∀ server, ServedBy server (chronicle h start ms) →
    ServedBy server (chronicle h (start.solitary h) ns)
  /-- While the shared engine is held, any run in which the same is done about the secret has that
  chronicle. -/
  any : v.isAlive = true → ∀ ks w, run? (start.solitary h) ks = some w →
    OnlyOn h (start.solitary h) ks → .release ∉ ks →
    deeds (chronicle h start ms) =
      (deeds (chronicle h (start.solitary h) ks)).map (fun x => (x.1, x.2.rename σ)) →
    chronicle h start ms = (chronicle h (start.solitary h) ks).map fun x => (x.1, x.2.rename σ)

theorem orderly_solitary (settings : Settings) (d : Discipline) (draws : Nat → Nat) (h : Handle) :
    Orderly ((initial settings d draws).solitary h) :=
  have ho := orderly_initial settings d draws
  { ho with
    booked := ho.booked.same rfl fun _ => rfl
    calm := { ho.calm with known := fun _ _ he => by cases he }
    silent := fun _ _ => rfl }

theorem mirrors_initial {t : FixedTrigger} (hrand : t.isRandom = false) (strategy : Strategy)
    (increment : Option Span) (draws : Nat → Nat) (h : Handle) :
    Mirrors ⟨id, id, Function.injective_id, Function.injective_id⟩ h
      (initial ⟨.fixed t, strategy, increment⟩ .timed draws)
      ((initial ⟨.fixed t, strategy, increment⟩ .timed draws).solitary h) where
  shared := orderly_initial ..
  alone := orderly_solitary ..
  now := rfl
  fixed := ⟨t, rfl, rfl, hrand⟩
  strategy := rfl
  increment := rfl
  unlocked := ⟨rfl, rfl⟩
  timed := ⟨rfl, rfl⟩
  stopped := rfl
  alive := rfl
  held := rfl
  face := rfl
  points _ := rfl
  onto _ _ hq := by cases hq
  plan := rfl
  ops _ := rfl
  serials _ := rfl
  next _ := rfl
  faceDated _ _ he := by cases he
  pointsDated _ _ _ hq := by cases hq
  planDated _ hx := by cases hx
  faces _ _ := rfl
  wants _ _ hq := by cases hq
  live _ ht := by cases ht

/-- A run is followed step by step. -/
theorem accompanied_of_run (hm : Mirrors r h start solo) (hd : .begin .destroy ∉ ms)
    (hrun : run? start ms = some v) :
    ∃ r' ns u, Shadows h start solo (Renaming.op r') ms v ns u ∧ Accompanied r' h v u ∧
      Orderly v ∧ v.destroyed = false := by
  induction ms using List.reverseRecOn generalizing v with
  | nil =>
    cases hrun
    exact ⟨r, [], solo,
      { shared := rfl
        alone := rfl
        only := fun ks k _ hpre => by simp at hpre
        seen := rfl
        numbered := fun _ hmem => by cases hmem
        kept := fun _ hmem => by cases hmem },
      .inl hm, hm.shared, hm.unlocked.1⟩
  | append_singleton ms m ih =>
    obtain ⟨w, hw, hs⟩ := run?_concat.mp hrun
    obtain ⟨r', ns, u, hx, ha, ho, hunlocked⟩ := ih (fun hmem => hd (List.mem_append_left _ hmem)) hw
    have hd' : v.destroyed = false :=
      (destroyed_of_other_turn (turn_of_step hs) fun hmem => hd (by simp [hmem])).trans hunlocked
    obtain ⟨r'', ns', u', hx', ha'⟩ := accompanied_of_step hx ha ho hs hd'
    exact ⟨r'', ns', u', hx', ha', orderly_of_step ho hs hd', hd'⟩

theorem deeds_rename (σ : Nat → Nat) (c : List (Instant × Sign)) :
    deeds (c.map fun x => (x.1, x.2.rename σ)) = (deeds c).map fun x => (x.1, x.2.rename σ) := by
  unfold deeds
  rw [List.filter_map]
  refine congrArg _ (List.filter_congr fun x _ => ?_)
  obtain ⟨t, x⟩ := x
  cases x <;> rfl

/-- However slow or failing the other secrets are, as far as a secret is concerned a run is as one of an
engine in which it is alone. -/
theorem independent {t : FixedTrigger} {strategy : Strategy} {increment : Option Span}
    {draws : Nat → Nat} (hrand : t.isRandom = false) (hd : .begin .destroy ∉ ms)
    (hrun : run? (initial ⟨.fixed t, strategy, increment⟩ .timed draws) ms = some v) (h : Handle) :
    ∃ σ ns u, AsIfAlone h (initial ⟨.fixed t, strategy, increment⟩ .timed draws) ms v σ ns u := by
  have hm := mirrors_initial hrand strategy increment draws h
  obtain ⟨r, ns, u, hx, ha, -⟩ := accompanied_of_run hm hd hrun
  refine ⟨r.op, ns, u,
    { injective := r.op_injective
      runs := hx.alone
      only := hx.only
      now := ?_
      value := ?_
      kept := hx.kept
      seen := hx.seen
      served := fun server hserved => (hx.seen ▸ hserved).of_rename r.op_injective
      any := fun hal ks w hks honly hrel hdeeds => ?_ }⟩
  · rcases ha with hm | hd
    · exact hm.now.symm
    · exact hd.now.symm
  · rcases ha with hm | hd
    · exact value?_of_face? hm.face
    · exact value?_of_face? hd.face
  · have hkept : Kept ((initial ⟨.fixed t, strategy, increment⟩ .timed draws).solitary h) :=
      ⟨hm.alone, rfl, rfl, rfl⟩
    have hinj : Function.Injective fun x : Instant × Sign => (x.1, x.2.rename r.op) := fun x y hxy =>
      Prod.ext (Prod.mk.inj hxy).1 (Sign.rename_injective r.op_injective (Prod.mk.inj hxy).2)
    rw [hx.seen, deeds_rename] at hdeeds
    rw [hx.seen]
    exact congrArg _ (chronicle_of_deeds hkept hx.alone hks hx.only honly (hx.kept hal) hrel
      (List.map_injective_iff.mpr hinj hdeeds))

/-- An engine under the trigger of ten seconds, without jitter. -/
def metronome : World := initial ⟨.fixed tenSeconds, .dropOnError, none⟩ .timed fun _ => 0

/-- A lease of a minute that is granted after so many seconds. -/
def minuteFrom (seconds : Nat) : Lease := .granted ⟨seconds * 1000⟩ "lease" (.ofSeconds 60) true

/-- Two secrets are renewed; for the one the server takes five seconds and fails, for the other it
answers at once. -/
def slowBesideQuick : List Move :=
  [.begin (.add ⟨"slow", .rotating⟩ "kv"), .begin (.add ⟨"quick", .rotating⟩ "kv"),
    .answer 0 (.fetched (.ok (some ⟨[], minuteFrom 0⟩))),
    .answer 1 (.fetched (.ok (some ⟨[("key", .nat 1)], minuteFrom 0⟩))),
    .elapse ⟨50000⟩, .fire 1, .fire 2, .answer 3 (.renewal (.ok (minuteFrom 50))),
    .elapse ⟨55000⟩, .answer 2 (.renewal (.error (.notFound "lease")))]

/-- The other secret has been renewed in that run, as if it were alone. -/
theorem independent_of_slow :
    ∃ v σ ns u, run? metronome slowBesideQuick = some v ∧
      v.value? ⟨2⟩ = some (minuteFrom 50, [("key", .nat 1)]) ∧
      AsIfAlone ⟨2⟩ metronome slowBesideQuick v σ ns u := by
  obtain ⟨v, hrun, hvalue⟩ : ∃ v, run? metronome slowBesideQuick = some v ∧
      v.value? ⟨2⟩ = some (minuteFrom 50, [("key", .nat 1)]) := ⟨_, rfl, rfl⟩
  obtain ⟨σ, ns, u, halone⟩ := independent (t := tenSeconds) (by decide) (by simp [slowBesideQuick])
    hrun ⟨2⟩
  exact ⟨v, σ, ns, u, hrun, hvalue, halone⟩

end LeaseKeeper.Leases
