import LeaseKeeper.Proofs.Leases.Joining
import LeaseKeeper.Proofs.Leases.Partings
import LeaseKeeper.Proofs.Leases.Removal

/-!
# Following one operation through a run

A run takes the steps that it passes (`Passes`), and in most of them a given operation is not named. It
stays where it is then, and what its entry was asked for stays too (`Engaged.stays`). So an operation
that only ever moves from one of its points to another, or ends, is at one of them whenever it is named
(`Engaged.of_passes`), and it has ended as it did in a step that named it (`Engaged.outcome?_iff`).
-/

namespace LeaseKeeper.Leases

open World

variable {w w' u v : World} {m : Move} {ns ks : List Move} {op : Nat} {h : Handle} {e f : Entry}
  {o : Outcome}

/-- The run takes that step. -/
def Passes (start : World) (ms : List Move) (w : World) (m : Move) (w' : World) : Prop :=
  ∃ ns, ns ++ [m] <+: ms ∧ run? start ns = some w ∧ step w m = some w'

theorem Passes.append (hp : Passes w ns u m v) (ks : List Move) : Passes w (ns ++ ks) u m v := by
  obtain ⟨os, hpre, hu, hs⟩ := hp
  exact ⟨os, hpre.trans (List.prefix_append ns ks), hu, hs⟩

theorem passes_last (hu : run? w ns = some u) (hs : step u m = some v) :
    Passes w (ns ++ [m]) u m v :=
  ⟨ns, List.prefix_rfl, hu, hs⟩

/-- What is left of the run after a step that it passes. -/
theorem Passes.rest (hp : Passes w ns u m v) (hrun : run? w ns = some w') :
    ∃ os ks, ns = os ++ m :: ks ∧ run? w os = some u ∧ run? v ks = some w' := by
  obtain ⟨os, ⟨ks, rfl⟩, hu, hs⟩ := hp
  refine ⟨os, ks, by simp, hu, ?_⟩
  rw [run?_append, run?_concat.mpr ⟨u, hu, hs⟩] at hrun
  exact hrun

/-- An engine that is not shut down later was not before. -/
theorem not_destroyed_of_run (hrun : run? w ns = some v) (hd : v.destroyed = false) :
    w.destroyed = false := by
  by_contra hw
  cases hd.symm.trans (destroyed_of_run (by simpa using hw) hrun)

/-! ## What stays while others get on -/

/-- What a secret was asked for with stays as long as it is known. -/
theorem request_of_act (hw : Sound w) (ha : Act w m w') (he : w.face? h = some e)
    (he' : w'.face? h = some f) : f.request = e.request ∧ f.source = e.source := by
  cases ha with
  | aside ha _ _ | misses ha _ _ _ _ =>
    rw [ha.faces, he] at he'
    cases he'
    exact ⟨rfl, rfl⟩
  | @does u op k face p hs care g rm hd hx hu _ _ =>
    obtain ⟨_, _, hf⟩ := hx.frame
    rw [(Aside.told (hw.of_does hd hx) hu).faces] at he'
    by_cases hk : h = k
    · subst hk
      rw [hf.face] at he'
      have hsame : ∀ {e'}, w.face? h = some e' → e' = e := fun he' => Option.some.inj (he'.symm.trans he)
      cases hd with
      | adds _ _ hser _ _ _ _ =>
        exact absurd (hw.known h e he) (by rw [hser]; exact Nat.lt_irrefl _)
      | forgets _ _ _ _ => cases he'
      | registers _ hold _ _ _ | joins hold _ _ _ _ _ | passes hold _ _ _ _ _ | renews hold _ _ _ _ _
      | fetches hold _ _ _ _ | installs hold _ _ _ _ _ _ | waits hold _ _ _ | takes hold _ _ _
      | returned hold _ _ _ =>
        obtain rfl := hsame hold
        cases he'
        exact ⟨rfl, rfl⟩
    · rw [hf.faces h hk, he] at he'
      cases he'
      exact ⟨rfl, rfl⟩

/-- A move resumes an operation that is under way. -/
theorem point_of_mover (ht : Turn w m w') (hm : m.mover? = some op) : ∃ q, w.point? op = some q := by
  cases ht with
  | runs hf => cases hf <;> cases hm
  | enters hq _ _ | opens hq | fetchedFirst hq | fetchedAgain hq | renewed hq | revoked hq =>
    cases hm
    exact ⟨_, hq⟩
  | _ => cases hm

theorem World.Joined.of_turn (hj : Joined w) (hw : Sound w) (ht : Turn w m w') : Joined w' := by
  by_cases hm : m = .release
  · subst hm
    cases ht with
    | runs hf => cases hf
    | releases =>
      obtain ⟨_, _, he, -⟩ := reap_eq { w with held := false }
      rw [show w.release = _ from he]
      exact ⟨hj.children, hj.gone⟩
  · exact (motion_of_turn hw hm ht).joined hw hj

theorem World.Joined.of_run (hj : Joined w) (hw : Sound w) (hrun : run? w ns = some v) : Joined v :=
  (run?_keeps (P := fun x => Sound x ∧ Joined x)
    (fun hx ht => ⟨hx.1.of_turn ht, hx.2.of_turn hx.1 ht⟩) ⟨hw, hj⟩ hrun).2

/-- Whose outcome is known has ended. -/
theorem World.Joined.concluded (hj : Joined w) (ho : w.outcome? op = some o) : Concluded w op o := by
  refine ⟨hj.gone_of_outcome? ho, ?_, ho⟩
  obtain ⟨x, hx, he⟩ := List.exists_of_findSome?_eq_some ho
  split at he
  · rename_i a r
    obtain ⟨ha, -⟩ := Option.ite_none_right_eq_some.mp he
    exact eq_of_beq ha ▸ (hj.gone a r hx).1
  · cases he

/-- What has ended keeps its outcome. -/
theorem World.Joined.outcome?_of_run (hj : Joined w) (hw : Sound w) (ho : w.outcome? op = some o)
    (hrun : run? w ns = some v) : v.outcome? op = some o :=
  (run?_keeps (P := fun x => Sound x ∧ Concluded x op o)
    (fun hx ht => ⟨hx.1.of_turn ht, hx.2.of_act hx.1 (act_of_turn hx.1 ht)⟩)
    ⟨hw, hj.concluded ho⟩ hrun).2.outcome

theorem Passes.outcome? (hp : Passes w ns u m v) (hj : Joined w) (hw : Sound w)
    (hrun : run? w ns = some w') (ho : v.outcome? op = some o) : w'.outcome? op = some o := by
  obtain ⟨os, ks, -, hu, hrest⟩ := hp.rest hrun
  obtain ⟨-, -, -, hs⟩ := hp
  have hv := run?_concat.mpr ⟨u, hu, hs⟩
  exact (hj.of_run hw hv).outcome?_of_run (hw.of_run hv) ho hrest

/-- The operation stands at one of these points, for an entry that was asked for so. -/
structure Engaged (Q : Point → Prop) (op : Nat) (h : Handle) (request : SecretRequest) (source : String)
    (w : World) : Prop where
  point : ∃ q, w.point? op = some q ∧ Q q
  asked : ∀ e, w.face? h = some e → e.request = request ∧ e.source = source

section engaged

variable {Q : Point → Prop} {request : SecretRequest} {source : String}
  (hQ : ∀ q, Q q → q.wants? = some h)

include hQ

/-- The entry that an operation is engaged with is there. -/
theorem Engaged.entry (he : Engaged Q op h request source w) (hw : Sound w) :
    ∃ e, w.entry? h = some e ∧ e.request = request ∧ e.source = source := by
  obtain ⟨q, hq, hQq⟩ := he.point
  obtain ⟨e, hentry, -, hface, -⟩ := entry_of_point hw hq (hQ q hQq)
  exact ⟨e, hentry, he.asked e.bare hface⟩

theorem Engaged.asked_of_turn (he : Engaged Q op h request source w) (hw : Sound w)
    (ht : Turn w m w') (e : Entry) (hface : w'.face? h = some e) :
    e.request = request ∧ e.source = source := by
  obtain ⟨q, hq, hQq⟩ := he.point
  obtain ⟨f, hf⟩ := hw.wanted op q h hq (hQ q hQq)
  obtain ⟨hr, hs⟩ := request_of_act hw (act_of_turn hw ht) hf hface
  obtain ⟨hr', hs'⟩ := he.asked f hf
  exact ⟨hr.trans hr', hs.trans hs'⟩

/-- While others get on, an operation stays where it is. -/
theorem Engaged.stays (he : Engaged Q op h request source w) (hw : Sound w) (ht : Turn w m w')
    (hm : m.mover? ≠ some op) : Engaged Q op h request source w' := by
  refine ⟨?_, he.asked_of_turn hQ hw ht⟩
  obtain ⟨q, hq, hQq⟩ := he.point
  have hj : q.isJoining = false := by
    have hwants := hQ q hQq
    cases q with
    | joining => cases hwants
    | _ => rfl
  refine ⟨q, ?_, hQq⟩
  by_cases hrel : m = .release
  · subst hrel
    cases ht with
    | runs hf => cases hf
    | releases =>
      rw [World.point?, show w.release.operations = w.operations from ?_]
      · exact hq
      · obtain ⟨_, _, hr, -⟩ := reap_eq { w with held := false }
        rw [show w.release = _ from hr]
  · exact (motion_of_turn hw hrel ht).stays hw hq hj hm

omit hQ in
/-- An operation has not ended while it is engaged. -/
theorem Engaged.outcome?_eq_none (he : Engaged Q op h request source w) (hj : Joined w) :
    w.outcome? op = none := by
  obtain ⟨q, hq, -⟩ := he.point
  cases ho : w.outcome? op with
  | none => rfl
  | some o => cases (hj.gone_of_outcome? ho).symm.trans hq

end engaged

/-! ## Runs -/

/-- An operation that is named has not ended. -/
theorem Passes.outcome?_eq_none (hp : Passes w ns u m v) (hj : Joined w) (hw : Sound w)
    (hm : m.mover? = some op) : u.outcome? op = none := by
  obtain ⟨os, -, hu, hs⟩ := hp
  obtain ⟨q, hq⟩ := point_of_mover (turn_of_step hs) hm
  cases ho : u.outcome? op with
  | none => rfl
  | some o => cases ((hj.of_run hw hu).gone_of_outcome? ho).symm.trans hq

theorem World.Joined.not_mover (hj : Joined w) (hw : Sound w) (ho : w.outcome? op = some o)
    (hp : Passes w ns u m v) : m.mover? ≠ some op := fun hm => by
  have hn := hp.outcome?_eq_none hj hw hm
  obtain ⟨os, -, hu, -⟩ := hp
  cases hn.symm.trans (hj.outcome?_of_run hw ho hu)

section follows

variable {Q : Point → Prop} {R : World → Move → World → Prop} {request : SecretRequest}
  {source : String} (hQ : ∀ q, Q q → q.wants? = some h)
  (hown : ∀ {u m u'}, Sound u → u'.destroyed = false → Engaged Q op h request source u →
    Turn u m u' → m.mover? = some op →
    R u m u' ∧ ((∃ q, u'.point? op = some q ∧ Q q) ∨ ∃ o, u'.outcome? op = some o))
  (hw : Sound w) (hj : Joined w) (hstart : Engaged Q op h request source w)

include hQ hown hw hj hstart

/-- An operation that moves from one of its points to another, or ends, is at one of them until then. -/
theorem Engaged.of_run (hrun : run? w ns = some v) (hd : v.destroyed = false) :
    Engaged Q op h request source v ∨ ∃ o, v.outcome? op = some o := by
  induction ns using List.reverseRecOn generalizing v with
  | nil => cases hrun; exact .inl hstart
  | append_singleton ns m ih =>
    obtain ⟨u, hu, hs⟩ := run?_concat.mp hrun
    have ht := turn_of_step hs
    have hsound := hw.of_run hu
    rcases ih hu (destroyed_of_turn ht hd) with he | ⟨o, ho⟩
    · by_cases hm : m.mover? = some op
      · refine (hown hsound hd he ht hm).2.imp_left fun hq => ⟨hq, he.asked_of_turn hQ hsound ht⟩
      · exact .inl (he.stays hQ hsound ht hm)
    · have hc := (hj.of_run hw hu).concluded ho
      exact .inr ⟨o, (hc.of_act hsound (act_of_turn hsound ht)).outcome⟩

/-- What its own steps do holds whenever a run names it. -/
theorem Engaged.of_passes (hrun : run? w ns = some v) (hd : v.destroyed = false) {u u' : World}
    (hp : Passes w ns u m u') (hm : m.mover? = some op) : R u m u' := by
  have hn := hp.outcome?_eq_none hj hw hm
  obtain ⟨os, ks, -, hu, hrest⟩ := hp.rest hrun
  obtain ⟨-, -, -, hs⟩ := hp
  have ht := turn_of_step hs
  have hd' := not_destroyed_of_run hrest hd
  rcases Engaged.of_run hQ hown hw hj hstart hu (destroyed_of_turn ht hd') with he | ⟨o, ho⟩
  · exact (hown (hw.of_run hu) hd' he ht hm).1
  · cases hn.symm.trans ho

/-- It has ended as it did in a step of its own. -/
theorem Engaged.outcome?_iff (hrun : run? w ns = some v) (hd : v.destroyed = false) :
    v.outcome? op = some o ↔
      ∃ u m u', Passes w ns u m u' ∧ m.mover? = some op ∧ u'.outcome? op = some o := by
  constructor
  · intro ho
    induction ns using List.reverseRecOn generalizing v with
    | nil =>
      cases hrun
      cases (hstart.outcome?_eq_none hj).symm.trans ho
    | append_singleton ns m ih =>
      obtain ⟨u, hu, hs⟩ := run?_concat.mp hrun
      have ht := turn_of_step hs
      have hdu := destroyed_of_turn ht hd
      have hsound := hw.of_run hu
      by_cases hm : m.mover? = some op
      · exact ⟨u, m, v, passes_last hu hs, hm, ho⟩
      have hsame : u.outcome? op = some o := by
        rcases Engaged.of_run hQ hown hw hj hstart hu hdu with he | ⟨o', ho'⟩
        · -- It is not named, so it would still be engaged.
          have hnone := (he.stays hQ hsound ht hm).outcome?_eq_none (hj.of_run hw hrun)
          cases hnone.symm.trans ho
        · have hc := (hj.of_run hw hu).concluded ho'
          rw [← ho, ho']
          exact (hc.of_act hsound (act_of_turn hsound ht)).outcome.symm
      obtain ⟨x, k, x', hp, hk, hx⟩ := ih hu hdu hsame
      exact ⟨x, k, x', hp.append [m], hk, hx⟩
  · rintro ⟨u, m, u', hp, -, ho⟩
    exact hp.outcome? hj hw hrun ho

end follows

end LeaseKeeper.Leases
