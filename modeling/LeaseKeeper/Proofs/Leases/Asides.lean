import LeaseKeeper.Proofs.Leases.Onward
import LeaseKeeper.Proofs.Leases.Soundness

/-!
# What happens beside the entries

Operations begin and end, removals of a shutdown are told apart and counted, and the last holder
lets go: none of that matters to the entries (`Aside`), and what has ended stays so
(`Concluded.aside`). Shutting down is such a thing, since it only makes room for the removals
(`aside_destroy`).
-/

namespace LeaseKeeper.Leases

open World

variable {w u v : World} {op : Nat} {h : Handle} {e : Entry} {hs : List Happening}

namespace World

/-- Ending an operation changes nothing else but tasks and their slots. -/
theorem finish_eq (w : World) (op : Nat) (o : Outcome) : ∃ s es, w.finish op o =
    { w with
      operations := w.operations.filter (·.1 != op)
      history := .ended op o :: w.history
      schedule := s
      entries := es } := by
  obtain ⟨s, es, he, -⟩ :=
    World.reap_eq (({ w with operations := w.operations.filter (·.1 != op) }).note (.ended op o))
  exact ⟨s, es, he⟩

theorem point?_finish (w : World) (op : Nat) (o : Outcome) (a : Nat) :
    (w.finish op o).point? a = if a = op then none else w.point? a := by
  obtain ⟨_, _, he⟩ := w.finish_eq op o
  rw [he]
  exact lookup_filter ..

end World

namespace Aside

theorem refl (hw : Sound w) : Aside w w :=
  ⟨fun _ => rfl, fun _ _ _ => Iff.rfl, fun _ _ _ _ hq _ _ => hq, hw.fresh,
    fun _ hq hn => absurd hn hq, ⟨[], rfl, fun _ hx => by cases hx⟩, Nat.le_refl _, Nat.le_refl _,
    hw.booked, fun _ => id, .inl⟩

/-- A change that leaves entries and operations alone, and starts no task. -/
theorem same (hw : Sound w) (he : ∀ k, u.face? k = w.face? k) (ho : u.operations = w.operations)
    (hh : u.history = w.history) (hn : w.nextOperation ≤ u.nextOperation)
    (hk : u.nextHandle = w.nextHandle) (hd : u.destroyed = w.destroyed) (hb : u.Booked)
    (hl : ∀ t ∈ u.schedule.live, t ∈ w.schedule.live) : Aside w u := by
  have hpoint : ∀ a, u.point? a = w.point? a := fun a => by unfold World.point?; rw [ho]
  refine ⟨he, fun a q _ => by rw [hpoint], fun a k parent _ hq _ _ => (hpoint a).trans hq,
    fun a q hq => Nat.lt_of_lt_of_le (hw.fresh a q (hpoint a ▸ hq)) hn,
    fun a hq hn => absurd hn (hpoint a ▸ hq), ⟨[], hh, fun _ hx => by cases hx⟩, hn,
    Nat.le_of_eq hk.symm, hb, hl, fun hd' => .inl (hd ▸ hd')⟩

theorem enroll (hw : Sound w) : Aside w w.enroll.2 :=
  .same hw (fun _ => rfl) rfl rfl (Nat.le_succ _) rfl rfl (hw.booked.same rfl fun _ => rfl)
    fun _ => id

/-- An operation that wants nothing and has nothing to remove ends. -/
theorem finish (ha : Aside w u) (hop : ∀ q, u.point? op = some q → q.wants? = none)
    (hopen : ∀ k parent f, u.point? op = some (.opening k parent) → w.face? k = some f →
      f.standing ≠ .registered)
    (hnew : w.point? op = none → w.nextOperation ≤ op) (o : Outcome) : Aside w (u.finish op o) := by
  have hend : ({ u with operations := u.operations.filter (·.1 != op) }.note
      (.ended op o)).Booked := ha.booked.same rfl fun _ => rfl
  obtain ⟨hb, hl, hf⟩ : (u.finish op o).Booked ∧
      (∀ t ∈ (u.finish op o).schedule.live, t ∈ u.schedule.live) ∧
      ∀ k, (u.finish op o).face? k = u.face? k := hend.reap
  have hpoint := point?_finish u op o
  have hh := history_finish u op o
  have hn : (u.finish op o).nextOperation = u.nextOperation ∧
      (u.finish op o).nextHandle = u.nextHandle := by
    obtain ⟨_, _, he⟩ := finish_eq u op o
    rw [he]
    exact ⟨rfl, rfl⟩
  have hd := destroyed_finish u op o
  generalize u.finish op o = u' at *
  obtain ⟨ks, hk, hks⟩ := ha.history
  have hkept : ∀ {a k parent f}, w.face? k = some f → f.standing = .registered →
      u.point? a = some (.opening k parent) → u'.point? a = some (.opening k parent) :=
    fun {a k parent f} he hs hq => by
      have hao : a ≠ op := fun hao => hopen k parent f (hao ▸ hq) he hs
      rw [hpoint, if_neg hao]
      exact hq
  refine ⟨fun k => (hf k).trans (ha.faces k), fun a q hq => ?_,
    fun a k parent f hq he hs => hkept he hs (ha.opens a k parent f hq he hs),
    fun a q hq => ?_, fun a hq => ha.stands a fun hn => hq ?_,
    ⟨.ended op o :: ks, ?_, fun x hx => ?_⟩, hn.1 ▸ ha.nextOperation, hn.2 ▸ ha.nextHandle, hb,
      fun t ht => ha.live t (hl t ht), fun hd' => ?_⟩
  · rw [hpoint, ← ha.wants a q hq]
    by_cases hao : a = op
    · rw [if_pos hao]
      exact iff_of_false (by simp) fun hq' => hq (hop q (hao ▸ hq'))
    · rw [if_neg hao]
  · rw [hpoint] at hq
    split at hq
    · cases hq
    · exact hn.1 ▸ ha.fresh a q hq
  · rw [hpoint, hn, ite_self]
  · rw [hh, hk]
    rfl
  · rcases List.mem_cons.mp hx with rfl | hx
    · exact ⟨op, o, rfl, hnew⟩
    · exact hks x hx
  · refine (ha.shut (hd ▸ hd')).imp_right fun hnew k f hf' hs => ?_
    rw [hf] at hf'
    obtain ⟨a, parent, hq⟩ := hnew k f hf' hs
    exact ⟨a, parent, hkept (ha.faces k ▸ hf') hs hq⟩

/-- An operation that waits for removals waits for fewer. -/
theorem rejoin (ha : Aside w u) {n : Nat} (hq : u.point? op = some (.joining n)) (n' : Nat) :
    Aside w (u.setPoint op (.joining n')) := by
  have hpoint : ∀ a q, q ≠ .joining n → q ≠ .joining n' →
      ((u.setPoint op (.joining n')).point? a = some q ↔ u.point? a = some q) :=
    fun a q hne hne' => by
    rw [point?_setPoint]
    by_cases hao : a = op
    · rw [if_pos hao, hao, hq]
      exact iff_of_false (by simpa using hne'.symm) (by simpa using hne.symm)
    · rw [if_neg hao]
  refine ⟨ha.faces, fun a q hwk => ?_, fun a k parent f hq' he hs => ?_, fun a q hq' => ?_,
    fun a hq' hn => ha.stands a ?_ hn, ha.history, ha.nextOperation, ha.nextHandle,
    ha.booked.same rfl fun _ => rfl, ha.live, fun hd => ?_⟩
  · rw [hpoint a q (by rintro rfl; exact hwk rfl) (by rintro rfl; exact hwk rfl)]
    exact ha.wants a q hwk
  · exact (hpoint a _ (by simp) (by simp)).mpr (ha.opens a k parent f hq' he hs)
  · rw [point?_setPoint] at hq'
    split at hq'
    · rename_i hao
      exact hao ▸ ha.fresh op _ hq
    · exact ha.fresh a q hq'
  · rw [point?_setPoint] at hq'
    split at hq'
    · rename_i hao
      rw [hao, hq]
      simp
    · exact hq'
  · refine (ha.shut hd).imp_right fun hnew k f hf hs => ?_
    obtain ⟨a, parent, hq'⟩ := hnew k f hf hs
    exact ⟨a, parent, (hpoint a _ (by simp) (by simp)).mpr hq'⟩

/-- The operation that waits for the end of removals hears of one. -/
theorem childEnded (ha : Aside w u) (parent : Nat) : Aside w (u.childEnded parent) := by
  unfold World.childEnded
  split
  · rename_i left hq
    split
    · refine ha.finish (fun q hq' => ?_) (fun k parent' f hq' => ?_) (ha.stands parent ?_) _
      · cases hq.symm.trans hq'
        rfl
      · cases hq.symm.trans hq'
      · rw [hq]
        simp
    · exact ha.rejoin hq _
  · exact ha

/-- Whoever waits for the end of an operation may be told. -/
theorem told (hu : Sound u) (hv : v = u ∨ ∃ parent, v = u.childEnded parent) : Aside u v := by
  rcases hv with rfl | ⟨parent, rfl⟩
  · exact .refl hu
  · exact (Aside.refl hu).childEnded parent

end Aside

/-! ## What has ended -/

namespace Concluded

variable {o : Outcome}

theorem finish (hop : op < w.nextOperation) : Concluded (w.finish op o) op o := by
  refine ⟨by rw [point?_finish, if_pos rfl], ?_, ?_⟩
  · obtain ⟨_, _, he⟩ := w.finish_eq op o
    rw [he]
    exact hop
  · rw [outcome?, history_finish, List.findSome?_cons]
    simp

/-- What happens without it leaves an operation that has ended as it is. -/
theorem of_history (hc : Concluded w op o) (hgone : u.point? op = none)
    (hn : w.nextOperation ≤ u.nextOperation) (hh : u.history = hs ++ w.history)
    (hs' : ∀ r, .ended op r ∉ hs) : Concluded u op o := by
  refine ⟨hgone, Nat.lt_of_lt_of_le hc.begun hn, ?_⟩
  have hnone : ({ w with history := hs } : World).outcome? op = none := by
    refine List.findSome?_eq_none_iff.mpr fun x hx => ?_
    split
    · rename_i a r
      refine if_neg fun ha => hs' r ?_
      rw [← eq_of_beq ha]
      exact hx
    · rfl
  rw [outcome?, hh, List.findSome?_append]
  exact (congrArg (Option.or · _) hnone).trans hc.outcome

theorem aside (hc : Concluded w op o) (ha : Aside w u) : Concluded u op o := by
  obtain ⟨hs, hh, hall⟩ := ha.history
  refine hc.of_history ?_ ha.nextOperation hh fun r hr => ?_
  · by_contra hp
    exact absurd hc.begun (Nat.not_lt.mpr (ha.stands op hp hc.gone))
  · obtain ⟨b, o', heq, hb⟩ := hall _ hr
    cases heq
    exact absurd hc.begun (Nat.not_lt.mpr (hb hc.gone))

end Concluded

/-! ## Beginning, shutting down, letting go -/

theorem aside_finish (hw : Sound w) (o : Outcome) :
    Aside w (w.enroll.2.finish w.nextOperation o) := by
  have hp := hw.point?_next
  refine (Aside.enroll hw).finish (fun q hq => ?_) (fun _ _ _ hq => ?_) (fun _ => Nat.le_refl _) o
  · cases hp.symm.trans hq
  · cases hp.symm.trans hq

/-- Room is made for the removal of every one of these. -/
theorem foldl_enrollRemoval (parent : Nat) (ks : List Handle) (u : World) :
    ∃ ps n, ks.foldl (enrollRemoval parent) u = { u with operations := ps, nextOperation := n } ∧
      u.nextOperation ≤ n ∧ (∀ a, a < u.nextOperation → ps.lookup a = u.point? a) ∧
      (∀ k ∈ ks, ∃ a, ps.lookup a = some (.opening k parent)) ∧
      ∀ a q, u.nextOperation ≤ a → ps.lookup a = some q →
        u.point? a = some q ∨ a < n ∧ ∃ k, q = .opening k parent := by
  induction ks generalizing u with
  | nil =>
    exact ⟨_, _, rfl, Nat.le_refl _, fun _ _ => rfl, fun _ hk => (by cases hk), fun _ _ _ => .inl⟩
  | cons k ks ih =>
    have hpoint : ∀ a, (enrollRemoval parent u k).point? a =
        if a = u.nextOperation then some (.opening k parent) else u.point? a :=
      fun a => point?_setPoint ..
    obtain ⟨ps, n, heq, hn, hold, hks, hnew⟩ := ih (enrollRemoval parent u k)
    have hlt : u.nextOperation < n := hn
    refine ⟨ps, n, heq, Nat.le_of_lt hlt, fun a ha => ?_, fun k' hk' => ?_, fun a q ha hq => ?_⟩
    · rw [hold a (Nat.lt_succ_of_lt ha), hpoint, if_neg (Nat.ne_of_lt ha)]
    · rcases List.mem_cons.mp hk' with rfl | hk'
      · refine ⟨u.nextOperation, ?_⟩
        rw [hold _ (Nat.lt_succ_self _), hpoint, if_pos rfl]
      · exact hks k' hk'
    · rcases Nat.lt_or_eq_of_le ha with ha | rfl
      · refine (hnew a q ha hq).imp_left fun hu => ?_
        rwa [hpoint, if_neg (Nat.ne_of_gt ha)] at hu
      · rw [hold _ (Nat.lt_succ_self _), hpoint, if_pos rfl] at hq
        exact .inr ⟨hlt, k, (Option.some.inj hq).symm⟩

/-- A handle of a registered entry is among those that are shut down. -/
theorem mem_handles (he : w.face? h = some e) (hs : e.standing = .registered) : h ∈ w.handles := by
  obtain ⟨f, hf, rfl⟩ := Option.map_eq_some_iff.mp he
  rw [← find_handle hf]
  refine List.mem_map_of_mem (List.mem_filter.mpr ⟨List.mem_of_find?_eq_some hf, ?_⟩)
  exact beq_iff_eq.mpr hs

/-- Shutting down makes room for the removals, and for the operation that waits for them. -/
theorem aside_enrollRemovals (hw : Sound w) (n : Nat) :
    Aside w (w.handles.foldl (enrollRemoval w.nextOperation)
      (({ w.enroll.2 with destroyed := true } : World).setPoint w.nextOperation (.joining n))) := by
  generalize hv : ({ w.enroll.2 with destroyed := true } : World).setPoint w.nextOperation
    (.joining n) = v
  have hpoint : ∀ a, v.point? a = if a = w.nextOperation then some (.joining n) else w.point? a :=
    fun a => hv ▸ point?_setPoint ..
  obtain ⟨ps, k, heq, hk, hold, hopen, hnew⟩ := foldl_enrollRemoval w.nextOperation w.handles v
  rw [heq]
  subst hv
  have hlt : w.nextOperation < k := hk
  -- Old operations stand where they stood, and new ones begin a removal or wait for them.
  have hbefore : ∀ {a}, a < w.nextOperation → ps.lookup a = w.point? a := fun {a} ha => by
    rw [hold a (Nat.lt_succ_of_lt ha), hpoint, if_neg (Nat.ne_of_lt ha)]
  have hafter : ∀ {a q}, w.nextOperation ≤ a → ps.lookup a = some q → a < k ∧ q.wants? = none :=
    fun {a q} ha hq => by
      rcases Nat.lt_or_eq_of_le ha with ha | rfl
      · rcases hnew a q ha hq with hq | ⟨hlt, k', rfl⟩
        · rw [hpoint, if_neg (Nat.ne_of_gt ha)] at hq
          exact absurd (hw.fresh a q hq) (Nat.not_lt.mpr (Nat.le_of_lt ha))
        · exact ⟨hlt, rfl⟩
      · rw [hold _ (Nat.lt_succ_self _), hpoint, if_pos rfl] at hq
        cases hq
        exact ⟨hlt, rfl⟩
  refine ⟨fun _ => rfl, fun a q hq => ?_, fun a h parent e hq _ _ => ?_, fun a q hq => ?_,
    fun a hq hn => ?_, ⟨[], rfl, fun _ hx => by cases hx⟩, Nat.le_of_lt hlt, Nat.le_refl _,
    hw.booked.same rfl fun _ => rfl, fun _ => id, fun _ => .inr fun h e he hs => ?_⟩
  · rcases Nat.lt_or_ge a w.nextOperation with ha | ha
    · exact iff_of_eq (congrArg (· = some q) (hbefore ha))
    · refine iff_of_false (fun hq' => hq (hafter ha hq').2) fun hq' => ?_
      exact absurd (hw.fresh a q hq') (Nat.not_lt.mpr ha)
  · exact (hbefore (hw.fresh a _ hq)).trans hq
  · rcases Nat.lt_or_ge a w.nextOperation with ha | ha
    · exact Nat.lt_trans ha hlt
    · exact (hafter ha hq).1
  · by_contra ha
    exact hq ((hbefore (Nat.lt_of_not_le ha)).trans hn)
  · obtain ⟨a, ha⟩ := hopen h (mem_handles he hs)
    exact ⟨a, _, ha⟩

theorem aside_destroy (hw : Sound w) : Aside w (w.enroll.2.destroy w.nextOperation) := by
  have hp := hw.point?_next
  unfold World.destroy
  split
  · exact aside_finish hw _
  dsimp only
  split
  · rename_i hnone
    have ha : Aside w { w.enroll.2 with destroyed := true } :=
      { Aside.enroll hw with
        booked := hw.booked.same rfl fun _ => rfl
        shut := fun _ => .inr fun h e he hs => by
          have hmem : h ∈ w.handles := mem_handles he hs
          rw [show w.handles = [] from hnone] at hmem
          cases hmem }
    refine ha.finish (fun q hq => ?_) (fun _ _ _ hq => ?_) (fun _ => Nat.le_refl _) _
    · cases hp.symm.trans hq
    · cases hp.symm.trans hq
  · exact aside_enrollRemovals hw w.handles.length

theorem aside_release (hw : Sound w) : Aside w w.release := by
  have hb : ({ w with held := false } : World).Booked := hw.booked.same rfl fun _ => rfl
  obtain ⟨hr, hl, hf⟩ := hb.reap
  obtain ⟨s, es, he, -⟩ := reap_eq { w with held := false }
  unfold release
  rw [he] at hr hl hf ⊢
  exact .same hw hf rfl rfl (Nat.le_refl _) rfl rfl hr hl

end LeaseKeeper.Leases
