import LeaseKeeper.Proofs.Session.History

/-!
# How grants change hands

A grant arrives, is installed or given back at once, and what is installed is dropped or given
back later (`Hands`). Every arrival has a serial number of its own, so no grant is given back
twice (`Counted`).
-/

namespace LeaseKeeper.Session

namespace World

variable {w u v w' : World} {m : Move} {op : Nat}

/-- What becomes of the installed grant, of the serial numbers and of the grants given back. -/
inductive Hands (w : World) (m : Move) (w' : World) : Prop
  /-- Nothing is given back; the installed grant stays, or is dropped. -/
  | keeps : w.surrenders m = [] → (w'.current = w.current ∨ w'.current = none) →
    w.nextGrant ≤ w'.nextGrant → Hands w m w'
  /-- The installed grant is taken away. -/
  | takes : w.surrenders m = w.owed → w'.current = none → w.nextGrant ≤ w'.nextGrant → Hands w m w'
  /-- A credential has arrived and is installed. -/
  | installs {c : Credential} : w.surrenders m = [] → w'.current = some ⟨w.nextGrant, c⟩ →
    w.nextGrant < w'.nextGrant → Hands w m w'
  /-- A credential has arrived and is given back. -/
  | returns {c : Credential} : w.surrenders m = [⟨w.nextGrant, c⟩] → w'.current = w.current →
    w.nextGrant < w'.nextGrant → Hands w m w'

namespace Hands

/-- A change that leaves the installed grant and the numbers alone. -/
theorem congr (h : Hands w m u) (hc : v.current = u.current) (hn : v.nextGrant = u.nextGrant) :
    Hands w m v := by
  cases h with
  | keeps hr hcur hle => exact .keeps hr (hc ▸ hcur) (hn ▸ hle)
  | takes hr hcur hle => exact .takes hr (hc.trans hcur) (hn ▸ hle)
  | installs hr hcur hlt => exact .installs hr (hc.trans hcur) (hn ▸ hlt)
  | returns hr hcur hlt => exact .returns hr (hc.trans hcur) (hn ▸ hlt)

theorem finish (h : Hands w m u) (o : Outcome) : Hands w m (u.finish op o) :=
  h.congr (current_finish ..) (nextGrant_finish ..)

theorem endLogin (h : Hands w m u) (purpose : Purpose) (r : Except Fault Grant) :
    Hands w m (u.endLogin op purpose r) := by
  rw [endLogin_eq]
  refine finish (h.congr ?_ ?_) _ <;> rfl

/-- The installed grant stays. -/
theorem still (hr : w.surrenders m = []) (hc : u.current = w.current)
    (hn : u.nextGrant = w.nextGrant) : Hands w m u :=
  .keeps hr (.inl hc) (Nat.le_of_eq hn.symm)

/-- The installed grant is dropped. -/
theorem drops (hr : w.surrenders m = []) (hc : u.current = none) (hn : w.nextGrant ≤ u.nextGrant) :
    Hands w m u :=
  .keeps hr (.inr hc) hn

end Hands

theorem hands_acquires {purpose : Purpose} (hr : w.surrenders m = [])
    (hc : u.current = w.current ∨ u.current = none) (hn : u.nextGrant = w.nextGrant)
    (ha : Acquires u op purpose w') : Hands w m w' := by
  have hu : Hands w m u := .keeps hr hc (Nat.le_of_eq hn.symm)
  cases ha with
  | shut | found => exact hu.finish _
  | starts _ hu' _ =>
    refine .drops hr (current_dropExpired (w := { u with lock := [op] }) hu') ?_
    exact Nat.le_of_eq (hn.symm.trans (nextGrant_dropExpired { u with lock := [op] }).symm)
  | waits _ _ _ => exact hu.congr rfl rfl

theorem hands_welcomes {purpose : Purpose} {c : Credential} (hr : w.surrenders m = w.returns c)
    (hd : u.destroyed = w.destroyed) (hc : u.current = w.current) (hn : u.nextGrant = w.nextGrant)
    (hw : Welcomes u op purpose c w') : Hands w m w' := by
  have hlt : w.nextGrant < u.nextGrant + 1 := hn ▸ Nat.lt_succ_self _
  cases hw with
  | late hd' hl =>
    refine .returns (c := c) ?_ hc hlt
    rw [hr, returns, ← hd, hd', hl]
    rfl
  | dropped _ hl =>
    have hm : Hands w m u.minted := by
      refine .keeps ?_ (.inl hc) (Nat.le_of_lt hlt)
      rw [hr, returns, hl, Bool.and_false]
      rfl
    exact hm.endLogin ..
  | installed hd' =>
    have hi : Hands w m (u.installs c .created) := by
      refine .installs (c := c) ?_ ?_ ?_
      · rw [hr, returns, ← hd, hd', Bool.false_and]
        rfl
      · rw [current_installs, hn]
      · rw [nextGrant_installs]
        exact hlt
    exact hi.endLogin ..

theorem hands_takes (hr : w.surrenders m = w.owed) (hn : u.nextGrant = w.nextGrant)
    (ht : Takes u op w') : Hands w m w' := by
  have hk : Hands w m (u.cancelTask.install none) := .takes hr rfl (Nat.le_of_eq hn.symm)
  cases ht with
  | quiet _ => exact hk.finish _
  | sends _ _ => exact hk.congr rfl rfl

theorem hands_loses {g : Grant} (hr : w.surrenders m = []) (hc : u.current = w.current)
    (hn : u.nextGrant = w.nextGrant) (hl : Loses u op g w') : Hands w m w' := by
  cases hl with
  | superseded _ => exact (Hands.still hr hc hn).finish _
  | again _ _ ha => exact hands_acquires (u := (u.install none).cancelTask) hr (.inr rfl) hn ha
  | ended _ _ =>
    have hk : Hands w m (((u.install none).cancelTask).publish (.loginTokenExpired g)) :=
      .drops hr rfl (Nat.le_of_eq hn.symm)
    exact hk.finish _

theorem hands_renews {g : Grant} {r : Except Fault Credential} (hr : w.surrenders m = [])
    (hk : Renews w op g r w') : Hands w m w' := by
  have hlt : w.nextGrant < w.nextGrant + 1 := Nat.lt_succ_self _
  cases hk with
  | discarded _ => exact (Hands.still hr rfl rfl).finish _
  | superseded _ _ =>
    have hm : Hands w m w.granted.minted := .keeps hr (.inl rfl) (Nat.le_of_lt hlt)
    exact hm.finish _
  | @brief c _ _ _ =>
    have hk : Hands w m (((w.granted.minted.install none).cancelTask).publish
        (.loginTokenExpired ⟨w.nextGrant, c⟩)) := .drops hr rfl (Nat.le_of_lt hlt)
    exact hk.finish _
  | @renewed c _ _ _ =>
    have hi : Hands w m (w.granted.installs c .renewed) := by
      refine .installs (c := c) hr (current_installs ..) ?_
      rw [nextGrant_installs]
      exact hlt
    exact hi.finish _
  | retried _ _ _ => exact (Hands.still hr (current_retries ..) (nextGrant_retries ..)).finish _
  | @tooLate f _ _ _ _ hl =>
    obtain ⟨t, n, he⟩ := (w.told g f).snd_renewalDelay g.credential
    rw [he] at hl
    exact hands_loses (u := { w.told g f with trigger := t, drawn := n }) hr rfl rfl hl
  | failed _ _ hl => exact hands_loses (u := w.told g _) hr rfl rfl hl

theorem hands_enters {observed : Nat} {purpose : Purpose} (he : Enters w op observed purpose w') :
    Hands w (.enter op) w' := by
  have hu : Hands w (.enter op) (w.unlock op) := .still rfl rfl rfl
  cases he with
  | shut | found | shared => exact hu.finish _
  | starts _ hu _ =>
    exact .drops rfl (current_dropExpired hu) (Nat.le_of_eq (nextGrant_dropExpired w).symm)

theorem Hands.tellRevocation (hs : w.surrenders m = []) (g : Grant) (r : Except Fault Unit) :
    Hands w m (w.tellRevocation g r) := by
  cases r <;> exact .still hs rfl rfl

theorem hands_of_turn (ht : Turn w m w') : Hands w m w' := by
  have hfire : ∀ {t s}, w.Fires m t s → w.surrenders m = [] := fun hf => by cases hf <;> rfl
  cases ht with
  | token _ ha => exact hands_acquires (u := w.enrolled) rfl (.inl rfl) rfl ha
  | revoke _ hk => exact hands_takes (u := w.enrolled) rfl rfl hk
  | destroyAgain _ hd =>
    have hu : Hands w (.begin .destroy) w.enrolled := .still (if_pos hd) rfl rfl
    exact hu.finish _
  | destroy _ hd hk =>
    exact hands_takes (u := { w.enrolled with destroyed := true }) (if_neg (by simp [hd])) rfl hk
  | orphan hf _ => exact .still (hfire hf) rfl rfl
  | @stale _ t s hf _ _ =>
    have hu : Hands w m ({ w with schedule := s } : World).enrolled := .still (hfire hf) rfl rfl
    exact hu.finish _
  | renew hf _ _ _ _ => exact .still (hfire hf) rfl rfl
  | @expire _ t s g hf _ _ _ _ =>
    have hu : Hands w m (((({ w with schedule := s } : World).enrolled).install none).publish
        (.loginTokenExpired g)) := .drops (hfire hf) rfl (Nat.le_refl _)
    exact hu.finish _
  | enter _ _ he => exact hands_enters he
  | @loginFailed op purpose since f hp =>
    have hu : Hands w (.answer op (.login (.error f)))
        ((w.timed false since).publish (.failed f none)) := by
      refine .still ?_ rfl rfl
      simp only [surrenders, brings?, hp]
      rfl
    exact hu.endLogin ..
  | looksUp hp hl =>
    refine .still ?_ rfl rfl
    simp only [surrenders, brings?, hp, hl, if_true]
    rfl
  | @welcome _ _ since c _ hp hl hw =>
    refine hands_welcomes (u := w.timed true since) ?_ rfl rfl rfl hw
    simp only [surrenders, brings?, hp, hl, Bool.false_eq_true, if_false]
    exact List.append_nil _
  | lookedUp hp hw | notLookedUp hp hw =>
    refine hands_welcomes ?_ rfl rfl rfl hw
    simp only [surrenders, brings?, hp]
    exact List.append_nil _
  | discarded hp =>
    refine (Hands.tellRevocation ?_ ..).endLogin ..
    simp only [surrenders, brings?, hp]
    rfl
  | renewed hp hr => exact hands_renews (by simp only [surrenders, brings?, hp]; rfl) hr
  | revoked hp =>
    refine (Hands.tellRevocation ?_ ..).finish _
    simp only [surrenders, brings?, hp]
    rfl
  | abandon _ => exact .still rfl (current_reap _) (nextGrant_reap _)
  | release => exact .still rfl (current_reap _) (nextGrant_reap { w with held := false })
  | elapse | stop | listen | unlisten => exact .still rfl rfl rfl

/-- No grant has been given back twice, nor is one installed that was. -/
structure Counted (w : World) : Prop where
  lt : ∀ g ∈ w.current.toList ++ w.surrendered, g.serial < w.nextGrant
  nodup : ((w.current.toList ++ w.surrendered).map Grant.serial).Nodup

/-- Some of the grants are left. -/
theorem Counted.sublist (h : w.Counted)
    (hs : (w'.current.toList ++ w'.surrendered).Sublist (w.current.toList ++ w.surrendered))
    (hn : w.nextGrant ≤ w'.nextGrant) : w'.Counted where
  lt g hg := Nat.lt_of_lt_of_le (h.lt g (hs.subset hg)) hn
  nodup := h.nodup.sublist (hs.map _)

/-- A new grant has come to them. -/
theorem Counted.cons (h : w.Counted) {c : Credential} {l : List Grant}
    (hp : (w'.current.toList ++ w'.surrendered).Perm (⟨w.nextGrant, c⟩ :: l))
    (hl : l.Sublist (w.current.toList ++ w.surrendered)) (hn : w.nextGrant < w'.nextGrant) :
    w'.Counted where
  lt g hg := by
    rcases List.mem_cons.mp (hp.mem_iff.mp hg) with rfl | hg
    · exact hn
    · exact Nat.lt_trans (h.lt g (hl.subset hg)) hn
  nodup := by
    rw [(hp.map Grant.serial).nodup_iff, List.map_cons, List.nodup_cons]
    refine ⟨fun hm => ?_, h.nodup.sublist (hl.map _)⟩
    obtain ⟨g, hg, he⟩ := List.mem_map.mp hm
    exact absurd (h.lt g (hl.subset hg)) (by rw [he]; exact Nat.lt_irrefl _)

theorem counted_turn (ho : w.IsOrderly) (hc : w.Counted) (ht : Turn w m w') : w'.Counted := by
  have hs := surrendered_of_turn ho ht
  cases hands_of_turn ht with
  | keeps hr hcur hn =>
    rw [hr, List.nil_append] at hs
    refine hc.sublist ?_ hn
    rcases hcur with hcur | hcur <;> rw [hs, hcur]
    exact List.sublist_append_right ..
  | takes hr hcur hn =>
    rw [hr, owed] at hs
    refine hc.sublist ?_ hn
    rw [hs, hcur]
    exact List.filter_sublist.append (List.Sublist.refl _)
  | @installs c hr hcur hn =>
    rw [hr, List.nil_append] at hs
    refine hc.cons (c := c) ?_ (List.sublist_append_right w.current.toList _) hn
    rw [hs, hcur]
    rfl
  | @returns c hr hcur hn =>
    rw [hr] at hs
    refine hc.cons (c := c) ?_ (List.Sublist.refl _) hn
    rw [hs, hcur]
    exact List.perm_middle

end World

open World in
theorem counted_of_run {settings : Settings} {d : Discipline} {draws : Nat → Nat} {w : World}
    {ms : List Move} (h : run? (World.initial settings d draws) ms = some w) : w.Counted := by
  refine (run?_keeps (P := fun w => w.IsOrderly ∧ w.Counted) (fun hw ht => ?_)
    ⟨orderly_initial settings d draws, ⟨fun g hg => (by cases hg), List.nodup_nil⟩⟩ h).2
  exact ⟨orderly_turn hw.1 ht, counted_turn hw.1 hw.2 ht⟩

end LeaseKeeper.Session
