import LeaseKeeper.Proofs.Leases.Removal

/-!
# Leases that are lost

As long as an engine is not shut down, a registered secret that shows a lease goes on showing
the one that was granted last, until it is told that this lease expired
(`expired_of_vanished`). So after any run such a secret shows what was granted last, or
nothing, and then it was told (`shown_of_run`).
-/

namespace LeaseKeeper.Leases

open World

variable {w w' v : World} {m : Move} {ms : List Move} {op n : Nat} {h : Handle} {e e' : Entry}
  {face : Option Entry} {p : Option Point} {added : List LeaseChange} {care : Care} {s : Snapshot}
  {x : Option Lease}

/-- Whoever fetches a lost secret again has told that its lease expired. -/
def Announced (w : World) : Prop :=
  ∀ a h l, w.point? a = some (.rotating h l .loss) → .expired l ∈ w.changes h

/-- Nothing that was told is taken back. -/
theorem changes_of_advance (ha : Advance w w') (h : Handle) :
    ∃ ks, w'.changes h = w.changes h ++ ks := by
  cases ha with
  | rests hq => exact ⟨[], by rw [hq.changes, List.append_nil]⟩
  | @acts op k face p added care n hf _ =>
    by_cases hk : h = k
    · subst hk
      exact ⟨added, hf.change⟩
    · exact ⟨[], by rw [hf.changes h hk, List.append_nil]⟩

/-- An operation that begins to fetch a lost secret again tells that its lease expired. -/
theorem expired_of_deed (hd : Deed w w' op h face p added care n) {k : Handle} {l : Lease}
    (hp : p = some (.rotating k l .loss)) : k = h ∧ .expired l ∈ added := by
  subst hp
  cases hd with
  | removes _ _ _ hr _ _ => cases hr
  | works _ _ _ hw => cases hw <;> simp

theorem announced_of_advance (hn : Announced w) (ha : Advance w w') : Announced w' := by
  intro a h l hq
  have hkept : .expired l ∈ w.changes h → .expired l ∈ w'.changes h := fun hx => by
    obtain ⟨ks, hks⟩ := changes_of_advance ha h
    exact hks ▸ List.mem_append_left ks hx
  cases ha with
  | rests hr => exact hkept (hn a h l (hr.points a ▸ hq))
  | @acts op k face p added care n hf hd =>
    by_cases hop : a = op
    · subst hop
      obtain ⟨rfl, hx⟩ := expired_of_deed hd (hf.point.symm.trans hq)
      exact hf.change ▸ List.mem_append_right _ hx
    · exact hkept (hn a h l (hf.points a hop ▸ hq))

/-- Work on an entry that takes its snapshot away tells that the lease expired, or is that of whoever
fetched it again because it had. -/
theorem expired_of_works (ho : Orderly w) (ht : Tends w) (hn : Announced w) (he : w.face? h = some e)
    (hs : e.snapshot = some s) {s' : Option Snapshot} {st : Standing} (hst : st ≠ .removed)
    (hw : Works w op h e s' st p added care n) (hs' : s' = none) :
    .expired s.lease ∈ w.changes h ++ added := by
  have hreg : e.standing = .registered := by
    rcases (ho.standing_of_works he hst hw).2 with hreg | ⟨hq, -⟩
    · exact hreg
    · have hpend := (ho.calm.pending op _ h e hq rfl he).mpr rfl
      cases hs.symm.trans (ht.pending h e he hpend).1
  have htend := ht.registered h e he hreg
  have hcurrent : ∀ {r a}, Suits w e r a → r = s := fun hr =>
    Option.some.inj (hr.1.symm.trans hs)
  cases hw with
  | joins | passes | asksAgain | renews | loses | retained | failsAndLoses | refused =>
    cases hs.symm.trans hs'
  | registers | renewed | rotated => cases hs'
  | registersBare hq _ => exact absurd hq (ho.not_registering he hreg)
  | drops hg hc _ =>
    obtain rfl := hcurrent (htend.suits hg hc)
    simp
  | failsAndDrops hq _ =>
    obtain rfl := hcurrent (htend.points op _ hq rfl)
    simp
  | @lost previous _ hq _ =>
    have hnames : Names e.snapshot previous := (htend.points op _ hq rfl).1
    rw [hs] at hnames
    obtain rfl : previous = s.lease := hnames
    exact List.mem_append_left _ (hn op h _ hq)

/-- A registered secret that shows its lease no more was told to have lost it. -/
theorem expired_of_vanished (ho : Orderly w) (ht : Tends w) (hn : Announced w) (ha : Advance w w')
    (he : w.face? h = some e) (hs : e.snapshot = some s) (he' : w'.face? h = some e')
    (hne : e'.standing ≠ .removed) (hs' : e'.snapshot = none) : .expired s.lease ∈ w'.changes h := by
  cases ha with
  | rests hr =>
    cases (hr.faces h ▸ he').symm.trans he
    cases hs.symm.trans hs'
  | @acts op k face p added care n hf hd =>
    by_cases hk : h = k
    · subst hk
      have hface := hf.face.symm.trans he'
      rw [hf.change]
      cases hd with
      | adds _ hser _ _ _ _ =>
        exact absurd (ho.calm.known h e he) (by rw [hser]; exact Nat.lt_irrefl _)
      | forgets _ => cases hface
      | removes _ _ _ _ _ _ =>
        cases hface
        exact absurd rfl hne
      | works hf' hst hq hw =>
        cases he.symm.trans hf'
        cases hface
        exact expired_of_works ho ht hn he hs hst hw hs'
    · cases (hf.faces h hk ▸ he').symm.trans he
      cases hs.symm.trans hs'

/-! ## Runs -/

/-- A secret that is not removed in the end has not been removed on the way. -/
theorem Stage.none_of_run {y : Option (Nat × Remover)} (hs : Stage w h y x) (hw : Sound w)
    (hrun : run? w ms = some v) (hne : ∀ e, v.face? h = some e → e.standing ≠ .removed) :
    y = none := by
  obtain ⟨y', x', hs', hkeep, -⟩ := stage_of_run hw hs hrun
  cases y with
  | none => rfl
  | some z =>
    obtain rfl := hkeep z rfl
    obtain ⟨e, he, hrem⟩ := hs'.entry
    exact absurd hrem (hne e he)

/-- The lease that a secret shows no more after a move was told to have expired. -/
theorem expired_of_lost (hw : Sound w) (ho : Orderly w) (ht : Tends w) (hn : Announced w)
    (hs : Stage w h none x) (hadv : Advance w w') (ha : Act w m w') (hs' : Stage w' h none none)
    {l : Lease} (hx : x = some l) : .expired l ∈ w'.changes h := by
  cases hs with
  | early _ _ hshown =>
    obtain ⟨s, hs, rfl⟩ := Option.map_eq_some_iff.mp (hshown.symm.trans hx)
    obtain ⟨e, he, hsnap⟩ := Option.bind_eq_some_iff.mp hs
    have hknown : e.standing ≠ .pending := fun hpend => by
      cases hsnap.symm.trans (ht.pending h e he hpend).1
    obtain ⟨e', he', -⟩ := known_of_act hw ha he hknown
    cases hs' with
    | early hne _ hshown' =>
      refine expired_of_vanished ho ht hn hadv he hsnap he' (hne e' he') ?_
      rw [shownLease, he'] at hshown'
      exact Option.map_eq_none_iff.mp hshown'.symm

/-- As long as an engine is not shut down, a secret that is not removed shows what was granted last,
or nothing, and then that lease was told to have expired. -/
theorem shown_of_open_run (hw : Sound w) (ho : Orderly w) (ht : Tends w) (hn : Announced w)
    (hs : Stage w h none x) (hrun : run? w ms = some v) (hd : v.destroyed = false)
    (hne : ∀ e, v.face? h = some e → e.standing ≠ .removed) :
    v.shownLease h = (grants h w ms).getLast?.or x ∨ v.shownLease h = none ∧
      ∀ l, (grants h w ms).getLast?.or x = some l → .expired l ∈ v.changes h := by
  induction ms generalizing w x with
  | nil =>
    cases hrun
    cases hs with
    | early _ _ hx => exact .inl hx.symm
  | cons m ms ih =>
    obtain ⟨u, hu, hturn, hrun⟩ := run?_cons hrun
    have hadv := advance_of_turn ho.booked ho.calm hturn (open_of_run hrun hd)
    have hwu := hw.of_turn hturn
    have ha := act_of_turn hw hturn
    obtain ⟨y', x', hs', -, hcar⟩ := stage_of_act hw hs ha
    obtain rfl := hs'.none_of_run hwu hrun hne
    have hrest := ih hwu (ho.of_advance hadv) (tends_of_advance ho ht hadv)
      (announced_of_advance hn hadv) hs' hrun
    rw [getLast?_grants ms hu]
    rcases hcar with rfl | ⟨-, hg, -, rfl⟩
    · exact hrest
    · rw [hg, Option.none_or]
      cases hlast : (grants h u ms).getLast? with
      | some l =>
        rw [hlast] at hrest
        exact hrest
      | none =>
        -- The lease was lost by this move, and nothing is granted after it.
        rw [hlast] at hrest
        refine .inr ⟨hrest.elim id And.left, fun l hl => ?_⟩
        obtain ⟨ks, hks⟩ := history_of_run hwu hrun
        rw [changes_append hks]
        exact List.mem_append_left _ (expired_of_lost hw ho ht hn hs hadv ha hs' hl)

end LeaseKeeper.Leases
