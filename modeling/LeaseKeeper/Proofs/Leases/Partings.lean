import LeaseKeeper.Proofs.Leases.Stages

/-!
# What still happens for a secret that is removed

Once a secret is removed, nothing is told about it but how its lease was given back, and nothing
else is called for it (`told_of_act`); once the engine is shut down, that is so for all secrets
(`parting_of_act`). What has ended has ended, a secret that was registered is not forgotten, and
a removal that comes too late finds nothing (`missed_of_act`).
-/

namespace LeaseKeeper.Leases

open World

variable {w w' u v : World} {m : Move} {op : Nat} {h : Handle} {e : Entry}
  {face : Option Entry} {p : Option Point} {hs : List Happening} {care : Care} {g x : Option Lease}
  {rm : Option Nat}

/-! ## What is new in the history -/

/-- What happens in a step is that operations end, and what an operation does that gets on with an
entry. -/
theorem news_of_act (hw : Sound w) (ha : Act w m w') : ∃ hs, w'.history = hs ++ w.history ∧
    ∀ x ∈ hs, (∃ a o, x = .ended a o) ∨ ∃ u op h face p ks care g rm,
      Does w u m op h face p ks care g rm ∧ x ∈ ks := by
  have haside : ∀ {u v : World}, Aside u v → ∃ hs, v.history = hs ++ u.history ∧
      ∀ x ∈ hs, ∃ a o, x = .ended a o := fun ha => by
    obtain ⟨hs, hh, hall⟩ := ha.history
    exact ⟨hs, hh, fun x hx => by obtain ⟨a, o, rfl, -⟩ := hall x hx; exact ⟨a, o, rfl⟩⟩
  cases ha with
  | aside ha _ _ =>
    obtain ⟨hs, hh, hall⟩ := haside ha
    exact ⟨hs, hh, fun x hx => .inl (hall x hx)⟩
  | misses ha _ _ _ _ =>
    obtain ⟨hs, hh, hall⟩ := haside ha
    exact ⟨hs, hh, fun x hx => .inl (hall x hx)⟩
  | @does u op h face p ks care g a hd hx hu _ _ =>
    obtain ⟨hs, hh, hall⟩ := haside (.told (hw.of_does hd hx) hu)
    refine ⟨hs ++ ks, by rw [hh, hx.history, List.append_assoc], fun x hx => ?_⟩
    rcases List.mem_append.mp hx with hx | hx
    · exact .inl (hall x hx)
    · exact .inr ⟨_, _, _, _, _, _, _, _, _, hd, hx⟩

/-- What still happens for a secret that is not looked after any more. -/
inductive Parting : Happening → Prop
  | ended {a : Nat} {o : Outcome} : Parting (.ended a o)
  | revokes {a : Nat} {h : Handle} {l : Lease} : Parting (.called a h (.revoke l))
  | tells {event : LeaseEvent} : Returned event.change → Parting (.published event)

/-- An operation that gets on with an entry that is not looked after takes part in its removal, or
lets it go. -/
theorem Does.parting (hd : Does w u m op h face p hs care g rm) (hw : Sound w)
    (hknown : w.destroyed = true ∨ ∃ e, w.face? h = some e)
    (hl : ∀ e, w.face? h = some e → w.isLive e = false) : ∀ x ∈ hs, Parting x := by
  have htells : ∀ {e ks}, w.face? h = some e → Tells w h e ks → ∀ x ∈ ks, Parting x :=
    fun he ht x hx => by cases (hl _ he).symm.trans (ht x hx).1
  cases hd with
  | @adds e _ _ hd _ hser _ _ _ _ =>
    rcases hknown with hd' | ⟨f, hf⟩
    · cases hd.symm.trans hd'
    · exact absurd (hw.known h f hf) (by rw [hser]; exact Nat.lt_irrefl _)
  | forgets _ _ _ _ =>
    intro x hx
    obtain rfl := List.mem_singleton.mp hx
    exact .ended
  | registers _ he _ _ ht | passes he _ _ _ ht _ | installs he _ _ _ _ ht _ =>
    intro x hx
    rcases List.mem_cons.mp hx with rfl | hx
    · exact .ended
    · exact htells he ht x hx
  | joins _ _ _ _ _ _ => exact fun _ hx => by cases hx
  | renews he _ _ hl' _ _ | fetches he _ hl' _ _ => cases (hl _ he).symm.trans hl'
  | waits _ _ _ _ => exact fun _ hx => by cases hx
  | takes _ _ _ ht =>
    intro x hx
    cases ht with
    | returns _ =>
      obtain rfl := List.mem_singleton.mp hx
      exact .revokes
    | ends _ =>
      obtain rfl := List.mem_singleton.mp hx
      exact .ended
  | returned _ _ _ hr =>
    intro x hx
    rcases List.mem_cons.mp hx with rfl | hx
    · exact .ended
    · obtain rfl := List.mem_singleton.mp hx
      exact .tells hr

/-- Nothing else happens in an engine that is shut down. -/
theorem parting_of_act (hw : Sound w) (hd : w.destroyed = true) (ha : Act w m w') :
    ∃ hs, w'.history = hs ++ w.history ∧ ∀ x ∈ hs, Parting x := by
  obtain ⟨hs, hh, hall⟩ := news_of_act hw ha
  refine ⟨hs, hh, fun x hx => ?_⟩
  rcases hall x hx with ⟨a, o, rfl⟩ | ⟨u, op, h, face, p, ks, care, g, rm, hdoes, hx'⟩
  · exact .ended
  · exact hdoes.parting hw (.inl hd) (fun e _ => by simp [isLive, hd]) x hx'

/-! ## What has been told since -/

/-- The change of a secret that is told, if that is what happens. -/
def Happening.change? (h : Handle) : Happening → Option LeaseChange
  | .published event => if event.handle = h then some event.change else none
  | _ => none

theorem changes_append (hh : v.history = hs ++ w.history) (h : Handle) :
    v.changes h = w.changes h ++ (hs.filterMap (Happening.change? h)).reverse := by
  rw [← List.filterMap_reverse]
  show v.history.reverse.filterMap _ = _
  rw [hh, List.reverse_append, List.filterMap_append]
  congr 1

/-! ## What no step undoes -/

/-- An operation that has ended stays so. -/
theorem Concluded.of_act {o : Outcome} (hc : Concluded w op o) (hw : Sound w) (ha : Act w m w') :
    Concluded w' op o := by
  cases ha with
  | aside ha _ _ | misses ha _ _ _ _ => exact hc.aside ha
  | does hd hx hu _ _ => exact (hc.of_scene hd hx).2.aside (.told (hw.of_does hd hx) hu)

/-- A secret whose first fetch has ended well is never forgotten. -/
theorem known_of_act (hw : Sound w) (ha : Act w m w') (he : w.face? h = some e)
    (hne : e.standing ≠ .pending) : ∃ e', w'.face? h = some e' ∧ e'.standing ≠ .pending := by
  cases ha with
  | aside ha _ _ | misses ha _ _ _ _ => exact ⟨e, (ha.faces h).trans he, hne⟩
  | @does u op k face p hs care g rm hd hx hu _ _ =>
    obtain ⟨_, _, hf⟩ := hx.frame
    rw [(Aside.told (hw.of_does hd hx) hu).faces]
    by_cases hk : h = k
    · subst hk
      have hregistering : ∀ {a}, w.point? a ≠ some (.registering h) := fun hq =>
        hne ((hw.pending _ _ h e hq rfl he).mpr rfl)
      rw [hf.face]
      have hkept : ∀ {e'}, w.face? h = some e' → e'.standing ≠ .pending := fun he' => by
        cases he.symm.trans he'
        exact hne
      cases hd with
      | adds _ _ hser _ _ _ _ =>
        exact absurd (hw.known h e he) (by rw [hser]; exact Nat.lt_irrefl _)
      | forgets hq _ _ _ | registers hq _ _ _ _ => exact absurd hq hregistering
      | joins he' _ _ _ _ _ | passes he' _ _ _ _ _ | renews he' _ _ _ _ _ | fetches he' _ _ _ _
      | installs he' _ _ _ _ _ _ | returned he' _ _ _ =>
        have hst := hkept he'
        exact ⟨_, rfl, hst⟩
      | waits _ _ _ _ | takes _ _ _ _ => exact ⟨_, rfl, by simp⟩
    · exact ⟨e, (hf.faces h hk).trans he, hne⟩

/-- A removal that comes for a secret that is not registered finds nothing. -/
theorem missed_of_act (ha : Act w m w') (hno : ∀ e, w.face? h = some e → e.standing ≠ .registered)
    {a : Nat} (hr : w.removal? h m = some a) : Concluded w' a (.removed false) := by
  cases ha with
  | aside _ _ hr' => cases (hr' h).symm.trans hr
  | misses _ _ hr' _ hc =>
    rw [hr'] at hr
    split at hr <;> cases hr
    exact hc
  | does hd _ _ _ hr' =>
    rw [hr'] at hr
    split at hr <;> cases hr
    rename_i hk
    subst hk
    cases hd with
    | waits he _ hreg _ => exact absurd hreg (hno _ he)
    | takes he hl _ _ =>
      cases hl with
      | removes _ hreg => exact absurd hreg (hno _ he)

/-- What an operation tells is about the secret that it gets on with. -/
theorem Does.events (hd : Does w u m op h face p hs care g rm) :
    ∀ event, .published event ∈ hs → event.handle = h := by
  have htells : ∀ {e ks} {event : LeaseEvent}, Tells w h e ks → .published event ∈ ks →
      event.handle = h := fun ht hx => by
    obtain ⟨-, event', hx', hh⟩ := ht _ hx
    cases hx'
    exact hh
  intro event hx
  cases hd with
  | adds | forgets | joins | renews | waits => simp at hx
  | registers _ _ _ _ ht | passes _ _ _ _ ht _ | installs _ _ _ _ _ ht _ | fetches _ _ _ _ ht =>
    exact htells ht (by simpa using hx)
  | takes _ _ _ ht => cases ht <;> simp at hx
  | returned _ _ _ _ =>
    obtain rfl : event = _ := by simpa using hx
    rfl

/-- About a secret that is removed nothing is told but how its lease was given back, by the
operation that ends then. -/
theorem Does.told (hd : Does w u m op h face p hs care g rm) (hw : Sound w)
    (hx : Scene w u op h face p hs care) (he : w.face? h = some e) (hrem : e.standing = .removed) :
    hs.filterMap (Happening.change? h) = [] ∨
      ∃ s r, w.point? op = some (.revoking h s r) ∧ Concluded u op (r.verdict true) ∧
        ∃ c, hs.filterMap (Happening.change? h) = [c] ∧ Returned c := by
  have hparting := hd.parting hw (.inr ⟨e, he⟩) fun f hf => by
    cases he.symm.trans hf
    simp [isLive, hrem]
  have hsilent : (∀ event, .published event ∉ hs) → hs.filterMap (Happening.change? h) = [] :=
    fun hno => List.filterMap_eq_nil_iff.mpr fun a ha => by
      cases a with
      | published event => exact absurd ha (hno event)
      | called _ _ _ => rfl
      | ended _ _ => rfl
  have htells : ∀ {f ks}, w.face? h = some f → Tells w h f ks → ∀ event, .published event ∉ ks :=
    fun hf ht event hx => by
      cases he.symm.trans hf
      have hl := (ht _ hx).1
      simp [isLive, hrem] at hl
  cases hd with
  | adds | forgets | joins | renews | waits => exact .inl rfl
  | registers _ hf _ _ ht | passes hf _ _ _ ht _ | installs hf _ _ _ _ ht _ | fetches hf _ _ _ ht =>
    exact .inl (hsilent fun event hx => htells hf ht event (by simpa using hx))
  | takes _ _ _ ht => cases ht <;> exact .inl (hsilent (by simp))
  | @returned _ _ _ _ _ c hf hq _ hr =>
    refine .inr ⟨_, _, hq, concluded_of_scene hx, c, ?_, hr⟩
    simp [List.filterMap_cons, Happening.change?]

/-- After a secret was removed nothing is told about it but how its lease was given back, at the end
of its removal, and nothing is called for it but that. -/
theorem told_of_act {a : Nat} {r : Remover} (hw : Sound w) (hs : Stage w h (some (a, r)) x)
    (ha : Act w m w') : ∃ ks, w'.history = ks ++ w.history ∧
      (∀ b c, .called b h c ∈ ks → ∃ l, c = .revoke l) ∧
      (ks.filterMap (Happening.change? h) = [] ∨ w.point? a ≠ none ∧
        Concluded w' a (r.verdict true) ∧
          ∃ c, ks.filterMap (Happening.change? h) = [c] ∧ Returned c) := by
  obtain ⟨e, he, hrem⟩ := hs.entry
  have haside : ∀ {u v : World}, Aside u v → ∃ hs, v.history = hs ++ u.history ∧
      (∀ b c, .called b h c ∉ hs) ∧ hs.filterMap (Happening.change? h) = [] := fun ha => by
    obtain ⟨hs, hh, hall⟩ := ha.history
    refine ⟨hs, hh, fun b c hx => ?_, List.filterMap_eq_nil_iff.mpr fun x hx => ?_⟩
    · obtain ⟨_, _, hx, -⟩ := hall _ hx
      cases hx
    · obtain ⟨_, _, rfl, -⟩ := hall x hx
      rfl
  cases ha with
  | aside ha _ _ =>
    obtain ⟨ks, hh, hno, hnil⟩ := haside ha
    exact ⟨ks, hh, fun b c hx => absurd hx (hno b c), .inl hnil⟩
  | misses ha _ _ _ _ =>
    obtain ⟨ks, hh, hno, hnil⟩ := haside ha
    exact ⟨ks, hh, fun b c hx => absurd hx (hno b c), .inl hnil⟩
  | @does u op k face p ks care g rm hd hx hu _ _ =>
    have htold : Aside u w' := .told (hw.of_does hd hx) hu
    obtain ⟨ks', hh, hno, hnil⟩ := haside htold
    refine ⟨ks' ++ ks, by rw [hh, hx.history, List.append_assoc], fun b c hbc => ?_, ?_⟩
    · have hbc := (List.mem_append.mp hbc).resolve_left (hno b c)
      obtain ⟨-, rfl⟩ := hd.happens.2 b h c hbc
      have hp := hd.parting hw (.inr ⟨e, he⟩) (fun f hf => by
        cases he.symm.trans hf
        simp [isLive, hrem]) _ hbc
      cases hp
      exact ⟨_, rfl⟩
    · rw [List.filterMap_append, hnil, List.nil_append]
      by_cases hk : h = k
      · subst hk
        refine (hd.told hw hx he hrem).imp_right ?_
        rintro ⟨s, r', hq, hc, hone⟩
        obtain ⟨r'', hy, ⟨hq', -⟩ | ⟨s', hq', -⟩⟩ := hs.of_leaves hw hq rfl
        · cases hq'
        · cases hy
          cases hq'
          exact ⟨by rw [hq]; simp, hc.aside htold, hone⟩
      · refine .inl (List.filterMap_eq_nil_iff.mpr fun x hx => ?_)
        cases x with
        | published event => exact if_neg fun hh => hk (hh.symm.trans (hd.events event hx))
        | called _ _ _ => rfl
        | ended _ _ => rfl

end LeaseKeeper.Leases
