import LeaseKeeper.Proofs.Session.History

/-!
# What callers are granted

A caller gets a grant in one of three ways: it finds one installed when it asks, or when the lock
is handed to it, or it logs in itself. What it finds has been checked against the clock; what its
own login has brought has not. So a caller is granted a credential whose lifetime has run out
just if its own login brings one (`grants_fresh_iff`), as a login does that hands out a credential
which was issued some time before (`aged_login_granted`).
-/

namespace LeaseKeeper

/-- Whether a credential is of use at an instant: its lifetime never ends, or is not over yet. -/
def Credential.IsFresh (c : Credential) (t : Instant) : Prop :=
  c.ttl = Span.zero ∨ Span.zero < c.remaining t

theorem Credential.isFresh_iff {c : Credential} {t : Instant} :
    c.IsFresh t ↔ c.isExpired t = false := by
  rw [← Bool.not_eq_true, isExpired, isExpiring_iff, IsFresh, Span.lt_def, Span.le_def]
  by_cases hz : c.ttl = Span.zero <;> simp [hz, Nat.pos_iff_ne_zero]

namespace Session

theorem Purpose.outcome_eq_granted {purpose : Purpose} {r : Except Fault Grant} {g : Grant} :
    purpose.outcome r = .granted g ↔ purpose = .caller ∧ r = .ok g := by
  cases purpose <;> cases r <;> simp [Purpose.outcome]

namespace World

/-- In the step from `w` to `w'` the request of that operation is answered with that grant. -/
def Grants (w : World) (op : Nat) (g : Grant) (w' : World) : Prop :=
  w.outcome? op = none ∧ w'.outcome? op = some (.granted g)

/-- By that move the login of a caller comes to a credential whose lifetime has run out. -/
def BringsExpired (w : World) (m : Move) : Prop :=
  ∃ op p g, w.finishes? m = some (op, .ok g) ∧ w.point? op = some p ∧ p.purpose? = some .caller ∧
    ¬ g.credential.IsFresh w.now

variable {w w' : World} {m : Move} {op : Nat}

theorem fresh_of_usable? {g : Grant} (h : w.usable? = some g) : g.credential.IsFresh w.now := by
  rw [usable?, Option.filter_eq_some_iff] at h
  exact Credential.isFresh_iff.mpr (by simpa using h.2)

/-- What is granted in a step is fresh, unless it comes from a login that brings it too late. -/
theorem Grants.fresh {g : Grant} (h : w.Grants op g w') (ho : w.IsOrderly) (ht : Turn w m w')
    (hb : ¬ w.BringsExpired m) : g.credential.IsFresh w.now := by
  have hn := news_of_outcome? ho ht h.1 h.2
  generalize hx : Happening.ended op (.granted g) = x at hn
  cases hn with
  | found _ hu =>
    obtain ⟨-, he⟩ := Purpose.outcome_eq_granted.mp (Happening.ended.inj hx).2.symm
    cases he
    exact fresh_of_usable? hu
  | shared | refused => cases (Purpose.outcome_eq_granted.mp (Happening.ended.inj hx).2.symm).2
  | finishes hf hp hpu =>
    obtain ⟨rfl, rfl⟩ := Purpose.outcome_eq_granted.mp (Happening.ended.inj hx).2.symm
    exact by_contra fun hne => hb ⟨_, _, g, hf, hp, hpu, hne⟩
  | _ => cases hx

/-- A login that brings a credential too late has it granted all the same. -/
theorem BringsExpired.granted (hb : w.BringsExpired m) (ho : w.IsOrderly) (hc : w.Concluded)
    (ht : Turn w m w') : ∃ op g, w.Grants op g w' ∧ ¬ g.credential.IsFresh w.now := by
  obtain ⟨op, p, g, hf, hp, hpu, hne⟩ := hb
  obtain ⟨q, purpose, -, -, -, hq, -, hqu, -, hout, -⟩ := (shift_of_turn ho ht).finished hf
  cases hp.symm.trans hq
  cases hpu.symm.trans hqu
  exact ⟨op, g, ⟨hc.outcome? hp, hout⟩, hne⟩

end World

open World

/-- In a run callers are granted fresh credentials only, just if no login of theirs brings one
whose lifetime has run out. -/
theorem grants_fresh_iff (settings : Settings) (d : Discipline) (draws : Nat → Nat)
    (ms : List Move) :
    (∀ w m w' op g, Passes (World.initial settings d draws) ms w m w' → w.Grants op g w' →
        g.credential.IsFresh w.now) ↔
      ∀ w m w', Passes (World.initial settings d draws) ms w m w' → ¬ w.BringsExpired m := by
  refine ⟨fun hall w m w' hp hb => ?_, fun hall w m w' op g hp hg => ?_⟩
  · obtain ⟨_, -, hw, hs⟩ := id hp
    obtain ⟨op, g, hg, hne⟩ :=
      hb.granted (orderly_of_run hw) (concluded_of_run hw) (turn_of_step hs)
    exact hne (hall w m w' op g hp hg)
  · obtain ⟨_, -, hw, hs⟩ := id hp
    exact hg.fresh (orderly_of_run hw) (turn_of_step hs) (hall w m w' hp)

/-- A credential of one second, issued at the start. -/
def secondLogin : Credential := .ofLogin .start "s.old" (.ofSeconds 1) true

/-- Two seconds later a login hands it out. -/
def agedLogin : List Move :=
  [.elapse (Instant.start.plus (.ofSeconds 2)), .begin .token, .answer 0 (.login (.ok secondLogin))]

/-- The caller is granted that credential, though its lifetime has run out. -/
theorem aged_login_granted :
    ∃ w m w' g, Passes (World.initial default .manual fun _ => 0) agedLogin w m w' ∧
      w.Grants 0 g w' ∧ g.credential = secondLogin ∧ ¬ g.credential.IsFresh w.now := by
  refine ⟨_, .answer 0 (.login (.ok secondLogin)), _, ⟨0, secondLogin⟩,
    ⟨agedLogin.take 2, List.prefix_rfl, rfl, rfl⟩, ⟨rfl, rfl⟩, rfl, ?_⟩
  rw [Credential.isFresh_iff]
  decide

end Session

end LeaseKeeper
