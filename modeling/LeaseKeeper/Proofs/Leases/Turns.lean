import LeaseKeeper.Leases.Step
import LeaseKeeper.Proofs.Schedule
import Mathlib.Data.List.Induction

/-!
# The steps of a lease engine, one by one

`Turn` lists the steps that a lease engine can take, with the guards that were met; every
step is one of them (`turn_of_step`). What holds at the start of a run and is kept by its
steps holds at its end (`run?_keeps`).
-/

namespace LeaseKeeper.Leases

namespace World

/-- A task of the scheduler is started by a move. -/
inductive Fires (w : World) : Move → Task Job → Schedule Job → Prop
  | due {id : Nat} {t : Task Job} {s : Schedule Job} :
    w.schedule.startDue w.now id = (some t, s) → Fires w (.fire id) t s
  | next {t : Task Job} {s : Schedule Job} :
    w.schedule.startNext = (some t, s) → Fires w .fireNext t s

theorem Fires.starts {w : World} {m : Move} {t : Task Job} {s : Schedule Job} (h : w.Fires m t s)
    (hn : w.schedule.Numbered) : w.schedule.Starts t s := by
  cases h with
  | due h => exact (Schedule.starts_of_startDue hn h).1
  | next h => exact (Schedule.starts_of_startNext hn h).1

end World

open World in
/-- What may become of `w` in a step by that move. -/
inductive Turn (w : World) : Move → World → Prop
  | begins {r : Request} : w.held = true → Turn w (.begin r) (w.begin r)
  | runs {m : Move} {t : Task Job} {s : Schedule Job} : w.Fires m t s →
    Turn w m ({ w with schedule := s }.run t.job)
  | enters {op : Nat} {h : Handle} {errand : Errand} {e : Entry} :
    w.point? op = some (.queued h errand) → w.entry? h = some e → e.lock.head? = some op →
    Turn w (.enter op) (w.withLock op e errand)
  | opens {op parent : Nat} {h : Handle} : w.point? op = some (.opening h parent) →
    Turn w (.openNext op) (w.remove op h (.shutdown parent))
  | fetchedFirst {op : Nat} {h : Handle} {r : Except Fault (Option Secret)} :
    w.point? op = some (.registering h) →
    Turn w (.answer op (.fetched r)) (w.afterFirstFetch op h r)
  | fetchedAgain {op : Nat} {h : Handle} {previous : Lease} {cause : Cause}
    {r : Except Fault (Option Secret)} : w.point? op = some (.rotating h previous cause) →
    Turn w (.answer op (.fetched r)) (w.afterFetch op h previous cause r)
  | renewed {op : Nat} {h : Handle} {s : Snapshot} {since : Instant} {r : Except Fault Lease} :
    w.point? op = some (.renewing h s since) →
    Turn w (.answer op (.renewal r)) (w.afterRenewal op h s r)
  | revoked {op : Nat} {h : Handle} {s : Snapshot} {remover : Remover} {r : Except Fault Unit} :
    w.point? op = some (.revoking h s remover) →
    Turn w (.answer op (.revocation r)) (w.afterRevocation op h s remover r)
  | elapses {t : Instant} : Turn w (.elapse t) { w with now := t }
  | releases : Turn w .release w.release
  | stops : Turn w .stop w.stop
  | listens {channel : Channel} {o : Observer} :
    Turn w (.listen channel o) (w.listen channel o).2
  | unlistens {channel : Channel} {id : Nat} :
    Turn w (.unlisten channel id) (w.unlisten channel id).2

/-- Every step is one of the turns. -/
theorem turn_of_step {w w' : World} {m : Move} (h : step w m = some w') : Turn w m w' := by
  cases m with
  | begin r =>
    simp only [step] at h
    split at h <;> simp only [Option.some.injEq, reduceCtorEq] at h
    exact h ▸ .begins ‹_›
  | fire id =>
    simp only [step] at h
    split at h <;> simp only [World.fire, reduceCtorEq] at h
    split at h <;> simp only [Option.some.injEq, reduceCtorEq] at h
    exact h ▸ .runs (.due ‹_›)
  | fireNext =>
    simp only [step] at h
    split at h <;> simp only [World.fireNext, reduceCtorEq] at h
    split at h <;> simp only [Option.some.injEq, reduceCtorEq] at h
    exact h ▸ .runs (.next ‹_›)
  | enter op =>
    simp only [step, World.enter] at h
    split at h
    · rename_i k errand hp
      split at h
      · rename_i e he
        split at h <;> simp only [Option.some.injEq, reduceCtorEq] at h
        exact h ▸ .enters hp he ‹_›
      · cases h
    · cases h
  | openNext op =>
    simp only [step, World.openNext] at h
    split at h <;> simp only [Option.some.injEq, reduceCtorEq] at h
    exact h ▸ .opens ‹_›
  | answer op r =>
    simp only [step, World.answer] at h
    split at h <;> simp only [Option.some.injEq, reduceCtorEq] at h
    · exact h ▸ .fetchedFirst ‹_›
    · exact h ▸ .fetchedAgain ‹_›
    · exact h ▸ .renewed ‹_›
    · exact h ▸ .revoked ‹_›
  | elapse t =>
    simp only [step, World.elapse] at h
    split at h <;> simp only [Option.some.injEq, reduceCtorEq] at h
    exact h ▸ .elapses
  | release => cases h; exact .releases
  | stop => cases h; exact .stops
  | listen channel o => cases h; exact .listens
  | unlisten channel id => cases h; exact .unlistens

/-! ## Runs -/

theorem run?_append (w : World) (ms ns : List Move) :
    run? w (ms ++ ns) = (run? w ms).bind fun v => run? v ns := by
  induction ms generalizing w with
  | nil => rfl
  | cons m ms ih =>
    rw [List.cons_append, run?, run?]
    cases step w m with
    | none => rfl
    | some v => exact ih v

theorem run?_concat {w w' : World} {ms : List Move} {m : Move} :
    run? w (ms ++ [m]) = some w' ↔ ∃ v, run? w ms = some v ∧ step v m = some w' := by
  rw [run?_append, Option.bind_eq_some_iff]
  simp only [run?, Option.bind_fun_some]

/-- What every turn keeps, every run keeps. -/
theorem run?_keeps {P : World → Prop} (hstep : ∀ {w w' : World} {m : Move}, P w → Turn w m w' → P w')
    {w w' : World} {ms : List Move} (hw : P w) (h : run? w ms = some w') : P w' := by
  induction ms generalizing w with
  | nil => cases h; exact hw
  | cons m ms ih =>
    simp only [run?, Option.bind_eq_some_iff] at h
    obtain ⟨v, hv, h⟩ := h
    exact ih (hstep hw (turn_of_step hv)) h

end LeaseKeeper.Leases
