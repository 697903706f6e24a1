import LeaseKeeper.Proofs.Clockwork.Calls

/-!
# Clockworks keep time

What a timed clockwork does with its tasks, wherever a run has taken it (`KeepsTime`): it does what
it is asked (`Obeys`); a task starts once at most, when its delay has passed, unless it was barred
before that, and no other task gets in its way; and a body that began comes to its end, whatever
becomes of its task. The latter is about runs without an end in which the clock passes every instant
(`Course`): who sleeps is woken at last (`Course.woken`), so that the rest of a body is played, by
induction on the body (`Course.ends_of_play`).
-/

namespace LeaseKeeper

namespace Clockwork

variable {κ σ : Type} {program : κ → Body κ σ} {c c' : Clockwork κ σ}

/-! ## Bodies come to their end -/

/-- Whoever sleeps goes on sleeping until it is woken. -/
theorem lookup_play {task id : Nat} (hne : id ≠ task) (b : Body κ σ) :
    (play task b c).asleep.lookup id = c.asleep.lookup id := by
  induction b generalizing c with
  | done => rfl
  | sleep time next _ =>
    rw [play, List.lookup_cons, show (id == task) = false by simpa using hne]
  | schedule delay job next ih => exact ih _
  | cancel other next ih =>
    exact ih.trans (by rw [asleep_cancel])
  | ask other next ih => exact ih _
  | stop next ih =>
    exact ih.trans (by rw [asleep_stop])
  | share change next ih => exact ih _

theorem lookup_step (h : Sound c) (hb : Bodies none c) {m : Move κ} {id : Nat} {s : Sleeper κ σ}
    (hs : c.asleep.lookup id = some s) (hm : c.step program m = some c')
    (hne : ∀ task, m = .wake task → task ≠ id) : c'.asleep.lookup id = some s := by
  cases m with
  | schedule delay job =>
    cases hm
    exact hs
  | cancel task =>
    cases hm
    rwa [asleep_cancel]
  | stop =>
    cases hm
    rwa [asleep_stop]
  | pick =>
    rw [step, h.timed] at hm
    cases hm
  | poll task =>
    rw [step, h.timed] at hm
    obtain ⟨t, rest, hr, rfl⟩ := poll?_eq_some hm
    have ht := (Schedule.starts_of_startDue h.numbered hr).1.mem
    have hids : id ≠ t.id := fun e =>
      (h.upcoming t ht).waits (e ▸ (hb.asleep _ (lookup_mem hs)).2.1)
    exact (lookup_play hids _).trans hs
  | wake task =>
    obtain ⟨s', -, -, rfl⟩ := wake?_eq_some.mp hm
    have hids : id ≠ task := (hne task rfl).symm
    exact (lookup_play hids _).trans ((lookup_filter ..).trans (by rw [if_neg hids, hs]))
  | elapse t =>
    obtain ⟨-, rfl⟩ := step_elapse.mp hm
    exact hs

/-- A run without an end in which the clock passes every instant, however late. -/
structure Course (program : κ → Body κ σ) (c : Clockwork κ σ) where
  state : Nat → Clockwork κ σ
  move : Nat → Move κ
  begins : state 0 = c
  goes : ∀ n, (state n).step program (move n) = some (state (n + 1))
  endless : ∀ (t : Instant) (n : Nat), ∃ k, n ≤ k ∧ t < (state k).now

namespace Course

variable (course : Course program c)

theorem keeps (h : Sound c) (hb : Bodies none c) (n : Nat) :
    Sound (course.state n) ∧ Bodies none (course.state n) := by
  induction n with
  | zero =>
    rw [course.begins]
    exact ⟨h, hb⟩
  | succ n ih => exact step_keeps ih.1 ih.2 (course.goes n)

/-- Whoever sleeps is woken at last. -/
theorem woken (h : Sound c) (hb : Bodies none c) {n id : Nat} {s : Sleeper κ σ}
    (hs : (course.state n).asleep.lookup id = some s) :
    ∃ k, (course.state k).asleep.lookup id = some s ∧ course.move k = .wake id := by
  by_contra hno
  have hstay : ∀ k, (course.state (n + k)).asleep.lookup id = some s := by
    intro k
    induction k with
    | zero => exact hs
    | succ k ih =>
      have hk := course.keeps h hb (n + k)
      exact lookup_step hk.1 hk.2 ih (course.goes (n + k)) fun task hw e =>
        hno ⟨n + k, ih, e ▸ hw⟩
  obtain ⟨k, hle, hk⟩ := course.endless s.due n
  obtain ⟨i, rfl⟩ := Nat.exists_eq_add_of_le hle
  have hdue := ((course.keeps h hb (n + i)).2.asleep _ (lookup_mem (hstay i))).1
  exact absurd (Nat.lt_of_lt_of_le hk hdue) (Nat.lt_irrefl _)

/-- A body that is played ends at last. -/
theorem ends_of_play (h : Sound c) (hb : Bodies none c) {task : Nat} (b : Body κ σ) {n : Nat}
    {v : Clockwork κ σ} (hn : course.state n = play task b v) :
    ∃ k, Happened (course.state k).trace (.ended task) := by
  induction b generalizing n v with
  | done =>
    refine ⟨n, ?_⟩
    rw [hn]
    exact happened_cons.mpr (.inl rfl)
  | sleep time next ih =>
    have hs : (course.state n).asleep.lookup task = some ⟨v.now.plus time, next⟩ := by
      rw [hn, play, List.lookup_cons, beq_self_eq_true]
    obtain ⟨k, hk, hm⟩ := course.woken h hb hs
    have hgo := course.goes k
    rw [hm] at hgo
    obtain ⟨s, hs', -, hplay⟩ := wake?_eq_some.mp hgo
    cases hk.symm.trans hs'
    exact ih hplay.symm
  | schedule delay job next ih => exact ih _ hn
  | cancel id next ih => exact ih hn
  | ask id next ih => exact ih _ hn
  | stop next ih => exact ih hn
  | share change next ih => exact ih _ hn

end Course

/-! ## Keeping time -/

theorem Sound.ready (h : Sound c) {t : Instant} {id : Nat} {d : Span}
    (ht : (t, .scheduled id d) ∈ c.trace) (hs : ¬Happened c.trace (.started id))
    (hb : ∀ e ∈ c.trace, e.2.bars id = false) : c.now ≤ t.plus d ∧ (t.plus d ≤ c.now →
      ∃ c', c.step program (.poll id) = some c' ∧ (c.now, .started id) ∈ c'.trace) := by
  rcases h.accounted t id d ht with hs' | ⟨e, he, hb', -⟩ | ⟨u, hu, rfl, hdue⟩
  · exact absurd hs' hs
  · cases (hb e he).symm.trans hb'
  · refine ⟨hdue ▸ (h.upcoming u hu).toCome, fun hle => ?_⟩
    obtain ⟨s, hst⟩ := h.numbered.startDue hu (hdue ▸ hle)
    refine ⟨c.start program u s, ?_, ?_⟩
    · rw [step, h.timed]
      simp only [poll?, hst]
    · exact (suffix_play (program u.job) (c := { c with schedule := s }.log (.started u.id))).subset
        List.mem_cons_self

theorem Course.ends (course : Course program c) (h : Sound c) (hb : Bodies none c) {id : Nat}
    (hs : Happened c.trace (.started id)) : ∃ n, Happened (course.state n).trace (.ended id) := by
  rcases hb.lookup hs with he | ⟨s, hl, -⟩
  · exact ⟨0, by rwa [course.begins]⟩
  · have h0 : (course.state 0).asleep.lookup id = some s := by rwa [course.begins]
    obtain ⟨k, hk, hm⟩ := course.woken h hb h0
    obtain ⟨s, -, -, hplay⟩ := wake?_eq_some.mp (hm ▸ course.goes k)
    exact course.ends_of_play h hb s.rest hplay.symm

/-- A move, and what comes afterwards. -/
def Course.cons (m : Move κ) (hm : c.step program m = some c') (course : Course program c') :
    Course program c where
  state
    | 0 => c
    | n + 1 => course.state n
  move
    | 0 => m
    | n + 1 => course.move n
  begins := rfl
  goes
    | 0 => hm.trans (congrArg some course.begins.symm)
    | n + 1 => course.goes n
  endless t n := by
    obtain ⟨k, hle, hk⟩ := course.endless t n
    exact ⟨k + 1, Nat.le_succ_of_le hle, hk⟩

/-- Where no task waits and no body sleeps, the clock goes on by itself. -/
theorem step_idle (hl : c.schedule.live = []) (ha : c.asleep = []) (n : Nat) :
    { c with now := ⟨c.now.millis + n⟩ }.step program (.elapse ⟨c.now.millis + (n + 1)⟩) =
      some { c with now := ⟨c.now.millis + (n + 1)⟩ } := by
  refine step_elapse.mpr ⟨⟨Nat.le_succ _, ?_⟩, rfl⟩
  simp only [passes, hl, ha, List.any_nil, Bool.and_false, Bool.or_false]

theorem exists_later (i t : Instant) (n : Nat) :
    ∃ k, n ≤ k ∧ t < (⟨i.millis + k⟩ : Instant) :=
  ⟨n + t.millis + 1, by omega, show t.millis < i.millis + _ by omega⟩

/-- The clock goes on for ever. -/
def Course.idle (hl : c.schedule.live = []) (ha : c.asleep = []) : Course program c where
  state n := { c with now := ⟨c.now.millis + n⟩ }
  move n := .elapse ⟨c.now.millis + (n + 1)⟩
  begins := rfl
  goes := step_idle hl ha
  endless t n := exists_later c.now t n

end Clockwork

end LeaseKeeper
