import LeaseKeeper.Proofs.Session.Shutdown

/-!
# Letting a session go

When the last holder of a session lets go, its task does not keep it: as soon as no operation is
under way, the task is cancelled (`Idle`), and nothing ever happens in the session again
(`silent_of_run`). Operations that are under way go on as before. One of them can always be resumed
(`exists_resumable`), and each of them only five times (`rounds_of_run`), for a renewal leads to at
most one login. So they come to their end, though a task may start another one in the meantime.
-/

namespace LeaseKeeper.Session

/-- How often an operation that stands at a point is resumed yet, at most: a renewal that fails may
lead to a login, which may have to wait for the lock first, and to ask about the token and to give it
back afterwards. -/
def Point.rounds : Point → Nat
  | .renewing _ _ => 5
  | .queued _ _ => 4
  | .loggingIn _ _ => 3
  | .lookingUp _ _ => 2
  | .discarding _ _ => 1
  | .revoking _ => 1

theorem Point.rounds_le (p : Point) : p.rounds ≤ 5 := by
  cases p <;> simp [rounds]

/-- Whether a move resumes that operation. -/
def Move.resumes (op : Nat) : Move → Bool
  | .enter a => a == op
  | .answer a _ => a == op
  | _ => false

namespace World

/-- How often that operation is resumed yet, at most. -/
def roundsOf (w : World) (op : Nat) : Nat :=
  if op < w.nextOperation then (w.point? op).elim 0 Point.rounds else 5

/-- In a session that nobody holds, the task is cancelled. -/
structure Idle (w : World) : Prop where
  slot : w.isAlive = false → w.slot = none

/-- An operation ends, or goes on from where it can be resumed less than `n` times; no other moves. -/
structure Advances (w : World) (op n : Nat) (w' : World) : Prop where
  beside : Beside w w' op
  fewer : ∀ p, w'.point? op = some p → p.rounds < n

variable {w u v w' : World} {m : Move} {op q n : Nat} {ns : List Move}

/-! ## Nobody holds it -/

theorem idle_reap (w : World) : w.reap.Idle := by
  unfold reap
  split
  · rename_i ha
    exact ⟨fun h => by cases ha.symm.trans h⟩
  · exact ⟨fun _ => rfl⟩

theorem idle_finish (w : World) (op : Nat) (o : Outcome) : (w.finish op o).Idle := idle_reap _

theorem idle_endLogin (w : World) (op : Nat) (purpose : Purpose) (r : Except Fault Grant) :
    (w.endLogin op purpose r).Idle := by
  rw [endLogin_eq]
  exact idle_finish ..

/-- Where an operation is under way, the session is held. -/
theorem idle_setPoint (w : World) (op : Nat) (p : Point) : (w.setPoint op p).Idle :=
  ⟨fun h => by simp [isAlive, setPoint] at h⟩

theorem idle_call (w : World) (op : Nat) (c : Call) (p : Point) : (w.call op c p).Idle :=
  ⟨fun h => (idle_setPoint w op p).slot h⟩

theorem idle_acquires {purpose : Purpose} (h : Acquires u op purpose w') : w'.Idle := by
  cases h with
  | shut | found => exact idle_finish ..
  | starts _ _ _ => exact idle_call ..
  | waits _ _ _ => exact idle_setPoint ..

theorem idle_takes (h : Takes u op w') : w'.Idle := by
  cases h with
  | quiet _ => exact idle_finish ..
  | sends _ _ => exact idle_call ..

theorem idle_enters {observed : Nat} {purpose : Purpose} (h : Enters w op observed purpose w') :
    w'.Idle := by
  cases h with
  | shut | found | shared => exact idle_finish ..
  | starts _ _ _ => exact idle_call ..

theorem idle_welcomes {purpose : Purpose} {c : Credential} (h : Welcomes u op purpose c w') :
    w'.Idle := by
  cases h with
  | late _ _ => exact idle_call ..
  | dropped | installed => exact idle_endLogin ..

theorem idle_loses {g : Grant} (h : Loses u op g w') : w'.Idle := by
  cases h with
  | superseded | ended => exact idle_finish ..
  | again _ _ h => exact idle_acquires h

theorem idle_renews {g : Grant} {r : Except Fault Credential} (h : Renews w op g r w') : w'.Idle := by
  cases h with
  | discarded | superseded | brief | renewed | retried => exact idle_finish ..
  | tooLate _ _ _ h | failed _ _ h => exact idle_loses h

/-- Whoever ends an operation sees to the task; every other step leaves slot and holders alone. -/
theorem Idle.turn (h : w.Idle) (ht : Turn w m w') : w'.Idle := by
  cases ht with
  | token _ hk => exact idle_acquires hk
  | revoke _ hk | destroy _ _ hk => exact idle_takes hk
  | destroyAgain | stale | expire | revoked => exact idle_finish ..
  | renew | looksUp => exact idle_call ..
  | enter _ _ hk => exact idle_enters hk
  | loginFailed | discarded => exact idle_endLogin ..
  | welcome _ _ hk | lookedUp _ hk | notLookedUp _ hk => exact idle_welcomes hk
  | renewed _ hk => exact idle_renews hk
  | abandon | release => exact idle_reap _
  | orphan | elapse | stop | listen | unlisten => exact ⟨h.slot⟩

theorem dead_of_turn (h : w.isAlive = false) (ht : Turn w m w') : w'.isAlive = false :=
  Bool.eq_false_iff.mpr fun ha => by cases h.symm.trans (alive_of_turn ht ha)

/-- Nothing happens in a session that nobody holds. -/
theorem history_of_dead (h : w.isAlive = false) (ht : Turn w m w') : w'.history = w.history := by
  have hno : ∀ {P : Prop}, w.isAlive = true → P := fun ha => by cases h.symm.trans ha
  cases ht with
  | token hh _ | revoke hh _ | destroyAgain hh _ | destroy hh _ _ => exact hno (alive_of_held hh)
  | stale _ ha _ | renew _ ha _ _ _ | expire _ ha _ _ _ => exact hno ha
  | enter _ hp _ => exact hno (alive_of_point hp)
  | loginFailed hp => exact hno (alive_of_point hp)
  | looksUp hp _ => exact hno (alive_of_point hp)
  | welcome hp _ _ => exact hno (alive_of_point hp)
  | lookedUp hp _ => exact hno (alive_of_point hp)
  | notLookedUp hp _ => exact hno (alive_of_point hp)
  | discarded hp => exact hno (alive_of_point hp)
  | renewed hp _ => exact hno (alive_of_point hp)
  | revoked hp => exact hno (alive_of_point hp)
  | abandon hp => exact hno (alive_of_point hp)
  | release => exact history_reap _
  | orphan | elapse | stop | listen | unlisten => rfl

/-! ## Who is under way comes to an end -/

theorem operations_tellRevocation (w : World) (g : Grant) (r : Except Fault Unit) :
    (w.tellRevocation g r).operations = w.operations := by
  cases r <;> rfl

theorem nextOperation_tellRevocation (w : World) (g : Grant) (r : Except Fault Unit) :
    w.nextOperation ≤ (w.tellRevocation g r).nextOperation := by
  cases r <;> exact Nat.le_refl _

namespace Advances

/-- The operation stands nowhere afterwards. -/
theorem gone (ho : u.operations.filter (·.1 != op) = w.operations.filter (·.1 != op))
    (hp : u.point? op = none) (hn : w.nextOperation ≤ u.nextOperation) : Advances w op n u where
  beside := ⟨fun a ha => by
    have := congrArg (List.lookup a) ho
    rwa [lookup_filter, lookup_filter, if_neg ha, if_neg ha] at this, hn⟩
  fewer p hq := by cases hp.symm.trans hq

theorem finish {o : Outcome} (ho : u.operations = w.operations)
    (hn : w.nextOperation ≤ u.nextOperation) : Advances w op n (u.finish op o) where
  beside := ⟨fun a ha => by rw [point?_finish, if_neg ha, point?, ho, point?], by
    rw [nextOperation_finish]
    exact hn⟩
  fewer p hp := by
    rw [point?_finish, if_pos rfl] at hp
    cases hp

theorem setPoint {p : Point} (ho : u.operations = w.operations)
    (hn : w.nextOperation ≤ u.nextOperation) (hp : p.rounds < n) : Advances w op n (u.setPoint op p) where
  beside := ⟨fun a ha => by rw [point?_setPoint, if_neg ha, point?, ho, point?], hn⟩
  fewer p' hp' := by
    rw [point?_setPoint, if_pos rfl] at hp'
    cases hp'
    exact hp

theorem call {c : Call} {p : Point} (ho : u.operations = w.operations)
    (hn : w.nextOperation ≤ u.nextOperation) (hp : p.rounds < n) : Advances w op n (u.call op c p) :=
  have h : Advances w op n (u.setPoint op p) := setPoint ho hn hp
  ⟨⟨h.beside.points, h.beside.next⟩, h.fewer⟩

theorem endLogin {purpose : Purpose} {r : Except Fault Grant} (ho : u.operations = w.operations)
    (hn : w.nextOperation ≤ u.nextOperation) : Advances w op n (u.endLogin op purpose r) := by
  rw [endLogin_eq]
  exact finish ho hn

theorem acquires {purpose : Purpose} (hk : Acquires u op purpose w') (ho : u.operations = w.operations)
    (hn : w.nextOperation ≤ u.nextOperation) (hlt : 4 < n) : Advances w op n w' := by
  cases hk with
  | shut | found => exact finish ho hn
  | starts _ _ _ =>
    exact call ((operations_dropExpired { u with lock := [op] }).trans ho)
      (Nat.le_trans hn (Nat.le_of_eq (nextOperation_dropExpired { u with lock := [op] }).symm))
      (Nat.lt_of_succ_lt hlt)
  | waits _ _ _ => exact setPoint ho hn hlt

theorem takes (hk : Takes u op w') (ho : u.operations = w.operations)
    (hn : w.nextOperation ≤ u.nextOperation) (hlt : 1 < n) : Advances w op n w' := by
  cases hk with
  | quiet _ => exact finish ho hn
  | sends _ _ => exact call ho hn hlt

theorem enters {observed : Nat} {purpose : Purpose} (hk : Enters w op observed purpose w') :
    Advances w op 4 w' := by
  cases hk with
  | shut | found | shared => exact finish rfl (Nat.le_refl _)
  | starts _ _ _ =>
    exact call (operations_dropExpired w) (Nat.le_of_eq (nextOperation_dropExpired w).symm)
      (Nat.lt_succ_self 3)

theorem welcomes {purpose : Purpose} {c : Credential} (hk : Welcomes u op purpose c w')
    (ho : u.operations = w.operations) (hn : w.nextOperation ≤ u.nextOperation) (hlt : 1 < n) :
    Advances w op n w' := by
  cases hk with
  | late _ _ => exact call ho hn hlt
  | dropped _ _ => exact endLogin ho hn
  | installed _ =>
    exact endLogin ((operations_installs ..).trans ho)
      (Nat.le_trans hn (Nat.le_of_eq (nextOperation_installs ..).symm))

theorem loses {g : Grant} (hk : Loses u op g w') (ho : u.operations = w.operations)
    (hn : w.nextOperation ≤ u.nextOperation) : Advances w op 5 w' := by
  cases hk with
  | superseded | ended => exact finish ho hn
  | again _ _ hk => exact acquires hk ho hn (Nat.lt_succ_self 4)

theorem renews {g : Grant} {r : Except Fault Credential} (hk : Renews w op g r w') :
    Advances w op 5 w' := by
  cases hk with
  | discarded | superseded | brief => exact finish rfl (Nat.le_refl _)
  | @renewed c _ _ _ =>
    exact finish (operations_installs w.granted c .renewed)
      (Nat.le_of_eq (nextOperation_installs w.granted c .renewed).symm)
  | @retried f _ _ _ =>
    exact finish (operations_retries w g f) (Nat.le_of_eq (nextOperation_retries w g f).symm)
  | @tooLate f _ _ _ _ hk =>
    obtain ⟨_, _, he⟩ := (w.told g f).snd_renewalDelay g.credential
    rw [he] at hk
    exact loses hk rfl (Nat.le_refl _)
  | failed _ _ hk => exact loses hk rfl (Nat.le_refl _)

end Advances

/-! ## Rounds in a step -/

theorem roundsOf_le (w : World) (op : Nat) : w.roundsOf op ≤ 5 := by
  unfold roundsOf
  split
  · cases w.point? op with
    | none => exact Nat.zero_le _
    | some p => exact p.rounds_le
  · exact Nat.le_refl _

theorem roundsOf_of_point {p : Point} (ho : w.IsOrderly) (hp : w.point? op = some p) :
    w.roundsOf op = p.rounds := by
  rw [roundsOf, if_pos (ho.lt_next hp), hp]
  rfl

/-- An operation that does not move is resumed as often as before, and a new one five times at most. -/
theorem Beside.rounds (h : Beside w w' op) (hq : q ≠ op) :
    w'.roundsOf q ≤ w.roundsOf q := by
  by_cases hlt : q < w.nextOperation
  · rw [roundsOf, if_pos (Nat.lt_of_lt_of_le hlt h.next), h.points q hq, roundsOf, if_pos hlt]
  · exact Nat.le_trans (w'.roundsOf_le q) (Nat.le_of_eq (if_neg hlt).symm)

/-- An operation that begins, or ends without having been resumed. -/
theorem Advances.rounds (h : Advances w op n w')
    (hop : w.nextOperation ≤ op ∨ w'.point? op = none) (hm : m.resumes q = false) :
    w'.roundsOf q + (if m.resumes q then 1 else 0) ≤ w.roundsOf q := by
  rw [hm]
  by_cases hq : q = op
  · subst hq
    rcases hop with hle | hn
    · exact Nat.le_trans (w'.roundsOf_le q) (Nat.le_of_eq (if_neg (Nat.not_lt.mpr hle)).symm)
    · by_cases hlt : q < w.nextOperation
      · rw [roundsOf, if_pos (Nat.lt_of_lt_of_le hlt h.beside.next), hn]
        exact Nat.zero_le _
      · exact Nat.le_trans (w'.roundsOf_le q) (Nat.le_of_eq (if_neg hlt).symm)
  · exact h.beside.rounds hq

/-- An operation that is resumed. -/
theorem Advances.rounds_of_point {p : Point} (ho : w.IsOrderly) (hp : w.point? op = some p)
    (h : Advances w op p.rounds w') (hm : q ≠ op → m.resumes q = false) :
    w'.roundsOf q + (if m.resumes q then 1 else 0) ≤ w.roundsOf q := by
  by_cases hq : q = op
  · subst hq
    have hlt := Nat.lt_of_lt_of_le (ho.lt_next hp) h.beside.next
    have hpos : 0 < p.rounds := by cases p <;> exact Nat.succ_pos _
    have hfall : w'.roundsOf q < p.rounds := by
      rw [roundsOf, if_pos hlt]
      cases hp' : w'.point? q with
      | none => exact hpos
      | some p' => exact h.fewer p' hp'
    rw [roundsOf_of_point ho hp]
    split <;> omega
  · rw [hm hq]
    exact h.beside.rounds hq

/-- Each time that an operation is resumed, it comes nearer to its end. -/
theorem rounds_turn (ho : w.IsOrderly) (ht : Turn w m w') (q : Nat) :
    w'.roundsOf q + (if m.resumes q then 1 else 0) ≤ w.roundsOf q := by
  have hnext : w.nextOperation ≤ w.enrolled.nextOperation := Nat.le_succ _
  have hbegun : ∀ {v n}, m.resumes q = false → Advances w w.nextOperation n v →
      v.roundsOf q + (if m.resumes q then 1 else 0) ≤ w.roundsOf q :=
    fun hm h => h.rounds (.inl (Nat.le_refl _)) hm
  have hfire : ∀ {t s}, w.Fires m t s → m.resumes q = false := fun hf => by cases hf <;> rfl
  have hstill : ∀ {v : World}, m.resumes q = false → v.operations = w.operations →
      w.nextOperation ≤ v.nextOperation →
      v.roundsOf q + (if m.resumes q then 1 else 0) ≤ w.roundsOf q := fun hm hop hn =>
    hbegun (n := 0) hm (.gone (by rw [hop]) (by rw [point?, hop, ho.lookup_next]) hn)
  have hother : ∀ {op r}, q ≠ op → (Move.answer op r).resumes q = false := fun hq => by
    simp [Move.resumes, Ne.symm hq]
  cases ht with
  | token _ hk => exact hbegun rfl (.acquires hk rfl hnext (Nat.lt_succ_self 4))
  | revoke _ hk => exact hbegun rfl (.takes hk rfl hnext (Nat.lt_succ_self 1))
  | destroyAgain _ _ => exact hbegun (n := 0) rfl (.finish rfl hnext)
  | destroy _ _ hk => exact hbegun rfl (.takes hk rfl hnext (Nat.lt_succ_self 1))
  | orphan hf _ => exact hstill (hfire hf) rfl (Nat.le_refl _)
  | stale hf _ _ | expire hf _ _ _ _ => exact hbegun (n := 0) (hfire hf) (.finish rfl hnext)
  | renew hf _ _ _ _ => exact hbegun (hfire hf) (.call rfl hnext (Nat.lt_succ_self 5))
  | enter _ hp hk =>
    exact Advances.rounds_of_point ho hp (.enters hk) fun hq => by simp [Move.resumes, Ne.symm hq]
  | loginFailed hp => exact Advances.rounds_of_point ho hp (.endLogin rfl (Nat.le_refl _)) hother
  | looksUp hp _ =>
    exact Advances.rounds_of_point ho hp (.call rfl (Nat.le_refl _) (Nat.lt_succ_self 2)) hother
  | welcome hp _ hk =>
    exact Advances.rounds_of_point ho hp (.welcomes hk rfl (Nat.le_refl _) (Nat.lt_of_succ_lt (Nat.lt_succ_self 2)))
      hother
  | lookedUp hp hk | notLookedUp hp hk =>
    exact Advances.rounds_of_point ho hp (.welcomes hk rfl (Nat.le_refl _) (Nat.lt_succ_self 1)) hother
  | @discarded op _ g r hp =>
    exact Advances.rounds_of_point ho hp (.endLogin (operations_tellRevocation w g r)
      (nextOperation_tellRevocation w g r)) hother
  | renewed hp hk => exact Advances.rounds_of_point ho hp (.renews hk) hother
  | @revoked op g r hp =>
    exact Advances.rounds_of_point ho hp (.finish (operations_tellRevocation w g r)
      (nextOperation_tellRevocation w g r)) hother
  | abandon _ =>
    obtain ⟨hb, hn⟩ := beside_abandon w _
    exact Advances.rounds (n := 0) ⟨hb, fun p hp => by cases hn.symm.trans hp⟩ (.inr hn) rfl
  | release => exact hstill rfl (operations_reap _) (Nat.le_of_eq (nextOperation_reap { w with held := false }).symm)
  | elapse | stop | listen | unlisten => exact hstill rfl rfl (Nat.le_refl _)

/-! ## Whole runs -/

theorem Idle.live (h : w.Idle) (hb : Booked w.schedule w.slot) (ha : w.isAlive = false) :
    w.schedule.live = [] :=
  List.eq_nil_iff_forall_not_mem.mpr fun t ht => by
    cases (h.slot ha).symm.trans (hb.slot_live t ht)

theorem isAlive_of_release (hh : w.held = false) (h : w.operations = []) : w.isAlive = false := by
  simp [isAlive, hh, h]

theorem held_of_run (hh : w.held = false) (hv : run? w ns = some v) : v.held = false :=
  run?_keeps (P := fun u => u.held = false)
    (fun hu ht => Bool.eq_false_iff.mpr fun h => by cases hu.symm.trans (held_of_turn ht h))
    hh hv

/-- A session that nobody holds stays as it is. -/
theorem silent_of_run (ha : w.isAlive = false) (hv : run? w ns = some v) :
    v.isAlive = false ∧ v.history = w.history :=
  run?_keeps (P := fun u => u.isAlive = false ∧ u.history = w.history)
    (fun hu ht => ⟨dead_of_turn hu.1 ht, (history_of_dead hu.1 ht).trans hu.2⟩) ⟨ha, rfl⟩ hv

/-- As often as an operation is resumed in a run, so much nearer it has come to its end. -/
theorem rounds_of_run (ho : w.IsOrderly) (hv : run? w ns = some v) (q : Nat) :
    ns.countP (Move.resumes q) + v.roundsOf q ≤ w.roundsOf q := by
  induction ns generalizing w with
  | nil =>
    cases hv
    exact Nat.le_of_eq (Nat.zero_add _)
  | cons m ms ih =>
    simp only [run?, Option.bind_eq_some_iff] at hv
    obtain ⟨u, hu, hv⟩ := hv
    have ht := turn_of_step hu
    have hstep := rounds_turn ho ht q
    have hrest := ih (orderly_turn ho ht) hv
    rw [List.countP_cons]
    omega

/-- As long as operations are under way, one of them can be resumed, by whatever it waits for. -/
theorem exists_resumable (ho : w.IsOrderly) (h : w.operations ≠ []) :
    ∃ op p, w.point? op = some p ∧ ∀ m, p.isResumedBy op m = true → ∃ w', step w m = some w' := by
  obtain ⟨⟨op, p⟩, ops, he⟩ := List.exists_cons_of_ne_nil h
  have hp : w.point? op = some p := by rw [point?, he, List.lookup_cons_self]
  cases hw : p.wantsLock with
  | true =>
    -- Whoever has a place in the queue waits for its head.
    have hop : op ∈ w.lock := (ho.mem_lock op).mpr ⟨p, hp, hw⟩
    obtain ⟨a, as, hl⟩ := List.exists_cons_of_ne_nil (List.ne_nil_of_mem hop)
    obtain ⟨p', hp', -⟩ := (ho.mem_lock a).mp (hl ▸ List.mem_cons_self ..)
    exact ⟨a, p', hp', fun m hm => step_of_isResumedBy hp' (by rw [hl, List.head?_cons]) hm⟩
  | false =>
    refine ⟨op, p, hp, fun m hm => ?_⟩
    cases m with
    | answer a r =>
      simp only [Point.isResumedBy, Bool.and_eq_true, beq_iff_eq] at hm
      obtain ⟨rfl, hc⟩ := hm
      simp only [step, World.answer, hp]
      cases p <;> cases r <;> first | exact ⟨_, rfl⟩ | cases hc
    | enter a =>
      simp only [Point.isResumedBy, Bool.and_eq_true] at hm
      cases p with
      | renewing | revoking => cases hm.2
      | _ => cases hw
    | _ => cases hm

end World

open World

/-- What is so after the last holder of a session has let go, once the steps `ns` have led to `v`. -/
structure LetGo (ns : List Move) (v : World) : Prop where
  /-- The task keeps nothing alive: where no operation is under way, no task is left to start. -/
  idle : v.operations = [] → v.isAlive = false ∧ v.schedule.live = []
  /-- Then it stays so in every run, and nothing happens: no call, no event. -/
  silent : v.operations = [] → ∀ ms u, run? v ms = some u →
    u.operations = [] ∧ u.schedule.live = [] ∧ u.history = v.history
  /-- Until then there is an operation that goes on as soon as it is handed the lock or the server
  answers, whatever the answer. -/
  moves : v.operations ≠ [] → ∃ op p, v.point? op = some p ∧
    ∀ m, p.isResumedBy op m = true → ∃ u, step v m = some u
  /-- No operation is resumed more than five times. -/
  prompt : ∀ op, ns.countP (Move.resumes op) ≤ 5

theorem letGo_of_run {settings : Settings} {d : Discipline} {draws : Nat → Nat} {ms ns : List Move}
    {w v : World} (hw : run? (World.initial settings d draws) ms = some w)
    (hv : run? w.release ns = some v) : LetGo ns v := by
  have hrel : run? (World.initial settings d draws) (ms ++ [.release]) = some w.release :=
    run?_concat.mpr ⟨w, hw, rfl⟩
  have hrun : run? (World.initial settings d draws) ((ms ++ [.release]) ++ ns) = some v := by
    rw [run?_append, hrel]
    exact hv
  have hkept : ∀ {ks u}, run? (World.initial settings d draws) ks = some u →
      u.Idle ∧ Booked u.schedule u.slot := fun hu =>
    run?_keeps (P := fun u => u.Idle ∧ Booked u.schedule u.slot)
      (fun hk ht => ⟨hk.1.turn ht, (Onward.of_turn ht).booked hk.2⟩)
      ⟨⟨fun h => by cases h⟩, booked_empty d⟩ hu
  have hlive : ∀ {ks u}, run? (World.initial settings d draws) ks = some u → u.isAlive = false →
      u.schedule.live = [] := fun hu ha => (hkept hu).1.live (hkept hu).2 ha
  have hdead : v.operations = [] → v.isAlive = false :=
    isAlive_of_release (held_of_run (held_reap { w with held := false }) hv)
  refine ⟨fun h => ⟨hdead h, hlive hrun (hdead h)⟩, fun h ks u hu => ?_,
    exists_resumable (orderly_of_run hrun), fun op => ?_⟩
  · obtain ⟨ha, hh⟩ := silent_of_run (hdead h) hu
    have hrun' : run? (World.initial settings d draws) (((ms ++ [.release]) ++ ns) ++ ks) = some u := by
      rw [run?_append, hrun]
      exact hu
    refine ⟨?_, hlive hrun' ha, hh⟩
    simpa [isAlive] using (Bool.or_eq_false_iff.mp ha).2
  · have hrounds := rounds_of_run (orderly_of_run hrel) hv op
    have hle := w.release.roundsOf_le op
    omega

end LeaseKeeper.Session
