import LeaseKeeper.Proofs.Session.Care
import LeaseKeeper.Proofs.Session.History
import LeaseKeeper.Session.Blocking

/-!
# Calls that are given up

A caller who waits in its place for a token gives its call up when the limit has passed while its
login is with the server. Nothing is left of the call then (`GivenUp`): its place in the queue is
free, and those who wait go on as if they had begun to wait only now, since a fault that is
remembered from before is none of theirs. This rests on the order of the queue (`Ranked`): who
waits behind a login has observed every login that finished before it began, or there is no fault to
remember. Before, the call has done nothing but take its place in the queue, drop a grant whose
lifetime had run out, and ask the server (`blocking_token`).
-/

namespace LeaseKeeper.Session

open World

namespace World

variable {w w' : World} {m : Move} {q : Nat}

/-! ## The order of the queue -/

/-- Of two operations that wait, the one ahead has observed no more logins than the one behind. -/
def Ahead (w : World) (a b : Nat) : Prop :=
  ∀ oa pa ob pb, w.point? a = some (.queued oa pa) → w.point? b = some (.queued ob pb) → oa ≤ ob

/-- No fault is remembered that the operation has not observed. -/
def Abreast (w : World) (q : Nat) : Prop :=
  ∀ observed purpose, w.point? q = some (.queued observed purpose) →
    observed = w.loginsDone ∨ w.lastFault = none

/-- The operations in the queue have observed the more logins the later they joined, and while a
login is under way, those who wait are abreast of it. -/
structure Ranked (w : World) : Prop where
  upTo : ∀ q observed purpose, w.point? q = some (.queued observed purpose) → observed ≤ w.loginsDone
  ordered : w.lock.Pairwise w.Ahead
  abreast : ∀ op p, w.point? op = some p → p.isLogin = true → ∀ q, w.Abreast q

theorem mem_lock_of_queued (ho : w.IsOrderly) {observed : Nat} {purpose : Purpose}
    (hp : w.point? q = some (.queued observed purpose)) : q ∈ w.lock :=
  (ho.mem_lock q).mpr ⟨_, hp, rfl⟩

/-- The queue after a step is a part of the queue before it, or somebody has joined it. -/
theorem Shift.lock (h : Shift w m w') :
    w'.lock.Sublist w.lock ∨ ∃ op, op ∉ w.lock ∧ w'.lock = w.lock ++ [op] := by
  cases h with
  | aside _ _ _ hl _ _ _ | enters _ _ _ hl _ _ _ _ _ _ | continues _ _ hl _ _ _ _ _ =>
    exact .inl (hl ▸ List.Sublist.refl _)
  | joins _ _ hop _ hl _ _ _ => exact .inr ⟨_, hop, hl⟩
  | begins _ _ hop hn hl _ _ _ _ _ => exact .inr ⟨_, hop, by rw [hl, hn, List.nil_append]⟩
  | leaves _ _ _ hl _ _ _ | finishes _ _ _ _ hl _ _ _ _ _ _ | abandoned _ _ hl _ _ _ =>
    exact .inl (hl ▸ List.filter_sublist)

/-- Who performs a login after a step did so before, or has found the queue empty, or was the head of
it and has not heard of a failure. In either case no login has finished in the step. -/
theorem Shift.login (h : Shift w m w') (ho : w.IsOrderly) {op : Nat} {p : Point}
    (hp : w'.point? op = some p) (hl : p.isLogin = true) :
    Unfinished w m w' ∧ ((∃ p, w.point? op = some p ∧ p.isLogin = true) ∨ w.lock = [] ∨
      ∃ observed purpose, w.lock.head? = some op ∧ w.point? op = some (.queued observed purpose) ∧
        (observed < w.loginsDone → w.lastFault = none)) := by
  have hother : ∀ {a}, Beside w w' a → op ≠ a → ∃ p, w.point? op = some p ∧ p.isLogin = true :=
    fun hb hne => ⟨p, hb.points op hne ▸ hp, hl⟩
  cases h with
  | @aside a hb hu _ _ _ hn _ =>
    refine ⟨hu, .inl (hother hb ?_)⟩
    rintro rfl
    exact absurd ((hn p hp).symm.trans (Point.wantsLock_of_isLogin hl)) (by decide)
  | @joins a _ hb hu _ _ _ _ hn _ =>
    refine ⟨hu, .inl (hother hb ?_)⟩
    rintro rfl
    cases hn.symm.trans hp
    cases hl
  | begins _ hu _ hn _ _ _ _ _ _ => exact ⟨hu, .inr (.inl hn)⟩
  | @leaves a _ _ hb hu _ _ _ hn _ | @abandoned a _ hb hu _ _ hn _ =>
    refine ⟨hu, .inl (hother hb ?_)⟩
    rintro rfl
    cases hn.symm.trans hp
  | @enters a _ _ _ hb hu hh _ hq _ _ _ hf _ =>
    by_cases he : op = a
    · exact ⟨hu, .inr (.inr ⟨_, _, he ▸ hh, he ▸ hq, hf⟩)⟩
    · exact ⟨hu, .inl (hother hb he)⟩
  | @continues a p₀ _ hb hu _ hp₀ hl₀ _ _ _ =>
    by_cases he : op = a
    · exact ⟨hu, .inl ⟨p₀, he ▸ hp₀, hl₀⟩⟩
    · exact ⟨hu, .inl (hother hb he)⟩
  | @finishes a p₀ _ _ hb _ _ _ _ hp₀ hl₀ _ hn _ _ =>
    have hne : op ≠ a := by
      rintro rfl
      cases hn.symm.trans hp
    obtain ⟨p', hp', hl'⟩ := hother hb hne
    exact absurd (ho.login_unique hp' hl' hp₀ hl₀) hne

/-- Who was in the queue before a step waits after it with the observation it had. -/
theorem Shift.still_queued (h : Shift w m w') (hq : q ∈ w.lock) {observed : Nat} {purpose : Purpose}
    (hp : w'.point? q = some (.queued observed purpose)) :
    w.point? q = some (.queued observed purpose) :=
  (h.queued hp).resolve_right fun hj => hj.1 hq

theorem Ranked.shift (h : w.Ranked) (ho : w.IsOrderly) (hs : Shift w m w') : w'.Ranked where
  upTo q observed purpose hp := by
    have hmono : w.loginsDone ≤ w'.loginsDone := by
      rcases hs.done with hu | ⟨_, _, _, hd, _⟩
      · exact Nat.le_of_eq hu.done.symm
      · omega
    rcases hs.queued hp with hp | ⟨_, _, _, rfl⟩
    · exact Nat.le_trans (h.upTo q observed purpose hp) hmono
    · exact hmono
  ordered := by
    have hkeep : ∀ {a b}, a ∈ w.lock → b ∈ w.lock → w.Ahead a b → w'.Ahead a b :=
      fun ha hb hab oa pa ob pb hpa hpb =>
        hab oa pa ob pb (hs.still_queued ha hpa) (hs.still_queued hb hpb)
    have hold : w.lock.Pairwise w'.Ahead := h.ordered.imp_of_mem hkeep
    rcases hs.lock with hsub | ⟨op, hop, hl⟩
    · exact hold.sublist hsub
    · rw [hl]
      refine List.pairwise_append.mpr ⟨hold, List.pairwise_singleton .., fun a ha b hb => ?_⟩
      intro oa pa ob pb hpa hpb
      rw [List.mem_singleton.mp hb] at hpb
      rcases hs.queued hpb with hpb | ⟨_, _, _, rfl⟩
      · exact absurd (mem_lock_of_queued ho hpb) hop
      · exact h.upTo a oa pa (hs.still_queued ha hpa)
  abreast op p hp hl q observed purpose hpq := by
    obtain ⟨hu, hlog⟩ := hs.login ho hp hl
    rw [hu.done, hu.fault]
    rcases hs.queued hpq with hq | ⟨_, _, _, rfl⟩
    · have hmem := mem_lock_of_queued ho hq
      rcases hlog with ⟨p', hp', hl'⟩ | hn | ⟨o, purpose', hh, hop, hf⟩
      · exact h.abreast op p' hp' hl' q observed purpose hq
      · exact absurd (hn ▸ hmem) List.not_mem_nil
      · -- The head of the queue has begun to log in; `q` is behind it.
        have hle := h.upTo q observed purpose hq
        have hne : q ≠ op := by
          rintro rfl
          cases hp.symm.trans hpq
          cases hl
        obtain ⟨rest, hrest⟩ := List.head?_eq_some_iff.mp hh
        rw [hrest] at hmem
        have hbehind : q ∈ rest := List.mem_of_ne_of_mem hne hmem
        have hord : (op :: rest).Pairwise w.Ahead := hrest ▸ h.ordered
        have hahead := List.rel_of_pairwise_cons hord hbehind o _ observed _ hop hq
        by_cases hlt : o < w.loginsDone
        · exact .inr (hf hlt)
        · exact .inl (by omega)
    · exact .inl rfl

/-! ## Going on after a call was given up -/

/-- What an operation does that is handed the lock depends on what it has observed only if there is
a fault that it has not heard of. -/
theorem withLock_congr {o n : Nat} (op : Nat) (purpose : Purpose)
    (h : w.lastFault = none ∨ (o < w.loginsDone ↔ n < w.loginsDone)) :
    w.withLock op o purpose = w.withLock op n purpose := by
  have hf : (if o < w.loginsDone then w.lastFault else none) =
      if n < w.loginsDone then w.lastFault else none := by
    rcases h with h | h
    · rw [h, ite_self, ite_self]
    · simp only [h]
  simp only [withLock, hf]

/-- Logins finish one after the other, and each leaves its own fault. -/
theorem lastFault_of_run {v : World} {ns : List Move} (ho : w.IsOrderly) (h : run? w ns = some v) :
    w.loginsDone < v.loginsDone ∨ v.loginsDone = w.loginsDone ∧ v.lastFault = w.lastFault := by
  refine (run?_keeps (P := fun v => v.IsOrderly ∧ (w.loginsDone < v.loginsDone ∨
    v.loginsDone = w.loginsDone ∧ v.lastFault = w.lastFault)) (fun {u u' m} hu ht => ?_)
    ⟨ho, .inr ⟨rfl, rfl⟩⟩ h).2
  refine ⟨orderly_turn hu.1 ht, ?_⟩
  rcases (shift_of_turn hu.1 ht).done with hn | ⟨_, _, _, hd, _⟩
  · rw [hn.done, hn.fault]
    exact hu.2
  · rcases hu.2 with hlt | ⟨he, _⟩ <;> exact .inl (by omega)

/-- Who has gone does not come back. -/
theorem gone_of_run {v : World} {ns : List Move} (ho : w.IsOrderly) (hp : w.point? q = none)
    (hlt : q < w.nextOperation) (h : run? w ns = some v) : v.point? q = none :=
  (run?_keeps (P := fun v => v.IsOrderly ∧ v.point? q = none ∧ q < v.nextOperation)
    (fun hu ht => ⟨orderly_turn hu.1 ht, (shift_of_turn hu.1 ht).gone hu.2.1 hu.2.2⟩) ⟨ho, hp, hlt⟩ h).2.1

end World

theorem heard_append {q : Nat} {w v : World} {ms : List Move} (h : run? w ms = some v)
    (ns : List Move) : heard q w (ms ++ ns) = heard q w ms ++ heard q v ns := by
  induction ms generalizing w with
  | nil =>
    cases h
    rfl
  | cons m ms ih =>
    simp only [run?, Option.bind_eq_some_iff] at h
    obtain ⟨u, hu, h⟩ := h
    simp only [List.cons_append, heard, hu, ih h, List.append_assoc]

/-- Which operation a move makes go on, or gives up. -/
def Move.operation? : Move → Option Nat
  | .enter op => some op
  | .answer op _ => some op
  | .abandon op => some op
  | _ => none

namespace World

/-- In `v` all is as in `u` but for the operation `op`, for its place in the queue, and for what is
noted on top of the history. -/
structure AllBut (u v : World) (op : Nat) (notes : List Happening) : Prop where
  points : ∀ a, a ≠ op → v.point? a = u.point? a
  lock : v.lock.filter (· != op) = u.lock.filter (· != op)
  history : v.history = notes ++ u.history
  rest : v = { u with
    lock := v.lock, operations := v.operations, nextOperation := v.nextOperation, history := v.history }

/-- Giving up `op` leads from `w` to `v`, and nothing is left of it. -/
structure GivenUp (w : World) (op : Nat) (v : World) : Prop where
  step : step w (.abandon op) = some v
  rest : v = { w with
    lock := w.lock.filter (· != op), operations := w.operations.filter (·.1 != op) }
  /-- Nobody logs in, and the first of those who wait can go on. -/
  released : (∀ a, ¬ v.LogsIn a) ∧ ∀ a, v.lock.head? = some a → ∃ u, Session.step v (.enter a) = some u
  /-- Who waits does, when it is its turn, as if it had begun to wait only now. -/
  waiting : ∀ q purpose, v.Waits q purpose → ∀ ns u u', run? v ns = some u →
    Session.step u (.enter q) = some u' → u' = u.withLock q v.loginsDone purpose
  /-- Who goes on later with a fault learns of a login that has finished while it waited, since. -/
  faults : ∀ ns u u' q f, run? v ns = some u → Session.step u (.enter q) = some u' →
    u.destroyed = false → u'.outcome? q = some (.refused f) → (heard q v ns).getLast? = some (.error f)
  /-- Who asks later is not refused at once. -/
  later : ∀ ns u u' f, run? v ns = some u → Session.step u (.begin .token) = some u' →
    u.destroyed = false → u'.outcome? u.nextOperation ≠ some (.refused f)

end World

section run

variable {settings : Settings} {d : Discipline} {draws : Nat → Nat} {ms ns : List Move} {w u : World}
  {q : Nat}

/-- In every run the queue is ranked. -/
theorem ranked_of_run (h : run? (World.initial settings d draws) ms = some w) : w.Ranked :=
  (run?_keeps (P := fun w => w.IsOrderly ∧ w.Ranked)
    (fun hw ht => ⟨orderly_turn hw.1 ht, hw.2.shift hw.1 (shift_of_turn hw.1 ht)⟩)
    ⟨orderly_initial settings d draws, fun _ _ _ hp => (by cases hp), List.Pairwise.nil,
      fun _ _ hp => (by cases hp)⟩ h).2

section heard

variable (h : run? (World.initial settings d draws) ms = some w)
  (hidle : ∀ a p, w.point? a = some p → p.isLogin = false) (habreast : w.Abreast q)
  (hu : run? w ns = some u) {observed : Nat} {purpose : Purpose} {f : Fault}
  (hp : u.point? q = some (.queued observed purpose)) (hlt : observed < u.loginsDone)
  (hf : u.lastFault = some f)

include h hidle habreast hu hp hlt hf

/-- Where nobody logs in, an operation that is abreast and waits, and later has not observed a fault,
has heard of a login since. -/
theorem heard_ne_nil : heard q w ns ≠ [] := by
  intro hn
  have hall : run? (World.initial settings d draws) (ms ++ ns) = some u := by
    rw [run?_append, h]
    exact hu
  have hinf := informed_of_run h q
  have hcount := (informed_of_run hall q).count observed purpose hp
  have hlatest := (informed_of_run hall q).latest observed purpose hp
  rw [heard_append h, hn, List.append_nil] at hcount hlatest
  -- All that `q` has heard it heard before, so it waited already and has not observed it.
  have hpos : heard q (World.initial settings d draws) ms ≠ [] := by
    intro he
    rw [he, List.length_nil] at hcount
    omega
  obtain ⟨o, pu, hd⟩ := hinf.once hpos
  have ho := orderly_of_run h
  have hpw : w.point? q = some (.queued observed purpose) := by
    cases hq : w.point? q with
    | none => cases (gone_of_run ho hq hd.1 hu).symm.trans hp
    | some p =>
      rcases hd.2 p hq with rfl | hl
      · rcases (descends_of_run ho hd hu).2 _ hp with he | hl
        · rw [he]
        · cases hl
      · exact absurd ((hidle q p hq).symm.trans hl) (by decide)
  have hc := hinf.count observed purpose hpw
  have hlen := List.length_pos_of_ne_nil hpos
  have hnone : w.lastFault = none := (habreast observed purpose hpw).resolve_left (by omega)
  obtain ⟨r, hr⟩ := Option.isSome_iff_exists.mp (List.getLast?_isSome.mpr hpos)
  have hsame : w.lastFault = u.lastFault := (hinf.latest observed purpose hpw r hr).trans (hlatest r hr).symm
  cases (hsame.trans hf).symm.trans hnone

/-- Then the fault is that of the last login that finished while it waited. -/
theorem heard_of_fault : (heard q w ns).getLast? = some (.error f) := by
  have hall : run? (World.initial settings d draws) (ms ++ ns) = some u := by
    rw [run?_append, h]
    exact hu
  have hlatest := (informed_of_run hall q).latest observed purpose hp
  rw [heard_append h] at hlatest
  have hn := heard_ne_nil h hidle habreast hu hp hlt hf
  obtain ⟨r, hr⟩ := Option.isSome_iff_exists.mp (List.getLast?_isSome.mpr hn)
  have hfault := hlatest r (by rw [List.getLast?_append, hr, Option.some_or])
  rw [hr]
  cases r with
  | error f' => exact congrArg _ (congrArg _ (Option.some.inj (hfault.symm.trans hf)))
  | ok g => cases hfault.symm.trans hf

end heard

/-! ## What the call itself does -/

/-- The operation holds the lock with a login that is not with the server any more, or has ended. -/
def World.IsLate (w : World) (op : Nat) : Prop :=
  op < w.nextOperation ∧ ∀ p, w.point? op = some p →
    p.isLogin = true ∧ ∀ purpose since, p ≠ .loggingIn purpose since

theorem World.IsLate.turn {w' : World} {m : Move} {op : Nat} (h : w.IsLate op) (ho : w.IsOrderly)
    (ht : Turn w m w') : w'.IsLate op := by
  have hself : op ∉ w.lock → (w.point? op = none → w.nextOperation ≤ op) → False := fun hn hfrom => by
    cases hp : w.point? op with
    | none => exact absurd h.1 (Nat.not_lt.mpr (hfrom hp))
    | some p => exact hn ((ho.mem_lock op).mpr ⟨p, hp, Point.wantsLock_of_isLogin (h.2 p hp).1⟩)
  have hother : ∀ {a}, Beside w w' a → (op = a → ∀ p, w'.point? a = some p →
      p.isLogin = true ∧ ∀ purpose since, p ≠ .loggingIn purpose since) → w'.IsLate op :=
    fun {a} hb hsame => by
      refine ⟨Nat.lt_of_lt_of_le h.1 hb.next, fun p hp => ?_⟩
      by_cases he : op = a
      · exact hsame he p (he ▸ hp)
      · exact h.2 p (hb.points op he ▸ hp)
  cases shift_of_turn ho ht with
  | aside hb _ hop _ hfrom _ _ => exact hother hb fun he => (hself (he ▸ hop) (he ▸ hfrom)).elim
  | joins hb _ hop _ _ hfrom _ _ => exact hother hb fun he => (hself (he ▸ hop) (he ▸ hfrom)).elim
  | begins hb _ hop _ _ hfrom _ _ _ _ =>
    exact hother hb fun he => (hself (he ▸ hop) (he ▸ hfrom)).elim
  | leaves hb _ _ _ _ hn _ | finishes hb _ _ _ _ _ _ _ hn _ _ | abandoned hb _ _ _ hn _ =>
    exact hother hb fun _ p hp => by cases hn.symm.trans hp
  | enters hb _ _ _ hq _ _ _ _ _ => exact hother hb fun he => by cases (h.2 _ (he ▸ hq)).1
  | continues hb _ _ _ _ hp' hl hno =>
    exact hother hb fun _ p hp => by
      cases hp'.symm.trans hp
      exact ⟨hl, hno⟩

/-- An operation whose call for a login has been answered is not with the server again. -/
theorem World.IsLate.not_loggingIn {op : Nat} (h : w.IsLate op) (ho : w.IsOrderly)
    (hu : run? w ns = some u) : ¬ u.LogsIn op := by
  rintro ⟨purpose, since, hp⟩
  have hl := (run?_keeps (P := fun u => u.IsOrderly ∧ u.IsLate op)
    (fun hu ht => ⟨orderly_turn hu.1 ht, hu.2.turn hu.1 ht⟩) ⟨ho, h⟩ hu).2
  exact (hl.2 _ hp).2 purpose since rfl

theorem World.allBut_call (u : World) (op : Nat) (k : Call) (p : Point) :
    AllBut u (u.call op k p) op [.called op k] :=
  ⟨fun a ha => by rw [point?_call, if_neg ha], rfl, rfl, rfl⟩

theorem World.isLate_finish {op : Nat} (h : op < w.nextOperation) (o : Outcome) :
    (w.finish op o).IsLate op :=
  ⟨by rwa [nextOperation_finish], fun p hp => by simp at hp⟩

theorem World.isLate_endLogin {op : Nat} (h : op < w.nextOperation) (purpose : Purpose)
    (r : LoginResult) : (w.endLogin op purpose r).IsLate op := by
  rw [endLogin_eq]
  exact isLate_finish (w := { w.unlock op with lastFault := _, loginsDone := _ }) h _

theorem World.isLate_call {op : Nat} (h : op < w.nextOperation) (k : Call) {p : Point}
    (hl : p.isLogin = true) (hp : ∀ purpose since, p ≠ .loggingIn purpose since) :
    (w.call op k p).IsLate op := by
  refine ⟨h, fun p' hp' => ?_⟩
  rw [point?_call, if_pos rfl] at hp'
  cases hp'
  exact ⟨hl, hp⟩

theorem World.isLate_welcomes {w' : World} {op : Nat} {purpose : Purpose} {c : Credential}
    (h : op < w.nextOperation) (hw : Welcomes w op purpose c w') : w'.IsLate op := by
  cases hw with
  | late => exact isLate_call (w := w.minted) h _ rfl nofun
  | dropped => exact isLate_endLogin (w := w.minted) h _ _
  | installed => exact isLate_endLogin (by rwa [nextOperation_installs]) _ _

/-- Going on with its call, the operation asks for a login, or its call for one is over. -/
theorem late_or_asks {w' : World} {m : Move} {op observed : Nat}
    (hd : w.Descends op observed .caller) (hs : step w m = some w') (hm : m.operation? = some op) :
    w'.IsLate op ∨ m = .enter op ∧ AllBut w.dropExpired w' op [.called op .login] := by
  have hnext := hd.1
  cases turn_of_step hs with
  | token | revoke | destroyAgain | destroy | elapse | release | stop | listen | unlisten => cases hm
  | orphan hf _ | stale hf _ _ | renew hf _ _ _ _ | expire hf _ _ _ _ => cases hf <;> cases hm
  | enter hl hp he =>
    cases Option.some.inj hm
    cases he with
    | shut | found | shared => exact .inl (isLate_finish (w := w.unlock op) hnext _)
    | starts => exact .inr ⟨rfl, allBut_call ..⟩
  | @loginFailed _ _ since f =>
    cases Option.some.inj hm
    exact .inl (isLate_endLogin (w := (w.timed false since).publish (.failed f none)) hnext _ _)
  | looksUp =>
    cases Option.some.inj hm
    exact .inl (isLate_call (w := w.timed true _) hnext _ rfl nofun)
  | @welcome _ _ since _ _ _ _ hw =>
    cases Option.some.inj hm
    exact .inl (isLate_welcomes (w := w.timed true since) hnext hw)
  | lookedUp _ hw | notLookedUp _ hw =>
    cases Option.some.inj hm
    exact .inl (isLate_welcomes hnext hw)
  | @discarded _ _ g r _ =>
    cases Option.some.inj hm
    exact .inl (isLate_endLogin (by cases r <;> exact hnext) _ _)
  | @revoked _ _ r _ =>
    cases Option.some.inj hm
    exact .inl (isLate_finish (by cases r <;> exact hnext) _)
  | renewed hp _ =>
    cases Option.some.inj hm
    rcases hd.2 _ hp with he | hl
    · cases he
    · cases hl
  | abandon =>
    cases Option.some.inj hm
    refine .inl ⟨by rwa [nextOperation_reap], fun p hp => ?_⟩
    cases (beside_abandon w op).2.symm.trans hp

/-- What has expired is dropped whoever waits. -/
theorem World.dropExpired_queue (w : World) (lock : List Nat) (next : Nat) :
    ({ w with lock := lock, nextOperation := next } : World).dropExpired =
      { w.dropExpired with lock := lock, nextOperation := next } := by
  cases hc : w.current with
  | none => simp only [dropExpired, hc]
  | some g =>
    by_cases he : g.credential.isExpired w.now = true
    · simp only [dropExpired, hc, he, if_true]
      rfl
    · simp only [dropExpired, hc, he, Bool.false_eq_true, if_false]

theorem World.nextOperation_begin_token (w : World) :
    (w.begin .token).nextOperation = w.nextOperation + 1 := by
  have ha : Acquires w.enrolled w.nextOperation .caller (w.begin .token) := acquires_acquire ..
  generalize w.begin .token = v at ha ⊢
  cases ha with
  | shut | found => exact nextOperation_finish ..
  | starts => exact nextOperation_dropExpired { w.enrolled with lock := [w.nextOperation] }
  | waits => rfl

/-- Asking for a token, the operation that has to wait takes its place in the queue, and the one that
need not asks for a login. -/
theorem allBut_begin {p : Point} (hp : (w.begin .token).point? w.nextOperation = some p) :
    (AllBut w (w.begin .token) w.nextOperation [] ∧ p = .queued w.loginsDone .caller) ∨
      AllBut w.dropExpired (w.begin .token) w.nextOperation [.called w.nextOperation .login] ∧
        p = .loggingIn .caller w.now := by
  have ha : Acquires w.enrolled w.nextOperation .caller (w.begin .token) := acquires_acquire ..
  generalize w.begin .token = v at ha hp ⊢
  cases ha with
  | shut | found => simp at hp
  | starts _ _ hl =>
    have he := w.dropExpired_queue [w.nextOperation] (w.nextOperation + 1)
    rw [point?_call, if_pos rfl] at hp
    refine .inr ⟨⟨fun a ha => ?_, ?_, ?_, ?_⟩, (Option.some.inj hp).symm⟩ <;> rw [enrolled, he]
    · rw [point?_call, if_neg ha]
      rfl
    · show [w.nextOperation].filter _ = _
      rw [lock_dropExpired, show w.lock = [] from hl]
      simp
    · rfl
    · rfl
  | waits _ _ _ =>
    rw [point?_setPoint, if_pos rfl] at hp
    refine .inl ⟨⟨fun a ha => ?_, ?_, rfl, rfl⟩, (Option.some.inj hp).symm⟩
    · rw [point?_setPoint, if_neg ha]
      rfl
    · show (w.lock ++ [w.nextOperation]).filter _ = _
      simp 

/-! ## Giving the call up -/

/-- Who waits and is abreast does later, when it is its turn, as if it had begun to wait only now. -/
theorem World.Ranked.withLock_of_waiting {v u' : World} {o : Nat} {purpose : Purpose} (hr : v.Ranked)
    (ho : v.IsOrderly) (ha : v.Abreast q) (hq : v.point? q = some (.queued o purpose))
    (hu : run? v ns = some u) (hs : step u (.enter q) = some u') :
    u' = u.withLock q v.loginsDone purpose := by
  obtain ⟨o', purpose', hl, hq', -⟩ := enters_of_step hs
  rcases (descends_of_run ho (descends_of_queued ho hq) hu).2 _ hq' with he | hlog
  · cases he
    have hu' : u' = u.withLock q o purpose := by
      simp only [step, World.enter, hl, hq', if_true] at hs
      exact (Option.some.inj hs).symm
    rw [hu']
    refine withLock_congr q purpose ?_
    have hle := hr.upTo q o purpose hq
    rcases ha o purpose hq with rfl | hnone
    · exact .inr Iff.rfl
    · rcases lastFault_of_run ho hu with hlt | ⟨-, hf⟩
      · exact .inr ⟨fun _ => hlt, fun _ => Nat.lt_of_le_of_lt hle hlt⟩
      · exact .inl (hf.trans hnone)
  · cases hlog

/-- Who goes on with a fault when it is its turn has not observed it. -/
theorem World.Concluded.shares {u' : World} (hc : u'.Concluded) {observed : Nat} {purpose : Purpose}
    (he : Enters u q observed purpose u') (hd : u.destroyed = false) {f : Fault}
    (hout : u'.outcome? q = some (.refused f)) : observed < u.loginsDone ∧ u.lastFault = some f := by
  cases he with
  | shut hd' => cases hd'.symm.trans hd
  | found => cases purpose <;> cases (outcome?_finish ..).symm.trans hout
  | shared _ _ hlt hf =>
    have hf' := (outcome?_finish ..).symm.trans hout
    cases purpose with
    | relogin => cases hf'
    | caller =>
      cases hf'
      exact ⟨hlt, hf⟩
  | starts => cases (hc.outcome? (by rw [point?_call, if_pos rfl])).symm.trans hout

/-- Who asks for a token of a session that has not been shut down is not refused at once. -/
theorem World.Concluded.not_refused {u' : World} (hc : u'.Concluded)
    (hs : step u (.begin .token) = some u') (hd : u.destroyed = false) {f : Fault} :
    u'.outcome? u.nextOperation ≠ some (.refused f) := by
  intro hout
  cases turn_of_step hs with
  | orphan hf _ | stale hf _ _ | renew hf _ _ _ _ | expire hf _ _ _ _ => cases hf
  | token _ ha =>
    cases ha with
    | shut hd' => cases hd'.symm.trans hd
    | found => cases (outcome?_finish ..).symm.trans hout
    | starts => cases (hc.outcome? (by rw [point?_call, if_pos rfl])).symm.trans hout
    | waits => cases (hc.outcome? (by rw [point?_setPoint, if_pos rfl])).symm.trans hout

/-- An operation whose login is with the server can be given up, and nothing is left of it. -/
theorem givenUp_of_run {op : Nat} {purpose : Purpose} {since : Instant}
    (h : run? (World.initial settings d draws) ms = some w) (hheld : w.held = true)
    (hp : w.point? op = some (.loggingIn purpose since)) : ∃ v, GivenUp w op v := by
  have ho := orderly_of_run h
  let v : World := { w with
    lock := w.lock.filter (· != op), operations := w.operations.filter (·.1 != op) }
  have hstep : step w (.abandon op) = some v := by
    have halive : v.isAlive = true := by simp [isAlive, v, hheld]
    simp only [step, abandon, hp]
    exact congrArg some (if_pos halive)
  have hrun : run? (World.initial settings d draws) (ms ++ [.abandon op]) = some v :=
    run?_concat.mpr ⟨w, h, hstep⟩
  have hov := orderly_of_run hrun
  have hpoint : ∀ a p, v.point? a = some p → a ≠ op ∧ w.point? a = some p := fun a p ha => by
    rw [point?, lookup_filter] at ha
    split at ha
    · cases ha
    · exact ⟨‹_›, ha⟩
  have hidle : ∀ a p, v.point? a = some p → p.isLogin = false := fun a p ha => by
    obtain ⟨hne, ha⟩ := hpoint a p ha
    exact Bool.eq_false_iff.mpr fun hl => hne (ho.login_unique ha hl hp rfl)
  have habreast : ∀ q, v.Abreast q := fun q o pu hq =>
    (ranked_of_run h).abreast op _ hp rfl q o pu (hpoint q _ hq).2
  have hconcluded : ∀ {ns u m u'}, run? v ns = some u → step u m = some u' → u'.Concluded :=
    fun {ns u m u'} hu hs => by
      have hall := run?_concat.mpr ⟨u, (run?_append _ _ ns).trans (by rw [hrun]; exact hu), hs⟩
      exact concluded_of_run hall
  refine ⟨v, ⟨hstep, rfl, ⟨?_, fun a ha => ?_⟩, ?_, ?_, ?_⟩⟩
  · rintro a ⟨_, _, ha⟩
    cases hidle a _ ha
  · obtain ⟨p, hpa, hw⟩ := (hov.mem_lock a).mp (List.mem_of_mem_head? ha)
    cases p with
    | queued => exact step_enter ha hpa
    | renewing | revoking => cases hw
    | loggingIn | lookingUp | discarding => cases hidle a _ hpa
  · rintro q purpose ⟨o, hq⟩ ns u u' hu hs
    exact (ranked_of_run hrun).withLock_of_waiting hov (habreast q) hq hu hs
  · intro ns u u' q f hu hs hd hout
    obtain ⟨o, purpose, hl, hq, he⟩ := enters_of_step hs
    obtain ⟨hlt, hf⟩ := (hconcluded hu hs).shares he hd hout
    exact heard_of_fault hrun hidle (habreast q) hu hq hlt hf
  · intro ns u u' f hu hs hd
    exact (hconcluded hu hs).not_refused hs hd

/-- On its way to the server, the operation of a caller does nothing but ask for a login. -/
theorem asks_of_passes {v u' : World} {m : Move} {op observed : Nat}
    (h : run? (World.initial settings d draws) ms = some w) (hd : w.Descends op observed .caller)
    (hv : run? w ns = some v) (hl : v.LogsIn op) (hp : Passes w ns u m u')
    (hm : m.operation? = some op) : m = .enter op ∧ AllBut u.dropExpired u' op [.called op .login] := by
  obtain ⟨os, ⟨rest, rfl⟩, hu, hs⟩ := hp
  have hu' : run? w (os ++ [m]) = some u' := run?_concat.mpr ⟨u, hu, hs⟩
  rw [run?_append, hu'] at hv
  have ho := orderly_of_run ((run?_append _ _ (os ++ [m])).trans (by rw [h]; exact hu'))
  exact (late_or_asks (descends_of_run (orderly_of_run h) hd hu) hs hm).resolve_left
    fun hlate => hlate.not_loggingIn ho hv hl

/-- A token asked for in place comes as it comes to those who take turns, or the call is given up when
the limit has passed. If its login is with the server then, nothing is left of the call: on its way
there it has taken its place in the queue, dropped a grant whose lifetime had run out, and called
the server, and that is all. A caller who takes turns is refused before anything has begun. -/
theorem blocking_token (h : run? (World.initial settings d draws) ms = some w)
    (hheld : w.held = true) :
    w.beginBlocking .token true = .error (.internal
      "session token cannot block inside an async runtime; use SessionEngine directly") ∧
    ∃ w₁, w.beginBlocking .token false = .ok (w.nextOperation, w₁) ∧
      step w (.begin .token) = some w₁ ∧ ∀ ns w₂ limit, run? w₁ ns = some w₂ →
        (∀ o, w₂.outcome? w.nextOperation = some o →
          w₂.expect .token w.nextOperation w.now limit = some (.ok o, w₂)) ∧
        (w₂.outcome? w.nextOperation = none → ¬ limit ≤ w₂.now.since w.now →
          w₂.expect .token w.nextOperation w.now limit = none) ∧
        (w₂.LogsIn w.nextOperation → limit ≤ w₂.now.since w.now → w₂.held = true →
          ∃ w₃, w₂.expect .token w.nextOperation w.now limit =
              some (.error (.timeout "session token" (UInt64.ofNat limit.asMillis)), w₃) ∧
            GivenUp w₂ w.nextOperation w₃ ∧
            (AllBut w w₁ w.nextOperation [] ∨
              AllBut w.dropExpired w₁ w.nextOperation [.called w.nextOperation .login]) ∧
            ∀ u m u', Passes w₁ ns u m u' → m.operation? = some w.nextOperation →
              m = .enter w.nextOperation ∧
                AllBut u.dropExpired u' w.nextOperation [.called w.nextOperation .login]) := by
  have hs : step w (.begin .token) = some (w.begin .token) := if_pos hheld
  refine ⟨rfl, w.begin .token, rfl, hs, fun ns w₂ limit hw₂ => ⟨fun o ho => ?_, fun hn hlim => ?_, ?_⟩⟩
  · simp only [expect, ho]
  · simp only [expect, hn, if_neg hlim]
  rintro ⟨purpose, since, hp⟩ hlim hheld₂
  have h₁ := run?_concat.mpr ⟨w, h, hs⟩
  have h₂ : run? (World.initial settings d draws) (ms ++ [.begin .token] ++ ns) = some w₂ := by
    rw [run?_append, h₁]
    exact hw₂
  have ho₁ := orderly_of_run h₁
  obtain ⟨w₃, hgiven⟩ := givenUp_of_run h₂ hheld₂ hp
  have hn := (concluded_of_run h₂).outcome? hp
  have hexpect : w₂.abandon w.nextOperation = some w₃ := hgiven.step
  have hnext : w.nextOperation < (w.begin .token).nextOperation := by
    rw [nextOperation_begin_token]
    exact Nat.lt_succ_self _
  obtain ⟨p, hp₁⟩ := Option.ne_none_iff_exists'.mp fun hn₁ =>
    absurd ((gone_of_run ho₁ hn₁ hnext hw₂).symm.trans hp) nofun
  have hbegin := allBut_begin hp₁
  have hseeks : (w.begin .token).Descends w.nextOperation w.loginsDone .caller :=
    ⟨hnext, fun p' hp' => by
      cases hp₁.symm.trans hp'
      exact hbegin.imp And.right fun hb => by rw [hb.2]; rfl⟩
  refine ⟨w₃, ?_, hgiven, hbegin.imp And.left And.left,
    fun u m u' => asks_of_passes h₁ hseeks hw₂ ⟨purpose, since, hp⟩⟩
  simp only [expect, hn, if_pos hlim, hexpect]
  rfl

end run

/-- A login is refused, and the refusal is remembered. -/
def refusedOnce : List Move :=
  [.begin .token, .answer 0 (.login (.error (.authentication "denied")))]

/-- While the login of a caller in place is with the server somebody else asks, and five seconds pass. -/
def pending : List Move := [.begin .token, .elapse ⟨5000⟩]

/-- A caller in place gives up after five seconds; who waits behind it then logs in, and does not hear of
the refusal of before. -/
theorem overdue_after_refusal :
    ∃ w w₂ w₃, run? (World.initial default .manual fun _ => 0) refusedOnce = some w ∧
      w.lastFault = some (.authentication "denied") ∧ run? (w.begin .token) pending = some w₂ ∧
      w₂.expect .token 1 w.now (Span.ofSeconds 5) =
        some (.error (.timeout "session token" 5000), w₃) ∧ GivenUp w₂ 1 w₃ ∧
      ∃ v, step w₃ (.enter 2) = some v ∧ v.LogsIn 2 := by
  have hrun : run? (World.initial default .manual fun _ => 0) refusedOnce = some _ := rfl
  obtain ⟨-, w₁, hw₁, hs, htoken⟩ := blocking_token hrun rfl
  cases Except.ok.inj hw₁
  obtain ⟨w₃, hexpect, hgiven, -⟩ := (htoken pending _ (Span.ofSeconds 5) rfl).2.2
    ⟨.caller, ⟨0⟩, rfl⟩ (by decide) rfl
  refine ⟨_, _, w₃, hrun, rfl, rfl, hexpect, hgiven, ?_⟩
  obtain rfl := hgiven.rest
  exact ⟨_, rfl, .caller, ⟨5000⟩, rfl⟩

end LeaseKeeper.Session
