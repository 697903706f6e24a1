import LeaseKeeper.Proofs.Session.Rest

/-!
# Shutting a session down

What is true from the step on in which a session is shut down, whatever happens before, at the
same time and later (`final_of_destroy`): no grant, no task and no news but of what is given back;
every caller is refused, one whose own login fails with its fault; and each token of the session is
given back once, be it installed or brought by the login under way.
-/

namespace LeaseKeeper.Session

/-- Happenings that a session has part in after it has been shut down. -/
def Happening.isParting : Happening → Bool
  | .called _ .login => false
  | .called _ (.renew _) => false
  | .published (.created _) _ => false
  | .published (.renewed _) _ => false
  | .published (.loginTokenExpired _) _ => false
  | .ended _ (.granted _) => false
  | _ => true

/-- Whether the server answers such a call in that way. -/
def Reply.isTo : Reply → Call → Bool
  | .login _, .login => true
  | .lookup _, .lookup _ => true
  | .renewal _, .renew _ => true
  | .revocation _, .revoke _ => true
  | _, _ => false

/-- Whether a move resumes an operation that stands at a point: it is handed the lock, or its call
is answered. -/
def Point.isResumedBy (p : Point) (op : Nat) : Move → Bool
  | .enter a => a == op && p.call?.isNone
  | .answer a r => a == op && p.call?.any r.isTo
  | _ => false

/-- The credentials that logins bring during a run. -/
def brought (w : World) : List Move → List Credential
  | [] => []
  | m :: ms => (w.brings? m).toList ++
      match step w m with
      | none => []
      | some w' => brought w' ms

/-- How often during a run the head of the queue for the lock is resumed, or given up. -/
def headMoves (w : World) : List Move → Nat
  | [] => 0
  | m :: ms => (if w.isHeadMove m then 1 else 0) +
      match step w m with
      | none => 0
      | some w' => headMoves w' ms

/-- What is so for good after `w₀` has been shut down, which made it `w`: in every session `v`
that a run of the steps `ns` leads to from there. -/
structure Final (w₀ w : World) (ns : List Move) (v : World) : Prop where
  /-- No grant is installed. -/
  bare : v.current = none
  /-- No task can start, and none has been scheduled. -/
  idle : v.schedule.live = [] ∧ v.schedule.issued = w₀.schedule.issued
  /-- No login and no renewal was begun, no event told of a grant that came or was lost, and
  nobody was granted anything. -/
  parting : ∃ hs, v.history = hs ++ w₀.history ∧ ∀ x ∈ hs, x.isParting = true
  /-- Who asks for a credential is refused at once. -/
  late : v.held = true → ∃ v', step v (.begin .token) = some v' ∧
    v'.outcome? v.nextOperation = some (.refused .destroyed)
  /-- A caller that waited for the lock or was logging in does so still, or has been refused: with
  the fault of its own login if that was under way and failed. -/
  refused : ∀ q p, w.point? q = some p → p.purpose? = some .caller → .abandon q ∉ ns →
    q ∈ v.lock ∨ ∃ f, v.outcome? q = some (.refused f) ∧
      (w.LogsIn q ∧ .denies q f ∈ ns ∨ f = .destroyed ∧ ∀ f', .denies q f' ∉ ns)
  /-- The head of the queue for the lock can be resumed. -/
  moves : ∀ op, v.lock.head? = some op → ∃ p, v.point? op = some p ∧
    ∀ m, p.isResumedBy op m = true → ∃ v', step v m = some v'
  /-- Resuming it shortens the queue, after the login under way has come to its end. -/
  prompt : headMoves w ns + v.lock.length ≤ w.lock.length + 2
  /-- At most one login has brought a credential. -/
  single : (brought w ns).length ≤ 1
  /-- Given back were just the installed grant and what that login brought, if they come from a
  login of the session. -/
  surrendered : ∃ gs, v.surrendered = gs ++ w₀.owed ++ w₀.surrendered ∧
    gs.map Grant.credential = (brought w ns).filter Credential.isLogin
  /-- No grant is given back twice. -/
  once : (v.surrendered.map Grant.serial).Nodup

namespace World

variable {n : Nat} {w v w' : World} {m : Move} {op q : Nat} {ns : List Move}

/-! ## One step -/

theorem finishes?_of_destroyed (hd : w.destroyed = true) {r : Except Fault Grant}
    (h : w.finishes? m = some (op, r)) : ∃ f, r = .error f := by
  have hdeliver : ∀ {a c}, w.delivers? a c = some (op, r) → ∃ f, r = .error f := fun {a c} hc => by
    rw [delivers?, if_pos hd] at hc
    split at hc <;> cases hc
    exact ⟨_, rfl⟩
  unfold finishes? at h
  split at h
  · split at h
    · cases h
      exact ⟨_, rfl⟩
    · split at h
      · cases h
      · exact hdeliver h
    · exact hdeliver h
    · exact hdeliver h
    · cases h
      exact ⟨_, rfl⟩
    · cases h
  · cases h

theorem isParting_of_refusal (purpose : Purpose) (f : Fault) :
    (Happening.ended op (purpose.outcome (.error f))).isParting = true := by
  cases purpose <;> rfl

theorem isParting_of_news {x : Happening} (h : News w m x) (hd : w.destroyed = true) :
    x.isParting = true := by
  cases h with
  | login hd' | renew hd' _ | tells hd' | found hd' _ | shared hd' _ => cases hd.symm.trans hd'
  | finishes hf _ _ =>
    obtain ⟨f, rfl⟩ := finishes?_of_destroyed hd hf
    exact isParting_of_refusal ..
  | refused _ _ => exact isParting_of_refusal ..
  | _ => rfl

/-- All that shutting down does is to give the grant back. -/
theorem parting_of_destroy (hd : w.destroyed = false) (ht : Turn w (.begin .destroy) w') :
    ∃ hs, w'.history = hs ++ w.history ∧ ∀ x ∈ hs, x.isParting = true := by
  cases ht with
  | destroyAgain _ hd' => cases hd.symm.trans hd'
  | destroy _ _ hk =>
    cases hk with
    | quiet _ =>
      exact ⟨[.ended w.nextOperation .finished], history_finish .., by simp [Happening.isParting]⟩
    | @sends g _ _ => exact ⟨[.called w.nextOperation (.revoke g)], rfl, by simp [Happening.isParting]⟩
  | orphan hf _ | stale hf _ _ | renew hf _ _ _ _ | expire hf _ _ _ _ => cases hf

theorem surrenders_of_rest (h : Rests n w) :
    (w.surrenders m).map Grant.credential = (w.brings? m).toList.filter Credential.isLogin := by
  have hbring : ((w.brings? m).toList.flatMap w.returns).map Grant.credential =
      (w.brings? m).toList.filter Credential.isLogin := by
    cases w.brings? m with
    | none => rfl
    | some c => cases hl : c.isLogin <;> simp [returns, h.destroyed, hl]
  cases m with
  | begin r =>
    cases r with
    | token => exact hbring
    | revoke => simp [surrenders, owed, h.bare, brings?]
    | destroy => simp [surrenders, h.destroyed, brings?]
  | _ => exact hbring

/-- Who asks for a credential is refused. -/
theorem late_of_rest (h : Rests n w) (hh : w.held = true) : ∃ w', step w (.begin .token) = some w' ∧
    w'.outcome? w.nextOperation = some (.refused .destroyed) :=
  ⟨w.begin .token, if_pos hh, outcome?_begin_token h.destroyed⟩

/-- An operation is resumed by what it waits for. -/
theorem step_of_isResumedBy {p : Point} (hp : w.point? op = some p) (hl : w.lock.head? = some op)
    (hm : p.isResumedBy op m = true) : ∃ w', step w m = some w' := by
  cases m with
  | enter a =>
    simp only [Point.isResumedBy, Bool.and_eq_true, beq_iff_eq] at hm
    obtain ⟨rfl, hc⟩ := hm
    cases p with
    | queued observed purpose => exact step_enter hl hp
    | _ => cases hc
  | answer a r =>
    simp only [Point.isResumedBy, Bool.and_eq_true, beq_iff_eq] at hm
    obtain ⟨rfl, hc⟩ := hm
    simp only [step, World.answer, hp]
    cases p <;> cases r <;> first | exact ⟨_, rfl⟩ | cases hc
  | _ => cases hm

end World

open World

/-! ## Whole runs -/

section run

variable {n : Nat} {w v : World} {q : Nat} {ns : List Move}

theorem rests_of_run (h : Rests n w) (ho : w.IsOrderly) (hv : run? w ns = some v) : Rests n v := by
  refine (run?_keeps (P := fun v => Rests n v ∧ v.IsOrderly) (fun hu ht => ?_) ⟨h, ho⟩ hv).1
  exact ⟨(ebb_of_turn hu.1 hu.2 ht).2, orderly_turn hu.2 ht⟩

theorem parting_of_run (h : Rests n w) (ho : w.IsOrderly) (hv : run? w ns = some v) :
    ∃ hs, v.history = hs ++ w.history ∧ ∀ x ∈ hs, x.isParting = true := by
  refine (run?_keeps (P := fun v => (Rests n v ∧ v.IsOrderly) ∧
    ∃ hs, v.history = hs ++ w.history ∧ ∀ x ∈ hs, x.isParting = true) (fun hu ht => ?_)
    ⟨⟨h, ho⟩, [], rfl, by simp⟩ hv).2
  obtain ⟨⟨hr, hou⟩, ks, hk, hkp⟩ := hu
  obtain ⟨hs, hh, hnews, -, -⟩ := adds_of_turn hou ht
  refine ⟨⟨(ebb_of_turn hr hou ht).2, orderly_turn hou ht⟩, hs ++ ks, by rw [hh, hk, List.append_assoc],
    fun x hx => ?_⟩
  rcases List.mem_append.mp hx with hx | hx
  · exact isParting_of_news (hnews x hx) hr.destroyed
  · exact hkp x hx

/-- In each step of the head the queue comes nearer to its end. -/
theorem headMoves_add_legs (h : Rests n w) (ho : w.IsOrderly) (hv : run? w ns = some v) :
    headMoves w ns + v.legs ≤ w.legs := by
  induction ns generalizing w with
  | nil =>
    cases hv
    exact Nat.le_of_eq (Nat.zero_add _)
  | cons m ms ih =>
    simp only [run?, Option.bind_eq_some_iff] at hv
    obtain ⟨u, hu, hv⟩ := hv
    have ht := turn_of_step hu
    obtain ⟨he, hr⟩ := ebb_of_turn h ho ht
    have hstep := he.legs ho
    have hrest := ih hr (orderly_turn ho ht) hv
    simp only [headMoves, hu]
    omega

theorem brought_of_settled (h : Rests n w) (ho : w.IsOrderly) (hs : w.Settled)
    (hv : run? w ns = some v) : brought w ns = [] := by
  induction ns generalizing w with
  | nil => rfl
  | cons m ms ih =>
    simp only [run?, Option.bind_eq_some_iff] at hv
    obtain ⟨u, hu, hv⟩ := hv
    have ht := turn_of_step hu
    obtain ⟨he, hr⟩ := ebb_of_turn h ho ht
    simp only [brought, hu, hs.brings?, Option.toList_none, List.nil_append]
    exact ih hr (orderly_turn ho ht) (he.settled hs) hv

theorem length_brought_le (h : Rests n w) (ho : w.IsOrderly) (hv : run? w ns = some v) :
    (brought w ns).length ≤ 1 := by
  induction ns generalizing w with
  | nil => exact Nat.zero_le _
  | cons m ms ih =>
    simp only [run?, Option.bind_eq_some_iff] at hv
    obtain ⟨u, hu, hv⟩ := hv
    have ht := turn_of_step hu
    obtain ⟨he, hr⟩ := ebb_of_turn h ho ht
    simp only [brought, hu]
    cases hb : w.brings? m with
    | none => exact ih hr (orderly_turn ho ht) hv
    | some c =>
      rw [brought_of_settled hr (orderly_turn ho ht) (he.settles ho hb) hv]
      exact Nat.le_refl _

theorem surrendered_of_run (h : Rests n w) (ho : w.IsOrderly) (hv : run? w ns = some v) :
    ∃ gs, v.surrendered = gs ++ w.surrendered ∧
      gs.map Grant.credential = ((brought w ns).filter Credential.isLogin).reverse := by
  induction ns generalizing w with
  | nil =>
    cases hv
    exact ⟨[], rfl, rfl⟩
  | cons m ms ih =>
    simp only [run?, Option.bind_eq_some_iff] at hv
    obtain ⟨u, hu, hv⟩ := hv
    have ht := turn_of_step hu
    obtain ⟨gs, hgs, hcred⟩ := ih (ebb_of_turn h ho ht).2 (orderly_turn ho ht) hv
    refine ⟨gs ++ w.surrenders m, ?_, ?_⟩
    · rw [hgs, surrendered_of_turn ho ht, List.append_assoc]
    · have hone : ∀ o : Option Credential, (o.toList.filter Credential.isLogin).reverse =
          o.toList.filter Credential.isLogin := fun o => by
        cases o with
        | none => rfl
        | some c => cases hl : c.isLogin <;> simp [hl]
      simp only [brought, hu]
      rw [List.map_append, hcred, surrenders_of_rest h, List.filter_append, List.reverse_append, hone]

/-- Nobody answers who has gone. -/
theorem not_mem_of_gone (ho : w.IsOrderly) (hp : w.point? q = none) (hlt : q < w.nextOperation)
    (hv : run? w ns = some v) (r : Reply) : .answer q r ∉ ns := by
  induction ns generalizing w with
  | nil => exact List.not_mem_nil
  | cons m ms ih =>
    simp only [run?, Option.bind_eq_some_iff] at hv
    obtain ⟨u, hu, hv⟩ := hv
    have ht := turn_of_step hu
    obtain ⟨hp', hlt'⟩ := (shift_of_turn ho ht).gone hp hlt
    refine List.not_mem_cons_of_ne_of_not_mem ?_ (ih (orderly_turn ho ht) hp' hlt' hv)
    rintro rfl
    simp only [step, World.answer, hp] at hu
    cases hu

theorem outcome?_of_run {o : Outcome} (ho : w.IsOrderly) (hc : w.Concluded) (hq : w.outcome? q = some o)
    (hv : run? w ns = some v) : v.outcome? q = some o := by
  refine (run?_keeps (P := fun v => (v.IsOrderly ∧ v.Concluded) ∧ v.outcome? q = some o)
    (fun hu ht => ?_) ⟨⟨ho, hc⟩, hq⟩ hv).2
  exact ⟨⟨orderly_turn hu.1.1 ht, concluded_turn hu.1.1 hu.1.2 ht⟩,
    outcome?_turn hu.1.1 hu.1.2 ht hu.2⟩

theorem Point.wantsLock_of_purpose? (p : Point) {purpose : Purpose} (h : p.purpose? = some purpose) :
    p.wantsLock = true := by
  cases p <;> first | rfl | cases h

/-- A step in a session at rest leaves an operation in the queue that nobody gives up, or refuses it. -/
theorem World.Ebb.waits_or_refused {u : World} {p : Point} {purpose : Purpose} (he : Ebb w m u)
    (hp : w.point? q = some p) (hpu : p.purpose? = some purpose) (hq : q ∈ w.lock)
    (hna : m ≠ .abandon q) :
    (∃ p', u.point? q = some p' ∧ p'.purpose? = some purpose ∧ (u.LogsIn q → w.LogsIn q) ∧
      ∀ f, m ≠ .denies q f) ∨
    ∃ f, u.point? q = none ∧ w.nextOperation ≤ u.nextOperation ∧
      u.outcome? q = some (purpose.outcome (.error f)) ∧
      (w.LogsIn q ∧ m = .denies q f ∨ f = .destroyed ∧ ∀ f', m ≠ .denies q f') := by
  have hstay : ∀ {op}, Beside w u op → q ≠ op → m.mover? ≠ some q →
      ∃ p', u.point? q = some p' ∧ p'.purpose? = some purpose ∧ (u.LogsIn q → w.LogsIn q) ∧
        ∀ f, m ≠ .denies q f := by
    intro op hb hne hm
    have hpq := hb.points q hne
    refine ⟨p, hpq.trans hp, hpu, ?_, fun f he => hm (by rw [he]; rfl)⟩
    rintro ⟨a, b, hl⟩
    exact ⟨a, b, hpq ▸ hl⟩
  have hmoved : ∀ {op r}, q ≠ op → m = .answer op r → m.mover? ≠ some q := by
    rintro op r hne rfl hm
    exact hne (Option.some.inj hm).symm
  have hlog : ∀ {p'}, u.point? q = some p' → (∀ a b, p' ≠ .loggingIn a b) → u.LogsIn q → w.LogsIn q := by
    rintro p' hp' hno ⟨a, b, hl⟩
    exact absurd (Option.some.inj (hp'.symm.trans hl)) (hno a b)
  cases he with
  | aside hb _ hop _ hm _ => exact .inl (hstay hb (fun he => hop (he ▸ hq)) (hm q hq))
  | @abandoned op hm hb _ _ =>
    subst hm
    have hne : q ≠ op := fun he => hna (he ▸ rfl)
    exact .inl (hstay hb hne fun he => hne (Option.some.inj he).symm)
  | @refused op _ _ f hm hb _ _ hp' hpu' hn hout hf =>
    by_cases he : q = op
    · subst he
      cases hp.symm.trans hp'
      cases hpu.symm.trans hpu'
      exact .inr ⟨f, hn, hb.next, hout, hf⟩
    · exact .inl (hstay hb he fun hq => he (Option.some.inj (hq.symm.trans hm)))
  | @looksUp op purpose' since c hm hb _ hp' hn _ =>
    by_cases he : q = op
    · subst he
      cases hp.symm.trans hp'
      exact .inl ⟨_, hn, hpu, hlog hn (by simp), fun f he => by cases hm.symm.trans he⟩
    · exact .inl (hstay hb he (hmoved he hm))
  | @discards op r p' purpose' g hm hno hb _ hp' _ hpu' _ hn =>
    by_cases he : q = op
    · subst he
      cases hp.symm.trans hp'
      cases hpu.symm.trans hpu'
      exact .inl ⟨_, hn, rfl, hlog hn (by simp), hno⟩
    · exact .inl (hstay hb he (hmoved he hm))

/-- Who has a place in the queue keeps it, or is refused. -/
theorem refused_of_run {p : Point} {purpose : Purpose} (h : Rests n w) (ho : w.IsOrderly)
    (hc : w.Concluded) (hp : w.point? q = some p) (hpu : p.purpose? = some purpose)
    (hv : run? w ns = some v) (hna : .abandon q ∉ ns) :
    q ∈ v.lock ∨ ∃ f, v.outcome? q = some (purpose.outcome (.error f)) ∧
      (w.LogsIn q ∧ .denies q f ∈ ns ∨ f = .destroyed ∧ ∀ f', .denies q f' ∉ ns) := by
  have hlock : q ∈ w.lock := (ho.mem_lock q).mpr ⟨p, hp, p.wantsLock_of_purpose? hpu⟩
  induction ns generalizing w p with
  | nil =>
    cases hv
    exact .inl hlock
  | cons m ms ih =>
    simp only [run?, Option.bind_eq_some_iff] at hv
    obtain ⟨u, hu, hv⟩ := hv
    have ht := turn_of_step hu
    obtain ⟨he, hr⟩ := ebb_of_turn h ho ht
    have ho' := orderly_turn ho ht
    have hc' := concluded_turn ho hc ht
    rw [List.mem_cons, not_or] at hna
    rcases he.waits_or_refused hp hpu hlock (Ne.symm hna.1) with
      ⟨p', hp', hpu', hlog, hm⟩ | ⟨f, hn, hnext, hout, hf⟩
    · -- It keeps its place, and the rest of the run decides.
      have hlock' : q ∈ u.lock := (ho'.mem_lock q).mpr ⟨p', hp', p'.wantsLock_of_purpose? hpu'⟩
      refine (ih hr ho' hc' hp' hpu' hv hna.2 hlock').imp_right ?_
      rintro ⟨f, hout, ⟨hl, hf⟩ | ⟨hf, hno⟩⟩
      · exact ⟨f, hout, .inl ⟨hlog hl, List.mem_cons_of_mem _ hf⟩⟩
      · exact ⟨f, hout, .inr ⟨hf, fun f' => List.not_mem_cons_of_ne_of_not_mem (hm f').symm (hno f')⟩⟩
    · have hlt : q < u.nextOperation := Nat.lt_of_lt_of_le (ho.lt_next hp) hnext
      refine .inr ⟨f, outcome?_of_run ho' hc' hout hv, ?_⟩
      rcases hf with ⟨hl, rfl⟩ | ⟨hf, hno⟩
      · exact .inl ⟨hl, List.mem_cons_self ..⟩
      · exact .inr ⟨hf, fun f' =>
          List.not_mem_cons_of_ne_of_not_mem (hno f').symm (not_mem_of_gone ho' hn hlt hv _)⟩

/-- Shutting a session down is final. -/
theorem final_of_destroy {settings : Settings} {d : Discipline} {draws : Nat → Nat} {ms : List Move}
    {w₀ : World} (h₀ : run? (World.initial settings d draws) ms = some w₀)
    (hd : w₀.destroyed = false) (hs : step w₀ (.begin .destroy) = some w) (hv : run? w ns = some v) :
    Final w₀ w ns v := by
  have ht := turn_of_step hs
  have hbooked : Booked w₀.schedule w₀.slot :=
    run?_keeps (P := fun u => Booked u.schedule u.slot) (fun hb hk => (Onward.of_turn hk).booked hb)
      (booked_empty d) h₀
  have hrun : run? (World.initial settings d draws) (ms ++ [.begin .destroy]) = some w :=
    run?_concat.mpr ⟨w₀, h₀, hs⟩
  have hr : Rests w₀.schedule.issued w := .of_destroy hd hbooked ht
  have ho := orderly_of_run hrun
  have hrv := rests_of_run hr ho hv
  have hov : v.IsOrderly := run?_keeps orderly_turn ho hv
  have hsingle := length_brought_le hr ho hv
  refine ⟨hrv.bare, ⟨hrv.idle, hrv.issued⟩, ?_, late_of_rest hrv, ?_, fun op hop => ?_, ?_, hsingle, ?_, ?_⟩
  · obtain ⟨hs₁, h₁, hp₁⟩ := parting_of_destroy hd ht
    obtain ⟨hs₂, h₂, hp₂⟩ := parting_of_run hr ho hv
    refine ⟨hs₂ ++ hs₁, by rw [h₂, h₁, List.append_assoc], fun x hx => ?_⟩
    exact (List.mem_append.mp hx).elim (hp₂ x) (hp₁ x)
  · exact fun q p hp hpu hna => refused_of_run hr ho (concluded_of_run hrun) hp hpu hv hna
  · obtain ⟨p, hp, -⟩ := (hov.mem_lock op).mp (List.mem_of_mem_head? hop)
    exact ⟨p, hp, fun m hm => step_of_isResumedBy hp hop hm⟩
  · have hlegs := headMoves_add_legs hr ho hv
    have hle := legs_le ho
    have hge := length_le_legs hov
    omega
  · obtain ⟨gs, hgs, hcred⟩ := surrendered_of_run hr ho hv
    refine ⟨gs, ?_, ?_⟩
    · rw [hgs, surrendered_of_turn (orderly_of_run h₀) ht, surrenders, if_neg (by simp [hd]),
        List.append_assoc]
    · rw [hcred]
      have hlen := Nat.le_trans (List.length_filter_le Credential.isLogin (brought w ns)) hsingle
      generalize (brought w ns).filter Credential.isLogin = cs at hlen ⊢
      cases cs with
      | nil => rfl
      | cons c cs =>
        obtain rfl := List.eq_nil_of_length_eq_zero (Nat.le_zero.mp (Nat.le_of_succ_le_succ hlen))
        rfl
  · have hcounted : v.Counted :=
      (run?_keeps (P := fun u => u.IsOrderly ∧ u.Counted)
        (fun hu hk => ⟨orderly_turn hu.1 hk, counted_turn hu.1 hu.2 hk⟩) ⟨ho, counted_of_run hrun⟩ hv).2
    have hnd := hcounted.nodup
    rwa [hrv.bare] at hnd

end run

/-- A caller logs in while another waits for the lock. -/
def oneLogsIn : List Move := [.begin .token, .begin .token]

/-- After the shutdown the login succeeds, its token is given back, and the lock handed over. -/
def lateLogin : List Move :=
  [.answer 0 (.login (.ok (.ofLogin .start "s.login" (.ofSeconds 60) true))),
    .answer 0 (.revocation (.ok ())), .enter 1]

/-- Both callers are refused, and the token is given back. -/
theorem final_of_late_login :
    ∃ w₀ w v, run? (World.initial default .manual fun _ => 0) oneLogsIn = some w₀ ∧
      w₀.destroyed = false ∧ step w₀ (.begin .destroy) = some w ∧ run? w lateLogin = some v ∧
      Final w₀ w lateLogin v := by
  refine ⟨_, _, _, rfl, rfl, rfl, rfl, ?_⟩
  have hrun : run? (World.initial default .manual fun _ => 0) oneLogsIn = some _ := rfl
  exact final_of_destroy hrun rfl rfl rfl

end LeaseKeeper.Session
