import LeaseKeeper.Proofs.Session.Onward
import LeaseKeeper.Proofs.Session.Shifts

/-!
# One login for all who wait

At most one login is under way, and whoever waits for the lock while it is gets what it came
to (`single_flight`). Two invariants carry this. An operation in the queue has observed just as
many logins as had finished when it joined, so that the count and the latest fault tell it what
it has heard since (`Informed`). And after a login has failed, nobody logs in before the last of
those who waited has resumed: everyone ahead of it has heard of the failure as well (`Relays`). Where
nobody is at a login, the first in the queue can resume (`resumes_of_idle`), after a failure and
after a success.
-/

namespace LeaseKeeper.Session

open World

/-- What a login came to. -/
abbrev LoginResult := Except Fault Grant

namespace World

/-- The operation waits in the queue for the lock. -/
def isWaiting (w : World) (op : Nat) : Bool :=
  match w.point? op with
  | some (.queued _ _) => true
  | _ => false

/-- The operation waits in the queue, to go after a credential for that purpose. -/
def Waits (w : World) (op : Nat) (purpose : Purpose) : Prop :=
  ∃ observed, w.point? op = some (.queued observed purpose)

/-- The login of that operation is with the server. -/
def LogsIn (w : World) (op : Nat) : Prop :=
  ∃ purpose since, w.point? op = some (.loggingIn purpose since)

theorem isWaiting_iff {w : World} {op : Nat} :
    w.isWaiting op = true ↔ ∃ purpose, w.Waits op purpose := by
  unfold isWaiting Waits
  split
  · rename_i o p hp
    exact ⟨fun _ => ⟨p, o, hp⟩, fun _ => rfl⟩
  · rename_i hp
    exact ⟨fun h => (by cases h), fun ⟨p, o, h⟩ => absurd h (hp o p)⟩

end World

/-- What the logins came to that finish during a run while that operation waits, in order. -/
def heard (op : Nat) (w : World) : List Move → List LoginResult
  | [] => []
  | m :: ms =>
    (if w.isWaiting op then (w.finishes? m).toList.map Prod.snd else []) ++
      match step w m with
      | none => []
      | some w' => heard op w' ms

/-- From `w` on, `q` waits for the lock and gets what the login came to that has just finished:
its fault, if it failed, without another login in between; its grant, if that is still usable;
the fault of a session that has been shut down meanwhile. -/
structure Shares (r : LoginResult) (w : World) (q : Nat) (purpose : Purpose) : Prop where
  waits : w.Waits q purpose
  destroyed : ∀ ns v v', run? w ns = some v → step v (.enter q) = some v' → v.destroyed = true →
    v'.outcome? q = some (purpose.outcome (.error .destroyed))
  failed : ∀ ns v v' f, run? w ns = some v → step v (.enter q) = some v' → v.destroyed = false →
    r = .error f → v'.outcome? q = some (purpose.outcome (.error f))
  granted : ∀ ns v v' g, run? w ns = some v → step v (.enter q) = some v' → v.destroyed = false →
    r = .ok g → v.usable? = some g → v'.outcome? q = some (purpose.outcome (.ok g))
  /-- While `q` waits after a failure nobody logs in, and the first in the queue can resume. -/
  moves : ∀ ns v f, run? w ns = some v → r = .error f → v.isWaiting q = true →
    (∀ a, ¬ v.LogsIn a) ∧ ∃ a v', v.lock.head? = some a ∧ step v (.enter a) = some v'
  /-- So it is after a success, while `q` waits and the grant can be used. -/
  follows : ∀ ns v g, run? w ns = some v → r = .ok g → v.usable? = some g → v.isWaiting q = true →
    (∀ a, ¬ v.LogsIn a) ∧ ∃ a v', v.lock.head? = some a ∧ step v (.enter a) = some v'

/-! ## What becomes of a waiting operation -/

namespace World

variable {w w' : World} {m : Move} {q : Nat}

/-- The operation has waited in the queue, with that observation and purpose, and has since done
nothing but to wait on, to log in, or to end. -/
def Descends (w : World) (q observed : Nat) (purpose : Purpose) : Prop :=
  q < w.nextOperation ∧
    ∀ p, w.point? q = some p → p = .queued observed purpose ∨ p.isLogin = true

theorem Descends.not_aside {observed : Nat} {purpose : Purpose} (hq : w.Descends q observed purpose)
    (ho : w.IsOrderly) (hop : q ∉ w.lock) (hfrom : w.point? q = none → w.nextOperation ≤ q) :
    False := by
  cases hp : w.point? q with
  | none => exact absurd hq.1 (Nat.not_lt.mpr (hfrom hp))
  | some p =>
    refine hop ((ho.mem_lock q).mpr ⟨p, hp, ?_⟩)
    rcases hq.2 p hp with rfl | hl
    · rfl
    · exact Point.wantsLock_of_isLogin hl

theorem Shift.descends {observed : Nat} {purpose : Purpose} (h : Shift w m w') (ho : w.IsOrderly)
    (hq : w.Descends q observed purpose) : w'.Descends q observed purpose := by
  have hother : ∀ {op}, Beside w w' op → (q = op → ∀ p, w'.point? op = some p → p.isLogin = true) →
      w'.Descends q observed purpose := fun {op} hb hself => by
    refine ⟨Nat.lt_of_lt_of_le hq.1 hb.next, fun p hp => ?_⟩
    by_cases he : q = op
    · exact .inr (hself he p (he ▸ hp))
    · rw [hb.points q he] at hp
      exact hq.2 p hp
  cases h with
  | aside hb _ hop _ hfrom _ _ =>
    exact hother hb fun he => (hq.not_aside ho (he ▸ hop) (he ▸ hfrom)).elim
  | joins hb _ hop _ _ hfrom _ _ =>
    exact hother hb fun he => (hq.not_aside ho (he ▸ hop) (he ▸ hfrom)).elim
  | begins hb _ hop _ _ hfrom _ _ _ _ =>
    exact hother hb fun he => (hq.not_aside ho (he ▸ hop) (he ▸ hfrom)).elim
  | leaves hb _ _ _ _ hn _ => exact hother hb fun _ p hp => by cases hn.symm.trans hp
  | enters hb _ _ _ _ hn _ _ _ _ =>
    exact hother hb fun _ p hp => by cases hn.symm.trans hp; rfl
  | continues hb _ _ _ _ hn hl _ =>
    exact hother hb fun _ p hp => by cases hn.symm.trans hp; exact hl
  | finishes hb _ _ _ _ _ _ _ hn _ _ | abandoned hb _ _ _ hn _ =>
    exact hother hb fun _ p hp => by cases hn.symm.trans hp

/-- Who is in the queue after a step was there before, or has just joined. -/
theorem Shift.queued {observed : Nat} {purpose : Purpose} (h : Shift w m w')
    (hp : w'.point? q = some (.queued observed purpose)) :
    w.point? q = some (.queued observed purpose) ∨
      q ∉ w.lock ∧ (w.point? q = none → w.nextOperation ≤ q) ∧ Unfinished w m w' ∧
        observed = w.loginsDone := by
  have hother : ∀ {op}, Beside w w' op → (∀ p, w'.point? op = some p → p ≠ .queued observed purpose) →
      w.point? q = some (.queued observed purpose) := fun {op} hb hself => by
    rw [← hb.points q, hp]
    rintro rfl
    exact hself _ hp rfl
  cases h with
  | aside hb _ _ _ _ hn _ =>
    refine .inl (hother hb fun p hp he => ?_)
    have := hn p hp
    rw [he] at this
    cases this
  | @joins op _ hb hu hop _ _ hfrom hn _ =>
    by_cases he : q = op
    · subst he
      cases hn.symm.trans hp
      exact .inr ⟨hop, hfrom, hu, rfl⟩
    · exact .inl (hb.points q he ▸ hp)
  | begins hb _ _ _ _ _ hn _ _ _ =>
    exact .inl (hother hb fun p hp he => by cases hn.symm.trans hp; cases he)
  | leaves hb _ _ _ _ hn _ => exact .inl (hother hb fun p hp => by cases hn.symm.trans hp)
  | enters hb _ _ _ _ hn _ _ _ _ =>
    exact .inl (hother hb fun p hp he => by cases hn.symm.trans hp; cases he)
  | continues hb _ _ _ _ hn hl _ =>
    exact .inl (hother hb fun p hp he => by cases hn.symm.trans hp; rw [he] at hl; cases hl)
  | finishes hb _ _ _ _ _ _ _ hn _ _ | abandoned hb _ _ _ hn _ =>
    exact .inl (hother hb fun p hp => by cases hn.symm.trans hp)

/-- A step finishes one login, or none. -/
theorem Shift.done (h : Shift w m w') :
    Unfinished w m w' ∨ ∃ op r, w.finishes? m = some (op, r) ∧ w'.loginsDone = w.loginsDone + 1 ∧
      w'.lastFault = faultOf r := by
  cases h with
  | aside _ hu _ _ _ _ _ => exact .inl hu
  | joins _ hu _ _ _ _ _ _ => exact .inl hu
  | begins _ hu _ _ _ _ _ _ _ _ => exact .inl hu
  | leaves _ hu _ _ _ _ _ => exact .inl hu
  | enters _ hu _ _ _ _ _ _ _ _ => exact .inl hu
  | continues _ hu _ _ _ _ _ _ => exact .inl hu
  | finishes _ hf hd hl _ _ _ _ _ _ _ => exact .inr ⟨_, _, hf, hd, hl⟩
  | abandoned _ hu _ _ _ _ => exact .inl hu

/-- What there is to say of a step that finishes a login. -/
theorem Shift.finished {op : Nat} {r : LoginResult} (h : Shift w m w')
    (hf : w.finishes? m = some (op, r)) :
    ∃ p purpose, Beside w w' op ∧ w'.loginsDone = w.loginsDone + 1 ∧ w'.lastFault = faultOf r ∧
      w.point? op = some p ∧ p.isLogin = true ∧ p.purpose? = some purpose ∧ w'.point? op = none ∧
      w'.outcome? op = some (purpose.outcome r) ∧ ∀ f, r = .error f → w'.current = none := by
  cases h with
  | aside _ hu _ _ _ _ _ => cases hu.finishes.symm.trans hf
  | joins _ hu _ _ _ _ _ _ => cases hu.finishes.symm.trans hf
  | begins _ hu _ _ _ _ _ _ _ _ => cases hu.finishes.symm.trans hf
  | leaves _ hu _ _ _ _ _ => cases hu.finishes.symm.trans hf
  | enters _ hu _ _ _ _ _ _ _ _ => cases hu.finishes.symm.trans hf
  | continues _ hu _ _ _ _ _ _ => cases hu.finishes.symm.trans hf
  | abandoned _ hu _ _ _ _ => cases hu.finishes.symm.trans hf
  | finishes hb hf' hdone hfault _ hp hl hpu hn hout hc =>
    cases hf'.symm.trans hf
    exact ⟨_, _, hb, hdone, hfault, hp, hl, hpu, hn, hout, hc⟩

/-! ## What a waiting operation has heard -/

/-- The count and the latest fault tell an operation what it has heard while it waits. -/
structure Informed (w : World) (q : Nat) (rs : List LoginResult) : Prop where
  once : rs ≠ [] → ∃ observed purpose, w.Descends q observed purpose
  count : ∀ observed purpose, w.point? q = some (.queued observed purpose) →
    observed + rs.length = w.loginsDone
  latest : ∀ observed purpose, w.point? q = some (.queued observed purpose) →
    ∀ r, rs.getLast? = some r → w.lastFault = faultOf r

theorem descends_of_queued (ho : w.IsOrderly) {observed : Nat} {purpose : Purpose}
    (hp : w.point? q = some (.queued observed purpose)) : w.Descends q observed purpose :=
  ⟨ho.lt_next hp, fun _ hp' => .inl (Option.some.inj (hp'.symm.trans hp))⟩

theorem Informed.step {rs : List LoginResult} (hi : w.Informed q rs) (ho : w.IsOrderly)
    (h : Shift w m w') :
    w'.Informed q
      (rs ++ if w.isWaiting q then (w.finishes? m).toList.map Prod.snd else []) := by
  have hwait : ∀ {o p}, w.point? q = some (.queued o p) → w.isWaiting q = true :=
    fun hp => isWaiting_iff.mpr ⟨_, _, hp⟩
  -- Who joins now has not been in the queue before, and has heard nothing.
  have hnew : q ∉ w.lock → (w.point? q = none → w.nextOperation ≤ q) →
      rs = [] ∧ w.isWaiting q = false := fun hop hfrom => by
    refine ⟨by_contra fun hne => ?_, ?_⟩
    · obtain ⟨o, p, hd⟩ := hi.once hne
      exact hd.not_aside ho hop hfrom
    · by_contra hw
      obtain ⟨_, _, hp⟩ := isWaiting_iff.mp (by simpa using hw)
      exact (descends_of_queued ho hp).not_aside ho hop hfrom
  refine ⟨fun hne => ?_, fun o p hp => ?_, fun o p hp r hr => ?_⟩
  · by_cases hrs : rs = []
    · have hw : w.isWaiting q = true := by
        by_contra hw
        simp [hrs, hw] at hne
      obtain ⟨_, _, hp⟩ := isWaiting_iff.mp hw
      exact ⟨_, _, h.descends ho (descends_of_queued ho hp)⟩
    · obtain ⟨o, p, hd⟩ := hi.once hrs
      exact ⟨o, p, h.descends ho hd⟩
  · rcases h.queued hp with hp | ⟨hop, hfrom, hu, rfl⟩
    · have hc := hi.count o p hp
      rcases h.done with hu | ⟨op, s, hf, hd, -⟩
      · simpa [hu.finishes, hu.done] using hc
      · simp [hf, hwait hp, hd, ← hc, Nat.add_assoc]
    · obtain ⟨rfl, hw⟩ := hnew hop hfrom
      simp [hw, hu.done]
  · rcases h.queued hp with hp | ⟨hop, hfrom, hu, rfl⟩
    · rcases h.done with hu | ⟨op, s, hf, -, hl⟩
      · rw [hu.fault]
        exact hi.latest o p hp r (by simpa [hu.finishes] using hr)
      · have hs : s = r := by simpa [hf, hwait hp] using hr
        rw [hl, hs]
    · obtain ⟨rfl, hw⟩ := hnew hop hfrom
      simp [hw] at hr

end World

theorem heard_concat {q : Nat} {w v : World} {ms : List Move} (h : run? w ms = some v) (m : Move) :
    heard q w (ms ++ [m]) =
      heard q w ms ++ if v.isWaiting q then (v.finishes? m).toList.map Prod.snd else [] := by
  induction ms generalizing w with
  | nil =>
    cases h
    simp only [List.nil_append, heard]
    cases step v m <;> simp
  | cons n ms ih =>
    simp only [run?, Option.bind_eq_some_iff] at h
    obtain ⟨u, hu, h⟩ := h
    simp only [List.cons_append, heard, hu, ih h, List.append_assoc]

/-! ## After a failed login -/

namespace World

variable {w w' : World} {m : Move} {q : Nat} {f : Fault}

/-- Until `q` resumes, nobody logs in after that failure: whoever is ahead of `q` in the queue,
and `q` itself, has yet to hear of it. -/
structure Relays (f : Fault) (w : World) (q : Nat) : Prop where
  idle : ∀ a p, w.point? a = some p → p.isLogin = false
  fault : w.destroyed = false → w.lastFault = some f ∧ w.current = none
  queue : ∃ A B, w.lock = A ++ q :: B ∧ ∀ a ∈ A ++ [q], ∃ observed purpose,
    w.point? a = some (.queued observed purpose) ∧ observed < w.loginsDone

/-- The head of the queue has yet to hear of the failure. -/
theorem Relays.head (h : Relays f w q) {a : Nat} (ha : w.lock.head? = some a) :
    ∃ observed purpose, w.point? a = some (.queued observed purpose) ∧ observed < w.loginsDone := by
  obtain ⟨A, B, hl, hall⟩ := h.queue
  refine hall a ?_
  cases A with
  | nil =>
    rw [hl] at ha
    exact List.mem_singleton.mpr (Option.some.inj ha).symm
  | cons b A =>
    rw [hl] at ha
    exact Option.some.inj ha ▸ List.mem_cons_self ..

/-- A step that leaves the fault and the count alone, lets nobody begin a login, and takes at most
an operation other than `q` out of the queue. -/
theorem Relays.keep (h : Relays f w q) {op : Nat} (hb : Beside w w' op) (hu : Unfinished w m w')
    (hd : w.destroyed = true → w'.destroyed = true) (hc : w.current = none → w'.current = none)
    (hp : ∀ p, w'.point? op = some p → p.isLogin = false) {C : List Nat}
    (hl : w'.lock = w.lock.filter (· != op) ++ C) (hq : q ≠ op) : Relays f w' q where
  idle a p ha := by
    by_cases he : a = op
    · exact hp p (he ▸ ha)
    · exact h.idle a p (hb.points a he ▸ ha)
  fault hd' := by
    have hw : w.destroyed = false := by
      by_contra hn
      rw [hd (by simpa using hn)] at hd'
      cases hd'
    exact ⟨hu.fault.trans (h.fault hw).1, hc (h.fault hw).2⟩
  queue := by
    obtain ⟨A, B, hl', hall⟩ := h.queue
    refine ⟨A.filter (· != op), B.filter (· != op) ++ C, ?_, fun a ha => ?_⟩
    · rw [hl, hl', List.filter_append, List.filter_cons_of_pos (by simpa using hq), List.append_assoc,
        List.cons_append]
    · have hmem : a ∈ A ++ [q] ∧ a ≠ op := by
        rcases List.mem_append.mp ha with ha | ha
        · have hf := List.mem_filter.mp ha
          exact ⟨List.mem_append_left _ hf.1, by simpa using hf.2⟩
        · exact ⟨List.mem_append_right _ ha, List.mem_singleton.mp ha ▸ hq⟩
      obtain ⟨o, p, hp, ho⟩ := hall a hmem.1
      exact ⟨o, p, (hb.points a hmem.2).trans hp, hu.done.symm ▸ ho⟩

/-- `q` has left the queue for good, or the failure is still being told. -/
def Told (f : Fault) (w : World) (q : Nat) : Prop :=
  (w.point? q = none ∧ q < w.nextOperation) ∨ Relays f w q

theorem Shift.relays (h : Shift w m w') (ho : w.IsOrderly)
    (hd : w.destroyed = true → w'.destroyed = true) (hr : Relays f w q) : Told f w' q := by
  have hql : q ∈ w.lock := by
    obtain ⟨A, B, hl, -⟩ := hr.queue
    rw [hl]
    exact List.mem_append_right _ (List.mem_cons_self ..)
  have hlt : q < w.nextOperation := by
    obtain ⟨p, hp, -⟩ := (ho.mem_lock q).mp hql
    exact ho.lt_next hp
  have hfilter : ∀ {op}, op ∉ w.lock → w.lock.filter (· != op) = w.lock := fun hop =>
    List.filter_eq_self.mpr fun a ha => bne_iff_ne.mpr fun he => hop (he ▸ ha)
  cases h with
  | aside hb hu hop hl _ hp hc =>
    refine .inr (hr.keep hb hu hd hc (fun p hp' => ?_) (C := []) ?_ fun he => hop (he ▸ hql))
    · by_contra hn
      rw [Bool.not_eq_false] at hn
      exact absurd ((hp p hp').symm.trans (Point.wantsLock_of_isLogin hn)) (by decide)
    · rw [List.append_nil, hfilter hop, hl]
  | @joins op _ hb hu hop _ hl _ hp hc =>
    refine .inr (hr.keep hb hu hd hc (fun p hp' => ?_) (C := [op]) ?_ fun he => hop (he ▸ hql))
    · cases hp.symm.trans hp'
      rfl
    · rw [hfilter hop, hl]
  | begins _ _ _ he _ _ _ _ _ _ =>
    rw [he] at hql
    cases hql
  | @leaves op _ _ hb hu _ hl _ hn hc =>
    by_cases he : q = op
    · exact .inl ⟨he ▸ hn, Nat.lt_of_lt_of_le hlt hb.next⟩
    · exact .inr (hr.keep hb hu hd hc (fun p hp => by cases hn.symm.trans hp) (C := [])
        (by rw [List.append_nil, hl]) he)
  | enters _ _ hh _ hp _ hd' _ hf _ =>
    -- The head of the queue has heard of the failure, so it does not log in.
    obtain ⟨o, p, hp', hlt'⟩ := hr.head hh
    cases hp.symm.trans hp'
    exact absurd ((hr.fault hd').1.symm.trans (hf hlt')) (by simp)
  | continues _ _ _ hp hl _ _ _ | finishes _ _ _ _ _ hp hl _ _ _ _ =>
    exact absurd (hr.idle _ _ hp) (by simp [hl])
  | @abandoned op _ hb hu hl _ hn hc =>
    by_cases he : q = op
    · exact .inl ⟨he ▸ hn, Nat.lt_of_lt_of_le hlt hb.next⟩
    · exact .inr (hr.keep hb hu hd (fun h => hc.trans h) (fun p hp => by cases hn.symm.trans hp)
        (C := []) (by rw [List.append_nil, hl]) he)

/-- Who has ended does not come back. -/
theorem Shift.gone (h : Shift w m w') (hp : w.point? q = none) (hlt : q < w.nextOperation) :
    w'.point? q = none ∧ q < w'.nextOperation := by
  have hother : ∀ {op}, Beside w w' op → (w.point? op = none → w.nextOperation ≤ op) →
      w'.point? q = none ∧ q < w'.nextOperation := fun {op} hb hfrom => by
    have hne : q ≠ op := by
      rintro rfl
      exact absurd hlt (Nat.not_lt.mpr (hfrom hp))
    exact ⟨(hb.points q hne).trans hp, Nat.lt_of_lt_of_le hlt hb.next⟩
  cases h with
  | aside hb _ _ _ hfrom _ _ | joins hb _ _ _ _ hfrom _ _ | begins hb _ _ _ _ hfrom _ _ _ _ =>
    exact hother hb hfrom
  | leaves hb _ _ _ hp' _ _ => exact hother hb fun hn => by cases hp'.symm.trans hn
  | enters hb _ _ _ hp' _ _ _ _ _ => exact hother hb fun hn => by cases hp'.symm.trans hn
  | continues hb _ _ hp' _ _ _ _ => exact hother hb fun hn => by cases hp'.symm.trans hn
  | finishes hb _ _ _ _ hp' _ _ _ _ _ => exact hother hb fun hn => by cases hp'.symm.trans hn
  | abandoned hb _ _ hp' _ _ => exact hother hb fun hn => by cases hp'.symm.trans hn

theorem told_of_run {v : World} {ns : List Move} (ho : w.IsOrderly) (ht : Told f w q)
    (h : run? w ns = some v) : v.IsOrderly ∧ Told f v q := by
  refine run?_keeps (P := fun v => v.IsOrderly ∧ Told f v q) (fun {u u' m} hu hk => ?_) ⟨ho, ht⟩ h
  have hs := shift_of_turn hu.1 hk
  refine ⟨orderly_turn hu.1 hk, ?_⟩
  rcases hu.2 with ⟨hn, hlt⟩ | hr
  · exact .inl (hs.gone hn hlt)
  · exact hs.relays hu.1 (Onward.of_turn hk).destroyed hr

theorem descends_of_run {v : World} {ns : List Move} {observed : Nat} {purpose : Purpose}
    (ho : w.IsOrderly) (hq : w.Descends q observed purpose) (h : run? w ns = some v) :
    v.Descends q observed purpose := by
  refine (run?_keeps (P := fun v => v.IsOrderly ∧ v.Descends q observed purpose)
    (fun {u u' m} hu hk => ?_) ⟨ho, hq⟩ h).2
  exact ⟨orderly_turn hu.1 hk, (shift_of_turn hu.1 hk).descends hu.1 hu.2⟩

/-! ## Resuming -/

theorem enters_of_step (h : step w (.enter q) = some w') : ∃ observed purpose,
    w.lock.head? = some q ∧ w.point? q = some (.queued observed purpose) ∧
      Enters w q observed purpose w' := by
  cases turn_of_step h with
  | orphan hf _ | stale hf _ _ | renew hf _ _ _ _ | expire hf _ _ _ _ => cases hf
  | enter hl hp he => exact ⟨_, _, hl, hp, he⟩

theorem outcome?_finish (w : World) (op : Nat) (o : Outcome) : (w.finish op o).outcome? op = some o := by
  simp [outcome?]

/-- The operation at the head of the queue can resume. -/
theorem step_enter {observed : Nat} {purpose : Purpose} (hl : w.lock.head? = some q)
    (hp : w.point? q = some (.queued observed purpose)) : ∃ v, step w (.enter q) = some v := by
  refine ⟨w.withLock q observed purpose, ?_⟩
  simp only [step, World.enter, hl, hp, if_true]

/-- Where somebody waits and nobody is at a login, the first in the queue can resume. -/
theorem resumes_of_idle (ho : w.IsOrderly) (hidle : ∀ a p, w.point? a = some p → p.isLogin = false)
    (hw : w.isWaiting q = true) :
    (∀ a, ¬ w.LogsIn a) ∧ ∃ a v, w.lock.head? = some a ∧ step w (.enter a) = some v := by
  obtain ⟨purpose, observed, hp⟩ := isWaiting_iff.mp hw
  have hq : q ∈ w.lock := (ho.mem_lock q).mpr ⟨_, hp, rfl⟩
  obtain ⟨a, hl⟩ := Option.ne_none_iff_exists'.mp fun hn =>
    List.ne_nil_of_mem hq (List.head?_eq_none_iff.mp hn)
  obtain ⟨pa, hpa, hwants⟩ := (ho.mem_lock a).mp (List.mem_of_head? hl)
  refine ⟨fun b ⟨_, _, hb⟩ => ?_, a, ?_⟩
  · cases hidle b _ hb
  · cases pa with
    | queued o p =>
      obtain ⟨v, hv⟩ := step_enter hl hpa
      exact ⟨v, hl, hv⟩
    | renewing | revoking => cases hwants
    | loggingIn | lookingUp | discarding => cases hidle a _ hpa

/-- Nobody is at a login where there is a grant to be used. -/
theorem idle_of_usable (ho : w.IsOrderly) {g : Grant} (hu : w.usable? = some g) {a : Nat} {p : Point}
    (hp : w.point? a = some p) : p.isLogin = false := by
  by_contra hl
  have hnone : w.current = none := ho.bare a p hp (by simpa using hl)
  simp [usable?, hnone] at hu

end World

section run

variable {settings : Settings} {d : Discipline} {draws : Nat → Nat} {ms : List Move} {w : World}

/-- In every run the operations in the queue are informed of what they have heard. -/
theorem informed_of_run (h : run? (World.initial settings d draws) ms = some w) (q : Nat) :
    w.Informed q (heard q (World.initial settings d draws) ms) := by
  induction ms using List.reverseRecOn generalizing w with
  | nil =>
    cases h
    exact ⟨fun hne => absurd rfl hne, fun _ _ hp => (by cases hp), fun _ _ hp => (by cases hp)⟩
  | append_singleton ms m ih =>
    obtain ⟨v, hv, hs⟩ := run?_concat.mp h
    rw [heard_concat hv]
    have ho := orderly_of_run hv
    exact (ih hv).step ho (shift_of_turn ho (turn_of_step hs))

/-- Who waits has observed no more logins than have finished. -/
theorem observed_le (h : run? (World.initial settings d draws) ms = some w) {q observed : Nat}
    {purpose : Purpose} (hp : w.point? q = some (.queued observed purpose)) :
    observed ≤ w.loginsDone := by
  have := (informed_of_run h q).count observed purpose hp
  omega

/-- Once a login has finished, nobody logs in, and everyone in the queue has yet to hear of it. -/
theorem queued_of_finish {w' : World} {m : Move} {op q : Nat} {r : LoginResult}
    (h : run? (World.initial settings d draws) ms = some w) (hs : Shift w m w')
    (ho' : w'.IsOrderly) (hf : w.finishes? m = some (op, r)) :
    (∀ a p, w'.point? a = some p → p.isLogin = false) ∧
      (q ∈ w'.lock → ∃ observed purpose,
        w'.point? q = some (.queued observed purpose) ∧ observed < w'.loginsDone) := by
  have ho := orderly_of_run h
  obtain ⟨p, _, hb, hdone, -, hp, hlog, -, hn, -, -⟩ := hs.finished hf
  have hidle : ∀ a p, w'.point? a = some p → w.point? a = some p ∧ p.isLogin = false := by
    intro a p' ha
    have hne : a ≠ op := by
      rintro rfl
      cases hn.symm.trans ha
    rw [hb.points a hne] at ha
    refine ⟨ha, ?_⟩
    by_contra hlog'
    exact hne (ho.login_unique ha (by simpa using hlog') hp hlog)
  refine ⟨fun a p ha => (hidle a p ha).2, fun hq => ?_⟩
  obtain ⟨p', hpq, hw⟩ := (ho'.mem_lock q).mp hq
  obtain ⟨hpq', hpl⟩ := hidle q p' hpq
  cases p' with
  | queued o purpose =>
    have := observed_le h hpq'
    exact ⟨o, purpose, hpq, by omega⟩
  | renewing | revoking => cases hw
  | loggingIn | lookingUp | discarding => cases hpl

/-- When a login has failed, the failure is told to everyone in the queue. -/
theorem relays_of_failure {w' : World} {m : Move} {op q : Nat} {f : Fault}
    (h : run? (World.initial settings d draws) ms = some w) (hs : Shift w m w')
    (ho' : w'.IsOrderly) (hf : w.finishes? m = some (op, .error f)) (hq : q ∈ w'.lock) :
    Relays f w' q := by
  obtain ⟨-, -, -, -, hfault, -, -, -, -, -, hc⟩ := hs.finished hf
  refine ⟨(queued_of_finish (q := q) h hs ho' hf).1, fun _ => ⟨hfault, hc f rfl⟩, ?_⟩
  obtain ⟨A, B, hAB⟩ := List.append_of_mem hq
  refine ⟨A, B, hAB, fun a ha => (queued_of_finish h hs ho' hf).2 ?_⟩
  rw [hAB]
  rcases List.mem_append.mp ha with ha | ha
  · exact List.mem_append_left _ ha
  · exact List.mem_append_right _ (List.mem_singleton.mp ha ▸ List.mem_cons_self ..)

/-- Who is in the queue when a login has finished shares its result. -/
theorem shares_of_finish {w' : World} {m : Move} {op q : Nat} {r : LoginResult}
    (h : run? (World.initial settings d draws) ms = some w) (hs : step w m = some w')
    (hf : w.finishes? m = some (op, r)) (hq : q ∈ w'.lock) : ∃ purpose, Shares r w' q purpose := by
  have ho := orderly_of_run h
  have hshift := shift_of_turn ho (turn_of_step hs)
  have ho' := orderly_turn ho (turn_of_step hs)
  obtain ⟨observed, purpose, hp, -⟩ := (queued_of_finish h hshift ho' hf).2 hq
  -- Whenever `q` resumes, it does so for the purpose that it joined for.
  have hresume : ∀ {ns v v'}, run? w' ns = some v → step v (.enter q) = some v' →
      v.lock.head? = some q ∧ v.point? q = some (.queued observed purpose) ∧
        Enters v q observed purpose v' := fun {ns v v'} hv he => by
    obtain ⟨o, p, hl, hq', he⟩ := enters_of_step he
    rcases (descends_of_run ho' (descends_of_queued ho' hp) hv).2 _ hq' with heq | hlog
    · cases heq
      exact ⟨hl, hq', he⟩
    · cases hlog
  -- As long as `q` waits after a failure, the failure is being told.
  have hrelays : ∀ {ns v f}, run? w' ns = some v → r = .error f → (∃ p, v.point? q = some p) →
      v.IsOrderly ∧ Relays f v q := fun {ns v f} hv hr hq' => by
    subst hr
    obtain ⟨hov, ht⟩ := told_of_run ho' (.inr (relays_of_failure h hshift ho' hf hq)) hv
    obtain ⟨p, hq'⟩ := hq'
    rcases ht with ⟨hn, -⟩ | ht
    · cases hn.symm.trans hq'
    · exact ⟨hov, ht⟩
  refine ⟨purpose, ⟨observed, hp⟩, ?_, ?_, ?_, ?_, ?_⟩
  · intro ns v v' hv he hd
    obtain ⟨-, -, he⟩ := hresume hv he
    cases he with
    | shut _ => exact outcome?_finish ..
    | found h _ | shared h _ _ _ | starts h _ _ => cases h.symm.trans hd
  · intro ns v v' f hv he hd hr
    obtain ⟨hl, hp', he⟩ := hresume hv he
    obtain ⟨-, ht⟩ := hrelays hv hr ⟨_, hp'⟩
    obtain ⟨o, p, hp'', hlt⟩ := ht.head hl
    cases hp'.symm.trans hp''
    obtain ⟨hfault, hc⟩ := ht.fault hd
    cases he with
    | shut h => cases h.symm.trans hd
    | found _ hu => simp [usable?, hc] at hu
    | shared _ _ _ hf' =>
      cases hfault.symm.trans hf'
      exact outcome?_finish ..
    | starts _ _ hnone => cases hfault.symm.trans (hnone hlt)
  · intro ns v v' g hv he hd _ hu
    obtain ⟨-, -, he⟩ := hresume hv he
    cases he with
    | shut h => cases h.symm.trans hd
    | found _ hu' =>
      cases hu.symm.trans hu'
      exact outcome?_finish ..
    | shared _ hn _ _ | starts _ hn _ => cases hu.symm.trans hn
  · intro ns v f hv hr hw
    obtain ⟨_, o, hp'⟩ := isWaiting_iff.mp hw
    obtain ⟨hov, ht⟩ := hrelays hv hr ⟨_, hp'⟩
    exact resumes_of_idle hov ht.idle hw
  · intro ns v g hv _ hu hw
    have hov : v.IsOrderly := run?_keeps (P := World.IsOrderly) orderly_turn ho' hv
    exact resumes_of_idle hov (fun a p => idle_of_usable hov hu) hw

/-- An operation begins a login only where it finds no credential to use, other than one whose
renewal it has just failed in, and after no login that failed while it waited. -/
theorem begins_of_step {w' : World} {m : Move} {op : Nat}
    (h : run? (World.initial settings d draws) ms = some w) (hs : step w m = some w')
    (hl : w'.LogsIn op) (hn : ¬ w.LogsIn op) :
    w.destroyed = false ∧ w'.current = none ∧
      (∀ g, w.usable? = some g → ∃ i since, w.point? op = some (.renewing i since) ∧
        i.serial = g.serial) ∧
      (heard op (World.initial settings d draws) ms = [] ∨
        ∃ g, (heard op (World.initial settings d draws) ms).getLast? = some (.ok g)) := by
  have ho := orderly_of_run h
  have hi := informed_of_run h op
  obtain ⟨purpose, since, hp⟩ := hl
  have hother : ∀ {a}, Beside w w' a → op ≠ a → False := fun {a} hb hne =>
    hn ⟨purpose, since, hb.points op hne ▸ hp⟩
  cases shift_of_turn ho (turn_of_step hs) with
  | @aside a hb _ _ _ _ hw _ =>
    by_cases he : op = a
    · cases hw _ (he ▸ hp)
    · exact (hother hb he).elim
  | @joins a _ hb _ _ _ _ _ hq _ =>
    by_cases he : op = a
    · cases hq.symm.trans (he ▸ hp)
    · exact (hother hb he).elim
  | @begins a _ _ hb _ hop _ _ hfrom _ hd hu hc =>
    by_cases he : op = a
    · subst he
      refine ⟨hd, hc, hu, .inl (by_contra fun hne => ?_)⟩
      obtain ⟨o, p, hdesc⟩ := hi.once hne
      exact hdesc.not_aside ho hop hfrom
    · exact (hother hb he).elim
  | @leaves a _ _ hb _ _ _ _ hq _ =>
    by_cases he : op = a
    · cases hq.symm.trans (he ▸ hp)
    · exact (hother hb he).elim
  | @enters a observed _ _ hb _ _ _ hq _ hd hu hf hc =>
    by_cases he : op = a
    · subst he
      refine ⟨hd, hc, fun g hg => (by cases hu.symm.trans hg), ?_⟩
      have hcount := hi.count observed _ hq
      have hlatest := hi.latest observed _ hq
      cases hlast : (heard op (World.initial settings d draws) ms).getLast? with
      | none => exact .inl (List.getLast?_eq_none_iff.mp hlast)
      | some r =>
        have hpos : 0 < (heard op (World.initial settings d draws) ms).length :=
          List.length_pos_of_mem (List.mem_of_getLast? hlast)
        have hr := (hlatest r hlast).symm.trans (hf (by omega))
        cases r with
        | ok g => exact .inr ⟨g, rfl⟩
        | error f => cases hr
    · exact (hother hb he).elim
  | @continues a _ _ hb _ _ _ _ hq _ hno =>
    by_cases he : op = a
    · cases hq.symm.trans (he ▸ hp)
      exact (hno _ _ rfl).elim
    · exact (hother hb he).elim
  | @finishes a _ _ _ hb _ _ _ _ _ _ _ hq _ _ =>
    by_cases he : op = a
    · cases hq.symm.trans (he ▸ hp)
    · exact (hother hb he).elim
  | @abandoned a _ hb _ _ _ hq _ =>
    by_cases he : op = a
    · cases hq.symm.trans (he ▸ hp)
    · exact (hother hb he).elim

/-- In every run at most one login is under way, nobody begins another after one that failed while
it waited, and a login that finishes is shared by the one that performs it and all who wait. -/
theorem single_flight (h : run? (World.initial settings d draws) ms = some w) :
    (∀ a b, w.LogsIn a → w.LogsIn b → a = b) ∧
    (∀ m w' op, step w m = some w' → w'.LogsIn op → ¬ w.LogsIn op →
      w.destroyed = false ∧ w'.current = none ∧
        (∀ g, w.usable? = some g → ∃ i since, w.point? op = some (.renewing i since) ∧
          i.serial = g.serial) ∧
        (heard op (World.initial settings d draws) ms = [] ∨
          ∃ g, (heard op (World.initial settings d draws) ms).getLast? = some (.ok g))) ∧
    (∀ m w' op r, step w m = some w' → w.finishes? m = some (op, r) →
      (∃ p purpose, w.point? op = some p ∧ p.isLogin = true ∧ p.purpose? = some purpose ∧
        w'.outcome? op = some (purpose.outcome r)) ∧
      ∀ q ∈ w'.lock, ∃ purpose, Shares r w' q purpose) := by
  refine ⟨fun a b ⟨_, _, ha⟩ ⟨_, _, hb⟩ => (orderly_of_run h).login_unique ha rfl hb rfl,
    fun m w' op hs hl hn => begins_of_step h hs hl hn, fun m w' op r hs hf => ⟨?_, fun q hq => ?_⟩⟩
  · obtain ⟨p, purpose, -, -, -, hp, hl, hpu, -, hout, -⟩ :=
      (shift_of_turn (orderly_of_run h) (turn_of_step hs)).finished hf
    exact ⟨p, purpose, hp, hl, hpu, hout⟩
  · exact shares_of_finish h hs hf hq

end run

/-- Three callers, one after the other. -/
def threeCallers : List Move := [.begin .token, .begin .token, .begin .token]

/-- The login of the first caller is refused. -/
def refusal : Move := .answer 0 (.login (.error (.authentication "denied")))

/-- When the first of three callers has its login refused, the third one shares the refusal. -/
theorem third_caller_shares :
    ∃ w w', run? (World.initial default .manual fun _ => 0) threeCallers = some w ∧
      step w refusal = some w' ∧
      ∃ purpose, Shares (.error (.authentication "denied")) w' 2 purpose := by
  refine ⟨_, _, rfl, rfl, ?_⟩
  have hrun : run? (World.initial default .manual fun _ => 0) threeCallers = some _ := rfl
  have h := (single_flight hrun).2.2 refusal _ 0 (.error (.authentication "denied")) rfl rfl
  exact h.2 2 (by decide)

end LeaseKeeper.Session
