import LeaseKeeper.Proofs.Session.SingleFlight

/-!
# What a step adds to the history of a session

Every step puts what happens in it before what happened earlier, and `News` lists what that can
be, with the guards that were met: which calls are made, which events are published, and how
operations end (`adds_of_turn`). Which grants are given back can be told from the move alone
(`World.surrenders`), so `World.surrendered` is the list of all of them. An operation that has
ended stands nowhere any more (`Concluded`).
-/

namespace LeaseKeeper.Session

/-- The grant that is given back to the server, if that is what happens. -/
def Happening.surrender? : Happening → Option Grant
  | .called _ (.revoke g) => some g
  | _ => none

namespace World

/-- The grants that were given back to the server, latest first. -/
def surrendered (w : World) : List Grant := w.history.filterMap Happening.surrender?

/-- The credential that a login comes to by a move: the server brings it, or answers the question
about its token. -/
def brings? (w : World) : Move → Option Credential
  | .answer op r =>
    match w.point? op, r with
    | some (.loggingIn _ _), .login (.ok c) => if w.wantsLookup c then none else some c
    | some (.lookingUp _ c), .lookup (.ok found) =>
      some (c.withLease w.now found.ttl found.renewable)
    | some (.lookingUp _ c), .lookup (.error _) => some c
    | _, _ => none
  | _ => none

/-- The installed grant, if it has to be given back. -/
def owed (w : World) : List Grant := w.current.toList.filter fun g => g.credential.isLogin

/-- What is given back of a credential that a login has brought: the token, if it came too late. -/
def returns (w : World) (c : Credential) : List Grant :=
  if w.destroyed && c.isLogin then [⟨w.nextGrant, c⟩] else []

/-- The grants that a move gives back. -/
def surrenders (w : World) : Move → List Grant
  | .begin .revoke => w.owed
  | .begin .destroy => if w.destroyed then [] else w.owed
  | m => (w.brings? m).toList.flatMap w.returns

end World

/-- What a step by that move can add to the history. -/
inductive News (w : World) : Move → Happening → Prop
  | login {m : Move} {op : Nat} : w.destroyed = false → News w m (.called op .login)
  | lookup {m : Move} {op : Nat} {c : Credential} : News w m (.called op (.lookup c))
  | renew {m : Move} {op : Nat} {g : Grant} : w.destroyed = false → w.isCurrent g = true →
    News w m (.called op (.renew g))
  | revoke {m : Move} {op : Nat} {g : Grant} : g ∈ w.surrenders m → News w m (.called op (.revoke g))
  | tellsFailure {m : Move} {f : Fault} {g i : Option Grant} : News w m (.published (.failed f g) i)
  | tellsRevocation {m : Move} {g : Grant} {i : Option Grant} : News w m (.published (.revoked g) i)
  | tells {m : Move} {e : SessionEvent} {i : Option Grant} : w.destroyed = false →
    News w m (.published e i)
  /-- A credential is found that can be used. -/
  | found {m : Move} {op : Nat} {purpose : Purpose} {g : Grant} : w.destroyed = false →
    w.usable? = some g → News w m (.ended op (purpose.outcome (.ok g)))
  /-- The fault of another login is shared. -/
  | shared {op observed : Nat} {purpose : Purpose} {f : Fault} : w.destroyed = false →
    w.point? op = some (.queued observed purpose) →
    News w (.enter op) (.ended op (purpose.outcome (.error f)))
  /-- A login has come to something. -/
  | finishes {m : Move} {op : Nat} {p : Point} {purpose : Purpose} {r : Except Fault Grant} :
    w.finishes? m = some (op, r) → w.point? op = some p → p.purpose? = some purpose →
    News w m (.ended op (purpose.outcome r))
  /-- The session was shut down before the lock was handed over. -/
  | refused {op observed : Nat} {purpose : Purpose} : w.destroyed = true →
    w.point? op = some (.queued observed purpose) →
    News w (.enter op) (.ended op (purpose.outcome (.error .destroyed)))
  /-- The session was shut down before somebody asked. -/
  | late : w.destroyed = true →
    News w (.begin .token) (.ended w.nextOperation (.refused .destroyed))
  /-- A renewal, a revocation or a task is done with. -/
  | done {m : Move} {op : Nat} : (∀ p, w.point? op = some p → p.wantsLock = false) →
    News w m (.ended op .finished)

namespace World

/-- On the way from `w`, nothing has happened but that events were published. -/
def Says (w : World) (m : Move) (u : World) : Prop :=
  ∃ ks, u.history = ks ++ w.history ∧ ∀ x ∈ ks, News w m x ∧ ∃ e i, x = .published e i

/-- What a step has added to the history. Who has ended in it stood somewhere before, or has just
begun, and stands nowhere now. -/
def Adds (w : World) (m : Move) (w' : World) : Prop :=
  ∃ hs, w'.history = hs ++ w.history ∧ (∀ x ∈ hs, News w m x) ∧
    hs.filterMap Happening.surrender? = w.surrenders m ∧
    ∀ op o, .ended op o ∈ hs → (w.point? op = none → w.nextOperation ≤ op) ∧
      w'.point? op = none ∧ op < w'.nextOperation

variable {w u v w' : World} {m : Move} {op : Nat}

namespace Says

theorem same (h : u.history = w.history) : Says w m u := ⟨[], h, by simp⟩

/-- A change that leaves the history alone. -/
theorem trans (hs : Says w m u) (h : v.history = u.history) : Says w m v := by
  obtain ⟨ks, hk, hn⟩ := hs
  exact ⟨ks, h.trans hk, hn⟩

theorem publish (hs : Says w m u) {e : SessionEvent} (he : News w m (.published e u.current)) :
    Says w m (u.publish e) := by
  obtain ⟨ks, hk, hn⟩ := hs
  refine ⟨.published e u.current :: ks, congrArg _ hk, fun x hx => ?_⟩
  rcases List.mem_cons.mp hx with rfl | hx
  · exact ⟨he, e, _, rfl⟩
  · exact hn x hx

/-- Nobody gives anything back by telling of it. -/
theorem filterMap_eq_nil {ks : List Happening}
    (hk : ∀ x ∈ ks, News w m x ∧ ∃ e i, x = .published e i) :
    ks.filterMap Happening.surrender? = [] := by
  rw [List.filterMap_eq_nil_iff]
  intro x hx
  obtain ⟨-, e, i, rfl⟩ := hk x hx
  rfl

/-- Nor does anybody end. -/
theorem not_ended {ks : List Happening} (hk : ∀ x ∈ ks, News w m x ∧ ∃ e i, x = .published e i)
    {o : Outcome} : Happening.ended op o ∉ ks := fun hx => by
  obtain ⟨-, e, i, he⟩ := hk _ hx
  cases he

/-- The step is over. -/
theorem rest (hs : Says w m u) (hr : w.surrenders m = []) : Adds w m u := by
  obtain ⟨ks, hk, hn⟩ := hs
  exact ⟨ks, hk, fun x hx => (hn x hx).1, hr ▸ filterMap_eq_nil hn,
    fun _ _ hx => absurd hx (not_ended hn)⟩

/-- The step is over when an operation has ended. -/
theorem finish (hs : Says w m u) (hr : w.surrenders m = []) {o : Outcome} (ho : News w m (.ended op o))
    (hfrom : w.point? op = none → w.nextOperation ≤ op) (hop : op < u.nextOperation) :
    Adds w m (u.finish op o) := by
  obtain ⟨ks, hk, hn⟩ := hs
  refine ⟨.ended op o :: ks, ?_, fun x hx => ?_, ?_, fun q r hx => ?_⟩
  · rw [history_finish, hk]
    rfl
  · rcases List.mem_cons.mp hx with rfl | hx
    · exact ho
    · exact (hn x hx).1
  · rw [hr]
    exact (filterMap_eq_nil hn : ks.filterMap _ = [])
  · rcases List.mem_cons.mp hx with he | hx
    · cases he
      exact ⟨hfrom, by rw [point?_finish, if_pos rfl], by rwa [nextOperation_finish]⟩
    · exact absurd hx (not_ended hn)

/-- The step is over when the server is called. -/
theorem call (hs : Says w m u) {c : Call} (p : Point) (hc : News w m (.called op c))
    (hr : w.surrenders m = (Happening.surrender? (.called op c)).toList) :
    Adds w m (u.call op c p) := by
  obtain ⟨ks, hk, hn⟩ := hs
  refine ⟨.called op c :: ks, congrArg _ hk, fun x hx => ?_, ?_, fun q r hx => ?_⟩
  · rcases List.mem_cons.mp hx with rfl | hx
    · exact hc
    · exact (hn x hx).1
  · rw [hr, List.filterMap_cons, filterMap_eq_nil hn]
    cases Happening.surrender? (.called op c) <;> rfl
  · rcases List.mem_cons.mp hx with he | hx
    · cases he
    · exact absurd hx (not_ended hn)

theorem endLogin (hs : Says w m u) (hr : w.surrenders m = []) {p : Point} {purpose : Purpose}
    {r : Except Fault Grant} (hf : w.finishes? m = some (op, r)) (hp : w.point? op = some p)
    (hpu : p.purpose? = some purpose) (hop : op < u.nextOperation) :
    Adds w m (u.endLogin op purpose r) := by
  rw [endLogin_eq]
  refine Says.finish (hs.trans ?_) hr (.finishes hf hp hpu) (fun hn => ?_) hop
  · rfl
  · cases hp.symm.trans hn

/-- A grant whose lifetime has run out is dropped. -/
theorem dropExpired (hs : Says w m u) (hd : w.destroyed = false) : Says w m u.dropExpired := by
  rcases u.dropExpired_eq with he | ⟨g, -, -, he⟩ <;> rw [he]
  · exact hs
  · refine .publish ?_ (.tells hd)
    exact hs.trans rfl

/-- A grant is installed and told of. -/
theorem installs (hs : Says w m u) (hd : w.destroyed = false) (c : Credential)
    (e : Grant → SessionEvent) : Says w m (u.installs c e) := by
  have hi : Says w m ((u.minted.install (some ⟨u.nextGrant, c⟩)).publish (e ⟨u.nextGrant, c⟩)) := by
    refine .publish ?_ (.tells hd)
    exact hs.trans rfl
  obtain ⟨_, _, _, _, he⟩ := ((u.minted.install (some ⟨u.nextGrant, c⟩)).publish
    (e ⟨u.nextGrant, c⟩)).scheduleRenewal_eq ⟨u.nextGrant, c⟩
  refine hi.trans ?_
  rw [World.installs, he]

theorem tellRevocation {op : Nat} (g : Grant) (r : Except Fault Unit) :
    Says w (.answer op (.revocation r)) (w.tellRevocation g r) := by
  cases r with
  | ok _ => exact (Says.same rfl).publish .tellsRevocation
  | error _ => exact (Says.same rfl).publish .tellsFailure

theorem retries (g : Grant) (f : Fault) : Says w m (w.retries g f) := by
  obtain ⟨_, _, _, _, he⟩ := w.retries_eq g f
  have ht : Says w m (w.told g f) := by
    refine .publish ?_ .tellsFailure
    exact same rfl
  refine ht.trans ?_
  rw [he]

end Says

/-! ## Every turn adds such news -/

/-- Going after a credential on account of a renewal that was lost. -/
theorem adds_reacquires (hs : Says w m u) (hd : w.destroyed = false) (hud : u.destroyed = w.destroyed)
    (hu : u.usable? = none) (hr : w.surrenders m = [])
    (ha : Acquires u op .relogin w') : Adds w m w' := by
  cases ha with
  | shut h => cases h.symm.trans (hud.trans hd)
  | found _ h => cases hu.symm.trans h
  | starts _ _ _ =>
    have hl : Says w m ({ u with lock := [op] } : World) := hs.trans rfl
    exact (hl.dropExpired hd).call _ (.login hd) hr
  | waits _ _ _ =>
    refine Says.rest ?_ hr
    exact hs.trans rfl

theorem adds_enters {observed : Nat} {purpose : Purpose} (ho : w.IsOrderly)
    (hp : w.point? op = some (.queued observed purpose)) (he : Enters w op observed purpose w') :
    Adds w (.enter op) w' := by
  have hs : Says w (.enter op) (w.unlock op) := .same rfl
  have hop : op < w.nextOperation := ho.lt_next hp
  have hfrom : w.point? op = none → w.nextOperation ≤ op := fun hn => by cases hp.symm.trans hn
  cases he with
  | shut hd => exact hs.finish rfl (.refused hd hp) hfrom hop
  | found hd hu => exact hs.finish rfl (.found hd hu) hfrom hop
  | shared hd _ _ _ => exact hs.finish rfl (.shared hd hp) hfrom hop
  | starts hd _ _ => exact ((Says.same rfl).dropExpired hd).call _ (.login hd) rfl

theorem adds_welcomes {p : Point} {purpose : Purpose} {c : Credential} (hs : Says w m u)
    (hd : u.destroyed = w.destroyed) (hg : u.nextGrant = w.nextGrant)
    (hf : w.finishes? m = w.delivers? op c) (hr : w.surrenders m = w.returns c)
    (hp : w.point? op = some p) (hpu : p.purpose? = some purpose) (hop : op < u.nextOperation)
    (hw : Welcomes u op purpose c w') : Adds w m w' := by
  have hm : Says w m u.minted := hs.trans rfl
  cases hw with
  | late hd' hl =>
    have hr' : w.surrenders m = [⟨u.nextGrant, c⟩] := by
      rw [hr, returns, ← hd, hd', hl, hg]
      rfl
    exact hm.call _ (.revoke (hr' ▸ List.mem_singleton_self _)) hr'
  | dropped hd' hl =>
    refine hm.endLogin ?_ ?_ hp hpu hop
    · rw [hr, returns, hl, Bool.and_false]
      rfl
    · rw [hf, delivers?, if_pos (hd ▸ hd'), if_neg (by simp [hl])]
  | installed hd' =>
    have hd'' : w.destroyed = false := hd ▸ hd'
    refine (hs.installs hd'' c .created).endLogin ?_ ?_ hp hpu ?_
    · rw [hr, returns, hd'', Bool.false_and]
      rfl
    · rw [hf, delivers?, if_neg (by simp [hd'']), hg]
    · rwa [nextOperation_installs]

theorem adds_takes (hs : Says w m u) (hr : w.surrenders m = u.owed)
    (hn : ∀ p, w.point? op = some p → p.wantsLock = false)
    (hfrom : w.point? op = none → w.nextOperation ≤ op) (hop : op < u.nextOperation)
    (ht : Takes u op w') : Adds w m w' := by
  have hk : Says w m (u.cancelTask.install none) := hs.trans rfl
  cases ht with
  | quiet hq =>
    refine hk.finish ?_ (.done hn) hfrom hop
    rw [hr, owed, List.filter_eq_nil_iff]
    intro g hg
    simp [hq g (by simpa using hg)]
  | @sends g hc hl =>
    have hr' : w.surrenders m = [g] := by
      rw [hr, owed, hc]
      simp [hl]
    exact hk.call _ (.revoke (hr' ▸ List.mem_singleton_self _)) hr'

theorem adds_loses {g : Grant} (hs : Says w m u) (hd : w.destroyed = false)
    (hud : u.destroyed = w.destroyed) (hr : w.surrenders m = [])
    (hn : ∀ p, w.point? op = some p → p.wantsLock = false)
    (hfrom : w.point? op = none → w.nextOperation ≤ op) (hop : op < u.nextOperation)
    (hl : Loses u op g w') : Adds w m w' := by
  cases hl with
  | superseded _ => exact hs.finish hr (.done hn) hfrom hop
  | again _ _ ha =>
    refine adds_reacquires (u := (u.install none).cancelTask) ?_ hd hud rfl hr ha
    exact hs.trans rfl
  | ended _ _ =>
    refine Says.finish (.publish ?_ (.tells hd)) hr (.done hn) hfrom hop
    exact hs.trans rfl

theorem adds_renews {g : Grant} {since : Instant} {r : Except Fault Credential} (ho : w.IsOrderly)
    (hp : w.point? op = some (.renewing g since)) (hr : Renews w op g r w') :
    Adds w (.answer op (.renewal r)) w' := by
  have hop : op < w.nextOperation := ho.lt_next hp
  have hfrom : w.point? op = none → w.nextOperation ≤ op := fun hn => by cases hp.symm.trans hn
  have hn : ∀ p, w.point? op = some p → p.wantsLock = false := fun p hp' => by
    cases hp.symm.trans hp'
    rfl
  have hs : w.surrenders (.answer op (.renewal r)) = [] := by
    simp only [surrenders, brings?, hp]
    rfl
  have htold : ∀ {m f}, Says w m (w.told g f) := fun {m f} => by
    refine .publish ?_ .tellsFailure
    exact .same rfl
  have hm : ∀ {m}, Says w m w.granted.minted := .same rfl
  cases hr with
  | discarded _ => exact (Says.same rfl).finish hs (.done hn) hfrom hop
  | superseded _ _ => exact hm.finish hs (.done hn) hfrom hop
  | brief hd _ _ =>
    refine Says.finish (.publish ?_ (.tells hd)) hs (.done hn) hfrom hop
    exact hm.trans rfl
  | @renewed c hd _ _ =>
    have hg : Says w (.answer op (.renewal (.ok c))) w.granted := .same rfl
    exact (hg.installs hd c .renewed).finish hs (.done hn) hfrom (by rwa [nextOperation_installs])
  | retried _ _ _ => exact (Says.retries ..).finish hs (.done hn) hfrom (by rwa [nextOperation_retries])
  | @tooLate f _ hd _ _ hl =>
    obtain ⟨t, n, he⟩ := (w.told g f).snd_renewalDelay g.credential
    rw [he] at hl
    refine adds_loses (u := { w.told g f with trigger := t, drawn := n }) ?_ hd rfl hs hn hfrom hop hl
    exact htold.trans rfl
  | failed hd _ hl => exact adds_loses htold hd rfl hs hn hfrom hop hl

/-- Every turn adds to the history what it may. -/
theorem adds_of_turn (ho : w.IsOrderly) (ht : Turn w m w') : Adds w m w' := by
  have hnew : ∀ {m}, Says w m w.enrolled := .same rfl
  have hlt : w.nextOperation < w.enrolled.nextOperation := Nat.lt_succ_self _
  have hfrom : w.point? w.nextOperation = none → w.nextOperation ≤ w.nextOperation :=
    fun _ => Nat.le_refl _
  have hnone : ∀ p, w.point? w.nextOperation = some p → p.wantsLock = false := fun p hp => by
    cases ho.lookup_next.symm.trans hp
  have hfire : ∀ {t s}, w.Fires m t s → w.surrenders m = [] := fun hf => by cases hf <;> rfl
  have hsame : ∀ {m u}, u.history = w.history → w.surrenders m = [] → Adds w m u :=
    fun hh hr => Says.rest (.same hh) hr
  cases ht with
  | token _ ha =>
    cases ha with
    | shut hd => exact hnew.finish rfl (.late hd) hfrom hlt
    | found hd hu => exact hnew.finish rfl (.found hd hu) hfrom hlt
    | starts hd _ _ =>
      have hl : Says w (.begin .token) ({ w.enrolled with lock := [w.nextOperation] } : World) :=
        .same rfl
      exact (hl.dropExpired hd).call _ (.login hd) rfl
    | waits _ _ _ =>
      refine Says.rest ?_ rfl
      exact hnew.trans rfl
  | revoke _ hk => exact adds_takes hnew rfl hnone hfrom hlt hk
  | destroyAgain _ hd =>
    refine hnew.finish ?_ (.done hnone) hfrom hlt
    rw [surrenders, if_pos hd]
  | destroy _ hd hk =>
    refine adds_takes (u := { w.enrolled with destroyed := true }) (hnew.trans rfl) ?_ hnone hfrom hlt hk
    rw [surrenders, if_neg (by simp [hd])]
    rfl
  | orphan hf _ => exact hsame rfl (hfire hf)
  | @stale _ t s hf _ _ =>
    have hs : Says w m ({ w with schedule := s } : World).enrolled := .same rfl
    exact hs.finish (hfire hf) (.done hnone) hfrom hlt
  | @renew _ t s g hf _ _ hd hc =>
    have hs : Says w m ({ w with schedule := s } : World).enrolled := .same rfl
    exact hs.call _ (.renew hd hc) (hfire hf)
  | @expire _ t s g hf _ _ hd _ =>
    have hs : Says w m (({ w with schedule := s } : World).enrolled.install none) := .same rfl
    exact (hs.publish (.tells hd)).finish (hfire hf) (.done hnone) hfrom hlt
  | enter _ hp he => exact adds_enters ho hp he
  | @loginFailed op purpose since f hp =>
    have hs : Says w (.answer op (.login (.error f))) (w.timed false since) := .same rfl
    refine (hs.publish .tellsFailure).endLogin ?_ ?_ hp rfl (ho.lt_next hp)
    · simp only [surrenders, brings?, hp]
      rfl
    · simp only [finishes?, hp]
  | @looksUp op purpose since c hp hl =>
    have hs : Says w (.answer op (.login (.ok c))) (w.timed true since) := .same rfl
    refine hs.call _ .lookup ?_
    simp only [surrenders, brings?, hp, hl, if_true]
    rfl
  | @welcome op purpose since c _ hp hl hw =>
    have hs : Says w (.answer op (.login (.ok c))) (w.timed true since) := .same rfl
    refine adds_welcomes hs rfl rfl ?_ ?_ hp rfl (ho.lt_next hp) hw
    · simp only [finishes?, hp, hl, Bool.false_eq_true, if_false]
    · simp only [surrenders, brings?, hp, hl, Bool.false_eq_true, if_false]
      exact List.append_nil _
  | @lookedUp op _ _ _ _ hp hw | @notLookedUp op _ _ _ _ hp hw =>
    refine adds_welcomes (.same rfl) rfl rfl (by simp only [finishes?, hp]) ?_ hp rfl (ho.lt_next hp) hw
    simp only [surrenders, brings?, hp]
    exact List.append_nil _
  | @discarded op purpose g r hp =>
    refine (Says.tellRevocation g r).endLogin ?_ (by simp only [finishes?, hp]) hp rfl ?_
    · simp only [surrenders, brings?, hp]
      rfl
    · cases r <;> exact ho.lt_next hp
  | renewed hp hr => exact adds_renews ho hp hr
  | @revoked op g r hp =>
    refine (Says.tellRevocation g r).finish ?_ (.done fun p hp' => ?_)
      (fun hn => by cases hp.symm.trans hn) ?_
    · simp only [surrenders, brings?, hp]
      rfl
    · cases hp.symm.trans hp'
      rfl
    · cases r <;> exact ho.lt_next hp
  | abandon | release => exact hsame (history_reap _) rfl
  | elapse | stop | listen | unlisten => exact hsame rfl rfl

theorem surrendered_of_turn (ho : w.IsOrderly) (ht : Turn w m w') :
    w'.surrendered = w.surrenders m ++ w.surrendered := by
  obtain ⟨hs, hh, -, hr, -⟩ := adds_of_turn ho ht
  rw [surrendered, hh, List.filterMap_append, hr]
  rfl

/-! ## Who has ended -/

/-- Who has ended stands nowhere. -/
def Concluded (w : World) : Prop :=
  ∀ op o, .ended op o ∈ w.history → w.point? op = none ∧ op < w.nextOperation

theorem ended_of_outcome? {o : Outcome} (h : w.outcome? op = some o) : .ended op o ∈ w.history := by
  obtain ⟨x, hx, he⟩ := List.exists_of_findSome?_eq_some h
  split at he
  · split at he <;> cases he
    rename_i q r hq
    exact eq_of_beq hq ▸ hx
  · cases he

theorem outcome?_eq_none_iff : w.outcome? op = none ↔ ∀ o, .ended op o ∉ w.history := by
  refine ⟨fun h o ho => ?_, fun h => ?_⟩
  · have := List.findSome?_eq_none_iff.mp h _ ho
    simp at this
  · cases ho : w.outcome? op with
    | none => rfl
    | some o => exact absurd (ended_of_outcome? ho) (h o)

theorem Concluded.outcome? (h : w.Concluded) {p : Point} (hp : w.point? op = some p) :
    w.outcome? op = none :=
  outcome?_eq_none_iff.mpr fun o ho => by cases hp.symm.trans (h op o ho).1

theorem concluded_turn (ho : w.IsOrderly) (hc : w.Concluded) (ht : Turn w m w') : w'.Concluded := by
  obtain ⟨hs, hh, -, -, he⟩ := adds_of_turn ho ht
  intro op o hm
  rw [hh, List.mem_append] at hm
  rcases hm with hm | hm
  · exact (he op o hm).2
  · obtain ⟨hp, hlt⟩ := hc op o hm
    exact (shift_of_turn ho ht).gone hp hlt

/-- Who asks for a token gets one, or learns why not, or waits. -/
theorem Concluded.token (hc : (w.begin .token).Concluded) :
    (w.begin .token).outcome? w.nextOperation ≠ some .finished := by
  have ha : Acquires w.enrolled w.nextOperation .caller (w.begin .token) := acquires_acquire ..
  generalize w.begin .token = u at ha hc
  cases ha with
  | shut | found => rw [outcome?_finish]; nofun
  | starts _ _ _ => rw [hc.outcome? (by rw [point?_call, if_pos rfl])]; nofun
  | waits _ _ _ => rw [hc.outcome? (by rw [point?_setPoint, if_pos rfl])]; nofun

/-- Who asks for one once the session has been shut down is refused at once. -/
theorem outcome?_begin_token (hd : w.destroyed = true) :
    (w.begin .token).outcome? w.nextOperation = some (.refused .destroyed) := by
  show (w.enrolled.acquire w.nextOperation .caller).outcome? w.nextOperation = _
  rw [acquire, if_pos (show w.enrolled.destroyed = true from hd), conclude_eq]
  exact outcome?_finish ..

/-- How an operation has ended is settled. -/
theorem outcome?_turn {o : Outcome} (ho : w.IsOrderly) (hc : w.Concluded) (ht : Turn w m w')
    (h : w.outcome? op = some o) : w'.outcome? op = some o := by
  obtain ⟨hs, hh, -, -, he⟩ := adds_of_turn ho ht
  obtain ⟨hp, hlt⟩ := hc op o (ended_of_outcome? h)
  -- Who has ended before does not end in this step.
  have hn : ({ w with history := hs } : World).outcome? op = none :=
    outcome?_eq_none_iff.mpr fun r hr => absurd hlt (Nat.not_lt.mpr ((he op r hr).1 hp))
  rw [outcome?, hh, List.findSome?_append]
  exact (congrArg (Option.or · _) hn).trans h

/-- An outcome that a step brings is among what it adds. -/
theorem news_of_outcome? {o : Outcome} (ho : w.IsOrderly) (ht : Turn w m w')
    (hn : w.outcome? op = none) (h : w'.outcome? op = some o) : News w m (.ended op o) := by
  obtain ⟨hs, hh, hnews, -, -⟩ := adds_of_turn ho ht
  have hm := ended_of_outcome? h
  rw [hh, List.mem_append] at hm
  rcases hm with hm | hm
  · exact hnews _ hm
  · exact absurd hm (outcome?_eq_none_iff.mp hn o)

end World

open World in
theorem concluded_of_run {settings : Settings} {d : Discipline} {draws : Nat → Nat} {w : World}
    {ms : List Move} (h : run? (World.initial settings d draws) ms = some w) : w.Concluded := by
  refine (run?_keeps (P := fun w => w.IsOrderly ∧ w.Concluded) (fun hw ht => ?_)
    ⟨orderly_initial settings d draws, fun _ _ hm => by cases hm⟩ h).2
  exact ⟨orderly_turn hw.1 ht, concluded_turn hw.1 hw.2 ht⟩

end LeaseKeeper.Session
