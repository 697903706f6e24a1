import LeaseKeeper.Proofs.Session.Shifts
import LeaseKeeper.Proofs.Session.Traces

/-!
# The fate of grants in a step

Of the events that are no failures, a step publishes at most one. `Fate` sorts the steps by it and
by what becomes of the installed grant: a grant arrives from a login, or from the renewal of the
very grant that it replaces (`Arrives`); or the end of a grant is told; or nothing is
(`Fate.of_turn`). Beside that, `Fate` counts how often a grant is installed or on its way back to
the server (`World.stake`): a step raises that for a grant only if the grant comes up in it, and
lowers it for the one whose end it tells.
-/

namespace LeaseKeeper

/-- The grant whose installation an event tells of. -/
def SessionEvent.arrival? : SessionEvent → Option Grant
  | .created g => some g
  | .renewed g => some g
  | _ => none

/-- The grant whose end an event tells of. -/
def SessionEvent.parting? : SessionEvent → Option Grant
  | .loginTokenExpired g => some g
  | .revoked g => some g
  | _ => none

namespace Session

/-- The number of the grant that is given back at a point. -/
def Point.due? : Point → Option Nat
  | .discarding _ g => some g.serial
  | .revoking g => some g.serial
  | _ => none

/-- An event that was published, unless it is a failure, and what was installed then. -/
def Happening.tiding? : Happening → Option (SessionEvent × Option Grant)
  | .published (.failed _ _) _ => none
  | .published e i => some (e, i)
  | _ => none

namespace World

/-- What was told apart from failures, latest first. -/
def tidings (w : World) : List (SessionEvent × Option Grant) := w.history.filterMap Happening.tiding?

/-- The grants whose installation was told, latest first. -/
def arrivals (w : World) : List Grant := w.tidings.filterMap fun x => x.1.arrival?

/-- The grants whose end was told, latest first. -/
def partings (w : World) : List Grant := w.tidings.filterMap fun x => x.1.parting?

/-- How many operations give back the grant of that number. -/
def owing (w : World) (n : Nat) : Nat := w.operations.countP fun x => x.2.due? == some n

/-- How often the grant of that number is installed or on its way back. -/
def stake (w : World) (n : Nat) : Nat := (w.current.toList.map Grant.serial).count n + w.owing n

/-- One, if that number is given out on the way from `w` to `u`. -/
def fresh (w u : World) (n : Nat) : Nat := if n = w.nextGrant ∧ w.nextGrant < u.nextGrant then 1 else 0

/-- How a grant comes to be installed in a step, and that it is told of at once: a login has come to
it, or it takes the place of the very grant that it renews. -/
inductive Arrives (w : World) (m : Move) (g : Grant) (w' : World) : Prop
  | created {op : Nat} : w.finishes? m = some (op, .ok g) →
    w'.tidings = (.created g, some g) :: w.tidings → Arrives w m g w'
  | renewed {op : Nat} {old : Grant} {since : Instant} :
    w.point? op = some (.renewing old since) → m = .answer op (.renewal (.ok g.credential)) →
    w.current = some old → w'.tidings = (.renewed g, some g) :: w.tidings → Arrives w m g w'

/-- What becomes of the installed grant, of those on their way back, and what is told. -/
inductive Fate (w : World) (m : Move) (w' : World) : Prop
  /-- Nothing is told; the installed grant stays, or is taken away. -/
  | quiet : (w'.current = w.current ∨ w'.current = none) → w'.tidings = w.tidings →
    (∀ n, w'.stake n ≤ w.stake n + w.fresh w' n) → Fate w m w'
  /-- The end of a grant is told. -/
  | parts {e : SessionEvent} {g : Grant} : e.parting? = some g →
    (w'.current = w.current ∨ w'.current = none) → w'.tidings = (e, w'.current) :: w.tidings →
    (∀ n, w'.stake n + [g.serial].count n ≤ w.stake n + w.fresh w' n) → Fate w m w'
  /-- A grant is installed. -/
  | arrives {c : Credential} : w.Arrives m ⟨w.nextGrant, c⟩ w' →
    w'.current = some ⟨w.nextGrant, c⟩ → w.nextGrant < w'.nextGrant →
    (∀ n, w'.owing n ≤ w.owing n) → Fate w m w'

variable {w u v w' : World} {m : Move} {op : Nat}

/-! ## Operations that give back -/

theorem owing_strike (w : World) (op n : Nat) :
    (w.operations.filter (·.1 != op)).countP (fun x => x.2.due? == some n) ≤ w.owing n :=
  List.filter_sublist.countP_le

/-- An operation that is struck out gives nothing back any more. -/
theorem owing_strike_point {p : Point} (hp : w.point? op = some p) (n : Nat) :
    (w.operations.filter (·.1 != op)).countP (fun x => x.2.due? == some n) + p.due?.toList.count n ≤
      w.owing n :=
  countP_filter_add_le Point.due? n hp

@[simp] theorem owing_finish (w : World) (op : Nat) (o : Outcome) (n : Nat) :
    (w.finish op o).owing n =
      (w.operations.filter (·.1 != op)).countP (fun x => x.2.due? == some n) := by
  rw [owing, operations_finish]

theorem owing_call (w : World) (op : Nat) (k : Call) (p : Point) (n : Nat) :
    (w.call op k p).owing n ≤ w.owing n + p.due?.toList.count n := by
  show ((op, p) :: w.operations.filter (·.1 != op)).countP _ ≤ _
  rw [countP_move w.operations op Point.due?]
  exact Nat.add_le_add_right (w.owing_strike op n) _

/-! ## What is told -/

theorem tidings_finish (w : World) (op : Nat) (o : Outcome) : (w.finish op o).tidings = w.tidings := by
  rw [tidings, history_finish]
  rfl

theorem tidings_scheduleRenewal (w : World) (g : Grant) : (w.scheduleRenewal g).tidings = w.tidings := by
  obtain ⟨_, _, _, _, h⟩ := w.scheduleRenewal_eq g
  rw [h]
  rfl

theorem tidings_retries (w : World) (g : Grant) (f : Fault) : (w.retries g f).tidings = w.tidings := by
  obtain ⟨_, _, _, _, h⟩ := w.retries_eq g f
  rw [h]
  rfl

/-! ## Parts of a step -/

/-- On the way from `w` to `u` nothing has been told. -/
structure Hushed (w u : World) : Prop where
  current : u.current = w.current ∨ u.current = none
  tidings : u.tidings = w.tidings
  owing : ∀ n, u.owing n ≤ w.owing n

namespace Hushed

theorem refl (w : World) : Hushed w w := ⟨.inl rfl, rfl, fun _ => Nat.le_refl _⟩

/-- A change that tells nothing and leaves grants and operations alone. -/
theorem same (h : Hushed w u) (hc : v.current = u.current) (ht : v.tidings = u.tidings)
    (ho : v.operations = u.operations) : Hushed w v where
  current := hc ▸ h.current
  tidings := ht.trans h.tidings
  owing n := Nat.le_trans (Nat.le_of_eq (by rw [World.owing, ho, World.owing])) (h.owing n)

theorem clear (h : Hushed w u) : Hushed w (u.install none) := ⟨.inr rfl, h.tidings, h.owing⟩

theorem cancelTask (h : Hushed w u) : Hushed w u.cancelTask := ⟨h.current, h.tidings, h.owing⟩

theorem stake (h : Hushed w u) (n : Nat) : u.stake n ≤ w.stake n := by
  refine Nat.add_le_add ?_ (h.owing n)
  rcases h.current with hc | hc
  · exact Nat.le_of_eq (by rw [hc])
  · rw [hc]
    exact Nat.zero_le _

theorem fate (h : Hushed w u) : Fate w m u :=
  .quiet h.current h.tidings fun n => Nat.le_trans (h.stake n) (Nat.le_add_right _ _)

/-- The end of the installed grant is told when it has been taken away. -/
theorem parts (h : Hushed w u) {g : Grant} (hg : w.isCurrent g = true)
    (hc : v.current = none) (ht : v.tidings = (.loginTokenExpired g, none) :: u.tidings)
    (ho : v.operations = u.operations) : Fate w m v := by
  refine .parts (g := g) rfl (.inr hc) (by rw [ht, h.tidings, hc]) fun n => ?_
  obtain ⟨i, hi, hs⟩ := isCurrent_iff.mp hg
  have := h.owing n
  simp only [World.stake, hc, hi, Option.toList, List.map_cons, List.map_nil, hs, List.count_nil]
  rw [World.owing, ho, ← World.owing]
  omega

end Hushed

namespace Fate

/-- A change that leaves what was told, the installed grant and the numbers alone. -/
theorem congr (h : Fate w m u) (hc : v.current = u.current) (ht : v.tidings = u.tidings)
    (hn : v.nextGrant = u.nextGrant) (ho : ∀ n, v.owing n ≤ u.owing n) : Fate w m v := by
  have hs : ∀ n, v.stake n ≤ u.stake n := fun n => by
    rw [World.stake, hc]
    exact Nat.add_le_add_left (ho n) _
  have hf : ∀ n, w.fresh v n = w.fresh u n := fun n => by rw [fresh, hn, fresh]
  cases h with
  | quiet hcur htid hst =>
    exact .quiet (hc ▸ hcur) (ht.trans htid) fun n => Nat.le_trans (hs n) (hf n ▸ hst n)
  | parts he hcur htid hst =>
    refine .parts he (hc ▸ hcur) (by rw [ht, htid, hc]) fun n => ?_
    exact Nat.le_trans (Nat.add_le_add_right (hs n) _) (hf n ▸ hst n)
  | arrives ha hcur hlt how =>
    refine .arrives ?_ (hc.trans hcur) (hn ▸ hlt) fun n => Nat.le_trans (ho n) (how n)
    cases ha with
    | created hfin htid => exact .created hfin (ht.trans htid)
    | renewed hp hm hcu htid => exact .renewed hp hm hcu (ht.trans htid)

theorem finish (h : Fate w m u) (o : Outcome) : Fate w m (u.finish op o) :=
  h.congr (current_finish ..) (tidings_finish ..) (nextGrant_finish ..) fun n => by
    rw [owing_finish]
    exact u.owing_strike op n

theorem endLogin (h : Fate w m u) (purpose : Purpose) (r : Except Fault Grant) :
    Fate w m (u.endLogin op purpose r) := by
  rw [endLogin_eq]
  refine finish (h.congr ?_ ?_ ?_ fun _ => Nat.le_of_eq ?_) _ <;> rfl

/-- An operation calls the server that gives nothing back by it. -/
theorem call (h : Fate w m u) (k : Call) {p : Point} (hp : p.due? = none) :
    Fate w m (u.call op k p) := by
  refine h.congr ?_ ?_ ?_ fun n => ?_
  · rfl
  · rfl
  · rfl
  · exact Nat.le_trans (u.owing_call op k p n) (by rw [hp]; exact Nat.le_refl _)

/-- A grant that has just arrived is installed and told of. -/
theorem installs {c : Credential} {e : Grant → SessionEvent} (h : Hushed w u)
    (hn : u.nextGrant = w.nextGrant)
    (ha : ∀ v, v.tidings = (e ⟨w.nextGrant, c⟩, some ⟨w.nextGrant, c⟩) :: w.tidings →
      w.Arrives m ⟨w.nextGrant, c⟩ v)
    (he : ∀ g i, Happening.tiding? (.published (e g) i) = some (e g, i)) :
    Fate w m (u.installs c e) := by
  refine .arrives (c := c) (ha _ ?_) ?_ ?_ fun n => ?_
  · rw [World.installs, tidings_scheduleRenewal, ← hn, ← h.tidings]
    show List.filterMap Happening.tiding? (.published _ _ :: u.history) = _
    rw [List.filterMap_cons_some (he _ _)]
    rfl
  · rw [current_installs, hn]
  · rw [nextGrant_installs, hn]
    exact Nat.lt_succ_self _
  · rw [World.owing, operations_installs]
    exact h.owing n

/-! ## Every turn has such a fate -/

theorem of_dropExpired (h : Hushed w u) (hc : u.current = w.current) (hu : u.usable? = none) :
    Fate w m u.dropExpired := by
  cases hg : u.current with
  | none =>
    have hd : u.dropExpired = u := by rw [World.dropExpired, hg]
    rw [hd]
    exact h.fate
  | some g =>
    have hd : u.dropExpired = ((u.install none).cancelTask).publish (.loginTokenExpired g) := by
      rw [World.dropExpired, hg]
      exact if_pos (expired_of_usable? hu hg)
    rw [hd]
    exact h.parts (isCurrent_of_installed (hc ▸ hg)) rfl rfl rfl

theorem of_acquires {purpose : Purpose} (h : Hushed w u) (hc : u.current = w.current ∨ u.current = none)
    (ha : Acquires u op purpose v) : Fate w m v := by
  cases ha with
  | shut | found => exact h.fate.finish _
  | starts _ hu _ =>
    have hl : Hushed w { u with lock := [op] } := h.same rfl rfl rfl
    refine call ?_ _ rfl
    rcases hc with hc | hc
    · exact of_dropExpired hl hc hu
    · have hd : ({ u with lock := [op] } : World).dropExpired = { u with lock := [op] } := by
        rw [World.dropExpired, show ({ u with lock := [op] } : World).current = none from hc]
      rw [hd]
      exact hl.fate
  | waits _ _ _ =>
    refine h.fate.congr rfl rfl rfl fun n => ?_
    exact u.owing_call op .login (.queued u.loginsDone purpose) n

theorem of_enters {observed : Nat} {purpose : Purpose} (he : Enters w op observed purpose v) :
    Fate w m v := by
  have hu : Hushed w (w.unlock op) := (Hushed.refl w).same rfl rfl rfl
  have h : Fate w m (w.unlock op) := hu.fate
  cases he with
  | shut | found | shared => exact h.finish _
  | starts _ hu _ => exact (of_dropExpired (.refl w) rfl hu).call _ rfl

theorem of_welcomes {purpose : Purpose} {c : Credential} (h : Hushed w u)
    (hn : u.nextGrant = w.nextGrant) (hd : u.destroyed = w.destroyed)
    (hf : w.finishes? m = w.delivers? op c) (hw : Welcomes u op purpose c v) : Fate w m v := by
  cases hw with
  | late _ _ =>
    refine .quiet h.current h.tidings fun n => ?_
    have ho := u.minted.owing_call op (.revoke ⟨u.nextGrant, c⟩) (.discarding purpose ⟨u.nextGrant, c⟩) n
    have hs := h.stake n
    have hone : [u.nextGrant].count n ≤ w.fresh (u.minted.call op (.revoke ⟨u.nextGrant, c⟩)
        (.discarding purpose ⟨u.nextGrant, c⟩)) n := by
      unfold fresh
      by_cases he : u.nextGrant = n
      · rw [if_pos ⟨he ▸ hn, hn ▸ Nat.lt_succ_self _⟩, ← he]
        simp
      · simp [he]
    exact Nat.le_trans (Nat.add_le_add_left ho _)
      (Nat.le_trans (Nat.le_of_eq (Nat.add_assoc ..).symm) (Nat.add_le_add hs hone))
  | dropped _ _ => exact (h.same rfl rfl rfl : Hushed w u.minted).fate.endLogin ..
  | installed hs =>
    have hf' : w.finishes? m = some (op, .ok ⟨w.nextGrant, c⟩) := by
      rw [hf, delivers?, if_neg (by simp [← hd, hs])]
    exact (installs h hn (fun v hv => .created hf' hv) fun _ _ => rfl).endLogin ..

theorem of_takes (h : Hushed w u) (hc : u.current = w.current) (ht : Takes u op v) : Fate w m v := by
  cases ht with
  | quiet _ => exact h.cancelTask.clear.fate.finish _
  | @sends g hg _ =>
    refine .quiet (.inr rfl) h.tidings fun n => ?_
    have ho := (u.cancelTask.install none).owing_call op (.revoke g) (.revoking g) n
    have hs := h.owing n
    have hw : w.stake n = [g.serial].count n + w.owing n := by rw [World.stake, ← hc, hg]; rfl
    rw [hw]
    change 0 + World.owing _ n ≤ _
    change _ ≤ u.owing n + [g.serial].count n at ho
    omega

theorem of_loses {g : Grant} (h : Hushed w u) (hc : u.current = w.current) (hl : Loses u op g v) :
    Fate w m v := by
  cases hl with
  | superseded _ => exact h.fate.finish _
  | again _ _ ha => exact of_acquires h.clear.cancelTask (.inr rfl) ha
  | ended hg _ =>
    rw [isCurrent, hc] at hg
    exact (h.clear.cancelTask.parts (v := ((u.install none).cancelTask).publish (.loginTokenExpired g))
      hg rfl rfl rfl).finish _

theorem hushed_told (w : World) (g : Grant) (f : Fault) : Hushed w (w.told g f) :=
  (Hushed.refl w).same rfl rfl rfl

theorem of_renews {g : Grant} {since : Instant} {r : Except Fault Credential} (hd : w.Distinct)
    (hp : w.point? op = some (.renewing g since)) (hr : Renews w op g r v) :
    Fate w (.answer op (.renewal r)) v := by
  have hg : Hushed w w.granted := (Hushed.refl w).same rfl rfl rfl
  have hm : Hushed w w.granted.minted := hg.same rfl rfl rfl
  cases hr with
  | discarded _ => exact (Hushed.refl w).fate.finish _
  | superseded _ _ => exact hm.fate.finish _
  | @brief c _ hc _ =>
    -- The new grant has come and gone: its end is told, and it was never installed.
    refine finish (.parts (e := .loginTokenExpired ⟨w.nextGrant, c⟩) (g := ⟨w.nextGrant, c⟩) rfl
      (.inr rfl) rfl fun n => ?_) _
    have hone : [w.nextGrant].count n ≤ w.fresh (((w.granted.minted.install none).cancelTask).publish
        (.loginTokenExpired ⟨w.nextGrant, c⟩)) n := by
      unfold fresh
      by_cases he : w.nextGrant = n
      · rw [if_pos ⟨he.symm, Nat.lt_succ_self _⟩, ← he]
        simp
      · simp [he]
    exact Nat.add_le_add (hm.clear.cancelTask.stake n) hone
  | @renewed c _ hc _ =>
    have hcur : w.current = some g := hd.installed (.inr (.inl ⟨op, since, hp⟩)) hc
    exact (installs hg rfl (fun v hv => .renewed hp rfl hcur hv) fun _ _ => rfl).finish _
  | @retried f _ _ _ =>
    have ht : Hushed w (w.retries g f) :=
      (Hushed.refl w).same (current_retries ..) (tidings_retries ..) (operations_retries ..)
    exact ht.fate.finish _
  | @tooLate f _ _ _ _ hl =>
    obtain ⟨t, n, he⟩ := (w.told g f).snd_renewalDelay g.credential
    rw [he] at hl
    have ht : Hushed w { w.told g f with trigger := t, drawn := n } :=
      (hushed_told w g f).same rfl rfl rfl
    exact of_loses ht rfl hl
  | failed _ _ hl => exact of_loses (hushed_told w g _) rfl hl

/-- Telling how giving a grant back went, at the end of the operation that did. -/
theorem of_tellRevocation {p : Point} {g : Grant} (hp : w.point? op = some p)
    (hd : p.due? = some g.serial) (r : Except Fault Unit) (o : Outcome) :
    Fate w m ((w.tellRevocation g r).finish op o) := by
  cases r with
  | ok _ =>
    refine .parts (e := .revoked g) rfl (.inl (current_finish ..)) ?_ fun n => ?_
    · rw [tidings_finish, current_finish]
      rfl
    · have ho := owing_strike_point hp n
      rw [hd] at ho
      rw [World.stake, current_finish, owing_finish, World.stake, Nat.add_assoc, Nat.add_assoc]
      exact Nat.add_le_add_left (Nat.le_trans ho (Nat.le_add_right _ _)) _
  | error f =>
    have h : Hushed w (w.publish (.failed f (some g))) :=
      (Hushed.refl w).same rfl rfl rfl
    exact h.fate.finish _

theorem of_turn (hd : w.Distinct) (ht : Turn w m v) : Fate w m v := by
  have hn : Hushed w w.enrolled := (Hushed.refl w).same rfl rfl rfl
  have hfires : ∀ {s}, Hushed w ({ w with schedule := s } : World).enrolled :=
    (Hushed.refl w).same rfl rfl rfl
  have hstill : ∀ {u : World}, u.current = w.current → u.history = w.history →
      u.operations = w.operations → Fate w m u := fun hc hh ho =>
    ((Hushed.refl w).same hc (by rw [tidings, hh, tidings]) ho).fate
  cases ht with
  | token _ ha => exact of_acquires hn (.inl rfl) ha
  | revoke _ hk => exact of_takes hn rfl hk
  | destroyAgain _ _ => exact hn.fate.finish _
  | destroy _ _ hk =>
    have hs : Hushed w { w.enrolled with destroyed := true } := hn.same rfl rfl rfl
    exact of_takes hs rfl hk
  | orphan _ _ => exact hstill rfl rfl rfl
  | stale _ _ _ => exact hfires.fate.finish _
  | renew _ _ _ _ _ => exact hfires.fate.call _ rfl
  | @expire _ t s g _ _ _ _ hc =>
    let u := (({ w with schedule := s } : World).enrolled).install none
    have hu : Hushed w u := hfires.clear
    exact (hu.parts (v := u.publish (.loginTokenExpired g)) hc rfl rfl rfl).finish _
  | enter _ _ he => exact of_enters he
  | @loginFailed _ _ since f _ =>
    have h : Hushed w ((w.timed false since).publish (.failed f none)) :=
      (Hushed.refl w).same rfl rfl rfl
    exact h.fate.endLogin ..
  | @looksUp _ _ since _ _ _ =>
    have h : Hushed w (w.timed true since) := (Hushed.refl w).same rfl rfl rfl
    exact h.fate.call _ rfl
  | @welcome _ _ since c _ hp hl hw =>
    have h : Hushed w (w.timed true since) := (Hushed.refl w).same rfl rfl rfl
    refine of_welcomes h rfl rfl ?_ hw
    simp only [finishes?, hp, hl, Bool.false_eq_true, if_false]
  | lookedUp hp hw | notLookedUp hp hw =>
    exact of_welcomes (.refl w) rfl rfl (by simp only [finishes?, hp]) hw
  | @discarded op purpose g r hp =>
    rw [endLogin_eq]
    -- Ending a login is ending its operation, the lock and what is remembered of logins apart.
    have h := of_tellRevocation (m := .answer op (.revocation r)) hp rfl r
      (purpose.outcome (.error .destroyed))
    refine h.congr ?_ ?_ ?_ fun n => Nat.le_of_eq ?_
    · rw [current_finish, current_finish]
      rfl
    · rw [tidings_finish, tidings_finish]
      rfl
    · rw [nextGrant_finish, nextGrant_finish]
      rfl
    · rw [owing_finish, owing_finish]
      rfl
  | renewed hp hr => exact of_renews hd hp hr
  | revoked hp => exact of_tellRevocation hp rfl _ _
  | @abandon op _ _ =>
    refine (Hushed.refl w).fate.congr (current_reap _) ?_ (nextGrant_reap _) fun n => ?_
    · rw [tidings, history_reap]
      rfl
    · rw [World.owing, operations_reap]
      exact w.owing_strike op n
  | release => exact hstill (current_reap _) (history_reap _) (operations_reap _)
  | elapse | stop | listen | unlisten => exact hstill rfl rfl rfl

end Fate

end World

end Session

end LeaseKeeper
