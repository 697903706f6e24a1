import LeaseKeeper.Proofs.Leases.Joining
import LeaseKeeper.Proofs.Leases.Upkeep

/-!
# Letting a lease engine go

When the last holder of a lease engine lets go, its tasks do not keep it: as soon as no operation is
under way, the tasks of all registered secrets are cancelled (`Idle`), which are all there are
(`Sound.working`), and nothing ever happens in the engine again (`silent_of_run`). Operations that are
under way go on as before. Who waits for removals to end waits for some that are under way
(`Awaited`), and who waits for an entry waits for its holder; so one operation can always be resumed
(`exists_resumable`), and each of them only three times (`rounds_of_run`).
-/

namespace LeaseKeeper.Leases

namespace Point

/-- How often an operation that stands at a point is resumed yet, at most: it is handed the entry, its
renewal fails, and its secret is fetched again. Who waits for removals is told of their end. -/
def rounds : Point → Nat
  | registering _ => 3
  | opening _ _ => 3
  | queued _ (.act _ _) => 3
  | queued _ _ => 2
  | renewing _ _ _ => 2
  | rotating _ _ _ => 1
  | revoking _ _ _ => 1
  | joining _ => 0

theorem rounds_le (p : Point) : p.rounds ≤ 3 := by
  cases p with
  | queued _ errand => cases errand <;> simp [rounds]
  | _ => simp [rounds]

theorem rounds_pos (p : Point) (h : p.isJoining = false) : 0 < p.rounds := by
  cases p with
  | joining _ => cases h
  | queued _ errand => cases errand <;> exact Nat.succ_pos _
  | _ => exact Nat.succ_pos _

/-- Whether the server answers in that way to an operation that stands there. -/
def accepts : Point → Reply → Bool
  | registering _, .fetched _ => true
  | rotating _ _ _, .fetched _ => true
  | renewing _ _ _, .renewal _ => true
  | revoking _ _ _, .revocation _ => true
  | _, _ => false

/-- Whether a move resumes an operation that stands at a point: it is handed the lock of the entry,
the removal begins, or its call is answered. -/
def isResumedBy (p : Point) (op : Nat) (m : Move) : Bool :=
  match p, m with
  | queued _ _, .enter a => a == op
  | opening _ _, .openNext a => a == op
  | q, .answer a r => a == op && q.accepts r
  | _, _ => false

end Point

/-- Whether a move resumes that operation. -/
def Move.resumes (op : Nat) (m : Move) : Bool := m.mover? == some op

namespace World

/-- How often that operation is resumed yet, at most. -/
def roundsOf (w : World) (op : Nat) : Nat :=
  if op < w.nextOperation then (w.point? op).elim 0 Point.rounds else 3

/-- In an engine that nobody holds, the tasks of registered secrets are cancelled. -/
structure Idle (w : World) : Prop where
  slots : w.isAlive = false → ∀ h e, w.registered? h = some e → e.slot = none

/-- Who waits for removals waits for as many as are under way for it, at most. -/
structure Awaited (w : World) : Prop where
  children : ∀ parent n, w.point? parent = some (.joining n) → 0 < n ∧ ∃ l : List Nat, l.Nodup ∧
    n ≤ l.length ∧ ∀ a ∈ l, ∃ q, w.point? a = some q ∧ q.parent? = some parent

/-- The operation can be resumed less than `n` times yet, if it is still under way. -/
structure Nears (w : World) (op n : Nat) : Prop where
  fewer : ∀ q, w.point? op = some q → q.rounds < n

variable {w u v w' : World} {m : Move} {op a n : Nat} {h : Handle} {e : Entry} {q : Point}
  {ns : List Move}

/-! ## Nobody holds it -/

theorem held_release (w : World) : w.release.held = false := by
  obtain ⟨_, _, he, -⟩ := reap_eq { w with held := false }
  rw [show w.release = _ from he]

theorem operations_release (w : World) : w.release.operations = w.operations := by
  obtain ⟨_, _, he, -⟩ := reap_eq { w with held := false }
  rw [show w.release = _ from he]

theorem find_cancelTask (w : World) (k h : Handle) : World.entry? (w.cancelTask k) h =
    if h = k then (w.entry? h).map fun e => { e with slot := none } else w.entry? h := by
  unfold World.cancelTask
  split
  · rename_i hn
    split
    · rename_i hk
      rw [hk, hn]
      rfl
    · rfl
  · exact find_modify _ k (fun e => { e with slot := none }) (fun _ => rfl) h

theorem find_cancelTasks (w : World) (ks : List Handle) (h : Handle) :
    World.entry? (ks.foldl World.cancelTask w) h =
      if h ∈ ks then (w.entry? h).map fun e => { e with slot := none } else w.entry? h := by
  induction ks generalizing w with
  | nil => rfl
  | cons k ks ih =>
    rw [List.foldl_cons, ih, find_cancelTask]
    by_cases hk : h = k <;> by_cases hm : h ∈ ks <;> simp [hk, hm, Function.comp_def]

theorem idle_reap (w : World) : w.reap.Idle := by
  refine ⟨fun ha h e hr => ?_⟩
  rw [isAlive_reap] at ha
  obtain ⟨he, hs⟩ := Option.filter_eq_some_iff.mp hr
  rw [show w.reap = w.handles.foldl World.cancelTask w from if_neg (by rw [ha]; decide),
    find_cancelTasks] at he
  split at he
  · obtain ⟨f, -, rfl⟩ := Option.map_eq_some_iff.mp he
    rfl
  · rename_i hno
    exact absurd (mem_handles (face?_some he) (beq_iff_eq.mp hs)) hno

/-- In an engine that nobody holds no task is left. -/
theorem Idle.live (hi : w.Idle) (hw : Sound w) (ha : w.isAlive = false) : w.schedule.live = [] := by
  refine List.eq_nil_iff_forall_not_mem.mpr fun t ht => ?_
  obtain ⟨e, he, hs⟩ := hw.booked.slot_live t ht
  have hst := hw.working t ht _ (face?_some he)
  cases (hi.slots ha _ e (Option.filter_eq_some_iff.mpr ⟨he, beq_iff_eq.mpr hst⟩)).symm.trans hs

theorem idle_finish (w : World) (op : Nat) (o : Outcome) : (w.finish op o).Idle := idle_reap _

theorem idle_childEnded (hw : w.Idle) (parent : Nat) : (w.childEnded parent).Idle := by
  unfold childEnded
  split
  · split
    · exact idle_finish ..
    · exact ⟨fun h => by simp [isAlive, setPoint] at h⟩
  · exact hw

/-- Where an operation is under way, the engine is held. -/
theorem idle_of_point? (hq : w.point? op = some q) : w.Idle :=
  ⟨fun ha => by cases ha.symm.trans (isAlive_of_point? hq)⟩

theorem dead_of_turn (hd : w.isAlive = false) (ht : Turn w m w') : w'.isAlive = false :=
  Bool.eq_false_iff.mpr fun ha => by cases hd.symm.trans (alive_of_turn ht ha)

/-- Nothing happens in an engine that nobody holds. -/
theorem quiet_of_dead (hd : w.isAlive = false) (ht : Turn w m w') :
    w'.history = w.history ∧ (w.Idle → w'.Idle) := by
  have hno : ∀ {P : Prop}, w.isAlive = true → P := fun ha => by cases hd.symm.trans ha
  cases ht with
  | begins hh => exact hno (isAlive_iff.mpr (.inl hh))
  | @runs _ t s _ =>
    have ha : ¬ ({ w with schedule := s } : World).isAlive = true := fun ha => hno ha
    rw [World.run, if_neg ha]
    exact ⟨rfl, fun h => ⟨h.slots⟩⟩
  | enters hq _ _ => exact hno (isAlive_of_point? hq)
  | opens hq => exact hno (isAlive_of_point? hq)
  | fetchedFirst hq => exact hno (isAlive_of_point? hq)
  | fetchedAgain hq => exact hno (isAlive_of_point? hq)
  | renewed hq => exact hno (isAlive_of_point? hq)
  | revoked hq => exact hno (isAlive_of_point? hq)
  | releases => exact ⟨history_reap _, fun _ => idle_reap _⟩
  | elapses | stops | listens | unlistens => exact ⟨rfl, fun h => ⟨h.slots⟩⟩

/-- Whoever ends an operation sees to the tasks. -/
theorem Idle.turn (h : w.Idle) (hw : Sound w) (ht : Turn w m w') : w'.Idle := by
  by_cases hd : w.isAlive = true
  · by_cases hm : m = .release
    · subst hm
      cases ht with
      | runs hf => cases hf
      | releases => exact idle_reap _
    · cases motion_of_turn hw hm ht with
      | rests _ hs =>
        refine ⟨fun ha => ?_⟩
        rw [isAlive, hs.held, hs.operations] at ha
        cases hd.symm.trans ha
      | ends _ he => exact he ▸ idle_finish ..
      | @moves u op q _ _ hs =>
        exact idle_of_point? ((hs.point? op).trans ((point?_setPoint ..).trans (if_pos rfl)))
      | tells _ he => exact he ▸ idle_childEnded (idle_finish ..) _
      | shuts _ _ he =>
        obtain ⟨-, -, -, -, hj, -⟩ := enrolled_removals hw _
        exact he ▸ idle_of_point? hj
      | shutsBare _ _ he => exact he ▸ idle_finish ..
  · exact (quiet_of_dead (Bool.not_eq_true _ ▸ hd) ht).2 h

/-! ## Who is waited for -/

theorem point?_enrollRemovals (parent : Nat) (ks : List Handle) (u : World) (i : Nat)
    (hi : i < ks.length) : ∃ k, (ks.foldl (enrollRemoval parent) u).point? (u.nextOperation + i) =
      some (.opening k parent) := by
  induction ks generalizing u i with
  | nil => cases hi
  | cons k ks ih =>
    rw [List.foldl_cons]
    cases i with
    | zero =>
      obtain ⟨ps, n, heq, -, hold, -⟩ := foldl_enrollRemoval parent ks (enrollRemoval parent u k)
      refine ⟨k, ?_⟩
      rw [heq]
      exact (hold _ (Nat.lt_succ_self _)).trans ((point?_setPoint ..).trans (if_pos rfl))
    | succ i =>
      obtain ⟨k', hk⟩ := ih (enrollRemoval parent u k) i (Nat.lt_of_succ_lt_succ hi)
      refine ⟨k', ?_⟩
      rw [← hk]
      congr 1
      show u.nextOperation + (i + 1) = u.nextOperation + 1 + i
      omega

/-- Room is made for as many removals as are waited for. -/
theorem awaited_shuts (hw : Sound w) (ha : w.Awaited) {hs : List Handle} (hne : hs ≠ []) :
    (hs.foldl (enrollRemoval w.nextOperation)
      (({ w.enroll.2 with destroyed := true } : World).setPoint w.nextOperation
        (.joining hs.length))).Awaited := by
  have hopen := point?_enrollRemovals w.nextOperation hs
    (({ w.enroll.2 with destroyed := true } : World).setPoint w.nextOperation (.joining hs.length))
  obtain ⟨-, -, -, -, hjoin, hold, hnew⟩ := enrolled_removals hw hs
  generalize hs.foldl _ _ = v at *
  refine ⟨fun parent n hq => ?_⟩
  rcases Nat.lt_trichotomy parent w.nextOperation with hlt | rfl | hgt
  · obtain ⟨hpos, l, hnd, hlen, hl⟩ := ha.children parent n ((hold parent hlt).symm.trans hq)
    refine ⟨hpos, l, hnd, hlen, fun a hm => ?_⟩
    obtain ⟨q, hqa, hp⟩ := hl a hm
    exact ⟨q, (hold a (hw.fresh a q hqa)).trans hqa, hp⟩
  · cases hq.symm.trans hjoin
    refine ⟨List.length_pos_iff.mpr hne, (List.range hs.length).map (w.nextOperation + 1 + ·), ?_,
      by simp, fun a hm => ?_⟩
    · exact List.nodup_range.map fun _ _ => Nat.add_left_cancel
    · obtain ⟨i, hi, rfl⟩ := List.mem_map.mp hm
      obtain ⟨k, hk⟩ := hopen i (List.mem_range.mp hi)
      exact ⟨_, hk, rfl⟩
  · obtain ⟨k, hk⟩ := hnew parent _ hgt hq
    cases hk

/-- Nobody is waited for by another than before. -/
theorem Awaited.same (ha : w.Awaited) (hp : ∀ a, u.point? a = w.point? a) : u.Awaited :=
  ⟨fun parent n hq => by
    simp only [hp] at hq ⊢
    exact ha.children parent n hq⟩

theorem Awaited.destroy (ha : w.Awaited) (hw : Sound w) :
    (w.enroll.2.destroy w.nextOperation).Awaited := by
  have hends : ∀ {v : World} (o : Outcome), v.operations = w.operations →
      (v.finish w.nextOperation o).Awaited := fun {v} o hv => ha.same fun a => by
    rw [point?_finish]
    split
    · rename_i he
      rw [he, hw.point?_next]
    · rw [World.point?, hv, World.point?]
  show World.Awaited (ite (w.destroyed = true) _ _)
  split
  · exact hends _ rfl
  dsimp only
  split
  · exact hends _ rfl
  · rename_i hne
    exact awaited_shuts hw ha hne

/-- Who is to move is waited for by one shutdown at most. -/
theorem Turning.parent_of_point? {parent? : Option Nat} (hw : Sound w) (ht : Turning w m op parent? u)
    (hq : w.point? op = some q) : q.parent? = parent? := by
  obtain ⟨rfl, -, -⟩ | ⟨r, hr, -, hp, -⟩ := ht.stands
  · cases hw.point?_next.symm.trans hq
  · cases hq.symm.trans hr
    exact hp

theorem Awaited.turn (ha : w.Awaited) (hw : Sound w) (ht : Turn w m w') : w'.Awaited := by
  by_cases hrel : m = .release
  · subst hrel
    cases ht with
    | runs hf => cases hf
    | releases => exact ha.same fun a => congrArg (List.lookup a) (operations_release w)
  by_cases hdest : m = .begin .destroy
  · subst hdest
    cases ht with
    | begins _ => exact ha.destroy hw
    | runs hf => cases hf
  cases motion_of_turn hw hrel ht with
  | rests _ hs => exact ha.same hs.point?
  | shuts hm _ _ | shutsBare hm _ _ => exact absurd hm hdest
  | @ends u op o hk he =>
    subst he
    refine ⟨fun parent n hq => ?_⟩
    simp only [point?_finish, hk.still.point?] at hq ⊢
    split at hq
    · cases hq
    obtain ⟨hpos, l, hnd, hlen, hl⟩ := ha.children parent n hq
    refine ⟨hpos, l, hnd, hlen, fun a hm => ?_⟩
    obtain ⟨q, hqa, hp⟩ := hl a hm
    have hao : a ≠ op := by
      rintro rfl
      cases hp.symm.trans (hk.parent_of_point? hw hqa)
    exact ⟨q, by rw [if_neg hao, hqa], hp⟩
  | @moves u op q₀ hk hq₀ hs =>
    refine ⟨fun parent n hq => ?_⟩
    simp only [hs.point?, point?_setPoint, hk.still.point?] at hq ⊢
    split at hq
    · cases hq
      cases hq₀.stays
    obtain ⟨hpos, l, hnd, hlen, hl⟩ := ha.children parent n hq
    refine ⟨hpos, l, hnd, hlen, fun a hm => ?_⟩
    obtain ⟨q, hqa, hp⟩ := hl a hm
    by_cases hao : a = op
    · subst hao
      exact ⟨q₀, if_pos rfl, (hk.parent_of_point? hw hqa).symm.trans hp⟩
    · exact ⟨q, by rw [if_neg hao, hqa], hp⟩
  | @tells u op told o hk he =>
    subst he
    -- Only who is told waits for one less, and the one that has ended is not among the others.
    refine ⟨fun parent n hq => ?_⟩
    have hleft : ∀ {l : List Nat}, l.Nodup → (∀ a ∈ l, ∃ q, w.point? a = some q ∧
        q.parent? = some parent) → ∀ a ∈ l.erase op, ∃ q,
          ((u.finish op o).childEnded told).point? a = some q ∧ q.parent? = some parent :=
      fun {l} hnd hl a hm => by
        obtain ⟨hao, hm⟩ := (hnd.mem_erase_iff).mp hm
        obtain ⟨q, hqa, hp⟩ := hl a hm
        refine ⟨q, (point?_childEnded_of_ne _ _ (by cases q <;> first | rfl | cases hp)).mpr ?_, hp⟩
        rw [point?_finish, if_neg hao, hk.still.point?, hqa]
    rw [point?_childEnded] at hq
    split at hq
    · rename_i he
      subst he
      obtain ⟨q, hq', htold⟩ := Option.bind_eq_some_iff.mp hq
      rw [point?_finish, hk.still.point?] at hq'
      split at hq'
      · cases hq'
      cases q with
      | joining left =>
        simp only [Point.told, Option.ite_none_left_eq_some, Option.some.injEq, Point.joining.injEq] at htold
        obtain ⟨hgt, rfl⟩ := htold
        obtain ⟨hpos, l, hnd, hlen, hl⟩ := ha.children parent left hq'
        refine ⟨by omega, l.erase op, hnd.erase op, ?_, hleft hnd hl⟩
        have := List.le_length_erase (l := l) (a := op)
        omega
      | _ => cases htold
    · rename_i hne
      rw [point?_finish, hk.still.point?] at hq
      split at hq
      · cases hq
      obtain ⟨hpos, l, hnd, hlen, hl⟩ := ha.children parent n hq
      refine ⟨hpos, l.erase op, hnd.erase op, ?_, hleft hnd hl⟩
      rwa [List.erase_of_not_mem fun hm => ?_]
      obtain ⟨q, hqa, hp⟩ := hl op hm
      exact hne (Option.some.inj (hp.symm.trans (hk.parent_of_point? hw hqa)))

/-! ## Rounds of an operation -/

section nears

variable (u : World)

theorem nears_finish (op : Nat) (o : Outcome) (n : Nat) : (u.finish op o).Nears op n where
  fewer q hq := by
    rw [point?_finish, if_pos rfl] at hq
    cases hq

theorem nears_setPoint (op : Nat) (hn : q.rounds < n) : (u.setPoint op q).Nears op n where
  fewer r hr := by
    rw [point?_setPoint, if_pos rfl] at hr
    cases hr
    exact hn

theorem nears_call (op : Nat) (h : Handle) (c : Call) (hn : q.rounds < n) :
    (u.call op h c q).Nears op n :=
  ⟨(nears_setPoint u op hn).fewer⟩

theorem nears_endRemoval (op : Nat) (remover : Remover) (found : Bool) (n : Nat) :
    (u.endRemoval op remover found).Nears op n := by
  cases remover with
  | caller | registration => exact nears_finish ..
  | shutdown parent =>
    refine ⟨fun q hq => ?_⟩
    have hgone : (u.finish op (.removed found)).point? op = none :=
      (point?_finish ..).trans (if_pos rfl)
    change ((u.finish op (.removed found)).childEnded parent).point? op = some q at hq
    rw [point?_childEnded] at hq
    split at hq
    · rename_i he
      rw [← he, hgone] at hq
      cases hq
    · cases hgone.symm.trans hq

theorem nears_takeOut (op : Nat) (e : Entry) (remover : Remover) (hn : 1 < n) :
    (u.takeOut op e remover).Nears op n := by
  unfold World.takeOut
  dsimp only
  split
  · exact nears_endRemoval ..
  · split
    · exact nears_call _ _ _ _ hn
    · exact nears_endRemoval ..

theorem nears_remove (op : Nat) (h : Handle) (remover : Remover) (hn : 2 < n) :
    (u.remove op h remover).Nears op n := by
  unfold World.remove
  split
  · exact nears_endRemoval ..
  · dsimp only
    split
    · exact nears_takeOut _ _ _ _ (Nat.lt_of_succ_lt hn)
    · exact nears_setPoint _ _ hn

theorem nears_expire (op : Nat) (e : Entry) (s : Snapshot) (hn : 1 < n) :
    (u.expire op e s).Nears op n := by
  unfold World.expire
  dsimp only
  split
  · exact nears_call _ _ _ _ hn
  · exact nears_finish ..

theorem nears_afterFailure (op : Nat) (e : Entry) (s : Snapshot) (f : Fault) (hn : 1 < n) :
    (u.afterFailure op e s f).Nears op n := by
  unfold World.afterFailure
  dsimp only
  split
  · split
    · split
      · exact nears_finish ..
      · exact nears_expire _ _ _ _ hn
    · exact nears_expire _ _ _ _ hn
  · exact nears_expire _ _ _ _ hn

theorem nears_register (op : Nat) (e : Entry) (s : Option Snapshot) (tell : World → World)
    (hn : 2 < n) : (u.register op e s tell).Nears op n := by
  unfold World.register
  dsimp only
  split
  · exact nears_remove _ _ _ _ hn
  · exact nears_finish ..

theorem nears_withLock (op : Nat) (e : Entry) (h : Handle) (errand : Errand) :
    (u.withLock op e errand).Nears op (Point.queued h errand).rounds := by
  cases errand with
  | act s action =>
    unfold World.withLock
    dsimp only
    split
    · cases action with
      | renew => exact nears_call _ _ _ _ (Nat.lt_succ_self 2)
      | expire => exact nears_expire _ _ _ _ (Nat.lt_of_succ_lt (Nat.lt_succ_self 2))
    · exact nears_finish ..
  | rotate =>
    unfold World.withLock
    dsimp only
    split
    · exact nears_call _ _ _ _ (Nat.lt_succ_self 1)
    · exact nears_finish ..
  | remove remover => exact nears_takeOut _ _ _ _ (Nat.lt_succ_self 1)

theorem nears_endFetch (op : Nat) (e : Entry) (cause : Cause) (f : Fault) (n : Nat) :
    (u.endFetch op e cause f).Nears op n := by
  cases cause <;> exact nears_finish ..

end nears

/-- An operation that is resumed comes nearer to its end. -/
theorem nears_of_turn (hw : Sound w) (ht : Turn w m w') (hm : m.mover? = some op)
    (hq : w.point? op = some q) : w'.Nears op q.rounds := by
  have hentry : ∀ {h}, q.wants? = some h → ∃ e, w.entry? h = some e := fun hh => by
    obtain ⟨_, he⟩ := hw.wanted _ _ _ hq hh
    obtain ⟨e, he, -⟩ := Option.map_eq_some_iff.mp he
    exact ⟨e, he⟩
  cases ht with
  | begins | elapses | releases | stops | listens | unlistens => cases hm
  | runs hf => cases hf <;> cases hm
  | enters hq' _ _ =>
    cases hm
    cases hq.symm.trans hq'
    exact nears_withLock ..
  | opens hq' =>
    cases hm
    cases hq.symm.trans hq'
    exact nears_remove _ _ _ _ (Nat.lt_succ_self 2)
  | fetchedFirst hq' =>
    cases hm
    cases hq.symm.trans hq'
    obtain ⟨e, he⟩ := hentry rfl
    simp only [afterFirstFetch, he]
    split
    · exact nears_register _ _ _ _ _ (Nat.lt_succ_self 2)
    · split
      · exact nears_finish ..
      · exact nears_register _ _ _ _ _ (Nat.lt_succ_self 2)
    · split
      · exact nears_finish ..
      · exact nears_register _ _ _ _ _ (Nat.lt_succ_self 2)
  | fetchedAgain hq' =>
    cases hm
    cases hq.symm.trans hq'
    obtain ⟨e, he⟩ := hentry rfl
    simp only [afterFetch, he]
    split
    · exact nears_finish ..
    · exact nears_endFetch ..
    · exact nears_endFetch ..
  | renewed hq' =>
    cases hm
    cases hq.symm.trans hq'
    obtain ⟨e, he⟩ := hentry rfl
    simp only [afterRenewal, he]
    split
    · exact nears_finish ..
    · split
      · exact nears_afterFailure _ _ _ _ _ (Nat.lt_succ_self 1)
      · exact nears_finish ..
  | revoked hq' =>
    cases hm
    cases hq.symm.trans hq'
    obtain ⟨e, he⟩ := hentry rfl
    simp only [afterRevocation, he]
    exact nears_endRemoval ..

theorem roundsOf_le (w : World) (op : Nat) : w.roundsOf op ≤ 3 := by
  unfold roundsOf
  split
  · cases w.point? op with
    | none => exact Nat.zero_le _
    | some p => exact p.rounds_le
  · exact Nat.le_refl _

theorem nextOperation_finish (u : World) (op : Nat) (o : Outcome) :
    (u.finish op o).nextOperation = u.nextOperation := by
  obtain ⟨_, _, he⟩ := u.finish_eq op o
  rw [he]

theorem nextOperation_childEnded (u : World) (parent : Nat) :
    (u.childEnded parent).nextOperation = u.nextOperation := by
  unfold childEnded
  split
  · split
    · exact nextOperation_finish ..
    · rfl
  · rfl

/-- The rounds that an operation has to go yet, if it is under way. -/
def ahead (w : World) (a : Nat) : Nat := (w.point? a).elim 0 Point.rounds

/-- Who is told of the end of a removal is not resumed for it. -/
theorem rounds_told (p : Option Point) :
    (p.bind Point.told).elim 0 Point.rounds ≤ p.elim 0 Point.rounds := by
  cases p with
  | none => exact Nat.le_refl _
  | some q =>
    cases q with
    | joining left =>
      simp only [Option.bind_some, Point.told]
      split <;> exact Nat.le_refl _
    | _ => exact Nat.le_refl _

/-- In a motion nobody comes nearer to the beginning who is not named by the move. -/
theorem Motion.ahead_le (hm : Motion w m w') (hw : Sound w) :
    w.nextOperation ≤ w'.nextOperation ∧
      ∀ a < w.nextOperation, m.mover? ≠ some a → w'.ahead a ≤ w.ahead a := by
  have hne : ∀ {op parent? u a}, Turning w m op parent? u → a < w.nextOperation →
      m.mover? ≠ some a → a ≠ op := fun hk hlt hmv => by
    rintro rfl
    obtain ⟨rfl, -, -⟩ | ⟨-, -, hm, -, -⟩ := hk.stands
    · exact Nat.lt_irrefl _ hlt
    · exact hmv hm
  have hsame : ∀ {a}, w'.point? a = w.point? a → w'.ahead a ≤ w.ahead a := fun hp =>
    Nat.le_of_eq (by rw [ahead, hp, ahead])
  cases hm with
  | rests _ hs => exact ⟨hs.nextOperation, fun a _ _ => hsame (hs.point? a)⟩
  | ends hk he =>
    subst he
    refine ⟨(nextOperation_finish ..).symm ▸ hk.still.nextOperation, fun a hlt hmv => hsame ?_⟩
    rw [point?_finish, if_neg (hne hk hlt hmv), hk.still.point?]
  | moves hk _ hs =>
    refine ⟨Nat.le_trans hk.still.nextOperation hs.nextOperation, fun a hlt hmv => hsame ?_⟩
    rw [hs.point?, point?_setPoint, if_neg (hne hk hlt hmv), hk.still.point?]
  | @tells u op parent o hk he =>
    subst he
    have hn : w.nextOperation ≤ (u.finish op o).nextOperation :=
      (nextOperation_finish ..).symm ▸ hk.still.nextOperation
    refine ⟨(nextOperation_childEnded ..).symm ▸ hn, fun a hlt hmv => ?_⟩
    have hp : (u.finish op o).point? a = w.point? a := by
      rw [point?_finish, if_neg (hne hk hlt hmv), hk.still.point?]
    unfold ahead
    rw [point?_childEnded]
    split
    · rename_i he
      rw [← he, hp]
      exact rounds_told _
    · exact Nat.le_of_eq (by rw [hp])
  | shuts _ _ he =>
    subst he
    obtain ⟨-, -, -, hn, -, hold, -⟩ := enrolled_removals hw _
    exact ⟨Nat.le_of_lt hn, fun a hlt _ => hsame (hold a hlt)⟩
  | shutsBare _ _ he =>
    subst he
    refine ⟨(nextOperation_finish ..).symm ▸ Nat.le_succ _, fun a hlt _ => hsame ?_⟩
    rw [point?_finish, if_neg (Nat.ne_of_lt hlt)]
    rfl

/-- Each time that an operation is resumed, it comes nearer to its end. -/
theorem rounds_turn (hw : Sound w) (ht : Turn w m w') (a : Nat) :
    w'.roundsOf a + (if m.resumes a then 1 else 0) ≤ w.roundsOf a := by
  obtain ⟨hn, hall⟩ : w.nextOperation ≤ w'.nextOperation ∧
      ∀ a < w.nextOperation, m.mover? ≠ some a → w'.ahead a ≤ w.ahead a := by
    by_cases hrel : m = .release
    · subst hrel
      cases ht with
      | runs hf => cases hf
      | releases =>
        obtain ⟨_, _, he, -⟩ := reap_eq { w with held := false }
        rw [show w.release = _ from he]
        exact ⟨Nat.le_refl _, fun _ _ _ => Nat.le_refl _⟩
    · exact (motion_of_turn hw hrel ht).ahead_le hw
  by_cases hm : m.mover? = some a
  · obtain ⟨q, hq, hj⟩ : ∃ q, w.point? a = some q ∧ q.isJoining = false := by
      cases ht with
      | begins | elapses | releases | stops | listens | unlistens => cases hm
      | runs hf => cases hf <;> cases hm
      | enters hq _ _ => exact ⟨_, by cases hm; exact hq, rfl⟩
      | opens hq | fetchedFirst hq | fetchedAgain hq | renewed hq | revoked hq =>
        exact ⟨_, by cases hm; exact hq, rfl⟩
    have hlt := hw.fresh a q hq
    have hnears := nears_of_turn hw ht hm hq
    rw [show m.resumes a = true from beq_iff_eq.mpr hm, if_pos rfl, roundsOf,
      if_pos (Nat.lt_of_lt_of_le hlt hn), roundsOf, if_pos hlt, hq]
    cases hq' : w'.point? a with
    | none => exact q.rounds_pos hj
    | some q' => exact hnears.fewer q' hq'
  · rw [show m.resumes a = false from beq_eq_false_iff_ne.mpr hm]
    by_cases hlt : a < w.nextOperation
    · rw [roundsOf, if_pos (Nat.lt_of_lt_of_le hlt hn), roundsOf, if_pos hlt]
      exact hall a hlt hm
    · rw [show w.roundsOf a = 3 from if_neg hlt]
      exact w'.roundsOf_le a

/-! ## Who can be resumed -/

/-- The holder of an entry is with the server, or has just been handed the lock. -/
theorem step_of_isResumedBy (hw : Sound w) (hq : w.point? op = some q)
    (hhead : ∀ h e, q.wants? = some h → w.face? h = some e → e.lock.head? = some op)
    (hm : q.isResumedBy op m = true) : ∃ w', step w m = some w' := by
  cases m with
  | enter a =>
    cases q with
    | queued h errand =>
      obtain rfl := beq_iff_eq.mp hm
      obtain ⟨e, he⟩ := hw.wanted a _ h hq rfl
      obtain ⟨f, hf, rfl⟩ := Option.map_eq_some_iff.mp he
      refine ⟨w.withLock a f errand, ?_⟩
      simp only [step, World.enter, hq, hf]
      exact if_pos (hhead h _ rfl he)
    | _ => cases hm
  | openNext a =>
    cases q with
    | opening h parent =>
      obtain rfl := beq_iff_eq.mp hm
      exact ⟨w.remove a h (.shutdown parent), by simp only [step, World.openNext, hq]⟩
    | _ => cases hm
  | answer a r =>
    have hm : (a == op && q.accepts r) = true := by
      cases q <;> exact hm
    obtain ⟨ha, hc⟩ := Bool.and_eq_true_iff.mp hm
    obtain rfl := beq_iff_eq.mp ha
    simp only [step, World.answer, hq]
    cases q <;> cases r <;> first | exact ⟨_, rfl⟩ | cases hc
  | _ => cases q <;> cases hm

/-- Who does not wait for removals can be resumed, or waits for an entry whose holder can. -/
theorem exists_resumable_of_point? (hw : Sound w) (hq : w.point? op = some q)
    (hj : q.isJoining = false) : ∃ a r, w.point? a = some r ∧ r.isJoining = false ∧
      ∀ m, r.isResumedBy a m = true → ∃ w', step w m = some w' := by
  cases hwants : q.wants? with
  | none =>
    exact ⟨op, q, hq, hj, fun m hm =>
      step_of_isResumedBy hw hq (fun h e hh _ => by cases hwants.symm.trans hh) hm⟩
  | some h =>
    obtain ⟨e, he⟩ := hw.wanted op q h hq hwants
    have hop : op ∈ e.lock := (hw.mem_lock h e he op).mpr ⟨q, hq, hwants⟩
    obtain ⟨a, as, hl⟩ := List.exists_cons_of_ne_nil (List.ne_nil_of_mem hop)
    obtain ⟨r, hr, hwant⟩ := (hw.mem_lock h e he a).mp (hl ▸ List.mem_cons_self ..)
    refine ⟨a, r, hr, (by cases r <;> first | rfl | cases hwant), fun m hm =>
      step_of_isResumedBy hw hr (fun k f hk hf => ?_) hm⟩
    cases hk.symm.trans hwant
    cases hf.symm.trans he
    rw [hl, List.head?_cons]

/-- As long as operations are under way, one of them can be resumed, by whatever it waits for. -/
theorem exists_resumable (hw : Sound w) (ha : w.Awaited) (h : w.operations ≠ []) :
    ∃ op q, w.point? op = some q ∧ q.isJoining = false ∧
      ∀ m, q.isResumedBy op m = true → ∃ w', step w m = some w' := by
  obtain ⟨⟨op, q⟩, ops, he⟩ := List.exists_cons_of_ne_nil h
  have hq : w.point? op = some q := by rw [point?, he, List.lookup_cons_self]
  cases hj : q.isJoining with
  | false => exact exists_resumable_of_point? hw hq hj
  | true =>
    cases q with
    | joining n =>
      obtain ⟨hpos, l, -, hlen, hl⟩ := ha.children op n hq
      obtain ⟨a, as, he⟩ := List.exists_cons_of_ne_nil (List.ne_nil_of_length_pos (Nat.lt_of_lt_of_le hpos hlen))
      obtain ⟨r, hr, hp⟩ := hl a (he ▸ List.mem_cons_self ..)
      exact exists_resumable_of_point? hw hr (by cases r <;> first | rfl | cases hp)
    | _ => cases hj

/-! ## Whole runs -/

/-- An engine that nobody outside holds is not taken up again. -/
theorem held_of_turn (hw : Sound w) (hh : w.held = false) (ht : Turn w m w') : w'.held = false := by
  by_cases hrel : m = .release
  · subst hrel
    cases ht with
    | runs hf => cases hf
    | releases => exact held_release w
  · exact ((motion_of_turn hw hrel ht).access hw).1.trans hh

theorem held_of_run (hw : Sound w) (hh : w.held = false) (hv : run? w ns = some v) :
    v.held = false :=
  (run?_keeps (P := fun u => Sound u ∧ u.held = false)
    (fun hu ht => ⟨hu.1.of_turn ht, held_of_turn hu.1 hu.2 ht⟩) ⟨hw, hh⟩ hv).2

/-- An engine that nobody holds stays as it is. -/
theorem silent_of_run (ha : w.isAlive = false) (hv : run? w ns = some v) :
    v.isAlive = false ∧ v.history = w.history :=
  run?_keeps (P := fun u => u.isAlive = false ∧ u.history = w.history)
    (fun hu ht => ⟨dead_of_turn hu.1 ht, (quiet_of_dead hu.1 ht).1.trans hu.2⟩) ⟨ha, rfl⟩ hv

/-- As often as an operation is resumed in a run, so much nearer it has come to its end. -/
theorem rounds_of_run (hw : Sound w) (hv : run? w ns = some v) (a : Nat) :
    ns.countP (Move.resumes a) + v.roundsOf a ≤ w.roundsOf a := by
  induction ns generalizing w with
  | nil =>
    cases hv
    exact Nat.le_of_eq (Nat.zero_add _)
  | cons m ms ih =>
    simp only [run?, Option.bind_eq_some_iff] at hv
    obtain ⟨u, hu, hv⟩ := hv
    have ht := turn_of_step hu
    have hstep := rounds_turn hw ht a
    have hrest := ih (hw.of_turn ht) hv
    rw [List.countP_cons]
    omega

end World

open World

/-- What is so after the last holder of a lease engine has let go, once the steps `ns` have led to
`v`. -/
structure LetGo (ns : List Move) (v : World) : Prop where
  /-- The tasks keep nothing alive: where no operation is under way, no task of any secret is left to
  start. -/
  idle : v.operations = [] → v.isAlive = false ∧ v.schedule.live = []
  /-- Then it stays so in every run, and nothing happens: no call, no event. -/
  silent : v.operations = [] → ∀ ms u, run? v ms = some u →
    u.operations = [] ∧ u.schedule.live = [] ∧ u.history = v.history
  /-- Until then there is an operation that does not just wait for others to end and goes on as soon
  as it is handed the lock or the server answers, whatever the answer. -/
  moves : v.operations ≠ [] → ∃ op q, v.point? op = some q ∧ q.isJoining = false ∧
    ∀ m, q.isResumedBy op m = true → ∃ u, step v m = some u
  /-- No operation is resumed more than three times. -/
  prompt : ∀ op, ns.countP (Move.resumes op) ≤ 3

theorem letGo_of_run {settings : Settings} {d : Discipline} {draws : Nat → Nat} {ms ns : List Move}
    {w v : World} (hw : run? (initial settings d draws) ms = some w)
    (hv : run? w.release ns = some v) : LetGo ns v := by
  have hrel : run? (initial settings d draws) (ms ++ [.release]) = some w.release :=
    run?_concat.mpr ⟨w, hw, rfl⟩
  have hrun : run? (initial settings d draws) ((ms ++ [.release]) ++ ns) = some v := by
    rw [run?_append, hrel]
    exact hv
  have hkept : ∀ {ks u}, run? (initial settings d draws) ks = some u → (Sound u ∧ u.Idle) ∧ u.Awaited :=
    fun hu => run?_keeps (P := fun u => (Sound u ∧ u.Idle) ∧ u.Awaited)
      (fun hk ht => ⟨⟨hk.1.1.of_turn ht, hk.1.2.turn hk.1.1 ht⟩, hk.2.turn hk.1.1 ht⟩)
      ⟨⟨sound_initial settings d draws, ⟨fun h => by cases h⟩⟩, ⟨fun _ _ h => by cases h⟩⟩ hu
  have hlive : ∀ {ks u}, run? (initial settings d draws) ks = some u → u.isAlive = false →
      u.schedule.live = [] := fun hu ha => (hkept hu).1.2.live (hkept hu).1.1 ha
  have hdead : v.operations = [] → v.isAlive = false := fun h => by
    simp [isAlive, held_of_run (hkept hrel).1.1 (held_release w) hv, h]
  refine ⟨fun h => ⟨hdead h, hlive hrun (hdead h)⟩, fun h ks u hu => ?_,
    exists_resumable (hkept hrun).1.1 (hkept hrun).2, fun op => ?_⟩
  · obtain ⟨ha, hh⟩ := silent_of_run (hdead h) hu
    have hrun' : run? (initial settings d draws) (((ms ++ [.release]) ++ ns) ++ ks) = some u := by
      rw [run?_append, hrun]
      exact hu
    refine ⟨?_, hlive hrun' ha, hh⟩
    simpa [isAlive] using (Bool.or_eq_false_iff.mp ha).2
  · have hrounds := rounds_of_run (hkept hrel).1.1 hv op
    have hle := w.release.roundsOf_le op
    omega

end LeaseKeeper.Leases
