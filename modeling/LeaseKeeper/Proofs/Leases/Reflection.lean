import LeaseKeeper.Proofs.Leases.Echoes

/-!
# What is done to a secret is done to it alone

In an engine in which a secret is alone, and which mirrors another one, a step about the secret is
taken by the move that has the other numbers (`reflected_of_step`).
-/

namespace LeaseKeeper.Leases

open World

variable {c : Prop} {r : Renaming} {h : Handle} {w w' u u' : World} {m m' : Move} {op : Nat} {e f : Entry}

/-! ## The ways to get on with a secret -/

namespace Alike

/-- A new operation begins. -/
theorem enroll (hm : Mirrors r h w u) :
    Alike True r h w u u.nextOperation w.enroll.2 u.enroll.2 :=
  have hop : r.op u.nextOperation = w.nextOperation := hm.ops 0
  { base := hm
    shared := by
      rw [hop]
      exact .enroll hm.shared
    alone := .enroll hm.alone
    face := hm.face
    point := hm.points _
    plan := fun _ => hm.plan
    ops := fun k => by
      have hk := hm.ops (k + 1)
      show r.op (u.nextOperation + 1 + k) = w.nextOperation + 1 + k
      rw [Nat.add_assoc, Nat.add_assoc, Nat.add_comm 1 k, hk]
    serials := hm.serials
    next := hm.next
    history := ⟨[], rfl, rfl⟩
    faceDated := hm.faceDated
    pointDated := hm.pointsDated _
    planDated := hm.planDated }

/-- An operation gets on. -/
theorem refl (hm : Mirrors r h w u) {q : Point} (hq : u.point? op = some q) : Alike True r h w u op w u :=
  have hw : w.point? (r.op op) = some (q.rename r) := by
    rw [hm.points, hq]
    rfl
  { base := hm
    shared := .stands hm.shared hw ((Point.wants?_rename r q).trans (hm.wants op q hq))
    alone := .stands hm.alone hq (hm.wants op q hq)
    face := hm.face
    point := hm.points _
    plan := fun _ => hm.plan
    ops := hm.ops
    serials := hm.serials
    next := hm.next
    history := ⟨[], rfl, rfl⟩
    faceDated := hm.faceDated
    pointDated := hm.pointsDated _
    planDated := hm.planDated }

/-- The task of the secret is started, and its operation begins. -/
theorem starts (hm : Mirrors r h w u) {t t' : Task Job} {s s' : Schedule Job}
    (hs : w.schedule.Starts t s) (hs' : u.schedule.Starts t' s')
    (hd : s.discipline = w.schedule.discipline) (hd' : s'.discipline = u.schedule.discipline)
    (ht : t.job.handle = h) (ht' : t'.job.handle = h) : Alike True r h w u u.nextOperation
      ({ w with schedule := s } : World).enroll.2 ({ u with schedule := s' } : World).enroll.2 :=
  have hop : r.op u.nextOperation = w.nextOperation := hm.ops 0
  have hgone : ∀ {v : World} {k : Task Job} {z : Schedule Job}, v.Booked → v.schedule.Starts k z →
      k.job.handle = h → World.plan { v with schedule := z } h = [] := fun hb hz hk =>
    plan_eq_nil fun x hx hh => by
      obtain ⟨hlive, hne⟩ := hz.not_mem hx
      have := (hb.tasks_eq (mem_tasks.mpr ⟨hz.mem, hk⟩)) ▸ mem_tasks.mpr ⟨hlive, hh⟩
      exact hne (congrArg Task.id (List.mem_singleton.mp this))
  { enroll hm with
    shared := by
      rw [hop]
      exact .starts hm.shared hs hd ht
    alone := .starts hm.alone hs' hd' ht'
    plan := fun _ => by
      show World.plan { w with schedule := s } h = (World.plan { u with schedule := s' } h).map _
      rw [hgone hm.shared.booked hs ht, hgone hm.alone.booked hs' ht']
      rfl
    planDated := fun x hx => by
      have hnil := hgone hm.alone.booked hs' ht'
      change x ∈ World.plan { u with schedule := s' } h at hx
      rw [hnil] at hx
      cases hx }

end Alike

namespace Mirrors

theorem entry (hm : Mirrors r h w u) (he : w.entry? h = some e) :
    ∃ f, u.entry? h = some f ∧ Twins r h e f := by
  cases hf : u.entry? h with
  | none =>
    have hface := hm.face
    rw [face?_none.mpr hf, face?_some he] at hface
    cases hface
  | some f =>
    obtain ⟨e', he', ht⟩ := (Alike.enroll hm).entry hf
    cases he.symm.trans he'
    exact ⟨f, rfl, ht⟩

/-- The secret has one task in each of the engines, and these are due at the same time. -/
theorem task (hm : Mirrors r h w u) {t : Task Job} (ht : t ∈ w.schedule.live) (hh : t.job.handle = h) :
    ∃ t' ∈ u.schedule.live, t'.job.handle = h ∧ t'.due = t.due ∧ t'.job.rename r = t.job := by
  have hplan := hm.plan
  rw [hm.shared.booked.plan_eq ht hh] at hplan
  obtain ⟨x, hx, hxr⟩ := List.map_eq_singleton_iff.mp hplan.symm
  obtain ⟨t', ht', rfl⟩ := List.mem_map.mp (hx ▸ List.mem_singleton_self x)
  obtain ⟨hlive, hh'⟩ := mem_tasks.mp ht'
  exact ⟨t', hlive, hh', congrArg Prod.fst hxr, congrArg Prod.snd hxr⟩

/-- An operation on the secret stands at the same point. -/
theorem point (hm : Mirrors r h w u) {q : Point} (hq : w.point? op = some q) (hw : q.wants? = some h) :
    ∃ a q', r.op a = op ∧ u.point? a = some q' ∧ q'.rename r = q := by
  obtain ⟨a, rfl⟩ := hm.onto op q hq hw
  obtain ⟨q', hq', heq⟩ := Option.map_eq_some_iff.mp ((hm.points a).symm.trans hq)
  exact ⟨a, q', rfl, hq', heq⟩

end Mirrors

/-! ## Steps about the secret -/

namespace Move

/-- The move that does the same under other numbers, with the operation that gets on by it; one that
begins has number `n`. The number of a task does not matter. -/
inductive Renames (r : Renaming) (n : Nat) : Move → Move → Nat → Prop
  | begin (q : Request) : Renames r n (.begin q) (.begin q) n
  | fire (a b : Nat) : Renames r n (.fire a) (.fire b) n
  | enter (op : Nat) : Renames r n (.enter (r.op op)) (.enter op) op
  | answer (op : Nat) (k : Reply) : Renames r n (.answer (r.op op) k) (.answer op k) op

end Move

/-- A step about the secret is taken in both engines. -/
structure Reflected (r : Renaming) (h : Handle) (w u : World) (m : Move) (w' : World) (m' : Move)
    (u' : World) (op : Nat) : Prop where
  step : step u m' = some u'
  subject : u.subject? m' = some h
  renames : m.Renames r u.nextOperation m' op
  wanting : Wanting u op h
  ended : Ended r h w u op w' u'

theorem reflected_of_begin (hm : Mirrors r h w u) {q : Request}
    (hs : w.subject? (.begin q) = some h) :
    ∃ u', Reflected r h w u (.begin q) (w.begin q) (.begin q) u' u.nextOperation := by
  have hop : r.op u.nextOperation = w.nextOperation := hm.ops 0
  have hx := Alike.enroll hm
  have hstep : ∀ q, step u (.begin q) = some (u.begin q) := fun q => if_pos hm.held
  cases q with
  | add q source =>
    obtain rfl : ⟨w.nextHandle⟩ = h := Option.some.inj hs
    have hnext : u.nextHandle = w.nextHandle := hm.next (Nat.le_refl _)
    refine ⟨_, hstep _, congrArg (some <| Handle.mk ·) hnext, .begin _, .inl rfl, ?_⟩
    have hfree := face?_nextHandle hm.shared
    have hfree' := face?_nextHandle hm.alone
    rw [begin_add hm.unlocked.1, begin_add hm.unlocked.2]
    rw [hnext] at hfree' ⊢
    have hy := (hx.enlist hfree hfree' rfl
      (e := ⟨⟨w.nextHandle⟩, q, source, none, none, [w.nextOperation], .pending⟩)
      (f := ⟨⟨w.nextHandle⟩, q, source, none, none, [u.nextOperation], .pending⟩)
      ⟨rfl, rfl, rfl, rfl, rfl, rfl, congrArg (fun x => [x]) hop.symm⟩ rfl rfl rfl).call
        (p := .registering ⟨w.nextHandle⟩) rfl (fun _ hq => by cases hq) (.fetch source q.path)
    rw [hop] at hy
    exact hy.ended
  | remove k =>
    cases hs
    have hy := hx.remove
    rw [hop] at hy
    exact ⟨_, hstep _, rfl, .begin _, .inl rfl, hy⟩
  | rotate k =>
    cases hs
    have hy := hx.rotate
    rw [hop] at hy
    exact ⟨_, hstep _, rfl, .begin _, .inl rfl, hy⟩
  | destroy => cases hs

theorem reflected_of_fires (hm : Mirrors r h w u) {t : Task Job} {s : Schedule Job}
    (hf : w.Fires m t s) (hd : w.schedule.discipline = .timed → m ≠ .fireNext)
    (ht : t.job.handle = h) :
    ∃ m' u', Reflected r h w u m ({ w with schedule := s }.run t.job) m' u' u.nextOperation := by
  have hop : r.op u.nextOperation = w.nextOperation := hm.ops 0
  have hs := hf.starts hm.shared.booked.numbered
  cases hf with
  | next _ => exact absurd rfl (hd hm.timed.1)
  | @due id _ _ hdue =>
  obtain ⟨-, -, hle⟩ := Schedule.starts_of_startDue hm.shared.booked.numbered hdue
  obtain ⟨t', hlive, hh', hsame, hjob⟩ := hm.task hs.mem ht
  have hle' : t'.due ≤ u.now := by
    rw [hsame, ← hm.now]
    exact hle
  obtain ⟨s', hdue'⟩ := hm.alone.booked.numbered.startDue hlive hle'
  have hs' := (Schedule.starts_of_startDue hm.alone.booked.numbered hdue').1
  have hy := Alike.starts hm hs hs' (Schedule.discipline_startDue hdue)
    (Schedule.discipline_startDue hdue') ht hh'
  obtain ⟨e, he, -⟩ := hm.shared.booked.slot_live t hs.mem
  rw [ht] at he
  obtain ⟨f, hf, htw⟩ := hm.entry he
  have hstep : step u (.fire t'.id) = some ({ u with schedule := s' }.run t'.job) := by
    simp only [Leases.step, if_pos hm.timed.2, World.fire, hdue']
  refine ⟨.fire t'.id, _, hstep, ?_, .fire .., .inl rfl, ?_⟩
  · rw [← hh']
    exact subject?_of_fires hm.alone.booked (.due hdue')
  · have hdated : t'.job.snapshot.serial < u.nextSnapshot := hm.planDated (t'.due, t'.job) (by
      rw [hm.alone.booked.plan_eq hlive hh']
      exact List.mem_singleton_self _)
    have hw := hy.want (a := .act t'.job.snapshot t'.job.action) htw (fun _ hr => by cases hr)
      (fun x a hx => by
        cases hx
        exact hdated)
      (hy.dated hf)
    rw [hop] at hw
    rw [run_of_isAlive hm.alive (ht.symm ▸ he),
      run_of_isAlive (isAlive_iff.mpr (.inl hm.held)) (hh'.symm ▸ hf), ← hjob]
    exact hw

theorem reflected_of_enters (hm : Mirrors r h w u) {op : Nat} {errand : Errand}
    (hp : w.point? op = some (.queued h errand)) (he : w.entry? h = some e)
    (hl : e.lock.head? = some op) :
    ∃ m' u' a, Reflected r h w u (.enter op) (w.withLock op e errand) m' u' a := by
  obtain ⟨a, q, rfl, hq, hqr⟩ := hm.point hp rfl
  obtain ⟨f, hf, ht⟩ := hm.entry he
  cases q with
  | queued k errand' =>
    cases hqr
    have hhead : f.lock.head? = some a := by
      rw [ht.lock, List.head?_map] at hl
      exact (Option.map_injective r.op_injective) hl
    have hstep : step u (.enter a) = some (u.withLock a f errand') := by
      simp only [Leases.step, World.enter, hq, hf, if_pos hhead]
    refine ⟨.enter a, _, a, hstep, ?_, .enter a, .inr ⟨_, hq, rfl⟩, ?_⟩
    · simp only [World.subject?, hq]
      rfl
    · have hx := Alike.refl hm hq
      refine hx.withLock ht (fun n hn => ?_) (fun s b hs => ?_) (hx.dated hf)
      · subst hn
        simpa [Point.isClosing] using hm.alone.calm.unclosed a _ hq
      · subst hs
        exact hm.pointsDated a _ s hq rfl
  | _ => cases hqr

theorem reflected_of_answer (hm : Mirrors r h w u) {op : Nat} {k : Reply} {p : Point}
    (hp : w.point? op = some p) (hw : p.wants? = some h) (hs : w.answer op k = some w') :
    ∃ u' a, Reflected r h w u (.answer op k) w' (.answer a k) u' a := by
  obtain ⟨a, q, rfl, hq, rfl⟩ := hm.point hp hw
  have hx := Alike.refl hm hq
  have hsub : u.subject? (.answer a k) = some h := by
    simp only [World.subject?, hq]
    exact hm.wants a q hq
  have hends : ∀ u', u.answer a k = some u' → Ended r h w u a w' u' →
      ∃ u' b, Reflected r h w u (.answer (r.op a) k) w' (.answer b k) u' b := fun u' hu hend =>
    ⟨u', a, hu, hsub, .answer a k, .inr ⟨q, hq, hm.wants a q hq⟩, hend⟩
  unfold World.answer at hs
  rw [hp] at hs
  cases q with
  | registering l =>
    cases hm.wants a _ hq
    cases k with
    | fetched k =>
      cases hs
      refine hends _ (by simp only [World.answer, hq])
        (hx.afterFirstFetch (fun t ht hh => ?_) (fun t ht hh => ?_) k)
      · obtain ⟨e, he, hst⟩ := hm.shared.face?_of_live ht
        cases ((hm.shared.calm.pending _ _ _ e hp rfl (hh ▸ he)).mpr rfl).symm.trans hst
      · obtain ⟨e, he, hst⟩ := hm.alone.face?_of_live ht
        cases ((hm.alone.calm.pending a _ _ e hq rfl (hh ▸ he)).mpr rfl).symm.trans hst
    | _ => cases hs
  | rotating l previous cause =>
    cases hm.wants a _ hq
    cases k with
    | fetched k =>
      cases hs
      exact hends _ (by simp only [World.answer, hq]) (hx.afterFetch previous cause k)
    | _ => cases hs
  | renewing l s since =>
    cases hm.wants a _ hq
    cases k with
    | renewal k =>
      cases hs
      exact hends _ (by simp only [World.answer, hq]) (hx.afterRenewal (hm.pointsDated a _ s hq rfl) k)
    | _ => cases hs
  | revoking l s n =>
    cases hm.wants a _ hq
    have hn : n = .caller := by simpa [Point.isClosing] using hm.alone.calm.unclosed a _ hq
    subst hn
    cases k with
    | revocation k =>
      cases hs
      exact hends _ (by simp only [World.answer, hq]) (hx.afterRevocation s k)
    | _ => cases hs
  | _ => cases hs

/-- A step about the secret is taken in the engine in which it is alone too. -/
theorem reflected_of_step (hm : Mirrors r h w u) (hs : step w m = some w')
    (hsub : w.subject? m = some h) : ∃ m' u' op, Reflected r h w u m w' m' u' op := by
  have ht := turn_of_step hs
  have hanswer : ∀ {op : Nat} {k : Reply} {p : Point}, m = .answer op k → w.point? op = some p →
      p.wants? = some h → ∃ m' u' a, Reflected r h w u m w' m' u' a := fun {op k p} hk hp hw => by
    subst hk
    obtain ⟨u', a, hr⟩ := reflected_of_answer hm hp hw hs
    exact ⟨_, u', a, hr⟩
  cases ht with
  | begins _ =>
    obtain ⟨u', hr⟩ := reflected_of_begin hm hsub
    exact ⟨_, u', _, hr⟩
  | runs hf =>
    have hh := Option.some.inj ((subject?_of_fires hm.shared.booked hf).symm.trans hsub)
    have hnext : w.schedule.discipline = .timed → m ≠ .fireNext := fun hd hn => by
      subst hn
      simp only [Leases.step, hd, reduceCtorEq, if_false] at hs
    obtain ⟨m', u', hr⟩ := reflected_of_fires hm hf hnext hh
    exact ⟨m', u', _, hr⟩
  | enters hp he hl =>
    simp only [World.subject?, hp] at hsub
    cases hsub
    exact reflected_of_enters hm hp he hl
  | opens hp => cases hm.shared.calm.unclosed _ _ hp
  | fetchedFirst hp =>
    simp only [World.subject?, hp] at hsub
    exact hanswer rfl hp hsub
  | fetchedAgain hp =>
    simp only [World.subject?, hp] at hsub
    exact hanswer rfl hp hsub
  | renewed hp =>
    simp only [World.subject?, hp] at hsub
    exact hanswer rfl hp hsub
  | revoked hp =>
    simp only [World.subject?, hp] at hsub
    exact hanswer rfl hp hsub
  | elapses | releases | stops | listens | unlistens => cases hsub

end LeaseKeeper.Leases
