import LeaseKeeper.Proofs.Leases.Acts

/-!
# How things stand in any lease engine

`Sound` is what holds of entries, queues, operations and tasks whether an engine is shut down or
not: the operations in a queue are just those that want its entry, one which the server works
for is the head, removals are of entries that are removed and no two of them take part in the
same one, and tasks are of entries that are registered. Once an engine is shut down, a
removal is about to begin for whatever is still registered. Whatever a step does keeps that
(`Sound.of_does`, `Sound.of_aside`).
-/

namespace LeaseKeeper.Leases

open World

/-- The entries, the queues for the locks, the operations and the tasks go together. -/
structure Sound (w : World) : Prop where
  booked : w.Booked
  fresh : ∀ a q, w.point? a = some q → a < w.nextOperation
  known : ∀ h e, w.face? h = some e → h.serial < w.nextHandle
  wanted : ∀ a q h, w.point? a = some q → q.wants? = some h → ∃ e, w.face? h = some e
  mem_lock : ∀ h e, w.face? h = some e → ∀ a,
    a ∈ e.lock ↔ ∃ q, w.point? a = some q ∧ q.wants? = some h
  nodup : ∀ h e, w.face? h = some e → e.lock.Nodup
  head : ∀ a q h e, w.point? a = some q → q.holds? = some h → w.face? h = some e →
    e.lock.head? = some a
  pending : ∀ a q h e, w.point? a = some q → q.wants? = some h → w.face? h = some e →
    (e.standing = .pending ↔ q = .registering h)
  registering : ∀ h e, w.face? h = some e → e.standing = .pending →
    e.snapshot = none ∧ ∃ a, w.point? a = some (.registering h)
  leaving : ∀ a q h e, w.point? a = some q → q.leaves? = some h → w.face? h = some e →
    e.standing = .removed
  once : ∀ a b q r h, w.point? a = some q → q.leaves? = some h → w.point? b = some r →
    r.leaves? = some h → a = b
  working : ∀ t ∈ w.schedule.live, ∀ e, w.face? t.job.handle = some e → e.standing = .registered
  opening : w.destroyed = true → ∀ h e, w.face? h = some e → e.standing = .registered →
    ∃ a parent, w.point? a = some (.opening h parent)

namespace Point

theorem Serves.leaves {h : Handle} {q : Point} (hq : q.Serves h) : q.leaves? = none := by
  cases q with
  | queued k errand => cases errand <;> first | rfl | exact hq.elim
  | renewing | rotating => rfl
  | _ => exact hq.elim

theorem Serves.ne {h k : Handle} {q : Point} (hq : q.Serves h) : q ≠ .registering k := by
  rintro rfl
  exact hq

end Point

/-! ## Whether an entry can be found -/

namespace World

variable {w : World} {h : Handle} {e : Entry}

theorem exists_registered? (he : w.face? h = some e) (hs : e.standing = .registered) :
    ∃ f, w.registered? h = some f ∧ f.bare = e := by
  obtain ⟨f, hf, rfl⟩ := Option.map_eq_some_iff.mp he
  exact ⟨f, Option.filter_eq_some_iff.mpr ⟨hf, beq_iff_eq.mpr hs⟩, rfl⟩

theorem registered?_eq_none (hno : ∀ e, w.face? h = some e → e.standing ≠ .registered) :
    w.registered? h = none := by
  cases hr : w.registered? h with
  | none => rfl
  | some e =>
    obtain ⟨he, hs⟩ := registered?_some hr
    exact absurd hs (hno _ (face?_some he))

end World

theorem sound_initial (settings : Settings) (d : Discipline) (draws : Nat → Nat) :
    Sound (initial settings d draws) where
  booked := booked_initial settings d draws
  fresh _ _ hp := by cases hp
  known _ _ he := by cases he
  wanted _ _ _ hp := by cases hp
  mem_lock _ _ he := by cases he
  nodup _ _ he := by cases he
  head _ _ _ _ hp := by cases hp
  pending _ _ _ _ hp := by cases hp
  registering _ _ he := by cases he
  leaving _ _ _ _ hp := by cases hp
  once _ _ _ _ _ hp := by cases hp
  working _ ht := by cases ht
  opening _ _ _ he := by cases he

variable {w w' u : World} {m : Move} {op : Nat} {h : Handle} {e : Entry} {face : Option Entry}
  {p : Option Point} {hs : List Happening} {care : Care} {g : Option Lease} {rm : Option Nat}

namespace Sound

theorem point?_next (hw : Sound w) : w.point? w.nextOperation = none := by
  cases hp : w.point? w.nextOperation with
  | none => rfl
  | some q => exact absurd (hw.fresh _ _ hp) (Nat.lt_irrefl _)

theorem holder_unique (hw : Sound w) {a b : Nat} {q r : Point} (ha : w.point? a = some q)
    (hq : q.holds? = some h) (hb : w.point? b = some r) (hr : r.holds? = some h) : a = b := by
  obtain ⟨e, he⟩ := hw.wanted a q h ha (Point.wants?_of_holds? hq)
  exact Option.some.inj ((hw.head a q h e ha hq he).symm.trans (hw.head b r h e hb hr he))

/-- Nobody else wants an entry that is pending. -/
theorem lock_of_registering (hw : Sound w) (hp : w.point? op = some (.registering h))
    (he : w.face? h = some e) : e.lock = [op] := by
  have hpend := (hw.pending op _ h e hp rfl he).mpr rfl
  have hall : ∀ a ∈ e.lock, a = op := fun a ha => by
    obtain ⟨q, hq, hwant⟩ := (hw.mem_lock h e he a).mp ha
    obtain rfl := (hw.pending a q h e hq hwant he).mp hpend
    exact hw.holder_unique hq rfl hp rfl
  have hnd := hw.nodup h e he
  have hhead := hw.head op _ h e hp rfl he
  generalize e.lock = l at hall hnd hhead
  match l with
  | [a] => rw [hall a (by simp)]
  | a :: b :: l =>
    have hab : a = b := (hall a (by simp)).trans (hall b (by simp)).symm
    simp [hab] at hnd

/-- Whoever gets on with an entry wanted no other. -/
theorem wants_of_whence (hw : Sound w) (hwh : Whence w op h) {q : Point} (hq : w.point? op = some q)
    {k : Handle} (hk : q.wants? = some k) : k = h := by
  cases hwh with
  | begins hop =>
    subst hop
    cases hw.point?_next.symm.trans hq
  | stands hq' hh =>
    cases hq.symm.trans hq'
    exact Option.some.inj (hk.symm.trans hh)
  | opens hq' =>
    cases hq.symm.trans hq'
    cases hk

/-- Nor was it about to remove another. -/
theorem opening_of_whence (hw : Sound w) (hwh : Whence w op h) {k : Handle} {parent : Nat}
    (hq : w.point? op = some (.opening k parent)) : k = h := by
  cases hwh with
  | begins hop =>
    subst hop
    cases hw.point?_next.symm.trans hq
  | stands hq' hh =>
    cases hq.symm.trans hq'
    cases hh
  | opens hq' =>
    cases hq.symm.trans hq'
    rfl

/-- An operation that begins or shuts down something stands in no queue. -/
theorem not_mem_lock (hw : Sound w) (he : w.face? h = some e)
    (hop : ∀ q, w.point? op = some q → q.wants? = none) : op ∉ e.lock := fun hm => by
  obtain ⟨q, hq, hwant⟩ := (hw.mem_lock h e he op).mp hm
  cases (hop q hq).symm.trans hwant

/-! ## What keeps it -/

/-- An operation that got on with the entry of `h` keeps an engine sound, if what became of that
entry fits. -/
theorem of_scene (hw : Sound w) (hx : Scene w u op h face p hs care)
    (hwh : Whence w op h) (hpoint : ∀ q, p = some q → q.wants? = some h)
    (hknown : ∀ e, face = some e → h.serial < u.nextHandle)
    (hwanted : ∀ a q, u.point? a = some q → q.wants? = some h → ∃ e, face = some e)
    (hlock : ∀ e, face = some e → e.lock.Nodup ∧
      (∀ a, a ∈ e.lock ↔ ∃ q, u.point? a = some q ∧ q.wants? = some h) ∧
      ∀ a q, u.point? a = some q → q.holds? = some h → e.lock.head? = some a)
    (hpending : ∀ a q e, u.point? a = some q → q.wants? = some h → face = some e →
      (e.standing = .pending ↔ q = .registering h))
    (hreg : ∀ e, face = some e → e.standing = .pending → e.snapshot = none ∧
      ∃ a, u.point? a = some (.registering h))
    (hleaving : ∀ a q e, u.point? a = some q → q.leaves? = some h → face = some e →
      e.standing = .removed)
    (honce : ∀ a b q r, u.point? a = some q → q.leaves? = some h → u.point? b = some r →
      r.leaves? = some h → a = b)
    (hworking : ∀ t, care.Allows w h t → t.job.handle = h → ∀ e, face = some e →
      e.standing = .registered)
    (hopening : w.destroyed = true → ∀ e, face = some e → e.standing = .registered →
      ∃ a parent, u.point? a = some (.opening h parent)) : Sound u := by
  obtain ⟨added, n, hf⟩ := hx.frame
  have hother : ∀ {a q k}, k ≠ h → (u.point? a = some q ∧ q.wants? = some k ↔
      w.point? a = some q ∧ q.wants? = some k) := fun {a q k} hk => by
    by_cases ha : a = op
    · subst ha
      constructor
      · rintro ⟨hq, hwk⟩
        exact absurd (Option.some.inj (hwk.symm.trans (hpoint q (hf.point ▸ hq)))) hk
      · rintro ⟨hq, hwk⟩
        exact absurd (hw.wants_of_whence hwh hq hwk) hk
    · rw [hf.points a ha]
  refine ⟨hf.booked, fun a q hq => ?_, fun k e he => ?_, fun a q k hq hwk => ?_, fun k e he a => ?_,
    fun k e he => ?_, fun a q k e hq hh he => ?_, fun a q k e hq hwk he => ?_, fun k e he hs => ?_,
    fun a q k e hq hl he => ?_, fun a b q r k ha hq hb hr => ?_, fun t ht e he => ?_,
    fun hd k e he hs => ?_⟩
  · by_cases ha : a = op
    · exact ha ▸ hf.fresh
    · exact Nat.lt_of_lt_of_le (hw.fresh a q (hf.points a ha ▸ hq)) hf.nextOperation
  · by_cases hk : k = h
    · subst hk
      exact hknown e (hf.face ▸ he)
    · exact Nat.lt_of_lt_of_le (hw.known k e (hf.faces k hk ▸ he)) hf.nextHandle
  · by_cases hk : k = h
    · subst hk
      rw [hf.face]
      exact hwanted a q hq hwk
    · rw [hf.faces k hk]
      obtain ⟨hq', -⟩ := (hother hk).mp ⟨hq, hwk⟩
      exact hw.wanted a q k hq' hwk
  · by_cases hk : k = h
    · subst hk
      exact (hlock e (hf.face ▸ he)).2.1 a
    · rw [hw.mem_lock k e (hf.faces k hk ▸ he)]
      exact exists_congr fun q => (hother hk).symm
  · by_cases hk : k = h
    · subst hk
      exact (hlock e (hf.face ▸ he)).1
    · exact hw.nodup k e (hf.faces k hk ▸ he)
  · by_cases hk : k = h
    · subst hk
      exact (hlock e (hf.face ▸ he)).2.2 a q hq hh
    · obtain ⟨hq', -⟩ := (hother hk).mp ⟨hq, Point.wants?_of_holds? hh⟩
      exact hw.head a q k e hq' hh (hf.faces k hk ▸ he)
  · by_cases hk : k = h
    · subst hk
      exact hpending a q e hq hwk (hf.face ▸ he)
    · obtain ⟨hq', -⟩ := (hother hk).mp ⟨hq, hwk⟩
      exact hw.pending a q k e hq' hwk (hf.faces k hk ▸ he)
  · by_cases hk : k = h
    · subst hk
      exact hreg e (hf.face ▸ he) hs
    · obtain ⟨hsnap, a, ha⟩ := hw.registering k e (hf.faces k hk ▸ he) hs
      exact ⟨hsnap, a, ((hother hk).mpr ⟨ha, rfl⟩).1⟩
  · by_cases hk : k = h
    · subst hk
      exact hleaving a q e hq hl (hf.face ▸ he)
    · obtain ⟨hq', -⟩ := (hother hk).mp ⟨hq, Point.wants?_of_leaves? hl⟩
      exact hw.leaving a q k e hq' hl (hf.faces k hk ▸ he)
  · by_cases hk : k = h
    · subst hk
      exact honce a b q r ha hq hb hr
    · obtain ⟨ha', -⟩ := (hother hk).mp ⟨ha, Point.wants?_of_leaves? hq⟩
      obtain ⟨hb', -⟩ := (hother hk).mp ⟨hb, Point.wants?_of_leaves? hr⟩
      exact hw.once a b q r k ha' hq hb' hr
  · by_cases hk : t.job.handle = h
    · exact hworking t (hf.own t ht hk) hk e (by rw [← hf.face, ← hk]; exact he)
    · exact hw.working t (hf.others t ht hk) e (hf.faces _ hk ▸ he)
  · rw [hf.destroyed] at hd
    by_cases hk : k = h
    · subst hk
      exact hopening hd e (hf.face ▸ he) hs
    · obtain ⟨a, parent, ha⟩ := hw.opening hd k e (hf.faces k hk ▸ he) hs
      refine ⟨a, parent, ?_⟩
      rw [hf.points a fun hao => hk (hw.opening_of_whence hwh (hao ▸ ha))]
      exact ha

/-- The queue of an entry that an operation got on with. -/
theorem lock_of_passed (hw : Sound w) (hx : Scene w u op h (some face') p hs care)
    (he : w.face? h = some e) (hp : Orderly.Passed op e.lock face'.lock p h) :
    face'.lock.Nodup ∧
      (∀ a, a ∈ face'.lock ↔ ∃ q, u.point? a = some q ∧ q.wants? = some h) ∧
      ∀ a q, u.point? a = some q → q.holds? = some h → face'.lock.head? = some a := by
  obtain ⟨added, n, hf⟩ := hx.frame
  refine ⟨hp.nodup, fun a => ?_, fun a q hq hh => ?_⟩
  · by_cases ha : a = op
    · subst ha
      rw [hp.own, hf.point, Option.isSome_iff_exists]
      exact exists_congr fun q => ⟨fun hq => ⟨hq, hp.wants q hq⟩, And.left⟩
    · rw [hp.mem a ha, hw.mem_lock h e he, hf.points a ha]
  · by_cases ha : a = op
    · subst ha
      exact hp.head q (hf.point ▸ hq) hh
    · exact hp.others a ha (hw.head a q h e (hf.points a ha ▸ hq) hh he)

/-- An operation got on with an entry that is not pending afterwards. -/
theorem of_passed {e' : Entry} (hw : Sound w) (hx : Scene w u op h (some e') p hs care)
    (he : w.face? h = some e) (hp : Orderly.Passed op e.lock e'.lock p h)
    (hwh : Whence w op h)
    (hopen : ∀ k parent, w.point? op = some (.opening k parent) → e'.standing = .removed)
    (hpend : e'.standing ≠ .pending) (hne : ∀ q, p = some q → q ≠ .registering h)
    (hreg : e.standing = .pending → w.point? op = some (.registering h))
    (hgone : e.standing = .removed → e'.standing = .removed)
    (hleaves : ∀ q, p = some q → q.leaves? = some h → e'.standing = .removed ∧
      (e.standing ≠ .removed ∨ ∃ r, w.point? op = some r ∧ r.leaves? = some h))
    (hworking : ∀ t, care.Allows w h t → t.job.handle = h → e'.standing = .registered)
    (hopening : w.destroyed = true → e'.standing = .registered → e.standing = .registered) :
    Sound u := by
  obtain ⟨added, n, hf⟩ := hx.frame
  refine hw.of_scene hx hwh hp.wants (fun _ _ => ?_)
    (fun _ _ _ _ => ⟨_, rfl⟩) (fun f hfe => ?_) (fun a q f hq hwk hfe => ?_)
    (fun f hfe hs => ?_) (fun a q f hq hl hfe => ?_) (fun a b q r hq hl hr hl' => ?_)
    (fun t ht hh f hfe => ?_) fun hd f hfe hs => ?_
  · exact Nat.lt_of_lt_of_le (hw.known h e he) hf.nextHandle
  · cases hfe
    exact hw.lock_of_passed hx he hp
  · cases hfe
    refine iff_of_false hpend fun hqr => ?_
    subst hqr
    by_cases ha : a = op
    · exact hne _ (hf.point ▸ ha ▸ hq) rfl
    · have hq' := hf.points a ha ▸ hq
      exact ha (hw.holder_unique hq' rfl (hreg ((hw.pending a _ h e hq' rfl he).mpr rfl)) rfl)
  · cases hfe
    exact absurd hs hpend
  · cases hfe
    by_cases ha : a = op
    · exact (hleaves q (hf.point ▸ ha ▸ hq) hl).1
    · exact hgone (hw.leaving a q h e (hf.points a ha ▸ hq) hl he)
  · -- A newcomer among those that remove the entry is the first, or was one of them.
    have hnew : ∀ {a q}, a ≠ op → u.point? a = some q → q.leaves? = some h →
        ∀ r, p = some r → r.leaves? = some h → False := fun {a q} ha hq hl r hr hl' => by
      have hq' := hf.points a ha ▸ hq
      rcases (hleaves r hr hl').2 with hs | ⟨r', hr', hl''⟩
      · exact hs (hw.leaving a q h e hq' hl he)
      · exact ha (hw.once a op q r' h hq' hl hr' hl'')
    by_cases ha : a = op <;> by_cases hb : b = op
    · exact ha.trans hb.symm
    · exact (hnew hb hr hl' q (hf.point ▸ ha ▸ hq) hl).elim
    · exact (hnew ha hq hl r (hf.point ▸ hb ▸ hr) hl').elim
    · exact hw.once a b q r h (hf.points a ha ▸ hq) hl (hf.points b hb ▸ hr) hl'
  · cases hfe
    exact hworking t ht hh
  · cases hfe
    obtain ⟨a, parent, ha⟩ := hw.opening hd h e he (hopening hd hs)
    refine ⟨a, parent, ?_⟩
    rwa [hf.points a fun hao => ?_]
    cases hs.symm.trans (hopen h parent (hao ▸ ha))

/-! ## Steps -/

/-- Nobody serves an entry that is pending. -/
theorem not_pending (hw : Sound w) (he : w.face? h = some e) (hs : Serving w op h e) :
    e.standing ≠ .pending := by
  rcases hs with ⟨-, hreg⟩ | ⟨q, hq, hserves⟩
  · rw [hreg]
    decide
  · exact fun hp => hserves.ne ((hw.pending op q h e hq hserves.wants he).mp hp)

/-- An operation served an entry, and keeps its standing. -/
theorem of_serves {e' : Entry} (hw : Sound w) (hx : Scene w u op h (some e') p hs care)
    (he : w.face? h = some e) (hp : Orderly.Passed op e.lock e'.lock p h)
    (hs : Serving w op h e) (hst : e'.standing = e.standing) (hpoint : ∀ q, p = some q → q.Serves h)
    (hcare : w.isLive e = true ∨ ∀ t, care.Allows w h t → t ∈ w.schedule.live) : Sound u := by
  have hne := hw.not_pending he hs
  have hkeeps : e.standing ≠ .removed → e.standing = .registered := fun hr => by
    cases hst : e.standing with
    | pending => exact absurd hst hne
    | registered => rfl
    | removed => exact absurd hst hr
  refine hw.of_passed hx he hp hs.whence (fun k parent hq => ?_) (hst ▸ hne)
    (fun q hq => (hpoint q hq).ne) (fun hp => absurd hp hne) (fun hr => hst.trans hr)
    (fun q hq hl => ?_) (fun t ht hh => ?_) fun _ hr => hst.symm.trans hr
  · rcases hs with ⟨rfl, -⟩ | ⟨q, hq', hserves⟩
    · cases hw.point?_next.symm.trans hq
    · cases hq.symm.trans hq'
      exact hserves.elim
  · cases hl.symm.trans (hpoint q hq).leaves
  · rw [hst]
    rcases hcare with hl | hl
    · refine hkeeps fun hr => ?_
      simp [isLive, hr] at hl
    · exact hw.working t (hl t ht) e (by rw [hh]; exact he)

/-- What an operation takes out is not pending, unless it has just been fetched. -/
theorem of_takes {s : Option Snapshot} {l l' : List Nat} {remover : Remover} (hw : Sound w)
    (hx : Scene w u op h (some { e with snapshot := none, lock := l', standing := .removed }) p hs
      care)
    (he : w.face? h = some e) (hl : Leaving w m op h e remover s care g rm)
    (hh : Heads op e.lock l) (ht : Takes op h remover s l l' p hs) : Sound u := by
  have hp : Orderly.Passed op e.lock l' p h := by
    cases ht with
    | returns _ => exact hh.stays rfl
    | ends _ => exact hh.leaves
  have hfrom : (e.standing = .pending → w.point? op = some (.registering h)) ∧
      (e.standing ≠ .removed ∨ ∃ r, w.point? op = some r ∧ r.leaves? = some h) := by
    cases hl with
    | removes _ hs =>
      rw [hs]
      exact ⟨fun hs => (by cases hs), .inl (by decide)⟩
    | late _ hq _ _ _ =>
      refine ⟨fun _ => hq, .inl fun hr => ?_⟩
      cases ((hw.pending op _ h e hq rfl he).mpr rfl).symm.trans hr
    | waited hq hs =>
      rw [hs]
      exact ⟨fun hs => (by cases hs), .inr ⟨_, hq, rfl⟩⟩
  obtain ⟨hreg, hfirst⟩ := hfrom
  refine hw.of_passed hx he hp (Does.takes (u := u) he hl hh ht).whence (fun _ _ _ => rfl) (by simp)
    (fun q hq => ?_) hreg (fun _ => rfl) (fun q hq hl => ⟨rfl, hfirst⟩) (fun t hcare hth => ?_)
    fun _ hr => (by cases hr)
  · subst hq
    cases ht
    simp
  · cases hl with
    | removes | late => exact hcare.elim
    | waited _ hs => cases hs.symm.trans (hw.working t hcare e (by rw [hth]; exact he))

/-- Nobody has wanted an entry whose handle was not given out. -/
theorem not_wanted (hw : Sound w) (hh : w.nextHandle ≤ h.serial) {a : Nat} {q : Point}
    (hq : w.point? a = some q) : q.wants? ≠ some h := fun hwk => by
  obtain ⟨e, he⟩ := hw.wanted a q h hq hwk
  exact absurd (hw.known h e he) (Nat.not_lt.mpr hh)

theorem of_adds (hw : Sound w) (hx : Scene w u op h (some e) (some (.registering h)) hs .kept)
    (hop : op = w.nextOperation) (hh : h.serial = w.nextHandle) (hlt : w.nextHandle < u.nextHandle)
    (hs : e.standing = .pending) (hsnap : e.snapshot = none) (hl : e.lock = [op]) : Sound u := by
  obtain ⟨added, n, hf⟩ := hx.frame
  have hle : w.nextHandle ≤ h.serial := Nat.le_of_eq hh.symm
  have hnew : ∀ {a q}, u.point? a = some q → q.wants? = some h → a = op ∧ q = .registering h :=
    fun {a q} hq hwk => by
      by_cases ha : a = op
      · subst ha
        exact ⟨rfl, Option.some.inj (hq.symm.trans hf.point)⟩
      · exact absurd hwk (hw.not_wanted hle (hf.points a ha ▸ hq))
  have hstays : ∀ {a q}, u.point? a = some q → q.leaves? ≠ some h := fun hq hl' => by
    obtain ⟨-, rfl⟩ := hnew hq (Point.wants?_of_leaves? hl')
    cases hl'
  refine hw.of_scene hx (.begins hop) (fun q hq => (by cases hq; rfl))
    (fun _ _ => hh ▸ hlt) (fun _ _ _ _ => ⟨_, rfl⟩) (fun f hfe => ?_) (fun a q f hq hwk hfe => ?_)
    (fun f hfe hs => (by cases hfe; exact ⟨hsnap, op, hf.point⟩))
    (fun a q f hq hl' => absurd hl' (hstays hq))
    (fun a b q r hq hl' => absurd hl' (hstays hq)) (fun t ht hth => ?_) fun _ f hfe hr => ?_
  · cases hfe
    rw [hl]
    refine ⟨List.nodup_singleton _, fun a => ?_, fun a q hq hhold => ?_⟩
    · rw [List.mem_singleton]
      constructor
      · rintro rfl
        exact ⟨_, hf.point, rfl⟩
      · rintro ⟨q, hq, hwk⟩
        exact (hnew hq hwk).1
    · rw [(hnew hq (Point.wants?_of_holds? hhold)).1]
      rfl
  · cases hfe
    exact iff_of_true hs (hnew hq hwk).2
  · obtain ⟨f, hfe, -⟩ := hw.booked.slot_live t ht
    exact absurd (hw.known _ _ (face?_some hfe)) (Nat.not_lt.mpr (hth ▸ hle))
  · cases hfe
    cases hs.symm.trans hr

theorem of_forgets (hw : Sound w) (hx : Scene w u op h none none hs .kept)
    (hp : w.point? op = some (.registering h)) (he : w.face? h = some e) : Sound u := by
  obtain ⟨added, n, hf⟩ := hx.frame
  have hpend := (hw.pending op _ h e hp rfl he).mpr rfl
  -- Only the operation itself has waited for the entry.
  have hnone : ∀ {a q}, u.point? a = some q → q.wants? ≠ some h := fun {a q} hq hwk => by
    by_cases ha : a = op
    · subst ha
      cases hf.point.symm.trans hq
    · have hq' := hf.points a ha ▸ hq
      obtain rfl := (hw.pending a q h e hq' hwk he).mp hpend
      exact ha (hw.holder_unique hq' rfl hp rfl)
  refine hw.of_scene hx (.stands hp rfl) (fun _ hq => (by cases hq)) (fun _ hfe => (by cases hfe))
    (fun a q hq hwk => absurd hwk (hnone hq)) (fun _ hfe => (by cases hfe))
    (fun _ _ _ _ _ hfe => (by cases hfe)) (fun _ hfe => (by cases hfe))
    (fun _ _ _ _ _ hfe => (by cases hfe)) (fun a b q r hq hl => ?_)
    (fun _ _ _ _ hfe => (by cases hfe)) fun _ _ hfe => (by cases hfe)
  exact absurd (Point.wants?_of_leaves? hl) (hnone hq)

/-- Whatever an operation does to an entry keeps an engine sound. -/
theorem of_does (hw : Sound w) (hd : Does w u m op h face p hs care g rm)
    (hx : Scene w u op h face p hs care) : Sound u := by
  cases hd with
  | adds _ hop hh hlt hs hsnap hl => exact hw.of_adds hx hop hh hlt hs hsnap hl
  | forgets hq he _ _ => exact hw.of_forgets hx hq he
  | @registers e _ _ _ _ hq he hd hp _ =>
    have hpend := (hw.pending op _ h e hq rfl he).mpr rfl
    refine hw.of_passed hx he hp (.stands hq rfl) (fun _ _ hr => (by cases hq.symm.trans hr))
      (by simp) (fun _ hr => (by cases hr)) (fun _ => hq) (fun hr => ?_) (fun _ hr => (by cases hr))
      (fun _ _ _ => rfl) fun hd' => (by cases hd.symm.trans hd')
    cases hpend.symm.trans hr
  | joins he hop hs hp hq hcare =>
    exact hw.of_serves hx he hp (.inl ⟨hop, hs⟩) rfl (fun r hr => by cases hr; exact hq) (.inr hcare)
  | passes he hs hp _ _ hcare => exact hw.of_serves hx he hp hs rfl (fun _ hr => (by cases hr)) hcare
  | renews he hs hg _ _ hp =>
    exact hw.of_serves hx he hp hs rfl (fun r hr => by cases hr; exact rfl)
      (.inr fun _ => hg.mem_live)
  | fetches he hs hl hp _ =>
    exact hw.of_serves hx he hp hs rfl (fun r hr => by cases hr; exact rfl) (.inl hl)
  | installs he hq hserves _ hp _ hcare =>
    exact hw.of_serves hx he hp (.inr ⟨_, hq, hserves⟩) rfl (fun _ hr => (by cases hr)) hcare
  | waits he hr hs hp =>
    exact hw.of_passed hx he hp hr.whence (fun _ _ _ => rfl) (by simp)
      (fun q hq => (by cases hq; simp)) (fun hpend => (by cases hs.symm.trans hpend))
      (fun _ => rfl) (fun _ _ _ => ⟨rfl, .inl (by rw [hs]; decide)⟩) (fun _ hc => hc.elim)
      fun _ hr => (by cases hr)
  | takes he hl hh ht => exact hw.of_takes hx he hl hh ht
  | @returned e _ _ _ _ _ he hq hp _ =>
    have hrem := hw.leaving op _ h e hq rfl he
    refine hw.of_passed hx he hp (.stands hq rfl) (fun _ _ _ => hrem) (by rw [hrem]; simp)
      (fun _ hr => (by cases hr)) (fun hp => ?_) id (fun _ hr => (by cases hr))
      (fun t hcare hh => hw.working t hcare e (by rw [hh]; exact he)) fun _ => id
    cases hrem.symm.trans hp

/-- Nor does it matter to an engine what happens beside its entries. -/
theorem of_aside (hw : Sound w) (ha : Aside w u) : Sound u := by
  have hwants : ∀ {a q k}, u.point? a = some q → q.wants? = some k → w.point? a = some q :=
    fun hq hk => (ha.wants _ _ (by rw [hk]; simp)).mp hq
  have hopens : ∀ {a k parent e}, w.face? k = some e → e.standing = .registered →
      w.point? a = some (.opening k parent) → ∃ a parent, u.point? a = some (.opening k parent) :=
    fun he hs hq => ⟨_, _, ha.opens _ _ _ _ hq he hs⟩
  refine ⟨ha.booked, ha.fresh, fun k e he => ?_, fun a q k hq hk => ?_, fun k e he a => ?_,
    fun k e he => hw.nodup k e (ha.faces k ▸ he), fun a q k e hq hh he => ?_,
    fun a q k e hq hk he => ?_, fun k e he hs => ?_, fun a q k e hq hl he => ?_,
    fun a b q r k hq hl hr hl' => ?_, fun t ht e he => ?_, fun hd k e he hs => ?_⟩
  · exact Nat.lt_of_lt_of_le (hw.known k e (ha.faces k ▸ he)) ha.nextHandle
  · rw [ha.faces]
    exact hw.wanted a q k (hwants hq hk) hk
  · rw [hw.mem_lock k e (ha.faces k ▸ he)]
    refine exists_congr fun q => ⟨fun hq => ⟨?_, hq.2⟩, fun hq => ⟨hwants hq.1 hq.2, hq.2⟩⟩
    exact (ha.wants _ _ (by rw [hq.2]; simp)).mpr hq.1
  · exact hw.head a q k e (hwants hq (Point.wants?_of_holds? hh)) hh (ha.faces k ▸ he)
  · exact hw.pending a q k e (hwants hq hk) hk (ha.faces k ▸ he)
  · obtain ⟨hsnap, a, hq⟩ := hw.registering k e (ha.faces k ▸ he) hs
    exact ⟨hsnap, a, (ha.wants _ _ (by simp [Point.wants?])).mpr hq⟩
  · exact hw.leaving a q k e (hwants hq (Point.wants?_of_leaves? hl)) hl (ha.faces k ▸ he)
  · exact hw.once a b q r k (hwants hq (Point.wants?_of_leaves? hl)) hl
      (hwants hr (Point.wants?_of_leaves? hl')) hl'
  · exact hw.working t (ha.live t ht) e (ha.faces _ ▸ he)
  · rcases ha.shut hd with hd' | hnew
    · obtain ⟨a, parent, hq⟩ := hw.opening hd' k e (ha.faces k ▸ he) hs
      exact hopens (ha.faces k ▸ he) hs hq
    · exact hnew k e he hs

end Sound

end LeaseKeeper.Leases
