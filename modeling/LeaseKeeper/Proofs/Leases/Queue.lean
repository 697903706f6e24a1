import LeaseKeeper.Proofs.Leases.Advance

/-!
# The locks of a lease engine

The lock of an entry is held by the operation at the head of its queue. `Orderly` says that
the operations in the queue of an entry are just those that hold it or wait for it, and that
one which the server works for is the head. Nobody queues for two entries, and no handle is
given out twice. As long as an engine is not shut down, every turn keeps it orderly
(`Orderly.of_advance`).
-/

namespace LeaseKeeper.Leases

open World

/-- The queues for the locks, the operations and the entries go together. -/
structure Orderly (w : World) : Prop where
  booked : w.Booked
  calm : w.Calm
  silent : ∀ h, w.nextHandle ≤ h.serial → w.changes h = []
  wanted : ∀ op p h, w.point? op = some p → p.wants? = some h → ∃ e, w.face? h = some e
  mem_lock : ∀ h e, w.face? h = some e → ∀ op,
    op ∈ e.lock ↔ ∃ p, w.point? op = some p ∧ p.wants? = some h
  nodup : ∀ h e, w.face? h = some e → e.lock.Nodup
  head : ∀ op p h e, w.point? op = some p → p.holds? = some h → w.face? h = some e →
    e.lock.head? = some op

theorem Point.wants?_of_leaves? {p : Point} {h : Handle} (hp : p.leaves? = some h) :
    p.wants? = some h := by
  cases p with
  | queued k errand =>
    cases errand with
    | remove r => exact hp
    | act s a | rotate => cases hp
  | revoking k s r => exact hp
  | _ => cases hp

theorem orderly_initial (settings : Settings) (d : Discipline) (draws : Nat → Nat) :
    Orderly (initial settings d draws) where
  booked := booked_initial settings d draws
  calm :=
    { fresh := fun _ _ hp => by cases hp
      known := fun _ _ he => by cases he
      unclosed := fun _ _ hp => by cases hp
      leaving := fun _ _ _ _ hp => by cases hp
      pending := fun _ _ _ _ hp => by cases hp
      working := fun t ht => by cases ht }
  silent _ _ := rfl
  wanted _ _ _ hp := by cases hp
  mem_lock _ _ he := by cases he
  nodup _ _ he := by cases he
  head _ _ _ _ hp := by cases hp

variable {c : Prop} {w w' : World} {op n : Nat} {h : Handle} {e e' : Entry} {p : Option Point}
  {face : Option Entry} {added : List LeaseChange} {care : Care}

namespace Orderly

/-! ## What an orderly engine tells -/

/-- A number that was not given out stands nowhere. -/
theorem point?_next (ho : Orderly w) : w.point? w.nextOperation = none := by
  cases hp : w.point? w.nextOperation with
  | none => rfl
  | some p => exact absurd (ho.calm.fresh _ _ hp) (Nat.lt_irrefl _)

/-- Whoever comes for an entry has stood nowhere. -/
theorem point?_of_comes (ho : Orderly w) {errand : Errand} (hg : Comes w op h e errand care) :
    w.point? op = none := by
  rw [hg.op_eq]
  exact ho.point?_next

theorem holder_unique (ho : Orderly w) {a b : Nat} {p q : Point} (ha : w.point? a = some p)
    (hp : p.holds? = some h) (hb : w.point? b = some q) (hq : q.holds? = some h) : a = b := by
  obtain ⟨e, he⟩ := ho.wanted a p h ha (Point.wants?_of_holds? hp)
  exact Option.some.inj ((ho.head a p h e ha hp he).symm.trans (ho.head b q h e hb hq he))

/-- A task that can still start is of an entry. -/
theorem face?_of_live (ho : Orderly w) {t : Task Job} (ht : t ∈ w.schedule.live) :
    ∃ e, w.face? t.job.handle = some e ∧ e.standing = .registered := by
  obtain ⟨e, he, -⟩ := ho.booked.slot_live t ht
  exact ⟨e.bare, face?_some he, ho.calm.working t ht _ (face?_some he)⟩

/-! ## Handing the lock over -/

/-- Whoever has the lock is the head of the queue. -/
theorem holds (ho : Orderly w) (he : w.face? h = some e) {l : List Nat} (hl : Holds w op h e.lock l) :
    l.head? = some op ∧ l.Nodup ∧ ∀ a, a ≠ op → (a ∈ l ↔ a ∈ e.lock) := by
  generalize hk : e.lock = k at hl
  cases hl with
  | free hop => exact ⟨rfl, List.nodup_singleton _, fun a ha => by simp [ha]⟩
  | waited hp hh => exact ⟨hh, hk ▸ ho.nodup h e he, fun _ _ => Iff.rfl⟩
  | holds hp hh => exact ⟨hk ▸ ho.head op _ h e hp hh he, hk ▸ ho.nodup h e he, fun _ _ => Iff.rfl⟩

/-- What getting on with an entry does to its queue: just the operation's own place in it
changes, and another one that is the head stays so. -/
structure Passed (op : Nat) (l l' : List Nat) (p : Option Point) (h : Handle) : Prop where
  nodup : l'.Nodup
  mem : ∀ a, a ≠ op → (a ∈ l' ↔ a ∈ l)
  own : op ∈ l' ↔ p.isSome = true
  head : ∀ q, p = some q → q.holds? = some h → l'.head? = some op
  others : ∀ a, a ≠ op → l.head? = some a → l'.head? = some a
  wants : ∀ q, p = some q → q.wants? = some h

theorem passed (ho : Orderly w) (he : w.face? h = some e) {l : List Nat}
    (hq : Queues w op h e.lock l p) : Passed op e.lock l p h := by
  have hnd := ho.nodup h e he
  have hsame : ∀ {l'}, Holds w op h e.lock l' → ∀ a, a ≠ op → e.lock.head? = some a →
      l'.head? = some a := fun {l'} hl a ha hh => by
    generalize hk : e.lock = k at hl hh
    cases hl with
    | free _ => cases hh
    | waited _ hh' => exact absurd (Option.some.inj (hh.symm.trans hh')) ha
    | holds hp hh' => exact hh
  generalize hk : e.lock = k at hq
  cases hq with
  | joins hop hne =>
    have hn : op ∉ k := fun hm => by
      obtain ⟨q, hq, -⟩ := (ho.mem_lock h e he op).mp (hk ▸ hm)
      rw [hop, ho.point?_next] at hq
      cases hq
    refine ⟨?_, fun a ha => by simp [ha], by simp, fun q hq hh => ?_, fun a _ hh => ?_, fun q hq => ?_⟩
    · refine List.nodup_append.mpr ⟨hk ▸ hnd, List.nodup_singleton _, fun a ha b hb hab => hn ?_⟩
      rw [List.mem_singleton] at hb
      exact hb ▸ hab ▸ ha
    · cases hq
      cases hh
    · rw [List.head?_append, hh]
      rfl
    · cases hq
      rfl
  | stays hl hp =>
    subst hk
    obtain ⟨hh, hnd', hm⟩ := ho.holds he hl
    refine ⟨hnd', hm, ⟨fun _ => rfl, fun _ => List.mem_of_mem_head? hh⟩, fun _ _ _ => hh,
      hsame hl, fun r hr => ?_⟩
    cases hr
    exact Point.wants?_of_holds? hp
  | leaves hl =>
    subst hk
    obtain ⟨hh, hnd', hm⟩ := ho.holds he hl
    refine ⟨hnd'.filter _, fun a ha => ?_, by simp, fun q hq => (by cases hq), fun a ha hah => ?_,
      fun q hq => (by cases hq)⟩
    · rw [List.mem_filter, hm a ha]
      simp [ha]
    · exact absurd (Option.some.inj ((hsame hl a ha hah).symm.trans hh)) ha

/-- An operation that gets on with an entry wanted no other before. -/
theorem wants_of_queues (ho : Orderly w) {l l' : List Nat} (hq : Queues w op h l l' p) {q : Point}
    (hp : w.point? op = some q) : q.wants? = some h := by
  have hnext : op = w.nextOperation → q.wants? = some h := fun hop => by
    rw [hop, ho.point?_next] at hp
    cases hp
  have hholds : ∀ {m m'}, Holds w op h m m' → q.wants? = some h := fun hl => by
    cases hl with
    | free hop => exact hnext hop
    | waited hp' _ =>
      cases hp.symm.trans hp'
      rfl
    | holds hp' hh =>
      cases hp.symm.trans hp'
      exact Point.wants?_of_holds? hh
  cases hq with
  | joins hop _ => exact hnext hop
  | stays hl _ | leaves hl => exact hholds hl

/-! ## What keeps it -/

/-- Away from the entry that an operation gets on with, an engine that is calm stays so. -/
theorem calm_of_frame (ho : Orderly w) (hf : Frame c w w' op h face p added care n)
    (hwant : ∀ q, w.point? op = some q → q.wants? = some h)
    (hpoint : ∀ q, p = some q → q.wants? = some h ∧ q.isClosing = false)
    (hknown : ∀ e, face = some e → h.serial < w'.nextHandle)
    (hleaving : ∀ a q e, w'.point? a = some q → q.leaves? = some h → face = some e →
      e.standing = .removed)
    (hpending : ∀ a q e, w'.point? a = some q → q.wants? = some h → face = some e →
      (e.standing = .pending ↔ q = .registering h))
    (hworking : ∀ t, care.Allows w h t → t.job.handle = h → ∀ e, face = some e →
      e.standing = .registered) : w'.Calm := by
  have hother : ∀ {a q k}, k ≠ h → w'.point? a = some q → q.wants? = some k → w.point? a = some q :=
    fun {a q k} hk hq hw => by
      by_cases ha : a = op
      · subst ha
        exact absurd (Option.some.inj (hw.symm.trans (hpoint q (hf.point ▸ hq)).1)) hk
      · exact hf.points a ha ▸ hq
  refine ⟨fun a q hq => ?_, fun k e he => ?_, fun a q hq => ?_, fun a q k e hq hl he => ?_,
    fun a q k e hq hl he => ?_, fun t ht e he => ?_⟩
  · by_cases ha : a = op
    · exact ha ▸ hf.fresh
    · exact Nat.lt_of_lt_of_le (ho.calm.fresh a q (hf.points a ha ▸ hq)) hf.nextOperation
  · by_cases hk : k = h
    · subst hk
      exact hknown e (hf.face ▸ he)
    · exact Nat.lt_of_lt_of_le (ho.calm.known k e (hf.faces k hk ▸ he)) hf.nextHandle
  · by_cases ha : a = op
    · subst ha
      exact (hpoint q (hf.point ▸ hq)).2
    · exact ho.calm.unclosed a q (hf.points a ha ▸ hq)
  · by_cases hk : k = h
    · subst hk
      exact hleaving a q e hq hl (hf.face ▸ he)
    · exact ho.calm.leaving a q k e (hother hk hq (Point.wants?_of_leaves? hl)) hl (hf.faces k hk ▸ he)
  · by_cases hk : k = h
    · subst hk
      exact hpending a q e hq hl (hf.face ▸ he)
    · exact ho.calm.pending a q k e (hother hk hq hl) hl (hf.faces k hk ▸ he)
  · by_cases hk : t.job.handle = h
    · exact hworking t (hf.own t ht hk) hk e (by rw [← hf.face, ← hk]; exact he)
    · exact ho.calm.working t (hf.others t ht hk) e (hf.faces _ hk ▸ he)

/-- So does one that is orderly. -/
theorem of_frame (ho : Orderly w) (hf : Frame c w w' op h face p added care n) (hcalm : w'.Calm)
    (hwant : ∀ q, w.point? op = some q → q.wants? = some h)
    (hpoint : ∀ q, p = some q → q.wants? = some h)
    (hsilent : w'.nextHandle ≤ h.serial → w.changes h ++ added = [])
    (hwanted : ∀ a q, w'.point? a = some q → q.wants? = some h → ∃ e, face = some e)
    (hlock : ∀ e, face = some e → e.lock.Nodup ∧
      (∀ a, a ∈ e.lock ↔ ∃ q, w'.point? a = some q ∧ q.wants? = some h) ∧
      ∀ a q, w'.point? a = some q → q.holds? = some h → e.lock.head? = some a) : Orderly w' := by
  have hother : ∀ {a q k}, k ≠ h → (w'.point? a = some q ∧ q.wants? = some k ↔
      w.point? a = some q ∧ q.wants? = some k) := fun {a q k} hk => by
    by_cases ha : a = op
    · subst ha
      constructor
      · rintro ⟨hq, hw⟩
        exact absurd (Option.some.inj (hw.symm.trans (hpoint q (hf.point ▸ hq)))) hk
      · rintro ⟨hq, hw⟩
        exact absurd (Option.some.inj (hw.symm.trans (hwant q hq))) hk
    · rw [hf.points a ha]
  refine ⟨hf.booked, hcalm, fun k hk => ?_, fun a q k hq hw => ?_, fun k e he a => ?_,
    fun k e he => ?_, fun a q k e hq hh he => ?_⟩
  · by_cases hkh : k = h
    · subst hkh
      exact hf.change.trans (hsilent hk)
    · rw [hf.changes k hkh]
      exact ho.silent k (Nat.le_trans hf.nextHandle hk)
  · by_cases hkh : k = h
    · subst hkh
      rw [hf.face]
      exact hwanted a q hq hw
    · rw [hf.faces k hkh]
      obtain ⟨hq', -⟩ := (hother hkh).mp ⟨hq, hw⟩
      exact ho.wanted a q k hq' hw
  · by_cases hkh : k = h
    · subst hkh
      exact (hlock e (hf.face ▸ he)).2.1 a
    · rw [ho.mem_lock k e (hf.faces k hkh ▸ he)]
      exact exists_congr fun q => (hother hkh).symm
  · by_cases hkh : k = h
    · subst hkh
      exact (hlock e (hf.face ▸ he)).1
    · exact ho.nodup k e (hf.faces k hkh ▸ he)
  · by_cases hkh : k = h
    · subst hkh
      exact (hlock e (hf.face ▸ he)).2.2 a q hq hh
    · obtain ⟨hq', -⟩ := (hother hkh).mp ⟨hq, Point.wants?_of_holds? hh⟩
      exact ho.head a q k e hq' hh (hf.faces k hkh ▸ he)

/-- The queue of an entry that an operation got on with. -/
theorem lock_of_passed (ho : Orderly w) (hf : Frame c w w' op h (some e') p added care n)
    (he : w.face? h = some e) (hp : Passed op e.lock e'.lock p h) :
    e'.lock.Nodup ∧ (∀ a, a ∈ e'.lock ↔ ∃ q, w'.point? a = some q ∧ q.wants? = some h) ∧
      ∀ a q, w'.point? a = some q → q.holds? = some h → e'.lock.head? = some a := by
  refine ⟨hp.nodup, fun a => ?_, fun a q hq hh => ?_⟩
  · by_cases ha : a = op
    · subst ha
      rw [hp.own, hf.point, Option.isSome_iff_exists]
      exact exists_congr fun q => ⟨fun hq => ⟨hq, hp.wants q hq⟩, And.left⟩
    · rw [hp.mem a ha, ho.mem_lock h e he, hf.points a ha]
  · by_cases ha : a = op
    · subst ha
      exact hp.head q (hf.point ▸ hq) hh
    · exact hp.others a ha (ho.head a q h e (hf.points a ha ▸ hq) hh he)

/-! ## Every turn keeps it -/

theorem not_pending (ho : Orderly w) (he : w.face? h = some e) {q : Point}
    (hp : w.point? op = some q) (hw : q.wants? = some h) (hq : q ≠ .registering h) :
    e.standing ≠ .pending :=
  fun hs => hq ((ho.calm.pending op q h e hp hw he).mp hs)

theorem not_pending_of_gets (ho : Orderly w) (he : w.face? h = some e) {errand : Errand}
    (hg : Gets w op h e errand care) : e.standing ≠ .pending := by
  cases hg with
  | comes hg => rw [hg.registered]; decide
  | enters hp => exact ho.not_pending he hp rfl (by simp)

/-- An entry that is worked on and not removed is registered afterwards, and before unless its
first fetch has ended. -/
theorem standing_of_works (ho : Orderly w) (he : w.face? h = some e) {s : Option Snapshot}
    {st : Standing} (hr : st ≠ .removed) (hk : Works w op h e s st p added care n) :
    st = .registered ∧
      (e.standing = .registered ∨ w.point? op = some (.registering h) ∧ p = none) := by
  have hkeeps : ∀ {st : Standing}, st ≠ .removed → st ≠ .pending → st = .registered := by
    intro st h h'
    cases st with
    | pending => exact absurd rfl h'
    | registered => rfl
    | removed => exact absurd rfl h
  have hboth : st = e.standing → e.standing ≠ .pending → st = .registered ∧
      (e.standing = .registered ∨ w.point? op = some (.registering h) ∧ p = none) := fun hs hp => by
    have hs' := hkeeps (hs ▸ hr) hp
    exact ⟨hs.trans hs', .inl hs'⟩
  cases hk with
  | joins hg => exact hboth rfl (by rw [hg.registered]; decide)
  | passes hg _ | asksAgain hg _ | renews hg _ | loses hg _ _ | drops hg _ _ =>
    exact hboth rfl (ho.not_pending_of_gets he hg)
  | registers hp _ _ | registersBare hp _ => exact ⟨rfl, .inr ⟨hp, rfl⟩⟩
  | renewed hp _ _ _ => exact hboth rfl (ho.not_pending he hp rfl (by simp))
  | retained hp => exact hboth rfl (ho.not_pending he hp rfl (by simp))
  | failsAndLoses hp _ => exact hboth rfl (ho.not_pending he hp rfl (by simp))
  | failsAndDrops hp _ => exact hboth rfl (ho.not_pending he hp rfl (by simp))
  | rotated hp _ _ => exact hboth rfl (ho.not_pending he hp rfl (by simp))
  | refused hp _ => exact hboth rfl (ho.not_pending he hp rfl (by simp))
  | lost hp _ => exact hboth rfl (ho.not_pending he hp rfl (by simp))

/-- What the end of the first fetch brings. -/
theorem first_of_works (ho : Orderly w) (he : w.face? h = some e) {s : Option Snapshot}
    {st : Standing} (hp : w.point? op = some (.registering h))
    (hk : Works w op h e s st p added care n) :
    (∃ r, s = some r ∧ r.serial = w.nextSnapshot ∧ added = [.created r.lease r.data] ∧
      Cares w r (wantsCare e r.lease) care ∧ n = w.nextSnapshot + 1) ∨
    ∃ t k, s = none ∧ added = [k] ∧ Misses (Lease.absent t) k ∧ care = .kept ∧
      n = w.nextSnapshot := by
  have hs := (ho.calm.pending op _ h e hp rfl he).mpr rfl
  have hgets : ∀ {errand care}, ¬ Gets w op h e errand care :=
    fun hg => ho.not_pending_of_gets he hg hs
  cases hk with
  | registers _ hser hc => exact .inl ⟨_, rfl, hser, rfl, hc, rfl⟩
  | registersBare _ hm => exact .inr ⟨_, _, rfl, rfl, hm, rfl, rfl⟩
  | joins hg => exact absurd (.comes hg) hgets
  | passes hg _ | asksAgain hg _ | renews hg _ | loses hg _ _ | drops hg _ _ => exact absurd hg hgets
  | renewed hp' _ _ _ => cases hp.symm.trans hp'
  | retained hp' => cases hp.symm.trans hp'
  | failsAndLoses hp' _ => cases hp.symm.trans hp'
  | failsAndDrops hp' _ => cases hp.symm.trans hp'
  | rotated hp' _ _ => cases hp.symm.trans hp'
  | refused hp' _ => cases hp.symm.trans hp'
  | lost hp' _ => cases hp.symm.trans hp'

/-- Nobody registers an entry that is registered. -/
theorem not_registering (ho : Orderly w) (he : w.face? h = some e) (hs : e.standing = .registered) :
    w.point? op ≠ some (.registering h) := fun hp => by
  cases ((ho.calm.pending op _ h e hp rfl he).mpr rfl).symm.trans hs

/-- Where an operation stands that works on an entry. -/
theorem point_of_works {s : Option Snapshot} {st : Standing} {q : Point}
    (hk : Works w op h e s st (some q) added care n) :
    q.isClosing = false ∧ q.leaves? = none ∧ q ≠ .registering h := by
  cases hk with
  | joins hg => cases hg <;> exact ⟨rfl, rfl, by simp⟩
  | _ => exact ⟨rfl, rfl, by simp⟩

theorem of_works (ho : Orderly w) {s : Option Snapshot} {l : List Nat} {st : Standing}
    (hf : Frame c w w' op h (some { e with snapshot := s, lock := l, standing := st }) p added care n)
    (he : w.face? h = some e) (hr : st ≠ .removed) (hq : Queues w op h e.lock l p)
    (hk : Works w op h e s st p added care n) : Orderly w' := by
  have hp := ho.passed he hq
  obtain ⟨rfl, hs⟩ := ho.standing_of_works he hr hk
  have hlt : h.serial < w'.nextHandle := Nat.lt_of_lt_of_le (ho.calm.known h e he) hf.nextHandle
  have hcalm : w'.Calm := by
    refine ho.calm_of_frame hf (fun q => ho.wants_of_queues hq) (fun q hq => ?_) (fun _ _ => hlt)
      (fun a q f hqa hl hfe => ?_) (fun a q f hqa hw hfe => ?_) fun t ht hth f hfe => ?_
    · subst hq
      exact ⟨hp.wants q rfl, (point_of_works hk).1⟩
    · by_cases ha : a = op
      · subst ha
        rw [hf.point] at hqa
        subst hqa
        cases hl.symm.trans (point_of_works hk).2.1
      · have hq' := hf.points a ha ▸ hqa
        have hrem := ho.calm.leaving a q h e hq' hl he
        rcases hs with hs | ⟨hp', -⟩
        · cases hs.symm.trans hrem
        · cases hrem.symm.trans ((ho.calm.pending op _ h e hp' rfl he).mpr rfl)
    · cases hfe
      refine ⟨fun hn => (by cases hn), ?_⟩
      rintro rfl
      by_cases ha : a = op
      · subst ha
        rw [hf.point] at hqa
        subst hqa
        exact absurd rfl (point_of_works hk).2.2
      · have hq' := hf.points a ha ▸ hqa
        have hpend := (ho.calm.pending a _ h e hq' rfl he).mpr rfl
        rcases hs with hs | ⟨hp', -⟩
        · cases hs.symm.trans hpend
        · exact absurd (ho.holder_unique hq' rfl hp' rfl) ha
    · cases hfe
      rfl
  exact ho.of_frame hf hcalm (fun q => ho.wants_of_queues hq) hp.wants
    (fun hle => absurd hlt (Nat.not_lt.mpr hle)) (fun _ _ _ _ => ⟨_, rfl⟩)
    fun f hfe => by cases hfe; exact ho.lock_of_passed hf he hp

theorem of_removes (ho : Orderly w) {s : Option Snapshot} {l : List Nat}
    (hf : Frame c w w' op h (some { e with snapshot := s, lock := l, standing := .removed }) p added
      care n)
    (he : w.face? h = some e) (hne : e.standing ≠ .pending) (hq : Queues w op h e.lock l p)
    (hret : Retires h p) (hcare : care = .cancelled ∨ care = .kept ∧ e.standing = .removed) :
    Orderly w' := by
  have hp := ho.passed he hq
  have hlt : h.serial < w'.nextHandle := Nat.lt_of_lt_of_le (ho.calm.known h e he) hf.nextHandle
  have hcalm : w'.Calm := by
    refine ho.calm_of_frame hf (fun q => ho.wants_of_queues hq) (fun q hq => ?_) (fun _ _ => hlt)
      (fun a q f hqa hl hfe => ?_) (fun a q f hqa hw hfe => ?_) fun t ht hth f hfe => ?_
    · refine ⟨hp.wants q hq, ?_⟩
      subst hq
      cases hret <;> rfl
    · cases hfe
      rfl
    · cases hfe
      refine ⟨fun hn => (by cases hn), ?_⟩
      rintro rfl
      by_cases ha : a = op
      · subst ha
        rw [hf.point] at hqa
        subst hqa
        cases hret
      · exact absurd ((ho.calm.pending a _ h e (hf.points a ha ▸ hqa) rfl he).mpr rfl) hne
    · rcases hcare with rfl | ⟨rfl, hrem⟩
      · exact ht.elim
      · have := ho.calm.working t ht e (by rw [hth]; exact he)
        cases this.symm.trans hrem
  exact ho.of_frame hf hcalm (fun q => ho.wants_of_queues hq) hp.wants
    (fun hle => absurd hlt (Nat.not_lt.mpr hle)) (fun _ _ _ _ => ⟨_, rfl⟩)
    fun f hfe => by cases hfe; exact ho.lock_of_passed hf he hp

/-- Nobody wants an entry whose handle was not given out. -/
theorem not_wanted (ho : Orderly w) (hh : w.nextHandle ≤ h.serial) {a : Nat} {q : Point}
    (hq : w.point? a = some q) : q.wants? ≠ some h := fun hw => by
  obtain ⟨e, he⟩ := ho.wanted a q h hq hw
  exact absurd (ho.calm.known h e he) (Nat.not_lt.mpr hh)

/-- Nor does it have a task. -/
theorem not_tasked (ho : Orderly w) (hh : w.nextHandle ≤ h.serial) {t : Task Job}
    (ht : t ∈ w.schedule.live) : t.job.handle ≠ h := fun hth => by
  obtain ⟨e, he, -⟩ := ho.face?_of_live ht
  exact absurd (ho.calm.known _ e he) (Nat.not_lt.mpr (hth ▸ hh))

theorem of_adds (ho : Orderly w)
    (hf : Frame c w w' op h (some e) (some (.registering h)) [] .kept n)
    (hop : op = w.nextOperation) (hh : h.serial = w.nextHandle) (hlt : w.nextHandle < w'.nextHandle)
    (hs : e.standing = .pending) (hl : e.lock = [op]) : Orderly w' := by
  have hle : w.nextHandle ≤ h.serial := Nat.le_of_eq hh.symm
  have hwant : ∀ q, w.point? op = some q → q.wants? = some h := fun q hq => by
    rw [hop, ho.point?_next] at hq
    cases hq
  have hnew : ∀ {a q}, w'.point? a = some q → q.wants? = some h → a = op ∧ q = .registering h :=
    fun {a q} hq hw => by
      by_cases ha : a = op
      · subst ha
        exact ⟨rfl, Option.some.inj (hq.symm.trans hf.point)⟩
      · exact absurd hw (ho.not_wanted hle (hf.points a ha ▸ hq))
  have hcalm : w'.Calm := by
    refine ho.calm_of_frame hf hwant (fun q hq => ?_) (fun _ _ => hh ▸ hlt)
      (fun a q f hqa hl hfe => ?_) (fun a q f hqa hw hfe => ?_) fun t ht hth f hfe => ?_
    · cases hq
      exact ⟨rfl, rfl⟩
    · obtain ⟨-, rfl⟩ := hnew hqa (Point.wants?_of_leaves? hl)
      cases hl
    · obtain ⟨-, rfl⟩ := hnew hqa hw
      cases hfe
      exact ⟨fun _ => rfl, fun _ => hs⟩
    · exact absurd hth (ho.not_tasked hle ht)
  refine ho.of_frame hf hcalm hwant (fun q hq => (by cases hq; rfl)) (fun hle' => ?_)
    (fun _ _ _ _ => ⟨_, rfl⟩) fun f hfe => ?_
  · exact absurd (hh ▸ hlt) (Nat.not_lt.mpr hle')
  · cases hfe
    rw [hl]
    refine ⟨List.nodup_singleton _, fun a => ?_, fun a q hq hhold => ?_⟩
    · rw [List.mem_singleton]
      constructor
      · rintro rfl
        exact ⟨_, hf.point, rfl⟩
      · rintro ⟨q, hq, hw⟩
        exact (hnew hq hw).1
    · rw [(hnew hq (Point.wants?_of_holds? hhold)).1]
      rfl

theorem of_forgets (ho : Orderly w) (hf : Frame c w w' op h none none [] .kept n)
    (hp : w.point? op = some (.registering h)) : Orderly w' := by
  obtain ⟨e, he⟩ := ho.wanted op _ h hp rfl
  have hpend := (ho.calm.pending op _ h e hp rfl he).mpr rfl
  have hwant : ∀ q, w.point? op = some q → q.wants? = some h := fun q hq => by
    cases hp.symm.trans hq
    rfl
  -- Only the operation itself has waited for the entry.
  have hnone : ∀ {a q}, w'.point? a = some q → q.wants? ≠ some h := fun {a q} hq hw => by
    by_cases ha : a = op
    · subst ha
      cases hf.point.symm.trans hq
    · have hq' := hf.points a ha ▸ hq
      have hr := (ho.calm.pending a q h e hq' hw he).mp hpend
      subst hr
      exact ha (ho.holder_unique hq' rfl hp rfl)
  have hcalm : w'.Calm :=
    ho.calm_of_frame hf hwant (fun q hq => (by cases hq)) (fun _ hfe => (by cases hfe))
      (fun _ _ _ _ _ hfe => (by cases hfe)) (fun _ _ _ _ _ hfe => (by cases hfe))
      fun _ _ _ _ hfe => by cases hfe
  refine ho.of_frame hf hcalm hwant (fun q hq => (by cases hq)) (fun hle => ?_)
    (fun a q hq hw => absurd hw (hnone hq)) fun f hfe => by cases hfe
  exact absurd (Nat.lt_of_lt_of_le (ho.calm.known h e he) hf.nextHandle) (Nat.not_lt.mpr hle)

theorem of_quiet (ho : Orderly w) (hq : Quiet w w') : Orderly w' where
  booked := hq.booked
  calm :=
    { fresh := fun a q hp => Nat.lt_of_lt_of_le (ho.calm.fresh a q (hq.points a ▸ hp)) hq.nextOperation
      known := fun h e he => Nat.lt_of_lt_of_le (ho.calm.known h e (hq.faces h ▸ he)) hq.nextHandle
      unclosed := fun a q hp => ho.calm.unclosed a q (hq.points a ▸ hp)
      leaving := fun a q h e hp hl he =>
        ho.calm.leaving a q h e (hq.points a ▸ hp) hl (hq.faces h ▸ he)
      pending := fun a q h e hp hw he =>
        ho.calm.pending a q h e (hq.points a ▸ hp) hw (hq.faces h ▸ he)
      working := fun t ht e he => ho.calm.working t (hq.live t ht) e (hq.faces _ ▸ he) }
  silent h hh := by
    rw [hq.changes]
    exact ho.silent h (Nat.le_trans hq.nextHandle hh)
  wanted a q h hp hw := by
    rw [hq.faces]
    exact ho.wanted a q h (hq.points a ▸ hp) hw
  mem_lock h e he a := by
    rw [ho.mem_lock h e (hq.faces h ▸ he), hq.points]
  nodup h e he := ho.nodup h e (hq.faces h ▸ he)
  head a q h e hp hh he := ho.head a q h e (hq.points a ▸ hp) hh (hq.faces h ▸ he)

theorem of_advance (ho : Orderly w) (ha : Advance w w') : Orderly w' := by
  cases ha with
  | rests hq => exact ho.of_quiet hq
  | acts hf hd =>
    cases hd with
    | adds hop hh hlt hs _ hl => exact ho.of_adds hf hop hh hlt hs hl
    | forgets hp => exact ho.of_forgets hf hp
    | removes he hne hq hret _ hcare => exact ho.of_removes hf he hne hq hret hcare
    | works he hr hq hk => exact ho.of_works hf he hr hq hk

/-- An operation that gets on with an entry wanted no other before. -/
theorem wants_of_deed (ho : Orderly w) (hd : Deed w w' op h face p added care n) {q : Point}
    (hq : w.point? op = some q) : q.wants? = some h := by
  cases hd with
  | adds hop _ _ _ _ _ =>
    rw [hop, ho.point?_next] at hq
    cases hq
  | forgets hp =>
    cases hp.symm.trans hq
    rfl
  | removes _ _ hqs _ _ _ | works _ _ hqs _ => exact ho.wants_of_queues hqs hq

/-- Nor does it want another afterwards. -/
theorem wants_after_deed (ho : Orderly w) (hd : Deed w w' op h face p added care n) {q : Point}
    (hq : p = some q) : q.wants? = some h := by
  cases hd with
  | adds _ _ _ _ _ _ =>
    cases hq
    rfl
  | forgets _ => cases hq
  | removes he _ hqs _ _ _ | works he _ hqs _ => exact (ho.passed he hqs).wants q hq

end Orderly

end LeaseKeeper.Leases
