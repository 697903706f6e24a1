import LeaseKeeper.Proofs.Leases.Removal
import LeaseKeeper.Proofs.Leases.Renaming

/-!
# Chronicles

The chronicle of a secret tells, with the time, what is done about it and what comes of that: what
somebody asks for, when its task is started, when an operation on it is resumed or answered, what is
published about it and called for it, what its operations result in, and which value is read from then
on (`chronicle`). A step about another secret adds nothing to it (`World.signs_of_foreign`). Where
nothing is done about any other secret, what is done about the secret determines the rest of its
chronicle (`chronicle_of_deeds`).
-/

namespace LeaseKeeper.Leases

open World

/-! ## What is seen of a secret -/

def Happening.operation? : Happening → Option Nat
  | published _ => none
  | called op _ _ => some op
  | ended op _ => some op

/-- Something that is done about a secret, or comes of it. -/
inductive Sign where
  /-- The scheduler is stopped. -/
  | stopped
  /-- Somebody asks for something, and an operation begins. -/
  | asked (op : Nat) (request : Request)
  /-- The task of the secret is started, and an operation begins. -/
  | started (op : Nat)
  /-- An operation goes on with the lock that was handed to it. -/
  | resumed (op : Nat)
  /-- The call of an operation is answered. -/
  | answered (op : Nat) (reply : Reply)
  | happened (x : Happening)
  /-- What is read of the secret from now on. -/
  | shown (value : Option (Lease × SecretData))

namespace Sign

def operation? : Sign → Option Nat
  | asked op _ => some op
  | started op => some op
  | resumed op => some op
  | answered op _ => some op
  | happened x => x.operation?
  | stopped => none
  | shown _ => none

def rename (σ : Nat → Nat) : Sign → Sign
  | asked op q => asked (σ op) q
  | started op => started (σ op)
  | resumed op => resumed (σ op)
  | answered op k => answered (σ op) k
  | happened x => happened (x.rename σ)
  | stopped => stopped
  | shown value => shown value

/-- Whether it is done about the secret, and does not come of that. -/
def isDeed : Sign → Bool
  | happened _ => false
  | shown _ => false
  | _ => true

theorem rename_congr {σ τ : Nat → Nat} {x : Sign} (h : ∀ a, x.operation? = some a → τ a = σ a) :
    x.rename τ = x.rename σ := by
  cases x with
  | asked op q => exact congrArg (asked · q) (h op rfl)
  | started op => exact congrArg started (h op rfl)
  | resumed op => exact congrArg resumed (h op rfl)
  | answered op k => exact congrArg (answered · k) (h op rfl)
  | happened x =>
    cases x with
    | published event => rfl
    | called op k c => exact congrArg (fun a => happened (.called a k c)) (h op rfl)
    | ended op o => exact congrArg (fun a => happened (.ended a o)) (h op rfl)
  | stopped => rfl
  | shown value => rfl

theorem rename_rename (σ τ : Nat → Nat) (x : Sign) : (x.rename σ).rename τ = x.rename (τ ∘ σ) := by
  cases x with
  | happened x => cases x <;> rfl
  | _ => rfl

theorem rename_injective {σ : Nat → Nat} (hσ : Function.Injective σ) :
    Function.Injective (rename σ) := by
  obtain ⟨τ, hτ⟩ := hσ.hasLeftInverse
  have hid : ∀ x : Sign, (x.rename σ).rename τ = x := fun x => by
    rw [rename_rename, hτ.comp_eq_id]
    cases x with
    | happened x => cases x <;> rfl
    | _ => rfl
  exact Function.LeftInverse.injective hid

end Sign

/-- What a move is for the secret that it is about; an operation that it begins has number `n`. -/
def Move.sign? (n : Nat) : Move → Option Sign
  | begin q => some (.asked n q)
  | fire _ => some (.started n)
  | fireNext => some (.started n)
  | enter op => some (.resumed op)
  | answer op k => some (.answered op k)
  | _ => none

namespace World

/-- What a move does about a secret. Nothing is done in an engine that nobody holds. -/
def cue? (w : World) (h : Handle) (m : Move) : Option Sign :=
  if w.isAlive then
    match m with
    | .stop => some .stopped
    | m => if w.subject? m = some h then m.sign? w.nextOperation else none
  else none

/-- The secret that an operation is on, which is under way or begins with a move. -/
def operand? (w : World) (m : Move) (op : Nat) : Option Handle :=
  if op = w.nextOperation then w.subject? m else (w.point? op).bind Point.wants?

/-- Whether something that happens with a move is about a secret. -/
def concerns (w : World) (h : Handle) (m : Move) : Happening → Bool
  | .published event => event.handle == h
  | .called _ k _ => k == h
  | .ended op _ => w.operand? m op == some h

/-- What happened on the way to `w'`, in order. -/
def news (w w' : World) : List Happening :=
  (w'.history.take (w'.history.length - w.history.length)).reverse

/-- What is read of a secret. -/
def value? (w : World) (h : Handle) : Option (Lease × SecretData) :=
  (w.snapshot? h).map fun s => (s.lease, s.data)

/-- What is read of a secret, if another snapshot has been installed. -/
def shown (w w' : World) (h : Handle) : List Sign :=
  if (w'.snapshot? h).map Snapshot.serial = (w.snapshot? h).map Snapshot.serial then []
  else [.shown (w'.value? h)]

/-- What is seen of a secret in one step. -/
def signs (w w' : World) (h : Handle) (m : Move) : List Sign :=
  (w.cue? h m).toList ++ (((w.news w').filter (w.concerns h m)).map .happened ++ w.shown w' h)

end World

/-- What is seen of a secret in a run, with the time. -/
def chronicle (h : Handle) (w : World) (ms : List Move) : List (Instant × Sign) :=
  (gather (fun w m => (step w m).map fun w' => (w.signs w' h m).map (w.now, ·)) w ms).flatten

/-- A move that is about no secret in particular. -/
def Move.IsCommon : Move → Prop
  | elapse _ => True
  | stop => True
  | release => True
  | _ => False

/-- In that run, nothing is done about any other secret. -/
def OnlyOn (h : Handle) (start : World) (ns : List Move) : Prop :=
  ∀ ks k v, ks ++ [k] <+: ns → run? start ks = some v → v.subject? k = some h ∨ k.IsCommon

/-- What is done about the secret, as a chronicle tells it. -/
def deeds (c : List (Instant × Sign)) : List (Instant × Sign) := c.filter (·.2.isDeed)

variable {h k : Handle} {w w' u u' v start : World} {m m' : Move} {ms ns : List Move} {op : Nat}
  {c : Prop}

theorem chronicle_concat (hrun : run? w ms = some u) (hs : step u m = some u') :
    chronicle h w (ms ++ [m]) = chronicle h w ms ++ (u.signs u' h m).map (u.now, ·) := by
  rw [chronicle, gather_concat _ m hrun, hs]
  simp [chronicle]

theorem OnlyOn.concat (ho : OnlyOn h start ns) (hrun : run? start ns = some v)
    (hm : v.subject? m = some h ∨ m.IsCommon) : OnlyOn h start (ns ++ [m]) := by
  intro ks k u hpre hu
  rcases List.prefix_concat_iff.mp hpre with heq | hpre
  · obtain ⟨rfl, hk⟩ := List.append_inj' heq rfl
    cases hk
    cases hrun.symm.trans hu
    exact hm
  · exact ho ks k u hpre hu

/-! ## What is seen in one step -/

namespace World

theorem cue?_some {x : Sign} (hx : w.cue? h m = some x) :
    m = .stop ∧ x = .stopped ∨ w.subject? m = some h ∧ m.sign? w.nextOperation = some x := by
  unfold cue? at hx
  split at hx
  · split at hx
    · cases hx
      exact .inl ⟨rfl, rfl⟩
    · split at hx
      · exact .inr ⟨‹_›, hx⟩
      · cases hx
  · cases hx

theorem news_eq {l : List Happening} (hh : w'.history = l ++ w.history) : w.news w' = l.reverse := by
  rw [news, hh, List.length_append, Nat.add_sub_cancel_right, List.take_left']
  rfl

/-- What is read of a secret is told by its entry, whatever task looks after it. -/
theorem snapshot?_eq (w : World) (h : Handle) :
    w.snapshot? h = ((w.face? h).filter Entry.isRegistered).bind Entry.snapshot := by
  unfold snapshot? registered? face?
  cases w.entry? h with
  | none => rfl
  | some e =>
    rw [Option.map_some, Option.filter_some, Option.filter_some]
    show (if e.isRegistered = true then some e else none).bind _ =
      (if e.isRegistered = true then some e.bare else none).bind _
    split <;> rfl

theorem snapshot?_of_face? {r : Renaming} (hf : w.face? h = (u.face? h).map (·.rename r)) :
    w.snapshot? h = (u.snapshot? h).map (·.rename r) := by
  rw [snapshot?_eq, snapshot?_eq, hf]
  cases u.face? h with
  | none => rfl
  | some e =>
    rw [Option.map_some, Option.filter_some, Option.filter_some,
      show (e.rename r).isRegistered = e.isRegistered from rfl]
    split <;> rfl

/-- Other numbers are not read. -/
theorem value?_of_face? {r : Renaming} (hf : w.face? h = (u.face? h).map (·.rename r)) :
    w.value? h = u.value? h := by
  rw [value?, snapshot?_of_face? hf, Option.map_map]
  rfl

theorem shown_of_face? (hf : w'.face? h = w.face? h) : w.shown w' h = [] := by
  rw [shown, snapshot?_eq w', snapshot?_eq w, hf, if_pos rfl]

/-- Where nothing happens, only what the move does is seen. -/
theorem signs_of_same (hh : w'.history = w.history) (hf : w'.face? h = w.face? h) :
    w.signs w' h m = (w.cue? h m).toList := by
  rw [signs, news_eq (l := []) hh, shown_of_face? hf]
  exact List.append_nil _

theorem signs_eq_nil (hh : w'.history = w.history) (hf : w'.face? h = w.face? h)
    (hcue : w.cue? h m = none) : w.signs w' h m = [] := by
  rw [signs_of_same hh hf, hcue]
  rfl

theorem cue?_of_none (hsub : w.subject? m = none) (hm : m ≠ .stop) : w.cue? h m = none := by
  unfold cue?
  split
  · split
    · exact absurd rfl hm
    · rw [if_neg (by rw [hsub]; exact fun hc => by cases hc)]
  · rfl

theorem cue?_of_dead (ha : w.isAlive = false) : w.cue? h m = none :=
  if_neg (by rw [ha]; decide)

/-- That time passes is seen of no secret. -/
theorem signs_elapse (w : World) (h : Handle) (t : Instant) :
    w.signs { w with now := t } h (.elapse t) = [] :=
  signs_eq_nil rfl rfl (cue?_of_none rfl fun hc => by cases hc)

/-- Letting go is seen of no secret. -/
theorem signs_release (hb : w.Booked) : w.signs w.release h .release = [] :=
  signs_eq_nil (history_reap _) ((hb.same (u := { w with held := false }) rfl fun _ => rfl).reap.2.2 h)
    (cue?_of_none rfl fun hc => by cases hc)

theorem operand?_of_wanting (ho : Orderly w) (hw : Wanting w op k) (hm : w.subject? m = some k) :
    w.operand? m op = some k := by
  unfold operand?
  rcases hw with rfl | ⟨q, hq, hwant⟩
  · rw [if_pos rfl, hm]
  · rw [if_neg (Nat.ne_of_lt (ho.calm.fresh _ _ hq)), hq]
    exact hwant

/-- What happens in a step is about the secret that its move is about. -/
theorem concerns_of_isOf (ho : Orderly w) (hw : Wanting w op k) (hm : w.subject? m = some k)
    {x : Happening} (hx : x.IsOf op k) : w.concerns h m x = decide (k = h) := by
  cases x with
  | published event => exact congrArg (· == h) (show event.handle = k from hx)
  | called a l call => exact congrArg (· == h) hx.2
  | ended a o =>
    obtain ⟨rfl, -⟩ := hx
    show (w.operand? m a == some h) = _
    rw [operand?_of_wanting ho hw hm]
    rfl

/-- Nothing is seen of the secret in a step about another one. -/
theorem signs_of_foreign (ho : Orderly w) (hx : Confined c w w' op k) (hw : Wanting w op k)
    (hm : w.subject? m = some k) (hk : k ≠ h) : w.signs w' h m = [] := by
  obtain ⟨_, _, _, _, _, hf⟩ := hx.frame
  obtain ⟨hs, hh, hall⟩ := hx.history
  have hcue : w.cue? h m = none := by
    unfold cue?
    split
    · split
      · cases hm
      · rw [if_neg (by rw [hm]; exact fun hc => hk (Option.some.inj hc))]
    · rfl
  have hnews : (w.news w').filter (w.concerns h m) = [] := by
    rw [news_eq hh, List.filter_eq_nil_iff]
    intro x hx
    rw [concerns_of_isOf ho hw hm (hall x (List.mem_reverse.mp hx))]
    simpa using hk
  rw [signs, hcue, hnews, shown_of_face? (hf.faces h (Ne.symm hk))]
  rfl

end World

/-! ## What is done determines what comes of it -/

theorem chronicle_cons (ms : List Move) (hs : step w m = some w') :
    chronicle h w (m :: ms) = (w.signs w' h m).map (w.now, ·) ++ chronicle h w' ms := by
  rw [chronicle, gather_cons _ _ hs, hs]
  rfl

theorem OnlyOn.head (ho : OnlyOn h w (m :: ms)) : w.subject? m = some h ∨ m.IsCommon :=
  ho [] m w (List.prefix_append [m] ms) rfl

theorem OnlyOn.tail (ho : OnlyOn h w (m :: ms)) (hs : step w m = some w') : OnlyOn h w' ms :=
  fun ks k v hpre hv => ho (m :: ks) k v ((List.prefix_cons_inj m).mpr hpre) (by rw [run?, hs]; exact hv)

/-- What is told to be done in a step is done by its move. -/
theorem deeds_signs (i : Instant) (w w' : World) (h : Handle) (m : Move) :
    deeds ((w.signs w' h m).map (i, ·)) = (w.cue? h m).toList.map (i, ·) := by
  have hcue : ∀ x, w.cue? h m = some x → x.isDeed = true := fun x hx => by
    rcases cue?_some hx with ⟨-, rfl⟩ | ⟨-, hx⟩
    · rfl
    · cases m <;> cases hx <;> rfl
  have hshown : ((w.shown w' h).map (i, ·)).filter (·.2.isDeed) = [] := by
    unfold World.shown
    split <;> rfl
  have hnews : ∀ xs : List Happening,
      ((xs.map Sign.happened).map (i, ·)).filter (·.2.isDeed) = [] := fun xs => by
    rw [List.filter_eq_nil_iff]
    intro x hx
    simp only [List.mem_map] at hx
    obtain ⟨_, ⟨_, -, rfl⟩, rfl⟩ := hx
    exact Bool.false_ne_true
  rw [deeds, World.signs, List.map_append, List.map_append, List.filter_append, List.filter_append,
    hshown, hnews, List.append_nil, List.append_nil, List.filter_eq_self]
  intro x hx
  obtain ⟨y, hy, rfl⟩ := List.mem_map.mp hx
  exact hcue y (Option.mem_toList.mp hy)

/-- Somebody outside holds an engine with a clock, which is not shut down. -/
structure Kept (w : World) : Prop where
  orderly : Orderly w
  unlocked : w.destroyed = false
  timed : w.schedule.discipline = .timed
  held : w.held = true

namespace Kept

theorem isAlive (hw : Kept w) : w.isAlive = true := isAlive_iff.mpr (.inl hw.held)

theorem of_step (hw : Kept w) (hs : step w m = some w') (hm : w.subject? m = some h ∨ m.IsCommon)
    (hn : m ≠ .release) : Kept w' := by
  have ht := turn_of_step hs
  have hd : w'.destroyed = false := (destroyed_of_other_turn ht fun h' => by
    subst h'
    rcases hm with hm | hm
    · cases hm
    · exact hm).trans hw.unlocked
  refine ⟨orderly_of_step hw.orderly hs hd, hd,
    (fixtures_of_turn hw.orderly ht hd hw.isAlive).discipline.trans hw.timed, ?_⟩
  rcases confined_of_turn hw.orderly ht hd hw.isAlive with ⟨_, _, _, hx, -⟩ | ⟨-, hi⟩
  · exact hx.held.trans hw.held
  · cases hi with
    | releases => exact absurd rfl hn
    | _ => exact hw.held

/-- What the clock shows does not matter. -/
theorem late (hw : Kept w) (i : Instant) : Kept { w with now := i } :=
  { hw with
    orderly := { hw.orderly with
      booked := hw.orderly.booked.same rfl fun _ => rfl
      calm := { hw.orderly.calm with } } }

/-- Time passes, or something is done. -/
theorem elapse_or_cue (hw : Kept w) (hs : step w m = some w')
    (hm : w.subject? m = some h ∨ m.IsCommon) (hn : m ≠ .release) :
    (∃ t, m = .elapse t ∧ w' = { w with now := t }) ∨ ∃ x, w.cue? h m = some x := by
  unfold World.cue?
  rw [if_pos hw.isAlive]
  cases m with
  | elapse t =>
    refine .inl ⟨t, rfl, ?_⟩
    simp only [Leases.step, World.elapse] at hs
    split at hs <;> cases hs
    rfl
  | stop => exact .inr ⟨_, rfl⟩
  | release => exact absurd rfl hn
  | openNext | listen | unlisten => rcases hm with hm | hm <;> cases hm
  | _ => exact .inr ⟨_, if_pos (hm.resolve_right id)⟩

/-- The task of a secret is the only one. -/
theorem fire_eq (hw : Kept w) {a b : Nat} (ha : w.subject? (.fire a) = some h)
    (hb : w.subject? (.fire b) = some h) : a = b := by
  have htask : ∀ {i}, w.subject? (.fire i) = some h → ∃ t ∈ w.tasks h, t.id = i := fun {i} hi => by
    obtain ⟨t, ht, hh⟩ := Option.map_eq_some_iff.mp hi
    exact ⟨t, mem_tasks.mpr ⟨List.mem_of_find?_eq_some ht, hh⟩, by simpa using List.find?_some ht⟩
  obtain ⟨t, ht, rfl⟩ := htask ha
  obtain ⟨t', ht', rfl⟩ := htask hb
  rw [hw.orderly.booked.tasks_eq ht, List.mem_singleton] at ht'
  rw [ht']

/-- What is done tells the move. -/
theorem move_eq (hw : Kept w) {x : Sign} (hs : step w m = some w') (hs' : step w m' = some u')
    (hx : w.cue? h m = some x) (hx' : w.cue? h m' = some x) : m = m' := by
  have hnext : ∀ {v}, step w .fireNext = some v → False := fun hv => by
    simp only [Leases.step, hw.timed, reduceCtorEq, if_false] at hv
  rcases cue?_some hx with ⟨rfl, rfl⟩ | ⟨hm, hx⟩
  · rcases cue?_some hx' with ⟨rfl, -⟩ | ⟨-, hx'⟩
    · rfl
    · cases m' <;> cases hx'
  · rcases cue?_some hx' with ⟨-, rfl⟩ | ⟨hm', hx'⟩
    · cases m <;> cases hx
    · cases m with
      | fire a =>
        cases hx
        cases m' with
        | fire b => rw [hw.fire_eq hm hm']
        | fireNext => exact (hnext hs').elim
        | _ => cases hx'
      | fireNext => exact (hnext hs).elim
      | _ => cases hx <;> cases m' <;> cases hx' <;> rfl

end Kept

/-- Where nothing is done, nothing comes of it. -/
theorem chronicle_of_no_deeds (hw : Kept w) (hrun : run? w ns = some u) (ho : OnlyOn h w ns)
    (hn : .release ∉ ns) (hd : deeds (chronicle h w ns) = []) : chronicle h w ns = [] := by
  induction ns generalizing w with
  | nil => rfl
  | cons m ns ih =>
    obtain ⟨v, hs, hrun⟩ := Option.bind_eq_some_iff.mp hrun
    obtain ⟨hm, hn⟩ := not_or.mp (mt List.mem_cons.mpr hn)
    rw [chronicle_cons ns hs, deeds, List.filter_append, List.append_eq_nil_iff] at hd
    rw [chronicle_cons ns hs, ih (hw.of_step hs ho.head (Ne.symm hm)) hrun (ho.tail hs) hn hd.2]
    rcases hw.elapse_or_cue hs ho.head (Ne.symm hm) with ⟨t, rfl, rfl⟩ | ⟨x, hx⟩
    · rw [signs_elapse]
      rfl
    · have := hd.1
      rw [← deeds, deeds_signs, hx] at this
      cases this

/-- Two runs in which nothing is done about any other secret, and the same about the secret at the same
times, have the same chronicle, even if the clock of one is late. -/
theorem chronicle_of_deeds {i : Instant} (hw : Kept w) (hrun : run? w ms = some u)
    (hrun' : run? { w with now := i } ns = some u') (ho : OnlyOn h w ms)
    (ho' : OnlyOn h { w with now := i } ns) (hn : .release ∉ ms) (hn' : .release ∉ ns)
    (hd : deeds (chronicle h w ms) = deeds (chronicle h { w with now := i } ns)) :
    chronicle h w ms = chronicle h { w with now := i } ns := by
  have hpass : ∀ {v v' : World} {t : Instant} (ks : List Move), step v (.elapse t) = some v' →
      v' = { v with now := t } → chronicle h v (.elapse t :: ks) = chronicle h { v with now := t } ks :=
    fun {v v' t} ks hs hv => by
      subst hv
      rw [chronicle_cons ks hs, signs_elapse]
      rfl
  have hdone : ∀ {v v' : World} {k : Move} {x : Sign} (ks : List Move), step v k = some v' →
      v.cue? h k = some x → deeds (chronicle h v (k :: ks)) = (v.now, x) :: deeds (chronicle h v' ks) :=
    fun {v v' k x} ks hs hx => by
      rw [chronicle_cons ks hs, deeds, List.filter_append, ← deeds, deeds_signs, hx]
      rfl
  induction ms generalizing w i ns with
  | nil => exact (chronicle_of_no_deeds (hw.late i) hrun' ho' hn' hd.symm).symm
  | cons m ms ih =>
    obtain ⟨v, hs, hrun⟩ := Option.bind_eq_some_iff.mp hrun
    obtain ⟨hm, hms⟩ := not_or.mp (mt List.mem_cons.mpr hn)
    have hv := hw.of_step hs ho.head (Ne.symm hm)
    rcases hw.elapse_or_cue hs ho.head (Ne.symm hm) with ⟨t, rfl, hv'⟩ | ⟨x, hx⟩
    · rw [hpass ms hs hv'] at hd ⊢
      subst hv'
      exact ih hv hrun hrun' (ho.tail hs) ho' hms hn' hd
    · -- The other run comes to the same move after some time.
      induction ns generalizing i with
      | nil =>
        rw [hdone ms hs hx] at hd
        cases hd
      | cons m' ns ih' =>
        obtain ⟨v', hs', hrun'⟩ := Option.bind_eq_some_iff.mp hrun'
        obtain ⟨hm', hns⟩ := not_or.mp (mt List.mem_cons.mpr hn')
        rcases (hw.late i).elapse_or_cue hs' ho'.head (Ne.symm hm') with ⟨t, rfl, hv'⟩ | ⟨y, hy⟩
        · rw [hpass ns hs' hv'] at hd ⊢
          subst hv'
          exact ih' hrun' (ho'.tail hs') hns hd
        · rw [hdone ms hs hx, hdone ns hs' hy] at hd
          obtain ⟨hxy, hrest⟩ := List.cons.inj hd
          obtain ⟨rfl, rfl⟩ := Prod.mk.inj hxy
          obtain rfl := hw.move_eq hs hs' hx hy
          cases hs.symm.trans hs'
          rw [chronicle_cons ms hs, show chronicle h { w with now := w.now } (m :: ns) = _ from
            chronicle_cons ns hs', ih hv hrun hrun' (ho.tail hs) (ho'.tail hs') hms hns hrest]

end LeaseKeeper.Leases
