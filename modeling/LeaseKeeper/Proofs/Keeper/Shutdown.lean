import LeaseKeeper.Proofs.Keeper.Turns
import LeaseKeeper.Proofs.Leases.Care
import LeaseKeeper.Proofs.Session.Care

/-!
# Shutting a keeper down

A shutdown first ends the lease engine, and when that is over the session. `Phase` says how far it has
come: nothing is shut down, the lease engine is and its removals are under way, or they are over
(`phase_of_run`). The session is not shut down before that (`Phase.over`), so all that was registered
by then has been given back with a token, or has failed for another reason. But the shutdown waits for
its own removals only. The lease of a secret is given back later if somebody else has asked for its
removal, which still waits for the entry, or if its first fetch is still under way (`Straggles`). Just
these revocations ask the session for a token after it has been shut down, and fail (`strands_of_demands`,
`revokes_after_shutdown_iff`).
-/

namespace LeaseKeeper.Keeper

/-- Whether a shutdown begins. -/
def Move.isShutdown : Move → Bool
  | shutdown => true
  | _ => false

/-- There is one shutdown at most, and the parts of a keeper are not shut down but by it. -/
structure OneShutdown (ms : List Move) : Prop where
  once : ms.countP Move.isShutdown ≤ 1
  alone : ∀ m ∈ ms, m ≠ .session .destroy ∧ m ≠ .leases .destroy

namespace World

/-- A lease is given back by a removal that has waited for its entry, or by the registration of a
secret that has just been fetched. -/
def Straggles (w : World) (m : Move) (op : Nat) (l : Lease) : Prop :=
  ∃ k, m.forLeases? = some k ∧ w.leases.Strays k op l

/-- On the way from `w` to `w'` it is told that a lease could not be given back, as the session had been
shut down. -/
def Strands (w w' : World) (l : Lease) : Prop :=
  ∃ hs h path, w.leases.history <:+ hs ∧
    .published ⟨h, path, .failed l .destroyed⟩ :: hs <:+ w'.leases.history

/-- No operation is about to ask for a token for a revocation. -/
def Rested (w : World) : Prop := ∀ op l, w.asks? op ≠ some (.revoke l)

/-- How far a shutdown has come, and whether there is one. -/
inductive Phase (w : World) : Bool → Prop
  | before : w.closings = [] → w.leases.destroyed = false → w.session.destroyed = false →
    (∀ a n, w.leases.point? a ≠ some (.joining n)) → Phase w false
  | during {op : Nat} : w.closings = [.leases op] → w.leases.destroyed = true →
    w.session.destroyed = false → (∀ a n, w.leases.point? a = some (.joining n) → a = op) →
    Phase w true
  | after : w.leases.Over → Phase w true

variable {w u w' start : World} {m : Move} {ms : List Move} {op : Nat} {b : Bool}

/-! ## A new keeper -/

theorem Steady.watchSession (hs : Steady w) : Steady { w with session := watchSession w.session } := by
  have ht : Session.Turn w.session (.listen .regular ⟨"metrics", .measure⟩)
      (w.session.listen .regular ⟨"metrics", .measure⟩).2 := .listen
  refine (hs.onSession ht nofun).onSession (k := .listen .errors ⟨"metrics", .measure⟩) .listen nofun

theorem Steady.watchLeases (hs : Steady w) : Steady { w with leases := watchLeases w.leases } := by
  have ht : Leases.Turn w.leases (.listen .regular ⟨"metrics", .measure⟩)
      (w.leases.listen .regular ⟨"metrics", .measure⟩).2 := .listens
  exact (hs.onLeases ht nofun nofun).onLeases (k := .listen .errors ⟨"metrics", .measure⟩) .listens nofun nofun

theorem build_eq_ok {config : Config} {connection : Connection} {method : LoginMethod}
    {draws : Nat → Nat} (h : build config connection method draws = .ok start) :
    ∃ ss ls, let session := Session.World.initial ss .timed draws
      let leases := Leases.World.initial ls .timed draws
      start = ⟨config, connection, session, leases, [], []⟩ ∨
        start = ⟨config, connection, watchSession session, watchLeases leases, [], []⟩ := by
  have hbind : ∀ {α β : Type} {x : Except Fault α} {f : α → Except Fault β} {b : β},
      x >>= f = .ok b → ∃ a, f a = .ok b := fun {_ _ x _ _} h => by
    cases x with
    | error _ => cases h
    | ok a => exact ⟨a, h⟩
  obtain ⟨_, h⟩ := hbind h
  obtain ⟨_, h⟩ := hbind h
  obtain ⟨ss, h⟩ := hbind h
  obtain ⟨ls, h⟩ := hbind h
  refine ⟨ss, ls, ?_⟩
  cases h
  cases config.observability.enableMetrics with
  | true => exact .inr rfl
  | false => exact .inl rfl

theorem of_build {config : Config} {connection : Connection} {method : LoginMethod}
    {draws : Nat → Nat} (h : build config connection method draws = .ok start) :
    Steady start ∧ Rested start ∧ Phase start false := by
  obtain ⟨ss, ls, he⟩ := build_eq_ok h
  have hs : Steady ⟨config, connection, Session.World.initial ss .timed draws,
      Leases.World.initial ls .timed draws, [], []⟩ := {
    sound := Leases.sound_initial ..
    joined := Leases.World.joined_initial ..
    held := rfl
    orderly := Session.orderly_initial ..
    concluded := fun _ _ ha => by cases ha
    heldSession := rfl
    linked := fun _ _ ha => by cases ha }
  have hrest : ∀ {v : World}, v.leases.operations = [] → Rested v := fun hno op l hl => by
    obtain ⟨-, -, _, _, _, hq, -⟩ := asks?_eq_revoke_iff.mp hl
    rw [Leases.World.point?, hno] at hq
    cases hq
  have hphase : ∀ {v : World}, v.closings = [] → v.leases.destroyed = false →
      v.session.destroyed = false → v.leases.operations = [] → Phase v false :=
    fun hc hl hs hno => .before hc hl hs fun a n hq => by
      rw [Leases.World.point?, hno] at hq
      cases hq
  rcases he with rfl | rfl
  · exact ⟨hs, hrest rfl, hphase rfl rfl rfl rfl⟩
  · exact ⟨hs.watchSession.watchLeases, hrest rfl, hphase rfl rfl rfl rfl⟩

/-! ## How far a shutdown has come -/

/-- But for a shutdown that goes on and a request, nothing shuts the session down. -/
theorem frame_of_turn (hs : Steady w) (ht : Turn w m w') (hm : m ≠ .session .destroy)
    (hp : m ≠ .proceed) : w'.session.destroyed = w.session.destroyed ∧
      (m ≠ .shutdown → w'.closings = w.closings) := by
  cases ht with
  | @stirs _ u _ h =>
    obtain ⟨hc, hd⟩ := settle_frame (hs.stirs h)
    rw [hc, hd]
    exact frame_of_stirs hs h
  | @session _ k s hk ht =>
    refine ⟨(Session.World.access_of_turn ht fun he => ?_).2 fun he => ?_, fun _ => rfl⟩ <;> subst he
    · cases m <;> cases hk
    · cases m <;> cases hk
      exact hm rfl
  | ends _ _ => exact absurd rfl hp
  | stops _ => exact absurd rfl hp
  | elapses ht _ => exact ⟨(Session.World.access_of_turn ht nofun).2 nofun, fun _ => rfl⟩

/-- What the lease engine keeps while it is not shut down, it keeps as to who waits for removals. -/
theorem joins_of_turn (hs : Steady w) (ht : Turn w m w') (hm : m ≠ .shutdown)
    (ha : m ≠ .leases .destroy) {b : Bool} {P : Nat → Prop}
    (hp : w.leases.destroyed = b ∧ ∀ a n, w.leases.point? a = some (.joining n) → P a) :
    w'.leases.destroyed = b ∧ ∀ a n, w'.leases.point? a = some (.joining n) → P a := by
  refine leases_of_turn (P := fun l => l.destroyed = b ∧ ∀ a n, l.point? a = some (.joining n) → P a)
    hs ht (fun hl _ hlt hr hk hp => ?_) hp
  refine (Leases.World.motion_of_turn hl hr hlt).joiners hl (fun he => ?_) hp
  rcases hk he with h | h
  · exact hm h
  · exact ha h

theorem over_of_turn (hs : Steady w) (ho : w.leases.Over) (ht : Turn w m w') : w'.leases.Over := by
  refine leases_of_turn (P := Leases.World.Over) hs ht (fun hl hj hlt hr _ ho => ?_) ho
  have hm := Leases.World.motion_of_turn hl hr hlt
  refine hm.over hl ?_ ho
  rcases (hm.access hl).2 with h | ⟨-, h⟩
  · rw [h, ho.destroyed]
  · exact h

/-- A shutdown begins. -/
theorem Phase.shutsDown (hs : Steady w) (hp : Phase w false) (ht : Turn w .shutdown w') :
    Phase w' true := by
  cases hp with
  | before hc hd hsd hj =>
    obtain ⟨hopen, -⟩ := frame_of_turn hs ht nofun nofun
    cases ht with
    | stirs hu h =>
      obtain ⟨hclose, -⟩ := settle_frame (hs.stirs h)
      cases h with
      | leases hk _ _ => cases hk
      | @shutsDown l hl =>
        have hm := Leases.World.motion_of_turn (m := .begin .destroy) hs.sound (fun h => by cases h) hl
        have hld : l.destroyed = true := by
          cases hl with
          | begins _ => exact Leases.World.destroyed_destroy ..
          | runs hf => cases hf
        obtain ⟨hkd, hkj⟩ := (hs.stirs (.shutsDown hl)).keeps
          (P := fun l => l.destroyed = true ∧
            ∀ a n, l.point? a = some (.joining n) → a = w.leases.nextOperation)
          (fun hsl _ hlt => (Leases.World.motion_of_turn hsl (fun h => by cases h) hlt).joiners hsl
            fun h => by cases h)
          ⟨hld, fun a n hq => by
            obtain ⟨n', hn⟩ | ⟨-, -, ha⟩ := hm.joins hs.sound hq
            · exact absurd hn (hj a n')
            · exact ha⟩ (numbers _)
        refine .during ?_ hkd (hopen.trans hsd) hkj
        rw [hclose, hc]
        rfl
    | session hk _ => cases hk

/-- A shutdown goes on. -/
theorem Phase.proceeds (hs : Steady w) (hp : Phase w b) (ht : Turn w .proceed w') : Phase w' b := by
  have hnil : ∀ {before : List Closing} {c rest}, [] ≠ before ++ c :: rest := fun {before _ _} => by
    cases before <;> nofun
  cases hp with
  | before hc _ _ _ =>
    cases ht with
    | stirs hu _ => cases hu
    | session hk _ => cases hk
    | ends he _ => exact absurd (hc.symm.trans he) hnil
    | stops he => exact absurd (hc.symm.trans he) hnil
  | @during op hc hd _ hj =>
    have hone : ∀ {before : List Closing} {c rest}, [Closing.leases op] = before ++ c :: rest →
        c = .leases op := fun {before _ _} he => by
      cases before with
      | nil => exact (List.cons.inj he).1.symm
      | cons _ before => exact absurd (List.cons.inj he).2 hnil
    cases ht with
    | stirs hu _ => cases hu
    | session hk _ => cases hk
    | ends he ho =>
      cases hone (hc.symm.trans he)
      refine .after ⟨hd, fun a n hq => ?_⟩
      cases hj a n hq
      cases (hs.joined.gone_of_outcome? ho).symm.trans hq
    | stops he => cases hone (hc.symm.trans he)
  | after ho => exact .after (over_of_turn hs ho ht)

theorem Phase.turn (hs : Steady w) (hp : Phase w b) (ht : Turn w m w') (hm : m ≠ .session .destroy)
    (ha : m ≠ .leases .destroy) (hone : m = .shutdown → b = false) :
    Phase w' (b || m.isShutdown) := by
  by_cases hsd : m = .shutdown
  · subst hsd
    cases hone rfl
    exact hp.shutsDown hs ht
  rw [show m.isShutdown = false by cases m <;> first | rfl | exact absurd rfl hsd, Bool.or_false]
  by_cases hpr : m = .proceed
  · subst hpr
    exact hp.proceeds hs ht
  obtain ⟨hopen, hclose⟩ := frame_of_turn hs ht hm hpr
  cases hp with
  | before hc hd hs' hj =>
    obtain ⟨hd', hj'⟩ := joins_of_turn (P := fun _ => False) hs ht hsd ha ⟨hd, fun a n hq => hj a n hq⟩
    exact .before ((hclose hsd).trans hc) hd' (hopen.trans hs') fun a n hq => hj' a n hq
  | @during op hc hd hs' hj =>
    obtain ⟨hd', hj'⟩ := joins_of_turn (P := (· = op)) hs ht hsd ha ⟨hd, hj⟩
    exact .during ((hclose hsd).trans hc) hd' (hopen.trans hs') hj'
  | after ho => exact .after (over_of_turn hs ho ht)

/-- The session is not shut down before the removals of the lease engine are over. -/
theorem Phase.over (hp : Phase w b) (hd : w.session.destroyed = true) : w.leases.Over := by
  cases hp with
  | before _ _ h _ => cases h.symm.trans hd
  | during _ _ h _ => cases h.symm.trans hd
  | after ho => exact ho

/-! ## Revocations after the shutdown -/

theorem Rested.turn (hs : Steady w) (hr : Rested w) (ht : Turn w m w') : Rested w' := by
  have hkeep : ∀ {v : World}, (∀ a, v.link? a = w.link? a) →
      (∀ a, v.leases.point? a = w.leases.point? a) → Rested v := fun hl hp op l h => by
    refine hr op l (asks?_eq_revoke_iff.mpr ?_)
    rw [← hl, ← hp]
    exact asks?_eq_revoke_iff.mp h
  cases ht with
  | stirs _ h => exact asks?_settle (hs.stirs h)
  | session _ _ => exact hkeep (fun _ => rfl) fun _ => rfl
  | ends _ _ => exact hkeep (fun _ => rfl) fun _ => rfl
  | stops _ => exact hkeep (fun _ => rfl) fun _ => rfl
  | @elapses _ _ l _ hl =>
    refine hkeep (fun _ => rfl) fun a => ?_
    cases hl with
    | elapses => rfl
    | runs hf => cases hf

/-- Once everything is over, the calls that come to ask for a revocation are just those of removals
that have waited and of secrets that come too late. -/
theorem asks?_stirs (hs : Steady w) (hr : Rested w) (ho : w.leases.Over) (hu : w.unsettled? m = some u)
    {l : Lease} : u.asks? op = some (.revoke l) ↔ w.Straggles m op l := by
  have h := stirs_of_unsettled hs hu
  rw [asks?_eq_revoke_iff]
  refine ⟨fun ⟨hl, hid, k, s, remover, hq, hlease⟩ => ?_, fun ⟨k, hk, hst⟩ => ?_⟩
  · subst hlease
    -- Who was there before would have asked before.
    have hno : w.leases.point? op = some (.revoking k s remover) → w.link? op ≠ none := fun hq hl =>
      hr op s.lease (asks?_eq_revoke_iff.mpr ⟨hl, hid, k, s, remover, hq, rfl⟩)
    cases h with
    | @leases _ km l' hk _ ht =>
      have hne : km ≠ .release := fun he => by
        subst he
        cases m <;> cases hk
      obtain ⟨hq', -⟩ | hst := (Leases.World.motion_of_turn hs.sound hne ht).strays hs.sound hs.joined
        ho hq
      · exact absurd hl (hno hq')
      · exact ⟨km, hk, hst⟩
    | @answers op' r c l' _ ht =>
      obtain ⟨hq', hmv⟩ | hst := (Leases.World.motion_of_turn (m := .answer op' r) hs.sound
        (fun h => by cases h) ht).strays hs.sound hs.joined ho hq
      · refine absurd ?_ (hno hq')
        have hl' : (w.unlink op').link? op = none := hl
        rwa [link?_unlink, if_neg fun he => hmv (congrArg some he.symm)] at hl'
      · exact ⟨_, rfl, hst⟩
    | resumes ha =>
      have hasks := asks?_eq_revoke_iff.mpr ⟨hl, hid, k, s, remover, hq, rfl⟩
      exact absurd ((asks?_asked hs ha).mp hasks).2 (hr op s.lease)
    | @shutsDown l' ht =>
      obtain ⟨hq', -⟩ | hst := (Leases.World.motion_of_turn (m := .begin .destroy) hs.sound
        (fun h => by cases h) ht).strays hs.sound hs.joined ho hq
      · exact absurd hl (hno hq')
      · obtain ⟨h | ⟨_, h⟩, -⟩ := hst.move <;> cases h
  · obtain ⟨hmove, hid⟩ := hst.move
    have hrevokes := fun l' (hl' : Leases.step w.leases k = some l') =>
      hst.revokes hs.sound ho.destroyed hl'
    rcases hmove with rfl | ⟨r, rfl⟩
    · cases m <;> cases hk
      have hlink : w.link? op = none := by
        cases h with
        | leases hk hl _ =>
          cases hk
          exact hl op rfl
      obtain ⟨l', hl', rfl⟩ := Option.map_eq_some_iff.mp hu
      obtain ⟨h', s, remover, hq', hlease⟩ := hrevokes l' hl'
      exact ⟨hlink, hid, h', s, remover, hq', hlease⟩
    · cases m <;> cases hk
      simp only [unsettled?] at hu
      split at hu
      · obtain ⟨l', hl', rfl⟩ := Option.map_eq_some_iff.mp hu
        obtain ⟨h', s, remover, hq', hlease⟩ := hrevokes l' hl'
        exact ⟨(link?_unlink ..).trans (if_pos rfl), hid, h', s, remover, hq', hlease⟩
      · cases hu

/-- The revocations that ask for a token in a step. -/
theorem mem_demands (hs : Steady w) (hr : Rested w) (ho : w.leases.Over) (ht : Turn w m w') {l : Lease} :
    (op, .revoke l) ∈ w.demands m ↔ w.Straggles m op l := by
  obtain ⟨u, hu, h, -⟩ | ⟨hu, hk⟩ := unsettled?_of_turn ht <;> rw [demands, hu]
  · exact (mem_petitions_numbers (hs.stirs h)).trans (asks?_stirs hs hr ho hu)
  · refine iff_of_false List.not_mem_nil ?_
    rintro ⟨k, hk', -⟩
    cases hk.symm.trans hk'

/-! ## What becomes of them -/

theorem history_of_turn {l l' : Leases.World} {k : Leases.Move} (hl : Leases.Sound l)
    (ht : Leases.Turn l k l') : l.history <:+ l'.history := by
  obtain ⟨hs, hh, -⟩ := Leases.news_of_act hl (Leases.act_of_turn hl ht)
  exact ⟨hs, hh.symm⟩

theorem history_of_foldl (hs : Steady w) (ops : List Nat) :
    w.leases.history <:+ (ops.foldl askFor w).leases.history :=
  hs.keeps (P := fun l => w.leases.history <:+ l.history)
    (fun hl _ ht hp => hp.trans (history_of_turn hl ht)) List.suffix_rfl ops

/-- Once the session has been shut down, a revocation that asks for a token fails. -/
theorem strands_of_asks (hs : Steady w) (hd : w.session.destroyed = true) {l : Lease}
    (ha : w.asks? op = some (.revoke l)) : w.Strands (w.askFor op) l := by
  obtain ⟨-, -, h, s, remover, hq, rfl⟩ := asks?_eq_revoke_iff.mp ha
  obtain ⟨l', path, hl', hh⟩ := Leases.World.failed_of_answer hs.sound hq .destroyed
  rw [askFor_of_destroyed hd ha, Server.denied, deliver_of_answer hl']
  exact ⟨_, h, path, List.suffix_rfl, hh⟩

theorem strands_of_petitions (hs : Steady w) (hd : w.session.destroyed = true) {ops : List Nat}
    {l : Lease} (h : (op, .revoke l) ∈ w.petitions ops) : w.Strands (ops.foldl askFor w) l := by
  induction ops generalizing w with
  | nil => cases h
  | cons a ops ih =>
    rw [petitions, List.mem_append, Option.mem_toList, Option.map_eq_some_iff] at h
    rcases h with ⟨c, hc, he⟩ | h
    · cases he
      obtain ⟨hs', k, path, hold, hnew⟩ := strands_of_asks hs hd hc
      exact ⟨hs', k, path, hold, hnew.trans (history_of_foldl (hs.askFor op) ops)⟩
    · have hd' := ((asked_askFor hs a).frame hs).2.trans hd
      obtain ⟨hs', k, path, hold, hnew⟩ := ih (hs.askFor a) hd' h
      exact ⟨hs', k, path, (history_of_foldl hs [a]).trans hold, hnew⟩

theorem strands_of_demands (hs : Steady w) (ht : Turn w m w') (hd : w.session.destroyed = true)
    {l : Lease} (h : (op, .revoke l) ∈ w.demands m) : w.Strands w' l := by
  obtain ⟨u, hu, hst, rfl⟩ | ⟨hu, -⟩ := unsettled?_of_turn ht <;> rw [demands, hu] at h
  · obtain ⟨hs', k, path, hold, hnew⟩ :=
      strands_of_petitions (hs.stirs hst) ((frame_of_stirs hs hst).1.trans hd) h
    have hsuffix := leases_of_stirs (P := fun l => w.leases.history <:+ l.history) hst
      (fun hlt _ _ hp => hp.trans (history_of_turn hs.sound hlt)) List.suffix_rfl
    exact ⟨hs', k, path, hsuffix.trans hold, hnew⟩
  · cases h

/-- Once everything is over and nobody lags, nobody comes to lag. -/
theorem lags_of_turn (hs : Steady w) (ho : w.leases.Over) (ht : Turn w m w')
    (hl : ∀ a q, w.leases.point? a = some q → q.lags = false) :
    ∀ a q, w'.leases.point? a = some q → q.lags = false := by
  refine (leases_of_turn (P := fun l => l.Over ∧ ∀ a q, l.point? a = some q → q.lags = false) hs ht
    (fun {l k l'} hsl hj hlt hr _ ⟨ho, hl⟩ => ?_) ⟨ho, hl⟩).2
  have hm := Leases.World.motion_of_turn hsl hr hlt
  refine ⟨hm.over hsl ?_ ho, fun a q hq => hm.lags hsl hj ho hl hq⟩
  rcases (hm.access hsl).2 with h | ⟨-, h⟩
  · rw [h, ho.destroyed]
  · exact h

end World

/-! ## Runs with one shutdown -/

open World

variable {w w' start : World} {m : Move} {ms ns : List Move}

theorem OneShutdown.of_prefix (h : OneShutdown ms) (hp : ns <+: ms) : OneShutdown ns :=
  ⟨Nat.le_trans hp.sublist.countP_le h.once, fun m hm => h.alone m (hp.subset hm)⟩

theorem phase_of_run {config : Config} {connection : Connection} {method : LoginMethod}
    {draws : Nat → Nat} (hb : build config connection method draws = .ok start) (h : OneShutdown ms)
    (hrun : run? start ms = some w) : Steady w ∧ Rested w ∧ Phase w (ms.any Move.isShutdown) := by
  induction ms using List.reverseRecOn generalizing w with
  | nil =>
    cases hrun
    exact of_build hb
  | append_singleton ns m ih =>
    obtain ⟨v, hv, hs⟩ := run?_concat.mp hrun
    obtain ⟨hsv, hrv, hpv⟩ := ih (h.of_prefix (List.prefix_append ..)) hv
    have ht := turn_of_step hsv hs
    obtain ⟨hm, ha⟩ := h.alone m (by simp)
    refine ⟨hsv.turn ht, hrv.turn hsv ht, ?_⟩
    rw [List.any_append, List.any_cons, List.any_nil, Bool.or_false]
    refine hpv.turn hsv ht hm ha fun he => ?_
    -- Somebody has shut down before only if there are two shutdowns.
    subst he
    have hcount := h.once
    rw [List.countP_append, List.countP_singleton, show Move.isShutdown .shutdown = true from rfl,
      if_pos rfl] at hcount
    rw [List.any_eq_false]
    exact fun x hx hsx => absurd (List.countP_pos_iff.mpr ⟨x, hx, hsx⟩) (by omega)

/-- What holds from there on. -/
theorem steady_of_run (hs : Steady w) (hr : Rested w) (ho : w.leases.Over)
    (hl : ∀ a q, w.leases.point? a = some q → q.lags = false) (hrun : run? w ms = some w') :
    Steady w' ∧ Rested w' ∧ w'.leases.Over ∧ ∀ a q, w'.leases.point? a = some q → q.lags = false := by
  induction ms generalizing w with
  | nil =>
    cases hrun
    exact ⟨hs, hr, ho, hl⟩
  | cons m ms ih =>
    obtain ⟨v, hv, hrun⟩ := Option.bind_eq_some_iff.mp hrun
    have ht := turn_of_step hs hv
    exact ih (hs.turn ht) (hr.turn hs ht) (over_of_turn hs ho ht) (lags_of_turn hs ho ht hl) hrun

/-- When a shutdown comes to the session, nothing is registered any more, and the removals of the
shutdown are over. After that a revocation asks the session for a token just if its removal has waited
for its entry since before, or the secret has been fetched only then; and it fails. If nobody lags in
that way when the session is shut down, none does. Who asks for a token in a step is just whom the
session hears in it. -/
theorem revokes_after_shutdown_iff {config : Config} {connection : Connection} {method : LoginMethod}
    {draws : Nat → Nat} (hb : build config connection method draws = .ok start)
    (hone : OneShutdown ms) :
    (∀ w, Visits start ms w → w.session.destroyed = true →
      (∀ h, w.leases.registered? h = none) ∧
        ∀ a q, w.leases.point? a = some q → q.parent? = none) ∧
    (∀ w m w', Passes start ms w m w' → w.session.destroyed = true →
      ∀ op l, ((op, .revoke l) ∈ w.demands m ↔ w.Straggles m op l) ∧
        ((op, .revoke l) ∈ w.demands m → w.Strands w' l)) ∧
    (∀ ns rest w, ns ++ rest = ms → run? start ns = some w → w.session.destroyed = true →
      (∀ a q, w.leases.point? a = some q → q.lags = false) →
      ∀ v m v', Passes w rest v m v' → ∀ op l, (op, .revoke l) ∉ v.demands m) ∧
    ∀ w m w', Passes start ms w m w' → w.demands m ≠ [] →
      w'.session = (w.demands m).foldl (fun s _ => s.begin .token) w.session := by
  refine ⟨fun w ⟨ns, hp, hw⟩ hd => ?_, fun w m w' ⟨ns, hp, hw, hs⟩ hd op l => ?_,
    fun ns rest w he hw hd hl v m v' ⟨rs, _, hv, hs⟩ op l hmem => ?_,
    fun w m w' ⟨ns, hp, hw, hs⟩ hm => ?_⟩
  · obtain ⟨hst, -, hph⟩ := phase_of_run hb (hone.of_prefix hp) hw
    exact ⟨Leases.World.unregistered_of_over hst.sound hst.joined (hph.over hd),
      fun a q hq => (hph.over hd).childless hst.joined hq⟩
  · obtain ⟨hst, hr, hph⟩ :=
      phase_of_run hb (hone.of_prefix ((List.prefix_append ns [m]).trans hp)) hw
    have ht := turn_of_step hst hs
    exact ⟨mem_demands hst hr (hph.over hd) ht, strands_of_demands hst ht hd⟩
  · obtain ⟨hst, hr, hph⟩ := phase_of_run hb (hone.of_prefix ⟨rest, he⟩) hw
    obtain ⟨hst, hr, ho, hl⟩ := steady_of_run hst hr (hph.over hd) hl hv
    obtain ⟨k, -, hstray⟩ := (mem_demands hst hr ho (turn_of_step hst hs)).mp hmem
    obtain ⟨q, hq, hlag⟩ := hstray.lags
    cases (hl op q hq).symm.trans hlag
  · obtain ⟨hst, -, -⟩ := phase_of_run hb (hone.of_prefix ((List.prefix_append ns [m]).trans hp)) hw
    exact session_of_turn (turn_of_step hst hs) hm

/-- A server nearby. -/
def nearby : Connection := .ofAddress "http://[::1]:8200"

/-- Somebody who logs in there with a role. -/
def atRole : LoginMethod := .appRole ⟨nearby, AppRole.usualMount, "role", ⟨"secret"⟩⟩

/-- A new keeper with the usual configuration. -/
def untouched : World where
  config := .default
  connection := nearby
  session := watchSession (.initial ⟨.fixed ⟨.ofSeconds 5, minimalDelay, .ofSeconds 7, .zero⟩, true, true⟩
    .timed fun _ => 0)
  leases := watchLeases (.initial
    ⟨.fixed ⟨.ofSeconds 5, minimalDelay, .ofSeconds 7, .zero⟩, .dropOnError, none⟩ .timed fun _ => 0)
  links := []
  closings := []

theorem build_nearby : build .default nearby atRole (fun _ => 0) = .ok untouched := by
  have hc : Config.default.validate = .ok () := by decide +kernel
  have hn : nearby.validate = .ok () := by decide +kernel
  unfold build
  rw [hc, hn]
  rfl

/-- Somebody asks for a secret, and the keeper logs in and fetches it. -/
def fetching : List Move :=
  [.leases (.add ⟨"path", .renewable⟩ "kv"), .answerSession 0 (.login (.ok Session.minuteLogin)), .resume 0]

/-- The secret arrives. -/
def arrival : Move := .answerLeases 0 (.fetched (.ok (some Leases.minuteSecret)))

/-- The secret arrives when the shutdown has been through with the session. -/
def lateArrival : List Move :=
  fetching ++ [.shutdown, .proceed, .answerSession 1 (.revocation (.ok ())), .proceed, arrival]

/-- The secret arrives before the shutdown, which gives its lease back. -/
def timelyArrival : List Move :=
  fetching ++ [arrival, .shutdown, .openNext 2, .answerLeases 2 (.revocation (.ok ())), .proceed,
    .answerSession 2 (.revocation (.ok ())), .proceed]

theorem oneShutdown_lateArrival : OneShutdown lateArrival :=
  ⟨by decide, by simp [lateArrival, fetching, arrival]⟩

/-- A secret that arrives late asks for a token to be given back with, and gets none; one that arrives
in time has done so when the session is shut down. -/
theorem revokes_after_shutdown_arrivals :
    (∃ w w', Passes untouched lateArrival w arrival w' ∧ w.session.destroyed = true ∧
      (∀ h, w.leases.registered? h = none) ∧ w.Straggles arrival 0 Leases.minuteSecret.lease ∧
        w.Strands w' Leases.minuteSecret.lease) ∧
    ∃ w, run? untouched (timelyArrival.take 8) = some w ∧ w.session.destroyed = true ∧
      ∀ v m v', Passes w (timelyArrival.drop 8) v m v' → ∀ op l, (op, .revoke l) ∉ v.demands m := by
  constructor
  · obtain ⟨hvisits, hpasses, -⟩ := revokes_after_shutdown_iff build_nearby oneShutdown_lateArrival
    have hv : Visits untouched lateArrival _ := ⟨lateArrival.take 7, List.take_prefix .., rfl⟩
    have hp : Passes untouched lateArrival _ arrival _ :=
      ⟨lateArrival.take 7, List.prefix_rfl, rfl, rfl⟩
    obtain ⟨hstraggles, hstrands⟩ := hpasses _ _ _ hp rfl 0 Leases.minuteSecret.lease
    have hlate := hstraggles.mp (List.mem_singleton.mpr rfl)
    exact ⟨_, _, hp, rfl, (hvisits _ hv rfl).1, hlate, hstrands (hstraggles.mpr hlate)⟩
  · have hone : OneShutdown timelyArrival := ⟨by decide, by simp [timelyArrival, fetching, arrival]⟩
    have hrun : run? untouched (timelyArrival.take 8) = some _ := rfl
    exact ⟨_, hrun, rfl, (revokes_after_shutdown_iff build_nearby hone).2.2.1 _ _ _
      (List.take_append_drop ..) hrun rfl nofun⟩

/-- The revocation of a secret that arrives late is refused, as the session has been shut down. -/
theorem late_revocation_refused :
    build .default nearby atRole (fun _ => 0) = .ok untouched ∧ OneShutdown lateArrival ∧
      ∃ w w', Passes untouched lateArrival w arrival w' ∧ w.session.destroyed = true ∧
        (0, .revoke Leases.minuteSecret.lease) ∈ w.demands arrival ∧
        .published ⟨⟨1⟩, "path", .failed Leases.minuteSecret.lease .destroyed⟩ ∈ w'.leases.history :=
  ⟨build_nearby, oneShutdown_lateArrival, _, _, ⟨lateArrival.take 7, List.prefix_rfl, rfl, rfl⟩, rfl,
    List.mem_singleton.mpr rfl, .tail _ (.head _)⟩

end LeaseKeeper.Keeper
