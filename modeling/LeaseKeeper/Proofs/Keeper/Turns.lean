import LeaseKeeper.Keeper.Step
import LeaseKeeper.Proofs.Leases.Joining
import LeaseKeeper.Proofs.Leases.Partings
import LeaseKeeper.Proofs.Session.History
import LeaseKeeper.Proofs.Session.Onward

/-!
# The steps of a keeper, one by one

A step of a keeper is a turn of its session, or the lease engine gets on (`Stirs`) and after that
every call that has just been made asks the session for a token (`turn_of_step`). Which calls do so
can be told from the world and the move (`World.demands`): they are just the requests for a token
that the session gets (`session_of_turn`). What holds of a keeper whatever happens is that both
engines are sound and held, and that only calls are linked to a token (`Steady`).
-/

namespace LeaseKeeper.Keeper

/-- What a move of a keeper is to its session. -/
def Move.forSession? : Move → Option Session.Move
  | session r => some (.begin r)
  | fireSession id => some (.fire id)
  | enterSession op => some (.enter op)
  | answerSession op r => some (.answer op r)
  | _ => none

/-- What a move of a keeper is to its lease engine; a shutdown is more than that. -/
def Move.forLeases? : Move → Option Leases.Move
  | leases r => some (.begin r)
  | fireLeases id => some (.fire id)
  | enterLeases op => some (.enter op)
  | openNext op => some (.openNext op)
  | answerLeases op r => some (.answer op r)
  | _ => none

namespace World

/-! ## Who asks for a token -/

/-- The call for which an operation is about to ask the session for a token. -/
def asks? (w : World) (op : Nat) : Option Leases.Call :=
  match w.link? op with
  | none => (w.leases.call? op).filter fun c => (Server.early? c).isNone
  | some _ => none

/-- The calls that ask for a token when these operations get the opportunity, one after the other. -/
def petitions (w : World) : List Nat → List (Nat × Leases.Call)
  | [] => []
  | op :: ops => ((w.asks? op).map fun c => (op, c)).toList ++ (w.askFor op).petitions ops

/-- The operations of the lease engine, oldest first. -/
def numbers (w : World) : List Nat := w.leases.operations.reverse.map (·.1)

/-- What a move makes of a keeper before any call has asked for a token, if it is one after which
calls do. -/
def unsettled? (w : World) : Move → Option World
  | .leases r => some { w with leases := w.leases.begin r }
  | .fireLeases id => w.onLeases (w.leases.fire id)
  | .enterLeases op => w.onLeases (w.leases.enter op)
  | .openNext op => w.onLeases (w.leases.openNext op)
  | .answerLeases op r =>
    match w.link? op with
    | some (.sent _) => (w.leases.answer op r).map fun l => { w.unlink op with leases := l }
    | _ => none
  | .resume op =>
    match w.link? op, w.leases.call? op with
    | some (.asking operation), some call => (w.session.outcome? operation).map (w.withToken op call)
    | _, _ => none
  | .shutdown => some { w with
      closings := w.closings ++ [Closing.leases w.leases.nextOperation]
      leases := w.leases.begin .destroy }
  | _ => none

/-- The calls that ask the session for a token in a step by that move, with their operations. -/
def demands (w : World) (m : Move) : List (Nat × Leases.Call) :=
  (w.unsettled? m).elim [] fun u => u.petitions u.numbers

variable {w u w' : World} {m : Move} {op a : Nat}

theorem session_deliver (w : World) (op : Nat) (r : Leases.Reply) :
    (w.deliver op r).session = w.session := by
  unfold deliver
  split <;> rfl

theorem session_withToken (w : World) (op : Nat) (c : Leases.Call) (o : Session.Outcome) :
    (w.withToken op c o).session = w.session := by
  cases o with
  | granted g => rfl
  | refused f => exact session_deliver ..
  | finished => rfl

theorem asks?_of_call {c : Leases.Call} (hl : w.link? op = none) (hc : w.leases.call? op = some c) :
    w.asks? op = if (Server.early? c).isNone then some c else none := by
  rw [asks?, hl, hc]
  exact Option.filter_some ..

/-- The session gets a request for a token just if the operation asks for one. -/
theorem session_askFor (w : World) (op : Nat) : (w.askFor op).session =
    (w.asks? op).elim w.session fun _ => w.session.begin .token := by
  unfold askFor
  split
  · rename_i c hl hc
    rw [asks?_of_call hl hc]
    unfold ask
    split
    · rename_i r hr
      simp [hr, session_deliver]
    · rename_i hr
      simp only [hr, Option.isNone_none, if_true, Option.elim_some]
      split
      · exact session_withToken ..
      · rfl
  · rename_i hno
    unfold asks?
    cases hl : w.link? op with
    | some l => rfl
    | none =>
      cases hc : w.leases.call? op with
      | none => rfl
      | some c => exact absurd hc (hno c hl)

theorem session_foldl_askFor (w : World) (ops : List Nat) : (ops.foldl askFor w).session =
    (w.petitions ops).foldl (fun s _ => s.begin .token) w.session := by
  induction ops generalizing w with
  | nil => rfl
  | cons op ops ih =>
    rw [List.foldl_cons, ih, petitions, List.foldl_append, session_askFor]
    cases w.asks? op <;> rfl

/-- What the session gets in the end of a step are requests for a token, one for each call that
asks. -/
theorem session_settle (w : World) : w.settle.session =
    (w.petitions w.numbers).foldl (fun s _ => s.begin .token) w.session :=
  w.session_foldl_askFor w.numbers

/-! ## What holds whatever happens -/

/-- Both engines are sound and held, and only calls are linked to a token. -/
structure Steady (w : World) : Prop where
  sound : Leases.Sound w.leases
  joined : w.leases.Joined
  held : w.leases.held = true
  orderly : w.session.IsOrderly
  concluded : w.session.Concluded
  heldSession : w.session.held = true
  linked : ∀ a l, w.link? a = some l → ∃ q, w.leases.point? a = some q ∧ q.isCall = true

theorem link?_setLink (w : World) (op a : Nat) (l : Link) :
    (w.setLink op l).link? a = if a = op then some l else w.link? a :=
  lookup_move ..

theorem link?_unlink (w : World) (op a : Nat) :
    (w.unlink op).link? a = if a = op then none else w.link? a :=
  lookup_filter ..

theorem isJoining_of_isCall {q : Leases.Point} (hq : q.isCall = true) : q.isJoining = false := by
  cases q <;> first | rfl | cases hq

/-- Who waits for the server is linked to a call. -/
theorem isCall_of_call? {c : Leases.Call} (hc : w.leases.call? op = some c) :
    ∃ q, w.leases.point? op = some q ∧ q.isCall = true := by
  obtain ⟨q, hq, hc⟩ := Option.bind_eq_some_iff.mp hc
  refine ⟨q, hq, ?_⟩
  cases q <;> first | rfl | cases hc

namespace Steady

/-- The lease engine gets on with something that is no call with the server. -/
theorem onLeases (hs : Steady w) {k : Leases.Move} {l : Leases.World} (ht : Leases.Turn w.leases k l)
    (hr : k ≠ .release) (hk : ∀ a, k.mover? = some a → w.link? a = none) :
    Steady { w with leases := l } := by
  have hm := Leases.World.motion_of_turn hs.sound hr ht
  exact {
    sound := hs.sound.of_turn ht
    joined := hm.joined hs.sound hs.joined
    held := (hm.access hs.sound).1.trans hs.held
    orderly := hs.orderly
    concluded := hs.concluded
    heldSession := hs.heldSession
    linked := fun a k' ha => by
      obtain ⟨q, hq, hc⟩ := hs.linked a k' ha
      refine ⟨q, hm.stays hs.sound hq (isJoining_of_isCall hc) fun hmv => ?_, hc⟩
      cases (hk a hmv).symm.trans ha }

theorem unlink (hs : Steady w) (op : Nat) : Steady (w.unlink op) :=
  { hs with
    linked := fun a k ha => by
      rw [link?_unlink] at ha
      split at ha
      · cases ha
      · exact hs.linked a k ha }

/-- A call is over. -/
theorem answers (hs : Steady w) {r : Leases.Reply} {l : Leases.World}
    (ht : Leases.Turn w.leases (.answer op r) l) : Steady { w.unlink op with leases := l } := by
  refine (hs.unlink op).onLeases ht (fun h => by cases h) fun a ha => ?_
  cases ha
  exact (link?_unlink ..).trans (if_pos rfl)

theorem setLink (hs : Steady w) {c : Leases.Call} (hc : w.leases.call? op = some c) (l : Link) :
    Steady (w.setLink op l) :=
  { hs with
    linked := fun a k ha => by
      rw [link?_setLink] at ha
      split at ha
      · rename_i hop
        subst hop
        exact isCall_of_call? hc
      · exact hs.linked a k ha }

theorem onSession (hs : Steady w) {k : Session.Move} {s : Session.World}
    (ht : Session.Turn w.session k s) (hk : k ≠ .release) : Steady { w with session := s } :=
  { hs with
    orderly := Session.orderly_turn hs.orderly ht
    concluded := Session.World.concluded_turn hs.orderly hs.concluded ht
    heldSession := (Session.World.access_of_turn ht hk).1.trans hs.heldSession }

/-- The session begins what it is asked for. -/
theorem begins (hs : Steady w) (r : Session.Request) :
    Session.Turn w.session (.begin r) (w.session.begin r) :=
  Session.turn_of_step (if_pos hs.heldSession)

theorem begun (hs : Steady w) (r : Session.Request) : (w.session.begin r).Concluded :=
  Session.World.concluded_turn hs.orderly hs.concluded (hs.begins r)

end Steady

/-! ## An operation gets the opportunity to ask -/

/-- What becomes of an operation that may ask for a token. -/
inductive Asked (w : World) (op : Nat) : World → Prop
  /-- It has asked before, or has made no call. -/
  | idle : w.asks? op = none → Asked w op w
  | links {c : Leases.Call} {s : Session.World} {l : Link} :
    s = w.session ∨ s = w.session.begin .token → w.leases.call? op = some c →
    Asked w op ({ w with session := s }.setLink op l)
  /-- It needs no token, or gets none. -/
  | answered {r : Leases.Reply} {s : Session.World} {l : Leases.World} :
    s = w.session ∨ s = w.session.begin .token → Leases.Turn w.leases (.answer op r) l →
    (∀ secret, r ≠ .fetched (.ok (some secret))) →
    Asked w op { w.unlink op with session := s, leases := l }

theorem exists_turn_of_call {c : Leases.Call} (hc : w.leases.call? op = some c) {r : Leases.Reply}
    (hr : Server.early? c = some r ∨ ∃ f, r = Server.denied f c) :
    ∃ l, w.leases.answer op r = some l ∧ ∀ secret, r ≠ .fetched (.ok (some secret)) := by
  obtain ⟨q, hq, hc⟩ := Option.bind_eq_some_iff.mp hc
  simp only [Leases.World.answer, hq]
  cases q with
  | registering h | rotating h previous cause =>
    obtain ⟨e, -, rfl⟩ := Option.map_eq_some_iff.mp hc
    obtain hr | ⟨f, rfl⟩ := hr
    · cases hr
    · exact ⟨_, rfl, fun _ h => by cases h⟩
  | renewing h s since =>
    cases hc
    obtain hr | ⟨f, rfl⟩ := hr
    · rw [Server.early?] at hr
      split at hr <;> cases hr
      exact ⟨_, rfl, fun _ h => by cases h⟩
    · exact ⟨_, rfl, fun _ h => by cases h⟩
  | revoking h s remover =>
    cases hc
    obtain hr | ⟨f, rfl⟩ := hr
    · rw [Server.early?] at hr
      split at hr <;> cases hr
      exact ⟨_, rfl, fun _ h => by cases h⟩
    · exact ⟨_, rfl, fun _ h => by cases h⟩
  | queued | opening | joining => cases hc

theorem deliver_of_answer {r : Leases.Reply} {l : Leases.World} (h : w.leases.answer op r = some l)
    (s : Session.World) : ({ w with session := s } : World).deliver op r =
      { w.unlink op with session := s, leases := l } := by
  rw [deliver, h]
  rfl

theorem asked_askFor (hs : Steady w) (op : Nat) : Asked w op (w.askFor op) := by
  unfold askFor
  split
  · rename_i c hl hc
    unfold ask
    split
    · rename_i r hr
      obtain ⟨l, hl, hbare⟩ := exists_turn_of_call hc (.inl hr)
      rw [deliver_of_answer hl w.session]
      exact .answered (.inl rfl) (Leases.turn_of_step hl) hbare
    · dsimp only
      split
      · rename_i o ho
        cases o with
        | granted g => exact .links (.inr rfl) hc
        | refused f =>
          obtain ⟨l, hl, hbare⟩ := exists_turn_of_call hc (.inr ⟨f, rfl⟩)
          show Asked w op (World.deliver _ op (Server.denied f c))
          rw [deliver_of_answer hl (w.session.begin .token)]
          exact .answered (.inr rfl) (Leases.turn_of_step hl) hbare
        | finished => exact absurd ho (hs.begun .token).token
      · exact .links (.inr rfl) hc
  · rename_i hno
    refine .idle ?_
    unfold asks?
    cases hl : w.link? op with
    | some l => rfl
    | none =>
      cases hc : w.leases.call? op with
      | none => rfl
      | some c => exact absurd hc (hno c hl)

theorem Steady.asked (hs : Steady w) (ha : Asked w op u) : Steady u := by
  have hsession : ∀ {v s}, Steady v → v.session = w.session →
      (s = w.session ∨ s = w.session.begin .token) → Steady { v with session := s } := by
    rintro v s hv he (rfl | rfl) <;> rw [← he]
    · exact hv
    · exact hv.onSession (hv.begins .token) nofun
  cases ha with
  | idle _ => exact hs
  | links he hc => exact hsession (hs.setLink hc _) rfl he
  | answered he ht _ => exact hsession (hs.answers ht) rfl he

theorem Steady.askFor (hs : Steady w) (op : Nat) : Steady (w.askFor op) :=
  hs.asked (asked_askFor hs op)

theorem Steady.foldl_askFor (hs : Steady w) (ops : List Nat) : Steady (ops.foldl World.askFor w) := by
  induction ops generalizing w with
  | nil => exact hs
  | cons op ops ih => exact ih (hs.askFor op)

theorem Steady.settle (hs : Steady w) : Steady w.settle := hs.foldl_askFor w.numbers

/-- Whatever a lease engine keeps in its steps, it keeps while calls ask for tokens. -/
theorem Steady.keeps {P : Leases.World → Prop} (hs : Steady w)
    (hstep : ∀ {l l' op r}, Leases.Sound l → l.Joined → Leases.Turn l (.answer op r) l' → P l → P l')
    (hp : P w.leases) (ops : List Nat) : P (ops.foldl World.askFor w).leases := by
  induction ops generalizing w with
  | nil => exact hp
  | cons op ops ih =>
    refine ih (hs.askFor op) ?_
    have ha := asked_askFor hs op
    generalize w.askFor op = u at ha
    cases ha with
    | idle _ => exact hp
    | links _ _ => exact hp
    | answered _ ht _ => exact hstep hs.sound hs.joined ht hp

/-- Once the session has been shut down, a call that asks for a token is refused one. -/
theorem askFor_of_destroyed (hd : w.session.destroyed = true) {c : Leases.Call}
    (ha : w.asks? op = some c) : w.askFor op =
      ({ w with session := w.session.begin .token } : World).deliver op (Server.denied .destroyed c) := by
  unfold asks? at ha
  cases hl : w.link? op with
  | some l => simp [hl] at ha
  | none =>
    simp only [hl, Option.filter_eq_some_iff] at ha
    obtain ⟨hc, he⟩ := ha
    simp only [askFor, hl, hc, ask, Option.isNone_iff_eq_none.mp he,
      Session.World.outcome?_begin_token hd]
    rfl

/-- Asking for a token shuts nothing down. -/
theorem Asked.frame (hs : Steady w) (ha : Asked w op u) :
    u.closings = w.closings ∧ u.session.destroyed = w.session.destroyed := by
  have hsession : ∀ {s}, s = w.session ∨ s = w.session.begin .token →
      s.destroyed = w.session.destroyed := by
    rintro s (rfl | rfl)
    · rfl
    · exact (Session.World.access_of_turn (hs.begins .token) nofun).2 nofun
  cases ha with
  | idle _ => exact ⟨rfl, rfl⟩
  | links he _ => exact ⟨rfl, hsession he⟩
  | answered he _ _ => exact ⟨rfl, hsession he⟩

theorem frame_foldl_askFor (hs : Steady w) (ops : List Nat) :
    (ops.foldl askFor w).closings = w.closings ∧
      (ops.foldl askFor w).session.destroyed = w.session.destroyed := by
  induction ops generalizing w with
  | nil => exact ⟨rfl, rfl⟩
  | cons op ops ih =>
    obtain ⟨hc, hd⟩ := ih (hs.askFor op)
    obtain ⟨hc', hd'⟩ := (asked_askFor hs op).frame hs
    exact ⟨hc.trans hc', hd.trans hd'⟩

theorem settle_frame (hs : Steady w) :
    w.settle.closings = w.closings ∧ w.settle.session.destroyed = w.session.destroyed :=
  frame_foldl_askFor hs w.numbers

/-! ## Revocations that ask for a token -/

theorem asks?_eq_revoke_iff {l : Lease} : w.asks? op = some (.revoke l) ↔
    w.link? op = none ∧ l.hasId = true ∧
      ∃ h s remover, w.leases.point? op = some (.revoking h s remover) ∧ s.lease = l := by
  unfold asks?
  cases w.link? op with
  | some k => simp
  | none =>
    simp only [Option.filter_eq_some_iff, true_and]
    refine ⟨fun ⟨hc, he⟩ => ?_, fun ⟨hid, h, s, remover, hq, hl⟩ => ?_⟩
    · refine ⟨?_, ?_⟩
      · rw [Server.early?] at he
        split at he
        · assumption
        · cases he
      · obtain ⟨q, hq, hc⟩ := Option.bind_eq_some_iff.mp hc
        cases q with
        | revoking h s remover =>
          cases hc
          exact ⟨h, s, remover, hq, rfl⟩
        | registering | rotating =>
          obtain ⟨_, -, hc⟩ := Option.map_eq_some_iff.mp hc
          cases hc
        | _ => cases hc
    · subst hl
      refine ⟨?_, ?_⟩
      · rw [Leases.World.call?, hq]
        rfl
      · rw [Server.early?, if_pos hid]
        rfl

/-- An answer without a secret leads to no revocation, and stops none. -/
theorem asks?_answered (hs : Steady w) {r : Leases.Reply} {l : Leases.World} {lease : Lease}
    (ht : Leases.Turn w.leases (.answer op r) l) (hr : ∀ secret, r ≠ .fetched (.ok (some secret)))
    (s : Session.World) :
    ({ w.unlink op with session := s, leases := l } : World).asks? a = some (.revoke lease) ↔
      a ≠ op ∧ w.asks? a = some (.revoke lease) := by
  have hm := Leases.World.motion_of_turn (m := .answer op r) hs.sound (fun h => by cases h) ht
  have hlink : ({ w.unlink op with session := s, leases := l } : World).link? a =
      if a = op then none else w.link? a := link?_unlink w op a
  simp only [asks?_eq_revoke_iff, hm.revoking_iff hs.sound hr, hlink]
  split
  · rename_i he
    simp [he]
  · rename_i he
    simp [he]

theorem asks?_asked (hs : Steady w) (ha : Asked w op u) {l : Lease} :
    u.asks? a = some (.revoke l) ↔ a ≠ op ∧ w.asks? a = some (.revoke l) := by
  cases ha with
  | idle hno =>
    refine ⟨fun h => ⟨?_, h⟩, And.right⟩
    rintro rfl
    cases hno.symm.trans h
  | links _ _ =>
    simp only [asks?_eq_revoke_iff]
    rw [link?_setLink]
    split
    · rename_i he
      simp [he]
    · rename_i he
      simp only [ne_eq, he, not_false_eq_true, true_and]
      rfl
  | answered _ ht hr => exact asks?_answered hs ht hr _

theorem mem_petitions (hs : Steady w) (ops : List Nat) {l : Lease} :
    (op, .revoke l) ∈ w.petitions ops ↔ op ∈ ops ∧ w.asks? op = some (.revoke l) := by
  induction ops generalizing w with
  | nil => simp [petitions]
  | cons a ops ih =>
    rw [petitions, List.mem_append, ih (hs.askFor a), asks?_asked hs (asked_askFor hs a)]
    simp only [Option.mem_toList, Option.map_eq_some_iff, Prod.mk.injEq,
      List.mem_cons]
    by_cases he : op = a
    · subst he
      simp
    · simp [he, Ne.symm he]

/-- Every operation that is about to ask for a revocation does so. -/
theorem mem_petitions_numbers (hs : Steady w) {l : Lease} :
    (op, .revoke l) ∈ w.petitions w.numbers ↔ w.asks? op = some (.revoke l) := by
  rw [mem_petitions hs]
  refine ⟨And.right, fun h => ⟨?_, h⟩⟩
  obtain ⟨-, -, _, _, _, hq, -⟩ := asks?_eq_revoke_iff.mp h
  exact List.mem_map.mpr ⟨_, List.mem_reverse.mpr (lookup_mem hq), rfl⟩

theorem asks?_foldl_askFor (hs : Steady w) (ops : List Nat) {l : Lease} :
    (ops.foldl askFor w).asks? op = some (.revoke l) ↔ op ∉ ops ∧ w.asks? op = some (.revoke l) := by
  induction ops generalizing w with
  | nil => simp
  | cons a ops ih =>
    rw [List.foldl_cons, ih (hs.askFor a), asks?_asked hs (asked_askFor hs a), List.mem_cons, not_or]
    tauto

/-- After that, none is about to. -/
theorem asks?_settle (hs : Steady w) (op : Nat) (l : Lease) : w.settle.asks? op ≠ some (.revoke l) := by
  intro h
  obtain ⟨hno, h⟩ := (asks?_foldl_askFor hs w.numbers).mp h
  exact hno ((mem_petitions hs _).mp ((mem_petitions_numbers hs).mpr h)).1

end World

/-! ## Steps -/

/-- The lease engine gets on, or a call of it does. -/
inductive Stirs (w : World) : Move → World → Prop
  | leases {m : Move} {k : Leases.Move} {l : Leases.World} : m.forLeases? = some k →
    (∀ a, k.mover? = some a → w.link? a = none) → Leases.Turn w.leases k l →
    Stirs w m { w with leases := l }
  | answers {op : Nat} {r : Leases.Reply} {c : Credential} {l : Leases.World} :
    w.link? op = some (.sent c) → Leases.Turn w.leases (.answer op r) l →
    Stirs w (.answerLeases op r) { w.unlink op with leases := l }
  | resumes {op : Nat} {u : World} : World.Asked w op u → Stirs w (.resume op) u
  | shutsDown {l : Leases.World} : Leases.Turn w.leases (.begin .destroy) l →
    Stirs w .shutdown { w with
      closings := w.closings ++ [Closing.leases w.leases.nextOperation]
      leases := l }

/-- What may become of `w` in a step by that move. -/
inductive Turn (w : World) : Move → World → Prop
  | stirs {m : Move} {u : World} : w.unsettled? m = some u → Stirs w m u → Turn w m u.settle
  | session {m : Move} {k : Session.Move} {s : Session.World} : m.forSession? = some k →
    Session.Turn w.session k s → Turn w m { w with session := s }
  /-- The lease engine has been shut down, and the session is next. -/
  | ends {before rest : List Closing} {op : Nat} {o : Leases.Outcome} :
    w.closings = before ++ .leases op :: rest → w.leases.outcome? op = some o →
    Turn w .proceed { w with
      session := w.session.begin .destroy
      closings := before ++ .session w.session.nextOperation :: rest }
  | stops {before rest : List Closing} {op : Nat} : w.closings = before ++ .session op :: rest →
    Turn w .proceed { w.stop with closings := before ++ rest }
  | elapses {t : Instant} {s : Session.World} {l : Leases.World} :
    Session.Turn w.session (.elapse t) s → Leases.Turn w.leases (.elapse t) l →
    Turn w (.elapse t) { w with session := s, leases := l }

namespace World

variable {w u w' : World} {m : Move} {op a : Nat}

/-- The closing that goes on is one of them, and the others stay. -/
theorem exists_of_proceed (h : w.proceed = some w') : ∃ before c rest next v,
    w.closings = before ++ c :: rest ∧ w.goOn c = some (next, v) ∧
      w' = { v with closings := before ++ next.toList ++ rest } := by
  suffices hall : ∀ (cs pre : List Closing), proceed.go w pre cs = some w' →
      ∃ before c rest next v, pre ++ cs = before ++ c :: rest ∧ w.goOn c = some (next, v) ∧
        w' = { v with closings := before ++ next.toList ++ rest } from hall w.closings [] h
  intro cs
  induction cs with
  | nil => intro pre h; cases h
  | cons c cs ih =>
    intro pre h
    rw [proceed.go] at h
    split at h
    · rename_i next v hv
      exact ⟨pre, c, cs, next, v, rfl, hv, (Option.some.inj h).symm⟩
    · obtain ⟨before, c', rest, next, v, he, hv, hw'⟩ := ih (pre ++ [c]) h
      exact ⟨before, c', rest, next, v, by rw [← he, List.append_assoc]; rfl, hv, hw'⟩

theorem asked_withToken {n : Nat} {c : Leases.Call} (hl : w.link? op = some (.asking n))
    (hc : w.leases.call? op = some c) (o : Session.Outcome) : Asked w op (w.withToken op c o) := by
  cases o with
  | granted g => exact .links (.inl rfl) hc
  | refused f =>
    obtain ⟨l, hl, hbare⟩ := exists_turn_of_call hc (.inr ⟨f, rfl⟩)
    show Asked w op (World.deliver _ op (Server.denied f c))
    rw [deliver_of_answer hl w.session]
    exact .answered (.inl rfl) (Leases.turn_of_step hl) hbare
  | finished =>
    refine .idle ?_
    rw [asks?, hl]

/-- Who waits for no call is linked to none. -/
theorem Steady.unlinked (hs : Steady w) {q : Leases.Point} (hq : w.leases.point? a = some q)
    (hc : q.isCall = false) : w.link? a = none := by
  cases hl : w.link? a with
  | none => rfl
  | some l =>
    obtain ⟨p, hp, hcall⟩ := hs.linked a l hl
    cases hp.symm.trans hq
    cases hc.symm.trans hcall

end World

open World

theorem stirs_of_unsettled {w u : World} {m : Move} (hs : Steady w) (h : w.unsettled? m = some u) :
    Stirs w m u := by
  have hbegin : ∀ r, Leases.Turn w.leases (.begin r) (w.leases.begin r) := fun r =>
    Leases.turn_of_step (if_pos hs.held)
  cases m with
  | leases r =>
    cases h
    exact .leases rfl nofun (hbegin r)
  | fireLeases id =>
    obtain ⟨l, hl, rfl⟩ := Option.map_eq_some_iff.mp h
    refine .leases (k := .fire id) rfl nofun ?_
    simp only [Leases.World.fire] at hl
    split at hl <;> cases hl
    exact .runs (.due ‹_›)
  | enterLeases op =>
    obtain ⟨l, hl, rfl⟩ := Option.map_eq_some_iff.mp h
    have ht : Leases.Turn w.leases (.enter op) l := Leases.turn_of_step hl
    refine .leases rfl (fun a ha => ?_) ht
    cases ha
    cases ht with
    | enters hq _ _ => exact hs.unlinked hq rfl
    | runs hf => cases hf
  | openNext op =>
    obtain ⟨l, hl, rfl⟩ := Option.map_eq_some_iff.mp h
    have ht : Leases.Turn w.leases (.openNext op) l := Leases.turn_of_step hl
    refine .leases rfl (fun a ha => ?_) ht
    cases ha
    cases ht with
    | opens hq => exact hs.unlinked hq rfl
    | runs hf => cases hf
  | answerLeases op r =>
    simp only [unsettled?] at h
    split at h
    · rename_i c hl
      obtain ⟨l, hans, rfl⟩ := Option.map_eq_some_iff.mp h
      exact .answers hl (Leases.turn_of_step hans)
    · cases h
  | resume op =>
    simp only [unsettled?] at h
    split at h
    · rename_i n c hl hc
      obtain ⟨o, -, rfl⟩ := Option.map_eq_some_iff.mp h
      exact .resumes (asked_withToken hl hc o)
    · cases h
  | shutdown =>
    cases h
    exact .shutsDown (hbegin .destroy)
  | session | fireSession | enterSession | answerSession | proceed | elapse => cases h

/-- Every step is one of the turns. -/
theorem turn_of_step {w w' : World} {m : Move} (hs : Steady w) (h : step w m = some w') :
    Turn w m w' := by
  have hstirs : ∀ {u}, w.unsettled? m = some u → w' = u.settle → Turn w m w' := fun hu he =>
    he ▸ .stirs hu (stirs_of_unsettled hs hu)
  cases m with
  | session r =>
    cases h
    exact .session rfl (hs.begins r)
  | fireSession id =>
    obtain ⟨s, hf, rfl⟩ := Option.map_eq_some_iff.mp h
    refine .session (k := .fire id) rfl ?_
    simp only [Session.World.fire] at hf
    split at hf <;> cases hf
    exact Session.World.turn_of_fires (.due ‹_›)
  | enterSession op =>
    obtain ⟨s, he, rfl⟩ := Option.map_eq_some_iff.mp h
    exact .session rfl (Session.turn_of_step he)
  | answerSession op r =>
    obtain ⟨s, he, rfl⟩ := Option.map_eq_some_iff.mp h
    exact .session rfl (Session.turn_of_step he)
  | leases r => exact hstirs rfl (Option.some.inj h).symm
  | shutdown => exact hstirs rfl (Option.some.inj h).symm
  | fireLeases id | enterLeases op | openNext op =>
    obtain ⟨u, hu, rfl⟩ := Option.map_eq_some_iff.mp h
    exact hstirs hu rfl
  | answerLeases op r =>
    simp only [step, World.answer] at h
    split at h
    · rename_i c hl
      obtain ⟨l, hans, rfl⟩ := Option.map_eq_some_iff.mp h
      exact hstirs (by simp only [unsettled?, hl, hans, Option.map_some]) rfl
    · cases h
  | resume op =>
    simp only [step, World.resume] at h
    split at h
    · rename_i n c hl hc
      obtain ⟨o, ho, rfl⟩ := Option.map_eq_some_iff.mp h
      exact hstirs (by simp only [unsettled?, hl, hc, ho, Option.map_some]) rfl
    · cases h
  | proceed =>
    obtain ⟨before, c, rest, next, v, hc, hv, rfl⟩ := exists_of_proceed h
    cases c with
    | leases op =>
      obtain ⟨o, ho, he⟩ := Option.map_eq_some_iff.mp hv
      cases he
      rw [show before ++ (some (Closing.session w.session.nextOperation)).toList ++ rest =
        before ++ .session w.session.nextOperation :: rest by simp]
      exact .ends hc ho
    | session op =>
      obtain ⟨o, ho, he⟩ := Option.map_eq_some_iff.mp hv
      cases he
      rw [show before ++ (none : Option Closing).toList ++ rest = before ++ rest by simp]
      exact .stops hc
  | elapse t =>
    obtain ⟨s, hst, h⟩ := Option.bind_eq_some_iff.mp h
    obtain ⟨l, hl, h⟩ := Option.bind_eq_some_iff.mp h
    cases h
    exact .elapses (Session.turn_of_step hst) (Leases.turn_of_step hl)

/-! ## The requests of a step -/

namespace World

variable {w u w' : World} {m : Move}

/-- Calls get the opportunity to ask for a token after the lease engine has got on, or nothing of
that kind happens. -/
theorem unsettled?_of_turn (ht : Turn w m w') :
    (∃ u, w.unsettled? m = some u ∧ Stirs w m u ∧ w' = u.settle) ∨
      w.unsettled? m = none ∧ m.forLeases? = none := by
  cases ht with
  | stirs hu h => exact .inl ⟨_, hu, h, rfl⟩
  | session hk _ => cases m <;> first | exact .inr ⟨rfl, rfl⟩ | cases hk
  | ends _ _ | stops _ | elapses _ _ => exact .inr ⟨rfl, rfl⟩

/-- Until then the session gets nothing to do. -/
theorem session_of_unsettled (hu : w.unsettled? m = some u) : u.session = w.session := by
  cases m with
  | leases | shutdown =>
    cases hu
    rfl
  | fireLeases | enterLeases | openNext =>
    obtain ⟨_, -, rfl⟩ := Option.map_eq_some_iff.mp hu
    rfl
  | answerLeases op r =>
    simp only [unsettled?] at hu
    split at hu
    · obtain ⟨_, -, rfl⟩ := Option.map_eq_some_iff.mp hu
      rfl
    · cases hu
  | resume op =>
    simp only [unsettled?] at hu
    split at hu
    · obtain ⟨_, -, rfl⟩ := Option.map_eq_some_iff.mp hu
      exact session_withToken ..
    · cases hu
  | session | fireSession | enterSession | answerSession | proceed | elapse => cases hu

/-- In a step in which calls ask for a token, the session gets a request for each of them, and nothing
else. -/
theorem session_of_turn (ht : Turn w m w') (hm : w.demands m ≠ []) : w'.session =
    (w.demands m).foldl (fun s _ => s.begin .token) w.session := by
  obtain ⟨u, hu, -, rfl⟩ | ⟨hu, -⟩ := unsettled?_of_turn ht
  · rw [session_settle, session_of_unsettled hu, demands, hu]
    rfl
  · rw [demands, hu] at hm
    exact absurd rfl hm

/-! ## What every step keeps -/

theorem Steady.stirs (hs : Steady w) (h : Stirs w m u) : Steady u := by
  cases h with
  | @leases m k l hk hl ht =>
    refine hs.onLeases ht (fun he => ?_) hl
    subst he
    cases m <;> cases hk
  | answers _ ht => exact hs.answers ht
  | resumes ha => exact hs.asked ha
  | shutsDown ht => exact { hs.onLeases ht nofun nofun with }

/-- Nor does the lease engine, when it gets on. -/
theorem frame_of_stirs (hs : Steady w) (h : Stirs w m u) : u.session.destroyed = w.session.destroyed ∧
    (m ≠ .shutdown → u.closings = w.closings) := by
  cases h with
  | leases _ _ _ => exact ⟨rfl, fun _ => rfl⟩
  | answers _ _ => exact ⟨rfl, fun _ => rfl⟩
  | resumes ha =>
    obtain ⟨hc, hd⟩ := ha.frame hs
    exact ⟨hd, fun _ => hc⟩
  | shutsDown _ => exact ⟨rfl, fun h => absurd rfl h⟩

theorem Steady.turn (hs : Steady w) (h : Turn w m w') : Steady w' := by
  cases h with
  | stirs _ h => exact (hs.stirs h).settle
  | @session m k s hk ht =>
    refine hs.onSession ht fun he => ?_
    subst he
    cases m <;> cases hk
  | ends _ _ => exact { hs.onSession (hs.begins .destroy) nofun with }
  | stops _ =>
    have ht : Session.Turn w.session .stop w.session.stop := .stop
    have hl : Leases.Turn w.leases .stop w.leases.stop := .stops
    exact { (hs.onSession ht nofun).onLeases hl nofun nofun with }
  | elapses ht hl => exact (hs.onSession ht nofun).onLeases hl nofun nofun

/-- Whatever the lease engine keeps in its own steps, it keeps as long as no call asks for a token. -/
theorem leases_of_stirs {P : Leases.World → Prop} (h : Stirs w m u)
    (hstep : ∀ {k l}, Leases.Turn w.leases k l → k ≠ .release →
      (k = .begin .destroy → m = .shutdown ∨ m = .leases .destroy) → P w.leases → P l)
    (hp : P w.leases) : P u.leases := by
  cases h with
  | @leases m k l hk _ ht =>
    refine hstep ht (fun he => ?_) (fun he => ?_) hp <;> subst he
    · cases m <;> cases hk
    · cases m <;> cases hk
      exact .inr rfl
  | answers _ ht => exact hstep ht nofun nofun hp
  | resumes ha =>
    cases ha with
    | idle _ => exact hp
    | links _ _ => exact hp
    | answered _ ht _ => exact hstep ht nofun nofun hp
  | shutsDown ht => exact hstep ht nofun (fun _ => .inl rfl) hp

/-- Whatever the lease engine keeps in its own steps, a keeper keeps. -/
theorem leases_of_turn {P : Leases.World → Prop} (hs : Steady w) (h : Turn w m w')
    (hstep : ∀ {l k l'}, Leases.Sound l → l.Joined → Leases.Turn l k l' → k ≠ .release →
      (k = .begin .destroy → m = .shutdown ∨ m = .leases .destroy) → P l → P l')
    (hp : P w.leases) : P w'.leases := by
  cases h with
  | @stirs _ u _ h =>
    exact (hs.stirs h).keeps (fun hl hj ht => hstep hl hj ht nofun nofun)
      (leases_of_stirs h (hstep hs.sound hs.joined) hp) u.numbers
  | session _ _ => exact hp
  | ends _ _ => exact hp
  | stops _ =>
    have hl : Leases.Turn w.leases .stop w.leases.stop := .stops
    exact hstep hs.sound hs.joined hl nofun nofun hp
  | elapses _ hl => exact hstep hs.sound hs.joined hl nofun nofun hp

end World

/-! ## Runs -/

theorem run?_append (w : World) (ms ns : List Move) :
    run? w (ms ++ ns) = (run? w ms).bind fun v => run? v ns := by
  induction ms generalizing w with
  | nil => rfl
  | cons m ms ih =>
    rw [List.cons_append, run?, run?]
    cases step w m with
    | none => rfl
    | some v => exact ih v

theorem run?_concat {w w' : World} {ms : List Move} {m : Move} :
    run? w (ms ++ [m]) = some w' ↔ ∃ v, run? w ms = some v ∧ step v m = some w' := by
  rw [run?_append, Option.bind_eq_some_iff]
  simp only [run?, Option.bind_fun_some]

/-- The run passes through that keeper. -/
def Visits (start : World) (ms : List Move) (w : World) : Prop :=
  ∃ ns, ns <+: ms ∧ run? start ns = some w

/-- The run takes that step. -/
def Passes (start : World) (ms : List Move) (w : World) (m : Move) (w' : World) : Prop :=
  ∃ ns, ns ++ [m] <+: ms ∧ run? start ns = some w ∧ step w m = some w'

end LeaseKeeper.Keeper
