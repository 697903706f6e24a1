import LeaseKeeper.Audience
import LeaseKeeper.Rehearsal.Multicaster

/-!
# Delivery to a snapshot

What a delivery is worth when listeners change the very lists that are being gone through. A
`Reaction` is what one listener does in one call: it registers and unregisters listeners on either
channel, looks at how many there are, and at last ends the call, well or not. A `Delivery` is the
state between two calls, with a record of the calls so far, and `Multicaster.multicast` delivers one
event by `deliver`.

Each call does to the lists what its edits do to them (`Reaction.caster_run`), so a delivery is
known from the list it began with: `delivers_to_snapshot` says who is called, what is left of the
lists, and that how listeners end makes no difference to either. The observers of an engine and
the listeners of a rehearsal are called by such a delivery (`hear_eq_multicast`,
`send_eq_multicast`).
-/

namespace LeaseKeeper

variable {σ L : Type}

/-! ## Edits of the lists -/

/-- A change of the lists. -/
inductive Edit (L : Type) where
  | register (channel : Channel) (listener : L)
  | unregister (channel : Channel) (id : Nat)

/-- The lists after a change. -/
def Edit.apply (m : Multicaster L) : Edit L → Multicaster L
  | .register channel listener => (m.add channel listener).2
  | .unregister channel id => (m.remove channel id).2

namespace Multicaster

/-- The lists after some changes. -/
def edited (m : Multicaster L) (edits : List (Edit L)) : Multicaster L := edits.foldl Edit.apply m

@[simp] theorem edited_nil (m : Multicaster L) : m.edited [] = m := rfl

@[simp] theorem edited_cons (m : Multicaster L) (e : Edit L) (es : List (Edit L)) :
    m.edited (e :: es) = (e.apply m).edited es := rfl

theorem edited_append (m : Multicaster L) (es fs : List (Edit L)) :
    m.edited (es ++ fs) = (m.edited es).edited fs := List.foldl_append

theorem listeners_setListeners (m : Multicaster L) (rs : List (Registration L)) (c d : Channel) :
    (m.setListeners rs c).listeners d = if c = d then rs else m.listeners d := by
  cases c <;> cases d <;> rfl

@[simp] theorem issued_setListeners (m : Multicaster L) (rs : List (Registration L)) (c : Channel) :
    (m.setListeners rs c).issued = m.issued := by
  cases c <;> rfl

theorem listeners_add (m : Multicaster L) (c d : Channel) (l : L) :
    (m.add c l).2.listeners d =
      if c = d then m.listeners c ++ [⟨m.issued + 1, l⟩] else m.listeners d :=
  (show _ = (m.setListeners _ c).listeners d by cases d <;> rfl).trans (listeners_setListeners ..)

/-- A removal leaves a part of every list. -/
theorem listeners_remove_sublist (m : Multicaster L) (c d : Channel) (id : Nat) :
    ((m.remove c id).2.listeners d).Sublist (m.listeners d) := by
  unfold remove
  split
  · rw [listeners_setListeners]
    split
    next h => exact h ▸ List.filter_sublist
    next => exact List.Sublist.refl _
  · exact List.Sublist.refl _

@[simp] theorem issued_remove (m : Multicaster L) (c : Channel) (id : Nat) :
    (m.remove c id).2.issued = m.issued := by
  unfold remove
  split
  · exact issued_setListeners ..
  · rfl

/-- Every list is in the order of registration, by numbers that were given out. -/
def Ordered (m : Multicaster L) : Prop :=
  ∀ c, (m.listeners c).Pairwise (fun r s => r.id < s.id) ∧ ∀ r ∈ m.listeners c, r.id ≤ m.issued

theorem ordered_empty : (empty : Multicaster L).Ordered := by
  intro c
  cases c <;> exact ⟨.nil, nofun⟩

theorem Ordered.apply {m : Multicaster L} (h : m.Ordered) (e : Edit L) : (e.apply m).Ordered := by
  intro d
  obtain ⟨hp, hi⟩ := h d
  cases e with
  | register c l =>
    show List.Pairwise _ ((m.add c l).2.listeners d) ∧
      ∀ r ∈ (m.add c l).2.listeners d, r.id ≤ m.issued + 1
    rw [listeners_add]
    split
    next hc =>
      subst hc
      refine ⟨List.pairwise_append.mpr ⟨hp, List.pairwise_singleton _ _, ?_⟩, ?_⟩
      · intro r hr s hs
        exact List.mem_singleton.mp hs ▸ Nat.lt_succ_of_le (hi r hr)
      · intro r hr
        rcases List.mem_append.mp hr with hr | hr
        · exact Nat.le_succ_of_le (hi r hr)
        · exact List.mem_singleton.mp hr ▸ Nat.le_refl _
    next => exact ⟨hp, fun r hr => Nat.le_succ_of_le (hi r hr)⟩
  | unregister c id =>
    have hs := m.listeners_remove_sublist c d id
    refine ⟨hp.sublist hs, fun r hr => ?_⟩
    show r.id ≤ (m.remove c id).2.issued
    exact issued_remove m c id ▸ hi r (hs.subset hr)

theorem Ordered.edited {m : Multicaster L} (h : m.Ordered) (es : List (Edit L)) :
    (m.edited es).Ordered := by
  induction es generalizing m with
  | nil => exact h
  | cons e es ih => exact ih (h.apply e)

end Multicaster

/-! ## What a listener does -/

/-- What a listener does when it is called, one thing after another. What it does next can depend on
what came of it so far. -/
inductive Reaction (σ L : Type) where
  /-- Ends the call, and leaves what all listeners together remember. -/
  | leave (ended : CallEnd) (memory : σ)
  /-- Registers a listener and is told its number. -/
  | register (channel : Channel) (listener : L) (andThen : Nat → Reaction σ L)
  /-- Takes a listener off a channel and is told whether it was there. -/
  | unregister (channel : Channel) (id : Nat) (andThen : Bool → Reaction σ L)
  /-- Looks at how many listeners there are, regular ones and those of errors. -/
  | look (andThen : Nat → Nat → Reaction σ L)

/-- What came of a call: the lists, the changes that led to them, and the end of the call. -/
structure CallResult (σ L : Type) where
  caster : Multicaster L
  edits : List (Edit L)
  ended : CallEnd
  memory : σ

/-- The same outcome after one more change, made at first. -/
def CallResult.after (e : Edit L) (o : CallResult σ L) : CallResult σ L := { o with edits := e :: o.edits }

/-- What comes of a call that finds these lists. -/
def Reaction.run (m : Multicaster L) : Reaction σ L → CallResult σ L
  | .leave ended memory => ⟨m, [], ended, memory⟩
  | .register channel listener andThen =>
    let (id, m) := m.add channel listener
    ((andThen id).run m).after (.register channel listener)
  | .unregister channel id andThen =>
    let (found, m) := m.remove channel id
    ((andThen found).run m).after (.unregister channel id)
  | .look andThen => (andThen m.regular.length m.errors.length).run m

/-- A call changes the lists by its edits, in their order, and by nothing else. -/
theorem Reaction.caster_run (x : Reaction σ L) (m : Multicaster L) :
    (x.run m).caster = m.edited (x.run m).edits := by
  induction x generalizing m with
  | leave ended memory => rfl
  | register channel listener andThen ih => exact ih _ _
  | unregister channel id andThen ih => exact ih _ _
  | look andThen ih => exact ih _ _ _

/-- The same reaction, ending the call well. -/
def Reaction.pardoned : Reaction σ L → Reaction σ L
  | .leave _ memory => .leave .done memory
  | .register channel listener andThen => .register channel listener fun id => (andThen id).pardoned
  | .unregister channel id andThen => .unregister channel id fun found => (andThen found).pardoned
  | .look andThen => .look fun regular errors => (andThen regular errors).pardoned

theorem Reaction.run_pardoned (x : Reaction σ L) (m : Multicaster L) :
    x.pardoned.run m = { x.run m with ended := .done } := by
  induction x generalizing m with
  | leave ended memory => rfl
  | register channel listener andThen ih => exact congrArg (CallResult.after _) (ih _ _)
  | unregister channel id andThen ih => exact congrArg (CallResult.after _) (ih _ _)
  | look andThen ih => exact ih _ _ _

/-! ## One delivery -/

/-- One call of a listener: which listener, what it changed, and how it ended. -/
structure Hearing (L : Type) where
  registration : Registration L
  edits : List (Edit L)
  ended : CallEnd

/-- The state between two calls of a delivery, with the calls and the log lines so far. -/
structure Delivery (σ L : Type) where
  caster : Multicaster L
  memory : σ
  calls : List (Hearing L)
  lines : List LogLine

namespace Delivery

/-- A listener is called and reacts. -/
def call (respond : Registration L → σ → Reaction σ L) (r : Registration L) (d : Delivery σ L) :
    Delivery σ L × CallEnd :=
  let o := (respond r d.memory).run d.caster
  (⟨o.caster, o.memory, d.calls ++ [⟨r, o.edits, o.ended⟩], d.lines⟩, o.ended)

/-- The line about a listener that did not end a call well is logged. -/
def note (kind : String) (id : Nat) (ended : CallEnd) (d : Delivery σ L) : Delivery σ L :=
  { d with lines := d.lines ++ (Multicaster.complaint? kind id ended).toList }

/-- The delivery after one more listener. -/
def advance (respond : Registration L → σ → Reaction σ L) (kind : String) (d : Delivery σ L)
    (r : Registration L) : Delivery σ L :=
  let (d, ended) := d.call respond r
  d.note kind r.id ended

end Delivery

/-- Delivers an event, of which only the kind and the channel matter here, to the end. -/
def Multicaster.multicast (respond : Registration L → σ → Reaction σ L) (kind : String) (isError : Bool)
    (m : Multicaster L) (memory : σ) : Delivery σ L :=
  deliver (fun r d => d.call respond r) (Delivery.note kind) (m.targets isError) ⟨m, memory, [], []⟩

/-- A delivery tells of itself: the listeners called, what became of the lists, and the lines. -/
structure Delivery.Tells (kind : String) (m : Multicaster L) (rs : List (Registration L))
    (d : Delivery σ L) : Prop where
  called : d.calls.map Hearing.registration = rs
  caster : d.caster = m.edited (d.calls.flatMap Hearing.edits)
  lines : d.lines = d.calls.flatMap fun c =>
    (Multicaster.complaint? kind c.registration.id c.ended).toList

namespace Delivery

variable {respond : Registration L → σ → Reaction σ L} {kind : String} {m : Multicaster L}
  {rs : List (Registration L)} {d : Delivery σ L}

theorem deliver_eq_foldl (rs : List (Registration L)) (d : Delivery σ L) :
    deliver (fun r d => d.call respond r) (Delivery.note kind) rs d = rs.foldl (advance respond kind) d := by
  induction rs generalizing d with
  | nil => rfl
  | cons r rs ih => exact ih _

theorem Tells.advance (h : d.Tells kind m rs) (r : Registration L) :
    (d.advance respond kind r).Tells kind m (rs ++ [r]) where
  called := by
    show List.map _ (d.calls ++ [_]) = _
    rw [List.map_append, h.called]
    rfl
  caster := by
    show (Reaction.run _ _).caster = m.edited (List.flatMap _ (d.calls ++ [_]))
    rw [Reaction.caster_run, h.caster, List.flatMap_append, Multicaster.edited_append,
      List.flatMap_singleton]
  lines := by
    show d.lines ++ _ = List.flatMap _ (d.calls ++ [_])
    rw [List.flatMap_append, ← h.lines, List.flatMap_singleton]

/-- Whatever the listeners do to the lists, the ones to come are called all the same. -/
theorem Tells.foldl (h : d.Tells kind m rs) (ss : List (Registration L)) :
    (ss.foldl (Delivery.advance respond kind) d).Tells kind m (rs ++ ss) := by
  induction ss generalizing rs d with
  | nil => exact (List.append_nil rs).symm ▸ h
  | cons s ss ih =>
    have hs : (d.advance respond kind s).Tells kind m (rs ++ [s]) := h.advance s
    have hall := ih hs
    rwa [List.append_assoc] at hall

theorem tells_multicast (isError : Bool) (memory : σ) :
    (m.multicast respond kind isError memory).Tells kind m (m.targets isError) := by
  unfold Multicaster.multicast
  rw [deliver_eq_foldl]
  have hnone : (⟨m, memory, [], []⟩ : Delivery σ L).Tells kind m [] := ⟨rfl, rfl, rfl⟩
  exact hnone.foldl _

end Delivery

/-! ## Ends are of no account -/

/-- The same behaviour, but that some listeners end every call well. -/
def pardon (isPardoned : Registration L → Bool) (respond : Registration L → σ → Reaction σ L)
    (r : Registration L) (memory : σ) : Reaction σ L :=
  if isPardoned r then (respond r memory).pardoned else respond r memory

/-- The same call, but that some listeners end it well. -/
def Hearing.pardon (isPardoned : Registration L → Bool) (c : Hearing L) : Hearing L :=
  if isPardoned c.registration then { c with ended := .done } else c

/-- Two deliveries differ in how calls of some listeners ended, and what was logged of it. -/
def Delivery.Alike (isPardoned : Registration L → Bool) (d e : Delivery σ L) : Prop :=
  e.caster = d.caster ∧ e.memory = d.memory ∧ e.calls = d.calls.map (Hearing.pardon isPardoned)

namespace Delivery

variable {isPardoned : Registration L → Bool} {respond : Registration L → σ → Reaction σ L}
  {kind : String} {d e : Delivery σ L}

theorem Alike.advance (h : Alike isPardoned d e) (r : Registration L) :
    Alike isPardoned (d.advance respond kind r) (e.advance (pardon isPardoned respond) kind r) := by
  obtain ⟨hc, hm, hk⟩ := h
  unfold Delivery.advance call note
  simp only [Alike, hc, hm, hk, List.map_append, List.map_cons, List.map_nil, pardon, Hearing.pardon]
  cases hp : isPardoned r with
  | true => simp [Reaction.run_pardoned]
  | false => simp

theorem Alike.foldl (h : Alike isPardoned d e) (rs : List (Registration L)) :
    Alike isPardoned (rs.foldl (Delivery.advance respond kind) d)
      (rs.foldl (Delivery.advance (pardon isPardoned respond) kind) e) := by
  induction rs generalizing d e with
  | nil => exact h
  | cons r rs ih => exact ih (h.advance r)

end Delivery

/-! ## The snapshot -/

/-- Two deliveries to the same listeners correspond if their calls and notes do. -/
theorem deliver_map {τ : Type} (f : σ → τ) {call : Registration L → σ → σ × CallEnd}
    {call' : Registration L → τ → τ × CallEnd} {note : Nat → CallEnd → σ → σ}
    {note' : Nat → CallEnd → τ → τ} {rs : List (Registration L)}
    (hc : ∀ r ∈ rs, ∀ s, call' r (f s) = (f (call r s).1, (call r s).2))
    (hn : ∀ id ended s, note' id ended (f s) = f (note id ended s)) (s : σ) :
    deliver call' note' rs (f s) = f (deliver call note rs s) := by
  induction rs generalizing s with
  | nil => rfl
  | cons r rs ih =>
    rw [deliver, deliver, hc r (List.mem_cons_self ..) s]
    show deliver call' note' rs (note' r.id _ (f _)) = _
    rw [hn]
    exact ih (fun r hr => hc r (List.mem_cons_of_mem _ hr)) _

/-- The observers of an engine hear an announcement by such a delivery, in which nobody changes the
lists. -/
theorem hear_eq_multicast {E V : Type} (now : Instant) (n : Announcement E V) (a : Audience E V)
    (kind : String) :
    a.hear now n = (a.listeners.multicast
      (fun r memory => .leave (Audience.attend now n r memory).2 (Audience.attend now n r memory).1)
      kind n.isError a).memory :=
  deliver_map Delivery.memory (fun _ _ _ => rfl) (fun _ _ _ => rfl) ⟨a.listeners, a, [], []⟩

namespace Rehearsal.MulticasterPlay

variable {E : Type}

/-- Does not send another event when that one is heard. -/
def Deed.IsQuiet (k : Kind E) (event : E) : Deed E → Prop
  | .send other => (k.name other == k.name event) = true
  | _ => True

/-- What an actor that does not send another event does. It remembers names and what was noted. -/
def Actor.respond (k : Kind E) (event : E) (r : Registration (Actor E))
    (memory : List (String × Nat) × List (Sight E)) :
    Reaction (List (String × Nat) × List (Sight E)) (Actor E) :=
  let actor := r.listener
  let isError := if actor.isPlain then none else some (k.isError event)
  let (names, sights) := memory
  let sights := .heard actor.name event isError :: sights
  match actor.deed with
  | .record | .send _ => .leave .done (names, sights)
  | .fail message => .leave (.failed message) (names, sights)
  | .breakOff => .leave .broke (names, sights)
  | .remove target =>
    match names.lookup target with
    | none => .leave .done (names, sights)
    | some id => .unregister .regular id fun here =>
      if here then .leave .done (names, .removed target true :: sights)
      else .unregister .errors id fun there => .leave .done (names, .removed target there :: sights)
  | .register target channel =>
    .register channel ⟨target, .record, true⟩ fun id => .leave .done ((target, id) :: names, sights)

/-- The scene between two calls of a delivery. -/
def Scene.amid (s : Scene E) (d : Delivery (List (String × Nat) × List (Sight E)) (Actor E)) : Scene E :=
  ⟨d.caster, d.memory.1, d.memory.2, d.lines.reverse ++ s.lines⟩

theorem call_amid (s : Scene E) (k : Kind E) (event : E) (again : E → Scene E → Scene E)
    {r : Registration (Actor E)} (hq : r.listener.deed.IsQuiet k event)
    (d : Delivery (List (String × Nat) × List (Sight E)) (Actor E)) :
    Scene.call k event again r (s.amid d) =
      (s.amid (d.call (Actor.respond k event) r).1, (d.call (Actor.respond k event) r).2) := by
  obtain ⟨_, name, deed, isPlain⟩ := r
  obtain ⟨caster, ⟨names, sights⟩, calls, lines⟩ := d
  cases deed with
  | record | fail | breakOff | register => rfl
  | send other =>
    have hk : (k.name other == k.name event) = true := hq
    simp only [Scene.call, if_pos hk]
    rfl
  | remove target =>
    simp only [Scene.call, Scene.removeAnywhere, Scene.amid, Delivery.call, Actor.respond]
    cases names.lookup target with
    | none => rfl
    | some id =>
      cases hr : caster.remove .regular id with
      | mk here rest => cases here <;> simp [Reaction.run, CallResult.after, hr]

theorem complain_amid (s : Scene E) (kind : String) (id : Nat) (ended : CallEnd)
    (d : Delivery (List (String × Nat) × List (Sight E)) (Actor E)) :
    Scene.complain kind id ended (s.amid d) = s.amid (d.note kind id ended) := by
  unfold Scene.complain Delivery.note
  cases h : Multicaster.complaint? kind id ended with
  | none => simp [Scene.amid]
  | some line => simp [Scene.amid]

/-- A rehearsal sends an event by such a delivery, if no listener it reaches sends another one. -/
theorem send_eq_multicast (k : Kind E) (depth : Nat) (event : E) (s : Scene E)
    (hq : ∀ r ∈ s.caster.targets (k.isError event), r.listener.deed.IsQuiet k event) :
    s.send k (depth + 1) event = s.amid (s.caster.multicast (Actor.respond k event) (k.name event)
      (k.isError event) (s.names, s.sights)) :=
  deliver_map s.amid (fun r hr d => call_amid s k event _ (hq r hr) d)
    (complain_amid s (k.name event)) ⟨s.caster, (s.names, s.sights), [], []⟩

end Rehearsal.MulticasterPlay

end LeaseKeeper
