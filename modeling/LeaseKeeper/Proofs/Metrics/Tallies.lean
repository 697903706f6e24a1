import LeaseKeeper.Audience
import LeaseKeeper.Proofs.Multicaster

/-!
# What is counted between two moments

An audience with one measuring observer on each channel (`Audience.Metered`) counts every event that it
hears once, whoever else hears it and however they end (`Metered.metrics_hear`). What becomes of
metrics while events are published and other things are counted is a `Tally`: the events that were
counted are those that were published, and the other marks are told one by one.
-/

namespace LeaseKeeper

namespace Mark

/-- Whether it counts an event. -/
def isEvent : Mark → Bool
  | .sessionEvent _ => true
  | .leaseEvent _ => true
  | _ => false

/-- Whether it is told one by one: it counts no event, or one about a lease that was renewed or a
secret that was fetched again. -/
def isTold : Mark → Bool
  | .sessionEvent _ => false
  | .leaseEvent kind => kind == "renewed" || kind == "rotated"
  | _ => true

/-- Whether a session makes it, else a lease engine does. -/
def isSession : Mark → Bool
  | .login _ => true
  | .renewal target _ => target == .session
  | .rotation _ _ => false
  | .sessionEvent _ => true
  | .leaseEvent _ => false

/-- Whether it counts a login. -/
def isLogin : Mark → Bool
  | .login _ => true
  | _ => false

end Mark

/-! ## One measuring observer on each channel -/

/-- Whether the observer counts what it hears. -/
def Registration.isMeter (r : Registration Observer) : Bool := r.listener.behaviour == .measure

namespace Audience

variable {E V : Type} {a : Audience E V} {ids : Channel → Nat}

/-- On each channel one observer counts, under that number. -/
structure Metered (ids : Channel → Nat) (a : Audience E V) : Prop where
  meters : ∀ c, ((a.listeners.listeners c).filter Registration.isMeter).map Registration.id = [ids c]

theorem listeners_deliver (now : Instant) (n : Announcement E V) (rs : List (Registration Observer))
    (a : Audience E V) :
    (deliver (attend now n) (fun _ _ a => a) rs a).listeners = a.listeners := by
  induction rs generalizing a with
  | nil => rfl
  | cons r rs ih => exact (ih _).trans (listeners_attend ..)

theorem listeners_hear (now : Instant) (n : Announcement E V) (a : Audience E V) :
    (a.hear now n).listeners = a.listeners := listeners_deliver ..

/-- Every observer that counts makes one mark. -/
theorem metrics_deliver (now : Instant) (n : Announcement E V) (rs : List (Registration Observer))
    (a : Audience E V) : (deliver (attend now n) (fun _ _ a => a) rs a).metrics =
      { a.metrics with
        marks := List.replicate (rs.countP Registration.isMeter) n.mark ++ a.metrics.marks } := by
  induction rs generalizing a with
  | nil => rfl
  | cons r rs ih =>
    refine (ih _).trans ?_
    rw [List.countP_cons]
    cases hb : r.listener.behaviour <;>
      simp [hb, Registration.isMeter, Audience.note, Metrics.mark, List.replicate_succ']

/-- An event is counted once. -/
theorem Metered.metrics_hear (h : a.Metered ids) (now : Instant) (n : Announcement E V) :
    (a.hear now n).metrics = a.metrics.mark n.mark := by
  have hone : (a.listeners.targets n.isError).countP Registration.isMeter = 1 := by
    rw [List.countP_eq_length_filter, ← List.length_map Registration.id, Multicaster.targets, h.meters]
    rfl
  exact (metrics_deliver now n _ a).trans (by rw [hone]; rfl)

theorem Metered.hear (h : a.Metered ids) (now : Instant) (n : Announcement E V) :
    (a.hear now n).Metered ids := ⟨by rw [listeners_hear]; exact h.meters⟩

/-- Somebody registers who does not count. -/
theorem Metered.add (h : a.Metered ids) (channel : Channel) {o : Observer}
    (ho : o.behaviour ≠ .measure) :
    Metered ids { a with listeners := (a.listeners.add channel o).2 } := by
  refine ⟨fun c => ?_⟩
  rw [Multicaster.listeners_add]
  split
  · rename_i hc
    rw [List.filter_append, List.filter_cons_of_neg (by simpa [Registration.isMeter] using ho), hc]
    simpa using h.meters c
  · exact h.meters c

/-- Somebody is taken off who does not count. -/
theorem Metered.remove (h : a.Metered ids) {channel : Channel} {id : Nat} (hid : id ≠ ids channel) :
    Metered ids { a with listeners := (a.listeners.remove channel id).2 } := by
  unfold Multicaster.remove
  split
  · refine ⟨fun c => ?_⟩
    rw [Multicaster.listeners_setListeners]
    split
    · rename_i hc
      subst hc
      rw [List.filter_filter, ← h.meters channel]
      refine congrArg _ (List.filter_congr fun r hr => ?_)
      cases hm : r.isMeter with
      | false => rfl
      | true =>
        have hmem : r.id ∈ [ids channel] :=
          h.meters channel ▸ List.mem_map_of_mem (List.mem_filter.mpr ⟨hr, hm⟩)
        simpa [List.mem_singleton.mp hmem] using hid.symm
    · exact h.meters c
  · exact h

end Audience

/-! ## Tallies -/

/-- From `m` to `m'`, while the events published grew from `es` to `es'`, these were counted of the
marks that are told one by one, the latest first. Every login comes with its time. -/
structure Tally (m m' : Metrics) (es es' js : List Mark) : Prop where
  marks : ∃ ks, m'.marks = ks ++ m.marks ∧ es' = ks.filter Mark.isEvent ++ es ∧
    ks.filter Mark.isTold = js
  spans : m'.loginSpans.length = js.countP Mark.isLogin + m.loginSpans.length

namespace Tally

variable {m m' m'' : Metrics} {es es' es'' js js' : List Mark}

theorem refl (m : Metrics) (es : List Mark) : Tally m m es es [] :=
  ⟨⟨[], rfl, rfl, rfl⟩, (Nat.zero_add _).symm⟩

theorem trans (h : Tally m m' es es' js) (k : Tally m' m'' es' es'' js') :
    Tally m m'' es es'' (js' ++ js) := by
  obtain ⟨⟨ks, hm, rfl, rfl⟩, hs⟩ := h
  obtain ⟨⟨ks', hm', rfl, rfl⟩, hs'⟩ := k
  refine ⟨⟨ks' ++ ks, ?_, ?_, List.filter_append ..⟩, ?_⟩
  · rw [hm', hm, List.append_assoc]
  · rw [List.filter_append, List.append_assoc]
  · rw [hs', hs, List.countP_append, Nat.add_assoc]

/-- Somebody counts something that is no login. -/
theorem mark (h : Tally m m' es es' js) {k : Mark} (hk : k.isLogin = false) :
    Tally m (m'.mark k) es (if k.isEvent then k :: es' else es')
      (if k.isTold then k :: js else js) := by
  obtain ⟨⟨ks, hm, rfl, rfl⟩, hs⟩ := h
  refine ⟨⟨k :: ks, congrArg (k :: ·) hm, ?_, ?_⟩, ?_⟩
  · cases he : k.isEvent <;> simp [he]
  · cases ht : k.isTold <;> simp [ht]
  · refine hs.trans ?_
    cases ht : k.isTold <;> simp [hk]

/-- A login is counted and its time kept. -/
theorem login (h : Tally m m' es es' js) (succeeded : Bool) (took : Span) :
    Tally m (m'.login succeeded took) es es' (.login succeeded :: js) := by
  obtain ⟨⟨ks, hm, rfl, rfl⟩, hs⟩ := h
  refine ⟨⟨.login succeeded :: ks, congrArg (_ :: ·) hm, rfl, rfl⟩, ?_⟩
  rw [List.countP_cons_of_pos rfl]
  exact (congrArg (· + 1) hs).trans (by omega)

theorem setManaged (h : Tally m m' es es' js) (n : Nat) : Tally m (m'.setManaged n) es es' js :=
  ⟨h.marks, h.spans⟩

/-- Every mark counts an event or is told. -/
theorem count_eq (h : Tally .empty m' [] es' js) (k : Mark) :
    (k.isEvent = true → m'.count k = es'.count k) ∧ (k.isTold = true → m'.count k = js.count k) := by
  obtain ⟨⟨ks, hm, rfl, rfl⟩, -⟩ := h
  have hks : m'.marks = ks := hm.trans (List.append_nil ks)
  rw [Metrics.count, hks]
  exact ⟨fun he => by rw [List.append_nil, List.count_filter he],
    fun ht => by rw [List.count_filter ht]⟩

theorem count_eq_zero (h : Tally .empty m' [] es' js) {k : Mark} (he : k ∉ es') (hj : k ∉ js) :
    m'.count k = 0 := by
  cases hk : k.isEvent with
  | true => rw [(h.count_eq k).1 hk, List.count_eq_zero_of_not_mem he]
  | false =>
    have ht : k.isTold = true := by cases k <;> first | rfl | cases hk
    rw [(h.count_eq k).2 ht, List.count_eq_zero_of_not_mem hj]

/-- There is a time for every login that was counted. -/
theorem spans_eq (h : Tally .empty m' [] es' js) :
    m'.loginSpans.length = m'.count (.login true) + m'.count (.login false) := by
  rw [(h.count_eq (.login true)).2 rfl, (h.count_eq (.login false)).2 rfl, h.spans]
  simp only [Metrics.empty, List.length_nil, Nat.add_zero]
  clear h
  induction js with
  | nil => rfl
  | cons k js ih =>
    rw [List.countP_cons, List.count_cons, List.count_cons, ih]
    cases k with
    | login ok => cases ok <;> simp [Mark.isLogin] <;> omega
    | _ => rfl

end Tally

/-! ## Along a run -/

section along

variable {W M : Type} (step : W → M → Option W)

/-- What is counted of the moves of a run, the latest first. -/
def countsAlong (f : W → M → List Mark) (w : W) : List M → List Mark
  | [] => []
  | m :: ms => ((step w m).elim [] fun u => countsAlong f u ms) ++ f w m

/-- What the moves of a run add up to, each in the state that it meets. -/
def sumAlong (g : W → M → Nat) (w : W) : List M → Nat
  | [] => 0
  | m :: ms => ((step w m).elim 0 fun u => sumAlong g u ms) + g w m

/-- How many moves of a run are such, each in the state that it meets. -/
def timesAlong (P : W → M → Bool) (w : W) (ms : List M) : Nat :=
  sumAlong step (fun w m => (P w m).toNat) w ms

variable {f : W → M → List Mark} {P : W → M → Bool}

theorem count_countsAlong {k : Mark} (h : ∀ w m, (f w m).count k = (P w m).toNat) (w : W)
    (ms : List M) : (countsAlong step f w ms).count k = timesAlong step P w ms := by
  unfold timesAlong
  induction ms generalizing w with
  | nil => rfl
  | cons m ms ih =>
    rw [countsAlong, sumAlong, List.count_append, h]
    cases step w m with
    | none => rfl
    | some u => exact congrArg (· + _) (ih u)

/-- Every mark that is made is of that sort. -/
theorem of_mem_countsAlong {p : Mark → Prop} (h : ∀ w m, ∀ k ∈ f w m, p k) (w : W) (ms : List M) :
    ∀ k ∈ countsAlong step f w ms, p k := by
  induction ms generalizing w with
  | nil => exact fun k hk => by cases hk
  | cons m ms ih =>
    intro k hk
    rcases List.mem_append.mp hk with hk | hk
    · cases hs : step w m with
      | none =>
        rw [hs] at hk
        cases hk
      | some u =>
        rw [hs] at hk
        exact ih u k hk
    · exact h w m k hk

theorem sumAlong_add (g h : W → M → Nat) (w : W) (ms : List M) :
    sumAlong step (fun w m => g w m + h w m) w ms = sumAlong step g w ms + sumAlong step h w ms := by
  induction ms generalizing w with
  | nil => rfl
  | cons m ms ih =>
    simp only [sumAlong]
    cases step w m with
    | none => simp
    | some u =>
      simp only [Option.elim_some, ih u]
      omega

end along

end LeaseKeeper
