import LeaseKeeper.Proofs.Session.Fates
import LeaseKeeper.Proofs.Session.Freshness
import LeaseKeeper.Proofs.Session.Hands

/-!
# The line of installed grants

The grants that a run installs have rising numbers (`lineage`), so none is installed twice, and a
grant that is installed no more never is again; what the renewal of such a grant brings is of no
effect (`current_of_late_renewal`). As each grant is installed, or on its way back, or told to be
gone, but never two of these (`Lined`), its end is told at most once. `Linear` puts this together,
and every run is linear (`linear_of_run`).

An observer that looks while an arrival is told finds the new grant, unless the lifetime of that
grant was over before it arrived (`aged_login_unseen`).
-/

namespace LeaseKeeper.Session

namespace World

variable {w u v w' : World} {m : Move} {op : Nat}

/-! ## Installed, on its way back, or gone -/

/-- Every grant is installed, or on its way back, or told to be gone, but never two of these; and
what is told of grants is true. -/
structure Lined (w : World) : Prop where
  distinct : w.Distinct
  once : ∀ n, w.stake n + (w.partings.map Grant.serial).count n ≤ 1
  unborn : ∀ n, w.nextGrant ≤ n → w.stake n + (w.partings.map Grant.serial).count n = 0
  arrived : ∀ e i g, (e, i) ∈ w.tidings → e.arrival? = some g → i = some g
  parted : ∀ e i g, (e, i) ∈ w.tidings → e.parting? = some g → ∀ h ∈ i, h.serial ≠ g.serial

theorem lined_initial (settings : Settings) (d : Discipline) (draws : Nat → Nat) :
    (World.initial settings d draws).Lined where
  distinct := by
    refine ⟨fun g hg => ?_, fun g h hg => ?_⟩ <;> rcases hg with hg | ⟨_, _, hg⟩ | ⟨_, hg, -⟩ <;>
      cases hg
  once _ := Nat.zero_le _
  unborn _ _ := rfl
  arrived _ _ _ h := by cases h
  parted _ _ _ h := by cases h

theorem partings_of_tidings {e : SessionEvent} {i : Option Grant}
    (h : w'.tidings = (e, i) :: w.tidings) : w'.partings = e.parting?.toList ++ w.partings := by
  rw [partings, h, List.filterMap_cons]
  cases e.parting? <;> rfl

theorem arrivals_of_tidings {e : SessionEvent} {i : Option Grant}
    (h : w'.tidings = (e, i) :: w.tidings) : w'.arrivals = e.arrival?.toList ++ w.arrivals := by
  rw [arrivals, h, List.filterMap_cons]
  cases e.arrival? <;> rfl

/-- In a step that grant comes to be installed, is told of, and nothing else is. -/
theorem Arrives.tidings {g : Grant} (h : w.Arrives m g w') :
    ∃ e, e.arrival? = some g ∧ e.parting? = none ∧ w'.tidings = (e, some g) :: w.tidings := by
  cases h with
  | created _ ht | renewed _ _ _ ht => exact ⟨_, rfl, rfl, ht⟩

/-- In no step does a grant come up twice that was not there, or once more that was. -/
theorem Fate.ledger (h : Fate w m w') (n : Nat) :
    w'.stake n + (w'.partings.map Grant.serial).count n ≤
      w.stake n + (w.partings.map Grant.serial).count n + w.fresh w' n := by
  cases h with
  | quiet _ ht hs =>
    have := hs n
    rw [partings, ht, ← partings]
    omega
  | @parts e g he _ ht hs =>
    have := hs n
    rw [partings_of_tidings ht, he, Option.toList, List.map_append, List.count_append]
    simp only [List.map_cons, List.map_nil]
    omega
  | @arrives c ha hc hlt ho =>
    obtain ⟨e, -, he, ht⟩ := ha.tidings
    have := ho n
    have hone : [w.nextGrant].count n ≤ w.fresh w' n := by
      unfold fresh
      by_cases hn : w.nextGrant = n
      · rw [if_pos ⟨hn.symm, hlt⟩, ← hn]
        simp
      · simp [hn]
    rw [partings_of_tidings ht, he, stake, hc]
    simp only [Option.toList, List.map_cons, List.map_nil, List.nil_append, stake]
    omega

/-- What a turn tells of is the grant that it installs, or one that is gone. -/
theorem Fate.tells (hf : Fate w m w') {e : SessionEvent} {i : Option Grant} (hm : (e, i) ∈ w'.tidings) :
    (e, i) ∈ w.tidings ∨
    (∃ g, e.arrival? = some g ∧ e.parting? = none ∧ i = some g) ∨
    ∃ g, e.parting? = some g ∧ e.arrival? = none ∧ i = w'.current ∧ w'.tidings = (e, i) :: w.tidings := by
  cases hf with
  | quiet _ ht _ => exact .inl (ht ▸ hm)
  | @parts _ g hp _ ht _ =>
    rcases List.mem_cons.mp (ht ▸ hm) with hnew | hold
    · cases hnew
      have hno : e.arrival? = none := by
        cases e <;> first | rfl | cases hp
      exact .inr (.inr ⟨g, hp, hno, rfl, ht⟩)
    · exact .inl hold
  | arrives ha _ _ _ =>
    obtain ⟨_, ha', hp, ht⟩ := ha.tidings
    rcases List.mem_cons.mp (ht ▸ hm) with hnew | hold
    · cases hnew
      exact .inr (.inl ⟨_, ha', hp, rfl⟩)
    · exact .inl hold

theorem Lined.once_turn (h : w.Lined) (hf : Fate w m w') (n : Nat) :
    w'.stake n + (w'.partings.map Grant.serial).count n ≤ 1 := by
  have hl := hf.ledger n
  have ho := h.once n
  by_cases hn : n = w.nextGrant ∧ w.nextGrant < w'.nextGrant
  · have := h.unborn n (Nat.le_of_eq hn.1.symm)
    rw [fresh, if_pos hn] at hl
    omega
  · rw [fresh, if_neg hn] at hl
    omega

theorem lined_turn (h : w.Lined) (ht : Turn w m w') : w'.Lined := by
  have hfate := Fate.of_turn h.distinct ht
  obtain ⟨c, hf⟩ := Follows.of_turn ht
  refine ⟨distinct_turn h.distinct ht, h.once_turn hfate, fun n hn => ?_, fun e i g hm he => ?_,
    fun e i g hm he => ?_⟩
  · have hl := hfate.ledger n
    have hu := h.unborn n (Nat.le_trans hf.next hn)
    rw [fresh, if_neg (by omega)] at hl
    omega
  · rcases hfate.tells hm with hold | ⟨g', ha, -, rfl⟩ | ⟨g', -, hno, -⟩
    · exact h.arrived e i g hold he
    · exact ha.symm.trans he
    · cases hno.symm.trans he
  · rcases hfate.tells hm with hold | ⟨g', -, hno, -⟩ | ⟨g', hp, -, rfl, ht⟩
    · exact h.parted e i g hold he
    · cases hno.symm.trans he
    · intro x hx heq
      -- The grant would be both installed and told to be gone.
      have ho := h.once_turn hfate g.serial
      rw [partings_of_tidings ht, he, stake, show w'.current = some x from hx] at ho
      simp [Option.toList, heq] at ho
      omega

/-! ## The line -/

/-- The grant that is installed in the step from `w` to `v`, if one is. -/
def successor (w v : World) : List Grant := if v.current = w.current then [] else v.current.toList

end World

open World

/-- The grants that a run installs, in order. -/
def lineage (w : World) : List Move → List Grant
  | [] => []
  | m :: ms =>
    match step w m with
    | none => []
    | some v => w.successor v ++ lineage v ms

namespace World

variable {w u v w' : World} {m : Move} {op : Nat} {ms : List Move}

theorem lineage_cons (hs : step w m = some v) (ms : List Move) :
    lineage w (m :: ms) = w.successor v ++ lineage v ms := by
  rw [lineage, hs]

theorem lineage_append {ns : List Move} (h : run? w ms = some v) :
    lineage w (ms ++ ns) = lineage w ms ++ lineage v ns := by
  induction ms generalizing w with
  | nil => cases h; rfl
  | cons m ms ih =>
    simp only [run?, Option.bind_eq_some_iff] at h
    obtain ⟨u, hs, h⟩ := h
    rw [List.cons_append, lineage_cons hs, lineage_cons hs, ih h, List.append_assoc]

/-- What a step installs is new, and told in it. -/
theorem successor_of_turn (h : w.Distinct) (ht : Turn w m w') :
    (w.successor w' = [] ∧ w'.arrivals = w.arrivals) ∨
      ∃ c, w.successor w' = [⟨w.nextGrant, c⟩] ∧ w.nextGrant < w'.nextGrant ∧
        w.Arrives m ⟨w.nextGrant, c⟩ w' ∧ w'.arrivals = ⟨w.nextGrant, c⟩ :: w.arrivals := by
  have hnil : (w'.current = w.current ∨ w'.current = none) → w.successor w' = [] := fun hc => by
    rcases hc with hc | hc
    · exact if_pos hc
    · rw [successor, hc]
      exact ite_self _
  cases Fate.of_turn h ht with
  | quiet hc ht _ => exact .inl ⟨hnil hc, by rw [arrivals, ht, arrivals]⟩
  | @parts e g he hc ht _ =>
    refine .inl ⟨hnil hc, ?_⟩
    rw [arrivals_of_tidings ht]
    cases e <;> cases he <;> rfl
  | @arrives c ha hc hlt _ =>
    refine .inr ⟨c, ?_, hlt, ha, ?_⟩
    · rw [successor, hc, if_neg fun he => ?_]
      · rfl
      · exact absurd (h.lt _ (.inl he.symm)) (Nat.lt_irrefl _)
    · obtain ⟨e, he, -, ht⟩ := ha.tidings
      rw [arrivals_of_tidings ht, he]
      rfl

theorem arrivals_of_run (h : w.Lined) (hr : run? w ms = some v) :
    v.arrivals = (lineage w ms).reverse ++ w.arrivals := by
  induction ms generalizing w with
  | nil => cases hr; rfl
  | cons m ms ih =>
    simp only [run?, Option.bind_eq_some_iff] at hr
    obtain ⟨u, hs, hr⟩ := hr
    have ht := turn_of_step hs
    rw [lineage_cons hs, ih (lined_turn h ht) hr, List.reverse_append, List.append_assoc]
    congr 1
    rcases successor_of_turn h.distinct ht with ⟨he, ha⟩ | ⟨c, he, -, -, ha⟩ <;> rw [he, ha] <;> rfl

theorem lineage_rising (h : w.Lined) (ms : List Move) :
    (∀ g ∈ lineage w ms, w.nextGrant ≤ g.serial) ∧
      (lineage w ms).Pairwise fun g i => g.serial < i.serial := by
  induction ms generalizing w with
  | nil => exact ⟨fun _ hg => (by cases hg), .nil⟩
  | cons m ms ih =>
    cases hs : step w m with
    | none =>
      rw [lineage, hs]
      exact ⟨fun _ hg => (by cases hg), .nil⟩
    | some v =>
      have ht := turn_of_step hs
      obtain ⟨c, hf⟩ := Follows.of_turn ht
      obtain ⟨hle, hrise⟩ := ih (lined_turn h ht)
      rw [lineage_cons hs]
      rcases successor_of_turn h.distinct ht with ⟨he, -⟩ | ⟨c, he, hlt, -⟩ <;> rw [he]
      · exact ⟨fun g hg => Nat.le_trans hf.next (hle g hg), hrise⟩
      · refine ⟨fun g hg => ?_, .cons (fun g hg => Nat.lt_of_lt_of_le hlt (hle g hg)) hrise⟩
        rcases List.mem_cons.mp hg with rfl | hg
        · exact Nat.le_refl _
        · exact Nat.le_trans hf.next (hle g hg)

/-- What is installed after a run was installed before, or is in the line. -/
theorem mem_lineage_of_current {g : Grant} (hr : run? w ms = some v) (hg : v.current = some g) :
    w.current = some g ∨ g ∈ lineage w ms := by
  induction ms generalizing w with
  | nil => cases hr; exact .inl hg
  | cons m ms ih =>
    simp only [run?, Option.bind_eq_some_iff] at hr
    obtain ⟨u, hs, hr⟩ := hr
    rw [lineage_cons hs, List.mem_append]
    rcases ih hr with hu | hu
    · by_cases he : u.current = w.current
      · exact .inl (he ▸ hu)
      · refine .inr (.inl ?_)
        rw [successor, if_neg he, hu]
        exact List.mem_singleton_self g
    · exact .inr (.inr hu)

/-- What the renewal of a grant brings that is installed no more is of no effect. -/
theorem current_of_late_renewal {g : Grant} {since : Instant} {r : Except Fault Credential}
    (hp : w.point? op = some (.renewing g since)) (hc : w.isCurrent g = false)
    (ht : Turn w (.answer op (.renewal r)) w') : w'.current = w.current := by
  have hlose : ∀ {u : World}, u.current = w.current → Loses u op g w' → w'.current = w.current :=
    fun {u} hu hl => by
      have hcu : u.isCurrent g = false := by rwa [isCurrent, hu]
      cases hl with
      | superseded _ => rw [current_finish, hu]
      | again h _ _ | ended h _ => cases h.symm.trans hcu
  cases ht with
  | orphan hf _ | stale hf _ _ | renew hf _ _ _ _ | expire hf _ _ _ _ => cases hf
  | renewed hp' hr =>
    cases hp.symm.trans hp'
    cases hr with
    | discarded | superseded => exact current_finish ..
    | brief _ h _ | renewed _ h _ => cases h.symm.trans hc
    | retried _ _ _ => rw [current_finish, current_retries]
    | tooLate _ _ _ hl =>
      obtain ⟨t, n, he⟩ := (w.told g _).snd_renewalDelay g.credential
      rw [he] at hl
      exact hlose (u := { w.told g _ with trigger := t, drawn := n }) rfl hl
    | failed _ _ hl => exact hlose (u := w.told g _) rfl hl

theorem surrenders_isLogin {g : Grant} (h : g ∈ w.surrenders m) : g.credential.isLogin = true := by
  have howed : g ∈ w.owed → g.credential.isLogin = true := fun h => (List.mem_filter.mp h).2
  have hreturns : ∀ c, g ∈ w.returns c → g.credential.isLogin = true := fun c hg => by
    unfold returns at hg
    split at hg
    · rw [List.mem_singleton] at hg
      subst hg
      rename_i hd
      exact (Bool.and_eq_true_iff.mp hd).2
    · cases hg
  unfold surrenders at h
  split at h
  · exact howed h
  · split at h
    · cases h
    · exact howed h
  · obtain ⟨c, -, hc⟩ := List.mem_flatMap.mp h
    exact hreturns c hc

theorem surrendered_isLogin {settings : Settings} {d : Discipline} {draws : Nat → Nat}
    (h : run? (World.initial settings d draws) ms = some w) :
    ∀ g ∈ w.surrendered, g.credential.isLogin = true := by
  refine (run?_keeps (P := fun w => w.IsOrderly ∧ ∀ g ∈ w.surrendered, g.credential.isLogin = true)
    (fun hw ht => ⟨orderly_turn hw.1 ht, fun g hg => ?_⟩)
    ⟨orderly_initial settings d draws, fun _ hg => by cases hg⟩ h).2
  rw [surrendered_of_turn hw.1 ht, List.mem_append] at hg
  exact hg.elim surrenders_isLogin (hw.2 g)

end World

/-! ## Whole runs -/

/-- The grants that a run from `start` to `w` installs form a line. -/
structure Linear (start : World) (ms : List Move) (w : World) : Prop where
  /-- Each has a higher number than those before, so none is installed twice. -/
  rising : (lineage start ms).Pairwise fun g h => g.serial < h.serial
  /-- Each is told of once, in the order of the line. -/
  announced : w.arrivals = (lineage start ms).reverse
  /-- It comes from a login or from the renewal of the one that it replaces, and is told of in the
  same step. -/
  origin : ∀ u m v g, Passes start ms u m v → v.current = some g → u.current ≠ some g →
    u.Arrives m g v
  /-- Once it is installed no more, it never is again. -/
  gone : ∀ ns os u v g, ns ++ os <+: ms → run? start ns = some u → run? u os = some v →
    g ∈ lineage start ns → u.current ≠ some g → v.current ≠ some g
  /-- Nor is what a renewal of it brings. -/
  late : ∀ u op r v g since, Passes start ms u (.answer op (.renewal r)) v →
    u.point? op = some (.renewing g since) → u.current ≠ some g → v.current = u.current
  /-- Its end is told at most once. -/
  parted : (w.partings.map Grant.serial).Nodup
  /-- It is given back at most once, and only if it comes from a login. -/
  surrendered : (w.surrendered.map Grant.serial).Nodup ∧
    ∀ g ∈ w.surrendered, g.credential.isLogin = true
  /-- Whoever looks when it is told of finds it installed when it arrives, unless its lifetime is
  over, and does not when it parts. -/
  heard : ∀ n ∈ w.audience.notes, ∃ i, .published n.event i ∈ w.history ∧
    (∀ s, n.sees = some (some s) → s.credential = shown i n.time) ∧
    (∀ g, n.event.arrival? = some g → i = some g) ∧
    ∀ g, n.event.parting? = some g → ∀ h ∈ i, h.serial ≠ g.serial

section run

variable {settings : Settings} {d : Discipline} {draws : Nat → Nat} {ms : List Move} {w : World}

theorem lined_of_run (h : run? (World.initial settings d draws) ms = some w) : w.Lined :=
  run?_keeps lined_turn (lined_initial settings d draws) h

theorem witnessed_of_run (h : run? (World.initial settings d draws) ms = some w) : w.Witnessed :=
  run?_keeps (P := Witnessed) (fun hw ht => (Follows.of_turn ht).choose_spec.witnessed hw)
    (fun _ hn => by cases hn) h

theorem mem_tidings {e : SessionEvent} {i : Option Grant} (he : ∀ f g, e ≠ .failed f g)
    (h : .published e i ∈ w.history) : (e, i) ∈ w.tidings := by
  refine List.mem_filterMap.mpr ⟨_, h, ?_⟩
  cases e with
  | failed f g => exact absurd rfl (he f g)
  | _ => rfl

/-- Every run is linear. -/
theorem linear_of_run (h : run? (World.initial settings d draws) ms = some w) :
    Linear (World.initial settings d draws) ms w := by
  have hstart := lined_initial settings d draws
  have hlined : ∀ {ns u}, run? (World.initial settings d draws) ns = some u → u.Lined := lined_of_run
  refine ⟨(lineage_rising hstart ms).2, ?_, ?_, ?_, ?_, ?_, ?_, ?_⟩
  · rw [arrivals_of_run hstart h]
    exact List.append_nil _
  · rintro u m v g ⟨ns, -, hu, hs⟩ hv hne
    have hsucc : u.successor v = [g] := by
      rw [successor, if_neg fun he => hne (he.symm.trans hv), hv]
      rfl
    rcases successor_of_turn (hlined hu).distinct (turn_of_step hs) with ⟨he, -⟩ | ⟨c, he, -, ha, -⟩
    · cases he.symm.trans hsucc
    · cases he.symm.trans hsucc
      exact ha
  · rintro ns os u v g - hu hv hg hne hcur
    -- Installed again, the grant would be in the line twice.
    rcases mem_lineage_of_current hv hcur with hc | hm
    · exact hne hc
    · have hrise := (lineage_rising hstart (ns ++ os)).2
      rw [lineage_append hu, List.pairwise_append] at hrise
      exact absurd (hrise.2.2 g hg g hm) (Nat.lt_irrefl _)
  · rintro u op r v g since ⟨ns, -, hu, hs⟩ hp hne
    have hc : u.isCurrent g = false := by
      by_contra hc
      exact hne ((hlined hu).distinct.installed (.inr (.inl ⟨op, since, hp⟩)) (by simpa using hc))
    exact current_of_late_renewal hp hc (turn_of_step hs)
  · refine List.nodup_iff_count_le_one.mpr fun n => ?_
    have := (lined_of_run h).once n
    omega
  · have hc := counted_of_run h
    refine ⟨?_, surrendered_isLogin h⟩
    have hn := hc.nodup
    rw [List.map_append] at hn
    exact hn.of_append_right
  · intro n hn
    obtain ⟨i, hi, hs⟩ := witnessed_of_run h n hn
    refine ⟨i, hi, hs, fun g hg => ?_, fun g hg => ?_⟩
    · exact (lined_of_run h).arrived _ _ g (mem_tidings (by rintro f x he; rw [he] at hg; cases hg) hi) hg
    · exact (lined_of_run h).parted _ _ g (mem_tidings (by rintro f x he; rw [he] at hg; cases hg) hi) hg

end run

/-- An observer that looks at what it hears of. -/
def watcher : Observer := ⟨"watcher", .read⟩

/-- A login and a renewal, which is given back. -/
def renewedOnce : List Move :=
  [.listen .regular watcher, .begin .token, .answer 0 (.login (.ok minuteLogin)), .fireNext,
    .answer 1 (.renewal (.ok minuteLogin)), .begin .revoke, .answer 2 (.revocation (.ok ()))]

/-- Two grants are installed one after the other, and the observer has heard of both. -/
theorem linear_of_renewal :
    ∃ w, run? early renewedOnce = some w ∧ Linear early renewedOnce w ∧
      lineage early renewedOnce = [⟨0, minuteLogin⟩, ⟨1, minuteLogin⟩] ∧
      w.audience.notes.map (fun n => n.sees.map fun v => v.map View.credential) =
        [some (some none), some (some (some minuteLogin)), some (some (some minuteLogin))] :=
  ⟨_, rfl, linear_of_run rfl, rfl, rfl⟩

/-- The observer hears of the grant that an old login brings, and does not find it installed. -/
theorem aged_login_unseen :
    ∃ w n g v, run? (World.initial default .manual fun _ => 0)
        (.listen .regular watcher :: agedLogin) = some w ∧ n ∈ w.audience.notes ∧
      n.event = .created g ∧ n.sees = some (some v) ∧ v.credential ≠ some g.credential := by
  refine ⟨_, _, ⟨0, secondLogin⟩, ⟨.unauthenticated, none⟩, rfl, List.mem_singleton_self _, rfl, rfl, ?_⟩
  simp

end LeaseKeeper.Session
