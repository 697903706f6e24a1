import LeaseKeeper.Proofs.Leases.Frames

/-!
# What happens on the way of a step

`Scene` is a `Frame` in any engine, shut down or not, with the part of the history that is new.
What becomes of tasks when an engine is let go is left open in it. The parts that end a removal
or a registration are followed from here, since only an engine that is shut down goes through
all of them.
-/

namespace LeaseKeeper.Leases

open World

/-- On the way from `w`, the entry of `h` and the operation `op` have become what is given here,
all the rest is as it was, and the history has grown by `hs`. -/
structure Scene (w u : World) (op : Nat) (h : Handle) (face : Option Entry) (point : Option Point)
    (hs : List Happening) (care : Care) : Prop where
  frame : ∃ added n, Frame False w u op h face point added care n
  history : u.history = hs ++ w.history

namespace World

@[simp] theorem history_cancelTask (w : World) (h : Handle) :
    (w.cancelTask h).history = w.history := by
  obtain ⟨_, _, he, -⟩ := w.cancelTask_eq h
  rw [he]

@[simp] theorem history_replaceTask (w : World) (h : Handle) (delay : Span) (s : Snapshot)
    (a : Action) : (w.replaceTask h delay s a).history = w.history := by
  unfold replaceTask
  split <;> rfl

@[simp] theorem history_reap (w : World) : w.reap.history = w.history := by
  obtain ⟨_, _, he, -⟩ := w.reap_eq
  rw [he]

@[simp] theorem history_finish (w : World) (op : Nat) (o : Outcome) :
    (w.finish op o).history = .ended op o :: w.history :=
  history_reap _

end World

namespace Scene

variable {w u v : World} {op : Nat} {h : Handle} {e f : Entry} {face : Option Entry}
  {p : Option Point} {hs : List Happening} {care : Care}

theorem refl (hb : w.Booked) (hop : op < w.nextOperation) (h : Handle) :
    Scene w w op h (w.face? h) (w.point? op) [] .kept :=
  ⟨⟨_, _, .refl hb hop h⟩, rfl⟩

/-- A new operation begins. -/
theorem enroll (hb : w.Booked) (h : Handle) :
    Scene w w.enroll.2 w.nextOperation h (w.face? h) (w.point? w.nextOperation) [] .kept :=
  ⟨⟨_, _, .enroll hb h⟩, rfl⟩

/-- A task of the entry is started, and its operation begins. -/
theorem starts (hb : w.Booked) {t : Task Job} {s : Schedule Job} (hs : w.schedule.Starts t s)
    (ht : t.job.handle = h) :
    Scene w ({ w with schedule := s } : World).enroll.2 w.nextOperation h (w.face? h)
      (w.point? w.nextOperation) [] (.started t) :=
  ⟨⟨_, _, .starts hb hs ht⟩, rfl⟩

section changes

variable (hx : Scene w u op h face p hs care)

include hx

theorem mint (l : Lease) (d : SecretData) : Scene w (u.mint l d).2 op h face p hs care :=
  have ⟨_, _, hf⟩ := hx.frame
  ⟨⟨_, _, hf.mint l d⟩, hx.history⟩

theorem tally (k : Mark) : Scene w (u.tally k) op h face p hs care :=
  have ⟨_, _, hf⟩ := hx.frame
  ⟨⟨_, _, hf.tally k⟩, hx.history⟩

theorem updateGauge : Scene w u.updateGauge op h face p hs care :=
  have ⟨_, _, hf⟩ := hx.frame
  ⟨⟨_, _, hf.updateGauge⟩, hx.history⟩

theorem askTrigger (left : Span) : Scene w (u.askTrigger left).2 op h face p hs care :=
  have ⟨_, _, hf⟩ := hx.frame
  ⟨⟨_, _, hf.askTrigger left⟩, hx.history⟩

theorem publish (he : e.handle = h) (k : LeaseChange) :
    Scene w (u.publish e k) op h face p (.published ⟨e.handle, e.request.path, k⟩ :: hs) care :=
  have ⟨_, _, hf⟩ := hx.frame
  ⟨⟨_, _, hf.publish he k⟩, congrArg _ hx.history⟩

theorem modify {g : Entry → Entry} (hh : ∀ e, (g e).handle = e.handle)
    (hsl : ∀ e, (g e).slot = e.slot) (hb : ∀ e, (g e).bare = g e.bare) :
    Scene w (u.modify h g) op h (face.map g) p hs care :=
  have ⟨_, _, hf⟩ := hx.frame
  ⟨⟨_, _, hf.modify hh hsl hb⟩, hx.history⟩

theorem install (s : Option Snapshot) :
    Scene w (u.install h s) op h (face.map fun e => { e with snapshot := s }) p hs care :=
  hx.modify (fun _ => rfl) (fun _ => rfl) fun _ => rfl

theorem unlock (a : Nat) :
    Scene w (u.unlock a h) op h (face.map fun e => { e with lock := e.lock.filter (· != a) }) p hs
      care :=
  hx.modify (fun _ => rfl) (fun _ => rfl) fun _ => rfl

theorem forget (hn : ∀ t ∈ u.schedule.live, t.job.handle ≠ h) :
    Scene w (u.forget h) op h none p hs care :=
  have ⟨_, _, hf⟩ := hx.frame
  ⟨⟨_, _, hf.forget hn⟩, hx.history⟩

theorem setPoint (q : Point) : Scene w (u.setPoint op q) op h face (some q) hs care :=
  have ⟨_, _, hf⟩ := hx.frame
  ⟨⟨_, _, hf.setPoint q⟩, hx.history⟩

theorem call (k : Handle) (a : Call) (q : Point) :
    Scene w (u.call op k a q) op h face (some q) (.called op k a :: hs) care :=
  have ⟨_, _, hf⟩ := hx.frame
  ⟨⟨_, _, hf.call k a q⟩, congrArg _ hx.history⟩

theorem cancelTask : Scene w (u.cancelTask h) op h face p hs .cancelled :=
  have ⟨_, _, hf⟩ := hx.frame
  ⟨⟨_, _, hf.cancelTask⟩, (history_cancelTask u h).trans hx.history⟩

theorem finish (o : Outcome) :
    Scene w (u.finish op o) op h face none (.ended op o :: hs) care :=
  have ⟨_, _, hf⟩ := hx.frame
  ⟨⟨_, _, hf.finish o False.elim⟩, (history_finish u op o).trans (congrArg _ hx.history)⟩

theorem leave (o : Outcome) :
    Scene w (u.leave op h o) op h (face.map fun e => { e with lock := e.lock.filter (· != op) }) none
      (.ended op o :: hs) care :=
  (hx.unlock op).finish o

end changes

theorem enlist (hx : Scene w u op h none p hs care) (he : e.handle = h) (hsl : e.slot = none) :
    Scene w (u.enlist e) op h (some e.bare) p hs care :=
  have ⟨_, _, hf⟩ := hx.frame
  ⟨⟨_, _, hf.enlist he hsl⟩, hx.history⟩

theorem replaceTask (hx : Scene w u op h (some f) p hs care) (delay : Span) (s : Snapshot)
    (a : Action) :
    Scene w (u.replaceTask h delay s a) op h (some f) p hs (.replaced s a) :=
  have ⟨_, _, hf⟩ := hx.frame
  ⟨⟨_, _, hf.replaceTask delay s a⟩, (history_replaceTask ..).trans hx.history⟩

end Scene

end LeaseKeeper.Leases
