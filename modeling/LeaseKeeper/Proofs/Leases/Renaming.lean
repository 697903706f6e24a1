import LeaseKeeper.Proofs.Leases.Confinement

/-!
# Other numbers

The numbers of operations and of snapshots are there to tell them apart, and no more. A `Renaming`
gives each of them another number, no two the same one; entries, tasks and the points at which
operations stand are renamed part by part. While nothing uses a number that is still to be given out,
a renaming can be changed from there on (`Renaming.exists_resumed`).
-/

namespace LeaseKeeper.Leases

/-- Other numbers for operations and for snapshots. -/
structure Renaming where
  op : Nat → Nat
  serial : Nat → Nat
  op_injective : Function.Injective op
  serial_injective : Function.Injective serial

def Snapshot.rename (r : Renaming) (s : Snapshot) : Snapshot := { s with serial := r.serial s.serial }

def Errand.rename (r : Renaming) : Errand → Errand
  | act s a => act (s.rename r) a
  | rotate => rotate
  | remove m => remove m

def Entry.rename (r : Renaming) (e : Entry) : Entry :=
  { e with snapshot := e.snapshot.map (·.rename r), lock := e.lock.map r.op }

def Job.rename (r : Renaming) (j : Job) : Job := { j with snapshot := j.snapshot.rename r }

namespace Point

/-- The point with other numbers for snapshots. Whoever shuts the engine down keeps its own. -/
def rename (r : Renaming) : Point → Point
  | registering h => registering h
  | queued h errand => queued h (errand.rename r)
  | renewing h s since => renewing h (s.rename r) since
  | rotating h l cause => rotating h l cause
  | revoking h s m => revoking h (s.rename r) m
  | opening h n => opening h n
  | joining n => joining n

/-- The snapshot that an operation deals with at a point. -/
def snapshot? : Point → Option Snapshot
  | queued _ (.act s _) => some s
  | renewing _ s _ => some s
  | revoking _ s _ => some s
  | _ => none

@[simp] theorem wants?_rename (r : Renaming) (p : Point) : (p.rename r).wants? = p.wants? := by
  cases p <;> rfl

end Point

def Happening.rename (σ : Nat → Nat) : Happening → Happening
  | published event => published event
  | called op h c => called (σ op) h c
  | ended op o => ended (σ op) o

namespace Renaming

/-- As `f` up to `n`, and from there on counting from `m`. -/
def resume (f : Nat → Nat) (n m a : Nat) : Nat := if a < n then f a else m + (a - n)

theorem resume_add (f : Nat → Nat) (n m k : Nat) : resume f n m (n + k) = m + k := by
  rw [resume, if_neg (Nat.not_lt.mpr (Nat.le_add_right n k)), Nat.add_sub_cancel_left]

theorem resume_injective {f : Nat → Nat} {n l m : Nat} (hf : Function.Injective f)
    (hl : ∀ k, f (n + k) = l + k) (hm : l ≤ m) : Function.Injective (resume f n m) := by
  have hlt : ∀ a, a < n → f a < l := fun a ha => by
    by_contra hge
    have hk := hl (f a - l)
    have := hf (hk.trans (Nat.add_sub_cancel' (Nat.not_lt.mp hge)))
    omega
  intro a b hab
  unfold resume at hab
  split at hab <;> split at hab
  · exact hf hab
  · have := hlt a ‹_›
    omega
  · have := hlt b ‹_›
    omega
  · omega

/-- When more numbers have been given out meanwhile, those up to `n` may keep what they stand for. -/
theorem exists_resumed {f : Nat → Nat} {n l m : Nat} (hf : Function.Injective f)
    (hl : ∀ k, f (n + k) = l + k) (hm : l ≤ m) :
    ∃ g : Nat → Nat, Function.Injective g ∧ (∀ k, g (n + k) = m + k) ∧ ∀ a < n, g a = f a :=
  ⟨resume f n m, resume_injective hf hl hm, resume_add f n m, fun _ ha => if_pos ha⟩

end Renaming

/-! ## What a renaming does depends on the numbers in use -/

section congr

variable {r r' : Renaming} {n m : Nat}

theorem Snapshot.rename_congr {s : Snapshot} (h : r'.serial s.serial = r.serial s.serial) :
    s.rename r' = s.rename r := by
  rw [Snapshot.rename, h]
  rfl

theorem Entry.rename_congr {e : Entry} (hl : ∀ a ∈ e.lock, r'.op a = r.op a)
    (hs : ∀ s, e.snapshot = some s → r'.serial s.serial = r.serial s.serial) :
    e.rename r' = e.rename r := by
  have hsnap : e.snapshot.map (·.rename r') = e.snapshot.map (·.rename r) :=
    Option.map_congr fun s h => Snapshot.rename_congr (hs s h)
  rw [Entry.rename, List.map_congr_left hl, hsnap]
  rfl

theorem Point.rename_congr {p : Point}
    (hs : ∀ s, p.snapshot? = some s → r'.serial s.serial = r.serial s.serial) :
    p.rename r' = p.rename r := by
  cases p with
  | queued h errand =>
    cases errand with
    | act s a => exact congrArg (queued h <| .act · a) (Snapshot.rename_congr (hs s rfl))
    | _ => rfl
  | renewing h s since => exact congrArg (renewing h · since) (Snapshot.rename_congr (hs s rfl))
  | revoking h s m => exact congrArg (revoking h · m) (Snapshot.rename_congr (hs s rfl))
  | _ => rfl

end congr

end LeaseKeeper.Leases
