import LeaseKeeper.Proofs.Leases.Desertion
import LeaseKeeper.Proofs.Leases.Removal
import LeaseKeeper.Proofs.Session.Care
import LeaseKeeper.Proofs.Session.Desertion

/-!
# Engines that nobody holds

What becomes of a session or a lease engine after its last holder has let go, wherever it stood then
and whatever happens later: the operations under way come to their end, and with the last of them
everything has come to an end (`winds_up_when_let_go`). It has to be the last of all: while a renewal
is under way the engine is still there, so that the task of another secret may start, and a task that
the first renewal leaves behind may start as well (`task_left_behind`).
-/

namespace LeaseKeeper

/-- The operations under way stay when the last holder lets go; they come to their end; and then no
task is left, and nothing ever happens again. -/
theorem winds_up_when_let_go :
    (∀ (settings : Session.Settings) (d : Discipline) (draws : Nat → Nat) (ms ns : List Session.Move)
      (w v : Session.World), Session.run? (.initial settings d draws) ms = some w →
      Session.run? w.release ns = some v →
        w.release.operations = w.operations ∧ Session.LetGo ns v) ∧
    ∀ (settings : Leases.Settings) (d : Discipline) (draws : Nat → Nat) (ms ns : List Leases.Move)
      (w v : Leases.World), Leases.run? (.initial settings d draws) ms = some w →
      Leases.run? w.release ns = some v →
        w.release.operations = w.operations ∧ Leases.LetGo ns v := by
  refine ⟨fun settings d draws ms ns w v hw hv => ⟨?_, Session.letGo_of_run hw hv⟩,
    fun settings d draws ms ns w v hw hv => ⟨?_, Leases.letGo_of_run hw hv⟩⟩
  · exact Session.World.operations_reap { w with held := false }
  · exact Leases.World.operations_release w

/-- A credential is being renewed. -/
def Session.atServer : List Session.Move :=
  [.begin .token, .answer 0 (.login (.ok Session.minuteLogin)), .fireNext]

/-- The renewal is lost on the way, which leads to another login. -/
def Session.losesLogin : List Session.Move :=
  [.answer 1 (.renewal (.error (.permissionDenied "revoked"))),
    .answer 1 (.login (.ok Session.minuteLogin))]

/-- Renewals that are under way come to their end, and no task is left behind. -/
theorem winds_up_at_server :
    ∃ w v x y, Session.run? Session.early Session.atServer = some w ∧
      Session.run? w.release Session.losesLogin = some v ∧ Session.LetGo Session.losesLogin v ∧
      v.operations = [] ∧ Leases.run? Leases.early Leases.atServer = some x ∧
      Leases.run? x.release [.answer 1 (.renewal (.ok Leases.laterLease))] = some y ∧
      Leases.LetGo [.answer 1 (.renewal (.ok Leases.laterLease))] y ∧ y.operations = [] := by
  have hs : Session.run? Session.early Session.atServer = some _ := rfl
  have hl : Leases.run? Leases.early Leases.atServer = some _ := rfl
  exact ⟨_, _, _, _, hs, rfl, (winds_up_when_let_go.1 _ _ _ _ _ _ _ hs rfl).2, rfl, hl, rfl,
    (winds_up_when_let_go.2 _ _ _ _ _ _ _ hl rfl).2, rfl⟩

/-- Two secrets are looked after, and the renewal of the first is under way. -/
def Leases.firstAtServer : List Leases.Move :=
  [.begin (.add ⟨"first", .renewable⟩ "kv"), .answer 0 (.fetched (.ok (some Leases.minuteSecret))),
    .begin (.add ⟨"second", .renewable⟩ "kv"), .answer 1 (.fetched (.ok (some Leases.minuteSecret))),
    .fireNext]

/-- The renewal of the second begins, and that of the first ends. -/
def Leases.secondAtServer : List Leases.Move :=
  [.fireNext, .answer 2 (.renewal (.ok Leases.laterLease))]

/-- What was under way when the last holder let go has ended, but a task is left, and it calls the
server when it starts. -/
theorem task_left_behind :
    ∃ w v u, Leases.run? Leases.early Leases.firstAtServer = some w ∧
      Leases.run? w.release Leases.secondAtServer = some v ∧
      (∀ x ∈ w.operations, v.point? x.1 = none) ∧ v.schedule.live ≠ [] ∧
      Leases.step v .fireNext = some u ∧
      u.history = .called 4 ⟨1⟩ (.renew Leases.laterLease (.ofSeconds 60)) :: v.history := by
  refine ⟨_, _, _, rfl, rfl, ?_, ?_, rfl, rfl⟩
  · intro x hx
    cases hx with
    | head => rfl
    | tail _ hx => cases hx
  · exact List.cons_ne_nil _ _

end LeaseKeeper
