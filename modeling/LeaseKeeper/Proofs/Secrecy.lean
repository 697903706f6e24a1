import LeaseKeeper.Proofs.Leases.Contents
import LeaseKeeper.Proofs.Leases.Removal
import LeaseKeeper.Proofs.Session.Tokens
import LeaseKeeper.Server.Tokens

/-!
# Tokens and secrets stay hidden

Two sessions that are driven in the same way, but with other tokens in the answers of the server, differ
in these tokens only, and show themselves in the same words (`Session.SameButTokens`). Two lease engines
whose answers bring other data differ in the data only (`Leases.SameButData`). Together that is
`secrets_stay_hidden`.
-/

namespace LeaseKeeper

/-! ## Sessions -/

namespace Session

variable {ρ : String → String} {w w' : World}

/-- Two sessions are equal up to their tokens, and what can be read of them is equal as it is. -/
structure SameButTokens (ρ : String → String) (w w' : World) : Prop where
  /-- Everything else is the same: tasks, operations, events and calls, and what observers noted. -/
  world : w' = w.retoken ρ
  outcomes : ∀ op, w'.outcome? op = (w.outcome? op).map (·.retoken ρ)
  view : w'.view = w.view.retoken ρ
  status : w'.status = w.status
  /-- So many calls were made of every sort that has nothing to do with tokens. -/
  calls : ∀ p : Call → Bool, (∀ c, p (c.retoken ρ) = p c) → w'.calls p = w.calls p
  delays : w'.schedule.delays = w.schedule.delays
  now : w'.now = w.now
  lines : w'.audience.lines = w.audience.lines
  metrics : w'.audience.metrics = w.audience.metrics
  render : w'.render = w.render

namespace World

theorem outcome?_retoken (w : World) (op : Nat) :
    (w.retoken ρ).outcome? op = (w.outcome? op).map (·.retoken ρ) := by
  unfold outcome?
  rw [retoken_history]
  induction w.history with
  | nil => rfl
  | cons x xs ih =>
    rw [List.map_cons, List.findSome?_cons, List.findSome?_cons]
    cases x with
    | ended o r =>
      cases h : o == op with
      | true => simp [Happening.retoken, h]
      | false => simpa [Happening.retoken, h] using ih
    | _ => exact ih

theorem calls_retoken (w : World) {p : Call → Bool} (hp : ∀ c, p (c.retoken ρ) = p c) :
    (w.retoken ρ).calls p = w.calls p := by
  unfold calls
  rw [retoken_history, List.countP_map]
  refine List.countP_congr fun x _ => ?_
  cases x with
  | called op c => exact iff_of_eq (congrArg (· = true) (hp c))
  | _ => rfl

end World

theorem sameButTokens_retoken (ρ : String → String) (w : World) : SameButTokens ρ w (w.retoken ρ) where
  world := rfl
  outcomes := w.outcome?_retoken
  view := World.view_retoken ρ w
  status := World.status_retoken ρ w
  calls _ := w.calls_retoken
  delays := Schedule.delays_map ..
  now := rfl
  lines := rfl
  metrics := rfl
  render := by simp [World.render]

end Session

/-! ## Lease engines -/

namespace Leases

variable {w w' : World}

/-- Nothing in place of the data of a secret. -/
def noData : SecretData → SecretData := fun _ => []

/-- The calls that were made, latest first. -/
def World.made (w : World) : List (Nat × Handle × Call) :=
  w.history.filterMap fun
    | .called op h c => some (op, h, c)
    | _ => none

/-- Two lease engines are equal but for the data of their secrets. -/
structure SameButData (w w' : World) : Prop where
  /-- Without data everything is the same: entries and their leases, tasks, operations, events and
  calls, and what observers noted. -/
  world : w.refill noData = w'.refill noData
  outcomes : w.outcome? = w'.outcome?
  calls : w.made = w'.made
  handles : w.handles = w'.handles
  delays : w.schedule.delays = w'.schedule.delays
  now : w.now = w'.now
  lines : w.audience.lines = w'.audience.lines
  metrics : w.audience.metrics = w'.audience.metrics
  render : w.render = w'.render

namespace World

variable (f : SecretData → SecretData) (w : World)

theorem outcome?_refill : (w.refill f).outcome? = w.outcome? := by
  funext op
  unfold outcome?
  rw [refill_history, List.findSome?_map]
  congr
  funext x
  cases x <;> rfl

theorem made_refill : (w.refill f).made = w.made := by
  unfold made
  rw [refill_history, List.filterMap_map]
  congr
  funext x
  cases x <;> rfl

theorem render_refill : (w.refill f).render = w.render := by simp [render]

end World

theorem sameButData_of_refill (h : w.refill noData = w'.refill noData) : SameButData w w' where
  world := h
  outcomes := by simpa only [World.outcome?_refill] using congrArg World.outcome? h
  calls := by simpa only [World.made_refill] using congrArg World.made h
  handles := by simpa only [World.handles_refill] using congrArg World.handles h
  delays := by
    simpa only [World.refill_schedule, Schedule.delays_map] using congrArg (·.schedule.delays) h
  now := (congrArg World.now h :)
  lines := congrArg (·.audience.lines) h
  metrics := congrArg (·.audience.metrics) h
  render := by simpa only [World.render_refill] using congrArg World.render h

end Leases

/-! ## Written forms -/

/-- The method with another token, or another secret to log in with. -/
def LoginMethod.retoken (ρ : String → String) : LoginMethod → LoginMethod
  | token t => token ⟨ρ t.expose⟩
  | appRole r => appRole { r with secretId := ⟨ρ r.secretId.expose⟩ }

theorem LoginMethod.render_retoken (ρ : String → String) (m : LoginMethod) :
    (m.retoken ρ).render = m.render := by cases m <;> rfl

theorem Credential.render_retoken (ρ : String → String) (c : Credential) (issued : String)
    (arrange : List (String × String) → List (String × String)) :
    (c.retoken ρ).render issued arrange = c.render issued arrange := rfl

/-! ## Runs -/

/-- Neither the tokens of a session nor the data of secrets make any difference but in their own
places. Answers whose tokens differ at every place for itself are images of the same ones, in which no
two tokens are alike. -/
theorem secrets_stay_hidden :
    (∀ (ρ : String → String) (settings : Session.Settings) (d : Discipline) (draws : Nat → Nat)
      (ms : List Session.Move), Option.Rel (Session.SameButTokens ρ)
        (Session.run? (.initial settings d draws) ms)
        (Session.run? (.initial settings d draws) (ms.map (·.retoken ρ)))) ∧
    (∀ (ρ : String → String) (c : Credential) (issued : String)
      (arrange : List (String × String) → List (String × String)),
      (c.retoken ρ).render issued arrange = c.render issued arrange) ∧
    (∀ (ρ : String → String) (m : LoginMethod), (m.retoken ρ).render = m.render) ∧
    ∀ (settings : Leases.Settings) (d : Discipline) (draws : Nat → Nat) (ms ns : List Leases.Move),
      ms.map (·.refill Leases.noData) = ns.map (·.refill Leases.noData) →
      Option.Rel Leases.SameButData (Leases.run? (.initial settings d draws) ms)
        (Leases.run? (.initial settings d draws) ns) := by
  refine ⟨fun ρ settings d draws ms => ?_, Credential.render_retoken, LoginMethod.render_retoken,
    fun settings d draws ms ns h => ?_⟩
  · have hrun := Session.run?_retoken ρ (.initial settings d draws) ms
    rw [show (Session.World.initial settings d draws).retoken ρ = .initial settings d draws from rfl]
      at hrun
    rw [hrun]
    cases Session.run? (.initial settings d draws) ms with
    | none => exact .none
    | some w => exact .some (Session.sameButTokens_retoken ρ w)
  · have hrun := Leases.run?_refill Leases.noData (.initial settings d draws)
    have hm := hrun ms
    rw [h, hrun ns] at hm
    cases hw : Leases.run? (.initial settings d draws) ms with
    | none =>
      rw [hw, Option.map_none, Option.map_eq_none_iff] at hm
      rw [hm]
      exact .none
    | some w =>
      rw [hw, Option.map_some, Option.map_eq_some_iff] at hm
      obtain ⟨w', hw', hm⟩ := hm
      rw [hw']
      exact .some (Leases.sameButData_of_refill hm.symm)

/-- A secret is registered, renewed and fetched again, with these data. -/
def Leases.servedWith (first second : SecretData) : List Leases.Move :=
  [.listen .regular ⟨"log", .log⟩, .begin (.add ⟨"path", .renewable⟩ "kv"),
    .answer 0 (.fetched (.ok (some { Leases.minuteSecret with data := first }))), .fireNext,
    .answer 1 (.renewal (.ok Leases.laterLease)), .begin (.rotate ⟨1⟩),
    .answer 2 (.fetched (.ok (some { Leases.minuteSecret with data := second })))]

/-- Two runs with other passwords end with other data, and show the same lines. -/
theorem secrets_stay_hidden_served : ∃ w w',
    Leases.run? Leases.early (Leases.servedWith [("password", .text "a")] []) = some w ∧
      Leases.run? Leases.early (Leases.servedWith [] [("password", .text "b")]) = some w' ∧
      Leases.SameButData w w' ∧ w.audience.lines.length = 3 ∧
      (w.snapshot? ⟨1⟩).map Leases.Snapshot.data = some [] ∧
      (w'.snapshot? ⟨1⟩).map Leases.Snapshot.data = some [("password", .text "b")] := by
  have hrel : Option.Rel Leases.SameButData
      (Leases.run? Leases.early (Leases.servedWith [("password", .text "a")] []))
      (Leases.run? Leases.early (Leases.servedWith [] [("password", .text "b")])) :=
    secrets_stay_hidden.2.2.2 _ _ _ _ _ rfl
  have hsame : ∀ {w w'},
      Leases.run? Leases.early (Leases.servedWith [("password", .text "a")] []) = some w →
      Leases.run? Leases.early (Leases.servedWith [] [("password", .text "b")]) = some w' →
      Leases.SameButData w w' := fun hw hw' => by
    rw [hw, hw'] at hrel
    cases hrel with
    | some h => exact h
  exact ⟨_, _, rfl, rfl, hsame rfl rfl, rfl, rfl, rfl⟩

end LeaseKeeper
