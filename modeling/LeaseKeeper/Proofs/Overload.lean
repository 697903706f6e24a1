import LeaseKeeper.Server.Secrets

/-!
# Refusals of an overloaded server

How the refusals of the server are sorted, for every status and every message. The message is looked
at before the status (`Fault.classify`), so that an overload is taken for a fault that ends its
subject if the message happens to say so: `Fault.transient_iff_overload_untold` says which refusals
are transient, and which overloads a fetch takes for a secret that is not there. What a message says
is told by its text alone (`Text.Says`): a phrase stands in it, in capitals or in small letters.
-/

namespace LeaseKeeper

/-! ## Phrases -/

namespace Text

/-- Whether a phrase in small letters stands somewhere in a text, there in whatever ASCII case. -/
def Says (text phrase : String) : Prop :=
  ∃ words, words <:+: text.toList ∧ words.map Char.toLower = phrase.toList

theorem occursIn_iff {part cs : List Char} : occursIn part cs = true ↔ part <:+: cs := by
  induction cs with
  | nil => rw [occursIn, List.isEmpty_iff, List.infix_nil]
  | cons c cs ih =>
    rw [occursIn, Bool.or_eq_true, List.isPrefixOf_iff_prefix, ih, List.infix_cons_iff]

theorem contains_lower_iff {text phrase : String} :
    contains (lower text) phrase = true ↔ Says text phrase := by
  unfold contains lower lowerChars
  rw [occursIn_iff, String.toList_ofList, List.infix_map_iff]
  exact exists_congr fun words => and_congr_right fun _ => eq_comm

end Text

/-! ## Sorting -/

namespace Fault

open Text (Says)

theorem isOverload_iff {status : UInt16} :
    isOverload status = true ↔ status = 429 ∨ 500 ≤ status := by
  simp [isOverload]

theorem saysMissing_iff {message : String} :
    saysMissing message = true ↔ Says message "not found" ∨ Says message "invalid lease" := by
  show (Text.contains (Text.lower message) _ || Text.contains (Text.lower message) _) = true ↔ _
  rw [Bool.or_eq_true, Text.contains_lower_iff, Text.contains_lower_iff]

theorem saysForbidden_iff {message : String} :
    saysForbidden message = true ↔ Says message "permission denied" :=
  Text.contains_lower_iff

/-- The three ways in which a refusal is sorted, the first that applies. -/
theorem classify_cases (status : UInt16) (message : String) :
    ((status = 404 ∨ saysMissing message = true) ∧ classify status message = .notFound message) ∨
    (¬(status = 404 ∨ saysMissing message = true) ∧
      ((status = 403 ∨ saysForbidden message = true) ∧
          classify status message = .permissionDenied message ∨
        ¬(status = 403 ∨ saysForbidden message = true) ∧
          classify status message = .rejected status message)) := by
  unfold classify
  simp only [Bool.or_eq_true, beq_iff_eq]
  split
  · exact .inl ⟨‹_›, rfl⟩
  · refine .inr ⟨‹_›, ?_⟩
    split
    · exact .inl ⟨‹_›, rfl⟩
    · exact .inr ⟨‹_›, rfl⟩

theorem exists_classify_eq_notFound {status : UInt16} {message : String} :
    (∃ path, classify status message = .notFound path) ↔
      status = 404 ∨ saysMissing message = true := by
  rcases classify_cases status message with ⟨hm, h⟩ | ⟨hm, ⟨-, h⟩ | ⟨-, h⟩⟩ <;> simp [h, hm]

/-- Neither 404 nor 403 tells of an overload, so that only a rejection is transient. -/
theorem isTransient_classify_iff {status : UInt16} {message : String} :
    (classify status message).isTransient = true ↔ isOverload status = true ∧
      ¬saysMissing message = true ∧ ¬saysForbidden message = true := by
  rcases classify_cases status message with ⟨hm, h⟩ | ⟨hm, ⟨hf, h⟩ | ⟨hf, h⟩⟩ <;> rw [h]
  · refine iff_of_false Bool.false_ne_true fun ⟨ho, hs, _⟩ => ?_
    rw [hm.resolve_right hs] at ho
    exact absurd ho (by decide)
  · refine iff_of_false Bool.false_ne_true fun ⟨ho, _, hs⟩ => ?_
    rw [hf.resolve_right hs] at ho
    exact absurd ho (by decide)
  · rw [not_or] at hm hf
    exact ⟨fun ho => ⟨ho, hm.2, hf.2⟩, And.left⟩

end Fault

/-! ## Answers -/

namespace Server

variable {status : UInt16}

/-- An answer of an overloaded server is a refusal, whatever its body is. -/
theorem readBody_of_overload (h : Fault.isOverload status = true) (body : String) :
    readBody (.answered status body) =
      .error (Fault.classify status (errorMessage status body)) := by
  have hrefused : isSuccess status = false ∧ status ≠ 204 := by
    rcases Fault.isOverload_iff.mp h with rfl | hle
    · exact ⟨rfl, by decide⟩
    · have hnat : 500 ≤ status.toNat := UInt16.le_iff_toNat_le.mp hle
      refine ⟨?_, fun e => ?_⟩
      · simp only [isSuccess, Bool.and_eq_false_iff, decide_eq_false_iff_not, UInt16.not_lt,
          UInt16.le_iff_toNat_le]
        exact .inr (Nat.le_trans (by decide) hnat)
      · rw [e] at hnat
        exact absurd hnat (by decide)
  simp [readBody, hrefused.1, hrefused.2]

theorem readFetch_error_eq_none_iff {now : Instant} {f : Fault} :
    readFetch now (.error f) = .ok none ↔ ∃ path, f = .notFound path := by
  cases f <;> simp [readFetch]

end Server

namespace Fault

open Text (Says)

/-- A refusal is transient exactly if its status tells of an overload and its message says neither
that something is missing nor that something is forbidden. A fetch that an overloaded server refuses
finds that there is no such secret exactly if the message says that something is missing. -/
theorem transient_iff_overload_untold (status : UInt16) (message : String) :
    ((classify status message).isTransient = true ↔ (status = 429 ∨ 500 ≤ status) ∧
      ¬Says message "not found" ∧ ¬Says message "invalid lease" ∧
        ¬Says message "permission denied") ∧
    ∀ (now : Instant) (body : String), (status = 429 ∨ 500 ≤ status) →
      (Server.readFetch now (Server.readBody (.answered status body)) = .ok none ↔
        Says (Server.errorMessage status body) "not found" ∨
          Says (Server.errorMessage status body) "invalid lease") := by
  refine ⟨?_, fun now body hover => ?_⟩
  · rw [isTransient_classify_iff, isOverload_iff, saysMissing_iff, saysForbidden_iff, not_or,
      and_assoc]
  · have ho : isOverload status = true := isOverload_iff.mpr hover
    have hne : status ≠ 404 := fun e => by
      rw [e] at ho
      exact absurd ho (by decide)
    rw [Server.readBody_of_overload ho, Server.readFetch_error_eq_none_iff,
      exists_classify_eq_notFound, or_iff_right hne, saysMissing_iff]

/-- An overloaded server that speaks of something it did not find is taken for one that knows of no
such lease. -/
theorem overload_taken_for_loss :
    classify 503 "lease not found" = .notFound "lease not found" ∧
      ¬((classify 503 "lease not found").isTransient = true ↔
        ((503 : UInt16) = 429 ∨ (500 : UInt16) ≤ 503)) := by
  have h : classify 503 "lease not found" = .notFound "lease not found" := rfl
  refine ⟨h, fun hiff => ?_⟩
  rw [h] at hiff
  exact absurd (hiff.mpr (.inr (by decide))) Bool.false_ne_true

end Fault

end LeaseKeeper
