import LeaseKeeper.Config.Environment

/-!
# What an environment tells

The values that variables may have so that a given configuration is read from them. A value
is written in one of its spellings: a number by its decimal digits, with zeros and a plus sign in
front or without (`Spelling.number`), a flag or a strategy by one of its words in small letters or
capitals (`Spelling.word`), all three with any blanks around them, and a text as it is. A variable
may be left out if its field has the default (`Tells`). From an environment whose fourteen variables
tell a configuration in that way, whatever its other variables are, the configuration itself is read
if it is valid, and otherwise the fault that validation finds in it. Every
configuration is told by the environment of its fields (`Config.ofEnvironment_eq_validate`).
-/

namespace LeaseKeeper

namespace Text

/-! ## Blanks at the ends -/

/-- The core with nothing but blanks around it. -/
def Padded (core : List Char) (s : String) : Prop :=
  ∃ before after : List Char, before.all isBlank = true ∧ after.all isBlank = true ∧
    s.toList = before ++ core ++ after

theorem dropWhile_isBlank_append {before core : List Char} (after : List Char)
    (hb : ∀ c ∈ before, isBlank c = true) (hc : ∀ c ∈ core, isBlank c = false) (hn : core ≠ []) :
    (before ++ core ++ after).dropWhile isBlank = core ++ after := by
  rw [List.append_assoc, List.dropWhile_append_of_pos hb]
  obtain ⟨c, cs, rfl⟩ := List.exists_cons_of_ne_nil hn
  rw [List.cons_append, List.dropWhile_cons_of_neg (by simp [hc c List.mem_cons_self])]

/-- Trimming leaves the core if there is no blank in it. -/
theorem trim_of_padded {core : List Char} {s : String} (h : Padded core s)
    (hc : ∀ c ∈ core, isBlank c = false) (hn : core ≠ []) : trim s = String.ofList core := by
  obtain ⟨before, after, hb, ha, hs⟩ := h
  rw [List.all_eq_true] at hb ha
  have hfront := dropWhile_isBlank_append after hb hc hn
  have hback : (after.reverse ++ core.reverse).dropWhile isBlank = core.reverse := by
    simpa using dropWhile_isBlank_append [] (fun c h => ha c (List.mem_reverse.mp h))
      (fun c h => hc c (List.mem_reverse.mp h)) (List.reverse_ne_nil_iff.mpr hn)
  rw [trim, hs, trimChars, hfront, List.reverse_append, hback, List.reverse_reverse]

/-! ## Numerals -/

theorem digit?_of_isDigit {c : Char} (h : c.isDigit = true) :
    digit? c = some (c.toNat - '0'.toNat) :=
  if_pos (Char.isDigit_iff_toNat.mp h)

theorem isBlank_of_isDigit {c : Char} (h : c.isDigit = true) : isBlank c = false := by
  have := Char.isDigit_iff_toNat.mp h
  simp only [isBlank, Bool.or_eq_false_iff, Bool.and_eq_false_iff, decide_eq_false_iff_not, beq_eq_false_iff_ne]
  have h0 : '0'.toNat = 48 := rfl
  have h9 : '9'.toNat = 57 := rfl
  omega

theorem le_ofDigitChars (value : Nat) (cs : List Char) : value ≤ Nat.ofDigitChars 10 cs value := by
  induction cs generalizing value with
  | nil => exact Nat.le_refl _
  | cons c cs ih =>
    rw [Nat.ofDigitChars_cons]
    exact Nat.le_trans (by omega) (ih _)

/-- Digits are read as the number they stand for, if that is in the range. -/
theorem readDigits_eq_ok {value : Nat} {cs : List Char} (hd : ∀ c ∈ cs, c.isDigit = true)
    (hr : Nat.ofDigitChars 10 cs value < 18446744073709551616) :
    readDigits value cs = .ok (Nat.ofDigitChars 10 cs value) := by
  induction cs generalizing value with
  | nil => rfl
  | cons c cs ih =>
    rw [Nat.ofDigitChars_cons, Nat.mul_comm] at hr ⊢
    have hle := le_ofDigitChars (value * 10 + (c.toNat - '0'.toNat)) cs
    rw [readDigits, digit?_of_isDigit (hd c List.mem_cons_self)]
    exact (if_pos (Nat.lt_of_le_of_lt hle hr)).trans (ih (fun c hc => hd c (.tail _ hc)) hr)

/-- The decimal digits of a number, with zeros in front or without. -/
def numeral (zeros n : Nat) : List Char := List.replicate zeros '0' ++ Nat.toDigits 10 n

theorem isDigit_of_mem_numeral {zeros n : Nat} {c : Char} (h : c ∈ numeral zeros n) :
    c.isDigit = true := by
  rcases List.mem_append.mp h with hz | hd
  · rw [List.eq_of_mem_replicate hz]
    rfl
  · exact Nat.isDigit_of_mem_toDigits (by decide) (by decide) hd

theorem numeral_ne_nil (zeros n : Nat) : numeral zeros n ≠ [] := by
  simp [numeral, Nat.toDigits_ne_nil]

theorem readDigits_numeral (zeros : Nat) (n : UInt64) :
    readDigits 0 (numeral zeros n.toNat) = .ok n.toNat := by
  have hv : Nat.ofDigitChars 10 (numeral zeros n.toNat) 0 = n.toNat := by
    rw [numeral, Nat.ofDigitChars_append, Nat.ofDigitChars_replicate_zero, Nat.mul_zero,
      Nat.ofDigitChars_ten_toDigits]
  rw [readDigits_eq_ok (fun c => isDigit_of_mem_numeral) (hv.symm ▸ n.toNat_lt), hv]

/-- Whether the characters are the decimal digits of the number, with zeros and a plus sign in front
or without. -/
def IsNumeral (n : UInt64) (cs : List Char) : Prop :=
  ∃ zeros, cs = numeral zeros n.toNat ∨ cs = '+' :: numeral zeros n.toNat

theorem IsNumeral.readNumber {n : UInt64} {cs : List Char} (h : IsNumeral n cs) :
    readNumber (String.ofList cs) = .ok n := by
  obtain ⟨zeros, hcs⟩ := h
  have hread : (readDigits 0 (numeral zeros n.toNat)).map UInt64.ofNat = .ok n := by
    rw [readDigits_numeral]
    exact congrArg _ n.ofNat_toNat
  obtain ⟨d, ds, hds⟩ := List.exists_cons_of_ne_nil (numeral_ne_nil zeros n.toNat)
  have hd : d ≠ '+' := by
    rintro rfl
    exact absurd (isDigit_of_mem_numeral (hds ▸ List.mem_cons_self)) (by decide)
  rw [Text.readNumber, String.toList_ofList]
  rcases hcs with rfl | rfl <;> rw [hds] at hread ⊢
  · split
    · contradiction
    · rename_i heq
      exact absurd (List.cons.inj heq).1 hd
    · rename_i heq
      exact absurd (List.cons.inj heq).1 hd
    · exact hread
  · exact hread

theorem IsNumeral.isBlank_eq_false {n : UInt64} {cs : List Char} (h : IsNumeral n cs) :
    ∀ c ∈ cs, isBlank c = false := by
  obtain ⟨zeros, rfl | rfl⟩ := h
  · exact fun c hc => isBlank_of_isDigit (isDigit_of_mem_numeral hc)
  · rintro c (_ | ⟨_, hc⟩)
    · rfl
    · exact isBlank_of_isDigit (isDigit_of_mem_numeral hc)

theorem IsNumeral.ne_nil {n : UInt64} {cs : List Char} (h : IsNumeral n cs) : cs ≠ [] := by
  obtain ⟨zeros, rfl | rfl⟩ := h
  · exact numeral_ne_nil zeros n.toNat
  · exact List.cons_ne_nil _ _

/-! ## Small letters -/

/-- A blank has no small letter of its own. -/
theorem toLower_of_isBlank {c : Char} (h : isBlank c = true) : c.toLower = c := by
  refine dif_neg fun hu => ?_
  have ha : 65 ≤ c.toNat := UInt32.le_iff_toNat_le.mp hu.1
  have hz : c.toNat ≤ 90 := UInt32.le_iff_toNat_le.mp hu.2
  simp only [isBlank, Bool.or_eq_true, Bool.and_eq_true, decide_eq_true_eq, beq_iff_eq] at h
  omega

/-- What is free of blanks in small letters is free of them as it is. -/
theorem isBlank_eq_false_of_lowerChars {cs : List Char}
    (h : ∀ c ∈ lowerChars cs, isBlank c = false) : ∀ c ∈ cs, isBlank c = false := by
  intro c hc
  refine Bool.eq_false_iff.mpr fun hb => ?_
  have hl := h _ (List.mem_map_of_mem hc)
  rw [toLower_of_isBlank hb, hb] at hl
  contradiction

end Text

/-! ## Spellings -/

/-- Which texts stand for a value. -/
abbrev Spelling (α : Type) := α → String → Prop

namespace Spelling

/-- A number by its decimal digits. -/
def number : Spelling UInt64 := fun n s => ∃ core, Text.IsNumeral n core ∧ Text.Padded core s

/-- A value by one of its words, in small letters or capitals. -/
def word {α : Type} (words : α → List String) : Spelling α := fun v s =>
  ∃ core, String.ofList (Text.lowerChars core) ∈ words v ∧ Text.Padded core s

/-- The words for a flag. -/
def flagWords : Bool → List String
  | true => ["1", "true", "yes", "on"]
  | false => ["0", "false", "no", "off"]

/-- The words for a strategy. -/
def strategyWords : Strategy → List String
  | .dropOnError => ["drop-on-error", "drop_on_error"]
  | .retainOnTransientError => ["retain-on-transient-error", "retain_on_transient_error"]

/-- A text as it is. -/
def verbatim : Spelling String := fun v s => s = v

/-- A value that is there, by its own spelling. -/
def given {α : Type} (spells : Spelling α) : Spelling (Option α) := fun o s =>
  ∃ v, o = some v ∧ spells v s

end Spelling

/-- Whether a variable tells a value: by a spelling of it, or by being left out if the value is the
default. -/
def Tells {α : Type} (spells : Spelling α) (default value : α) : Option String → Prop
  | some s => spells value s
  | none => value = default

/-- Words without blanks are what is left of their spellings, trimmed and in small letters. -/
theorem Spelling.lower_trim_mem {α : Type} {words : α → List String} {v : α} {s : String}
    (hw : (words v).all (fun w => !w.toList.isEmpty && w.toList.all (!Text.isBlank ·)) = true)
    (h : Spelling.word words v s) : Text.lower (Text.trim s) ∈ words v := by
  obtain ⟨core, hmem, hpad⟩ := h
  have hclean := List.all_eq_true.mp hw _ hmem
  simp only [String.toList_ofList, Bool.and_eq_true, Bool.not_eq_true', List.isEmpty_eq_false_iff,
    List.all_eq_true] at hclean
  obtain ⟨hnil, hblank⟩ := hclean
  rw [Text.trim_of_padded hpad (Text.isBlank_eq_false_of_lowerChars hblank)
    (fun hn => hnil (by rw [hn]; rfl)), Text.lower, String.toList_ofList]
  exact hmem

namespace Environment

variable {env : Environment}

/-! ## Reading a variable -/

/-- Whether a variable is read as whatever value it spells, and as none if it is not set. -/
def Reads {α : Type} (read : Environment → String → Except Fault (Option α)) (spells : Spelling α) :
    Prop :=
  ∀ (env : Environment) (key : String), (env.raw key = none → read env key = .ok none) ∧
    ∀ s v, env.raw key = some s → spells v s → read env key = .ok (some v)

theorem reads_number : Reads number Spelling.number := by
  refine fun env key => ⟨fun h => by rw [number, h], fun s n h hs => ?_⟩
  obtain ⟨core, hcore, hpad⟩ := hs
  rw [number, h]
  simp only
  rw [Text.trim_of_padded hpad hcore.isBlank_eq_false hcore.ne_nil, hcore.readNumber]

theorem reads_flag : Reads flag (Spelling.word Spelling.flagWords) := by
  refine fun env key => ⟨fun h => by rw [flag, h], fun s b h hs => ?_⟩
  have hmem := Spelling.lower_trim_mem (by cases b <;> rfl) hs
  have hword : flagOfWord? (Text.lower (Text.trim s)) = some b := by
    revert hmem
    generalize Text.lower (Text.trim s) = w
    intro hmem
    cases b <;> simp only [Spelling.flagWords, List.mem_cons, List.not_mem_nil, or_false] at hmem <;>
      rcases hmem with rfl | rfl | rfl | rfl <;> rfl
  rw [flag, h]
  simp only [hword]

theorem reads_strategy : Reads strategy (Spelling.word Spelling.strategyWords) := by
  refine fun env key => ⟨fun h => by rw [strategy, h], fun s v h hs => ?_⟩
  have hmem := Spelling.lower_trim_mem (by cases v <;> rfl) hs
  have hparse : Strategy.parse s = .ok v := by
    rw [Strategy.parse]
    revert hmem
    generalize Text.lower (Text.trim s) = w
    intro hmem
    cases v <;> simp only [Spelling.strategyWords, List.mem_cons, List.not_mem_nil, or_false] at hmem <;>
      rcases hmem with rfl | rfl <;> rfl
  rw [strategy, h]
  simp only [hparse]

/-- A variable with a default that tells a value is read as that value. -/
theorem Reads.getD {α : Type} {read : Environment → String → Except Fault (Option α)}
    {spells : Spelling α} (hr : Reads read spells) (key : String) {default value : α}
    (h : Tells spells default value (env.raw key)) :
    ∃ o, read env key = .ok o ∧ o.getD default = value := by
  cases hs : env.raw key with
  | none => exact ⟨none, (hr env key).1 hs, (hs ▸ h : Tells spells default value none).symm⟩
  | some s =>
    exact ⟨some value, (hr env key).2 s value hs (hs ▸ h : Tells spells default value (some s)), rfl⟩

/-- A variable without a default that tells a value or none is read as just that. -/
theorem Reads.given {α : Type} {read : Environment → String → Except Fault (Option α)}
    {spells : Spelling α} (hr : Reads read spells) (key : String) {value : Option α}
    (h : Tells spells.given none value (env.raw key)) : read env key = .ok value := by
  cases hs : env.raw key with
  | none =>
    exact ((hr env key).1 hs).trans (congrArg _ (hs ▸ h : Tells spells.given none value none).symm)
  | some s =>
    obtain ⟨v, rfl, hv⟩ := (hs ▸ h : Tells spells.given none value (some s))
    exact (hr env key).2 s v hs hv

/-- A text that is told is the one that stands in the variable. -/
theorem raw_getD (key : String) {default value : String}
    (h : Tells Spelling.verbatim default value (env.raw key)) :
    (env.raw key).getD default = value := by
  cases hs : env.raw key with
  | none => exact (hs ▸ h : Tells Spelling.verbatim default value none).symm
  | some s => exact (hs ▸ h : Tells Spelling.verbatim default value (some s))

end Environment

/-! ## What is read of an environment that tells a configuration -/

/-- An environment that tells the configuration of a session. -/
structure SessionConfig.Told (env : Environment) (c : SessionConfig) : Prop where
  lead : Tells .number default.leadSeconds c.leadSeconds
    (env "VAULT_LIFECYCLE_SESSION_LEAD_TIME_SECONDS")
  threshold : Tells Spelling.number.given none c.thresholdSeconds
    (env "VAULT_LIFECYCLE_SESSION_VALID_TTL_THRESHOLD_SECONDS")
  selfLookup : Tells (.word Spelling.flagWords) default.selfLookup c.selfLookup
    (env "VAULT_LIFECYCLE_SESSION_SELF_LOOKUP")
  timeout : Tells .number default.blockingTimeoutSeconds c.blockingTimeoutSeconds
    (env "VAULT_LIFECYCLE_SESSION_BLOCKING_TIMEOUT_SECONDS")
  jitter : Tells .number default.jitterSeconds c.jitterSeconds
    (env "VAULT_LIFECYCLE_SESSION_JITTER_SECONDS")

/-- An environment that tells the configuration of leases. -/
structure LeaseConfig.Told (env : Environment) (c : LeaseConfig) : Prop where
  lead : Tells .number default.leadSeconds c.leadSeconds
    (env "VAULT_LIFECYCLE_LEASE_LEAD_TIME_SECONDS")
  threshold : Tells Spelling.number.given none c.thresholdSeconds
    (env "VAULT_LIFECYCLE_LEASE_VALID_TTL_THRESHOLD_SECONDS")
  strategy : Tells (.word Spelling.strategyWords) default.strategy c.strategy
    (env "VAULT_LIFECYCLE_LEASE_STRATEGY")
  jitter : Tells .number default.jitterSeconds c.jitterSeconds
    (env "VAULT_LIFECYCLE_LEASE_JITTER_SECONDS")
  increment : Tells Spelling.number.given none c.incrementSeconds
    (env "VAULT_LIFECYCLE_LEASE_RENEWAL_INCREMENT_SECONDS")

/-- An environment that tells the configuration of logs and metrics. -/
structure ObservabilityConfig.Told (env : Environment) (c : ObservabilityConfig) : Prop where
  metrics : Tells (.word Spelling.flagWords) default.enableMetrics c.enableMetrics
    (env "VAULT_LIFECYCLE_ENABLE_METRICS")
  json : Tells (.word Spelling.flagWords) default.jsonLogging c.jsonLogging
    (env "VAULT_LIFECYCLE_JSON_LOGGING")
  name : Tells .verbatim default.serviceName c.serviceName (env "VAULT_LIFECYCLE_SERVICE_NAME")
  level : Tells .verbatim default.logLevel c.logLevel (env "VAULT_LIFECYCLE_LOG_LEVEL")

/-- An environment that tells a configuration; what its other variables are does not matter. -/
structure Config.Told (env : Environment) (c : Config) : Prop where
  session : c.session.Told env
  lease : c.lease.Told env
  observability : c.observability.Told env

section

open Environment

variable {env : Environment}

theorem SessionConfig.ofEnvironment_of_told {c : SessionConfig} (h : c.Told env) :
    SessionConfig.ofEnvironment env = .ok c := by
  obtain ⟨lead, hlead, elead⟩ := reads_number.getD "SESSION_LEAD_TIME_SECONDS" h.lead
  have hthreshold := reads_number.given "SESSION_VALID_TTL_THRESHOLD_SECONDS" h.threshold
  obtain ⟨lookup, hlookup, elookup⟩ := reads_flag.getD "SESSION_SELF_LOOKUP" h.selfLookup
  obtain ⟨timeout, htimeout, etimeout⟩ :=
    reads_number.getD "SESSION_BLOCKING_TIMEOUT_SECONDS" h.timeout
  obtain ⟨jitter, hjitter, ejitter⟩ := reads_number.getD "SESSION_JITTER_SECONDS" h.jitter
  rw [SessionConfig.ofEnvironment, hlead, hthreshold, hlookup, htimeout, hjitter]
  simp only [bind, Except.bind, pure, Except.pure, elead, elookup, etimeout, ejitter]

theorem LeaseConfig.ofEnvironment_of_told {c : LeaseConfig} (h : c.Told env) :
    LeaseConfig.ofEnvironment env = .ok c := by
  obtain ⟨lead, hlead, elead⟩ := reads_number.getD "LEASE_LEAD_TIME_SECONDS" h.lead
  have hthreshold := reads_number.given "LEASE_VALID_TTL_THRESHOLD_SECONDS" h.threshold
  obtain ⟨strategy, hstrategy, estrategy⟩ := reads_strategy.getD "LEASE_STRATEGY" h.strategy
  obtain ⟨jitter, hjitter, ejitter⟩ := reads_number.getD "LEASE_JITTER_SECONDS" h.jitter
  have hincrement := reads_number.given "LEASE_RENEWAL_INCREMENT_SECONDS" h.increment
  rw [LeaseConfig.ofEnvironment, hlead, hthreshold, hstrategy, hjitter, hincrement]
  simp only [bind, Except.bind, pure, Except.pure, elead, estrategy, ejitter]

theorem ObservabilityConfig.ofEnvironment_of_told {c : ObservabilityConfig} (h : c.Told env) :
    ObservabilityConfig.ofEnvironment env = .ok c := by
  obtain ⟨metrics, hmetrics, emetrics⟩ := reads_flag.getD "ENABLE_METRICS" h.metrics
  obtain ⟨json, hjson, ejson⟩ := reads_flag.getD "JSON_LOGGING" h.json
  rw [ObservabilityConfig.ofEnvironment, hmetrics, hjson]
  simp only [bind, Except.bind, pure, Except.pure, emetrics, ejson, raw_getD "SERVICE_NAME" h.name,
    raw_getD "LOG_LEVEL" h.level]

theorem Config.ofEnvironment_of_told {c : Config} (h : c.Told env) :
    Config.ofEnvironment env = c.validate.map fun _ => c := by
  rw [Config.ofEnvironment, SessionConfig.ofEnvironment_of_told h.session,
    LeaseConfig.ofEnvironment_of_told h.lease,
    ObservabilityConfig.ofEnvironment_of_told h.observability]
  show (c.validate.bind fun _ => .ok c) = _
  cases c.validate <;> rfl

end

namespace Config

/-! ## The environment of a configuration -/

/-- Every field of a configuration in its plainest spelling, under the name of its variable. -/
def entries (c : Config) : List (String × Option String) :=
  [("VAULT_LIFECYCLE_SESSION_LEAD_TIME_SECONDS", some (toString c.session.leadSeconds)),
   ("VAULT_LIFECYCLE_SESSION_VALID_TTL_THRESHOLD_SECONDS", c.session.thresholdSeconds.map toString),
   ("VAULT_LIFECYCLE_SESSION_SELF_LOOKUP", some (toString c.session.selfLookup)),
   ("VAULT_LIFECYCLE_SESSION_BLOCKING_TIMEOUT_SECONDS",
      some (toString c.session.blockingTimeoutSeconds)),
   ("VAULT_LIFECYCLE_SESSION_JITTER_SECONDS", some (toString c.session.jitterSeconds)),
   ("VAULT_LIFECYCLE_LEASE_LEAD_TIME_SECONDS", some (toString c.lease.leadSeconds)),
   ("VAULT_LIFECYCLE_LEASE_VALID_TTL_THRESHOLD_SECONDS", c.lease.thresholdSeconds.map toString),
   ("VAULT_LIFECYCLE_LEASE_STRATEGY", some c.lease.strategy.name),
   ("VAULT_LIFECYCLE_LEASE_JITTER_SECONDS", some (toString c.lease.jitterSeconds)),
   ("VAULT_LIFECYCLE_LEASE_RENEWAL_INCREMENT_SECONDS", c.lease.incrementSeconds.map toString),
   ("VAULT_LIFECYCLE_ENABLE_METRICS", some (toString c.observability.enableMetrics)),
   ("VAULT_LIFECYCLE_JSON_LOGGING", some (toString c.observability.jsonLogging)),
   ("VAULT_LIFECYCLE_SERVICE_NAME", some c.observability.serviceName),
   ("VAULT_LIFECYCLE_LOG_LEVEL", some c.observability.logLevel)]

/-- The environment in which every field of a configuration is set, as far as it is there. -/
def environment (c : Config) : Environment := fun name => (c.entries.lookup name).join

end Config

/-- A text without anything around it. -/
theorem Text.padded_self (s : String) : Padded s.toList s :=
  ⟨[], [], rfl, rfl, (List.append_nil _).symm⟩

namespace Spelling

theorem number_toString (n : UInt64) : number n (toString n) := by
  refine ⟨(toString n).toList, ⟨0, .inl ?_⟩, Text.padded_self _⟩
  exact Nat.toList_repr

theorem given_number_toString (o : Option UInt64) :
    Tells number.given none o (o.map toString) := by
  cases o with
  | none => rfl
  | some n => exact ⟨n, rfl, number_toString n⟩

theorem word_flag (b : Bool) : word flagWords b (toString b) :=
  ⟨_, by cases b <;> decide, Text.padded_self _⟩

theorem word_strategy (v : Strategy) : word strategyWords v v.name :=
  ⟨_, by cases v <;> decide, Text.padded_self _⟩

end Spelling

open Spelling in
/-- The environment of a configuration tells it. -/
theorem Config.told_environment (c : Config) : c.Told c.environment where
  session :=
    ⟨number_toString _, given_number_toString _, word_flag _, number_toString _, number_toString _⟩
  lease :=
    ⟨number_toString _, given_number_toString _, word_strategy _, number_toString _,
      given_number_toString _⟩
  observability := ⟨word_flag _, word_flag _, rfl, rfl⟩

/-- A configuration is told by its own environment, and from every environment that tells it, it is
read if it is valid, and otherwise just the fault of its validation. -/
theorem Config.ofEnvironment_eq_validate (c : Config) :
    c.Told c.environment ∧
      ∀ env, c.Told env → Config.ofEnvironment env = c.validate.map fun _ => c :=
  ⟨c.told_environment, fun _ => Config.ofEnvironment_of_told⟩

/-- A configuration that leaves the default in some fields of every section. -/
def Config.tuned : Config where
  session := { SessionConfig.default with
    leadSeconds := 60, thresholdSeconds := some 18446744073709551615, selfLookup := false }
  lease := { LeaseConfig.default with strategy := .retainOnTransientError }
  observability := { ObservabilityConfig.default with serviceName := " keeper " }

/-- What tells it in unusual spellings, among other variables. -/
def Environment.tuned : Environment := Environment.ofList
  [("HOME", "/"),
   ("VAULT_LIFECYCLE_SESSION_LEAD_TIME_SECONDS", "\t060 "),
   ("VAULT_LIFECYCLE_SESSION_VALID_TTL_THRESHOLD_SECONDS", "+18446744073709551615"),
   ("VAULT_LIFECYCLE_SESSION_SELF_LOOKUP", " oFF\n"),
   ("VAULT_LIFECYCLE_LEASE_STRATEGY", "Retain_On_Transient_Error"),
   ("VAULT_LIFECYCLE_JSON_LOGGING", "0"),
   ("VAULT_LIFECYCLE_SERVICE_NAME", " keeper "),
   ("VAULT_LIFECYCLE_SERVICE", "unread")]

/-- A configuration that is read from unusual spellings. -/
theorem Config.ofEnvironment_tuned :
    Config.tuned.Told Environment.tuned ∧ Config.ofEnvironment Environment.tuned = .ok Config.tuned := by
  have h : Config.tuned.Told Environment.tuned :=
    { session :=
        { lead := ⟨['0', '6', '0'], ⟨1, .inl rfl⟩, ['\t'], [' '], rfl, rfl, rfl⟩
          threshold := ⟨_, rfl, _, ⟨0, .inr rfl⟩, [], [], rfl, rfl, rfl⟩
          selfLookup := ⟨['o', 'F', 'F'], by decide, [' '], ['\n'], rfl, rfl, rfl⟩
          timeout := rfl
          jitter := rfl }
      lease :=
        { lead := rfl
          threshold := rfl
          strategy := ⟨_, by decide, Text.padded_self _⟩
          jitter := rfl
          increment := rfl }
      observability :=
        { metrics := rfl
          json := ⟨_, by decide, Text.padded_self _⟩
          name := rfl
          level := rfl } }
  exact ⟨h, (Config.ofEnvironment_eq_validate Config.tuned).2 Environment.tuned h⟩

end LeaseKeeper
