import Concord.Proofs.Url.Address
import Concord.Settings.Parts
import Mathlib.Data.List.Forall2

/-!
# Valid settings set everything up

Each setting has a rule of its own (`rules`): both addresses name a host, the numbers lie in
their ranges, and the account comes with its key.  Settings are valid when all rules are kept,
and otherwise the error is that of the first rule which is not (`FirstBroken`).

Valid settings leave no part to fail (`SetsUp`).  There is a probe, and the waits between probes
add up to a duration; the server and the mirror read their addresses; and a session is opened with
what the settings say.

The check, the server and the mirror complete and read addresses each for itself, and the check
asks for a host as well.  They stay in step, since an address that is read has a host
(`addresses_in_step`).
-/

namespace Concord.Settings

open Text Url

variable {s : Settings} {e : SettingsError}

/-! ## Rules -/

/-- A text, completed by a scheme if it has none, is an address with a host. -/
def NamesHost (text : String) : Prop :=
  ∃ a, Address.read (completed text) = .ok a ∧ a.host.Present

/-- What settings have to keep, each with the error of settings that do not, in the order in
which they are checked. -/
def rules (s : Settings) : List (Prop × SettingsError) :=
  [(NamesHost s.rpcUrl, .invalidUrl "rpc_url" s.rpcUrl),
    (NamesHost s.mirrorUrl, .invalidUrl "mirror_url" s.mirrorUrl),
    (1 ≤ s.requestTimeout.toNat ∧ s.requestTimeout.toNat ≤ 300,
      .outOfRange "request_timeout_secs" s.requestTimeout.toNat 1 300),
    (1 ≤ s.connectionTimeout.toNat ∧ s.connectionTimeout.toNat ≤ 300,
      .outOfRange "connection_timeout_secs" s.connectionTimeout.toNat 1 300),
    (1 ≤ s.mirrorTimeout.toNat ∧ s.mirrorTimeout.toNat ≤ 300,
      .outOfRange "mirror_timeout_secs" s.mirrorTimeout.toNat 1 300),
    (1 ≤ s.attempts.toNat ∧ s.attempts.toNat ≤ 120,
      .outOfRange "consistency_attempts" s.attempts.toNat 1 120),
    (10 ≤ s.interval.toNat ∧ s.interval.toNat ≤ 60000,
      .outOfRange "consistency_interval_ms" s.interval.toNat 10 60000),
    (s.operatorAccount.isSome ↔ s.operatorKey.isSome, .incompleteOperator)]

/-- The first rule that is not kept has an error. -/
inductive FirstBroken : List (Prop × SettingsError) → SettingsError → Prop where
  | here {rule rest} (h : ¬ rule.1) : FirstBroken (rule :: rest) rule.2
  | behind {rule rest e} (h : rule.1) (hrest : FirstBroken rest e) : FirstBroken (rule :: rest) e

/-! ## Violations -/

/-- A text is no violation exactly if its address can be read, since such an address has a
host. -/
theorem urlViolation_eq_nil_iff (field text : String) :
    urlViolation field text = [] ↔ ∃ a, Address.read (completed text) = .ok a := by
  unfold urlViolation
  cases hread : Address.read (completed text) with
  | ok a => simp [Address.isSome_host?_iff.2 (Address.host_present_of_read hread)]
  | error e => simp

/-- Violations are those of one rule: none if it is kept, and its error if it is not. -/
def Judges (rule : Prop × SettingsError) (violations : List SettingsError) : Prop :=
  rule.1 ∧ violations = [] ∨ ¬ rule.1 ∧ violations = [rule.2]

theorem judges_urlViolation (field text : String) :
    Judges (NamesHost text, .invalidUrl field text) (urlViolation field text) := by
  unfold Judges NamesHost urlViolation
  cases hread : Address.read (completed text) with
  | ok a =>
      have hhost := Address.host_present_of_read hread
      exact .inl ⟨⟨a, rfl, hhost⟩, if_pos (Address.isSome_host?_iff.2 hhost)⟩
  | error e =>
      refine .inr ⟨?_, rfl⟩
      rintro ⟨a, ha, -⟩
      cases ha

theorem judges_rangeViolation (field : String) (value low high : Nat) :
    Judges (low ≤ value ∧ value ≤ high, .outOfRange field value low high)
      (rangeViolation field value low high) := by
  rw [Judges, rangeViolation]
  by_cases h : low ≤ value ∧ value ≤ high
  · exact .inl ⟨h, if_pos h⟩
  · exact .inr ⟨h, if_neg h⟩

theorem judges_operatorViolation (s : Settings) :
    Judges (s.operatorAccount.isSome ↔ s.operatorKey.isSome, .incompleteOperator)
      s.operatorViolation := by
  rw [Judges, operatorViolation]
  by_cases h : s.operatorAccount.isSome = s.operatorKey.isSome
  · exact .inl ⟨Bool.eq_iff_iff.1 h, if_pos h⟩
  · exact .inr ⟨fun hiff => h (Bool.eq_iff_iff.2 hiff), if_neg h⟩

/-- The violations of settings are those of their rules, one after the other. -/
theorem exists_judges (s : Settings) :
    ∃ parts, List.Forall₂ Judges s.rules parts ∧ s.violations = parts.flatten := by
  refine ⟨[urlViolation rpcUrlField.name s.rpcUrl, urlViolation mirrorUrlField.name s.mirrorUrl,
    rangeViolation requestTimeoutField.name s.requestTimeout.toNat minTimeout maxTimeout,
    rangeViolation connectionTimeoutField.name s.connectionTimeout.toNat minTimeout maxTimeout,
    rangeViolation mirrorTimeoutField.name s.mirrorTimeout.toNat minTimeout maxTimeout,
    rangeViolation attemptsField.name s.attempts.toNat minAttempts maxAttempts,
    rangeViolation intervalField.name s.interval.toNat minInterval maxInterval,
    s.operatorViolation], ?_, ?_⟩
  · exact .cons (judges_urlViolation _ _) (.cons (judges_urlViolation _ _)
      (.cons (judges_rangeViolation _ _ _ _) (.cons (judges_rangeViolation _ _ _ _)
        (.cons (judges_rangeViolation _ _ _ _) (.cons (judges_rangeViolation _ _ _ _)
          (.cons (judges_rangeViolation _ _ _ _) (.cons (judges_operatorViolation s) .nil)))))))
  · simp only [violations, List.flatten_cons, List.flatten_nil, List.append_nil,
      List.append_assoc]

theorem flatten_eq_nil_iff_of_judges {rules : List (Prop × SettingsError)}
    {parts : List (List SettingsError)} (h : List.Forall₂ Judges rules parts) :
    parts.flatten = [] ↔ ∀ r ∈ rules, r.1 := by
  induction h with
  | nil => simp
  | cons hfirst _ ih =>
      rw [List.flatten_cons, List.append_eq_nil_iff, ih, List.forall_mem_cons]
      rcases hfirst with ⟨hkept, rfl⟩ | ⟨hbroken, rfl⟩
      · simp [hkept]
      · simp [hbroken]

theorem head?_flatten_iff_of_judges {rules : List (Prop × SettingsError)}
    {parts : List (List SettingsError)} (h : List.Forall₂ Judges rules parts) :
    parts.flatten.head? = some e ↔ FirstBroken rules e := by
  induction h with
  | nil =>
      constructor
      · intro h
        cases h
      · intro h
        cases h
  | cons hfirst _ ih =>
      rcases hfirst with ⟨hkept, rfl⟩ | ⟨hbroken, rfl⟩
      · rw [List.flatten_cons, List.nil_append, ih]
        constructor
        · exact .behind hkept
        · intro h
          cases h with
          | here h => exact absurd hkept h
          | behind _ h => exact h
      · rw [List.flatten_cons, List.singleton_append, List.head?_cons, Option.some.injEq]
        constructor
        · rintro rfl
          exact .here hbroken
        · intro h
          cases h with
          | here => rfl
          | behind h => exact absurd h hbroken

theorem validate_eq_ok_iff_rules : s.validate = .ok () ↔ ∀ r ∈ s.rules, r.1 := by
  obtain ⟨parts, hparts, hviolations⟩ := s.exists_judges
  rw [validate_eq_ok_iff, hviolations, flatten_eq_nil_iff_of_judges hparts]

theorem validate_eq_error_iff_firstBroken : s.validate = .error e ↔ FirstBroken s.rules e := by
  obtain ⟨parts, hparts, hviolations⟩ := s.exists_judges
  rw [validate_eq_error_iff, hviolations, head?_flatten_iff_of_judges hparts]

/-! ## What valid settings set up -/

/-- Settings set up all parts of a run, as they say. -/
structure SetsUp (s : Settings) : Prop where
  /-- There is a budget, and its waits add up to a duration. -/
  budget : ∃ b w, s.budget = .ok b ∧ b.attempts = s.attempts.toNat ∧
    b.interval = .ofMillis s.interval ∧ b.totalWait? = some w ∧
    w.nanos = s.interval.toNat * 1000000 * (s.attempts.toNat - 1)
  server : ∃ a, Address.read (completed s.rpcUrl) = .ok a ∧ s.server = .ok ⟨a, s.callTimeout⟩
  mirror : ∃ a, Address.read (completed s.mirrorUrl) = .ok a ∧ s.mirror = .ok ⟨a.asFolder⟩
  /-- A session is opened if there is anything of an account. -/
  isSome_setupParams : s.setupParams.isSome ↔ s.operatorAccount.isSome ∨ s.operatorKey.isSome
  setupParams_eq : ∀ p, s.setupParams = some p →
    s.operatorAccount = some p.operatorAccount ∧ s.operatorKey = some p.operatorKey ∧
    s.nodeIp = p.nodeIp ∧ s.nodeAccount = p.nodeAccount ∧ s.mirrorIp = p.mirrorIp

theorem exists_budget (hattempts : 1 ≤ s.attempts.toNat ∧ s.attempts.toNat ≤ 120)
    (hinterval : s.interval.toNat ≤ 60000) :
    ∃ b w, s.budget = .ok b ∧ b.attempts = s.attempts.toNat ∧ b.interval = .ofMillis s.interval ∧
      b.totalWait? = some w ∧
      w.nanos = s.interval.toNat * 1000000 * (s.attempts.toNat - 1) := by
  have hnew : Budget.new? s.attempts.toNat (.ofMillis s.interval)
      = some ⟨s.attempts.toNat, .ofMillis s.interval, hattempts.1⟩ := dif_pos hattempts.1
  have hfits : s.interval.toNat * 1000000 * (s.attempts.toNat - 1) < Duration.limit :=
    calc s.interval.toNat * 1000000 * (s.attempts.toNat - 1)
      _ ≤ 60000 * 1000000 * 119 :=
        Nat.mul_le_mul (Nat.mul_le_mul_right _ hinterval) (by omega)
      _ < Duration.limit := by decide
  refine ⟨⟨s.attempts.toNat, .ofMillis s.interval, hattempts.1⟩, ⟨_, hfits⟩, ?_, rfl, rfl,
    Duration.ofNanos?_eq_some_iff.2 rfl, rfl⟩
  rw [Settings.budget, hnew]

theorem exists_server (h : NamesHost s.rpcUrl) :
    ∃ a, Address.read (completed s.rpcUrl) = .ok a ∧ s.server = .ok ⟨a, s.callTimeout⟩ := by
  obtain ⟨a, ha, -⟩ := h
  refine ⟨a, ha, ?_⟩
  rw [server, Rpc.HttpTarget.ofText_eq_ok_iff.2 ⟨a, ha, rfl⟩]
  rfl

theorem exists_mirror (h : NamesHost s.mirrorUrl) :
    ∃ a, Address.read (completed s.mirrorUrl) = .ok a ∧ s.mirror = .ok ⟨a.asFolder⟩ := by
  obtain ⟨a, ha, -⟩ := h
  exact ⟨a, ha, RestMirror.ofText_eq_ok_iff.2 ⟨a, ha, rfl⟩⟩

/-- The check, the server and the mirror take the same texts for addresses, and what all of them
read is the text with the first scheme in front of it, unless it starts with one of the two. -/
theorem addresses_in_step (field text : String) (timeout : Duration) :
    (urlViolation field text = [] ↔ ∃ h, Rpc.HttpTarget.ofText text timeout = .ok h) ∧
      (urlViolation field text = [] ↔ ∃ m, RestMirror.ofText text = .ok m) ∧
      completed text = if "http://".toList <+: text.toList ∨ "https://".toList <+: text.toList
        then text else "http://" ++ text := by
  rw [urlViolation_eq_nil_iff]
  refine ⟨?_, ?_, completed_eq text⟩
  · constructor
    · rintro ⟨a, ha⟩
      exact ⟨_, Rpc.HttpTarget.ofText_eq_ok_iff.2 ⟨a, ha, rfl⟩⟩
    · rintro ⟨h, hh⟩
      obtain ⟨a, ha, -⟩ := Rpc.HttpTarget.ofText_eq_ok_iff.1 hh
      exact ⟨a, ha⟩
  · constructor
    · rintro ⟨a, ha⟩
      exact ⟨_, RestMirror.ofText_eq_ok_iff.2 ⟨a, ha, rfl⟩⟩
    · rintro ⟨m, hm⟩
      obtain ⟨a, ha, -⟩ := RestMirror.ofText_eq_ok_iff.1 hm
      exact ⟨a, ha⟩

theorem isSome_setupParams_iff (h : s.operatorAccount.isSome ↔ s.operatorKey.isSome) :
    s.setupParams.isSome ↔ s.operatorAccount.isSome ∨ s.operatorKey.isSome := by
  rw [setupParams]
  cases haccount : s.operatorAccount with
  | none =>
      rw [haccount] at h
      simpa using h
  | some account =>
      cases hkey : s.operatorKey with
      | none =>
          rw [haccount, hkey] at h
          simp at h
      | some key => simp

theorem eq_of_setupParams {p : Rpc.SetupParams} (h : s.setupParams = some p) :
    s.operatorAccount = some p.operatorAccount ∧ s.operatorKey = some p.operatorKey ∧
      s.nodeIp = p.nodeIp ∧ s.nodeAccount = p.nodeAccount ∧ s.mirrorIp = p.mirrorIp := by
  unfold setupParams at h
  split at h
  case h_1 haccount hkey =>
      cases h
      exact ⟨haccount, hkey, rfl, rfl, rfl⟩
  case h_2 => cases h

theorem setsUp_of_rules (h : ∀ r ∈ s.rules, r.1) : s.SetsUp := by
  simp only [rules, List.forall_mem_cons, List.not_mem_nil, false_imp_iff, implies_true,
    and_true] at h
  obtain ⟨hrpc, hmirror, -, -, -, hattempts, hinterval, hoperator⟩ := h
  exact ⟨exists_budget hattempts hinterval.2, exists_server hrpc, exists_mirror hmirror,
    isSome_setupParams_iff hoperator, fun p => eq_of_setupParams⟩

/-- Settings are valid exactly if they keep all rules, and then they set everything up; otherwise
the error is that of the first rule that is broken.  The texts that pass for addresses are those
that the server and the mirror can read. -/
theorem validate_decides (s : Settings) :
    (s.validate = .ok () ↔ ∀ r ∈ s.rules, r.1) ∧ (s.validate = .ok () → s.SetsUp) ∧
      (∀ e, s.validate = .error e ↔ FirstBroken s.rules e) ∧
      ∀ field text timeout,
        (urlViolation field text = [] ↔ ∃ h, Rpc.HttpTarget.ofText text timeout = .ok h) ∧
        (urlViolation field text = [] ↔ ∃ m, RestMirror.ofText text = .ok m) ∧
        completed text = if "http://".toList <+: text.toList ∨ "https://".toList <+: text.toList
          then text else "http://" ++ text :=
  ⟨validate_eq_ok_iff_rules, fun h => setsUp_of_rules (validate_eq_ok_iff_rules.1 h),
    fun _ => validate_eq_error_iff_firstBroken, addresses_in_step⟩

/-- The longest checks at addresses without a scheme, for an account with its key. -/
def demanding : Settings :=
  { standard with
    rpcUrl := "localhost:8544"
    mirrorUrl := "127.0.0.1:5551/mirror"
    attempts := 120
    interval := 60000
    operatorAccount := some "0.0.2"
    operatorKey := some "302e" }

theorem validate_decides_demanding : demanding.SetsUp ∧ demanding.setupParams.isSome := by
  have hvalid : demanding.validate = .ok () := by decide +kernel
  have hsetsUp := (validate_decides demanding).2.1 hvalid
  exact ⟨hsetsUp, hsetsUp.isSome_setupParams.2 (.inl rfl)⟩

end Concord.Settings
