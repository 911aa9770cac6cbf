import Concord.Act
import Concord.Settings
import Concord.Url.Address

/-!
# Valid settings

Settings are valid when both addresses can be read, every number lies in its range,
and the account that pays comes with its key.  `Settings.violations` lists what is
wrong with settings, in that order, and the first violation is the error.

A connection that may take longer than the call it is for is no violation; the
journal has a remark about it.
-/

namespace Concord

open Text

/-- What is wrong with settings. -/
inductive SettingsError where
  /-- A text is not an address. -/
  | invalidUrl (field value : String)
  /-- A number lies outside its range. -/
  | outOfRange (field : String) (value low high : Nat)
  /-- There is an account without a key, or a key without an account. -/
  | incompleteOperator
  deriving Repr, DecidableEq

/-- The wording of each error. -/
def SettingsError.message : SettingsError → String
  | .invalidUrl field value => "Invalid " ++ field ++ ": '" ++ value ++ "'"
  | .outOfRange field value low high =>
    field ++ " must be between " ++ decimal low ++ " and " ++ decimal high ++ ", got " ++
      decimal value
  | .incompleteOperator => "operator_account_id and operator_private_key must be set together"

namespace Settings

/-! ## Ranges -/

/-- The shortest timeout, in seconds. -/
def minTimeout : Nat := 1

/-- The longest timeout, in seconds. -/
def maxTimeout : Nat := 300

/-- The least number of probes. -/
def minAttempts : Nat := 1

/-- The greatest number of probes. -/
def maxAttempts : Nat := 120

/-- The shortest time between two probes, in milliseconds. -/
def minInterval : Nat := 10

/-- The longest time between two probes, in milliseconds. -/
def maxInterval : Nat := 60000

/-! ## Violations -/

/-- The violation of a text that is not an address with a host. -/
def urlViolation (field value : String) : List SettingsError :=
  match Url.Address.read (Url.completed value) with
  | .ok a => if a.host?.isSome then [] else [.invalidUrl field value]
  | .error _ => [.invalidUrl field value]

/-- The violation of a number outside a range. -/
def rangeViolation (field : String) (value low high : Nat) : List SettingsError :=
  if low ≤ value ∧ value ≤ high then [] else [.outOfRange field value low high]

/-- The violation of an account without a key, or a key without an account. -/
def operatorViolation (s : Settings) : List SettingsError :=
  if s.operatorAccount.isSome = s.operatorKey.isSome then [] else [.incompleteOperator]

/-- All that is wrong with settings. -/
def violations (s : Settings) : List SettingsError :=
  urlViolation rpcUrlField.name s.rpcUrl ++
  urlViolation mirrorUrlField.name s.mirrorUrl ++
  rangeViolation requestTimeoutField.name s.requestTimeout.toNat minTimeout maxTimeout ++
  rangeViolation connectionTimeoutField.name s.connectionTimeout.toNat minTimeout maxTimeout ++
  rangeViolation mirrorTimeoutField.name s.mirrorTimeout.toNat minTimeout maxTimeout ++
  rangeViolation attemptsField.name s.attempts.toNat minAttempts maxAttempts ++
  rangeViolation intervalField.name s.interval.toNat minInterval maxInterval ++
  s.operatorViolation

/-- Whether settings are valid, or the first that is wrong with them. -/
def validate (s : Settings) : Except SettingsError Unit :=
  match s.violations with
  | [] => .ok ()
  | e :: _ => .error e

theorem validate_eq_ok_iff {s : Settings} : s.validate = .ok () ↔ s.violations = [] := by
  unfold validate
  split <;> simp_all

theorem validate_eq_error_iff {s : Settings} {e : SettingsError} :
    s.validate = .error e ↔ s.violations.head? = some e := by
  unfold validate
  split <;> simp_all

/-! ## Remarks -/

/-- What the journal says of a connection that may take longer than its call. -/
def slowConnectionRecord (s : Settings) : Record :=
  ⟨.warn, connectionTimeoutField.name ++ " (" ++ decimal s.connectionTimeout.toNat ++
    ") exceeds " ++ requestTimeoutField.name ++ " (" ++ decimal s.requestTimeout.toNat ++ ")"⟩

/-- What the journal says of valid settings. -/
def remarks (s : Settings) : List Record :=
  if s.requestTimeout < s.connectionTimeout then [s.slowConnectionRecord] else []

/-- Ends in an error unless settings are valid, and makes remarks if they are. -/
def check {σ : Type} (s : Settings) : Act σ SettingsError Unit := do
  Act.ofExcept s.validate
  Act.noteAll s.remarks

end Settings

end Concord
