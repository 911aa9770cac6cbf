import Concord.Poll.Budget
import Concord.Rpc.Http
import Concord.Rpc.Setup
import Concord.Settings.Validity
import Concord.Source.Rest

/-!
# What settings set up

Settings determine the server that takes calls, the mirror, the budget of a check and
what a session is opened with.  Each can fail for settings that are not valid; the
validity of settings reads addresses the way the parts do.
-/

namespace Concord.Settings

/-- How long a call may take. -/
def callTimeout (s : Settings) : Duration := .ofSeconds s.requestTimeout

/-- How long a connection to the server may take. -/
def connectTimeout (s : Settings) : Duration := .ofSeconds s.connectionTimeout

/-- The budget of a check, which has at least one probe. -/
def budget (s : Settings) : Except SettingsError Budget :=
  match Budget.new? s.attempts.toNat (.ofMillis s.interval) with
  | some b => .ok b
  | none => .error (.outOfRange attemptsField.name s.attempts.toNat minAttempts maxAttempts)

/-- The server that takes calls. -/
def server (s : Settings) : Except Failure Rpc.HttpTarget :=
  (Rpc.HttpTarget.ofText s.rpcUrl s.callTimeout).mapError fun e =>
    .within ("Failed to create RPC client for " ++ s.rpcUrl) (.call e)

def mirror (s : Settings) : Except Url.UrlError RestMirror := RestMirror.ofText s.mirrorUrl

/-- What a session is opened with, if there is an account with a key. -/
def setupParams (s : Settings) : Option Rpc.SetupParams :=
  match s.operatorAccount, s.operatorKey with
  | some account, some key => some ⟨account, key, s.nodeIp, s.nodeAccount, s.mirrorIp⟩
  | _, _ => none

end Concord.Settings
