import Concord.Json.Shape

/-!
# Settings

The settings say where the server and the mirror are reached, how long to wait for
them, how often to probe for agreement, and with what a session is opened.  Each of
them has a standard value, so settings may be written down in part.
-/

namespace Concord

open Json

/-- The settings of a run. -/
structure Settings where
  /-- The address of the server. -/
  rpcUrl : String
  /-- The address of the mirror. -/
  mirrorUrl : String
  /-- The seconds that a call may take. -/
  requestTimeout : UInt64
  /-- The seconds that a connection to the server may take. -/
  connectionTimeout : UInt64
  /-- The seconds that a request to the mirror may take. -/
  mirrorTimeout : UInt64
  /-- The number of probes for agreement. -/
  attempts : UInt32
  /-- The milliseconds between two probes. -/
  interval : UInt64
  /-- The account that pays. -/
  operatorAccount : Option String
  /-- Its private key. -/
  operatorKey : Option String
  /-- The address of a node of the network. -/
  nodeIp : Option String
  nodeAccount : Option String
  /-- The address of the mirror of the network. -/
  mirrorIp : Option String
  deriving Repr, DecidableEq

namespace Settings

/-- The settings where nothing else is said: a server and a mirror nearby, and no
account. -/
def standard : Settings where
  rpcUrl := "http://localhost:8544"
  mirrorUrl := "http://127.0.0.1:5551"
  requestTimeout := 30
  connectionTimeout := 10
  mirrorTimeout := 10
  attempts := 10
  interval := 1000
  operatorAccount := none
  operatorKey := none
  nodeIp := none
  nodeAccount := none
  mirrorIp := none

/-! ## Fields -/

/-- The field of the address of the server. -/
def rpcUrlField : RecordField String := ⟨"rpc_url", readString, .allowed standard.rpcUrl⟩

/-- The field of the address of the mirror. -/
def mirrorUrlField : RecordField String := ⟨"mirror_url", readString, .allowed standard.mirrorUrl⟩

/-- The field of the seconds that a call may take. -/
def requestTimeoutField : RecordField UInt64 :=
  ⟨"request_timeout_secs", readNat64, .allowed standard.requestTimeout⟩

/-- The field of the seconds that a connection may take. -/
def connectionTimeoutField : RecordField UInt64 :=
  ⟨"connection_timeout_secs", readNat64, .allowed standard.connectionTimeout⟩

/-- The field of the seconds that a request to the mirror may take. -/
def mirrorTimeoutField : RecordField UInt64 :=
  ⟨"mirror_timeout_secs", readNat64, .allowed standard.mirrorTimeout⟩

/-- The field of the number of probes. -/
def attemptsField : RecordField UInt32 :=
  ⟨"consistency_attempts", readNat32, .allowed standard.attempts⟩

/-- The field of the milliseconds between two probes. -/
def intervalField : RecordField UInt64 :=
  ⟨"consistency_interval_ms", readNat64, .allowed standard.interval⟩

/-- The field of the account that pays. -/
def operatorAccountField : RecordField (Option String) :=
  ⟨"operator_account_id", readOption readString, .allowed none⟩

/-- The field of its private key. -/
def operatorKeyField : RecordField (Option String) :=
  ⟨"operator_private_key", readOption readString, .allowed none⟩

/-- The field of the address of a node. -/
def nodeIpField : RecordField (Option String) := ⟨"node_ip", readOption readString, .allowed none⟩

def nodeAccountField : RecordField (Option String) :=
  ⟨"node_account_id", readOption readString, .allowed none⟩

/-- The field of the address of the mirror of the network. -/
def mirrorIpField : RecordField (Option String) :=
  ⟨"mirror_network_ip", readOption readString, .allowed none⟩

/-! ## Values -/

/-- Reads settings. -/
def ofJson : Shape Settings :=
  readRecord "TckConfig" excessInArray
    [rpcUrlField.toCheck, mirrorUrlField.toCheck, requestTimeoutField.toCheck,
      connectionTimeoutField.toCheck, mirrorTimeoutField.toCheck, attemptsField.toCheck,
      intervalField.toCheck, operatorAccountField.toCheck, operatorKeyField.toCheck,
      nodeIpField.toCheck, nodeAccountField.toCheck, mirrorIpField.toCheck]
    fun s => do
      let rpcUrl ← rpcUrlField.get "TckConfig" 12 0 s
      let mirrorUrl ← mirrorUrlField.get "TckConfig" 12 1 s
      let requestTimeout ← requestTimeoutField.get "TckConfig" 12 2 s
      let connectionTimeout ← connectionTimeoutField.get "TckConfig" 12 3 s
      let mirrorTimeout ← mirrorTimeoutField.get "TckConfig" 12 4 s
      let attempts ← attemptsField.get "TckConfig" 12 5 s
      let interval ← intervalField.get "TckConfig" 12 6 s
      let operatorAccount ← operatorAccountField.get "TckConfig" 12 7 s
      let operatorKey ← operatorKeyField.get "TckConfig" 12 8 s
      let nodeIp ← nodeIpField.get "TckConfig" 12 9 s
      let nodeAccount ← nodeAccountField.get "TckConfig" 12 10 s
      let mirrorIp ← mirrorIpField.get "TckConfig" 12 11 s
      return { rpcUrl, mirrorUrl, requestTimeout, connectionTimeout, mirrorTimeout, attempts,
               interval, operatorAccount, operatorKey, nodeIp, nodeAccount, mirrorIp }

/-- Writes settings, all of them. -/
def toJson (s : Settings) : Json :=
  .object [("rpc_url", .str s.rpcUrl), ("mirror_url", .str s.mirrorUrl),
    ("request_timeout_secs", .nat64 s.requestTimeout),
    ("connection_timeout_secs", .nat64 s.connectionTimeout),
    ("mirror_timeout_secs", .nat64 s.mirrorTimeout),
    ("consistency_attempts", .int s.attempts.toNat),
    ("consistency_interval_ms", .nat64 s.interval),
    ("operator_account_id", .ofText? s.operatorAccount),
    ("operator_private_key", .ofText? s.operatorKey), ("node_ip", .ofText? s.nodeIp),
    ("node_account_id", .ofText? s.nodeAccount), ("mirror_network_ip", .ofText? s.mirrorIp)]

end Settings

end Concord
