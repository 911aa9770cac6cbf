import Concord.Settings.Validity
import Concord.Text.Blank
import Concord.Yaml.Document

/-!
# Written settings

Settings are written in YAML, as a mapping from the names of fields.  A field that is
absent has its standard value, a name that is no field's is not looked at, and no
field may be there twice.  A blank text stands for the standard settings.

Settings that are read are valid.  A file of settings fails in three ways: it cannot
be read at all, it is malformed, or it holds settings that are not valid.
-/

namespace Concord

open Text
open Yaml (Document)

/-- Why a text does not give settings. -/
inductive WrittenSettingsError where
  /-- The text is not YAML, or does not have the shape of settings. -/
  | malformed
  /-- The settings are not valid. -/
  | invalid (error : SettingsError)
  deriving Repr, DecidableEq

/-- The wording of each error. -/
def WrittenSettingsError.message : WrittenSettingsError → String
  | .malformed => "Failed to parse configuration"
  | .invalid error => error.message

/-- Why a file does not give settings. -/
inductive SettingsFileError where
  /-- The file cannot be read. -/
  | unreadable (path : String)
  /-- The text of the file does not give settings. -/
  | unusable (path : String) (error : WrittenSettingsError)
  deriving Repr, DecidableEq

/-- The wording of each error. -/
def SettingsFileError.message : SettingsFileError → String
  | .unreadable path => "Failed to read config file: " ++ path
  | .unusable path _ => "Failed to load config file: " ++ path

namespace Settings

/-! ## Members -/

/-- The value of a field among the members of a document. -/
def member? {α : Type} (members : List (String × Yaml.Node)) (f : Json.RecordField α)
    (absent : α) (read : Yaml.Node → Option α) : Option α :=
  match (members.filter fun m => m.1 = f.name).map Prod.snd with
  | [] => some absent
  | [n] => read n
  | _ => none

/-- The settings of a document, if it has their shape. -/
def ofDocument? (d : Document) : Option Settings := do
  let ms ← d.members?
  let number64 (n : Yaml.Node) := (d.natural? maxUnsigned64 n).map UInt64.ofNat
  let number32 (n : Yaml.Node) := (d.natural? maxUnsigned32 n).map UInt32.ofNat
  let rpcUrl ← member? ms rpcUrlField standard.rpcUrl d.text?
  let mirrorUrl ← member? ms mirrorUrlField standard.mirrorUrl d.text?
  let requestTimeout ← member? ms requestTimeoutField standard.requestTimeout number64
  let connectionTimeout ← member? ms connectionTimeoutField standard.connectionTimeout number64
  let mirrorTimeout ← member? ms mirrorTimeoutField standard.mirrorTimeout number64
  let attempts ← member? ms attemptsField standard.attempts number32
  let interval ← member? ms intervalField standard.interval number64
  let operatorAccount ← member? ms operatorAccountField none d.optionalText?
  let operatorKey ← member? ms operatorKeyField none d.optionalText?
  let nodeIp ← member? ms nodeIpField none d.optionalText?
  let nodeAccount ← member? ms nodeAccountField none d.optionalText?
  let mirrorIp ← member? ms mirrorIpField none d.optionalText?
  return { rpcUrl, mirrorUrl, requestTimeout, connectionTimeout, mirrorTimeout, attempts,
           interval, operatorAccount, operatorKey, nodeIp, nodeAccount, mirrorIp }

/-- The settings of a text, valid or not. -/
def parse? (text : String) : Option Settings :=
  if trimBlanks text.toList = [] then some standard
  else (Document.ofText? text.toList).bind ofDocument?

/-! ## Texts and files -/

/-- Reads settings from a text. -/
def ofYaml {σ : Type} (text : String) : Act σ WrittenSettingsError Settings :=
  match parse? text with
  | none => Act.ofExcept (.error .malformed)
  | some s => do
    Act.mapError .invalid s.check
    return s

/-- What the journal says of a file that gave settings. -/
def loadedText (path : String) : String := "Loaded configuration from " ++ path

/-- Reads settings from a file with a text, or with none if it cannot be read. -/
def ofFile {σ : Type} (path : String) (text : Option String) : Act σ SettingsFileError Settings :=
  match text with
  | none => Act.ofExcept (.error (.unreadable path))
  | some text => do
    let s ← Act.mapError (.unusable path) (ofYaml text)
    Act.note .info (loadedText path)
    return s

end Settings

end Concord
