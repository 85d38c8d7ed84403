import Keyspace.Accessor
import Keyspace.Number.Reading

/-!
# Settings

Settings are texts in the environment. A setting that is absent has a default; some settings take
an empty or blank text for absent.
-/

namespace Keyspace

/-- The environment: names with their texts. -/
abbrev Environment := List (String × String)

namespace Settings

/-- The text of a setting. -/
def text? (environment : Environment) (name : String) : Option String :=
  Pairs.find? name environment

/-- The text of a setting that is neither absent nor empty. -/
def nonempty? (environment : Environment) (name : String) : Option String :=
  (text? environment name).filter (· ≠ "")

/-- The base URL of the default accessor. -/
def serverUrl (environment : Environment) : String :=
  ((nonempty? environment "EtcdSettings__Url").or (nonempty? environment "etcd.url")).getD
    Accessor.standardUrl

/-- The name of the setting with the timeout in seconds. -/
def timeoutName : String := "EtcdSettings__TimeoutSeconds"

/-- Read a text as a timeout in seconds. -/
def readSeconds (text : String) : Except Failure Binary64 :=
  match Number.readReal? text with
  | none => .error (.invalidConfiguration
      (timeoutName ++ " is not a number: " ++ Text.quoted text)
      (some ⟨.value, "could not convert string to float: " ++ Text.quoted text⟩))
  | some value =>
    if value.isNonpositive then
      .error (.invalidConfiguration (timeoutName ++ " must be positive, got " ++ value.text))
    else .ok value

/-- The timeout of the default accessor in seconds; a blank text counts as absent. -/
def timeoutSeconds (environment : Environment) : Except Failure Binary64 :=
  match text? environment timeoutName with
  | none => .ok Timeout.standardSeconds
  | some text => if text.toList.all Text.isBlank then .ok Timeout.standardSeconds else readSeconds text

/-- The directory of the default property source. -/
def rootKey (environment : Environment) : Option String :=
  ((text? environment "EtcdSettings__RootKey").map Text.trim).filter (· ≠ "")

/-- The name of the application. -/
def applicationName (environment : Environment) : String :=
  (text? environment "APPLICATION_NAME").getD "EtcdConfigBridge"

/-- The environment that the application runs in. -/
def environmentName (environment : Environment) : String :=
  (text? environment "ENVIRONMENT").getD "development"

/-- The version of the application. -/
def applicationVersion (environment : Environment) : String :=
  (text? environment "APPLICATION_VERSION").getD "0.0.1"

/-- The default accessor. -/
def defaultAccessor (environment : Environment) : Except Failure Accessor := do
  let seconds ← timeoutSeconds environment
  Accessor.create (.text (serverUrl environment)) (some (.value (.real seconds)))

end Settings

end Keyspace
