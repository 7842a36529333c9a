import PanelForms.Backend.Client
import PanelForms.Backend.Retry
import PanelForms.Text.Blank

/-!
# Client settings

A client is set up from named variables.  A variable that is absent, or whose number cannot be
read, leaves its default.

Main definitions:

- `ClientSettings.ofVariables`: the settings of some variables.
- `ClientSettings.fault?`: what keeps a client from being set up.
- `Client.ofSettings`: the client of some settings.
-/

namespace PanelForms

/-- Why a client cannot be set up. -/
inductive SettingsError where
  | baseUrl (url : String)
  | appName (name : String)
  deriving DecidableEq

namespace SettingsError

/-- What is reported. -/
def message : SettingsError → String
  | .baseUrl url => "base URL " ++ Text.quoted url ++ " is not an http(s) URL"
  | .appName name => "invalid application name " ++ Text.quoted name

end SettingsError

/-- How a client is set up; durations are in milliseconds. -/
structure ClientSettings where
  baseUrl : String
  appName : String
  pollInterval : Nat
  requestTimeout : Nat
  retry : RetryPolicy
  deriving DecidableEq

/-- The number that a whole text denotes, if it is below a bound: blanks around it, perhaps a plus
sign, and digits. -/
def readBounded? (bound : Nat) (text : String) : Option Nat :=
  let cs := Text.trimChars text.toList
  let body :=
    match cs with
    | '+' :: rest => rest
    | other => other
  if body.isEmpty || !body.all Number.isDigit then none
  else
    let n := Number.digitsValue 0 body
    if n < bound then some n else none

namespace ClientSettings

/-- The settings without any variable. -/
def standard : ClientSettings :=
  ⟨"http://localhost:8000", "myapp", 500, 30000, .standard⟩

/-- The settings of some variables.  Durations are whole milliseconds of 64 bits, and attempts a
positive number of 32 bits. -/
def ofVariables (lookup : String → Option String) : ClientSettings :=
  let millis (name : String) (absent : Nat) : Nat :=
    ((lookup name).bind (readBounded? 18446744073709551616)).getD absent
  let attempts :=
    ((lookup "SIMFORM_RETRY_MAX_ATTEMPTS").bind (readBounded? 4294967296)).filter (0 < ·)
  { baseUrl := (lookup "SIMFORM_BASE_URL").getD standard.baseUrl
    appName := (lookup "SIMFORM_APP_NAME").getD standard.appName
    pollInterval := millis "SIMFORM_POLL_INTERVAL_MS" standard.pollInterval
    requestTimeout := millis "SIMFORM_REQUEST_TIMEOUT_MS" standard.requestTimeout
    retry := { RetryPolicy.standard with maxAttempts := attempts.getD standard.retry.maxAttempts } }

/-- What keeps a client from being set up: a base URL of another scheme, or a name that is no
single segment of a path. -/
def fault? (s : ClientSettings) : Option SettingsError :=
  if !(s.baseUrl.startsWith "http://" || s.baseUrl.startsWith "https://") then
    some (.baseUrl s.baseUrl)
  else if s.appName.isEmpty || s.appName.toList.contains '/' then some (.appName s.appName)
  else none

end ClientSettings

/-- The client of some settings. -/
def Client.ofSettings (s : ClientSettings) : Except SettingsError Client :=
  match s.fault? with
  | some e => .error e
  | none => .ok ⟨s.appName⟩

end PanelForms
