import Countersign.Program
import Countersign.Text.Blank
import Countersign.Text.Quoted

/-!
Settings of the service, from named variables.

Only the secret that signs the tokens is required. Other values that cannot be used give way to defaults,
with a warning in the log.
-/

namespace Countersign

inductive SettingsError where
  | missingSecret
deriving DecidableEq

def SettingsError.message : SettingsError → String
  | .missingSecret => "JWT_SECRET must be set to a non-empty value"

structure Settings where
  secret : Bytes
  sessionLifetime : Lifetime
  refreshLifetime : Lifetime
  host : String
  port : Nat
  docs : Bool
  /-- Email and password of the first administrator. -/
  seedAdmin : Option (String × String)
deriving DecidableEq

namespace Settings

/-- The variables by name. -/
abbrev Lookup := String → Option String

/-- How long a session token is good, in minutes, unless set otherwise. -/
def defaultSessionMinutes : Int := 5

/-- How long a refresh token is good, in minutes, unless set otherwise. -/
def defaultRefreshMinutes : Int := 60

def defaultHost : String := "0.0.0.0"
def defaultPort : Nat := 8080

/-- A lifetime of positive whole minutes. -/
def lifetime (lookup : Lookup) (name : String) (default : Int) : Program Lifetime :=
  match lookup name with
  | none => Program.ofOption (Lifetime.ofMinutes? default)
  | some raw =>
    match Text.readInt64? (Text.trim raw.toList) with
    | some minutes =>
      if 0 < minutes.toInt then Program.ofOption (Lifetime.ofMinutes? minutes.toInt)
      else fallback raw
    | none => fallback raw
where
  fallback (raw : String) : Program Lifetime := do
    Program.log (.invalidLifetime name raw default)
    Program.ofOption (Lifetime.ofMinutes? default)

/-- Reads a port: a number of 16 bits, with a plus in front or without. -/
def readPort? (s : List Char) : Option Nat := do
  let n ← match s with
    | '+' :: digits => Text.readNat? digits
    | digits => Text.readNat? digits
  if n < 65536 then some n else none

def portOf (lookup : Lookup) : Program Nat :=
  match lookup "PORT" with
  | none => return defaultPort
  | some raw =>
    match readPort? raw.toList with
    | some port => return port
    | none => do
      Program.log (.invalidPort raw defaultPort)
      return defaultPort

/-- The first administrator: both variables, or neither. -/
def seedOf (lookup : Lookup) : Program (Option (String × String)) :=
  match lookup "SEED_ADMIN_EMAIL", lookup "SEED_ADMIN_PASSWORD" with
  | none, none => return none
  | some email, some password =>
    if email.isEmpty || password.isEmpty then incomplete else return some (email, password)
  | _, _ => incomplete
where
  incomplete : Program (Option (String × String)) := do
    Program.log .incompleteSeed
    return none

/-- A value that is given and not empty. -/
def nonEmpty (lookup : Lookup) (name : String) : Option String :=
  (lookup name).filter fun s => !s.isEmpty

/-- Reads the settings. -/
def ofLookup (lookup : Lookup) : Program (Except SettingsError Settings) :=
  match nonEmpty lookup "JWT_SECRET" with
  | none => return .error .missingSecret
  | some secret => do
    let session ← lifetime lookup "TOKEN_EXPIRY" defaultSessionMinutes
    let refresh ← lifetime lookup "REFRESH_TOKEN_EXPIRY" defaultRefreshMinutes
    let port ← portOf lookup
    let seedAdmin ← seedOf lookup
    return .ok {
      secret := Bytes.ofText secret
      sessionLifetime := session
      refreshLifetime := refresh
      host := (nonEmpty lookup "HOST").getD defaultHost
      port
      docs := (lookup "API_DOCS").any fun s => s.toLower == "true" || s == "1"
      seedAdmin }

/-- Whether the log is to be written in JSON. -/
def jsonLogs (lookup : Lookup) : Bool :=
  (lookup "LOG_FORMAT").any fun s => Text.trim s.toLower.toList == "json".toList

def bindAddress (s : Settings) : String := s.host ++ ":" ++ Text.ofNat s.port

/-- What stands in dumps in place of a secret. -/
def masked : String := "**********"

/-- What a dump shows of a lifetime. -/
def shownLifetime (l : Lifetime) : String :=
  Text.record "TimeDelta" [("secs", Text.ofInt l.seconds), ("nanos", "0")]

/-- What a dump shows of the settings: no secret, and no password. -/
def shown (s : Settings) : String :=
  Text.record "Settings" [
    ("jwt_secret", Text.quoted masked),
    ("session_ttl", shownLifetime s.sessionLifetime),
    ("refresh_ttl", shownLifetime s.refreshLifetime),
    ("host", Text.quoted s.host),
    ("port", Text.ofNat s.port),
    ("api_docs", if s.docs then "true" else "false"),
    ("seed_admin", match s.seedAdmin with
      | none => "None"
      | some (email, _) => "Some(" ++ Text.quoted email ++ ")")]

end Settings

end Countersign
