import SessionAuth.Crypto.Bcrypt
import SessionAuth.Error
import SessionAuth.Text.Decimal

/-!
# Settings

The service is set up by named texts from its environment. Some must be there, others have
a default, and numbers must be numbers of their kind.

## Main definitions

* `AuthSettings`, `ServerSettings` — what is set
* `ServerSettings.ofEnvironment` — the settings of an environment
* `AuthSettings.isExempt` — whether a path needs no credential
* `AuthSettings.isLocal` — whether the service runs on a developer's machine
-/

namespace SessionAuth

/-- What is set for tokens, cookies and the authorisation of requests. -/
structure AuthSettings where
  issuer : String
  accessMinutes : Int64
  refreshDays : Int64
  privateKeyPath : String
  publicKeyPath : String
  csrfSecret : String
  csrfHeader : String
  environment : String
  hashCost : Nat
  storeTimeoutSeconds : Nat
  exemptPaths : List String
  deriving DecidableEq, Repr

/-- What is set for the whole server. -/
structure ServerSettings where
  /-- Where the database is; without one everything is kept in memory. -/
  databaseUrl : Option String
  tcpPort : Nat
  host : String
  auth : AuthSettings
  deriving DecidableEq, Repr

namespace AuthSettings

/-- The paths that need no credential. -/
def defaultExemptPaths : List String :=
  ["/health", "/auth/login", "/auth/register", "/auth/refresh", "/docs"]

/-- Whether the service runs on a developer's machine, where cookies need no encrypted
connection. -/
def isLocal (settings : AuthSettings) : Bool :=
  settings.environment ∈ ["local", "development", "dev", "test"]

/-- Whether a path is an exempt one or continues it behind a slash. -/
def covers (exempt path : List Char) : Bool :=
  path = exempt || (exempt ++ ['/']).isPrefixOf path

/-- Whether a path needs no credential. -/
def isExempt (settings : AuthSettings) (path : String) : Bool :=
  settings.exemptPaths.any fun exempt => covers exempt.toList path.toList

end AuthSettings

/-- The texts of an environment by name. -/
abbrev Environment := String → Option String

namespace Environment

/-- A text that must be set. -/
def required (env : Environment) (name : String) : Except AuthError String :=
  match env name with
  | some text => .ok text
  | none => .error (.settingMissing name)

/-- A number that may be set. -/
def number {α : Type} (env : Environment) (name : String) (default : α)
    (read? : List Char → Option α) : Except AuthError α :=
  match env name with
  | none => .ok default
  | some text =>
    match read? text.toList with
    | some n => .ok n
    | none => .error (.settingNotANumber name)

end Environment

/-- The settings for tokens, cookies and authorisation. -/
def AuthSettings.ofEnvironment (env : Environment) : Except AuthError AuthSettings := do
  let privateKeyPath ← env.required "JWT_PRIVATE_KEY_PATH"
  let accessMinutes ← env.number "ACCESS_TOKEN_TTL_MINUTES" 15 Decimal.int64?
  let refreshDays ← env.number "REFRESH_TOKEN_TTL_DAYS" 14 Decimal.int64?
  let csrfSecret ← env.required "CSRF_SECRET"
  let hashCost ← env.number "BCRYPT_COST" Bcrypt.defaultCost Decimal.natural32?
  let timeout ← env.number "STORE_TIMEOUT_SECS" 10 Decimal.natural64?
  return {
    issuer := (env "JWT_ISSUER").getD "taskforge"
    accessMinutes := accessMinutes
    refreshDays := refreshDays
    privateKeyPath := privateKeyPath
    publicKeyPath := (env "JWT_PUBLIC_KEY_PATH").getD (privateKeyPath ++ ".pub")
    csrfSecret := csrfSecret
    csrfHeader := (env "CSRF_HEADER_NAME").getD "X-CSRF-Token"
    environment := (env "APP_ENV").getD "local"
    hashCost := hashCost
    storeTimeoutSeconds := timeout
    exemptPaths := defaultExemptPaths }

namespace ServerSettings

/-- The settings of an environment. -/
def ofEnvironment (env : Environment) : Except AuthError ServerSettings := do
  let tcpPort ← env.number "SERVER_PORT" 8080 (Decimal.naturalWithin? 65535)
  let auth ← AuthSettings.ofEnvironment env
  return {
    databaseUrl := env "DATABASE_URL"
    tcpPort := tcpPort
    host := (env "SERVER_HOST").getD "127.0.0.1"
    auth := auth }

/-- The address at which the server is reached. -/
def url (settings : ServerSettings) : String :=
  "http://" ++ settings.host ++ ":" ++ toString settings.tcpPort

end ServerSettings

end SessionAuth
