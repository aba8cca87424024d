import SessionAuth.Proofs.Csrf
import SessionAuth.Proofs.Outcome

/-!
# The response to the start of a session

The tokens of a session are handed out in the body of the response and in cookies, and a cookie of
its own holds the value that goes with the access token. That value is made when the session has
been stored already. If making it failed, a session would be there that nobody was handed; but
there is a value for every access token, and so there is always a response.

## Main results

* `Service.grant_eq_ok_iff` — what the response is
* `Service.exists_grant`, `Service.ensures_grant` — the tokens of a session are handed out
-/

namespace SessionAuth.Service

variable {service : Service} {now : Instant} {status : Nat} {userId : Int32}
  {tokens : SessionTokens} {response : Response} {store : Store}

/-- The response has the tokens in its body, and with the cookies of the session the value that goes
with the access token. -/
theorem grant_eq_ok_iff :
    service.grant now status userId tokens = .ok response ↔
      ∃ csrf, service.gate.guard.tokenFor tokens.access.token = .ok csrf ∧
        response = ⟨status,
          some (SessionGrant.toJson ⟨tokens.access.token, tokens.refresh.token, userId⟩),
          service.cookies.build tokens.access.token tokens.refresh.token csrf
            (SessionCookies.ageAt now tokens.access.claims.expires)
            (SessionCookies.ageAt now tokens.refresh.claims.expires)⟩ := by
  have guarded : service.cookies.guard = service.gate.guard := rfl
  rw [grant, SessionCookies.issued, guarded]
  cases service.gate.guard.tokenFor tokens.access.token with
  | error e => exact iff_of_false nofun nofun
  | ok csrf => simp [bind, Except.bind, pure, Except.pure, eq_comm]

/-- The tokens of a session are always handed out. -/
theorem exists_grant (service : Service) (now : Instant) (status : Nat) (userId : Int32)
    (tokens : SessionTokens) :
    ∃ response, service.grant now status userId tokens = .ok response := by
  obtain ⟨csrf, handed⟩ := service.gate.guard.exists_tokenFor tokens.access.token
  exact ⟨_, grant_eq_ok_iff.mpr ⟨csrf, handed, rfl⟩⟩

theorem exec_grant (granted : service.grant now status userId tokens = .ok response) :
    (Action.ofExcept (service.grant now status userId tokens)).exec store =
      (.ok response, store) := by
  rw [granted, Action.exec_ofExcept]

/-- Handing out tokens leaves the store, and it does not fail. -/
theorem ensures_grant {post : Except AuthError Response → Store → Prop}
    (handed : ∀ response, service.grant now status userId tokens = .ok response →
      post (.ok response) store) :
    (Action.ofExcept (service.grant now status userId tokens)).Ensures store post := by
  obtain ⟨response, granted⟩ := service.exists_grant now status userId tokens
  rw [granted]
  exact Action.ensures_pure (handed response granted)

theorem status_of_grant (granted : service.grant now status userId tokens = .ok response) :
    response.status = status := by
  obtain ⟨csrf, -, rfl⟩ := grant_eq_ok_iff.mp granted
  rfl

end SessionAuth.Service
