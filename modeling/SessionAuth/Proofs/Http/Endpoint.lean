import SessionAuth.Service

/-!
# What endpoints share

Endpoints read a body, a segment or the caller in the same way: they go on with what is read, or end
at once and ask for nothing. What holds of an action that ends at once, and of what an endpoint goes
on with, holds of the endpoint.

## Main results

* `Service.withJson_rule`, `Service.withSegment_rule`, `Service.withCaller_rule` — an endpoint goes
  on with what it reads or ends at once
-/

namespace SessionAuth.Service

variable {α : Type} {request : Request} {vary : List Segment} {established : Option Caller}

theorem withJson_rule {P : Action Response → Prop} {read? : Json.Value → Option α}
    {next : α → Action Response} (ends : ∀ status, P (pure (.empty status)))
    (goesOn : ∀ body, request.json read? = .ok body → P (next body)) :
    P (withJson request read? next) := by
  unfold withJson
  split
  · next body read => exact goesOn body read
  · exact ends _

theorem withSegment_rule {P : Action Response → Prop} {read? : List Char → Option α}
    {next : α → Action Response} (ends : P (pure (.empty 404)))
    (goesOn : ∀ segment a, vary = [segment] →
      (Percent.decodeSegment? segment).bind read? = some a → P (next a)) :
    P (withSegment vary read? next) := by
  unfold withSegment
  split
  · next segment =>
    split
    · next a named => exact goesOn segment a rfl named
    · exact ends
  · exact ends

theorem withCaller_rule {P : Action Response → Prop} {next : Caller → Action Response}
    (ends : ∀ e, P (throw e)) (goesOn : ∀ caller, established = some caller → P (next caller)) :
    P (withCaller established next) := by
  unfold withCaller
  split
  · next caller => exact goesOn caller rfl
  · exact ends _

end SessionAuth.Service
