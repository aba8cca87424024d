import SessionAuth.Proofs.Admission
import SessionAuth.Proofs.Atomicity
import SessionAuth.Proofs.Csrf
import SessionAuth.Proofs.Demand
import SessionAuth.Proofs.Effect
import SessionAuth.Proofs.Execution
import SessionAuth.Proofs.Handout
import SessionAuth.Proofs.History
import SessionAuth.Proofs.Http.Clearance
import SessionAuth.Proofs.Http.Endpoint
import SessionAuth.Proofs.Http.Exemption
import SessionAuth.Proofs.Http.Forgery
import SessionAuth.Proofs.Http.Mediation
import SessionAuth.Proofs.Http.Request
import SessionAuth.Proofs.Http.Route
import SessionAuth.Proofs.Http.Seniority
import SessionAuth.Proofs.Interleaving
import SessionAuth.Proofs.Json.Records
import SessionAuth.Proofs.Json.RoundTrip
import SessionAuth.Proofs.Outage
import SessionAuth.Proofs.Permission
import SessionAuth.Proofs.PersonalToken.Creation
import SessionAuth.Proofs.PersonalToken.Expiry
import SessionAuth.Proofs.PersonalToken.Isolation
import SessionAuth.Proofs.PersonalToken.Lifetime
import SessionAuth.Proofs.PersonalToken.Listing
import SessionAuth.Proofs.PersonalToken.Replacement
import SessionAuth.Proofs.PersonalToken.Revocation
import SessionAuth.Proofs.PersonalToken.Visibility
import SessionAuth.Proofs.Policy.EmptySegment
import SessionAuth.Proofs.Policy.HighestRole
import SessionAuth.Proofs.Policy.Precedence
import SessionAuth.Proofs.Privilege
import SessionAuth.Proofs.Secret
import SessionAuth.Proofs.Secret.Keying
import SessionAuth.Proofs.Secret.Password
import SessionAuth.Proofs.Secret.Token
import SessionAuth.Proofs.Session.Concealment
import SessionAuth.Proofs.Session.Exclusion
import SessionAuth.Proofs.Session.Freshness
import SessionAuth.Proofs.Session.Grant
import SessionAuth.Proofs.Session.Registration
import SessionAuth.Proofs.Session.Rotation
import SessionAuth.Proofs.Session.Stranding
import SessionAuth.Proofs.SideBySide
import SessionAuth.Proofs.Store.Agreement
import SessionAuth.Proofs.Store.Uniqueness
import SessionAuth.Proofs.Time.Calendar
import SessionAuth.Proofs.Time.RoundTrip
import SessionAuth.Proofs.Token.Acceptance
import SessionAuth.Proofs.Token.Lifetimes
import SessionAuth.Proofs.Token.RoundTrip
import SessionAuth.Proofs.Trace
import SessionAuth.Service
import SessionAuth.Store.View
