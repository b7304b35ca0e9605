import SessionTokens.Service
import SessionTokens.Text.Word

/-! # Issuing tokens

A session token is signed first and then written to the store: its identifier under the session's
key, and for a refresh token the family's mark. Nothing is read, so logins never get in one
another's way. Verification and reset tokens leave no trace in the store.
-/

namespace SessionTokens

/-- A token and what it says. -/
structure Issued where
  token : String
  payload : Payload
deriving DecidableEq

/-- The nearest number of 64 bits with a sign. -/
def clampInt64 (n : Int) : Int64 := .ofInt (max Word.least (min Word.greatest n))

/-- When a token that is issued now expires. A lifetime beyond the signed range counts as the
negative number that its bits spell. -/
def expiry (now : Nat) (ttl : UInt64) : Int64 := clampInt64 (now + ttl.toInt64.toInt)

namespace Service

variable (svc : Service)

/-- When a token with this lifetime expires. -/
def expiryOf {ε : Type} (ttl : UInt64) : Action ε Int64 := Action.read fun w => expiry w.seconds ttl

/-- Signs a payload. -/
def sign (p : Payload) : Action TokenError Issued := do
  let token ← Action.lift ((Outcome.ofExcept (svc.codec.encode p.toClaims)).mapError .rejected)
  return ⟨token, p⟩

/-- Writes to the store, whose failures are failures of the operation. -/
def store {α : Type} (call : Action ServiceError α) : Action TokenError α :=
  call.mapError .internal

/-- Issues an access token, in a new session unless one is given. -/
def issueAccess (sub : String) (session : Option String) : Action TokenError Issued := do
  let session ← svc.orMintId session
  let jti ← svc.mintId
  let exp ← expiryOf svc.lifetimes.access
  let issued ← svc.sign (.access sub exp jti session)
  store (Store.set (Key.access sub session) jti (toMillis svc.lifetimes.access))
  return issued

/-- Issues a refresh token, in a new session and a new family unless they are given. The family's
mark is renewed with it. -/
def issueRefresh (sub : String) (session family : Option String) : Action TokenError Issued := do
  let session ← svc.orMintId session
  let family ← svc.orMintId family
  let jti ← svc.mintId
  let exp ← expiryOf svc.lifetimes.refresh
  let issued ← svc.sign (.refresh sub exp jti session family)
  store (Store.set (Key.refresh sub session) jti (toMillis svc.lifetimes.refresh))
  store (Store.set (Key.family sub family) Key.familyMark (toMillis svc.lifetimes.refresh))
  return issued

/-- Issues a token that verifies an address. -/
def issueVerification (sub : String) (email : Option String) : Action TokenError Issued := do
  let exp ← expiryOf svc.lifetimes.verification
  svc.sign (.verification sub exp email)

/-- Issues a token that resets a password. -/
def issueReset (sub : String) (email : Option String) : Action TokenError Issued := do
  let exp ← expiryOf svc.lifetimes.resetPassword
  svc.sign (.resetPassword sub exp email)

end Service

end SessionTokens
