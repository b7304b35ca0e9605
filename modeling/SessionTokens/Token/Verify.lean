import SessionTokens.Bearer
import SessionTokens.Token.Sweep

/-! # Verifying tokens

A session token is read, checked for its claims, and held against the store. For a refresh token
the fence and the family come before the identifier: a token that has been used already is reported
as such, and takes all sessions of its subject with it, instead of being turned down as merely
stale. A store that fails while a token is verified turns it down.
-/

namespace SessionTokens

/-- The claims that every session token has. -/
structure SessionClaims where
  sub : String
  mode : Mode
  jti : String
  sessionId : String

/-- The claims that every session token has, if they are there. -/
def Claims.session? (c : Claims) : Option SessionClaims :=
  match c.sub, c.mode, c.jti, c.sessionId with
  | some sub, some mode, some jti, some sessionId => some ⟨sub, mode, jti, sessionId⟩
  | _, _, _, _ => none

namespace Service

variable (svc : Service)

/-- The claims of a token's text. -/
def decode (p : Purpose) (token : String) : Action TokenError Claims := fun w =>
  ((svc.codec.decode w.seconds p token).mapError .rejected, w)

/-- A look at the store that turns the token down if it fails. -/
def failClosed {α : Type} (call : Action ServiceError α) : Action TokenError α :=
  call.mapError fun _ => .rejected .livenessMismatch

/-- The family's mark is there. -/
def familyLive (sub : String) : Option String → Action TokenError Bool
  | some family => failClosed (Store.contains (Key.family sub family))
  | none => pure false

/-- Turns down a refresh token that has been used or whose family is gone. -/
def checkLineage (sub jti : String) (family : Option String) : Action TokenError Unit := do
  if ← failClosed (Store.contains (Key.used sub jti)) then
    svc.sweepAndReject sub .reuseDetected
  else if ← familyLive sub family then
    return ()
  else
    svc.sweepAndReject sub .familyInvalidated

/-- Holds the claims of a session token against the store. -/
def verifyClaims (claims : Claims) : Action TokenError Payload :=
  match claims.session? with
  | none => Action.fail (.rejected .structureInvalid)
  | some c =>
    match c.mode.liveness? with
    | none => Action.fail (.rejected .structureInvalid)
    | some ns => do
      if c.mode = .refresh then svc.checkLineage c.sub c.jti claims.family
      let stored ← failClosed (Store.get (Key.make ns.name c.sub c.sessionId))
      if stored = some c.jti then
        Action.lift (.ofOption (.rejected .structureInvalid) (Payload.ofClaims? claims))
      else Action.fail (.rejected .livenessMismatch)

/-- Verifies an access or refresh token, as it is presented. -/
def verify (bearer : String) : Action TokenError Payload := do
  let claims ← svc.decode .session (Bearer.token bearer)
  svc.verifyClaims claims

/-- Verifies a session token that must have the given mode. -/
def verifyMode (bearer : String) (expected : Mode) : Action TokenError Payload := do
  let payload ← svc.verify bearer
  if payload.mode = expected then return payload
  else Action.fail (.rejected .structureInvalid)

/-- Verifies a token of a mode that belongs to no session. -/
def verifyPurpose (token : String) (mode : Mode) : Action TokenError Payload := do
  if mode.isSessionBound then Action.fail (.rejected .structureInvalid)
  else
    let claims ← svc.decode mode.purpose (Bearer.token token)
    if claims.mode = some mode then
      Action.lift (.ofOption (.rejected .structureInvalid) (Payload.ofClaims? claims))
    else Action.fail (.rejected .structureInvalid)

end Service

end SessionTokens
