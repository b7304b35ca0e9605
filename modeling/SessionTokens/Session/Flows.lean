import SessionTokens.Token.Rotation

/-! # Session flows

Login, refresh and logout, and the password and address flows that end sessions or allow something.
Whatever is wrong with a token that is presented, the error is the same on the outside; the reason
is kept as its source.
-/

namespace SessionTokens

/-- What a client is given: both tokens of a session. -/
structure TokenPair where
  accessToken : String
  refreshToken : String
  sessionId : String
  accessExp : Int64
  refreshExp : Int64
deriving DecidableEq

/-- The first error wins; accepts otherwise. -/
def Action.ensure (r : Except ServiceError Unit) : Action ServiceError Unit :=
  Action.lift (.ofExcept r)

/-- The lower-case hexadecimal text of bytes. -/
def hexText (bytes : List UInt8) : String :=
  String.ofList (bytes.flatMap fun b => Action.hexDigits 2 b.toNat)

/-- The digest that a reset token is remembered by. -/
def resetDigest (token : String) : String :=
  hexText (Sha256.hash (Bearer.token token).toUTF8.toList)

/-- The account may hold a session. -/
def User.checkStatus (u : User) : Except ServiceError Unit :=
  if !u.isVerified then .error .userNotVerified
  else if !u.isActive then .error .userBlocked
  else .ok ()

namespace Service

variable (svc : Service)

/-- An operation on a presented token; a rejection is told to the outside in one way only. -/
def outside {α : Type} (m : Action TokenError α) : Action ServiceError α :=
  m.mapError TokenError.toServiceError

/-- The account of an identifier, or the given error. -/
def requireUser (id : String) (missing : ServiceError) : Action ServiceError User := do
  match ← Action.findUser id with
  | some u => return u
  | none => Action.fail missing

/-- The pair of a refresh token that has just been issued: an access token in its session. -/
def pairFor (sub : String) (refresh : Issued) : Action ServiceError TokenPair :=
  match refresh.payload.sessionId with
  | none => Action.fail (.reported .internal "Refresh token has no session" none)
  | some session => do
    let access ← outside (svc.issueAccess sub (some session))
    return {
      accessToken := access.token
      refreshToken := refresh.token
      sessionId := session
      accessExp := access.payload.exp
      refreshExp := refresh.payload.exp }

/-- Opens a session for an account that may hold one, given its password. An unknown account and a
wrong password are the same error. -/
def login (id password : String) : Action ServiceError TokenPair := do
  let user ← requireUser id .incorrectLogin
  if ← Action.verifyPassword svc.hasher password user.passwordHash then
    Action.ensure user.checkStatus
    let refresh ← outside (svc.issueRefresh user.id none none)
    svc.pairFor user.id refresh
  else Action.fail .incorrectLogin

/-- The content of a refresh token whose account may still hold a session, and the account. -/
def refreshable (bearer : String) : Action ServiceError (Payload × User) := do
  let payload ← outside (svc.verifyMode bearer .refresh)
  let user ← requireUser payload.sub .unknownTokenUser
  Action.ensure user.checkStatus
  return (payload, user)

/-- Exchanges a refresh token for a new pair, if its account may still hold a session. -/
def refresh (bearer : String) : Action ServiceError TokenPair := do
  let (payload, user) ← svc.refreshable bearer
  let rotated ← outside (svc.rotate payload.toClaims)
  svc.pairFor user.id rotated

/-- Ends the session of an access token. -/
def logout (bearer : String) : Action ServiceError Unit := do
  let payload ← outside (svc.verifyMode bearer .access)
  match payload.sessionId with
  | none => Action.fail (.rejected .structureInvalid)
  | some session =>
    let _ ← invalidateSession payload.sub session
    return ()

/-- Ends all sessions of an account, and gives the number of keys removed. -/
def logoutEverywhere (id : String) : Action ServiceError Nat := svc.invalidateAll id

/-- Stores a new password and ends all sessions. -/
def replacePassword (id new : String) : Action ServiceError Unit := do
  let hash ← Action.hashPassword svc.hasher new
  if ← Action.updatePasswordHash id hash then
    let _ ← svc.invalidateAll id
    return ()
  else Action.fail .userNotFound

/-- Changes a password, given the current one, and ends all sessions. -/
def changePassword (id current new : String) : Action ServiceError Unit := do
  let user ← requireUser id .userNotFound
  if ← Action.verifyPassword svc.hasher current user.passwordHash then
    Action.ensure (Password.validateChanged current new)
    Action.ensure (svc.policy.validate new)
    svc.replacePassword user.id new
  else Action.fail .incorrectCurrentPassword

/-- A token that verifies the address of an account. -/
def issueEmailVerification (id : String) : Action ServiceError String := do
  let user ← requireUser id .userNotFound
  if user.isVerified then Action.fail .alreadyVerified
  else
    let issued ← outside (svc.issueVerification user.id (some user.email))
    return issued.token

/-- Marks the address of a token's account as verified, and gives the account. -/
def verifyEmail (token : String) : Action ServiceError String := do
  let payload ← outside (svc.verifyPurpose token .verification)
  if ← Action.markVerified payload.sub then return payload.sub
  else Action.fail .userNotFound

/-- A token that resets the password of an account. -/
def requestPasswordReset (id : String) : Action ServiceError String := do
  let user ← requireUser id .userNotFound
  let issued ← outside (svc.issueReset user.id (some user.email))
  return issued.token

/-- Sets a new password by a reset token and ends all sessions. The token is marked as redeemed
first; if what follows fails, the mark is taken away again, so that the token stays good. A password
that the policy refuses leaves no mark. -/
def confirmPasswordReset (token new : String) : Action ServiceError Unit := do
  let payload ← outside (svc.verifyPurpose token .resetPassword)
  Action.ensure (svc.policy.validate new)
  let mark := Key.redeemed payload.sub (resetDigest token)
  if ← Store.setIfAbsent mark Key.redeemedMark (toMillis svc.lifetimes.resetPassword) then
    match ← (svc.replacePassword payload.sub new).attempt with
    | .ok () => return ()
    | .error e =>
      let _ ← ((Store.delete [mark]).attempt : Action ServiceError (Except ServiceError Nat))
      Action.fail e
  else Action.fail (.rejected .alreadyCompleted)

/-- The account behind an access token, if it is not blocked. -/
def authenticate (bearer : String) : Action ServiceError User := do
  let payload ← outside (svc.verifyMode bearer .access)
  let user ← requireUser payload.sub .unknownTokenUser
  if user.isActive then return user
  else Action.fail .userBlocked

end Service

end SessionTokens
