/-! # Errors

Every failure is one of the causes below. What a cause says to the outside, its kind and its
wording, is decided in one place: a token that is turned down for whatever reason gives the same
kind and the same words, and only the source, which stays inside, tells the reasons apart.
-/

namespace SessionTokens

/-- The category of an error. -/
inductive ErrorKind where
  | notFound
  | authentication
  | authorization
  | validation
  | internal
  | cache
  | timeout
  | scriptNotFound
  | configuration
  | serialization
deriving DecidableEq, Repr

namespace ErrorKind

/-- The category as errors show it. -/
def label : ErrorKind → String
  | .notFound => "NOT_FOUND"
  | .authentication => "AUTHENTICATION"
  | .authorization => "AUTHORIZATION"
  | .validation => "VALIDATION"
  | .internal => "INTERNAL"
  | .cache => "CACHE"
  | .timeout => "TIMEOUT"
  | .scriptNotFound => "SCRIPT_NOT_FOUND"
  | .configuration => "CONFIGURATION"
  | .serialization => "SERIALIZATION"

/-- The category's name in data. -/
def name : ErrorKind → String
  | .notFound => "NotFound"
  | .authentication => "Authentication"
  | .authorization => "Authorization"
  | .validation => "Validation"
  | .internal => "Internal"
  | .cache => "Cache"
  | .timeout => "Timeout"
  | .scriptNotFound => "ScriptNotFound"
  | .configuration => "Configuration"
  | .serialization => "Serialization"

/-- Every category. -/
def all : List ErrorKind :=
  [.notFound, .authentication, .authorization, .validation, .internal, .cache, .timeout,
    .scriptNotFound, .configuration, .serialization]

/-- The category with this name in data. -/
def ofName? (s : String) : Option ErrorKind := all.find? (·.name = s)

/-- The store could not be reached or was too slow. -/
def isStoreUnavailable : ErrorKind → Bool
  | .cache | .timeout => true
  | _ => false

end ErrorKind

/-- Why a token is turned down. -/
inductive Rejection where
  | expired
  | malformed
  | structureInvalid
  | reuseDetected
  | familyInvalidated
  | livenessMismatch
  | alreadyCompleted
deriving DecidableEq, Repr

namespace Rejection

/-- The rejection's name in data. -/
def name : Rejection → String
  | .expired => "expired"
  | .malformed => "malformed"
  | .structureInvalid => "structure_invalid"
  | .reuseDetected => "reuse_detected"
  | .familyInvalidated => "family_invalidated"
  | .livenessMismatch => "liveness_mismatch"
  | .alreadyCompleted => "already_completed"

/-- The rejection in words. -/
def message : Rejection → String
  | .expired => "token expired"
  | .malformed => "invalid token"
  | .structureInvalid => "invalid token structure"
  | .reuseDetected => "token reuse detected"
  | .familyInvalidated => "token family invalidated"
  | .livenessMismatch => "token invalidated or expired"
  | .alreadyCompleted => "operation already completed"

/-- The rejection means that a token has been in the wrong hands. -/
def isCompromise : Rejection → Bool
  | .reuseDetected | .familyInvalidated => true
  | _ => false

end Rejection

/-- The calls that a session store answers. -/
inductive StoreCall where
  | get
  | set
  | setIfAbsent
  | delete
  | exists
  | expire
  | ttl
  | scanPage
  | loadScript
  | evalScript
  | health
deriving DecidableEq, Repr

namespace StoreCall

/-- The call's name in reports. -/
def name : StoreCall → String
  | .get => "get"
  | .set => "set"
  | .setIfAbsent => "set_if_absent"
  | .delete => "delete"
  | .exists => "exists"
  | .expire => "expire"
  | .ttl => "ttl"
  | .scanPage => "scan_page"
  | .loadScript => "load_script"
  | .evalScript => "eval_script"
  | .health => "health"

/-- Every call. -/
def all : List StoreCall :=
  [.get, .set, .setIfAbsent, .delete, .exists, .expire, .ttl, .scanPage, .loadScript, .evalScript,
    .health]

/-- The call with this name. -/
def ofName? (s : String) : Option StoreCall := all.find? (·.name = s)

end StoreCall

/-- How a store call fails before it reaches the store. -/
inductive Outage where
  | unavailable
  | timeout
  | scriptMissing
deriving DecidableEq, Repr

/-- The three secrets of a token configuration, by their names in it. -/
inductive SecretName where
  | access
  | verification
  | resetPassword
deriving DecidableEq, Repr

/-- The setting that holds a secret. -/
def SecretName.setting : SecretName → String
  | .access => "tokens.access_secret"
  | .verification => "tokens.verification_secret"
  | .resetPassword => "tokens.reset_password_secret"

/-- What went wrong. -/
inductive ServiceError where
  /-- A collaborator's own report. -/
  | reported (kind : ErrorKind) (message : String) (source : Option Rejection)
  /-- A token was turned down. -/
  | rejected (why : Rejection)
  | userNotFound
  | incorrectLogin
  | unknownTokenUser
  | userNotVerified
  | userBlocked
  | incorrectCurrentPassword
  | alreadyVerified
  | passwordTooShort (min : Nat)
  | passwordTooWeak
  | passwordUnchanged
  | invalidHashFormat
  | hashNotVerifiable
  | emptySecret (name : SecretName)
  | secretsCoincide
  | unsupportedAlgorithm (name : String)
  | settingIsZero (name : String)
  | unknownProvider (name : String)
  | configNotBuilt
  | configNotReadable
  | storeFailed (call : StoreCall) (how : Outage)
  | storeUnreachable
  | storeSilent
  | scriptNotRegistered
  | scriptKeyCount
  | scriptArgumentCount
  | scriptFenceTtl (text : String)
  | unknownCursor (cursor : UInt64)
  | unexpectedReply (reply : String)
  | directoryUnavailable
  | hasherUnavailable
  | noTerminal
deriving DecidableEq, Repr

namespace ServiceError

/-- The category of an error. -/
def kind : ServiceError → ErrorKind
  | .reported kind _ _ => kind
  | .userNotFound => .notFound
  | .rejected _ | .incorrectLogin | .unknownTokenUser | .incorrectCurrentPassword => .authentication
  | .userBlocked => .authorization
  | .userNotVerified | .alreadyVerified | .passwordTooShort _ | .passwordTooWeak
  | .passwordUnchanged => .validation
  | .emptySecret _ | .secretsCoincide | .unsupportedAlgorithm _ | .settingIsZero _
  | .unknownProvider _ | .configNotBuilt | .configNotReadable => .configuration
  | .storeFailed _ .unavailable | .storeUnreachable | .storeSilent => .cache
  | .storeFailed _ .timeout => .timeout
  | .storeFailed _ .scriptMissing | .scriptNotRegistered => .scriptNotFound
  | .invalidHashFormat | .hashNotVerifiable | .scriptKeyCount | .scriptArgumentCount
  | .scriptFenceTtl _ | .unknownCursor _ | .unexpectedReply _ | .directoryUnavailable
  | .hasherUnavailable | .noTerminal => .internal

/-- An error in words. -/
def message : ServiceError → String
  | .reported _ message _ => message
  | .rejected _ => "Authentication failed"
  | .userNotFound => "User not found"
  | .incorrectLogin => "Incorrect password or user"
  | .unknownTokenUser => "User not found"
  | .userNotVerified => "User is not verified"
  | .userBlocked => "User is blocked"
  | .incorrectCurrentPassword => "Current password is incorrect"
  | .alreadyVerified => "User is already verified"
  | .passwordTooShort min => s!"Password must be at least {min} characters long"
  | .passwordTooWeak =>
    "Password is too weak. Please use a stronger password with more entropy."
  | .passwordUnchanged => "New password must be different from the current password"
  | .invalidHashFormat => "Invalid password hash format"
  | .hashNotVerifiable => "Password verification failed"
  | .emptySecret name => name.setting ++ " must not be empty"
  | .secretsCoincide =>
    "tokens secrets must differ between access, verification, and reset purposes"
  | .unsupportedAlgorithm name =>
    s!"Unsupported token algorithm '{name}'. Supported: HS256, HS384, HS512"
  | .settingIsZero name => s!"{name} must be greater than zero"
  | .unknownProvider name => s!"Unknown store provider: '{name}'. Supported: redis, memory"
  | .configNotBuilt => "Failed to build config"
  | .configNotReadable => "Failed to deserialize config"
  | .storeFailed call .unavailable => call.name ++ ": connection refused"
  | .storeFailed call .timeout => call.name ++ ": timed out"
  | .storeFailed call .scriptMissing => call.name ++ ": no script"
  | .storeUnreachable => "Failed to create Redis client"
  | .storeSilent => "Session store did not answer PING"
  | .scriptNotRegistered => "Script 'rotate_refresh' is not registered"
  | .scriptKeyCount => "rotate_refresh expects exactly two keys"
  | .scriptArgumentCount => "rotate_refresh expects exactly two arguments"
  | .scriptFenceTtl text => s!"Invalid used TTL '{text}'"
  | .unknownCursor cursor => s!"Unknown or finished scan cursor {cursor}"
  | .unexpectedReply reply => s!"Unexpected rotation script reply: '{reply}'"
  | .directoryUnavailable => "directory unavailable"
  | .hasherUnavailable => "hasher unavailable"
  | .noTerminal => "Input error: IO error: not a terminal"

/-- The rejection behind an error; it is not for the outside. -/
def source : ServiceError → Option Rejection
  | .reported _ _ source => source
  | .rejected why => some why
  | _ => none

/-- An error on one line. -/
def text (e : ServiceError) : String := e.kind.label ++ ": " ++ e.message

/-- The same report without what is behind it. -/
def withoutSource (e : ServiceError) : ServiceError := .reported e.kind e.message none

end ServiceError

/-- What comes of handling a token other than success: it is turned down, or something failed. -/
inductive TokenError where
  | rejected (why : Rejection)
  | internal (cause : ServiceError)
deriving DecidableEq, Repr

namespace TokenError

/-- The error's name in data. -/
def name : TokenError → String
  | .rejected why => why.name
  | .internal _ => "internal"

/-- The error in words. -/
def message : TokenError → String
  | .rejected why => why.message
  | .internal cause => "token processing failed: " ++ cause.text

/-- The error means that a token has been in the wrong hands. -/
def isCompromise : TokenError → Bool
  | .rejected why => why.isCompromise
  | .internal _ => false

/-- The error as a service reports it: a failure as it is, every rejection in the same words. -/
def toServiceError : TokenError → ServiceError
  | .rejected why => .rejected why
  | .internal cause => cause

end TokenError

end SessionTokens
