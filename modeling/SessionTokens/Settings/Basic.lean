import SessionTokens.Json.Basic
import SessionTokens.Outcome
import SessionTokens.Error
import SessionTokens.Text.Blank
import SessionTokens.Digest.Hmac

/-! # Settings

The settings of the service by section, what each is when nothing is said, and what makes a set of
settings acceptable. Where the values come from is left open: a section reads itself through a
`Shape`, which JSON values and loosely typed ones (`Given`) each have.
-/

namespace SessionTokens

/-- How a kind of value is looked into. -/
structure Shape (V : Type) where
  text? : V → Option String
  word? : V → Option UInt64
  /-- The values of a record's fields in the order of their names, see `Json.record?`. -/
  record? : List String → Nat → V → Option (List (Option V))

/-- JSON values are looked into strictly: no value stands for one of another type. -/
def Json.shape : Shape Json := ⟨Json.asText?, Json.asWord?, Json.record?⟩

namespace Shape

variable {V : Type}

/-- A field's value, or the default where the field is absent. -/
def orDefault {α : Type} (read : V → Option α) (default : α) : Option V → Option α
  | none => some default
  | some v => read v

end Shape

/-- Secrets, algorithm and lifetimes of tokens. -/
structure TokenSettings where
  accessSecret : String
  verificationSecret : String
  resetPasswordSecret : String
  algorithm : String
  accessTtlMinutes : UInt64
  refreshTtlMinutes : UInt64
  verificationTtlMinutes : UInt64
  resetPasswordTtlMinutes : UInt64
  /-- How long a used refresh token stays fenced. -/
  usedRefreshTtlSeconds : UInt64
  /-- How far the clocks may be apart when an expiry is checked. -/
  leewaySeconds : UInt64
deriving DecidableEq

/-- How long tokens and their traces live, in seconds. -/
structure Lifetimes where
  access : UInt64
  refresh : UInt64
  verification : UInt64
  resetPassword : UInt64
  usedRefresh : UInt64
deriving DecidableEq

/-- The hash function of a signing algorithm. -/
def HashFunction.ofAlgorithm? (name : String) : Option HashFunction :=
  if name = "HS256" then some .sha256
  else if name = "HS384" then some .sha384
  else if name = "HS512" then some .sha512
  else none

/-- The signing algorithm that uses a hash function. -/
def HashFunction.algorithm : HashFunction → String
  | .sha256 => "HS256"
  | .sha384 => "HS384"
  | .sha512 => "HS512"

namespace TokenSettings

/-- The names of the fields in their order. -/
def names : List String :=
  ["access_secret", "verification_secret", "reset_password_secret", "algorithm",
    "access_ttl_minutes", "refresh_ttl_minutes", "verification_ttl_minutes",
    "reset_password_ttl_minutes", "used_refresh_ttl_seconds", "leeway_seconds"]

/-- Reads the section; only the secrets have no default. -/
def read? {V : Type} (shape : Shape V) (v : V) : Option TokenSettings :=
  match shape.record? names 3 v with
  | some [access, verification, reset, algorithm, accessTtl, refreshTtl, verificationTtl, resetTtl,
      usedTtl, leeway] => do
    return {
      accessSecret := ← access.bind shape.text?
      verificationSecret := ← verification.bind shape.text?
      resetPasswordSecret := ← reset.bind shape.text?
      algorithm := ← Shape.orDefault shape.text? "HS256" algorithm
      accessTtlMinutes := ← Shape.orDefault shape.word? 15 accessTtl
      refreshTtlMinutes := ← Shape.orDefault shape.word? 10080 refreshTtl
      verificationTtlMinutes := ← Shape.orDefault shape.word? 1440 verificationTtl
      resetPasswordTtlMinutes := ← Shape.orDefault shape.word? 30 resetTtl
      usedRefreshTtlSeconds := ← Shape.orDefault shape.word? 86400 usedTtl
      leewaySeconds := ← Shape.orDefault shape.word? 5 leeway }
  | _ => none

/-- The section as JSON. -/
def toJson (s : TokenSettings) : Json :=
  .ofFields [
    ("access_secret", .ofString s.accessSecret),
    ("verification_secret", .ofString s.verificationSecret),
    ("reset_password_secret", .ofString s.resetPasswordSecret),
    ("algorithm", .ofString s.algorithm),
    ("access_ttl_minutes", .ofNat s.accessTtlMinutes.toNat),
    ("refresh_ttl_minutes", .ofNat s.refreshTtlMinutes.toNat),
    ("verification_ttl_minutes", .ofNat s.verificationTtlMinutes.toNat),
    ("reset_password_ttl_minutes", .ofNat s.resetPasswordTtlMinutes.toNat),
    ("used_refresh_ttl_seconds", .ofNat s.usedRefreshTtlSeconds.toNat),
    ("leeway_seconds", .ofNat s.leewaySeconds.toNat)]

/-- The secret of the given name. -/
def secret (s : TokenSettings) : SecretName → String
  | .access => s.accessSecret
  | .verification => s.verificationSecret
  | .resetPassword => s.resetPasswordSecret

/-- The first secret that is nothing but white space. -/
def emptySecret? (s : TokenSettings) : Option SecretName :=
  [SecretName.access, .verification, .resetPassword].find? fun n =>
    (s.secret n).toList.all Text.isBlank

/-- Two of the secrets are the same text. -/
def secretsCoincide (s : TokenSettings) : Bool :=
  s.accessSecret = s.verificationSecret || s.accessSecret = s.resetPasswordSecret ||
    s.verificationSecret = s.resetPasswordSecret

/-- The first lifetime that is zero. -/
def zeroLifetime? (s : TokenSettings) : Option String :=
  ([("tokens.access_ttl_minutes", s.accessTtlMinutes),
    ("tokens.refresh_ttl_minutes", s.refreshTtlMinutes),
    ("tokens.verification_ttl_minutes", s.verificationTtlMinutes),
    ("tokens.reset_password_ttl_minutes", s.resetPasswordTtlMinutes),
    ("tokens.used_refresh_ttl_seconds", s.usedRefreshTtlSeconds)].find? (·.2 = 0)).map (·.1)

/-- Accepts settings that keep the purposes apart, name a known algorithm and let tokens live; gives
the hash function of the algorithm. -/
def validate (s : TokenSettings) : Except ServiceError HashFunction :=
  match s.emptySecret? with
  | some name => .error (.emptySecret name)
  | none =>
    if s.secretsCoincide then .error .secretsCoincide
    else
      match HashFunction.ofAlgorithm? s.algorithm with
      | none => .error (.unsupportedAlgorithm s.algorithm)
      | some f =>
        match s.zeroLifetime? with
        | some name => .error (.settingIsZero name)
        | none => .ok f

/-- Minutes as seconds, if there is a number for them. -/
def seconds {ε : Type} (minutes : UInt64) : Outcome ε UInt64 :=
  if minutes.toNat * 60 < UInt64.size then .ok (minutes * 60) else .outOfRange

/-- The lifetimes. A fence never outlives the token it stands for. -/
def lifetimes {ε : Type} (s : TokenSettings) : Outcome ε Lifetimes := do
  let access ← seconds s.accessTtlMinutes
  let refresh ← seconds s.refreshTtlMinutes
  let verification ← seconds s.verificationTtlMinutes
  let resetPassword ← seconds s.resetPasswordTtlMinutes
  return { access, refresh, verification, resetPassword,
           usedRefresh := min s.usedRefreshTtlSeconds refresh }

end TokenSettings

/-- The address of an external store. -/
structure RemoteStoreSettings where
  url : String
  /-- What every key starts with there. -/
  keyPrefix : String
deriving DecidableEq

namespace RemoteStoreSettings

/-- An address on this machine. -/
def default : RemoteStoreSettings := ⟨"redis://localhost:6379", ""⟩

/-- Reads the section. -/
def read? {V : Type} (shape : Shape V) (v : V) : Option RemoteStoreSettings :=
  match shape.record? ["url", "key_prefix"] 0 v with
  | some [url, keyPrefix] => do
    return {
      url := ← Shape.orDefault shape.text? default.url url
      keyPrefix := ← Shape.orDefault shape.text? default.keyPrefix keyPrefix }
  | _ => none

/-- The section as JSON. -/
def toJson (s : RemoteStoreSettings) : Json :=
  .ofFields [("url", .ofString s.url), ("key_prefix", .ofString s.keyPrefix)]

end RemoteStoreSettings

/-- Which store is used, and how. -/
structure StoreSettings where
  provider : String
  /-- How long one call may take. -/
  commandTimeoutMs : UInt64
  /-- How many keys one step of an enumeration looks at. -/
  scanBatchSize : UInt64
  remote : RemoteStoreSettings
deriving DecidableEq

namespace StoreSettings

/-- The external store with its usual limits. -/
def default : StoreSettings := ⟨"redis", 500, 100, RemoteStoreSettings.default⟩

/-- Reads the section. -/
def read? {V : Type} (shape : Shape V) (v : V) : Option StoreSettings :=
  match shape.record? ["provider", "command_timeout_ms", "scan_batch_size", "redis"] 0 v with
  | some [provider, timeout, batch, remote] => do
    return {
      provider := ← Shape.orDefault shape.text? default.provider provider
      commandTimeoutMs := ← Shape.orDefault shape.word? default.commandTimeoutMs timeout
      scanBatchSize := ← Shape.orDefault shape.word? default.scanBatchSize batch
      remote := ← Shape.orDefault (RemoteStoreSettings.read? shape) default.remote remote }
  | _ => none

/-- The section as JSON. -/
def toJson (s : StoreSettings) : Json :=
  .ofFields [
    ("provider", .ofString s.provider),
    ("command_timeout_ms", .ofNat s.commandTimeoutMs.toNat),
    ("scan_batch_size", .ofNat s.scanBatchSize.toNat),
    ("redis", s.remote.toJson)]

/-- Accepts settings whose limits let something through. -/
def validate (s : StoreSettings) : Except ServiceError Unit :=
  if s.commandTimeoutMs = 0 then .error (.settingIsZero "store.command_timeout_ms")
  else if s.scanBatchSize = 0 then .error (.settingIsZero "store.scan_batch_size")
  else .ok ()

end StoreSettings

/-- What new passwords must be like. -/
structure PasswordSettings where
  minLength : UInt64
deriving DecidableEq

namespace PasswordSettings

/-- Eight characters at least. -/
def default : PasswordSettings := ⟨8⟩

/-- Reads the section. -/
def read? {V : Type} (shape : Shape V) (v : V) : Option PasswordSettings :=
  match shape.record? ["min_length"] 0 v with
  | some [minLength] => do
    return { minLength := ← Shape.orDefault shape.word? default.minLength minLength }
  | _ => none

/-- The section as JSON. -/
def toJson (s : PasswordSettings) : Json := .ofFields [("min_length", .ofNat s.minLength.toNat)]

end PasswordSettings

/-- How much is logged, and in which form. -/
structure LoggingSettings where
  level : String
  format : String
deriving DecidableEq

namespace LoggingSettings

/-- The usual reports as JSON. -/
def default : LoggingSettings := ⟨"info", "json"⟩

/-- Reads the section. -/
def read? {V : Type} (shape : Shape V) (v : V) : Option LoggingSettings :=
  match shape.record? ["level", "format"] 0 v with
  | some [level, format] => do
    return {
      level := ← Shape.orDefault shape.text? default.level level
      format := ← Shape.orDefault shape.text? default.format format }
  | _ => none

/-- The section as JSON. -/
def toJson (s : LoggingSettings) : Json :=
  .ofFields [("level", .ofString s.level), ("format", .ofString s.format)]

end LoggingSettings

/-- All settings. -/
structure Settings where
  tokens : TokenSettings
  store : StoreSettings
  password : PasswordSettings
  logging : LoggingSettings
deriving DecidableEq

namespace Settings

/-- Reads all sections; only the tokens' one has to be there. -/
def read? {V : Type} (shape : Shape V) (v : V) : Option Settings :=
  match shape.record? ["tokens", "store", "password", "logging"] 1 v with
  | some [tokens, store, password, logging] => do
    return {
      tokens := ← tokens.bind (TokenSettings.read? shape)
      store := ← Shape.orDefault (StoreSettings.read? shape) StoreSettings.default store
      password := ← Shape.orDefault (PasswordSettings.read? shape) PasswordSettings.default password
      logging := ← Shape.orDefault (LoggingSettings.read? shape) LoggingSettings.default logging }
  | _ => none

/-- All settings as JSON. -/
def toJson (s : Settings) : Json :=
  .ofFields [("tokens", s.tokens.toJson), ("store", s.store.toJson),
    ("password", s.password.toJson), ("logging", s.logging.toJson)]

/-- Accepts settings whose sections are acceptable; the tokens' errors come first. -/
def validate (s : Settings) : Except ServiceError Unit :=
  match s.tokens.validate with
  | .error e => .error e
  | .ok _ => s.store.validate

end Settings

end SessionTokens
