import SessionTokens.Password.Hasher
import SessionTokens.Password.Policy
import SessionTokens.Settings.Basic
import SessionTokens.Store.Calls
import SessionTokens.Token.Codec
import SessionTokens.Token.Payload

/-! # Services

What stays the same while a service runs. Building one checks the settings and fixes every lifetime,
so no operation can leave the range of numbers on their account.
-/

namespace SessionTokens

/-- A service as it has been set up. -/
structure Service where
  codec : Codec
  lifetimes : Lifetimes
  /-- How many keys one step of a sweep takes; zero counts as one. -/
  batchSize : Nat
  policy : Password.Policy
  hasher : Hasher
  /-- The identifier that is minted as the `n`-th. -/
  ids : Nat → String

namespace Service

/-- A service with the given settings, password policy, hasher and source of identifiers. -/
def assemble (tokens : TokenSettings) (batchSize : Nat) (policy : Password.Policy)
    (hasher : Hasher) (ids : Nat → String) : Outcome ServiceError Service := do
  let codec ← .ofExcept (Codec.ofSettings tokens)
  let lifetimes ← tokens.lifetimes
  return { codec, lifetimes, batchSize, policy, hasher, ids }

/-- The number of keys that one step of a sweep takes. -/
def batch (svc : Service) : Nat := max svc.batchSize 1

/-- Mints an identifier. -/
def mintId {ε : Type} (svc : Service) : Action ε String := fun w =>
  (.ok (svc.ids (w.minted + 1)), { w with minted := w.minted + 1 })

/-- The given identifier, or else a new one. -/
def orMintId {ε : Type} (svc : Service) : Option String → Action ε String
  | some id => pure id
  | none => svc.mintId

end Service

/-- A lifetime in seconds as the store takes it. -/
def toMillis (seconds : UInt64) : Nat := seconds.toNat * 1000

end SessionTokens
