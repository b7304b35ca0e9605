import SessionTokens.Password.Encoded
import SessionTokens.Password.Strength
import SessionTokens.Service
import SessionTokens.Store.Provider

/-! # What the program is set up with

A service takes it as given how strong a password is and which identifiers are minted, and a store
that is not in memory is reached by a client. This is what the program puts in their places: the
estimate of guesses, identifiers that are counted, and no client at all.
-/

namespace SessionTokens

/-- The policy of the program: the estimate decides how strong a password is. -/
def Password.Policy.estimated (minLength : Nat) : Policy := ⟨minLength, Password.isStrong⟩

/-- Accepts a password of at least `min` characters that takes many guesses. -/
def Password.validate (min : Nat) (password : String) : Except ServiceError Unit :=
  (Policy.estimated min).validate password

/-- A service with the given settings, whose identifiers are counted. -/
def Service.build (tokens : TokenSettings) (batchSize minLength : Nat) (hasher : Hasher) :
    Outcome ServiceError Service :=
  assemble tokens batchSize (.estimated minLength) hasher Action.idText

/-- Connects to the external store at an address. There is none within reach. -/
def Endpoint.connect (_url : String) : Except ServiceError MemoryStore := .error .storeUnreachable

/-- Opens the store of the given kind, an external one at the given address. -/
def Provider.openStore (provider url : String) : Except ServiceError MemoryStore :=
  openWith Endpoint.connect provider url

end SessionTokens
