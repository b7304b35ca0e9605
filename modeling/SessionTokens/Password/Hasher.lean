import SessionTokens.World

/-! # Password hashers

A hasher turns passwords into what may be stored, and compares a password with what was stored.
-/

namespace SessionTokens

/-- How passwords are hashed and compared. Hashing takes a fresh salt. -/
structure Hasher where
  hash : List UInt8 → String → Except ServiceError String
  verify : String → String → Except ServiceError Bool

namespace Hasher

/-- Passwords in the clear, behind a tag: for trials only. -/
def plain : Hasher where
  hash _ password := .ok ("plain:" ++ password)
  verify password hash := .ok (hash = "plain:" ++ password)

end Hasher

namespace Action

/-- The stored form of a password, under a salt of its own. -/
def hashPassword (h : Hasher) (password : String) : Action ServiceError String := fun w =>
  if w.hasherOutage = some .hash then (.error .hasherUnavailable, w)
  else (do lift (.ofExcept (h.hash (← drawSalt) password)) : Action ServiceError String) w

/-- The password is the one behind a stored form. -/
def verifyPassword (h : Hasher) (password hash : String) : Action ServiceError Bool := fun w =>
  if w.hasherOutage = some .verify then (.error .hasherUnavailable, w)
  else (.ofExcept (h.verify password hash), w)

end Action

end SessionTokens
