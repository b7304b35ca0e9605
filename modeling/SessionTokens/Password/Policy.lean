import SessionTokens.Error

/-! # The password policy

What a new password must be like. The length comes before the strength, and is counted in
characters. How strong a password is, is for others to say.
-/

namespace SessionTokens.Password

/-- What is asked of a new password. -/
structure Policy where
  /-- The fewest characters. -/
  minLength : Nat
  /-- The password is hard to guess. -/
  isStrong : String → Bool

/-- Accepts a password that is long enough and hard to guess. -/
def Policy.validate (policy : Policy) (password : String) : Except ServiceError Unit :=
  if password.length < policy.minLength then .error (.passwordTooShort policy.minLength)
  else if policy.isStrong password then .ok ()
  else .error .passwordTooWeak

/-- Accepts a new password that differs from the current one. -/
def validateChanged (current new : String) : Except ServiceError Unit :=
  if current = new then .error .passwordUnchanged else .ok ()

end SessionTokens.Password
