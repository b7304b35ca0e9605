import SessionTokens.Json.Basic
import SessionTokens.Key

/-! # Token modes

What a token is for. Access and refresh tokens belong to a session and share a secret; the other
two are each signed with one of their own.
-/

namespace SessionTokens

/-- What a token is for. -/
inductive Mode where
  | access
  | refresh
  | verification
  | resetPassword
deriving DecidableEq, Repr

/-- Which secret signs a token. -/
inductive Purpose where
  | session
  | verification
  | resetPassword
deriving DecidableEq, Repr

namespace Mode

/-- The name of a mode inside a token. -/
def name : Mode → String
  | .access => "access_token"
  | .refresh => "refresh_token"
  | .verification => "verification_token"
  | .resetPassword => "reset_password_token"

/-- Every mode. -/
def all : List Mode := [.access, .refresh, .verification, .resetPassword]

/-- The mode with this name. -/
def ofName? (s : String) : Option Mode := all.find? (·.name = s)

@[simp] theorem ofName?_name (m : Mode) : ofName? m.name = some m := by
  cases m <;> decide +kernel

/-- The mode that a JSON value names. -/
def ofJson? (v : Json) : Option Mode :=
  match v.asCase? with
  | some s => ofName? s
  | none => none

/-- The mode belongs to a session. -/
def isSessionBound : Mode → Bool
  | .access | .refresh => true
  | .verification | .resetPassword => false

/-- Where the identifier of a session's live token of this mode is kept. -/
def liveness? : Mode → Option Namespace
  | .access => some .access
  | .refresh => some .refresh
  | .verification | .resetPassword => none

/-- The secret that signs tokens of this mode. -/
def purpose : Mode → Purpose
  | .access | .refresh => .session
  | .verification => .verification
  | .resetPassword => .resetPassword

end Mode

end SessionTokens
