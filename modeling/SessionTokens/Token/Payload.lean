import SessionTokens.Token.Claims

/-! # Payloads

The claims of a token with everything its mode asks for, and nothing else.
-/

namespace SessionTokens

/-- A token's content, by its mode. -/
inductive Payload where
  | access (sub : String) (exp : Int64) (jti sessionId : String)
  | refresh (sub : String) (exp : Int64) (jti sessionId family : String)
  | verification (sub : String) (exp : Int64) (email : Option String)
  | resetPassword (sub : String) (exp : Int64) (email : Option String)
deriving DecidableEq

namespace Payload

/-- The token's mode. -/
def mode : Payload → Mode
  | .access .. => .access
  | .refresh .. => .refresh
  | .verification .. => .verification
  | .resetPassword .. => .resetPassword

/-- The user the token was issued to. -/
def sub : Payload → String
  | .access sub .. | .refresh sub .. | .verification sub .. | .resetPassword sub .. => sub

/-- When the token expires, in seconds since 1970. -/
def exp : Payload → Int64
  | .access _ exp .. | .refresh _ exp .. | .verification _ exp _ | .resetPassword _ exp _ => exp

/-- The token's own identifier. -/
def jti : Payload → Option String
  | .access _ _ jti _ | .refresh _ _ jti .. => some jti
  | .verification .. | .resetPassword .. => none

/-- The session the token belongs to. -/
def sessionId : Payload → Option String
  | .access _ _ _ sessionId | .refresh _ _ _ sessionId _ => some sessionId
  | .verification .. | .resetPassword .. => none

/-- The payload of claims that have all that their mode asks for. -/
def ofClaims? (c : Claims) : Option Payload :=
  match c.sub, c.mode with
  | some sub, some .access =>
    match c.jti, c.sessionId with
    | some jti, some sessionId => some (.access sub c.exp jti sessionId)
    | _, _ => none
  | some sub, some .refresh =>
    match c.jti, c.sessionId, c.family with
    | some jti, some sessionId, some family => some (.refresh sub c.exp jti sessionId family)
    | _, _, _ => none
  | some sub, some .verification => some (.verification sub c.exp c.email)
  | some sub, some .resetPassword => some (.resetPassword sub c.exp c.email)
  | _, _ => none

/-- The claims of a payload. -/
def toClaims : Payload → Claims
  | .access sub exp jti sessionId => ⟨some sub, exp, some .access, some jti, some sessionId, none, none⟩
  | .refresh sub exp jti sessionId family =>
    ⟨some sub, exp, some .refresh, some jti, some sessionId, some family, none⟩
  | .verification sub exp email => ⟨some sub, exp, some .verification, none, none, none, email⟩
  | .resetPassword sub exp email => ⟨some sub, exp, some .resetPassword, none, none, none, email⟩

end Payload

end SessionTokens
