import SessionTokens.Mode
import SessionTokens.Text.Word

/-! # Claims

What a token says, as it is signed and transported: a flat JSON object. Which of the optional
claims a token must have depends on its mode; that is checked by `Payload.ofClaims?`.
-/

namespace SessionTokens

/-- The claims of a token. -/
structure Claims where
  /-- The user the token was issued to. -/
  sub : Option String
  /-- When the token expires, in seconds since 1970. -/
  exp : Int64
  mode : Option Mode
  /-- The token's own identifier. -/
  jti : Option String
  sessionId : Option String
  /-- The line of refresh tokens that the token belongs to. -/
  family : Option String
  /-- The address that the token was sent to. -/
  email : Option String
deriving DecidableEq

namespace Claims

instance : Inhabited Claims := ⟨⟨none, 0, none, none, none, none, none⟩⟩

/-- The names of the claims in their order. -/
def names : List String := ["sub", "exp", "mode", "jti", "session_id", "family", "email"]

/-- A claim that is there, as a field. -/
def textField (name : String) : Option String → List (String × Json)
  | some s => [(name, .ofString s)]
  | none => []

/-- The claims that are there, in their order. -/
def fields (c : Claims) : List (String × Json) :=
  textField "sub" c.sub ++ [("exp", .ofInt c.exp.toInt)] ++ textField "mode" (c.mode.map Mode.name) ++
    textField "jti" c.jti ++ textField "session_id" c.sessionId ++ textField "family" c.family ++
    textField "email" c.email

/-- The claims as a JSON object. -/
def toJson (c : Claims) : Json := .ofFields c.fields

/-- A claim that may be absent, which null means too. -/
def optional? {α : Type} (read : Json → Option α) : Option Json → Option (Option α)
  | none | some .null => some none
  | some v => (read v).map some

/-- A time of 64 bits. -/
def time? (v : Json) : Option Int64 :=
  match v.asInt? with
  | some n => if Word.isSigned n then some (.ofInt n) else none
  | none => none

/-- The claims that a JSON value writes: an object, or the values in their order, of which all
after the second may be left out. -/
def ofJson? (v : Json) : Option Claims :=
  match v.record? names 2 with
  | some [sub, exp, mode, jti, sessionId, family, email] => do
    return {
      sub := ← optional? Json.asText? sub
      exp := ← exp.bind time?
      mode := ← optional? Mode.ofJson? mode
      jti := ← optional? Json.asText? jti
      sessionId := ← optional? Json.asText? sessionId
      family := ← optional? Json.asText? family
      email := ← optional? Json.asText? email }
  | _ => none

/-- The claims that a JSON text writes. -/
def parse? (bytes : List UInt8) : Option Claims := (Json.parse? bytes).bind ofJson?

end Claims

end SessionTokens
