import SessionTokens.Json.Skim
import SessionTokens.Settings.Basic
import SessionTokens.Text.Base64
import SessionTokens.Token.Claims
import SessionTokens.Token.Header

/-! # Token text

A token is its header, its claims and its signature, each in base64, with points between them. The
signature covers the text of the first two parts and is made with the secret of the token's
purpose, so a token is good for one purpose only.
-/

namespace SessionTokens

/-- What it takes to write and read tokens. -/
structure Codec where
  hash : HashFunction
  secret : Purpose → String
  /-- For how many seconds after its expiry a token is still read. -/
  leeway : UInt64

namespace Codec

/-- The codec of acceptable settings. -/
def ofSettings (s : TokenSettings) : Except ServiceError Codec :=
  match s.validate with
  | .error e => .error e
  | .ok hash => .ok {
      hash
      secret := fun
        | .session => s.accessSecret
        | .verification => s.verificationSecret
        | .resetPassword => s.resetPasswordSecret
      leeway := s.leewaySeconds }

/-! ## Writing -/

/-- The point between the parts. -/
def point : UInt8 := 0x2E

/-- The header of every token that is written. -/
def header (c : Codec) : List UInt8 :=
  (Json.ofFields [("typ", .ofString "JWT"), ("alg", .ofString c.hash.algorithm)]).compact

/-- The signature of a text for a purpose. -/
def signature (c : Codec) (p : Purpose) (text : List UInt8) : List UInt8 :=
  Hmac.sign c.hash (c.secret p).toUTF8.toList text

/-- The two parts that are signed. -/
def signedPart (c : Codec) (claims : Claims) : List UInt8 :=
  Base64.encode .url c.header ++ point :: Base64.encode .url claims.toJson.compact

/-- The bytes of a token for a purpose. -/
def tokenBytes (c : Codec) (p : Purpose) (claims : Claims) : List UInt8 :=
  let signed := c.signedPart claims
  signed ++ point :: Base64.encode .url (c.signature p signed)

/-- A text of ASCII bytes. -/
def asciiText (bytes : List UInt8) : String :=
  String.ofList (bytes.map fun b => Char.ofNat b.toNat)

/-- The token of claims, for the purpose that their mode has. -/
def encode (c : Codec) (claims : Claims) : Except Rejection String :=
  match claims.mode with
  | none => .error .structureInvalid
  | some mode => .ok (asciiText (c.tokenBytes mode.purpose claims))

/-! ## Reading -/

/-- What stands before and after the last point. -/
def splitLast : List UInt8 → Option (List UInt8 × List UInt8)
  | [] => none
  | b :: bs =>
    match splitLast bs with
    | some (before, after) => some (b :: before, after)
    | none => if b = point then some ([], bs) else none

/-- How deep values may nest inside the claims. -/
def maxDepth : Nat := 126

/-- What the check of the expiry makes of a claim that is not for it: it goes over the claim, and
must come out at its end. -/
def isPassable (skim : Json → Json.Skim) : Option Json → Bool
  | none => true
  | some v => skim v ≠ .stuck

/-- Goes over the time before which a token is not meant to be used. It plays no part, but it is
expected to be a number, so a container is not looked into. -/
def skimNotBefore : Json → Json.Skim
  | .array (_ :: _) | .object (_ :: _) => .stuck
  | v => v.skim

/-- The audience is a string or an array of strings; nobody here is meant by one. -/
def namesAudience : Option Json → Bool
  | some (.string raw) => Json.skimString raw = .sound
  | some (.array items) => items.all fun v => v.asText?.isSome
  | _ => false

/-- The claims as far as they decide whether a token is good now. -/
structure Validity where
  exp : Nat
  hasAudience : Bool

/-- Reads the claims a second time for what decides whether the token is good now. They must be an
object, in which none of these claims is repeated. -/
def validity? (v : Json) (exp : Int64) : Option Validity :=
  match v with
  | .object raw =>
    match Json.namedFields? raw with
    | none => none
    | some fields =>
      let get := fun n => Json.lookup n fields
      if Json.namesOnce ["exp", "nbf", "sub", "iss", "aud"] fields &&
          isPassable skimNotBefore (get "nbf") &&
          ["iss", "aud"].all (fun n => isPassable (Json.skimWithin maxDepth) (get n)) &&
          0 ≤ exp then
        some ⟨exp.toInt.toNat, namesAudience (get "aud")⟩
      else none
  | _ => none

/-- Accepts a validity at a time in seconds. A token that expired is told from a bad one. -/
def checkValidity (c : Codec) (now : Nat) (v : Validity) : Outcome Rejection Unit :=
  if now < c.leeway.toNat then .outOfRange
  else if v.exp < now - c.leeway.toNat then .error .expired
  else if v.hasAudience then .error .malformed
  else .ok ()

/-- The JSON value of the claims part of a token that was signed for the purpose. -/
def open? (c : Codec) (p : Purpose) (token : List UInt8) : Option Json := do
  let (signed, signature) ← splitLast token
  let (header, claims) ← splitLast signed
  let header ← Json.parse? (← Base64.decode? .url header)
  if Header.algorithm? header = some c.hash.algorithm then
    if (← Base64.decode? .url signature) = c.signature p signed then
      Json.parse? (← Base64.decode? .url claims)
    else none
  else none

/-- What a token for a purpose says, whatever the time: its claims, and what decides whether it is
good at a time. -/
def read? (c : Codec) (p : Purpose) (token : String) : Option (Claims × Validity) := do
  let v ← c.open? p token.toUTF8.toList
  let claims ← Claims.ofJson? v
  let validity ← validity? v claims.exp
  return (claims, validity)

/-- The claims of a token for a purpose, at a time in seconds. -/
def decode (c : Codec) (now : Nat) (p : Purpose) (token : String) : Outcome Rejection Claims :=
  match c.read? p token with
  | none => .error .malformed
  | some (claims, validity) => do
    c.checkValidity now validity
    return claims

end Codec

end SessionTokens
