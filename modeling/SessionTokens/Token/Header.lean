import SessionTokens.Json.Skim
import SessionTokens.Digest.Hmac

/-! # Token headers

The header names the algorithm that a token is signed with. It may say more, after RFC 7515, and
whatever it says must have the right form, though nothing but the algorithm matters here.
-/

namespace SessionTokens.Header

/-- The names of the algorithms that a header may give. -/
def algorithms : List String :=
  ["HS256", "HS384", "HS512", "ES256", "ES384", "RS256", "RS384", "RS512", "PS256", "PS384",
    "PS512", "EdDSA"]

/-- The known parameters. -/
def names : List String :=
  ["typ", "alg", "cty", "jku", "jwk", "kid", "x5u", "x5c", "x5t", "x5t#S256", "crit", "enc", "zip",
    "url", "nonce"]

/-- Absent, null, or accepted. -/
def isOptional (accept : Json → Bool) : Option Json → Bool
  | none | some .null => true
  | some v => accept v

/-- A string. -/
def isText (v : Json) : Bool := v.asText?.isSome

/-- An array of strings. -/
def isTexts : Json → Bool
  | .array items => items.all isText
  | _ => false

/-- The field is there and is a string. -/
def hasText (fields : List (String × Json)) (name : String) : Bool :=
  (Json.lookup name fields).any isText

/-- The field is there and names the given case. -/
def hasCase (fields : List (String × Json)) (name case : String) : Bool :=
  (Json.lookup name fields).any fun v => v.asCase? = some case

/-- The name of the algorithm that a key is meant for, which may be any: a string, or an object
whose one field has the name and holds nothing. -/
def isAlgorithmName : Json → Bool
  | .string _ => true
  | .object [(_, .null)] => true
  | .object [(_, .object [])] => true
  | _ => false

/-- The parameters of a type of key, its own ones used once. -/
def isKeyOf (type : String) (hasCurve : Bool) (texts : List String)
    (fields : List (String × Json)) : Bool :=
  let curves := ["P-256", "P-384", "P-521", "Ed25519"]
  let names := "kty" :: (if hasCurve then ["crv"] else []) ++ texts
  Json.namesOnce names fields && hasCase fields "kty" type && texts.all (hasText fields) &&
    (!hasCurve || curves.any (hasCase fields "crv"))

/-- The parameters that belong to a key of one of the known types. -/
def isKeyMaterial (fields : List (String × Json)) : Bool :=
  isKeyOf "EC" true ["x", "y"] fields || isKeyOf "RSA" false ["n", "e"] fields ||
    isKeyOf "oct" false ["k"] fields || isKeyOf "OKP" true ["x"] fields

/-- How deep values may nest in a key, the key included. -/
def maxKeyDepth : Nat := 126

/-- A key after RFC 7517. All that it holds must be sound, known or not. -/
def isKey (v : Json) : Bool :=
  match v with
  | .object raw =>
    match Json.namedFields? raw with
    | none => false
    | some fields =>
      let get := fun n => Json.lookup n fields
      Json.skimWithin maxKeyDepth v = .sound &&
        Json.namesOnce ["use", "key_ops", "alg", "kid", "x5u", "x5c", "x5t", "x5t#S256"] fields &&
        ["use", "kid", "x5u", "x5t", "x5t#S256"].all (fun n => isOptional isText (get n)) &&
        ["key_ops", "x5c"].all (fun n => isOptional isTexts (get n)) &&
        isOptional isAlgorithmName (get "alg") && isKeyMaterial fields
  | _ => false

/-- The algorithm that a header names, if the header is well formed: the known parameters have
their types and come once, and all others are strings. -/
def algorithm? : Json → Option String
  | .object raw =>
    match Json.namedFields? raw with
    | none => none
    | some fields =>
      let get := fun n => Json.lookup n fields
      if Json.namesOnce names fields &&
          fields.all (fun f => names.contains f.1 || isText f.2) &&
          ["typ", "cty", "jku", "kid", "x5u", "x5t", "x5t#S256", "enc", "zip", "url", "nonce"].all
            (fun n => isOptional isText (get n)) &&
          ["x5c", "crit"].all (fun n => isOptional isTexts (get n)) &&
          isOptional isKey (get "jwk") then
        match (get "alg").bind Json.asCase? with
        | some name => if algorithms.contains name then some name else none
        | none => none
      else none
  | _ => none

end SessionTokens.Header
