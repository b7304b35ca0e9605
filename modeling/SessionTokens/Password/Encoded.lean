import SessionTokens.Digest.Argon2.Basic
import SessionTokens.Error
import SessionTokens.Password.Hasher
import SessionTokens.Text.Base64
import SessionTokens.Text.Decimal

/-! # Encoded password hashes

The text that a password hash is stored as: dollar signs before the name of the function, its
version, its parameters, the salt and the hash, of which all but the first may be missing. Whether
the text has this form comes first; whether its parts make sense only matters when a password is
held against it.
-/

namespace SessionTokens.Password

/-- The parts of an encoded hash. -/
structure Encoded where
  algorithm : String
  version : Option Nat
  parameters : List (String × String)
  salt : Option String
  hash : Option (List UInt8)
deriving DecidableEq

namespace Encoded

/-- The bytes of a text. -/
def bytesOf (s : String) : List UInt8 := s.toUTF8.toList

/-- A text at the given characters, which belong to neither side. -/
def split (sep : Char) (s : String) : List String :=
  (s.toList.splitOnP (· = sep)).map String.ofList

/-- A character of a name. -/
def isNameChar (c : Char) : Bool := c.isLower || c.isDigit || c = '-'

/-- A name: one to 32 lower-case letters, digits and hyphens. -/
def isName (s : String) : Bool := 1 ≤ s.length && s.length ≤ 32 && s.toList.all isNameChar

/-- A character of a value. -/
def isValueChar (c : Char) : Bool := c.isAlphanum || c = '/' || c = '+' || c = '.' || c = '-'

/-- A value: at most 64 letters, digits and signs. -/
def isValue (s : String) : Bool := s.length ≤ 64 && s.toList.all isValueChar

/-- The number of 32 bits that a value writes, without leading zeros. -/
def decimal? (s : String) : Option Nat :=
  match Decimal.toNat? (bytesOf s) with
  | some n => if n < UInt32.size && (s.length = 1 || s.toList.head? ≠ some '0') then some n else none
  | none => none

/-- A parameter: a name and its value. -/
def parameter? (s : String) : Option (String × String) :=
  match split '=' s with
  | [name, value] => if isName name && isValue value then some (name, value) else none
  | _ => none

/-- Parameters with commas between them. -/
def parameters? (s : String) : Option (List (String × String)) :=
  if 127 < s.utf8ByteSize then none else (split ',' s).mapM parameter?

/-- A salt as it is written: 4 to 64 characters of a value. -/
def salt? (s : String) : Option String :=
  if 4 ≤ s.length && isValue s then some s else none

/-- A hash of 10 to 64 bytes. -/
def hash? (s : String) : Option (List UInt8) :=
  match Base64.decode? .standard (bytesOf s) with
  | some bytes => if 10 ≤ bytes.length && bytes.length ≤ 64 then some bytes else none
  | none => none

/-- The version field, if it is the next one. -/
def takeVersion? : List String → Option (Option Nat × List String)
  | field :: rest =>
    match field.toList with
    | 'v' :: '=' :: digits =>
      if digits.contains ',' then some (none, field :: rest)
      else
        let value := String.ofList digits
        if isValue value then (decimal? value).map fun n => (some n, rest) else none
    | _ => some (none, field :: rest)
  | [] => some (none, [])

/-- The parameters' field, if it is the next one. -/
def takeParameters? : List String → Option (List (String × String) × List String)
  | field :: rest =>
    if field.toList.contains '=' then (parameters? field).map fun ps => (ps, rest)
    else some ([], field :: rest)
  | [] => some ([], [])

/-- The salt and the hash, as far as they are there; nothing follows them. -/
def takeSaltAndHash? : List String → Option (Option String × Option (List UInt8))
  | [] => some (none, none)
  | [salt] => (salt? salt).map fun s => (some s, none)
  | [salt, hash] =>
    match salt? salt, hash? hash with
    | some s, some h => some (some s, some h)
    | _, _ => none
  | _ => none

/-- The parts of a text of the right form. -/
def parse? (s : String) : Option Encoded :=
  match split '$' s with
  | before :: algorithm :: fields =>
    if before.isEmpty && isName algorithm then do
      let (version, fields) ← takeVersion? fields
      let (parameters, fields) ← takeParameters? fields
      let (salt, hash) ← takeSaltAndHash? fields
      return { algorithm, version, parameters, salt, hash }
    else none
  | _ => none

/-- The variant of Argon2 with this name. -/
def variant? (s : String) : Option Argon2.Variant :=
  if s = "argon2d" then some .d
  else if s = "argon2i" then some .i
  else if s = "argon2id" then some .id
  else none

/-- The parameters that stand for themselves where nothing else is said: 19 MiB, two passes, one
lane. -/
def defaults (variant : Argon2.Variant) : Argon2.Parameters where
  variant
  version := 0x13
  memory := 19456
  passes := 2
  lanes := 1
  associated := []
  size := 32

/-- One more parameter. A key's identifier must be well formed, and does nothing. -/
def addParameter? (p : Argon2.Parameters) : String × String → Option Argon2.Parameters
  | ("m", value) => (decimal? value).map fun n => { p with memory := n }
  | ("t", value) => (decimal? value).map fun n => { p with passes := n }
  | ("p", value) => (decimal? value).map fun n => { p with lanes := n }
  | ("keyid", value) =>
    match Base64.decode? .standard (bytesOf value) with
    | some bytes => if bytes.length ≤ 8 then some p else none
    | none => none
  | ("data", value) =>
    match Base64.decode? .standard (bytesOf value) with
    | some bytes => if bytes.length ≤ 32 then some { p with associated := bytes } else none
    | none => none
  | _ => none

/-- The parameters can be worked with. -/
def isUsable (p : Argon2.Parameters) : Bool :=
  1 ≤ p.lanes && p.lanes < 0x1000000 && 8 * p.lanes ≤ p.memory && 1 ≤ p.passes &&
    (p.version = 0x10 || p.version = 0x13)

/-- The parameters and the salt that an encoded hash was made with. -/
def recipe? (e : Encoded) (salt : String) (size : Nat) : Option (Argon2.Parameters × List UInt8) := do
  let variant ← variant? e.algorithm
  let p ← e.parameters.foldlM addParameter?
    { defaults variant with version := e.version.getD 0x13, size }
  let salt ← Base64.decode? .standard (bytesOf salt)
  if isUsable p && 8 ≤ salt.length then return (p, salt) else none

/-- The password is the one that was hashed. Without a hash there, none is. -/
def verify (e : Encoded) (password : String) : Except ServiceError Bool :=
  match e.salt, e.hash with
  | some salt, some hash =>
    match e.recipe? salt hash.length with
    | some (p, salt) => .ok (Argon2.hash p (bytesOf password) salt = hash)
    | none => .error .hashNotVerifiable
  | _, _ => .ok false

/-- The text of bytes without padding. -/
def base64Text (bytes : List UInt8) : String :=
  String.ofList ((Base64.encode .standard bytes).map fun b => Char.ofNat b.toNat)

/-- The encoded hash of a password under a salt, with the default parameters. -/
def make (salt : List UInt8) (password : String) : Encoded where
  algorithm := "argon2id"
  version := some 0x13
  parameters := [("m", "19456"), ("t", "2"), ("p", "1")]
  salt := some (base64Text salt)
  hash := some (Argon2.hash (defaults .id) (bytesOf password) salt)

/-- A field after its dollar sign, if it is there. -/
def field : Option String → String
  | some s => "$" ++ s
  | none => ""

/-- The fields before the salt. -/
def recipeText (e : Encoded) : String :=
  field (some e.algorithm) ++ field (e.version.map fun n => "v=" ++ toString n) ++
    field (if e.parameters.isEmpty then none
      else some (",".intercalate (e.parameters.map fun p => p.1 ++ "=" ++ p.2)))

/-- The text of an encoded hash. -/
def text (e : Encoded) : String := e.recipeText ++ field e.salt ++ field (e.hash.map base64Text)

end Encoded

end SessionTokens.Password

namespace SessionTokens.Hasher

/-- Argon2id with the default parameters; hashes of all variants are verified. -/
def argon2 : Hasher where
  hash salt password := .ok (Password.Encoded.make salt password).text
  verify password hash :=
    match Password.Encoded.parse? hash with
    | some e => e.verify password
    | none => .error .invalidHashFormat

end SessionTokens.Hasher
