import SessionTokens.Json.Real
import SessionTokens.Settings.Given
import SessionTokens.Text.Word
import SessionTokens.Toml.Document

/-! # Sources of settings

The text of a file, in one of the two formats, and the variables of the environment. A file that is
not in its format stops everything; a variable always gives something.
-/

namespace SessionTokens

/-- The format of a file. -/
inductive SettingsFormat where
  | toml
  | json
deriving DecidableEq, Repr

namespace SettingsFormat

/-- What the names of such files end in, after a point. -/
def extension : SettingsFormat → String
  | .toml => "toml"
  | .json => "json"

/-- The formats in the order in which they are looked for. -/
def all : List SettingsFormat := [.toml, .json]

end SettingsFormat

namespace Given

/-! ## Files -/

/-- A value without parts. -/
def ofScalar : Toml.Scalar → Given
  | .text s => .text s
  | .integer n => .integer n
  | .real x => .real x
  | .bool b => .bool b
  | .moment s => .text s

mutual

/-- A value of a TOML document. -/
def ofToml : Toml.Value → Given
  | .scalar s => ofScalar s
  | .array items => .list (ofTomlItems items)
  | .table fields => .table (ofTomlFields fields)

/-- The items of an array. -/
def ofTomlItems : List Toml.Value → List Given
  | [] => []
  | v :: vs => ofToml v :: ofTomlItems vs

/-- The fields of a table. -/
def ofTomlFields : List (String × Toml.Value) → List (String × Given)
  | [] => []
  | (name, v) :: fs => (name, ofToml v) :: ofTomlFields fs

end

/-- A JSON number: an integer of 64 bits, with or without a sign, or else a real in range. -/
def ofJsonNumber? (n : Json.Number) : Option Given :=
  match n.toInt?.filter fun i => Word.isSigned i || (Word.unsigned? i).isSome with
  | some i => some (.integer i)
  | none => n.real?.map .real

mutual

/-- A JSON value, if its strings are text and its numbers are finite. -/
def ofJson? : Json → Option Given
  | .null => some .null
  | .bool b => some (.bool b)
  | .number n => ofJsonNumber? n
  | .string raw => (Json.text? raw).map .text
  | .array items => (ofJsonItems? items).map .list
  | .object fields => (ofJsonFields? [] fields).map .table

/-- The items of an array. -/
def ofJsonItems? : List Json → Option (List Given)
  | [] => some []
  | v :: vs => do
    let u ← ofJson? v
    let us ← ofJsonItems? vs
    return u :: us

/-- The fields of an object after those before them. A name's last value counts. -/
def ofJsonFields? (before : List (String × Given)) :
    List (List UInt8 × Json) → Option (List (String × Given))
  | [] => some before
  | (raw, v) :: fs => do
    let name ← Json.text? raw
    let u ← ofJson? v
    ofJsonFields? (alter name (fun _ => u) before) fs

end

/-- How deep JSON values may nest in a file. -/
def maxJsonDepth : Nat := 127

/-- A text without the byte order mark in front of it. -/
def withoutMark (text : String) : List Char :=
  match text.toList with
  | '\ufeff' :: cs => cs
  | cs => cs

/-- The settings in a file's text. A JSON file holds an object. -/
def ofText? (text : String) : SettingsFormat → Option (List (String × Given))
  | .toml => (Toml.parse? (withoutMark text)).map ofTomlFields
  | .json =>
    match Json.parse? (String.ofList (withoutMark text)).toUTF8.toList with
    | some (.object fields) =>
      if (Json.object fields).depth ≤ maxJsonDepth then ofJsonFields? [] fields else none
    | _ => none

/-! ## Variables -/

/-- A character in lower case. Of the characters beyond ASCII only the Kelvin sign has a lower case
that is an ASCII letter. -/
def lowerChar (c : Char) : Char := if c = '\u212a' then 'k' else c.toLower

/-- What the names of settings' variables start with, in lower case. -/
def variablePrefix : List Char := "sessionguard__".toList

/-- A name with points for the separators between its levels. -/
def pointed : List Char → List Char
  | '_' :: '_' :: cs => '.' :: pointed cs
  | c :: cs => c :: pointed cs
  | [] => []

/-- The setting that a variable's name stands for. -/
def keyOfVariable? (name : String) : Option String :=
  let lower := name.toList.map lowerChar
  if variablePrefix.isPrefixOf lower then
    some (.ofList (pointed (lower.drop variablePrefix.length)))
  else none

/-- The integer of 64 bits that a text stands for. -/
def int? (cs : List Char) : Option Int :=
  let (negative, digits) := Binary64.splitSign cs
  if digits.isEmpty || !digits.all Char.isDigit then none
  else
    let n : Int := Binary64.natOfDigits digits
    let n := if negative then -n else n
    if Word.isSigned n then some n else none

/-- The value of a variable: the first of Boolean, integer, real and text that it can be. -/
def ofVariable (text : String) : Given :=
  let lower := text.toLower
  if lower = "true" then .bool true
  else if lower = "false" then .bool false
  else
    match int? text.toList with
    | some n => .integer n
    | none =>
      match Binary64.parse? text.toList with
      | some x => .real x
      | none => .text text

/-- The settings among the variables, in the order in which the variables are visited. -/
def ofVariables (environment : List (String × String)) : List (String × Given) :=
  environment.filterMap fun v => (keyOfVariable? v.1).map fun key => (key, ofVariable v.2)

end Given

end SessionTokens
