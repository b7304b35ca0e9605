import SessionTokens.Json.Literal
import SessionTokens.Text.Word

/-! # JSON values

A value is read from its tokens one at a time, with the containers that are still open kept as a
stack. The reader is therefore a fold over the tokens: there is nothing to say about its end, and
nesting has no limit but the one a caller asks for (`Json.depth`).
-/

namespace SessionTokens

/-- A JSON value. Strings and the names of fields are kept as written, see `Json.text?`. -/
inductive Json where
  | null
  | bool (b : Bool)
  | number (n : Json.Number)
  | string (raw : List UInt8)
  | array (items : List Json)
  | object (fields : List (List UInt8 × Json))

namespace Json

instance : Inhabited Json := ⟨.null⟩

/-! ## Building -/

/-- A text. -/
def ofString (s : String) : Json := .string (quote s)

/-- An integer. -/
def ofInt (n : Int) : Json := .number (.ofInt n)

/-- A natural number. -/
def ofNat (n : Nat) : Json := ofInt n

/-- An object with the given fields in the given order. -/
def ofFields (fields : List (String × Json)) : Json :=
  .object (fields.map fun f => (quote f.1, f.2))

/-- The value, or null. -/
def ofOption {α : Type} (f : α → Json) : Option α → Json
  | none => .null
  | some a => f a

/-! ## Reading -/

/-- A container that has been opened: what it holds so far, the last first, and for an object the
name whose value is being read. -/
inductive Frame where
  | array (done : List Json)
  | object (done : List (List UInt8 × Json)) (name : List UInt8)

/-- What has been read, seen from what may come next. -/
inductive Reader where
  /-- A value must come. -/
  | value (stack : List Frame)
  /-- An array has just been opened. -/
  | arrayStart (stack : List Frame)
  /-- An item of an array has been read. -/
  | arrayNext (done : List Json) (stack : List Frame)
  /-- An object has just been opened. -/
  | objectStart (stack : List Frame)
  /-- A name must come. -/
  | fieldStart (done : List (List UInt8 × Json)) (stack : List Frame)
  /-- A name has been read. -/
  | colon (done : List (List UInt8 × Json)) (name : List UInt8) (stack : List Frame)
  /-- A field of an object has been read. -/
  | objectNext (done : List (List UInt8 × Json)) (stack : List Frame)
  /-- The whole value has been read. -/
  | complete (v : Json)

/-- Puts a finished value where it belongs. -/
def Reader.put (v : Json) : List Frame → Reader
  | [] => .complete v
  | .array done :: stack => .arrayNext (v :: done) stack
  | .object done name :: stack => .objectNext ((name, v) :: done) stack

/-- Begins a value with its first token. -/
def Reader.begin (stack : List Frame) : Token → Option Reader
  | .null => some (.put .null stack)
  | .bool b => some (.put (.bool b) stack)
  | .number n => some (.put (.number n) stack)
  | .string raw => some (.put (.string raw) stack)
  | .openArray => some (.arrayStart stack)
  | .openObject => some (.objectStart stack)
  | _ => none

/-- One token further. -/
def Reader.step : Reader → Token → Option Reader
  | .value stack, t => Reader.begin stack t
  | .arrayStart stack, .closeArray => some (.put (.array []) stack)
  | .arrayStart stack, t => Reader.begin (.array [] :: stack) t
  | .arrayNext done stack, .comma => some (.value (.array done :: stack))
  | .arrayNext done stack, .closeArray => some (.put (.array done.reverse) stack)
  | .objectStart stack, .closeObject => some (.put (.object []) stack)
  | .objectStart stack, .string raw => some (.colon [] raw stack)
  | .fieldStart done stack, .string raw => some (.colon done raw stack)
  | .colon done name stack, .colon => some (.value (.object done name :: stack))
  | .objectNext done stack, .comma => some (.fieldStart done stack)
  | .objectNext done stack, .closeObject => some (.put (.object done.reverse) stack)
  | _, _ => none

/-- All the tokens, one after another. -/
def Reader.run (r : Reader) : List Token → Option Reader
  | [] => some r
  | t :: ts =>
    match r.step t with
    | none => none
    | some r => r.run ts

/-- The value that the tokens write, if they write exactly one. -/
def ofTokens? (ts : List Token) : Option Json :=
  match (Reader.value []).run ts with
  | some (.complete v) => some v
  | _ => none

/-- The value that a text writes: one value, with nothing but blanks around it. -/
def parse? (bs : List UInt8) : Option Json :=
  match tokens? bs with
  | none => none
  | some ts => ofTokens? ts

/-! ## Writing -/

mutual

/-- The tokens that write a value. -/
def toTokens : Json → List Token
  | .null => [.null]
  | .bool b => [.bool b]
  | .number n => [.number n]
  | .string raw => [.string raw]
  | .array items => .openArray :: itemTokens items ++ [.closeArray]
  | .object fields => .openObject :: fieldTokens fields ++ [.closeObject]

/-- The tokens of an array's items, with the commas between them. -/
def itemTokens : List Json → List Token
  | [] => []
  | [v] => v.toTokens
  | v :: vs => v.toTokens ++ .comma :: itemTokens vs

/-- The tokens of an object's fields, with the commas between them. -/
def fieldTokens : List (List UInt8 × Json) → List Token
  | [] => []
  | [(name, v)] => .string name :: .colon :: v.toTokens
  | (name, v) :: fs => .string name :: .colon :: v.toTokens ++ .comma :: fieldTokens fs

end

/-- The shortest text of a value: no blanks. -/
def compact (v : Json) : List UInt8 := v.toTokens.flatMap Token.bytes

/-- The compact text as a string. Its bytes are a text whenever those of its strings are. -/
def compactText (v : Json) : String :=
  (String.fromUTF8? (ByteArray.mk v.compact.toArray)).getD ""

/-! ## Looking into a value -/

mutual

/-- How many containers are nested in one another, this one included. -/
def depth : Json → Nat
  | .array items => depthItems items + 1
  | .object fields => depthFields fields + 1
  | _ => 0

/-- The largest depth of the items. -/
def depthItems : List Json → Nat
  | [] => 0
  | v :: vs => max v.depth (depthItems vs)

/-- The largest depth of the fields' values. -/
def depthFields : List (List UInt8 × Json) → Nat
  | [] => 0
  | (_, v) :: fs => max v.depth (depthFields fs)

end

/-- The text, if the value is a string that is the writing of one. -/
def asText? : Json → Option String
  | .string raw => text? raw
  | _ => none

/-- The integer, if the value is a number written as one. -/
def asInt? : Json → Option Int
  | .number n => n.toInt?
  | _ => none

/-- The integer, if it is an unsigned one of 64 bits. -/
def asWord? (v : Json) : Option UInt64 := v.asInt?.bind Word.unsigned?

/-- The Boolean. -/
def asBool? : Json → Option Bool
  | .bool b => some b
  | _ => none

/-- The name of a case without content: a string, or an object whose one field has the name and
holds null. -/
def asCase? : Json → Option String
  | .string raw => text? raw
  | .object [(raw, .null)] => text? raw
  | _ => none

/-- The fields of an object with their names read. All names must be text, even those nobody asks
for. -/
def namedFields? : List (List UInt8 × Json) → Option (List (String × Json))
  | [] => some []
  | (raw, v) :: fs =>
    match text? raw, namedFields? fs with
    | some name, some named => some ((name, v) :: named)
    | _, _ => none

/-- The value of the first field with this name. -/
def lookup (name : String) (fields : List (String × Json)) : Option Json :=
  (fields.find? (·.1 = name)).map (·.2)

/-- The names that a record has are used at most once each. -/
def namesOnce (names : List String) (fields : List (String × Json)) : Bool :=
  names.all fun n => (fields.filter (·.1 = n)).length ≤ 1

/-- A field of an object by its name. -/
def field? (v : Json) (name : String) : Option Json :=
  match v with
  | .object fields => (fields.find? fun f => text? f.1 = some name).map (·.2)
  | _ => none

/-- The values of a record's fields, in the order of `names`. An object gives them by name: unknown
names are passed over, and a known one may not be repeated. An array gives them by position: it has
at least the first `required` and nothing beyond the last. -/
def record? (names : List String) (required : Nat) : Json → Option (List (Option Json))
  | .object fields =>
    match namedFields? fields with
    | none => none
    | some named =>
      if namesOnce names named then some (names.map fun n => lookup n named) else none
  | .array items =>
    if required ≤ items.length ∧ items.length ≤ names.length then
      some ((List.range names.length).map fun i => items[i]?)
    else none
  | _ => none

end Json

end SessionTokens
