import SessionTokens.Settings.Basic
import SessionTokens.Text.Binary64
import SessionTokens.Text.Word

/-! # Settings as they are given

Files and variables give settings as loosely typed values, and several of them are laid over one
another: a table is merged key by key, everything else replaces what was there. What comes out is
read with `Given.shape`, where a scalar stands for one of another type as far as that makes sense.
-/

namespace SessionTokens

/-- A value as a file or a variable gives it. -/
inductive Given where
  | null
  | bool (b : Bool)
  | integer (n : Int)
  | real (x : Binary64)
  | text (s : String)
  | list (items : List Given)
  | table (fields : List (String × Given))

namespace Given

instance : Inhabited Given := ⟨.null⟩

/-- The fields of a table; other values have none. -/
def fields : Given → List (String × Given)
  | .table fields => fields
  | _ => []

/-- The items of a list; other values have none. -/
def items : Given → List Given
  | .list items => items
  | _ => []

/-! ## Layers -/

/-- Changes the value of a field. A new field is added with what null changes to. -/
def alter (name : String) (f : Given → Given) : List (String × Given) → List (String × Given)
  | [] => [(name, f .null)]
  | (n, v) :: rest => if n = name then (n, f v) :: rest else (n, v) :: alter name f rest

mutual

/-- The first value with the second one laid over it. -/
def overlay (below : Given) : Given → Given
  | .null => .null
  | .bool b => .bool b
  | .integer n => .integer n
  | .real x => .real x
  | .text s => .text s
  | .list items => .list items
  | .table fields => .table (overlayFields below.fields fields)

/-- The first table's fields with those of the second one laid over them. -/
def overlayFields (below : List (String × Given)) :
    List (String × Given) → List (String × Given)
  | [] => below
  | (name, v) :: rest => overlayFields (alter name (fun u => overlay u v) below) rest

end

/-! ## Reading -/

/-- The text of a scalar. -/
def asText? : Given → Option String
  | .text s => some s
  | .bool b => some (if b then "true" else "false")
  | .integer n => some (toString n)
  | .real x => some x.text
  | _ => none

/-- The word that a text stands for: one, zero or a number. -/
def wordOfText? (s : String) : Option UInt64 :=
  let w := s.toLower
  if w = "true" || w = "on" || w = "yes" then some 1
  else if w = "false" || w = "off" || w = "no" then some 0
  else (Decimal.word? s).map .ofNat

/-- The unsigned integer of 64 bits that a scalar stands for. Reals are rounded and stay in range,
integers must be in range. -/
def asWord? : Given → Option UInt64
  | .integer n => Word.unsigned? n
  | .real x => some x.toWord
  | .bool b => some (if b then 1 else 0)
  | .text s => wordOfText? s
  | _ => none

/-- The values of a record's fields, in the order of `names`. A table gives them by name, a list by
position; what is beyond them does not matter. -/
def record? (names : List String) (required : Nat) : Given → Option (List (Option Given))
  | .table fields => some (names.map fun n => (fields.find? (·.1 = n)).map (·.2))
  | .list items =>
    if required ≤ items.length then some ((List.range names.length).map fun i => items[i]?)
    else none
  | _ => none

/-- Given values are looked into loosely. -/
def shape : Shape Given := ⟨asText?, asWord?, record?⟩

end Given

end SessionTokens
