import SessionTokens.Json.Basic

/-! # JSON over several lines

Every item and every field on a line of its own, two spaces further in than what it belongs to. An
empty container stays on one line.
-/

namespace SessionTokens.Json

/-- A line break and the spaces of a level. -/
def breakLine (level : Nat) : List UInt8 := 0x0A :: List.replicate (2 * level) 0x20

mutual

/-- The text of a value at a level. -/
def prettyAt (level : Nat) : Json → List UInt8
  | .array [] => [0x5B, 0x5D]
  | .array (v :: vs) =>
    0x5B :: breakLine (level + 1) ++ prettyAt (level + 1) v ++ prettyItems (level + 1) vs ++
      breakLine level ++ [0x5D]
  | .object [] => [0x7B, 0x7D]
  | .object ((name, v) :: fs) =>
    0x7B :: breakLine (level + 1) ++ (Token.string name).bytes ++ [0x3A, 0x20] ++
      prettyAt (level + 1) v ++ prettyFields (level + 1) fs ++ breakLine level ++ [0x7D]
  | .null => Token.null.bytes
  | .bool b => (Token.bool b).bytes
  | .number n => (Token.number n).bytes
  | .string raw => (Token.string raw).bytes

/-- The text of the items after the first. -/
def prettyItems (level : Nat) : List Json → List UInt8
  | [] => []
  | v :: vs => 0x2C :: breakLine level ++ prettyAt level v ++ prettyItems level vs

/-- The text of the fields after the first. -/
def prettyFields (level : Nat) : List (List UInt8 × Json) → List UInt8
  | [] => []
  | (name, v) :: fs =>
    0x2C :: breakLine level ++ (Token.string name).bytes ++ [0x3A, 0x20] ++ prettyAt level v ++
      prettyFields level fs

end

/-- The text of a value over several lines. -/
def prettyText (v : Json) : String :=
  (String.fromUTF8? (ByteArray.mk (prettyAt 0 v).toArray)).getD ""

end SessionTokens.Json
