import SessionTokens.Json.Literal
import SessionTokens.Json.Real

/-! # Skimming JSON

A value whose content does not matter is gone over once, from its first byte to its last. What it
holds must be text and numbers in range. Where something is not, the value is broken off, and the
question is where that leaves the one who reads: at the end of the value, so that the rest can be
read as if nothing had happened, or in the middle of it, where nothing can be read any more.
-/

namespace SessionTokens.Json

/-- How going over a value ends. -/
inductive Skim where
  /-- The value can be kept. -/
  | sound
  /-- The value cannot be kept, but it has been gone over to its end. -/
  | broken
  /-- The value cannot be kept, and its end has not been reached. -/
  | stuck
deriving DecidableEq, Repr

namespace Skim

/-- Goes on with what follows. A broken part is followed by something unless it is the last one. -/
def next (first : Skim) (rest : Skim) : Skim :=
  match first with
  | .sound => rest
  | _ => .stuck

end Skim

/-- Goes over the bytes of a string as far as its escapes say what it stands for. A surrogate that
nothing follows takes the closing quote for the rest of its pair, so the string ends with it. -/
def skimEscapes : List UInt8 → Skim
  | [] => .sound
  | 0x5C :: 0x75 :: a :: b :: c :: d :: rest =>
    match hex4? a b c d with
    | none => .stuck
    | some hi =>
      if isHighSurrogate hi then
        match rest with
        | [] => .broken
        | 0x5C :: 0x75 :: a :: b :: c :: d :: rest =>
          if (hex4? a b c d).any isLowSurrogate then skimEscapes rest else .stuck
        | _ => .stuck
      else if isLowSurrogate hi then .stuck
      else skimEscapes rest
  | 0x5C :: _ :: rest => skimEscapes rest
  | _ :: rest => skimEscapes rest

/-- Goes over a string. Whether its bytes are text is seen at its end. -/
def skimString (raw : List UInt8) : Skim :=
  match skimEscapes raw with
  | .sound => if (text? raw).isSome then .sound else .broken
  | s => s

/-- Goes over a number. An exponent that is too large is broken off at the digit that makes it so,
which need not be its last one. -/
def skimNumber (n : Number) : Skim :=
  if n.isInRange then .sound
  else if n.isOverflowing && n.exponent.any (fun e => (Number.maxExponent : Int) < e / 10) then
    .stuck
  else .broken

mutual

/-- Goes over a value. -/
def skim : Json → Skim
  | .null => .sound
  | .bool _ => .sound
  | .number n => skimNumber n
  | .string raw => skimString raw
  | .array items => skimItems items
  | .object fields => skimFields fields

/-- Goes over the items of an array. -/
def skimItems : List Json → Skim
  | [] => .sound
  | [v] => v.skim
  | v :: vs => v.skim.next (skimItems vs)

/-- Goes over the fields of an object. A name is always followed by its value. -/
def skimFields : List (List UInt8 × Json) → Skim
  | [] => .sound
  | [(name, v)] => (skimString name).next v.skim
  | (name, v) :: fs => (skimString name).next (v.skim.next (skimFields fs))

end

/-- Goes over a value that may nest only so deep. -/
def skimWithin (depth : Nat) (v : Json) : Skim := if v.depth ≤ depth then v.skim else .stuck

end SessionTokens.Json
