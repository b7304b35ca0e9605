/-! # Base64 without padding

Three bytes are written as four symbols. A shorter last group is written with as many symbols as
its bits need, and reading is strict: the bits that the last symbol has to spare must be zero, so
every text is the writing of at most one sequence of bytes.
-/

namespace SessionTokens.Base64

/-- Which two symbols follow the letters and digits. -/
inductive Alphabet where
  /-- `+` and `/`. -/
  | standard
  /-- `-` and `_`, which are safe in addresses. -/
  | url
deriving DecidableEq, Repr

/-- The symbol of a number below 64. -/
def symbol (a : Alphabet) (n : Nat) : UInt8 :=
  if n < 26 then UInt8.ofNat (0x41 + n)
  else if n < 52 then UInt8.ofNat (0x61 + (n - 26))
  else if n < 62 then UInt8.ofNat (0x30 + (n - 52))
  else
    match a with
    | .standard => if n = 62 then 0x2B else 0x2F
    | .url => if n = 62 then 0x2D else 0x5F

/-- The number that a symbol stands for. -/
def value? (a : Alphabet) (b : UInt8) : Option Nat :=
  if 0x41 ≤ b && b ≤ 0x5A then some (b.toNat - 0x41)
  else if 0x61 ≤ b && b ≤ 0x7A then some (b.toNat - 0x61 + 26)
  else if 0x30 ≤ b && b ≤ 0x39 then some (b.toNat - 0x30 + 52)
  else
    match a with
    | .standard => if b = 0x2B then some 62 else if b = 0x2F then some 63 else none
    | .url => if b = 0x2D then some 62 else if b = 0x5F then some 63 else none

/-- The writing of a sequence of bytes. -/
def encode (a : Alphabet) : List UInt8 → List UInt8
  | x :: y :: z :: rest =>
    symbol a (x.toNat / 4) :: symbol a (x.toNat % 4 * 16 + y.toNat / 16) ::
      symbol a (y.toNat % 16 * 4 + z.toNat / 64) :: symbol a (z.toNat % 64) :: encode a rest
  | [x, y] =>
    [symbol a (x.toNat / 4), symbol a (x.toNat % 4 * 16 + y.toNat / 16), symbol a (y.toNat % 16 * 4)]
  | [x] => [symbol a (x.toNat / 4), symbol a (x.toNat % 4 * 16)]
  | [] => []

/-- The bytes that a text writes. -/
def decode? (a : Alphabet) : List UInt8 → Option (List UInt8)
  | p :: q :: r :: s :: rest =>
    match value? a p, value? a q, value? a r, value? a s, decode? a rest with
    | some p, some q, some r, some s, some bytes =>
      some (UInt8.ofNat (p * 4 + q / 16) :: UInt8.ofNat (q % 16 * 16 + r / 4) ::
        UInt8.ofNat (r % 4 * 64 + s) :: bytes)
    | _, _, _, _, _ => none
  | [p, q, r] =>
    match value? a p, value? a q, value? a r with
    | some p, some q, some r =>
      if r % 4 = 0 then some [UInt8.ofNat (p * 4 + q / 16), UInt8.ofNat (q % 16 * 16 + r / 4)]
      else none
    | _, _, _ => none
  | [p, q] =>
    match value? a p, value? a q with
    | some p, some q => if q % 16 = 0 then some [UInt8.ofNat (p * 4 + q / 16)] else none
    | _, _ => none
  | [_] => none
  | [] => some []

end SessionTokens.Base64
