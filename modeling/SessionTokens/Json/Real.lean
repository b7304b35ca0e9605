import SessionTokens.Json.Basic
import SessionTokens.Text.Binary64

/-! # Reals in JSON

What a number comes to that is no integer of 64 bits. Of its digits as many count as make a word;
those behind them only move the point. The word is then multiplied or divided by the power of ten,
each step rounded, so the result may be one or two units away from the number nearest to what is
written. A number that grows too large is out of range and has no value; one that grows too small
is zero.
-/

namespace SessionTokens.Json.Number

/-- The largest word. -/
def maxWord : Nat := 0xFFFFFFFFFFFFFFFF

/-- Takes digits off the end until what is left is a word; also says how many were taken. -/
def cutToWord (n : Nat) : Nat × Nat :=
  if maxWord < n then
    let r := cutToWord (n / 10)
    (r.1, r.2 + 1)
  else (n, 0)
termination_by n
decreasing_by
  unfold maxWord at *
  omega

/-- The digits that count, and the power of ten that they are multiplied with where no exponent is
written. -/
def significand (n : Number) : Nat × Int :=
  let whole := cutToWord n.whole
  let all := cutToWord (whole.1 * Nat.pow 10 n.fraction.count + n.fraction.value)
  (all.1, whole.2 + all.2 - n.fraction.count)

/-- The largest power of ten that has a number of 53 bits. -/
def maxPower : Nat := 308

/-- Ten to the given power, rounded. -/
def powerOfTen (k : Nat) : Binary64 := .ofDecimal false 1 k

/-- A word times a power of ten, in steps that are rounded. Whatever is left after two divisions by
the largest power is zero. -/
def scaledWord (digits : Nat) (exponent : Int) : Binary64 :=
  let word := Binary64.ofNat digits
  let back := exponent.natAbs
  if digits = 0 then word
  else if 0 ≤ exponent then
    if back ≤ maxPower then word.mul (powerOfTen back) else .infinite false
  else if back ≤ maxPower then word.div (powerOfTen back)
  else if back ≤ 2 * maxPower then
    (word.div (powerOfTen maxPower)).div (powerOfTen (back - maxPower))
  else .zero

/-- The largest exponent that is read. Digits that follow it are left over. -/
def maxExponent : Nat := 0x7FFFFFFF

/-- The exponent is larger than any that is read, and not for zero. -/
def isOverflowing (n : Number) : Bool :=
  n.exponent.any fun e => (maxExponent : Int) < e && n.significand.1 ≠ 0

/-- The real that the number comes to, if it is in range. -/
def real? (n : Number) : Option Binary64 :=
  let (digits, shift) := n.significand
  match scaledWord digits (shift + n.exponent.getD 0) with
  | .infinite _ => none
  | x => some (if n.negative then x.neg else x)

/-- The number has a value: it is an integer of 64 bits or a real in range. -/
def isInRange (n : Number) : Bool := n.real?.isSome

end SessionTokens.Json.Number
