/-! # Decimal digits

Numbers as ASCII bytes. `ofNat` writes the shortest form and `readDigits` reads the longest run of
digits at the front, so reading what was written gives the number back whenever no digit follows.
-/

namespace SessionTokens.Decimal

/-- The byte is one of `0` to `9`. -/
def isDigit (b : UInt8) : Bool := 0x30 ≤ b && b ≤ 0x39

/-- The byte of a digit below ten. -/
def digit (n : Nat) : UInt8 := 0x30 + UInt8.ofNat n

/-- The decimal digits of a number, without leading zeros. -/
def ofNat (n : Nat) : List UInt8 :=
  if n < 10 then [digit n] else ofNat (n / 10) ++ [digit (n % 10)]

/-- The decimal text of an integer: a minus sign where it is negative. -/
def ofInt : Int → List UInt8
  | .ofNat n => ofNat n
  | .negSucc n => 0x2D :: ofNat (n + 1)

/-- A run of digits that has been read: its value and how many digits it has. -/
structure Run where
  value : Nat
  count : Nat
deriving DecidableEq, Repr

/-- One more digit at the end of the run. -/
def Run.push (r : Run) (b : UInt8) : Run := ⟨r.value * 10 + (b.toNat - 0x30), r.count + 1⟩

/-- Continues a run with the digits at the front, and gives what follows them. -/
def readDigitsFrom (r : Run) : List UInt8 → Run × List UInt8
  | [] => (r, [])
  | b :: bs => if isDigit b then readDigitsFrom (r.push b) bs else (r, b :: bs)

/-- The run of digits at the front and what follows it. -/
def readDigits (bs : List UInt8) : Run × List UInt8 := readDigitsFrom ⟨0, 0⟩ bs

theorem length_readDigitsFrom (r : Run) (bs : List UInt8) :
    (readDigitsFrom r bs).2.length + (readDigitsFrom r bs).1.count = bs.length + r.count := by
  induction bs generalizing r with
  | nil => simp [readDigitsFrom]
  | cons b bs ih =>
    unfold readDigitsFrom
    split
    · rw [ih]; simp [Run.push]; omega
    · simp

theorem length_readDigits (bs : List UInt8) :
    (readDigits bs).2.length + (readDigits bs).1.count = bs.length :=
  length_readDigitsFrom ⟨0, 0⟩ bs

/-- The number that a text of digits alone stands for. -/
def toNat? (bs : List UInt8) : Option Nat :=
  match readDigits bs with
  | (r, []) => if r.count = 0 then none else some r.value
  | _ => none

/-- What follows a plus sign in front. -/
def skipPlus : List UInt8 → List UInt8
  | 0x2B :: rest => rest
  | bytes => bytes

/-- The number of 64 bits that a decimal text stands for. A plus sign may stand in front. -/
def word? (text : String) : Option Nat :=
  match Decimal.toNat? (skipPlus text.toUTF8.toList) with
  | some n => if n < UInt64.size then some n else none
  | none => none

end SessionTokens.Decimal
