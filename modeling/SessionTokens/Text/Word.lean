/-! # Words

Which integers fit into 64 bits, with and without a sign.
-/

namespace SessionTokens.Word

/-- The least signed integer of 64 bits. -/
def least : Int := -0x8000000000000000

/-- The greatest signed integer of 64 bits. -/
def greatest : Int := 0x7FFFFFFFFFFFFFFF

/-- The integer fits with its sign. -/
def isSigned (n : Int) : Bool := least ≤ n && n ≤ greatest

/-- The word of an integer that fits without a sign. -/
def unsigned? (n : Int) : Option UInt64 :=
  if 0 ≤ n ∧ n.toNat < UInt64.size then some (.ofNat n.toNat) else none

end SessionTokens.Word
