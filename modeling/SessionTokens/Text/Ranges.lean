/-! # Ranges of characters

A class of characters, given by the numbers that its ranges begin and end with.
-/

namespace SessionTokens.Text

/-- The character lies in one of the ranges, ends included. -/
def inRanges (ranges : List (Nat × Nat)) (c : Char) : Bool :=
  ranges.any fun r => r.1 ≤ c.toNat && c.toNat ≤ r.2

end SessionTokens.Text
