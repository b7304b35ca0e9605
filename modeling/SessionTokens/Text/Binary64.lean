import SessionTokens.Text.Decimal

/-! # Numbers of 53 bits

The floating-point numbers of 64 bits, as far as settings need them: reading decimal text, which
rounds to the nearest number; writing the fewest digits that read back; and rounding to a word.
Everything is exact arithmetic on natural numbers.
-/

namespace SessionTokens

/-- A floating-point number of 64 bits. -/
inductive Binary64 where
  /-- `significand * 2 ^ exponent`, the significand below `2 ^ 53` and the exponent as small as it
  can be, but at least -1074. -/
  | finite (negative : Bool) (significand : Nat) (exponent : Int)
  | infinite (negative : Bool)
  | nan
deriving DecidableEq, Repr

namespace Binary64

/-- The quotient rounded to the nearest integer, a half to the even one. -/
def divRound (num den : Nat) : Nat :=
  let q := num / den
  let twice := 2 * (num % den)
  if twice < den then q
  else if den < twice then q + 1
  else q + q % 2

/-- The fraction `num * b ^ e / den` with the power on the side where its exponent is natural. -/
def scaled (num den b : Nat) (e : Int) : Nat × Nat :=
  if 0 ≤ e then (num * b.pow e.toNat, den) else (num, den * b.pow (-e).toNat)

/-- The least significand of 53 bits. -/
def leastNormal : Nat := 0x10000000000000

/-- The exponent for which the significand of a positive fraction has 53 bits, or the least one. -/
def exponentFor (num den : Nat) : Int :=
  let guess : Int := num.log2 - den.log2 - 52
  let s := scaled num den 2 (-guess)
  max (-1074) (if s.1 < s.2 * leastNormal then guess - 1 else guess)

/-- The number nearest to a positive fraction, with the given sign. -/
def ofFraction (negative : Bool) (num den : Nat) : Binary64 :=
  let e := exponentFor num den
  let s := scaled num den 2 (-e)
  let m := divRound s.1 s.2
  if m = 2 * leastNormal then
    if e + 1 ≤ 971 then .finite negative leastNormal (e + 1) else .infinite negative
  else if e ≤ 971 then .finite negative m e
  else .infinite negative

/-- The number nearest to `digits * 10 ^ exponent`, with the given sign. The exponents from which on
everything is infinite or zero are told apart first. -/
def ofDecimal (negative : Bool) (digits : Nat) (exponent : Int) : Binary64 :=
  let length : Int := (Decimal.ofNat digits).length
  if digits = 0 || exponent + length < -330 then .finite negative 0 (-1074)
  else if 310 < exponent + length then .infinite negative
  else
    let s := scaled digits 1 10 exponent
    ofFraction negative s.1 s.2

/-! ## Arithmetic -/

/-- Zero. -/
def zero : Binary64 := .finite false 0 (-1074)

/-- The number nearest to a natural one. -/
def ofNat (n : Nat) : Binary64 := if n = 0 then zero else ofFraction false n 1

/-- The number of the same size with the other sign. -/
def neg : Binary64 → Binary64
  | .finite negative m e => .finite (!negative) m e
  | .infinite negative => .infinite (!negative)
  | .nan => .nan

/-- The number nearest to `num / den * 2 ^ e`, with the given sign. -/
def ofScaled (negative : Bool) (num den : Nat) (e : Int) : Binary64 :=
  if num = 0 then .finite negative 0 (-1074)
  else
    let s := scaled num den 2 e
    ofFraction negative s.1 s.2

/-- The product of two numbers of finite size, rounded. -/
def mul : Binary64 → Binary64 → Binary64
  | .finite s m e, .finite t n f => ofScaled (s != t) (m * n) 1 (e + f)
  | _, _ => .nan

/-- The quotient of two numbers of finite size, rounded. -/
def div : Binary64 → Binary64 → Binary64
  | .finite s m e, .finite t n f => if n = 0 then .nan else ofScaled (s != t) m n (e - f)
  | _, _ => .nan

/-! ## Reading -/

/-- The digits at the front of a text and what follows them. -/
def spanDigits (cs : List Char) : List Char × List Char := cs.span Char.isDigit

/-- The natural number that digits stand for. -/
def natOfDigits (cs : List Char) : Nat := cs.foldl (fun n c => n * 10 + (c.toNat - '0'.toNat)) 0

/-- The sign in front of a text, and what follows it. -/
def splitSign : List Char → Bool × List Char
  | '-' :: cs => (true, cs)
  | '+' :: cs => (false, cs)
  | cs => (false, cs)

/-- The exponent at the end of a number, zero where there is none. -/
def exponent? : List Char → Option Int
  | [] => some 0
  | e :: cs =>
    if e = 'e' || e = 'E' then
      let (negative, digits) := splitSign cs
      if digits.isEmpty || !digits.all Char.isDigit then none
      else if negative then some (-natOfDigits digits) else some (natOfDigits digits)
    else none

/-- The number that a text without its sign stands for. There must be a digit before or after the
point. -/
def unsigned? (negative : Bool) (cs : List Char) : Option Binary64 :=
  let word := cs.map Char.toLower
  if word = "inf".toList || word = "infinity".toList then some (.infinite negative)
  else if word = "nan".toList then some .nan
  else
    let (whole, rest) := spanDigits cs
    let (fraction, rest) :=
      match rest with
      | '.' :: rest => spanDigits rest
      | rest => ([], rest)
    if whole.isEmpty && fraction.isEmpty then none
    else
      match exponent? rest with
      | none => none
      | some e =>
        some (.ofDecimal negative (natOfDigits (whole ++ fraction)) (e - fraction.length))

/-- The number nearest to what a text stands for. -/
def parse? (cs : List Char) : Option Binary64 :=
  let (negative, rest) := splitSign cs
  unsigned? negative rest

/-! ## Writing -/

/-- A decimal number: `digits * 10 ^ exponent`. -/
structure Digits where
  digits : Nat
  exponent : Int
deriving DecidableEq, Repr

/-- The decimal reads back as `m * 2 ^ e`: it is no further from it than half the distance to the
next number on its side, and nearer if `m` is odd. Below a power of two the distance is half of
what it is above, the least exponent apart. -/
def readsBack (m : Nat) (e : Int) (d : Digits) : Bool :=
  let v := scaled (4 * m) 1 2 e
  let x := scaled (4 * d.digits) 1 10 d.exponent
  -- Four times both, over their common denominator.
  let value := v.1 * x.2
  let decimal := x.1 * v.2
  let unit := (scaled 1 1 2 e).1 * x.2
  let above := 2 * unit
  let below := if m = leastNormal && -1074 < e then unit else 2 * unit
  if m % 2 = 0 then value ≤ decimal + below && decimal ≤ value + above
  else value < decimal + below && decimal < value + above

/-- The decimals with the given exponent next to `m * 2 ^ e`, below first. -/
def neighbours (m : Nat) (e k : Int) : Digits × Digits :=
  let v := scaled m 1 2 e
  let s := scaled v.1 v.2 10 (-k)
  (⟨s.1 / s.2, k⟩, ⟨s.1 / s.2 + 1, k⟩)

/-- The neighbour below is the nearer one; a tie goes up. -/
def isNearerBelow (m : Nat) (e k : Int) : Bool :=
  let v := scaled m 1 2 e
  let s := scaled v.1 v.2 10 (-k)
  2 * (s.1 % s.2) < s.2

/-- A decimal with the given exponent that reads back, the nearer of two. -/
def candidate? (m : Nat) (e k : Int) : Option Digits :=
  let (low, high) := neighbours m e k
  match readsBack m e low && low.digits ≠ 0, readsBack m e high with
  | true, true => some (if isNearerBelow m e k then low else high)
  | true, false => some low
  | false, true => some high
  | false, false => none

/-- The shortest decimal that reads back as `m * 2 ^ e`: the first exponent that has one, from a
power of ten above the number downwards. -/
def shortest (m : Nat) (e : Int) : Digits :=
  let v := scaled m 1 2 e
  let top : Int := (Decimal.ofNat (v.1 / v.2)).length
  let top := if v.1 < v.2 then top - (Decimal.ofNat (v.2 / v.1)).length else top
  ((List.range 20).findSome? fun i => candidate? m e (top - (i : Nat))).getD ⟨0, 0⟩

/-- Decimal digits with a point where the exponent asks for one. -/
def positional (d : Digits) : String :=
  let digits := Nat.toDigits 10 d.digits
  if 0 ≤ d.exponent then String.ofList (digits ++ List.replicate d.exponent.toNat '0')
  else
    let places := (-d.exponent).toNat
    let padded := List.replicate (places + 1 - digits.length) '0' ++ digits
    let whole := padded.length - places
    String.ofList (padded.take whole ++ '.' :: padded.drop whole)

/-- The text of a number: no exponent however large or small it is, no point where it is whole. -/
def text : Binary64 → String
  | .nan => "NaN"
  | .infinite negative => if negative then "-inf" else "inf"
  | .finite negative m e =>
    (if negative then "-" else "") ++ if m = 0 then "0" else positional (shortest m e)

/-! ## Rounding -/

/-- The nearest unsigned integer of 64 bits. A half is rounded away from zero, numbers beyond an end
of the range go to that end, and what is no number goes to zero. -/
def toWord : Binary64 → UInt64
  | .nan => 0
  | .infinite negative => if negative then 0 else 0xFFFFFFFFFFFFFFFF
  | .finite negative m e =>
    if negative then 0
    else
      let v := scaled m 1 2 e
      .ofNat (min ((2 * v.1 + v.2) / (2 * v.2)) 0xFFFFFFFFFFFFFFFF)

end Binary64

end SessionTokens
