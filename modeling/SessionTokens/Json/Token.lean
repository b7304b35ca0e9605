import SessionTokens.Text.Decimal

/-! # JSON tokens

The lexical part of RFC 8259, over bytes. A string token keeps the bytes between its quotes as they
are written: escapes are checked for their shape only, and the text is decoded by `Json.text?`
when somebody wants it. A value that nobody reads may therefore hold lone surrogates or bytes that
are no text, and still be skipped.
-/

namespace SessionTokens.Json

/-- A number as written: its sign, the whole part, the digits after the point and the exponent. -/
structure Number where
  negative : Bool
  whole : Nat
  /-- No digits where there is no point. -/
  fraction : Decimal.Run
  exponent : Option Int
deriving DecidableEq, Repr

namespace Number

/-- The number that writes an integer. -/
def ofInt (n : Int) : Number := ⟨decide (n < 0), n.natAbs, ⟨0, 0⟩, none⟩

/-- The number is written as a plain integer, with neither a fraction nor an exponent. -/
def isPlain (n : Number) : Bool := n.fraction.count = 0 && n.exponent.isNone

/-- The integer that the number writes; `-0` is no integer. -/
def toInt? (n : Number) : Option Int :=
  if !n.isPlain then none
  else if n.negative then if n.whole = 0 then none else some (-n.whole)
  else some n.whole

/-- The digits of a fraction, with the zeros it begins with. -/
def fractionBytes (r : Decimal.Run) : List UInt8 :=
  let digits := Decimal.ofNat r.value
  List.replicate (r.count - digits.length) 0x30 ++ digits

/-- The text of a number. -/
def bytes (n : Number) : List UInt8 :=
  (if n.negative then [0x2D] else []) ++ Decimal.ofNat n.whole ++
    (if n.fraction.count = 0 then [] else 0x2E :: fractionBytes n.fraction) ++
    match n.exponent with
    | none => []
    | some e => 0x65 :: Decimal.ofInt e

end Number

/-- The pieces that JSON text is made of. -/
inductive Token where
  | openObject
  | closeObject
  | openArray
  | closeArray
  | colon
  | comma
  | null
  | bool (b : Bool)
  | number (n : Number)
  | string (raw : List UInt8)
deriving DecidableEq, Repr

/-- Space, tab, line feed and carriage return. -/
def isBlank (b : UInt8) : Bool := b = 0x20 || b = 0x09 || b = 0x0A || b = 0x0D

/-- The value of a hexadecimal digit in either case. -/
def hexDigit? (b : UInt8) : Option Nat :=
  if Decimal.isDigit b then some (b.toNat - 0x30)
  else if 0x61 ≤ b && b ≤ 0x66 then some (b.toNat - 0x57)
  else if 0x41 ≤ b && b ≤ 0x46 then some (b.toNat - 0x37)
  else none

/-- The bytes that may follow a backslash, `u` apart. -/
def isEscape (b : UInt8) : Bool :=
  b = 0x22 || b = 0x5C || b = 0x2F || b = 0x62 || b = 0x66 || b = 0x6E || b = 0x72 || b = 0x74

/-- Reads a string after its opening quote up to and with its closing one. Control characters must
be escaped, and an escape has one of the known shapes. -/
def readString : List UInt8 → Option (List UInt8 × List UInt8)
  | [] => none
  | 0x22 :: rest => some ([], rest)
  | 0x5C :: 0x75 :: a :: b :: c :: d :: rest =>
    if (hexDigit? a).isSome && (hexDigit? b).isSome && (hexDigit? c).isSome && (hexDigit? d).isSome
    then (readString rest).map fun r => (0x5C :: 0x75 :: a :: b :: c :: d :: r.1, r.2)
    else none
  | 0x5C :: e :: rest =>
    if isEscape e then (readString rest).map fun r => (0x5C :: e :: r.1, r.2) else none
  | b :: rest =>
    if b < 0x20 || b = 0x5C then none else (readString rest).map fun r => (b :: r.1, r.2)

theorem length_readString {bs raw rest : List UInt8} (h : readString bs = some (raw, rest)) :
    rest.length < bs.length := by
  fun_induction readString bs generalizing raw <;>
    simp only [Option.map_eq_some_iff, Prod.mk.injEq, Option.some.injEq, reduceCtorEq] at h <;> grind

/-- Reads the exponent of a number, if one follows. -/
def readExponent (bs : List UInt8) : Option (Option Int × List UInt8) :=
  match bs with
  | e :: rest =>
    if e = 0x65 || e = 0x45 then
      let (negative, rest) :=
        match rest with
        | 0x2D :: rest => (true, rest)
        | 0x2B :: rest => (false, rest)
        | _ => (false, rest)
      let (run, rest) := Decimal.readDigits rest
      if run.count = 0 then none
      else some (some (if negative then -run.value else run.value), rest)
    else some (none, bs)
  | [] => some (none, [])

/-- Reads the fraction of a number, if one follows. -/
def readFraction (bs : List UInt8) : Option (Decimal.Run × List UInt8) :=
  match bs with
  | 0x2E :: rest =>
    let (run, rest) := Decimal.readDigits rest
    if run.count = 0 then none else some (run, rest)
  | _ => some (⟨0, 0⟩, bs)

/-- Reads a number after its sign. The whole part has no leading zero. -/
def readNumber (negative : Bool) (bs : List UInt8) : Option (Number × List UInt8) :=
  let (whole, rest) := Decimal.readDigits bs
  if whole.count = 0 || (bs.head? = some 0x30 && whole.count ≠ 1) then none
  else
    match readFraction rest with
    | none => none
    | some (fraction, rest) =>
      match readExponent rest with
      | none => none
      | some (exponent, rest) => some (⟨negative, whole.value, fraction, exponent⟩, rest)

/-- Reads one token at the front, where no blank stands. -/
def Token.read : List UInt8 → Option (Token × List UInt8)
  | 0x7B :: rest => some (.openObject, rest)
  | 0x7D :: rest => some (.closeObject, rest)
  | 0x5B :: rest => some (.openArray, rest)
  | 0x5D :: rest => some (.closeArray, rest)
  | 0x3A :: rest => some (.colon, rest)
  | 0x2C :: rest => some (.comma, rest)
  | 0x22 :: rest => (readString rest).map fun r => (.string r.1, r.2)
  | 0x6E :: 0x75 :: 0x6C :: 0x6C :: rest => some (.null, rest)
  | 0x74 :: 0x72 :: 0x75 :: 0x65 :: rest => some (.bool true, rest)
  | 0x66 :: 0x61 :: 0x6C :: 0x73 :: 0x65 :: rest => some (.bool false, rest)
  | 0x2D :: rest => (readNumber true rest).map fun r => (.number r.1, r.2)
  | bs => (readNumber false bs).map fun r => (.number r.1, r.2)

theorem length_readExponent {bs rest : List UInt8} {e : Option Int}
    (h : readExponent bs = some (e, rest)) : rest.length ≤ bs.length := by
  unfold readExponent at h
  split at h
  · next b tail =>
    split at h
    · grind [Decimal.length_readDigits]
    · cases h; exact Nat.le_refl _
  · cases h; exact Nat.le_refl _

theorem length_readFraction {bs rest : List UInt8} {f : Decimal.Run}
    (h : readFraction bs = some (f, rest)) : rest.length ≤ bs.length := by
  unfold readFraction at h
  split at h
  · next tail =>
    have := Decimal.length_readDigits tail
    grind
  · cases h; exact Nat.le_refl _

theorem length_readNumber {negative : Bool} {bs rest : List UInt8} {n : Number}
    (h : readNumber negative bs = some (n, rest)) : rest.length < bs.length := by
  have hd := Decimal.length_readDigits bs
  unfold readNumber at h
  simp only at h
  split at h
  · cases h
  · next hcount =>
    split at h
    · cases h
    · next f r hf =>
      split at h
      · cases h
      · next e r' he =>
        have h1 := length_readFraction hf
        have h2 := length_readExponent he
        simp only [Option.some.injEq, Prod.mk.injEq] at h
        simp only [Bool.or_eq_true, decide_eq_true_eq, not_or] at hcount
        have := hcount.1
        obtain ⟨-, rfl⟩ := h
        omega

theorem Token.length_read {bs rest : List UInt8} {t : Token} (h : Token.read bs = some (t, rest)) :
    rest.length < bs.length := by
  unfold Token.read at h
  split at h
  case h_7 =>
    obtain ⟨⟨raw, r⟩, hr, he⟩ := Option.map_eq_some_iff.1 h
    simp only [Prod.mk.injEq] at he
    have := length_readString hr
    simp only [List.length_cons]; grind
  case h_11 =>
    obtain ⟨⟨n, r⟩, hr, he⟩ := Option.map_eq_some_iff.1 h
    simp only [Prod.mk.injEq] at he
    have := length_readNumber hr
    simp only [List.length_cons]; grind
  case h_12 =>
    obtain ⟨⟨n, r⟩, hr, he⟩ := Option.map_eq_some_iff.1 h
    simp only [Prod.mk.injEq] at he
    have := length_readNumber hr
    grind
  all_goals
    simp only [Option.some.injEq, Prod.mk.injEq] at h
    simp only [List.length_cons]; grind

/-- The tokens of a text, blanks between them dropped. -/
def tokens? (bs : List UInt8) : Option (List Token) :=
  match bs with
  | [] => some []
  | b :: rest =>
    if isBlank b then tokens? rest
    else
      match _h : Token.read (b :: rest) with
      | none => none
      | some (t, rest') => (tokens? rest').map (t :: ·)
termination_by bs.length
decreasing_by
  · simp only [List.length_cons]; omega
  · exact Token.length_read _h

/-- The bytes of a token. -/
def Token.bytes : Token → List UInt8
  | .openObject => [0x7B]
  | .closeObject => [0x7D]
  | .openArray => [0x5B]
  | .closeArray => [0x5D]
  | .colon => [0x3A]
  | .comma => [0x2C]
  | .null => [0x6E, 0x75, 0x6C, 0x6C]
  | .bool true => [0x74, 0x72, 0x75, 0x65]
  | .bool false => [0x66, 0x61, 0x6C, 0x73, 0x65]
  | .number n => n.bytes
  | .string raw => 0x22 :: raw ++ [0x22]

end SessionTokens.Json
