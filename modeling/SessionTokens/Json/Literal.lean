import SessionTokens.Json.Token

/-! # The text of JSON strings

What stands between the quotes, and the text it is the writing of. Both directions work on UTF-8
bytes: all that needs an escape is ASCII, and an escape always stands for whole characters, so it
is enough to look at the bytes that come out as one text at the end.
-/

namespace SessionTokens.Json

/-- The lower-case hexadecimal digit of a number below sixteen. -/
def hexDigit (n : Nat) : UInt8 := if n < 10 then 0x30 + UInt8.ofNat n else 0x57 + UInt8.ofNat n

/-- The writing of one byte of a text. Control characters without a short escape take the long one;
bytes of longer characters stand for themselves. -/
def quoteByte (b : UInt8) : List UInt8 :=
  if b = 0x22 then [0x5C, 0x22]
  else if b = 0x5C then [0x5C, 0x5C]
  else if b = 0x08 then [0x5C, 0x62]
  else if b = 0x0C then [0x5C, 0x66]
  else if b = 0x0A then [0x5C, 0x6E]
  else if b = 0x0D then [0x5C, 0x72]
  else if b = 0x09 then [0x5C, 0x74]
  else if b < 0x20 then
    [0x5C, 0x75, 0x30, 0x30, hexDigit (b.toNat / 16), hexDigit (b.toNat % 16)]
  else [b]

/-- The writing of a text, without its quotes. -/
def quote (s : String) : List UInt8 := s.toUTF8.toList.flatMap quoteByte

/-- The byte that a short escape stands for. -/
def unescape? (b : UInt8) : Option UInt8 :=
  if b = 0x22 then some 0x22
  else if b = 0x5C then some 0x5C
  else if b = 0x2F then some 0x2F
  else if b = 0x62 then some 0x08
  else if b = 0x66 then some 0x0C
  else if b = 0x6E then some 0x0A
  else if b = 0x72 then some 0x0D
  else if b = 0x74 then some 0x09
  else none

/-- The number that four hexadecimal digits write. -/
def hex4? (a b c d : UInt8) : Option Nat := do
  return (((← hexDigit? a) * 16 + (← hexDigit? b)) * 16 + (← hexDigit? c)) * 16 + (← hexDigit? d)

/-- The first half of a surrogate pair. -/
def isHighSurrogate (n : Nat) : Bool := 0xD800 ≤ n && n < 0xDC00

/-- The second half of a surrogate pair. -/
def isLowSurrogate (n : Nat) : Bool := 0xDC00 ≤ n && n < 0xE000

/-- The bytes that a string's writing stands for. A surrogate must be half of a pair. -/
def unquote? : List UInt8 → Option (List UInt8)
  | [] => some []
  | 0x5C :: 0x75 :: a :: b :: c :: d :: rest =>
    match hex4? a b c d with
    | none => none
    | some hi =>
      if isHighSurrogate hi then
        match rest with
        | 0x5C :: 0x75 :: a :: b :: c :: d :: rest =>
          match hex4? a b c d with
          | none => none
          | some lo =>
            if isLowSurrogate lo then
              let c := Char.ofNat (0x10000 + (hi - 0xD800) * 0x400 + (lo - 0xDC00))
              (unquote? rest).map (String.utf8EncodeChar c ++ ·)
            else none
        | _ => none
      else if isLowSurrogate hi then none
      else (unquote? rest).map (String.utf8EncodeChar (Char.ofNat hi) ++ ·)
  | 0x5C :: e :: rest =>
    match unescape? e with
    | none => none
    | some b => (unquote? rest).map (b :: ·)
  | b :: rest => (unquote? rest).map (b :: ·)

/-- The text that a string's writing stands for. -/
def text? (raw : List UInt8) : Option String :=
  match unquote? raw with
  | none => none
  | some bytes => String.fromUTF8? (ByteArray.mk bytes.toArray)

end SessionTokens.Json
