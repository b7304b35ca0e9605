import SessionTokens.Error

/-! # Store addresses

The address of a store may hold a password, and it is written to the log when a connection is
opened. What is logged has the password masked.
-/

namespace SessionTokens.Endpoint

/-- The position of the first occurrence of a text. -/
def indexOf? (needle : List Char) : List Char → Option Nat
  | [] => if needle.isEmpty then some 0 else none
  | c :: cs => if needle.isPrefixOf (c :: cs) then some 0 else (indexOf? needle cs).map (· + 1)

/-- The position of the last occurrence of a character. -/
def lastIndexOf? (c : Char) : List Char → Option Nat
  | [] => none
  | d :: ds =>
    match lastIndexOf? c ds with
    | some i => some (i + 1)
    | none => if d = c then some 0 else none

/-- Where the part after the scheme begins. -/
def schemeEnd (cs : List Char) : Nat :=
  match indexOf? [':', '/', '/'] cs with
  | some i => i + 3
  | none => 0

/-- The address with four stars for the password: that is what stands between the last colon before
the first `@` and that `@`, if the colon comes after the first character past the scheme. -/
def mask (cs : List Char) : List Char :=
  let user := cs.takeWhile (· ≠ '@')
  match cs.dropWhile (· ≠ '@') with
  | [] => cs
  | _ :: host =>
    match lastIndexOf? ':' user with
    | none => cs
    | some colon =>
      if schemeEnd cs < colon then cs.take colon ++ [':', '*', '*', '*', '*', '@'] ++ host else cs

/-- The address as it is logged. -/
def masked (url : String) : String := String.ofList (mask url.toList)

end SessionTokens.Endpoint
