import SessionTokens.Text.Binary64
import SessionTokens.Text.Word

/-! # The words and strings of TOML

What stands between the punctuation: strings in their four forms, and the bare words that are
numbers, Booleans and points in time. A word is cut out of the text first and read as a whole, so
what it stands for never depends on what follows it.
-/

namespace SessionTokens.Toml

/-- A value without parts. -/
inductive Scalar where
  | text (s : String)
  | integer (n : Int)
  | real (x : Binary64)
  | bool (b : Bool)
  /-- A date, a time or both, in the usual spelling. -/
  | moment (s : String)
deriving DecidableEq, Repr

/-- Space and tab. -/
def isBlank (c : Char) : Bool := c = ' ' || c = '\t'

/-- The character may stand for itself on a line: it is no control character but the tab. -/
def isPlain (c : Char) : Bool := c = '\t' || (' ' ≤ c && c ≠ '\x7f')

/-- The number that digits of a base stand for, if they are digits of it. -/
def natOfBase? (base : Nat) (cs : List Char) : Option Nat :=
  cs.foldl (fun n c => do
    let n ← n
    let d :=
      if c.isDigit then c.toNat - '0'.toNat
      else if c.isAlpha then c.toLower.toNat - 'a'.toNat + 10
      else base
    if d < base then some (n * base + d) else none) (some 0)

/-! ## Strings -/

/-- The character with a number in hexadecimal digits. -/
def charOfHex? (digits : List Char) : Option Char := do
  let n ← natOfBase? 16 digits
  if h : n.isValidChar then some (Char.ofNatAux n h) else none

/-- The character that a short escape stands for. -/
def unescape? : Char → Option Char
  | 'b' => some '\x08'
  | 't' => some '\t'
  | 'n' => some '\n'
  | 'f' => some '\x0c'
  | 'r' => some '\r'
  | 'e' => some '\x1b'
  | '"' => some '"'
  | '\\' => some '\\'
  | _ => none

/-- A character in front of what has been read. -/
def consRead (c : Option Char) (r : Option (List Char × List Char)) :
    Option (List Char × List Char) := do
  let c ← c
  let r ← r
  return (c :: r.1, r.2)

/-- Reads a string with escapes after its opening quote, and with its closing one. -/
def readBasic : List Char → Option (List Char × List Char)
  | [] => none
  | '"' :: cs => some ([], cs)
  | '\\' :: 'x' :: a :: b :: cs => consRead (charOfHex? [a, b]) (readBasic cs)
  | '\\' :: 'u' :: a :: b :: c :: d :: cs => consRead (charOfHex? [a, b, c, d]) (readBasic cs)
  | '\\' :: 'U' :: a :: b :: c :: d :: e :: f :: g :: h :: cs =>
    consRead (charOfHex? [a, b, c, d, e, f, g, h]) (readBasic cs)
  | '\\' :: c :: cs => consRead (unescape? c) (readBasic cs)
  | c :: cs => if isPlain c then consRead (some c) (readBasic cs) else none

/-- Reads a string without escapes after its opening quote, and with its closing one. -/
def readLiteral : List Char → Option (List Char × List Char)
  | [] => none
  | '\'' :: cs => some ([], cs)
  | c :: cs => if isPlain c then consRead (some c) (readLiteral cs) else none

/-- Up to two quotes right after the three that close a string belong to the string. -/
def readClosing (quote : Char) : List Char → List Char × List Char
  | a :: b :: cs =>
    if a = quote then if b = quote then ([a, b], cs) else ([a], b :: cs) else ([], a :: b :: cs)
  | [a] => if a = quote then ([a], []) else ([], [a])
  | [] => ([], [])

/-- Where a string over several lines stands with respect to a backslash at the end of a line, which
takes the white space up to the next character with it. -/
inductive Gap where
  /-- After no backslash. -/
  | none
  /-- On the line of the backslash, where nothing may follow it. -/
  | open
  /-- On a later line. -/
  | crossed
deriving DecidableEq, Repr

/-- Reads a string with escapes over several lines after its three opening quotes, and with its
closing ones. -/
def readBasicLines : Gap → List Char → Option (List Char × List Char)
  | _, [] => .none
  | .open, '\n' :: cs => readBasicLines .crossed cs
  | .open, '\r' :: '\n' :: cs => readBasicLines .crossed cs
  | .open, c :: cs => if isBlank c then readBasicLines .open cs else .none
  | .crossed, '\n' :: cs => readBasicLines .crossed cs
  | .crossed, '\r' :: '\n' :: cs => readBasicLines .crossed cs
  | .crossed, ' ' :: cs => readBasicLines .crossed cs
  | .crossed, '\t' :: cs => readBasicLines .crossed cs
  | _, '"' :: '"' :: '"' :: cs => some (readClosing '"' cs)
  | _, '\\' :: 'x' :: a :: b :: cs =>
    consRead (charOfHex? [a, b]) (readBasicLines .none cs)
  | _, '\\' :: 'u' :: a :: b :: c :: d :: cs =>
    consRead (charOfHex? [a, b, c, d]) (readBasicLines .none cs)
  | _, '\\' :: 'U' :: a :: b :: c :: d :: e :: f :: g :: h :: cs =>
    consRead (charOfHex? [a, b, c, d, e, f, g, h]) (readBasicLines .none cs)
  | _, '\\' :: '\n' :: cs => readBasicLines .crossed cs
  | _, '\\' :: '\r' :: '\n' :: cs => readBasicLines .crossed cs
  | _, '\\' :: c :: cs =>
    if isBlank c then readBasicLines .open cs
    else consRead (unescape? c) (readBasicLines .none cs)
  | _, '\r' :: '\n' :: cs => consRead (some '\r') (consRead (some '\n') (readBasicLines .none cs))
  | _, c :: cs =>
    if isPlain c || c = '\n' then consRead (some c) (readBasicLines .none cs) else .none

/-- Reads a string without escapes over several lines after its three opening quotes, and with its
closing ones. -/
def readLiteralLines : List Char → Option (List Char × List Char)
  | [] => none
  | '\'' :: '\'' :: '\'' :: cs => some (readClosing '\'' cs)
  | '\r' :: '\n' :: cs => consRead (some '\r') (consRead (some '\n') (readLiteralLines cs))
  | c :: cs => if isPlain c || c = '\n' then consRead (some c) (readLiteralLines cs) else none

/-- A line break right after the opening quotes of a string over several lines is no part of it. -/
def dropBreak : List Char → List Char
  | '\n' :: cs => cs
  | '\r' :: '\n' :: cs => cs
  | cs => cs

/-- Reads a string of any form. -/
def readString : List Char → Option (String × List Char)
  | '"' :: '"' :: '"' :: cs => (readBasicLines .none (dropBreak cs)).map fun r => (.ofList r.1, r.2)
  | '\'' :: '\'' :: '\'' :: cs => (readLiteralLines (dropBreak cs)).map fun r => (.ofList r.1, r.2)
  | '"' :: cs => (readBasic cs).map fun r => (.ofList r.1, r.2)
  | '\'' :: cs => (readLiteral cs).map fun r => (.ofList r.1, r.2)
  | _ => none

/-! ## Numbers -/

/-- Digits with the underscores between them taken out. An underscore stands between two digits. -/
def ungroup? (isDigit : Char → Bool) : List Char → Option (List Char)
  | [] => none
  | [c] => if isDigit c then some [c] else none
  | c :: '_' :: cs => if isDigit c then (ungroup? isDigit cs).map (c :: ·) else none
  | c :: cs => if isDigit c then (ungroup? isDigit cs).map (c :: ·) else none

/-- Decimal digits of a whole part: no zero in front of another digit. -/
def wholeDigits? (cs : List Char) : Option (List Char) := do
  let digits ← ungroup? Char.isDigit cs
  if digits.head? = some '0' && digits ≠ ['0'] then none else some digits

/-- An integer, if it has 64 bits. -/
def ofInt? (n : Int) : Option Scalar :=
  if Word.isSigned n then some (.integer n) else none

/-- An integer in another base than ten, by its digits. -/
def ofBase? (base : Nat) (cs : List Char) : Option Scalar := do
  let digits ← ungroup? Char.isAlphanum cs
  let n ← natOfBase? base digits
  ofInt? n

/-- The digits of an exponent with its letter and sign, none where nothing is left. -/
def exponentText? : List Char → Option (List Char)
  | [] => some []
  | e :: cs => do
    let (sign, digits) :=
      match cs with
      | '+' :: cs => ([], cs)
      | '-' :: cs => (['-'], cs)
      | cs => ([], cs)
    if e = 'e' || e = 'E' then some ('e' :: sign ++ (← ungroup? Char.isDigit digits)) else none

/-- A decimal number after its sign. -/
def ofDecimal? (negative : Bool) (cs : List Char) : Option Scalar := do
  let isPart := fun (c : Char) => c.isDigit || c = '_'
  let whole ← wholeDigits? (cs.takeWhile isPart)
  match cs.dropWhile isPart with
  | [] =>
    let n : Int := Binary64.natOfDigits whole
    ofInt? (if negative then -n else n)
  | '.' :: rest =>
    let fraction ← ungroup? Char.isDigit (rest.takeWhile isPart)
    let exponent ← exponentText? (rest.dropWhile isPart)
    let x ← Binary64.unsigned? negative (whole ++ '.' :: fraction ++ exponent)
    some (.real x)
  | rest =>
    let exponent ← exponentText? rest
    let x ← Binary64.unsigned? negative (whole ++ exponent)
    some (.real x)

/-- A number of finite size, or a word for one that has none. -/
def ofNumber? (cs : List Char) : Option Scalar :=
  let (negative, rest) := Binary64.splitSign cs
  if rest = ['i', 'n', 'f'] then some (.real (.infinite negative))
  else if rest = ['n', 'a', 'n'] then some (.real .nan)
  else
    match ofDecimal? negative rest with
    | some (.real (.infinite _)) => none
    | r => r

/-! ## Points in time -/

/-- The number of two digits. -/
def pair? (a b : Char) : Option Nat :=
  if a.isDigit && b.isDigit then some (Binary64.natOfDigits [a, b]) else none

/-- How many days a month has. -/
def daysIn (year month : Nat) : Nat :=
  if month = 2 then
    if year % 4 = 0 && (year % 100 ≠ 0 || year % 400 = 0) then 29 else 28
  else if month = 4 || month = 6 || month = 9 || month = 11 then 30
  else 31

/-- There is such a date. -/
def isDate : List Char → Bool
  | [a, b, c, d, '-', e, f, '-', g, h] =>
    match pair? a b, pair? c d, pair? e f, pair? g h with
    | some century, some year, some month, some day =>
      1 ≤ month && month ≤ 12 && 1 ≤ day && day ≤ daysIn (century * 100 + year) month
    | _, _, _, _ => false
  | _ => false

/-- The fraction of a second: nine digits of it count, and zeros at the end do not show, but one
digit always does. -/
def fractionText? : List Char → Option (List Char)
  | [] => some []
  | '.' :: cs =>
    if cs.isEmpty || !cs.all Char.isDigit then none
    else
      let digits := ((cs.take 9).reverse.dropWhile (· = '0')).reverse
      some ('.' :: if digits.isEmpty then ['0'] else digits)
  | _ => none

/-- The seconds of a time of day, which may be left out. There may be sixty, with a fraction. -/
def secondsText? : List Char → Option (List Char)
  | [] => some []
  | ':' :: a :: b :: cs =>
    match pair? a b with
    | some second => if second ≤ 60 then (fractionText? cs).map ([':', a, b] ++ ·) else none
    | none => none
  | _ => none

/-- A time of day. -/
def timeText? : List Char → Option (List Char)
  | a :: b :: ':' :: c :: d :: cs =>
    match pair? a b, pair? c d with
    | some hour, some minute =>
      if hour ≤ 23 && minute ≤ 59 then (secondsText? cs).map ([a, b, ':', c, d] ++ ·) else none
    | _, _ => none
  | _ => none

/-- The distance to UTC. There is no negative zero. -/
def offsetText? : List Char → Option (List Char)
  | [] => some []
  | ['Z'] => some ['Z']
  | ['z'] => some ['Z']
  | [sign, a, b, ':', c, d] =>
    match pair? a b, pair? c d with
    | some hour, some minute =>
      if (sign = '+' || sign = '-') && hour ≤ 23 && minute ≤ 59 then
        some [if hour = 0 && minute = 0 then '+' else sign, a, b, ':', c, d]
      else none
    | _, _ => none
  | _ => none

/-- A time of day with its distance to UTC, if one is given. -/
def clockText? (cs : List Char) : Option (List Char) := do
  let isTime := fun (c : Char) => c.isDigit || c = ':' || c = '.'
  return (← timeText? (cs.takeWhile isTime)) ++ (← offsetText? (cs.dropWhile isTime))

/-- A date, a time of day, or a date with a time. -/
def ofMoment? (cs : List Char) : Option Scalar :=
  if isDate (cs.take 10) then
    match cs.drop 10 with
    | [] => some (.moment (.ofList cs))
    | t :: rest =>
      if t = 'T' || t = 't' || t = ' ' then
        (clockText? rest).map fun r => .moment (.ofList (cs.take 10 ++ 'T' :: r))
      else none
  else (timeText? cs).map fun r => .moment (.ofList r)

/-! ## Words -/

/-- The value of a bare word. -/
def ofWord? : List Char → Option Scalar
  | ['t', 'r', 'u', 'e'] => some (.bool true)
  | ['f', 'a', 'l', 's', 'e'] => some (.bool false)
  | '0' :: 'x' :: cs => ofBase? 16 cs
  | '0' :: 'o' :: cs => ofBase? 8 cs
  | '0' :: 'b' :: cs => ofBase? 2 cs
  | cs => (ofNumber? cs).or (ofMoment? cs)

/-- The character may be part of a bare word. -/
def isWordChar (c : Char) : Bool :=
  c.isAlphanum || c = '+' || c = '-' || c = '.' || c = '_' || c = ':'

/-- Cuts the bare word off the front. A blank between a date and a time belongs to the word. -/
def spanWord (cs : List Char) : List Char × List Char :=
  let word := cs.takeWhile isWordChar
  let rest := cs.dropWhile isWordChar
  match isDate word, rest with
  | true, ' ' :: c :: rest =>
    if c.isDigit then
      (word ++ ' ' :: (c :: rest).takeWhile isWordChar, (c :: rest).dropWhile isWordChar)
    else (word, ' ' :: c :: rest)
  | _, _ => (word, rest)

/-- Reads a value without parts. -/
def readScalar (cs : List Char) : Option (Scalar × List Char) :=
  match cs with
  | '"' :: _ | '\'' :: _ => (readString cs).map fun r => (.text r.1, r.2)
  | _ =>
    let (word, rest) := spanWord cs
    (ofWord? word).map fun s => (s, rest)

end SessionTokens.Toml
