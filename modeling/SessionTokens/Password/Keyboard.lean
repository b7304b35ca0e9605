/-! # Keyboards

Where the keys are, and which of them lie next to one another. A password typed along a path of
neighbouring keys is easier to guess the fewer turns the path has.
-/

namespace SessionTokens.Password

/-- A key's place and whether the character needs the shift key. -/
structure KeyPress where
  column : Int
  row : Int
  shifted : Bool
deriving DecidableEq, Repr

/-- A keyboard: its rows from the top, plain and shifted, with the column that each begins at. -/
structure Keyboard where
  rows : List (Int × String × String)
  /-- The steps from a key to those next to it. -/
  steps : List (Int × Int)
  /-- How many characters a path may begin with. -/
  starts : Nat
  /-- How many keys lie next to a key on average, in hundredths. -/
  degree : Nat

/-- The steps between keys of which each row stands half a key further to the right than the one
above. -/
def slantedSteps : List (Int × Int) := [(-1, 0), (0, -1), (1, -1), (1, 0), (0, 1), (-1, 1)]

/-- The steps between keys that stand straight below one another. -/
def alignedSteps : List (Int × Int) :=
  [(-1, 0), (-1, -1), (0, -1), (1, -1), (1, 0), (1, 1), (0, 1), (-1, 1)]

/-- The usual rows of letters. -/
def letters : Keyboard where
  rows := [
    (0, "\x601234567890-=", "~!@#$%^&*()_+"),
    (1, "qwertyuiop[]\\", "QWERTYUIOP\x7b\x7d|"),
    (1, "asdfghjkl;'", "ASDFGHJKL:\""),
    (1, "zxcvbnm,./", "ZXCVBNM<>?")]
  steps := slantedSteps
  starts := 94
  degree := 460

/-- The rows of letters with the vowels on the home row. -/
def homeVowels : Keyboard where
  rows := [
    (0, "\x601234567890[]", "~!@#$%^&*()\x7b\x7d"),
    (1, "',.pyfgcrl/=\\", "\"<>PYFGCRL?+|"),
    (1, "aoeuidhtns-", "AOEUIDHTNS_"),
    (1, ";qjkxbmwvz", ":QJKXBMWVZ")]
  steps := slantedSteps
  starts := 94
  degree := 460

/-- The block of numbers. -/
def numbers : Keyboard where
  rows := [(1, "/*-", ""), (0, "789+", ""), (0, "456", ""), (0, "123", ""), (1, "0.", "")]
  steps := alignedSteps
  starts := 15
  degree := 507

/-- The block of numbers with the equals sign. -/
def numbersWithEquals : Keyboard where
  rows := [(1, "=/*", ""), (0, "789-", ""), (0, "456+", ""), (0, "123", ""), (1, "0.", "")]
  steps := alignedSteps
  starts := 15
  degree := 507

/-- All keyboards. -/
def keyboards : List Keyboard := [letters, homeVowels, numbers, numbersWithEquals]

namespace Keyboard

/-- The position of a character in a row. -/
def position? (c : Char) : List Char → Option Nat
  | [] => none
  | d :: ds => if d = c then some 0 else (position? c ds).map (· + 1)

/-- How a character is typed, searching from the given row on. -/
def pressFrom? (c : Char) (row : Int) : List (Int × String × String) → Option KeyPress
  | [] => none
  | (first, plain, shifted) :: rows =>
    match position? c plain.toList, position? c shifted.toList with
    | some i, _ => some ⟨first + i, row, false⟩
    | none, some i => some ⟨first + i, row, true⟩
    | none, none => pressFrom? c (row + 1) rows

/-- How a character is typed. -/
def press? (k : Keyboard) (c : Char) : Option KeyPress := pressFrom? c 0 k.rows

/-- The step from one key to another. -/
def step (a b : KeyPress) : Int × Int := (b.column - a.column, b.row - a.row)

/-- The steps of a path over neighbouring keys, if it is one. -/
def steps? (k : Keyboard) : List KeyPress → Option (List (Int × Int))
  | a :: b :: rest =>
    if k.steps.contains (step a b) then (k.steps? (b :: rest)).map (step a b :: ·) else none
  | _ => some []

/-- In how many straight lines the steps go. -/
def turns : List (Int × Int) → Nat
  | a :: b :: rest => (if a = b then 0 else 1) + turns (b :: rest)
  | [_] => 1
  | [] => 0

end Keyboard

end SessionTokens.Password
