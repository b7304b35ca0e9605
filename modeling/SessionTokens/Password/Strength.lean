import SessionTokens.Password.Keyboard
import SessionTokens.Password.Wordlist

/-! # The strength of passwords

How many guesses it takes to find a password, for somebody who tries common words first, in either
direction and with the usual replacements of letters by digits and signs, then other words and
numbers, repetitions, runs of neighbouring letters, paths on the keyboard, years and dates, and last
everything else by length.

A password is guessed in parts. Guessing one part after another costs the product of their guesses,
once for every order of the parts, and 10000 more for each further part; so a password of three
parts needs more than 10^8 guesses whatever the parts are, and only one or two of them have to be
looked at.

The list of words is far from complete, so a few letters that stand together are taken for a word
that comes late in the list, and a few digits for a number that means something to somebody.
-/

namespace SessionTokens.Password

/-! ## Counting -/

/-- The number of ways to choose `k` out of `n`. -/
def choose : Nat → Nat → Nat
  | _, 0 => 1
  | 0, _ + 1 => 0
  | n + 1, k + 1 => choose n k + choose n (k + 1)

/-- In how many ways at least one and at most `k` out of `n` can be chosen. -/
def chooseUpTo (n k : Nat) : Nat := (List.range k).foldl (fun s i => s + choose n (i + 1)) 0

/-- In how many ways the case of a word's letters is likely to be varied. -/
def caseVariations (cs : List Char) : Nat :=
  let upper := cs.countP Char.isUpper
  let lower := cs.countP Char.isLower
  if upper = 0 then 1
  else if lower = 0 then 2
  else if upper = 1 && (cs.head?.any Char.isUpper || cs.getLast?.any Char.isUpper) then 2
  else chooseUpTo (upper + lower) (min upper lower)

/-! ## Words -/

/-- The letters that a digit or sign is used for. -/
def standsFor : Char → List Char
  | '4' | '@' => ['a']
  | '8' => ['b']
  | '(' | '{' | '[' | '<' => ['c']
  | '3' => ['e']
  | '6' | '9' => ['g']
  | '1' | '!' | '|' => ['i', 'l']
  | '7' => ['l', 't']
  | '0' => ['o']
  | '$' | '5' => ['s']
  | '+' => ['t']
  | '%' => ['x']
  | '2' => ['z']
  | _ => []

/-- The characters spell the word, letters replaced or not. -/
def spells : List Char → List Char → Bool
  | [], [] => true
  | c :: cs, w :: ws => (c = w || (standsFor c).contains w) && spells cs ws
  | _, _ => false

/-- In how many ways the letters of the word are likely to be replaced, given the characters that
spell it: for each character that replaces a letter, the choices of the places. -/
def replacementVariations (cs ws : List Char) : Nat :=
  let pairs := (cs.zip ws).filter fun p => p.1 ≠ p.2
  (pairs.eraseDups.map fun p =>
    let replaced := cs.count p.1
    let kept := cs.count p.2
    if kept = 0 then 2 else chooseUpTo (replaced + kept) (min replaced kept)).foldl (· * ·) 1

/-- Guesses for one word of the list. -/
def wordGuesses? (cs lower : List Char) (word : ListedWord) : Option Nat :=
  let ws := word.letters
  if spells lower ws then
    some (word.place * caseVariations cs * replacementVariations lower ws)
  else if spells lower.reverse ws then
    some (word.place * caseVariations cs * replacementVariations lower.reverse ws * 2)
  else none

/-- Guesses for the characters as a word of the list. -/
def dictionaryGuesses (cs : List Char) : List Nat :=
  let lower := cs.map Char.toLower
  wordlist.filterMap (wordGuesses? cs lower)

/-- The letters are in one case, but for the first one. -/
def isPlainCase (cs : List Char) : Bool :=
  let letters := cs.filter Char.isAlpha
  letters.all Char.isUpper || letters.tail.all Char.isLower

/-- The longest word that is taken for one without being in the list. -/
def maxUnlisted : Nat := 11

/-- At which place in the list a word would stand that is not in it: short ones come earlier. -/
def unlistedPlace (length : Nat) : Nat := if length ≤ 7 then 2000 else 10000

/-- The letter that a character of a word stands for, the first one where there is a choice. -/
def letterOf (c : Char) : Char := (standsFor c).headD c

/-- The letters can be spoken: at least every fifth one is a vowel. -/
def isSpeakable (cs : List Char) : Bool := cs.length ≤ 5 * cs.countP ("aeiouy".toList.contains ·)

/-- Where characters stand in a password. -/
inductive Standing where
  /-- They are the whole of it. -/
  | whole
  /-- They do not cut through a word. -/
  | apart
  /-- A letter before or after them goes on with their letters. -/
  | within
deriving DecidableEq, Repr

/-- Guesses for the characters as a word that is not in the list. In a whole password up to three of
its letters may be replaced, if it can still be spoken and does not begin with a digit. -/
def unlistedGuesses (standing : Standing) (cs : List Char) : List Nat :=
  let replaced := cs.countP fun c => !c.isAlpha
  let word := cs.map fun c => letterOf c.toLower
  if standing = .within || cs.length < 3 || maxUnlisted < cs.length || !isPlainCase cs ||
      !word.all Char.isAlpha then []
  else if replaced = 0 then [unlistedPlace cs.length * caseVariations cs]
  else if standing = .whole && replaced ≤ 3 && isSpeakable word && !cs.head?.any Char.isDigit then
    [unlistedPlace cs.length * caseVariations cs * Nat.pow 2 replaced]
  else []

/-- Guesses for the characters as a number that is remembered: a telephone number, or one out of a
book. -/
def numberGuesses (cs : List Char) : List Nat :=
  if cs.all Char.isDigit && 7 ≤ cs.length && cs.length ≤ 10 then [1000000] else []

/-! ## Patterns -/

/-- The difference between neighbouring characters, if it is the same everywhere. -/
def constantStep? : List Char → Option Int
  | a :: b :: rest =>
    let d := (b.toNat : Int) - a.toNat
    match rest with
    | [] => some d
    | _ => if constantStep? (b :: rest) = some d then some d else none
  | _ => none

/-- The step of a run like `abc`, `97531` or `zyx`. -/
def runStep? (cs : List Char) : Option Int :=
  (constantStep? cs).filter fun d =>
    d ≠ 0 && d.natAbs ≤ 5 && (2 < cs.length || d.natAbs = 1)

/-- Guesses for the characters as a run. -/
def runGuesses (cs : List Char) : List Nat :=
  match runStep? cs, cs with
  | some d, first :: _ =>
    let base :=
      if ['a', 'A', 'z', 'Z', '0', '1', '9'].contains first then 4
      else if first.isDigit then 10
      else 26
    [base * (if d < 0 then 2 else 1) * cs.length]
  | _, _ => []

/-- Guesses for the characters as a path on a keyboard. -/
def pathGuesses (k : Keyboard) (cs : List Char) : List Nat :=
  match cs.mapM k.press? with
  | none => []
  | some presses =>
    match k.steps? presses with
    | none => []
    | some steps =>
      if cs.length < 3 then []
      else
        let turns := Keyboard.turns steps
        let paths := (List.range (cs.length - 1)).flatMap fun i =>
          (List.range (min turns (i + 1))).map fun j =>
            choose (i + 1) j * k.starts * k.degree.pow (j + 1) / Nat.pow 100 (j + 1)
        let shifted := presses.countP (·.shifted)
        let plain := cs.length - shifted
        let shifts :=
          if shifted = 0 then 1
          else if plain = 0 then 2
          else chooseUpTo (shifted + plain) (min shifted plain)
        [paths.foldl (· + ·) 0 * shifts]

/-- The characters are a straight line on a keyboard. -/
def isStraight (k : Keyboard) (cs : List Char) : Bool :=
  match cs.mapM k.press? with
  | none => false
  | some presses =>
    match k.steps? presses with
    | none => false
    | some steps => Keyboard.turns steps ≤ 1

/-- All characters are the same. -/
def isUniform (cs : List Char) : Bool :=
  match cs with
  | [] => true
  | c :: cs => cs.all (· = c)

/-- The characters in groups of a size. -/
def groups (size : Nat) (cs : List Char) : List (List Char) :=
  (List.range (cs.length / size)).map fun i => (cs.drop (i * size)).take size

/-- Guesses for the characters as groups of one size which are all of one character, or all straight
lines on one keyboard. -/
def groupGuesses (cs : List Char) : List Nat :=
  (List.range (cs.length / 2)).filterMap fun i =>
    let size := i + 2
    let parts := groups size cs
    if cs.length % size = 0 && 2 ≤ parts.length && (parts.all isUniform ||
        (3 ≤ size && keyboards.any fun k => parts.all (isStraight k))) then
      some (10000 * parts.length)
    else none

/-- Every second character, beginning with the first. -/
def everySecond : List Char → List Char
  | [] => []
  | [c] => [c]
  | c :: _ :: cs => c :: everySecond cs

/-- The characters are something that is easy to type on. -/
def isTrivial (cs : List Char) : Bool :=
  isUniform cs || (runStep? cs).isSome || keyboards.any fun k => isStraight k cs

/-- Guesses for the characters as two lines, one character of the one after one of the other. -/
def interleavedGuesses (cs : List Char) : List Nat :=
  let first := everySecond cs
  let second := everySecond cs.tail
  if 3 ≤ second.length && isTrivial first && isTrivial second then [10000 * cs.length] else []

/-- The year that guesses begin with. -/
def referenceYear : Nat := 2025

/-- Guesses for a year. -/
def yearDistance (year : Nat) : Nat :=
  max (if year ≤ referenceYear then referenceYear - year else year - referenceYear) 20

/-- The number that digits write. -/
def digitsValue? (cs : List Char) : Option Nat :=
  if cs.isEmpty || !cs.all Char.isDigit then none
  else some (cs.foldl (fun n c => n * 10 + (c.toNat - '0'.toNat)) 0)

/-- Guesses for the characters as a recent year. -/
def yearGuesses (cs : List Char) : List Nat :=
  match digitsValue? cs with
  | some n => if cs.length = 4 && 1900 ≤ n && n < 2030 then [yearDistance n] else []
  | none => []

/-- A year of two or four digits in full. -/
def fullYear? (cs : List Char) : Option Nat :=
  match digitsValue? cs with
  | some n =>
    if cs.length = 4 && 1000 ≤ n && n ≤ 2050 then some n
    else if cs.length = 2 then some (if 50 < n then 1900 + n else 2000 + n)
    else none
  | none => none

/-- Two numbers are a day and a month in either order. -/
def isDayAndMonth (a b : List Char) : Bool :=
  match digitsValue? a, digitsValue? b with
  | some x, some y =>
    a.length ≤ 2 && b.length ≤ 2 && 1 ≤ x && 1 ≤ y &&
      ((x ≤ 31 && y ≤ 12) || (x ≤ 12 && y ≤ 31))
  | _, _ => false

/-- The years that the three numbers of a date may mean. -/
def dateYears (a b c : List Char) : List Nat :=
  (if isDayAndMonth a b then (fullYear? c).toList else []) ++
    (if isDayAndMonth b c then (fullYear? a).toList else [])

/-- Guesses for the characters as a date, with or without signs between its numbers. -/
def dateGuesses (cs : List Char) : List Nat :=
  let parts := cs.splitOnP fun c => !c.isDigit
  match parts with
  | [a, b, c] => (dateYears a b c).map fun y => yearDistance y * 365 * 4
  | [digits] =>
    if digits.length < 4 || 8 < digits.length then []
    else
      (List.range digits.length).flatMap fun i => (List.range digits.length).flatMap fun j =>
        (dateYears (digits.take i) ((digits.drop i).take j) (digits.drop (i + j))).map fun y =>
          yearDistance y * 365
  | _ => []

/-! ## Parts -/

/-- Guesses for characters that follow no pattern. -/
def bruteForce (length : Nat) : Nat := max (Nat.pow 10 length) (if length = 1 then 11 else 51)

/-- The fewest guesses for characters that are repeated so many times, given the guesses for the
characters themselves. -/
def repeatGuesses (base : List Char → Nat) (cs : List Char) : List Nat :=
  (List.range (cs.length / 2)).filterMap fun i =>
    let size := i + 1
    let count := cs.length / size
    let unit := cs.take size
    if cs.length % size = 0 && (List.replicate count unit).flatten = cs then
      some (base unit * count)
    else none

/-- The smallest of the numbers. -/
def least (first : Nat) (others : List Nat) : Nat := others.foldl min first

/-- Guesses for characters in one part. What is repeated is guessed on its own, and it is at most
half as long, which bounds the nesting. -/
def partGuesses (base : List Char → Nat) (standing : Standing) (cs : List Char) : Nat :=
  least (bruteForce cs.length)
    (dictionaryGuesses cs ++ unlistedGuesses standing cs ++ numberGuesses cs ++ runGuesses cs ++
      keyboards.flatMap (pathGuesses · cs) ++ groupGuesses cs ++ interleavedGuesses cs ++
      yearGuesses cs ++ dateGuesses cs ++ repeatGuesses base cs)

/-- Guesses for a part of a longer password: some are needed for any part. -/
def subpartGuesses (base : List Char → Nat) (standing : Standing) (cs : List Char) : Nat :=
  max (partGuesses base standing cs) (if cs.length = 1 then 10 else 50)

/-- Guesses for a password in two parts. -/
def pairGuesses (base : List Char → Nat) (before after : List Char) : Nat :=
  let standing : Standing :=
    if before.getLast?.any Char.isAlpha && after.head?.any Char.isAlpha then .within else .apart
  2 * subpartGuesses base standing before * subpartGuesses base standing after + 10000

/-- Guesses for a password in one part or two, with so many levels of repetition. -/
def guessesWithin : Nat → List Char → Nat
  | 0, cs => bruteForce cs.length
  | levels + 1, cs =>
    let base := guessesWithin levels
    if cs.isEmpty then 1
    else
      least (partGuesses base .whole cs + 1) ((List.range (cs.length - 1)).map fun i =>
        pairGuesses base (cs.take (i + 1)) (cs.drop (i + 1)))

/-- How many of a password's characters are looked at. -/
def lookedAt : Nat := 100

/-- Guesses for a password in one part or two. -/
def guesses (password : String) : Nat :=
  let cs := password.toList.take lookedAt
  guessesWithin (cs.length.log2 + 1) cs

/-- The password withstands 10^8 guesses. -/
def isStrong (password : String) : Bool := 100000005 ≤ guesses password

end SessionTokens.Password
