import SessionTokens.Text.Width.Marks
import SessionTokens.Text.Width.Pictures
import SessionTokens.Text.Width.Wide

/-! # Columns on a terminal

How many columns a text takes where every character has the same width: two for the wide characters
of East Asian scripts and for pictures, none for marks that join the character before them and for
what only directs the layout, one for all others.

Some characters join what follows them: several pictures become one, a selector turns a sign into a
picture, letters become a ligature. A text is therefore gone over from its end, and at each character
we remember as much of what stands to its right as it may join.
-/

namespace SessionTokens.Text

/-- What stands to the right of a character, as far as the character may join it. -/
inductive Follower where
  /-- Nothing that joins. -/
  | other
  | lineFeed
  | tone
  /-- One letter of a flag. -/
  | region
  /-- Several letters of flags. -/
  | regions
  | picture
  /-- A picture with a joiner in front of it. -/
  | joined
  /-- The sign for a key in front of that. -/
  | joinedKey
  /-- One, an even or an odd number of letters of flags in front of a joiner and a picture. -/
  | joinedRegion
  | joinedEven
  | joinedOdd
  /-- The end of a tag in front of that, with so many letters of the tag. -/
  | tagLetters (count : Nat)
  /-- The end of a tag in front of that, with so many digits before its letters. -/
  | tagDigits (count : Nat)
  /-- An Arabic letter of the group of Alef. -/
  | alef
  /-- The Hebrew letter, and whether a joiner stands in front of it. -/
  | lamed (joiner : Bool)
  /-- A Khmer letter that a sign makes a subscript. -/
  | subscript
  /-- The Buginese letter, and whether a joiner stands in front of it. -/
  | ya (joiner : Bool)
  /-- The Buginese vowel in front of that. -/
  | yaVowel
  /-- A consonant of Tifinagh, and whether a joiner stands in front of it. -/
  | consonant (joiner : Bool)
  /-- The joiner of Tifinagh in front of that. -/
  | joinedConsonant
  /-- The second part of a tone of Lisu. -/
  | lisuTone
  /-- The Old Turkic letter, and whether a joiner stands in front of it. -/
  | orkhon (joiner : Bool)
  /-- The vowel signs of Kirat Rai that go on with one another. -/
  | vowelE
  | vowelAi
deriving DecidableEq, Repr

namespace Follower

/-- The letters of ligatures. -/
def isLetter : Follower → Bool
  | .alef | .lamed _ | .subscript | .ya _ | .yaVowel | .consonant _ | .joinedConsonant | .lisuTone
  | .orkhon _ => true
  | _ => false

/-- A ligature that marks which are not shown may come into. -/
def isPermeable (f : Follower) : Bool := f.isLetter && f ≠ .alef

/-- A picture that is going to be part of the one before it. -/
def isJoined : Follower → Bool
  | .joined | .joinedKey => true
  | _ => false

/-- A joiner in front of a letter. -/
def withJoiner : Follower → Follower
  | .lamed _ => .lamed true
  | .ya _ => .ya true
  | .consonant _ => .consonant true
  | .orkhon _ => .orkhon true
  | f => f

end Follower

/-- What a selector says about the character before it. -/
inductive Selector where
  | none
  | text
  | picture
  /-- A quotation mark takes two columns. -/
  | wide
deriving DecidableEq, Repr

/-- What stands to the right of a character. -/
structure Right where
  follower : Follower
  selector : Selector
deriving DecidableEq, Repr

namespace Right

/-- The end of the text, and what is like it. -/
def plain : Right := ⟨.other, .none⟩

/-- What a character joins, with no selector between. -/
def of (f : Follower) : Right := ⟨f, .none⟩

end Right

/-! ## Letters -/

/-- The Arabic letters of the group of Lam. -/
def isLam (c : Char) : Bool :=
  inRanges [(0x0644, 0x0644), (0x06B5, 0x06B8), (0x076A, 0x076A), (0x08A6, 0x08A6),
    (0x08C7, 0x08C7)] c

/-- The Arabic letters of the group of Alef. -/
def isAlef (c : Char) : Bool :=
  inRanges [(0x0622, 0x0623), (0x0625, 0x0625), (0x0627, 0x0627), (0x0671, 0x0673),
    (0x0675, 0x0675), (0x0773, 0x0774), (0x0870, 0x0882)] c

/-- The Khmer letters that can be subscripts. -/
def isSubscriptLetter (c : Char) : Bool :=
  inRanges [(0x1780, 0x1782), (0x1784, 0x1787), (0x1789, 0x178C), (0x178E, 0x1793),
    (0x1795, 0x1798), (0x179B, 0x179D), (0x17A0, 0x17A0), (0x17A2, 0x17A2), (0x17A7, 0x17A7),
    (0x17AB, 0x17AC), (0x17AF, 0x17AF)] c

/-- The consonants of Tifinagh. -/
def isConsonant (c : Char) : Bool := inRanges [(0x2D31, 0x2D65), (0x2D6F, 0x2D6F)] c

/-- The quotation marks that a selector may widen. -/
def isQuotation (c : Char) : Bool := inRanges [(0x2018, 0x2019), (0x201C, 0x201D)] c

/-- The letters and digits of tags. -/
def isTagLetter (c : Char) : Bool := inRanges [(0xE0061, 0xE007A)] c

@[inherit_doc isTagLetter]
def isTagDigit (c : Char) : Bool := inRanges [(0xE0030, 0xE0039)] c

/-! ## One character -/

/-- The columns of a character that joins nothing, and what it is to the character before it. -/
def alone (c : Char) : Int × Right :=
  if c = '\u05dc' then (1, .of (.lamed false))
  else if isAlef c then (1, .of .alef)
  else if isSubscriptLetter c then (1, .of .subscript)
  else if c = '\u17a4' then (2, .plain)
  else if c = '\u17d8' then (3, .plain)
  else if c = '\u1a10' then (1, .of (.ya false))
  else if isConsonant c then (1, .of (.consonant false))
  else if c = '\ua4fc' || c = '\ua4fd' then (1, .of .lisuTone)
  else if c = '\ufe01' then (0, ⟨.other, .wide⟩)
  else if c = '\ufe0e' then (0, ⟨.other, .text⟩)
  else if c = '\ufe0f' then (0, ⟨.other, .picture⟩)
  else if c.toNat = 0x10C03 then (1, .of (.orkhon false))
  else if c.toNat = 0x16D67 then (1, .of .vowelE)
  else if c.toNat = 0x16D68 then (1, .of .vowelAi)
  else if isRegion c then (1, .of .region)
  else if isTone c then (2, .of .tone)
  else if isPicture c then (2, .of .picture)
  else if isZeroWidth c then (0, .plain)
  else if isWide c then (2, .plain)
  else (1, .plain)

/-- The columns that a character adds to what it joins, if it joins it. The number is negative where
the whole is narrower than what follows alone. -/
def join? (c : Char) : Follower → Option (Int × Follower)
  | .alef =>
    if isLam c then some (0, .other) else if isTransparent c then some (0, .alef) else none
  | .lamed true => if c = '\u05d0' then some (0, .other) else none
  | .subscript => if c = '\u17d2' then some (-1, .other) else none
  | .ya true => if c = '\u1a17' then some (0, .yaVowel) else none
  | .yaVowel => if c = '\u1a15' then some (0, .other) else none
  | .consonant joiner =>
    if c = '\u2d7f' then some (1, .joinedConsonant)
    else if joiner && isConsonant c then some (0, .other)
    else none
  | .joinedConsonant => if isConsonant c then some (-1, .other) else none
  | .lisuTone => if inRanges [(0xA4F8, 0xA4FB)] c then some (0, .other) else none
  | .orkhon true => if c.toNat = 0x10C32 then some (0, .other) else none
  | .tone =>
    if isToned c then some (0, .picture) else if c = '\u200d' then some (0, .joined) else none
  | .region => if isRegion c then some (1, .regions) else none
  | .regions =>
    if isRegion c then some (1, .regions) else if c = '\u200d' then some (0, .joined) else none
  | .picture => if c = '\u200d' then some (0, .joined) else none
  | .joined =>
    if c = '\u20e3' then some (0, .joinedKey)
    else if isRegion c then some (1, .joinedRegion)
    else if isTone c then some (0, .tone)
    else if c.toNat = 0xE007F then some (0, .tagLetters 0)
    else if isPicture c then some (0, .picture)
    else none
  | .joinedRegion => if isRegion c then some (-1, .joinedEven) else none
  | .joinedEven =>
    if isRegion c then some (3, .joinedOdd)
    else if c = '\u200d' then some (0, .joined)
    else none
  | .joinedOdd =>
    if isRegion c then some (-1, .joinedEven)
    else if c = '\u200d' then some (0, .joined)
    else none
  | .tagLetters count =>
    if isTagLetter c && count < 6 then some (0, .tagLetters (count + 1))
    else if isTagDigit c && count < 5 then some (0, .tagDigits 1)
    else if c.toNat = 0x1F3F4 && 3 ≤ count then some (0, .picture)
    else none
  | .tagDigits count =>
    if isTagDigit c && count < 3 then some (0, .tagDigits (count + 1))
    else if c.toNat = 0x1F3F4 && count = 3 then some (0, .picture)
    else none
  | .vowelE =>
    if c.toNat = 0x16D63 || c.toNat = 0x16D69 then some (0, .other)
    else if c.toNat = 0x16D67 then some (0, .vowelAi)
    else if c.toNat = 0x16D68 then some (1, .vowelE)
    else none
  | .vowelAi => if c.toNat = 0x16D63 then some (0, .other) else none
  | .other | .lineFeed | .joinedKey | .lamed false | .ya false | .orkhon false => none

/-- A selector in front of what stands to the right. A ligature stays one across it. -/
def select (s : Selector) (f : Follower) : Right :=
  ⟨if f.isLetter || (s = .picture && f.isJoined) then f else .other, s⟩

/-- The columns that a character adds where no selector applies to it. -/
def columnsUnselected (c : Char) (f : Follower) : Int × Right :=
  if f = .other then alone c
  else if c = '\ufe0f' then (0, select .picture f)
  else if c = '\ufe0e' then (0, select .text f)
  else if f.isPermeable && c = '\u200d' then (0, .of f.withJoiner)
  else if f.isPermeable && isUnseenMark c then (0, .of f)
  else
    match join? c f with
    | some (n, f) => (n, .of f)
    | none => alone c

/-- The columns that a character adds to what stands to its right. -/
def columns (c : Char) (r : Right) : Int × Right :=
  if r.selector = .picture && isPictureBase c then
    (if r.follower.isJoined then 0 else 2, .of .picture)
  else
    let f := if r.selector = .picture && !r.follower.isLetter then .other else r.follower
    if c.toNat ≤ 0xA0 then
      if c = '\n' then (1, .of .lineFeed)
      else if c = '\r' && f = .lineFeed then (0, .plain)
      else (1, .plain)
    else if r.selector = .text && isTextBase c then (1, .plain)
    else if r.selector = .wide && isQuotation c then (2, .plain)
    else columnsUnselected c f

/-- The columns of a text. -/
def width (s : String) : Nat :=
  (s.toList.foldr (fun c (sum, r) =>
    let (n, r) := columns c r
    (sum + n, r)) ((0 : Int), Right.plain)).1.toNat

end SessionTokens.Text
