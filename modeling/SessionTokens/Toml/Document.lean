import SessionTokens.Toml.Tree

/-! # TOML documents

The grammar of TOML above its words: dotted keys, values with parts, headers and lines. Values nest
only so deep. Where something repeats, the length of the text bounds how often, since every round
takes at least one character.
-/

namespace SessionTokens.Toml

/-- What follows spaces and tabs. -/
def skipBlank (cs : List Char) : List Char := cs.dropWhile isBlank

/-- What follows a comment, if one stands at the front. -/
def skipComment : List Char → List Char
  | '#' :: cs => cs.dropWhile isPlain
  | cs => cs

/-- What follows the end of a line, which may hold blanks and a comment. -/
def endOfLine? (cs : List Char) : Option (List Char) :=
  match skipComment (skipBlank cs) with
  | [] => some []
  | '\n' :: rest => some rest
  | '\r' :: '\n' :: rest => some rest
  | _ => none

/-- What follows blanks, comments and line breaks, at most so many of the last. -/
def skipLines : Nat → List Char → List Char
  | 0, cs => skipBlank cs
  | lines + 1, cs =>
    match skipComment (skipBlank cs) with
    | '\n' :: rest => skipLines lines rest
    | '\r' :: '\n' :: rest => skipLines lines rest
    | rest => rest

/-- Reads one or more items with separators between them, at most so many. -/
def readSeparated {α : Type} (item : List Char → Option (α × List Char))
    (separator? : List Char → Option (List Char)) : Nat → List Char → Option (List α × List Char)
  | 0, _ => none
  | items + 1, cs =>
    match item cs with
    | none => none
    | some (a, rest) =>
      match separator? rest with
      | none => some ([a], rest)
      | some rest => (readSeparated item separator? items rest).map fun r => (a :: r.1, r.2)

/-- What follows a character with blanks around it. -/
def afterSign? (sign : Char) (cs : List Char) : Option (List Char) :=
  match skipBlank cs with
  | c :: rest => if c = sign then some (skipBlank rest) else none
  | [] => none

/-! ## Keys -/

/-- The character may be part of a key without quotes. -/
def isKeyChar (c : Char) : Bool := c.isAlphanum || c = '_' || c = '-'

/-- Reads one part of a key: bare, or a string on one line. -/
def readPart (cs : List Char) : Option (String × List Char) :=
  match cs with
  | '"' :: rest => (readBasic rest).map fun r => (.ofList r.1, r.2)
  | '\'' :: rest => (readLiteral rest).map fun r => (.ofList r.1, r.2)
  | _ =>
    let name := cs.takeWhile isKeyChar
    if name.isEmpty then none else some (.ofList name, cs.dropWhile isKeyChar)

/-- Reads a dotted key. -/
def readKey (cs : List Char) : Option (List String × List Char) :=
  readSeparated readPart (afterSign? '.') cs.length cs

/-- Reads a key, its equals sign and its value. What may stand around the sign is passed over. -/
def readPair (skip : List Char → List Char) (value : List Char → Option (Value × List Char))
    (cs : List Char) : Option ((List String × Value) × List Char) := do
  let (key, rest) ← readKey cs
  match skip rest with
  | '=' :: rest =>
    let (v, rest) ← value (skip rest)
    return ((key, v), rest)
  | _ => none

/-! ## Values -/

/-- What follows blanks, comments and line breaks. -/
def skipSpace (cs : List Char) : List Char := skipLines cs.length cs

/-- Reads items with commas between them up to the closing bracket, at most so many. A comma may
stand before the bracket too. -/
def readItems {α : Type} (close : Char) (item : List Char → Option (α × List Char)) :
    Nat → List Char → Option (List α × List Char)
  | 0, _ => none
  | items + 1, cs =>
    match skipSpace cs with
    | [] => none
    | c :: start =>
      if c = close then some ([], start)
      else
        match item (c :: start) with
        | none => none
        | some (a, rest) =>
          match skipSpace rest with
          | [] => none
          | d :: rest =>
            if d = close then some ([a], rest)
            else if d = ',' then
              (readItems close item items rest).map fun r => (a :: r.1, r.2)
            else none

/-- Reads an array after its bracket, and with its closing one. -/
def readArray (value : List Char → Option (Value × List Char)) (cs : List Char) :
    Option (Value × List Char) :=
  (readItems ']' value (cs.length + 1) cs).map fun r => (.array r.1, r.2)

/-- Reads a table after its brace, and with its closing one. -/
def readInline (value : List Char → Option (Value × List Char)) (cs : List Char) :
    Option (Value × List Char) := do
  let (pairs, rest) ← readItems '}' (readPair skipSpace value) (cs.length + 1) cs
  let entries ← assignAll pairs []
  return (.table (entriesValues entries), rest)

/-- Reads a value that nests at most so deep. -/
def readValue : Nat → List Char → Option (Value × List Char)
  | 0, cs => (readScalar cs).map fun r => (.scalar r.1, r.2)
  | depth + 1, '[' :: cs => readArray (readValue depth) cs
  | depth + 1, '{' :: cs => readInline (readValue depth) cs
  | _ + 1, cs => (readScalar cs).map fun r => (.scalar r.1, r.2)

/-- How deep values may nest. -/
def maxDepth : Nat := 80

/-! ## Lines -/

/-- What a line says. -/
inductive Line where
  /-- The following lines are about this table. -/
  | header (key : List String)
  /-- The following lines are about a new table of this array. -/
  | arrayHeader (key : List String)
  | pair (key : List String) (v : Value)

/-- Reads what a line says, from its first character on. -/
def readLine : List Char → Option (Line × List Char)
  | '[' :: '[' :: cs => do
    let (key, rest) ← readKey (skipBlank cs)
    match skipBlank rest with
    | ']' :: ']' :: rest => some (.arrayHeader key, rest)
    | _ => none
  | '[' :: cs => do
    let (key, rest) ← readKey (skipBlank cs)
    match skipBlank rest with
    | ']' :: rest => some (.header key, rest)
    | _ => none
  | cs => (readPair skipBlank (readValue maxDepth) cs).map fun r => (.pair r.1.1 r.1.2, r.2)

/-- Reads lines, at most so many. -/
def readLines : Nat → List Char → Option (List Line)
  | 0, _ => none
  | lines + 1, cs =>
    match skipLines cs.length cs with
    | [] => some []
    | start => do
      let (line, rest) ← readLine start
      let rest ← endOfLine? rest
      let later ← readLines lines rest
      return line :: later

/-- The pairs at the front and what follows them. -/
def splitPairs : List Line → List (List String × Value) × List Line
  | .pair key v :: lines =>
    let r := splitPairs lines
    ((key, v) :: r.1, r.2)
  | lines => ([], lines)

/-- One line of the document: a header takes the pairs up to the next one with it. -/
def takeLine (lines : List Line) (line : Line) (entries : Entries) : Option Entries :=
  match line with
  | .header key => descendKey (openTable (assignAll (splitPairs lines).1)) key entries
  | .arrayHeader key => descendKey (addTable (assignAll (splitPairs lines).1)) key entries
  | .pair _ _ => some entries

/-- The tables of all headers. -/
def takeLines : List Line → Entries → Option Entries
  | [], entries => some entries
  | line :: lines, entries => (takeLine lines line entries).bind (takeLines lines)

/-- The table that a document writes. A byte order mark in front of it is passed over. -/
def parse? (cs : List Char) : Option (List (String × Value)) := do
  let cs := if cs.head? = some '\ufeff' then cs.tail else cs
  let lines ← readLines (cs.length + 1) cs
  let (pairs, sections) := splitPairs lines
  let entries ← (assignAll pairs []).bind (takeLines sections)
  return entriesValues entries

end SessionTokens.Toml
