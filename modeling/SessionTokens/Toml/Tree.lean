import SessionTokens.Toml.Scalar

/-! # The tables of a TOML document

A document says piece by piece what its tables hold: a header opens a table, and a line below it
puts a value under a key, whose dots open further tables. A table may be opened only once, so a tree
remembers of each of its tables what has opened it so far. What is said twice has no tree.
-/

namespace SessionTokens.Toml

/-- A value. -/
inductive Value where
  | scalar (s : Scalar)
  | array (items : List Value)
  | table (fields : List (String × Value))

/-- What has opened a table. -/
inductive Opened where
  /-- A header of a table inside it. -/
  | below
  /-- Dots in a key. -/
  | dots
  /-- A header of its own. -/
  | header
deriving DecidableEq, Repr

/-- What stands under a key while a document is read. -/
inductive Node where
  | value (v : Value)
  | table (how : Opened) (entries : List (String × Node))
  /-- Tables of an array that each had a header, the last first. -/
  | tables (last : List (String × Node)) (before : List (List (String × Node)))

/-- The keys of a table with what stands under each. -/
abbrev Entries := List (String × Node)

/-- What stands under a key. -/
def find? (key : String) (entries : Entries) : Option Node :=
  (entries.find? (·.1 = key)).map (·.2)

/-- Puts something under a key, in the place of what stood there. -/
def put (key : String) (n : Node) : Entries → Entries
  | [] => [(key, n)]
  | e :: es => if e.1 = key then (key, n) :: es else e :: put key n es

/-- Puts a value under a dotted key. Nothing may stand under its last part. A table on the way must
not have had a header of its own, and from now on the dots have opened it; an array of tables on the
way stands for its last table, but only tables inside that one can be opened by dots. -/
def assign (v : Value) : List String → Entries → Option Entries
  | [], _ => none
  | [key], entries =>
    match find? key entries with
    | none => some (put key (.value v) entries)
    | some _ => none
  | key :: keys, entries =>
    match find? key entries with
    | none => (assign v keys []).map fun inner => put key (.table .dots inner) entries
    | some (.table how inner) =>
      if how = .header then none
      else (assign v keys inner).map fun inner => put key (.table .dots inner) entries
    | some (.tables last before) =>
      if keys.length = 1 then none
      else (assign v keys last).map fun last => put key (.tables last before) entries
    | some (.value _) => none

/-- How many parts a key may have. -/
def maxParts : Nat := 80

/-- Puts values under dotted keys, one after another. -/
def assignAll (lines : List (List String × Value)) (entries : Entries) : Option Entries :=
  lines.foldl (fun es line =>
    if maxParts < line.1.length then none else es.bind (assign line.2 line.1)) (some entries)

/-- Opens the table of a header and fills it: it may have been opened from below only. -/
def openTable (fill : Entries → Option Entries) : Option Node → Option Node
  | none => (fill []).map (.table .header)
  | some (.table .below entries) => (fill entries).map (.table .header)
  | some _ => none

/-- Adds a table to the array of a header and fills it. -/
def addTable (fill : Entries → Option Entries) : Option Node → Option Node
  | none => (fill []).map (.tables · [])
  | some (.tables last before) => (fill []).map (.tables · (last :: before))
  | some _ => none

/-- Goes down a header's key and changes what stands under its last part. An array of tables on the
way stands for its last table. -/
def descend (change : Option Node → Option Node) : List String → Entries → Option Entries
  | [], _ => none
  | [key], entries => (change (find? key entries)).map fun n => put key n entries
  | key :: keys, entries =>
    match find? key entries with
    | none => (descend change keys []).map fun inner => put key (.table .below inner) entries
    | some (.table how inner) =>
      (descend change keys inner).map fun inner => put key (.table how inner) entries
    | some (.tables last before) =>
      (descend change keys last).map fun last => put key (.tables last before) entries
    | some (.value _) => none

/-- Changes what stands under a header's key, if the key is short enough. -/
def descendKey (change : Option Node → Option Node) (key : List String) (entries : Entries) :
    Option Entries :=
  if maxParts < key.length then none else descend change key entries

mutual

/-- The value that a tree comes to. -/
def Node.toValue : Node → Value
  | .value v => v
  | .table _ entries => .table (entriesValues entries)
  | .tables last before => .array (tablesValues before [.table (entriesValues last)])

/-- The values under the keys. -/
def entriesValues : List (String × Node) → List (String × Value)
  | [] => []
  | (key, n) :: es => (key, n.toValue) :: entriesValues es

/-- The values of tables, the last first, in front of those that follow them. -/
def tablesValues : List (List (String × Node)) → List Value → List Value
  | [], later => later
  | t :: ts, later => tablesValues ts (.table (entriesValues t) :: later)

end

end SessionTokens.Toml
