import SessionTokens.Settings.Given
import SessionTokens.Text.Word

/-! # Places of settings

The outermost keys of a source may name a place further inside: `store.redis.url` or `names[2]`. A
key that is no such name is a key as it stands.
-/

namespace SessionTokens

/-- One step into a value. -/
inductive Step where
  | field (name : String)
  /-- An item of a list; negative positions count from the end. -/
  | item (position : Int)
deriving DecidableEq, Repr

namespace Step

/-- The character may be part of a field's name. -/
def isNameChar (c : Char) : Bool := c.isAlphanum || c = '_' || c = '-'

/-- A text without the spaces and tabs at its ends. -/
def trimBlanks (cs : List Char) : List Char :=
  let isBlank := fun (c : Char) => c = ' ' || c = '\t'
  ((cs.dropWhile isBlank).reverse.dropWhile isBlank).reverse

/-- The position that a text stands for, if it is one of 64 bits. There may be blanks around it. -/
def position? (cs : List Char) : Option Int :=
  let (negative, digits) :=
    match trimBlanks cs with
    | '-' :: cs => (true, cs)
    | cs => (false, cs)
  if digits.isEmpty || !digits.all Char.isDigit then none
  else
    let n : Int := Binary64.natOfDigits digits
    let n := if negative then -n else n
    if Word.isSigned n then some n else none

/-- The steps after the first one. -/
def more? (cs : List Char) : Option (List Step) :=
  match cs with
  | [] => some []
  | '.' :: rest =>
    let name := rest.takeWhile isNameChar
    if name.isEmpty then none
    else (more? (rest.dropWhile isNameChar)).map (.field (.ofList name) :: ·)
  | '[' :: rest =>
    match _h : rest.dropWhile (· ≠ ']') with
    | [] => none
    | _ :: later =>
      match position? (rest.takeWhile (· ≠ ']')) with
      | none => none
      | some i => (more? later).map (.item i :: ·)
  | _ => none
termination_by cs.length
decreasing_by
  · have := (List.dropWhile_suffix isNameChar (l := rest)).length_le
    simp only [List.length_cons]; omega
  · have := (List.dropWhile_suffix (· ≠ ']') (l := rest)).length_le
    rw [_h] at this
    simp only [List.length_cons] at this ⊢; omega

/-- The steps to the place that a key names. -/
def ofKey (key : String) : List Step :=
  let cs := key.toList
  let name := cs.takeWhile isNameChar
  match if name.isEmpty then none else more? (cs.dropWhile isNameChar) with
  | some steps => .field (.ofList name) :: steps
  | none => [.field key]

end Step

namespace Given

/-- Changes an item of a list. The list grows by nulls to where there is no item yet. -/
def alterItem (position : Int) (f : Given → Given) (items : List Given) : List Given :=
  if 0 ≤ position then
    let i := position.toNat
    (items ++ List.replicate (i + 1 - items.length) Given.null).modify i f
  else
    let back := position.natAbs
    (List.replicate (back - items.length) Given.null ++ items).modify (items.length - back) f

/-- Changes the value at a place. What is on the way becomes a table or a list where it is not. -/
def alterAt (f : Given → Given) : List Step → Given → Given
  | [], v => f v
  | .field name :: steps, v => .table (alter name (alterAt f steps) v.fields)
  | .item position :: steps, v => .list (alterItem position (alterAt f steps) v.items)

/-- Everything given so far with one more source laid over it. -/
def addSource (below : Given) (source : List (String × Given)) : Given :=
  source.foldl (fun all entry => alterAt (fun u => overlay u entry.2) (Step.ofKey entry.1) all) below

end Given

end SessionTokens
