/-! # Glob patterns

A pattern is read once into items, and every item but the star stands for exactly one character.
Matching then goes over items and text from the left. A star takes nothing at first, and where the
match fails it goes back to the latest star, which takes one character more. Earlier stars are
forgotten, so the cost is the product of the two lengths, whatever the number of stars.
-/

namespace SessionTokens.Glob

/-- The characters from `lo` to `hi`, both included. -/
structure Span where
  lo : Char
  hi : Char
deriving DecidableEq, Repr

/-- The character lies in the span. -/
def Span.admits (s : Span) (c : Char) : Bool := s.lo ≤ c && c ≤ s.hi

/-- What one position of a pattern stands for. -/
inductive Item where
  /-- `*`: any string. -/
  | star
  /-- `?`: any one character. -/
  | any
  /-- A character that stands for itself. -/
  | char (c : Char)
  /-- A bracket class: a character in one of the spans, or in none of them if `negated`. -/
  | oneOf (negated : Bool) (spans : List Span)
  /-- An opening bracket that is never closed: nothing. -/
  | never
deriving DecidableEq, Repr

/-- Puts a span in front of those read after it. -/
def Span.before (s : Span) (read : Option (List Span × List Char)) : Option (List Span × List Char) :=
  read.map fun r => (s :: r.1, r.2)

/-- Reads the members of a class up to the first closing bracket that is not escaped, and gives the
pattern after it. The upper end of a span is taken as it stands, a backslash included. -/
def readSpans : List Char → Option (List Span × List Char)
  | [] => none
  | ']' :: rest => some ([], rest)
  | '\\' :: lo :: '-' :: hi :: rest =>
    if hi = ']' then Span.before ⟨lo, lo⟩ (readSpans ('-' :: hi :: rest))
    else Span.before ⟨lo, hi⟩ (readSpans rest)
  | '\\' :: lo :: rest => Span.before ⟨lo, lo⟩ (readSpans rest)
  | lo :: '-' :: hi :: rest =>
    if hi = ']' then Span.before ⟨lo, lo⟩ (readSpans ('-' :: hi :: rest))
    else Span.before ⟨lo, hi⟩ (readSpans rest)
  | lo :: rest => Span.before ⟨lo, lo⟩ (readSpans rest)

theorem length_readSpans {cs : List Char} {spans : List Span} {rest : List Char}
    (h : readSpans cs = some (spans, rest)) : rest.length < cs.length := by
  fun_induction readSpans cs generalizing spans <;>
    simp only [Span.before, Option.map_eq_some_iff, Prod.mk.injEq, Option.some.injEq,
      reduceCtorEq] at h <;> grind

/-- Reads a class after its opening bracket: a leading `^` negates it. -/
def readClass : List Char → Option (Item × List Char)
  | '^' :: cs => (readSpans cs).map fun r => (.oneOf true r.1, r.2)
  | cs => (readSpans cs).map fun r => (.oneOf false r.1, r.2)

theorem length_readClass {cs : List Char} {item : Item} {rest : List Char}
    (h : readClass cs = some (item, rest)) : rest.length < cs.length := by
  unfold readClass at h
  split at h <;>
  · obtain ⟨⟨spans, r⟩, hr, he⟩ := Option.map_eq_some_iff.1 h
    obtain ⟨-, rfl⟩ := Prod.mk.injEq .. ▸ he
    have := length_readSpans hr
    simp; omega

/-- The items of a pattern. A backslash takes the next character literally, or itself if it is the
last one. -/
def items : List Char → List Item
  | [] => []
  | '*' :: cs => .star :: items cs
  | '?' :: cs => .any :: items cs
  | '\\' :: c :: cs => .char c :: items cs
  | '[' :: cs =>
    match h : readClass cs with
    | some (item, rest) =>
      have := length_readClass h
      item :: items rest
    | none => [.never]
  | c :: cs => .char c :: items cs
termination_by cs => cs.length

/-- The item admits this one character. -/
def Item.admits : Item → Char → Bool
  | .star, _ => false
  | .any, _ => true
  | .char d, c => c = d
  | .oneOf negated spans, c => spans.any (·.admits c) != negated
  | .never, _ => false

/-! ## Matching -/

/-- A star to come back to: the items after it, and the text that it has not taken. -/
structure Anchor where
  items : List Item
  text : List Char
deriving DecidableEq, Repr

/-- How far a match has come: the items and the text that are left, and the latest star. -/
structure Search where
  items : List Item
  text : List Char
  star? : Option Anchor
  /-- What is left lies in what the star has not taken. -/
  length_text_le : ∀ star ∈ star?, text.length ≤ star.text.length
  /-- What is left lies behind the star. -/
  length_items_le : ∀ star ∈ star?, items.length ≤ star.items.length

namespace Search

/-- Nothing has been matched yet. -/
def start (items : List Item) (text : List Char) : Search := ⟨items, text, none, nofun, nofun⟩

/-- Goes on behind a star with the text that it has not taken. -/
def behind (star : Anchor) : Search where
  items := star.items
  text := star.text
  star? := some star
  length_text_le _ h := by cases h; exact Nat.le_refl _
  length_items_le _ h := by cases h; exact Nat.le_refl _

/-- The latest star takes one more character, and what came after it is matched anew. -/
def retry (s : Search) : Bool ⊕ Search :=
  match s.star? with
  | some ⟨items, _ :: text⟩ => .inr (behind ⟨items, text⟩)
  | _ => .inl false

/-- One step: the verdict, or how far the match has come then. A star takes nothing at first. -/
def step (s : Search) : Bool ⊕ Search :=
  match s with
  | ⟨items, [], _, _, _⟩ => .inl (items.all (· = .star))
  | ⟨.star :: items, c :: text, _, _, _⟩ => .inr (behind ⟨items, c :: text⟩)
  | ⟨item :: items, c :: text, star?, htext, hitems⟩ =>
    if item.admits c then
      .inr ⟨items, text, star?, fun star hs => Nat.le_of_succ_le (htext star hs),
        fun star hs => Nat.le_of_succ_le (hitems star hs)⟩
    else s.retry
  | ⟨[], _ :: _, _, _, _⟩ => s.retry

/-- How many steps are left at most. Behind a star all its items can be gone through again for each
character that it has not taken. -/
def room (s : Search) : Nat :=
  match s.star? with
  | none => (s.text.length + 1) * (s.items.length + 1)
  | some star => star.text.length * (star.items.length + 1) + s.items.length

theorem room_retry {s s' : Search} (h : s.retry = .inr s') : s'.room < s.room := by
  unfold retry at h
  split at h
  · next items c text hstar =>
    cases h
    rw [room, room, hstar]
    simp only [behind, List.length_cons, Nat.add_mul]
    omega
  · cases h

theorem room_behind {s : Search} {items : List Item} (h : s.items = .star :: items) :
    (behind ⟨items, s.text⟩).room < s.room := by
  obtain ⟨_, text, star?, htext, hitems⟩ := s
  cases h
  rw [room, room]
  cases star? with
  | none =>
    simp only [behind, List.length_cons, Nat.add_mul, Nat.mul_add]
    omega
  | some star =>
    have hle : text.length * (items.length + 1) ≤ star.text.length * (star.items.length + 1) :=
      Nat.mul_le_mul (htext star rfl) (Nat.le_succ_of_le (hitems star rfl))
    exact Nat.add_lt_add_of_le_of_lt hle (Nat.lt_succ_self _)

theorem room_step {s s' : Search} (h : s.step = .inr s') : s'.room < s.room := by
  unfold step at h
  split at h
  · cases h
  · next items c text star? htext hitems =>
    cases h
    exact room_behind (s := ⟨.star :: items, c :: text, star?, htext, hitems⟩) rfl
  · next item items c text star? htext hitems hne =>
    split at h
    · cases h
      rw [room, room]
      cases star? with
      | none => exact Nat.mul_lt_mul'' (Nat.lt_succ_self _) (Nat.lt_succ_self _)
      | some star => exact Nat.add_lt_add_left (Nat.lt_succ_self _) _
    · exact room_retry h
  · exact room_retry h

/-- Whether the match succeeds from here. -/
def run (s : Search) : Bool :=
  match _h : s.step with
  | .inl verdict => verdict
  | .inr s' => run s'
termination_by s.room
decreasing_by exact room_step _h

end Search

/-- The pattern derives the text. -/
def isMatch (pattern text : String) : Bool :=
  (Search.start (items pattern.toList) text.toList).run

end SessionTokens.Glob
