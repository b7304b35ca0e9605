import SessionTokens.Proofs.Glob

/-!
# What a pattern means

A pattern is a text itself, and `Matches` says what it means as it is written,
from the left to the right: a star, a question mark, a backslash, a class in
brackets, or a character that stands for itself. A bracket that is not closed
has no rule, so it derives nothing.

The matcher reads a pattern into items first. Both readings go the same way
through the pattern: a class is read up to the first bracket that closes it,
one member after another, and `Members` says which spans it lists. That the
members of `Members` are those that the reader takes is the one induction over
classes; the rest follows item by item.
-/

namespace SessionTokens.Glob

/-! ## Classes -/

/-- The character at the front of a class, which is not its end: as it stands,
or after a backslash. -/
inductive LowEnd : List Char → Char → List Char → Prop
  | plain {c : Char} {cs : List Char} :
      c ≠ ']' → c ≠ '\\' → LowEnd (c :: cs) c cs
  | escaped {c : Char} {cs : List Char} : LowEnd ('\\' :: c :: cs) c cs

/-- A dash and a character that does not close the class, as it stands. -/
inductive HighEnd : List Char → Char → List Char → Prop
  | dash {c : Char} {cs : List Char} : c ≠ ']' → HighEnd ('-' :: c :: cs) c cs

/-- The text of a class up to the bracket that closes it lists these spans. -/
inductive Members : List Char → List Span → List Char → Prop
  | close {rest : List Char} : Members (']' :: rest) [] rest
  | single {cs later rest : List Char} {c : Char} {spans : List Span} :
      LowEnd cs c later → (¬ ∃ hi more, HighEnd later hi more) →
      Members later spans rest → Members cs (⟨c, c⟩ :: spans) rest
  | range {cs later more rest : List Char} {lo hi : Char}
      {spans : List Span} :
      LowEnd cs lo later → HighEnd later hi more →
      Members more spans rest → Members cs (⟨lo, hi⟩ :: spans) rest

/-- The character lies in one of the spans. -/
def Listed (spans : List Span) (c : Char) : Prop :=
  ∃ span ∈ spans, span.lo ≤ c ∧ c ≤ span.hi

/-- The class after an opening bracket admits the character, and the pattern
goes on behind it. -/
inductive ClassAdmits : List Char → Char → List Char → Prop
  | listed {cs rest : List Char} {c : Char} {spans : List Span} :
      cs.head? ≠ some '^' → Members cs spans rest → Listed spans c →
      ClassAdmits cs c rest
  | unlisted {cs rest : List Char} {c : Char} {spans : List Span} :
      Members cs spans rest → ¬ Listed spans c →
      ClassAdmits ('^' :: cs) c rest

/-- The pattern, read from the left to the right, derives the text. -/
inductive Matches : List Char → List Char → Prop
  | nil : Matches [] []
  | star {cs text : List Char} (lead : List Char) :
      Matches cs text → Matches ('*' :: cs) (lead ++ text)
  | any {cs text : List Char} {c : Char} :
      Matches cs text → Matches ('?' :: cs) (c :: text)
  | escaped {cs text : List Char} {c : Char} :
      Matches cs text → Matches ('\\' :: c :: cs) (c :: text)
  | oneOf {cs rest text : List Char} {c : Char} :
      ClassAdmits cs c rest → Matches rest text →
      Matches ('[' :: cs) (c :: text)
  | itself {cs text : List Char} {c : Char} :
      c ∉ ['*', '?', '['] → (c = '\\' → cs = []) → Matches cs text →
      Matches (c :: cs) (c :: text)

section

variable {cs later more rest text : List Char} {c lo hi : Char}
  {spans : List Span}

/-! ## Reading a class -/

theorem readSpans_of_range (h : LowEnd cs lo later)
    (h' : HighEnd later hi more) :
    readSpans cs = Span.before ⟨lo, hi⟩ (readSpans more) := by
  obtain ⟨hhi⟩ := h'
  cases h with
  | plain hclose hback =>
      rw [readSpans, if_neg hhi]
      · exact hclose
      · exact fun _ _ hback' _ _ => hback hback'
      · exact hback
  | escaped => rw [readSpans, if_neg hhi]

theorem readSpans_of_single (h : LowEnd cs c later)
    (hno : ¬ ∃ hi more, HighEnd later hi more) :
    readSpans cs = Span.before ⟨c, c⟩ (readSpans later) := by
  by_cases hdash : ∃ hi more, later = '-' :: hi :: more
  · obtain ⟨hi, more, rfl⟩ := hdash
    have hhi : hi = ']' :=
      Classical.byContradiction fun hne => hno ⟨hi, more, .dash hne⟩
    cases h with
    | plain hclose hback =>
        rw [readSpans, if_pos hhi]
        · exact hclose
        · exact fun _ _ hback' _ _ => hback hback'
        · exact hback
    | escaped => rw [readSpans, if_pos hhi]
  · cases h with
    | plain hclose hback =>
        rw [readSpans]
        · exact hclose
        · exact fun _ _ _ hback' _ => hback hback'
        · exact fun _ _ hback' _ => hback hback'
        · exact fun hi more heq => hdash ⟨hi, more, heq⟩
    | escaped =>
        rw [readSpans]
        exact fun hi more heq => hdash ⟨hi, more, heq⟩

theorem lowEnd_or_eq (cs : List Char) :
    (∃ c later, LowEnd cs c later) ∨ (∃ rest, cs = ']' :: rest) ∨
      cs = [] ∨ cs = ['\\'] := by
  match cs with
  | [] => exact .inr (.inr (.inl rfl))
  | c :: cs =>
      by_cases hclose : c = ']'
      · exact .inr (.inl ⟨cs, by rw [hclose]⟩)
      · by_cases hback : c = '\\'
        · subst hback
          cases cs with
          | nil => exact .inr (.inr (.inr rfl))
          | cons d cs => exact .inl ⟨d, cs, .escaped⟩
        · exact .inl ⟨c, cs, .plain hclose hback⟩

theorem LowEnd.length_lt (h : LowEnd cs c later) :
    later.length < cs.length := by
  cases h with
  | plain _ _ => exact Nat.lt_succ_self _
  | escaped => exact Nat.lt_add_of_pos_right Nat.two_pos

theorem HighEnd.length_lt (h : HighEnd cs c later) :
    later.length < cs.length := by
  obtain ⟨-⟩ := h
  exact Nat.lt_add_of_pos_right Nat.two_pos

theorem before_eq_some {span : Span} {read : Option (List Span × List Char)}
    (h : Span.before span read = some (spans, rest)) :
    ∃ spans', read = some (spans', rest) ∧ spans = span :: spans' := by
  obtain ⟨⟨spans', rest'⟩, hread, heq⟩ := Option.map_eq_some_iff.mp h
  obtain ⟨rfl, rfl⟩ := Prod.mk.inj heq
  exact ⟨spans', hread, rfl⟩

theorem members_of_readSpans (h : readSpans cs = some (spans, rest)) :
    Members cs spans rest := by
  induction hn : cs.length using Nat.strongRecOn generalizing cs spans with
  | ind n ih =>
      subst hn
      rcases lowEnd_or_eq cs with ⟨c, later, hlow⟩ | ⟨rest', rfl⟩ | rfl | rfl
      · by_cases hhigh : ∃ hi more, HighEnd later hi more
        · obtain ⟨hi, more, hhigh⟩ := hhigh
          rw [readSpans_of_range hlow hhigh] at h
          obtain ⟨spans', hread, rfl⟩ := before_eq_some h
          have hlt := Nat.lt_trans hhigh.length_lt hlow.length_lt
          exact .range hlow hhigh (ih _ hlt hread rfl)
        · rw [readSpans_of_single hlow hhigh] at h
          obtain ⟨spans', hread, rfl⟩ := before_eq_some h
          exact .single hlow hhigh (ih _ hlow.length_lt hread rfl)
      · rw [readSpans] at h
        cases h
        exact .close
      · cases h
      · cases h

theorem readSpans_of_members (h : Members cs spans rest) :
    readSpans cs = some (spans, rest) := by
  induction h with
  | close => rw [readSpans]
  | single hlow hhigh _ ih => rw [readSpans_of_single hlow hhigh, ih]; rfl
  | range hlow hhigh _ ih => rw [readSpans_of_range hlow hhigh, ih]; rfl

theorem readSpans_eq_some_iff :
    readSpans cs = some (spans, rest) ↔ Members cs spans rest :=
  ⟨members_of_readSpans, readSpans_of_members⟩

theorem any_admits_iff : spans.any (·.admits c) = true ↔ Listed spans c := by
  simp [Listed, Span.admits]

theorem readClass_negated (cs : List Char) :
    readClass ('^' :: cs) =
      (readSpans cs).map fun r => (.oneOf true r.1, r.2) := rfl

theorem readClass_plain (h : cs.head? ≠ some '^') :
    readClass cs = (readSpans cs).map fun r => (.oneOf false r.1, r.2) := by
  unfold readClass
  split
  · exact absurd rfl h
  · rfl

/-- The item of a class admits what the class admits. -/
theorem readClass_admits_iff :
    (∃ item, readClass cs = some (item, rest) ∧ item.admits c = true) ↔
      ClassAdmits cs c rest := by
  constructor
  · rintro ⟨item, hread, hadmits⟩
    by_cases hhead : cs.head? = some '^'
    · obtain ⟨cs, rfl⟩ : ∃ cs', cs = '^' :: cs' :=
        List.head?_eq_some_iff.mp hhead
      obtain ⟨⟨spans, _⟩, hspans, heq⟩ := Option.map_eq_some_iff.mp hread
      obtain ⟨rfl, rfl⟩ := Prod.mk.inj heq
      refine .unlisted (readSpans_eq_some_iff.mp hspans) fun hlisted => ?_
      rw [Item.admits, any_admits_iff.mpr hlisted] at hadmits
      cases hadmits
    · rw [readClass_plain hhead] at hread
      obtain ⟨⟨spans, _⟩, hspans, heq⟩ := Option.map_eq_some_iff.mp hread
      obtain ⟨rfl, rfl⟩ := Prod.mk.inj heq
      refine .listed hhead (readSpans_eq_some_iff.mp hspans) ?_
      rwa [Item.admits, Bool.bne_false, any_admits_iff] at hadmits
  · intro h
    cases h with
    | @listed _ _ _ spans hhead hmembers hlisted =>
        refine ⟨.oneOf false spans, ?_, ?_⟩
        · rw [readClass_plain hhead, readSpans_eq_some_iff.mpr hmembers]
          rfl
        · rw [Item.admits, Bool.bne_false]
          exact any_admits_iff.mpr hlisted
    | @unlisted _ _ _ spans hmembers hlisted =>
        refine ⟨.oneOf true spans, ?_, ?_⟩
        · rw [readClass_negated, readSpans_eq_some_iff.mpr hmembers]
          rfl
        · rw [Item.admits, Bool.bne_true, Bool.not_eq_true',
            Bool.eq_false_iff]
          exact fun h => hlisted (any_admits_iff.mp h)

/-! ## Reading a pattern -/

theorem not_derives_one_nil {i : Item} {is : List Item} (hi : i ≠ .star) :
    ¬ Derives (i :: is) [] := by
  intro h
  cases h with
  | star_none _ => exact hi rfl

/-- An item that is no star derives a first character and leaves the rest. -/
theorem derives_one_iff {i : Item} {is : List Item} (hi : i ≠ .star) :
    Derives (i :: is) text ↔
      ∃ c rest, text = c :: rest ∧ i.admits c = true ∧ Derives is rest := by
  cases text with
  | nil => exact iff_of_false (not_derives_one_nil hi) nofun
  | cons c text =>
      rw [derives_one_cons_iff hi]
      constructor
      · exact fun h => ⟨c, text, rfl, h⟩
      · rintro ⟨_, _, ⟨⟩, h⟩
        exact h

theorem readClass_ne_star {item : Item}
    (h : readClass cs = some (item, rest)) : item ≠ .star := by
  unfold readClass at h
  split at h <;>
  · obtain ⟨_, -, heq⟩ := Option.map_eq_some_iff.mp h
    rintro rfl
    cases heq

theorem items_open_of_some {item : Item}
    (h : readClass cs = some (item, rest)) :
    items ('[' :: cs) = item :: items rest := by
  rw [items]
  split
  · next item' rest' h' =>
      cases h.symm.trans h'
      rfl
  · next h' => cases h.symm.trans h'

theorem items_open_of_none (h : readClass cs = none) :
    items ('[' :: cs) = [.never] := by
  rw [items]
  split
  · next h' => cases h.symm.trans h'
  · rfl

theorem items_cons_itself (hmeta : c ∉ ['*', '?', '['])
    (hback : c = '\\' → cs = []) :
    items (c :: cs) = .char c :: items cs := by
  rw [items]
  · exact fun hstar => hmeta (by simp [hstar])
  · exact fun hany => hmeta (by simp [hany])
  · exact fun d ds hc hcs => List.cons_ne_nil d ds (hcs ▸ hback hc)
  · exact fun hopen => hmeta (by simp [hopen])

/-- What the items of a pattern derive the pattern derives as it is written. -/
theorem matches_of_derives (h : Derives (items cs) text) :
    Matches cs text := by
  induction cs using items.induct generalizing text with
  | case1 =>
      rw [items] at h
      cases h
      exact .nil
  | case2 cs ih =>
      rw [items] at h
      obtain ⟨rest, ⟨lead, rfl⟩, hd⟩ := derives_star_cons_iff.mp h
      exact .star lead (ih hd)
  | case3 cs ih =>
      rw [items, derives_one_iff (by decide)] at h
      obtain ⟨c, rest, rfl, -, hd⟩ := h
      exact .any (ih hd)
  | case4 c cs ih =>
      rw [items, derives_one_iff (by simp)] at h
      obtain ⟨c', rest, rfl, hadmits, hd⟩ := h
      cases of_decide_eq_true hadmits
      exact .escaped (ih hd)
  | case5 cs item later hread hlt ih =>
      rw [items_open_of_some hread,
        derives_one_iff (readClass_ne_star hread)] at h
      obtain ⟨c, rest, rfl, hadmits, hd⟩ := h
      exact .oneOf (readClass_admits_iff.mp ⟨item, hread, hadmits⟩) (ih hd)
  | case6 cs hread =>
      rw [items_open_of_none hread, derives_one_iff (by decide)] at h
      obtain ⟨c, rest, rfl, hadmits, -⟩ := h
      cases hadmits
  | case7 c cs hstar hany hback hopen ih =>
      have hmeta : c ∉ ['*', '?', '['] := by
        simp only [List.mem_cons, List.not_mem_nil, or_false, not_or]
        exact ⟨hstar, hany, hopen⟩
      have hlast : c = '\\' → cs = [] := fun hc => by
        cases cs with
        | nil => rfl
        | cons d ds => exact (hback d ds hc rfl).elim
      rw [items_cons_itself hmeta hlast, derives_one_iff (by simp)] at h
      obtain ⟨c', rest, rfl, hadmits, hd⟩ := h
      cases of_decide_eq_true hadmits
      exact .itself hmeta hlast (ih hd)

/-- What a pattern derives as it is written its items derive. -/
theorem derives_of_matches (h : Matches cs text) :
    Derives (items cs) text := by
  induction h with
  | nil =>
      rw [items]
      exact .nil
  | star lead _ ih =>
      rw [items]
      exact derives_star_cons_iff.mpr ⟨_, List.suffix_append .., ih⟩
  | any _ ih =>
      rw [items]
      exact .one rfl ih
  | escaped _ ih =>
      rw [items]
      exact .one (decide_eq_true rfl) ih
  | oneOf hclass _ ih =>
      obtain ⟨item, hread, hadmits⟩ := readClass_admits_iff.mpr hclass
      rw [items_open_of_some hread]
      exact .one hadmits ih
  | itself hmeta hback _ ih =>
      rw [items_cons_itself hmeta hback]
      exact .one (decide_eq_true rfl) ih

end

/-- The matcher accepts a text exactly if the pattern, read from the left to the
right, derives it. -/
theorem isMatch_iff_matches (pattern text : String) :
    isMatch pattern text = true ↔ Matches pattern.toList text.toList :=
  (isMatch_iff pattern text).trans ⟨matches_of_derives, derives_of_matches⟩

end SessionTokens.Glob
