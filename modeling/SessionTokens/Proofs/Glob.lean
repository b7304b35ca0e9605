import SessionTokens.Glob
import SessionTokens.Proofs.Keys

/-!
# What a pattern matches

The matcher goes over items and text once, and where the match fails it goes
back to the latest star and to no other. `Derives` says what the items mean
without any search: a star takes any run of characters, every other item
exactly one that it admits. That one star is enough is seen by moving a
derivation: once the items between two stars have matched somewhere, a
derivation that has them match further right can be shortened to this place,
because the later star takes what is between. So a search `Tracks` the
derivations of the whole, `Recovers` says what going back is worth, and a step
either ends the search with the right answer or keeps both.

The pattern that a sweep enumerates by is the one place where patterns are
built from data. Escaping makes every character of the subject stand for
itself, so the pattern matches the keys that start with the subject's lead and
no others.
-/

namespace SessionTokens.Glob

/-- The items derive the text. -/
inductive Derives : List Item → List Char → Prop
  | nil : Derives [] []
  | star_none {is : List Item} {text : List Char} :
      Derives is text → Derives (.star :: is) text
  | star_more {is : List Item} {c : Char} {text : List Char} :
      Derives (.star :: is) text → Derives (.star :: is) (c :: text)
  | one {i : Item} {is : List Item} {c : Char} {text : List Char} :
      i.admits c = true → Derives is text → Derives (i :: is) (c :: text)

section

variable {i : Item} {is taken : List Item} {c : Char} {text rest : List Char}

theorem derives_nil_iff : Derives is [] ↔ is.all (· = .star) = true := by
  induction is with
  | nil => exact ⟨fun _ => rfl, fun _ => .nil⟩
  | cons i is ih =>
      rw [List.all_cons, Bool.and_eq_true, decide_eq_true_eq, ← ih]
      constructor
      · intro h
        cases h with
        | star_none h => exact ⟨rfl, h⟩
      · rintro ⟨rfl, h⟩
        exact .star_none h

theorem not_derives_nil_cons : ¬ Derives [] (c :: text) := nofun

theorem derives_one_cons_iff (hi : i ≠ .star) :
    Derives (i :: is) (c :: text) ↔ i.admits c = true ∧ Derives is text := by
  constructor
  · intro h
    cases h with
    | star_none _ => exact absurd rfl hi
    | star_more _ => exact absurd rfl hi
    | one hadmits h => exact ⟨hadmits, h⟩
  · rintro ⟨hadmits, h⟩
    exact .one hadmits h

/-- A star takes all before some end of the text. -/
theorem derives_star_cons_iff :
    Derives (.star :: is) text ↔ ∃ rest, rest <:+ text ∧ Derives is rest := by
  constructor
  · intro h
    generalize heq : Item.star :: is = all at h
    induction h with
    | nil => cases heq
    | star_none h =>
        cases heq
        exact ⟨_, List.suffix_rfl, h⟩
    | star_more _ ih =>
        obtain ⟨rest, hrest, h⟩ := ih heq
        exact ⟨rest, hrest.trans (List.suffix_cons ..), h⟩
    | one hadmits _ =>
        cases heq
        cases hadmits
  · rintro ⟨rest, ⟨lead, rfl⟩, h⟩
    induction lead with
    | nil => exact .star_none h
    | cons c lead ih => exact .star_more ih

/-- Items without a star take one character each. -/
theorem Derives.left_of_no_star (htaken : .star ∉ taken)
    (h : Derives (taken ++ is) text) :
    ∃ rest, rest <:+ text ∧ text.length = taken.length + rest.length ∧
      Derives is rest := by
  induction taken generalizing text with
  | nil => exact ⟨text, List.suffix_rfl, (Nat.zero_add _).symm, h⟩
  | cons i taken ih =>
      have hi : i ≠ .star := fun heq => htaken (heq ▸ List.mem_cons_self)
      cases h with
      | star_none _ => exact absurd rfl hi
      | star_more _ => exact absurd rfl hi
      | one _ h =>
          obtain ⟨rest, hrest, hlength, hd⟩ :=
            ih (fun hmem => htaken (List.mem_cons_of_mem _ hmem)) h
          refine ⟨rest, hrest.trans (List.suffix_cons ..), ?_, hd⟩
          simp only [List.length_cons]
          omega

end

/-! ## One star is enough

A search that meets a star forgets the one before. It may: all that the earlier
star could still do is to take more, and then the items up to the later star
would come to stand further right. The later star gets there as well. -/

namespace Search

variable {s s' : Search} {b : Bool}

/-- Since the latest star items have been matched that are no stars. -/
def Tracks (s : Search) : Prop :=
  ∀ star ∈ s.star?, ∃ taken : List Item, star.items = taken ++ s.items ∧
    .star ∉ taken ∧ s.text <:+ star.text ∧
      star.text.length = taken.length + s.text.length

/-- The latest star can take more, and what came after it is derived then. -/
def Recovers (s : Search) : Prop :=
  ∃ is c text, s.star? = some ⟨is, c :: text⟩ ∧ Derives (.star :: is) text

/-- What is left is derived, or it will do to take more with the latest star. -/
def Succeeds (s : Search) : Prop := Derives s.items s.text ∨ s.Recovers

theorem tracks_start (is : List Item) (text : List Char) :
    (start is text).Tracks := nofun

theorem succeeds_start {is : List Item} {text : List Char} :
    (start is text).Succeeds ↔ Derives is text :=
  or_iff_left fun ⟨_, _, _, hstar, _⟩ => nomatch hstar

theorem tracks_behind (star : Anchor) : (behind star).Tracks := by
  rintro _ ⟨⟩
  exact ⟨[], rfl, List.not_mem_nil, List.suffix_rfl, (Nat.zero_add _).symm⟩

theorem succeeds_behind {is : List Item} {text : List Char} :
    (behind ⟨is, text⟩).Succeeds ↔ Derives (.star :: is) text := by
  constructor
  · rintro (h | ⟨_, _, _, hstar, h⟩)
    · exact .star_none h
    · cases hstar
      exact .star_more h
  · intro h
    cases h with
    | star_none h => exact .inl h
    | star_more h => exact .inr ⟨_, _, _, rfl, h⟩
    | one hadmits _ => cases hadmits

/-- What the star could still do it does further right than the search is. -/
theorem Tracks.recovers (h : s.Tracks) (hr : s.Recovers) :
    ∃ c text, s.text = c :: text ∧ Derives (.star :: s.items) text := by
  obtain ⟨is, c, text, hstar, hd⟩ := hr
  obtain ⟨taken, his, htaken, hsuffix, hlength⟩ := h _ hstar
  obtain ⟨rest, hrest, hd⟩ := derives_star_cons_iff.mp hd
  obtain rfl : is = taken ++ s.items := his
  obtain ⟨rest', hrest', hlength', hd⟩ := hd.left_of_no_star htaken
  have hle := hrest.length_le
  rw [List.length_cons] at hlength
  have hleft : rest' <:+ s.text :=
    List.suffix_of_suffix_length_le
      ((hrest'.trans hrest).trans (List.suffix_cons ..)) hsuffix (by omega)
  cases htext : s.text with
  | nil =>
      rw [htext, List.length_nil] at hlength
      omega
  | cons c' text' =>
      rw [htext] at hleft hlength
      rw [List.length_cons] at hlength
      rcases List.suffix_cons_iff.mp hleft with rfl | hleft
      · rw [List.length_cons] at hlength'
        omega
      · exact ⟨c', text', rfl, derives_star_cons_iff.mpr ⟨rest', hleft, hd⟩⟩

/-- Going back to the star decides whether that helps. -/
theorem retry_verdict (h : s.retry = .inl b) : b = true ↔ s.Recovers := by
  unfold retry at h
  split at h
  · cases h
  · next hnone =>
      cases h
      exact iff_of_false nofun fun ⟨_, _, _, hstar, _⟩ => hnone _ _ _ hstar

theorem retry_next (h : s.retry = .inr s') :
    s'.Tracks ∧ (s'.Succeeds ↔ s.Recovers) := by
  unfold retry at h
  split at h
  · next is c text hstar =>
      cases h
      refine ⟨tracks_behind _, succeeds_behind.trans ?_⟩
      constructor
      · exact fun hd => ⟨is, c, text, hstar, hd⟩
      · rintro ⟨_, _, _, hstar', hd⟩
        cases hstar.symm.trans hstar'
        exact hd
  · cases h

/-- A verdict is right. -/
theorem step_verdict (ht : s.Tracks) (h : s.step = .inl b) :
    b = true ↔ s.Succeeds := by
  unfold step at h
  split at h
  · next is star? htext hitems =>
      cases h
      refine derives_nil_iff.symm.trans (or_iff_left fun hr => ?_).symm
      obtain ⟨_, _, hleft, -⟩ := ht.recovers hr
      cases hleft
  · cases h
  · next i is c text star? htext hitems hi =>
      split at h
      · cases h
      · next hadmits =>
          refine (retry_verdict h).trans (or_iff_right fun hd => ?_).symm
          exact hadmits ((derives_one_cons_iff hi).mp hd).1
  · exact (retry_verdict h).trans (or_iff_right not_derives_nil_cons).symm

/-- A step goes on where the match succeeds just as before. -/
theorem step_next (ht : s.Tracks) (h : s.step = .inr s') :
    s'.Tracks ∧ (s'.Succeeds ↔ s.Succeeds) := by
  unfold step at h
  split at h
  · cases h
  · next is c text star? htext hitems =>
      cases h
      refine ⟨tracks_behind _, succeeds_behind.trans ?_⟩
      refine (or_iff_left_of_imp fun hr => ?_).symm
      obtain ⟨_, _, hleft, hd⟩ := ht.recovers hr
      cases hleft
      obtain ⟨rest, hrest, hd⟩ := derives_star_cons_iff.mp hd
      obtain ⟨rest', hrest', hd⟩ := derives_star_cons_iff.mp hd
      exact .star_more (derives_star_cons_iff.mpr ⟨_, hrest'.trans hrest, hd⟩)
  · next i is c text star? htext hitems hi =>
      split at h
      · next hadmits =>
          cases h
          constructor
          · intro star hstar
            obtain ⟨taken, his, htaken, hsuffix, hlength⟩ := ht star hstar
            refine ⟨taken ++ [i], ?_, ?_,
              (List.suffix_cons ..).trans hsuffix, ?_⟩
            · rw [his, List.append_assoc, List.singleton_append]
            · rw [List.mem_append, List.mem_singleton]
              rintro (hmem | heq)
              · exact htaken hmem
              · exact hi heq.symm
            · rw [hlength, List.length_append]
              simp only [List.length_cons, List.length_nil]
              omega
          · have hone : Derives (i :: is) (c :: text) ↔ Derives is text :=
              (derives_one_cons_iff hi).trans (and_iff_right hadmits)
            exact or_congr hone.symm Iff.rfl
      · next hadmits =>
          obtain ⟨htracks, hiff⟩ := retry_next h
          refine ⟨htracks, hiff.trans (or_iff_right fun hd => ?_).symm⟩
          exact hadmits ((derives_one_cons_iff hi).mp hd).1
  · obtain ⟨htracks, hiff⟩ := retry_next h
    exact ⟨htracks, hiff.trans (or_iff_right not_derives_nil_cons).symm⟩

/-- A search ends with the right verdict. -/
theorem run_iff (ht : s.Tracks) : s.run = true ↔ s.Succeeds := by
  induction s using run.induct with
  | case1 s b h =>
      rw [run, h]
      exact step_verdict ht h
  | case2 s s' h ih =>
      obtain ⟨ht', hiff⟩ := step_next ht h
      rw [run, h]
      exact (ih ht').trans hiff

end Search

/-- The matcher accepts exactly what the items of the pattern derive. -/
theorem isMatch_iff (pattern text : String) :
    isMatch pattern text = true ↔
      Derives (items pattern.toList) text.toList :=
  (Search.run_iff (Search.tracks_start _ _)).trans Search.succeeds_start

/-! ## Patterns that stand for themselves -/

theorem derives_star (text : List Char) : Derives [.star] text := by
  induction text with
  | nil => exact .star_none .nil
  | cons c text ih => exact .star_more ih

theorem derives_chars_iff (cs : List Char) (is : List Item) (text : List Char) :
    Derives (cs.map .char ++ is) text ↔
      ∃ rest, text = cs ++ rest ∧ Derives is rest := by
  induction cs generalizing text with
  | nil => exact ⟨fun h => ⟨text, rfl, h⟩, fun ⟨rest, heq, h⟩ => heq ▸ h⟩
  | cons c cs ih =>
      constructor
      · intro h
        cases h with
        | one hadmits h =>
            obtain ⟨rest, rfl, hrest⟩ := (ih _).mp h
            have hc := of_decide_eq_true hadmits
            subst hc
            exact ⟨rest, rfl, hrest⟩
      · rintro ⟨rest, rfl, hrest⟩
        exact .one (decide_eq_true rfl) ((ih _).mpr ⟨rest, rfl, hrest⟩)

theorem items_cons_of_not_isMeta {c : Char} (h : Key.isMeta c = false)
    (cs : List Char) : items (c :: cs) = .char c :: items cs := by
  simp only [Key.isMeta, Bool.or_eq_false_iff, decide_eq_false_iff_not] at h
  obtain ⟨⟨⟨⟨⟨hstar, hany⟩, hopen⟩, -⟩, hback⟩, -⟩ := h
  rw [items]
  · exact hstar
  · exact hany
  · intro d ds heq
    exact absurd heq hback
  · exact hopen

theorem items_append_of_not_isMeta {cs : List Char}
    (h : ∀ c ∈ cs, Key.isMeta c = false) (rest : List Char) :
    items (cs ++ rest) = cs.map .char ++ items rest := by
  induction cs with
  | nil => rfl
  | cons c cs ih =>
      rw [List.cons_append, items_cons_of_not_isMeta (h c List.mem_cons_self),
        ih fun d hd => h d (List.mem_cons_of_mem _ hd)]
      rfl

/-- Escaping makes every character stand for itself. -/
theorem items_escapeChars (cs rest : List Char) :
    items (Key.escapeChars cs ++ rest) = cs.map .char ++ items rest := by
  induction cs with
  | nil => rfl
  | cons c cs ih =>
      rw [Key.escapeChars]
      split
      · rw [List.cons_append, List.cons_append, items, ih]
        rfl
      · next h =>
          rw [List.cons_append,
            items_cons_of_not_isMeta (Bool.eq_false_iff.mpr h), ih]
          rfl

theorem not_isMeta_of_mem_name (ns : Namespace) :
    ∀ c ∈ ns.name.toList, Key.isMeta c = false := by
  have hall : ns.name.toList.all (fun c => !Key.isMeta c) = true := by
    cases ns <;> decide
  intro c hc
  exact (Bool.not_eq_true' _).mp (List.all_eq_true.mp hall c hc)

/-- A subject's pattern matches the keys with the subject's lead. -/
theorem isMatch_subjectPattern {ns : Namespace} {sub key : String} :
    isMatch (Key.subjectPattern ns.name sub) key = true ↔
      (Key.lead ns.name sub).toList <+: key.toList := by
  have hitems : items (Key.subjectPattern ns.name sub).toList =
      (Key.lead ns.name sub).toList.map .char ++ [.star] := by
    have hcolon : ∀ rest, items (':' :: rest) = .char ':' :: items rest :=
      items_cons_of_not_isMeta (by decide)
    have hrest : (":*" : String).toList = [':', '*'] := by decide
    simp only [Key.subjectPattern, Key.lead, Key.escapeGlob,
      String.toList_append, String.toList_ofList, List.append_assoc, hrest,
      items_append_of_not_isMeta (not_isMeta_of_mem_name ns)]
    rw [show (":" : String).toList = [':'] by decide, List.singleton_append,
      hcolon, items_escapeChars, hcolon, items, items]
    simp
  rw [isMatch_iff, hitems, derives_chars_iff]
  constructor
  · rintro ⟨rest, heq, -⟩
    exact ⟨rest, heq.symm⟩
  · rintro ⟨rest, heq⟩
    exact ⟨rest, heq.symm, derives_star rest⟩

/-- What belongs to a subject is found by the subject's pattern. -/
theorem isMatch_of_belongsTo {ns : Namespace} {sub key : String}
    (h : Key.belongsTo key ns.name sub = true) :
    isMatch (Key.subjectPattern ns.name sub) key = true := by
  obtain ⟨id, -, rfl⟩ := Key.belongsTo_iff.mp h
  rw [isMatch_subjectPattern, Key.make, String.toList_append]
  exact List.prefix_append _ _

end SessionTokens.Glob
