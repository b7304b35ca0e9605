import SessionTokens.Bearer
import SessionTokens.Proofs.Trimming

/-!
# What is a spelling of a token

A token is presented with white space around it, and after the scheme or not;
`Presents` says so. What is taken off again is decided on characters. The text
is stored in bytes, though, and the scheme is taken off by its length in bytes:
seven of them are looked at, and if they are the scheme, the text is cut behind
the seventh. `cut?` does so, and is `none` where the cut would go through a
character. It never comes to that (`cut?_eq_token`): the letters of the scheme
have one byte each, the capitals too, so the seventh byte is a whole character
where the scheme has been found.

Whatever is presented is a spelling of its token (`presents_token`). A text
without white space is the token of all its spellings (`token_of_presents`): the
scheme ends in a space, so no part of such a text is taken for it.
-/

namespace SessionTokens

namespace Bearer

/-- The text is white space. -/
def IsBlank (s : String) : Prop := ∀ c ∈ s.toList, Text.isBlank c = true

/-- The text has no white space. -/
def IsSolid (s : String) : Prop := ∀ c ∈ s.toList, Text.isBlank c = false

instance (s : String) : Decidable (IsBlank s) :=
  List.decidableBAll (fun c => Text.isBlank c = true) s.toList

instance (s : String) : Decidable (IsSolid s) :=
  List.decidableBAll (fun c => Text.isBlank c = false) s.toList

/-! ## The scheme -/

/-- The characters are the scheme and its space, in any capitals. -/
def IsScheme (front : List Char) : Prop := front.map Char.toLower = scheme

theorem afterScheme?_eq_some_iff {cs rest : List Char} :
    afterScheme? cs = some rest ↔
      ∃ front, IsScheme front ∧ cs = front ++ rest := by
  constructor
  · intro h
    obtain ⟨hfront, hrest⟩ := Option.ite_none_right_eq_some.mp h
    exact ⟨_, hfront,
      Option.some.inj hrest ▸ (List.take_append_drop scheme.length cs).symm⟩
  · rintro ⟨front, hfront, rfl⟩
    have hlength : front.length = scheme.length := by
      rw [← hfront, List.length_map]
    rw [afterScheme?, List.take_left' hlength, List.drop_left' hlength]
    exact if_pos hfront

theorem isScheme_toList {front : String} :
    IsScheme front.toList ↔ front.toLower = "bearer " := by
  rw [IsScheme, ← String.toList_map, ← String.toList_inj]
  rfl

theorem isScheme_append_space {b : List Char} :
    IsScheme (b ++ [' ']) ↔ b.map Char.toLower = "bearer".toList := by
  have hscheme : scheme = "bearer".toList ++ [' '] := rfl
  rw [IsScheme, hscheme, List.map_append]
  exact List.append_left_inj _

/-- The space of the scheme is no other character. -/
theorem IsScheme.exists_eq {front : List Char} (h : IsScheme front) :
    ∃ b, b.map Char.toLower = "bearer".toList ∧ front = b ++ [' '] := by
  have hsplit : front.map Char.toLower = "bearer".toList ++ [' '] := h
  obtain ⟨b, last, rfl, hb, hlast⟩ := List.map_eq_append_iff.mp hsplit
  obtain ⟨c, rfl, hc⟩ := List.map_eq_singleton_iff.mp hlast
  refine ⟨b, hb, ?_⟩
  rcases Text.toLower_cases c with hsame | ⟨hlo, -, hlower⟩
  · rw [← hc, hsame]
  · rw [hc] at hlower
    have hspace : ' '.toNat = 32 := rfl
    omega

/-- The scheme has as many bytes as characters. -/
theorem IsScheme.utf8ByteSize {front : List Char} (h : IsScheme front) :
    (String.ofList front).utf8ByteSize = 7 := by
  rw [← Text.utf8ByteSize_toLower, h]
  rfl

/-- The scheme does not start with white space. -/
theorem IsScheme.head? {front : List Char} (h : IsScheme front) :
    front ≠ [] ∧ ∀ c ∈ front.head?, Text.isBlank c = false := by
  cases front with
  | nil => cases h
  | cons c cs =>
      refine ⟨nofun, fun d hd => ?_⟩
      cases hd
      rw [← Text.isBlank_toLower, (List.cons.inj h).1]
      rfl

theorem afterScheme?_eq_none {cs : List Char}
    (h : ∀ c ∈ cs, Text.isBlank c = false) : afterScheme? cs = none := by
  cases hafter : afterScheme? cs with
  | none => rfl
  | some rest =>
      obtain ⟨front, hfront, rfl⟩ := afterScheme?_eq_some_iff.mp hafter
      obtain ⟨b, -, rfl⟩ := hfront.exists_eq
      have hspace := h ' ' (by simp)
      cases hspace

/-- A text without white space is the token itself. -/
theorem token_of_isSolid {s : String} (h : IsSolid s) : token s = s := by
  rw [token, strip, Text.trim_eq_self (Text.isTrimmed_of_not_blank h),
    afterScheme?_eq_none h]
  exact String.ofList_toList

/-! ## The cut in bytes -/

/-- The token of a presented value, cut out of its bytes. There is none if the
cut behind the scheme goes through a character. -/
def cut? (raw : String) : Option String :=
  let value := String.ofList (Text.trim raw.toList)
  match Text.before? value 7 with
  | some front =>
    if front.toLower = "bearer " then
      (Text.from? value 7).map fun rest =>
        String.ofList (Text.trimStart rest.toList)
    else some value
  | none => some value

/-- The cut never goes through a character, and what it leaves is the token. -/
theorem cut?_eq_token (raw : String) : cut? raw = some (token raw) := by
  unfold cut? token strip
  generalize Text.trim raw.toList = cs
  dsimp only
  cases hafter : afterScheme? cs with
  | some rest =>
      obtain ⟨front, hfront, rfl⟩ := afterScheme?_eq_some_iff.mp hafter
      obtain ⟨hbefore, hfrom⟩ :=
        Text.cut_iff.mpr ⟨String.ofList_append, hfront.utf8ByteSize⟩
      have hlower : (String.ofList front).toLower = "bearer " :=
        isScheme_toList.mp (by rwa [String.toList_ofList])
      rw [hbefore, hfrom]
      dsimp only
      rw [if_pos hlower, Option.map_some, String.toList_ofList]
  | none =>
      cases hbefore : Text.before? (String.ofList cs) 7 with
      | none => rfl
      | some front =>
          obtain ⟨rest, hfrom⟩ := Text.exists_from? hbefore
          obtain ⟨hcs, -⟩ := Text.cut_iff.mp ⟨hbefore, hfrom⟩
          refine if_neg fun hlower => ?_
          have hsome : afterScheme? cs = some rest.toList := by
            refine afterScheme?_eq_some_iff.mpr
              ⟨front.toList, isScheme_toList.mpr hlower, ?_⟩
            rw [← String.toList_append, ← hcs, String.toList_ofList]
          cases hafter.symm.trans hsome

/-! ## Spellings -/

/-- What is presented is the token with white space around it. The scheme may be
in front of it, in any capitals, with a space and any white space after it. -/
inductive Presents (t raw : String) : Prop
  | bare (u v : String) : IsBlank u → IsBlank v → raw = u ++ t ++ v →
      Presents t raw
  | scheme (u b w v : String) : IsBlank u → b.toLower = "bearer" →
      IsBlank w → IsBlank v → raw = u ++ b ++ " " ++ w ++ t ++ v →
      Presents t raw

theorem isTrimmed_token (raw : String) :
    Text.IsTrimmed (token raw).toList := by
  have htrim := Text.isTrimmed_trim raw.toList
  rw [token, strip, String.toList_ofList]
  cases hafter : afterScheme? (Text.trim raw.toList) with
  | none => exact htrim
  | some rest =>
      obtain ⟨front, -, hcs⟩ := afterScheme?_eq_some_iff.mp hafter
      refine Text.isTrimmed_trimStart fun c hc => htrim.2 c ?_
      rw [hcs, List.getLast?_append, Option.mem_def.mp hc]
      rfl

/-- Whatever is presented is a spelling of its token. -/
theorem presents_token (raw : String) : Presents (token raw) raw := by
  obtain ⟨u, v, hu, hv, hraw⟩ := Text.exists_trim raw.toList
  have hblank : ∀ {l : List Char}, (∀ c ∈ l, Text.isBlank c = true) →
      IsBlank (String.ofList l) := by
    intro l hl
    rwa [IsBlank, String.toList_ofList]
  rw [token, strip]
  cases hafter : afterScheme? (Text.trim raw.toList) with
  | none =>
      refine .bare _ _ (hblank hu) (hblank hv) (String.toList_injective ?_)
      simpa using hraw
  | some rest =>
      obtain ⟨front, hfront, hcs⟩ := afterScheme?_eq_some_iff.mp hafter
      obtain ⟨b, hb, rfl⟩ := hfront.exists_eq
      obtain ⟨w, hw, hrest⟩ := Text.exists_trimStart rest
      have hlower : (String.ofList b).toLower = "bearer" := by
        refine String.toList_inj.mp (Eq.trans String.toList_map ?_)
        rw [String.toList_ofList, hb]
      refine .scheme _ _ _ _ (hblank hu) hlower (hblank hw) (hblank hv)
        (String.toList_injective ?_)
      rw [hcs, hrest] at hraw
      simpa using hraw

section

variable {u v w t front : List Char}

theorem strip_bare (hu : ∀ c ∈ u, Text.isBlank c = true)
    (hv : ∀ c ∈ v, Text.isBlank c = true) (hne : t ≠ [])
    (h : ∀ c ∈ t, Text.isBlank c = false) : strip (u ++ t ++ v) = t := by
  have htrimmed := Text.isTrimmed_of_not_blank h
  rw [strip, Text.trim_append hu hv htrimmed hne, afterScheme?_eq_none h]

/-- The white space behind the scheme goes as well. -/
theorem strip_scheme (hfront : IsScheme front)
    (hu : ∀ c ∈ u, Text.isBlank c = true)
    (hw : ∀ c ∈ w, Text.isBlank c = true)
    (hv : ∀ c ∈ v, Text.isBlank c = true) (hne : t ≠ [])
    (h : Text.IsTrimmed t) : strip (u ++ (front ++ w ++ t) ++ v) = t := by
  obtain ⟨hfrontNe, hhead⟩ := hfront.head?
  have hvalue : Text.IsTrimmed (front ++ w ++ t) := by
    refine Text.isTrimmed_append (by simp [hfrontNe]) hne (fun c hc => ?_) h.2
    rw [List.head?_append, List.head?_eq_some_head hfrontNe] at hc
    exact hhead c ((List.head?_eq_some_head hfrontNe).trans hc)
  have hafter : afterScheme? (front ++ w ++ t) = some (w ++ t) :=
    afterScheme?_eq_some_iff.mpr ⟨front, hfront, List.append_assoc ..⟩
  rw [strip, Text.trim_append hu hv hvalue (by simp [hne]), hafter]
  dsimp only
  rw [Text.trimStart_append hw, Text.trimStart_eq_self h.1]

end

/-- A token without white space is found in each of its spellings. -/
theorem token_of_presents {t raw : String} (hne : t ≠ "") (hsolid : IsSolid t)
    (h : Presents t raw) : token raw = t := by
  have hcons : t.toList ≠ [] := fun hnil =>
    hne (String.toList_eq_nil_iff.mp hnil)
  refine String.toList_injective ?_
  rw [token, String.toList_ofList]
  cases h with
  | bare u v hu hv heq =>
      rw [heq, String.toList_append, String.toList_append]
      exact strip_bare hu hv hcons hsolid
  | scheme u b w v hu hb hw hv heq =>
      have hfront : IsScheme (b.toList ++ [' ']) := by
        rw [isScheme_append_space, ← String.toList_map]
        exact congrArg String.toList hb
      have hraw : raw.toList = u.toList ++
          (b.toList ++ [' '] ++ w.toList ++ t.toList) ++ v.toList := by
        rw [heq]
        simp
      rw [hraw]
      exact strip_scheme hfront hu hw hv hcons
        (Text.isTrimmed_of_not_blank hsolid)

end Bearer

end SessionTokens
