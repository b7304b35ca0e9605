import SessionTokens.Proofs.Json

/-!
# What is written is a text

The bytes of a value are those of its tokens, and a token is ASCII but for the
strings. In a string a byte is escaped by ASCII, and the bytes of a character
that is not ASCII itself need no escape. So piece by piece the bytes are those of
a text, and the text that is made of them has them back.
-/

namespace SessionTokens

/-- The bytes are those of a text. -/
def IsText (bytes : List UInt8) : Prop := ∃ s : String, s.toUTF8.toList = bytes

namespace IsText

theorem nil : IsText [] := ⟨"", by rw [toList_toUTF8]; rfl⟩

theorem append {bytes bytes' : List UInt8} (h : IsText bytes)
    (h' : IsText bytes') : IsText (bytes ++ bytes') := by
  obtain ⟨s, rfl⟩ := h
  obtain ⟨s', rfl⟩ := h'
  refine ⟨s ++ s', ?_⟩
  rw [toList_toUTF8, toList_toUTF8, toList_toUTF8, String.toList_append,
    List.flatMap_append]

theorem flatMap {α : Type} {f : α → List UInt8} {l : List α}
    (h : ∀ a ∈ l, IsText (f a)) : IsText (l.flatMap f) := by
  induction l with
  | nil => exact nil
  | cons a l ih =>
      exact (h a List.mem_cons_self).append
        (ih fun b hb => h b (List.mem_cons_of_mem a hb))

theorem char (c : Char) : IsText (String.utf8EncodeChar c) := by
  refine ⟨String.ofList [c], ?_⟩
  rw [toList_toUTF8, String.toList_ofList]
  exact List.append_nil _

theorem of_ascii {bytes : List UInt8}
    (h : bytes.all (·.toNat < 128) = true) : IsText bytes := by
  have hchar : ∀ n : Fin 128,
      String.utf8EncodeChar (Char.ofNat n) = [UInt8.ofNat n] := by decide
  have hone : ∀ b ∈ bytes, IsText [b] := by
    intro b hb
    have hlt : b.toNat < 128 := of_decide_eq_true (List.all_eq_true.mp h b hb)
    have hcode := hchar ⟨b.toNat, hlt⟩
    rw [UInt8.ofNat_toNat] at hcode
    exact hcode ▸ char (Char.ofNat b.toNat)
  have hall := flatMap hone
  rwa [List.flatMap_singleton'] at hall

end IsText

namespace Json

/-! ## Strings -/

theorem ascii_quoteByte {b : UInt8} (h : b.toNat < 128) :
    (quoteByte b).all (·.toNat < 128) = true := by
  have hall : ∀ n : Fin 128,
      (quoteByte (UInt8.ofNat n)).all (·.toNat < 128) = true := by decide
  have hb := hall ⟨b.toNat, h⟩
  rwa [UInt8.ofNat_toNat] at hb

theorem quoteByte_of_not_ascii {b : UInt8} (h : 128 ≤ b.toNat) :
    quoteByte b = [b] := by
  have hne : ∀ c : UInt8, c.toNat < 128 → b ≠ c := by
    rintro c hc rfl
    omega
  have hlow : ¬ b < 0x20 := fun hlt => by
    have hnat : b.toNat < 32 := hlt
    omega
  rw [quoteByte, if_neg (hne 0x22 (by decide)), if_neg (hne 0x5C (by decide)),
    if_neg (hne 0x08 (by decide)), if_neg (hne 0x0C (by decide)),
    if_neg (hne 0x0A (by decide)), if_neg (hne 0x0D (by decide)),
    if_neg (hne 0x09 (by decide)), if_neg hlow]

theorem not_ascii_of_mem_utf8EncodeChar {c : Char} (h : ¬ c.toNat < 128)
    {b : UInt8} (hb : b ∈ String.utf8EncodeChar c) : 128 ≤ b.toNat := by
  have hge : ¬ c.val.toNat ≤ 127 := fun hle => h (by
    have heq : c.val.toNat = c.toNat := rfl
    omega)
  rw [String.utf8EncodeChar] at hb
  rw [if_neg hge] at hb
  split at hb
  · simp only [List.mem_cons, List.not_mem_nil, or_false] at hb
    rcases hb with rfl | rfl <;> simp only [UInt8.toNat_ofNat'] <;> omega
  split at hb
  · simp only [List.mem_cons, List.not_mem_nil, or_false] at hb
    rcases hb with rfl | rfl | rfl <;> simp only [UInt8.toNat_ofNat'] <;> omega
  · simp only [List.mem_cons, List.not_mem_nil, or_false] at hb
    rcases hb with rfl | rfl | rfl | rfl <;>
      simp only [UInt8.toNat_ofNat'] <;> omega

theorem isText_quote (s : String) : IsText (quote s) := by
  rw [quote, toList_toUTF8, List.flatMap_assoc]
  refine .flatMap fun c _ => ?_
  by_cases hc : c.toNat < 128
  · rw [utf8EncodeChar_of_lt hc]
    rw [List.flatMap_singleton]
    refine .of_ascii (ascii_quoteByte ?_)
    rw [UInt8.toNat_ofNat']
    omega
  · have hsame : ∀ b ∈ String.utf8EncodeChar c, quoteByte b = [b] :=
      fun b hb => quoteByte_of_not_ascii (not_ascii_of_mem_utf8EncodeChar hc hb)
    rw [List.flatMap_def, List.map_congr_left hsame, ← List.flatMap_def,
      List.flatMap_singleton']
    exact .char c

/-! ## Values -/

theorem Token.isText_bytes {t : Token} (ht : t.IsWritten) :
    IsText t.bytes := by
  cases t with
  | string raw =>
      obtain ⟨s, rfl⟩ := ht
      have hmark : IsText [0x22] := .of_ascii rfl
      exact (hmark.append (isText_quote s)).append hmark
  | number n =>
      obtain ⟨i, rfl⟩ := ht
      show IsText (Number.ofInt i).bytes
      rw [Number.bytes_ofInt]
      refine .append (.of_ascii ?_) (.of_ascii (List.all_eq_true.mpr ?_))
      · split <;> rfl
      · intro b hb
        have hdigit := Decimal.isDigit_of_mem_ofNat i.natAbs b hb
        rw [Decimal.isDigit, Bool.and_eq_true, decide_eq_true_iff,
          decide_eq_true_iff] at hdigit
        have hle : b.toNat ≤ 57 := hdigit.2
        exact decide_eq_true (by omega)
  | bool b => cases b <;> exact .of_ascii rfl
  | _ => exact .of_ascii rfl

mutual

theorem isWritten_of_mem_toTokens (v : Json) (hv : v.IsWritten) :
    ∀ t ∈ v.toTokens, t.IsWritten := by
  cases v with
  | array items =>
      simp only [toTokens, List.forall_mem_cons, List.forall_mem_append]
      exact ⟨⟨trivial, isWritten_of_mem_itemTokens items hv⟩, trivial, nofun⟩
  | object fields =>
      simp only [toTokens, List.forall_mem_cons, List.forall_mem_append]
      exact ⟨⟨trivial, isWritten_of_mem_fieldTokens fields hv⟩, trivial, nofun⟩
  | _ => exact List.forall_mem_singleton.mpr hv

theorem isWritten_of_mem_itemTokens (vs : List Json) (hvs : ItemsWritten vs) :
    ∀ t ∈ itemTokens vs, t.IsWritten := by
  cases vs with
  | nil => exact nofun
  | cons v vs =>
      obtain ⟨hv, hvs⟩ := hvs
      cases vs with
      | nil => exact isWritten_of_mem_toTokens v hv
      | cons w vs =>
          rw [itemTokens]
          · simp only [List.forall_mem_cons, List.forall_mem_append]
            exact ⟨isWritten_of_mem_toTokens v hv, trivial,
              isWritten_of_mem_itemTokens (w :: vs) hvs⟩
          · exact List.cons_ne_nil w vs

theorem isWritten_of_mem_fieldTokens (fs : List (List UInt8 × Json))
    (hfs : FieldsWritten fs) : ∀ t ∈ fieldTokens fs, t.IsWritten := by
  cases fs with
  | nil => exact nofun
  | cons f fs =>
      obtain ⟨name, v⟩ := f
      obtain ⟨hname, hv, hfs⟩ := hfs
      cases fs with
      | nil =>
          simp only [fieldTokens, List.forall_mem_cons]
          exact ⟨hname, trivial, isWritten_of_mem_toTokens v hv⟩
      | cons g fs =>
          rw [fieldTokens]
          · simp only [List.forall_mem_cons, List.forall_mem_append,
              List.cons_append]
            exact ⟨hname, trivial, isWritten_of_mem_toTokens v hv, trivial,
              isWritten_of_mem_fieldTokens (g :: fs) hfs⟩
          · exact List.cons_ne_nil g fs

end

/-- The text of a value consists of its bytes. -/
theorem toList_compactText {v : Json} (hv : v.IsWritten) :
    v.compactText.toUTF8.toList = v.compact := by
  obtain ⟨s, hs⟩ : IsText v.compact := .flatMap fun t ht =>
    Token.isText_bytes (isWritten_of_mem_toTokens v hv t ht)
  rw [compactText, ← hs, fromUTF8?_toUTF8]
  rfl

end Json

end SessionTokens
