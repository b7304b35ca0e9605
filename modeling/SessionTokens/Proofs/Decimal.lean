import SessionTokens.Proofs.Text

/-!
# Numbers of 64 bits as texts

A text is read as a number if it is made of decimal digits, one at least, after
a plus sign or not, and if the number is not too large. Leading zeros do not
matter. Nothing else is a number: no minus sign, no white space, nothing after
the digits. Reading takes the longest run of digits, so all that is to be shown
is that a run which ends with the text is all of it.
-/

namespace SessionTokens

namespace Decimal

/-- The value of decimal digits. -/
def value (digits : List Nat) : Nat := digits.foldl (fun n d => n * 10 + d) 0

/-- The text writes a number of 64 bits: decimal digits, one at least, with a
plus sign in front of them or without. -/
def IsWord (text : String) (n : Nat) : Prop :=
  n < UInt64.size ∧ ∃ sign ∈ [[], ['+']], ∃ digits : List Nat, digits ≠ [] ∧
    (∀ d ∈ digits, d < 10) ∧ value digits = n ∧
    text = String.ofList (sign ++ digits.map Nat.digitChar)

theorem foldl_push_digits {digits : List Nat} (h : ∀ d ∈ digits, d < 10)
    (r : Run) :
    (digits.map digit).foldl Run.push r =
      ⟨digits.foldl (fun n d => n * 10 + d) r.value,
        r.count + digits.length⟩ := by
  induction digits generalizing r with
  | nil => rfl
  | cons d digits ih =>
      rw [List.map_cons, List.foldl_cons,
        ih fun d hd => h d (List.mem_cons_of_mem _ hd), Run.push,
        (digit_spec (h d List.mem_cons_self)).2.1, List.foldl_cons,
        List.length_cons, Nat.add_assoc, Nat.add_comm 1]

theorem digit_of_isDigit {b : UInt8} (h : isDigit b = true) :
    b.toNat - 0x30 < 10 ∧ digit (b.toNat - 0x30) = b := by
  simp only [isDigit, Bool.and_eq_true, decide_eq_true_eq,
    UInt8.le_iff_toNat_le] at h
  have hlo : 0x30 ≤ b.toNat := h.1
  have hhi : b.toNat ≤ 0x39 := h.2
  refine ⟨by omega, UInt8.toNat_inj.mp ?_⟩
  rw [digit, UInt8.toNat_add, UInt8.toNat_ofNat']
  show (0x30 + (b.toNat - 0x30) % 2 ^ 8) % 2 ^ 8 = b.toNat
  omega

theorem isDigit_of_readDigitsFrom {bs : List UInt8} {r r' : Run}
    (h : readDigitsFrom r bs = (r', [])) : ∀ b ∈ bs, isDigit b = true := by
  induction bs generalizing r with
  | nil => exact nofun
  | cons b bs ih =>
      unfold readDigitsFrom at h
      split at h
      · next hb => exact List.forall_mem_cons.mpr ⟨hb, ih h⟩
      · cases h

/-- A text of digits alone is read as their value. -/
theorem toNat?_eq_some {bs : List UInt8} {n : Nat} :
    toNat? bs = some n ↔ ∃ digits : List Nat, digits ≠ [] ∧
      (∀ d ∈ digits, d < 10) ∧ value digits = n ∧ bs = digits.map digit := by
  have hread : ∀ {digits : List Nat}, (∀ d ∈ digits, d < 10) →
      readDigits (digits.map digit) = (⟨value digits, digits.length⟩, []) := by
    intro digits hlt
    have hdigits : ∀ b ∈ digits.map digit, isDigit b = true := by
      intro b hb
      obtain ⟨d, hd, rfl⟩ := List.mem_map.mp hb
      exact (digit_spec (hlt d hd)).1
    rw [readDigits, ← List.append_nil (digits.map digit),
      readDigitsFrom_append hdigits, foldl_push_digits hlt, Nat.zero_add]
    rfl
  constructor
  · intro h
    unfold toNat? at h
    split at h
    · next r hr =>
        have hall := isDigit_of_readDigitsFrom hr
        have hback : (bs.map fun b => b.toNat - 0x30).map digit = bs := by
          rw [List.map_map]
          exact (List.map_congr_left fun b hb =>
            (digit_of_isDigit (hall b hb)).2).trans (List.map_id _)
        have hlt : ∀ d ∈ bs.map fun b => b.toNat - 0x30, d < 10 := by
          intro d hd
          obtain ⟨b, hb, rfl⟩ := List.mem_map.mp hd
          exact (digit_of_isDigit (hall b hb)).1
        have hvalue := hread hlt
        rw [hback, hr] at hvalue
        cases hvalue
        split at h
        · cases h
        · next hcount =>
            refine ⟨_, fun hnil => hcount ?_, hlt, Option.some.inj h,
              hback.symm⟩
            rw [hnil]
            rfl
    · cases h
  · rintro ⟨digits, hne, hlt, rfl, rfl⟩
    rw [toNat?, hread hlt]
    exact if_neg fun hlen => hne (List.length_eq_zero_iff.mp hlen)

theorem toList_toUTF8_digits {sign : List Char} (hsign : sign ∈ [[], ['+']])
    {digits : List Nat} (h : ∀ d ∈ digits, d < 10) :
    (String.ofList (sign ++ digits.map Nat.digitChar)).toUTF8.toList =
      sign.map (fun _ => 0x2B) ++ digits.map digit := by
  have hsign' : sign.flatMap String.utf8EncodeChar =
      sign.map fun _ => 0x2B := by
    rcases List.mem_cons.mp hsign with rfl | hsign
    · rfl
    · cases List.mem_singleton.mp hsign
      decide
  have hdigits : (digits.map Nat.digitChar).flatMap String.utf8EncodeChar =
      digits.map digit := by
    induction digits with
    | nil => rfl
    | cons d digits ih =>
        rw [List.map_cons, List.flatMap_cons,
          (digit_spec (h d List.mem_cons_self)).2.2,
          ih fun d hd => h d (List.mem_cons_of_mem _ hd)]
        rfl
  rw [toList_toUTF8, String.toList_ofList, List.flatMap_append, hsign', hdigits]

theorem skipPlus_digits {sign : List Char} (hsign : sign ∈ [[], ['+']])
    {digits : List Nat} (h : ∀ d ∈ digits, d < 10) :
    skipPlus (sign.map (fun _ => 0x2B) ++ digits.map digit) =
      digits.map digit := by
  rcases List.mem_cons.mp hsign with rfl | hsign
  · cases digits with
    | nil => rfl
    | cons d digits =>
        have hd := (digit_spec (h d List.mem_cons_self)).1
        rw [List.map_nil, List.nil_append, List.map_cons, skipPlus]
        intro rest heq
        rw [(List.cons.inj heq).1] at hd
        exact absurd hd (by decide)
  · cases List.mem_singleton.mp hsign
    rfl

theorem eq_or_eq_cons_of_skipPlus (bytes : List UInt8) :
    bytes = skipPlus bytes ∨ bytes = 0x2B :: skipPlus bytes := by
  unfold skipPlus
  split
  · exact .inr rfl
  · exact .inl rfl

/-- Nothing is taken for a number but the texts that write one. -/
theorem word?_eq_some_iff {text : String} {n : Nat} :
    word? text = some n ↔ IsWord text n := by
  have hback : ∀ {s : String}, s.toUTF8.toList = text.toUTF8.toList →
      text = s := by
    intro s hs
    have hsome := fromUTF8?_toUTF8 s
    rw [hs, fromUTF8?_toUTF8] at hsome
    exact Option.some.inj hsome
  have hword : word? text = some n ↔ n < UInt64.size ∧
      toNat? (skipPlus text.toUTF8.toList) = some n := by
    unfold word?
    cases toNat? (skipPlus text.toUTF8.toList) with
    | none => simp
    | some m =>
        dsimp only
        constructor
        · intro h
          split at h
          · next hlt => cases h; exact ⟨hlt, rfl⟩
          · cases h
        · rintro ⟨hlt, heq⟩
          cases heq
          exact if_pos hlt
  rw [hword, toNat?_eq_some]
  refine and_congr_right fun _ => ⟨?_, ?_⟩
  · rintro ⟨digits, hne, hlt, hvalue, hdigits⟩
    rcases eq_or_eq_cons_of_skipPlus text.toUTF8.toList with hbytes | hbytes
    · refine ⟨[], by simp, digits, hne, hlt, hvalue, hback ?_⟩
      rw [hbytes, hdigits, toList_toUTF8_digits (by simp) hlt]
      rfl
    · refine ⟨['+'], by simp, digits, hne, hlt, hvalue, hback ?_⟩
      rw [hbytes, hdigits, toList_toUTF8_digits (by simp) hlt]
      rfl
  · rintro ⟨sign, hsign, digits, hne, hlt, hvalue, rfl⟩
    refine ⟨digits, hne, hlt, hvalue, ?_⟩
    rw [toList_toUTF8_digits hsign hlt, skipPlus_digits hsign hlt]

end Decimal

end SessionTokens
