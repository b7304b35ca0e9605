import SessionTokens.Json.Literal
import SessionTokens.Text.Base64

/-!
# Writing bytes and reading them back

Tokens go through three writings before they are text: numbers become digits,
byte sequences become base64, and all of it ends up as ASCII. Each is read back
by a function of its own, and reading what was written gives it back. The laws
below say so, and where what was written ends. They meet at the bytes of a
string, which are the bytes of its characters one after another.
-/

namespace SessionTokens

/-! ## The bytes of a string -/

theorem toList_loop (bs : ByteArray) (i : Nat) (r : List UInt8) :
    ByteArray.toList.loop bs i r = r.reverse ++ bs.data.toList.drop i := by
  fun_induction ByteArray.toList.loop bs i r with
  | case1 i r hlt ih =>
      have hlt' : i < bs.data.size := hlt
      have hget : bs.get! i = bs.data.toList[i] := getElem!_pos bs.data i hlt'
      rw [ih, List.drop_eq_getElem_cons (l := bs.data.toList) hlt',
        List.reverse_cons, List.append_assoc, hget]
      rfl
  | case2 i r hge =>
      have hge' : bs.data.toList.length ≤ i := Nat.le_of_not_lt hge
      rw [List.drop_eq_nil_of_le hge', List.append_nil]

theorem toList_byteArray (bs : ByteArray) : bs.toList = bs.data.toList := by
  rw [ByteArray.toList, toList_loop]
  rfl

/-- The bytes of a string are those of its characters. -/
theorem toList_toUTF8 (s : String) :
    s.toUTF8.toList = s.toList.flatMap String.utf8EncodeChar := by
  rw [toList_byteArray, String.toUTF8_eq_toByteArray,
    ← String.utf8Encode_toList, List.utf8Encode, List.toList_data_toByteArray]

theorem fromUTF8?_toUTF8 (s : String) :
    String.fromUTF8? (ByteArray.mk s.toUTF8.toList.toArray) = some s := by
  have hbytes : ByteArray.mk s.toUTF8.toList.toArray = s.toByteArray := by
    rw [toList_byteArray, String.toUTF8_eq_toByteArray]
  rw [hbytes, String.fromUTF8?, dif_pos s.isValidUTF8]
  rfl

theorem utf8EncodeChar_of_lt {c : Char} (h : c.toNat < 128) :
    String.utf8EncodeChar c = [UInt8.ofNat c.toNat] := by
  have hle : c.val.toNat ≤ 0x7f := by
    have heq : c.val.toNat = c.toNat := rfl
    omega
  rw [String.utf8EncodeChar]
  exact if_pos hle

/-- ASCII characters are their own bytes. -/
theorem toList_toUTF8_ofList {cs : List Char} (h : ∀ c ∈ cs, c.toNat < 128) :
    (String.ofList cs).toUTF8.toList = cs.map fun c => UInt8.ofNat c.toNat := by
  rw [toList_toUTF8, String.toList_ofList]
  induction cs with
  | nil => rfl
  | cons c cs ih =>
      rw [List.flatMap_cons, utf8EncodeChar_of_lt (h c List.mem_cons_self),
        ih fun d hd => h d (List.mem_cons_of_mem _ hd)]
      rfl

namespace Decimal

/-! ## Digits -/

theorem digit_spec {n : Nat} (h : n < 10) :
    isDigit (digit n) = true ∧ (digit n).toNat - 0x30 = n ∧
      String.utf8EncodeChar n.digitChar = [digit n] := by
  have hall : ∀ n : Fin 10, isDigit (digit n) = true ∧
      (digit n).toNat - 0x30 = n ∧
      String.utf8EncodeChar (n : Nat).digitChar = [digit n] := by decide
  exact hall ⟨n, h⟩

theorem isDigit_of_mem_ofNat (n : Nat) : ∀ b ∈ ofNat n, isDigit b = true := by
  induction n using ofNat.induct with
  | case1 n h =>
      rw [ofNat, if_pos h]
      intro b hb
      rw [List.mem_singleton.mp hb]
      exact (digit_spec h).1
  | case2 n h ih =>
      rw [ofNat, if_neg h]
      intro b hb
      rcases List.mem_append.mp hb with hb | hb
      · exact ih b hb
      · rw [List.mem_singleton.mp hb]
        exact (digit_spec (Nat.mod_lt n (by omega))).1

theorem readDigitsFrom_append {ds : List UInt8} (h : ∀ b ∈ ds, isDigit b = true)
    (r : Run) (rest : List UInt8) :
    readDigitsFrom r (ds ++ rest) =
      readDigitsFrom (ds.foldl Run.push r) rest := by
  induction ds generalizing r with
  | nil => rfl
  | cons b ds ih =>
      rw [List.cons_append, readDigitsFrom, if_pos (h b List.mem_cons_self),
        ih fun d hd => h d (List.mem_cons_of_mem _ hd)]
      rfl

theorem foldl_push_ofNat (n : Nat) :
    (ofNat n).foldl Run.push ⟨0, 0⟩ = ⟨n, (ofNat n).length⟩ := by
  induction n using ofNat.induct with
  | case1 n h =>
      rw [ofNat, if_pos h]
      simp [Run.push, (digit_spec h).2.1]
  | case2 n h ih =>
      have hlt : n % 10 < 10 := Nat.mod_lt n (by omega)
      rw [ofNat, if_neg h, List.foldl_append, ih]
      simp only [List.foldl_cons, List.foldl_nil, Run.push,
        (digit_spec hlt).2.1,
        List.length_append, List.length_singleton, Run.mk.injEq, and_true]
      omega

/-- Reading the digits of a number stops where they end. -/
theorem readDigits_ofNat (n : Nat) {rest : List UInt8}
    (h : ∀ b, rest.head? = some b → isDigit b = false) :
    readDigits (ofNat n ++ rest) = (⟨n, (ofNat n).length⟩, rest) := by
  rw [readDigits, readDigitsFrom_append (isDigit_of_mem_ofNat n),
    foldl_push_ofNat]
  cases rest with
  | nil => rfl
  | cons b rest =>
      rw [readDigitsFrom, if_neg]
      rw [h b rfl]
      exact Bool.false_ne_true

theorem ofNat_ne_nil (n : Nat) : ofNat n ≠ [] := by
  rw [ofNat]
  split
  · exact List.cons_ne_nil _ _
  · exact List.append_ne_nil_of_right_ne_nil _ (List.cons_ne_nil _ _)

/-- The first digit of a number of several digits is not zero. -/
theorem head?_ofNat_of_ge {n : Nat} (h : 10 ≤ n) :
    (ofNat n).head? ≠ some 0x30 := by
  induction n using ofNat.induct with
  | case1 n hlt => omega
  | case2 n hge ih =>
      have hhead : (ofNat n).head? = (ofNat (n / 10)).head? := by
        obtain ⟨b, bs, hbs⟩ :=
          List.exists_cons_of_ne_nil (ofNat_ne_nil (n / 10))
        rw [ofNat, if_neg hge, hbs]
        rfl
      rw [hhead]
      by_cases hten : 10 ≤ n / 10
      · exact ih hten
      · have hlt : n / 10 < 10 := by omega
        have hpos : n / 10 ≠ 0 := by omega
        rw [ofNat, if_pos hlt, List.head?_cons]
        intro heq
        have hdigit := (digit_spec hlt).2.1
        rw [Option.some.inj heq] at hdigit
        exact hpos hdigit.symm

/-- The decimal text of a number is made of its digits. -/
theorem toList_toUTF8_toString (n : Nat) :
    (toString n).toUTF8.toList = ofNat n := by
  rw [toList_toUTF8, Nat.toString_eq_ofList_toDigits, String.toList_ofList]
  induction n using ofNat.induct with
  | case1 n h =>
      rw [Nat.toDigits_of_lt_base h, ofNat, if_pos h, List.flatMap_cons,
        List.flatMap_nil, List.append_nil]
      exact (digit_spec h).2.2
  | case2 n h ih =>
      rw [Nat.toDigits_of_base_le (by omega) (by omega), ofNat, if_neg h,
        List.flatMap_append, ih, List.flatMap_cons, List.flatMap_nil,
        List.append_nil, (digit_spec (Nat.mod_lt n (by omega))).2.2]

theorem word?_toString {n : Nat} (h : n < UInt64.size) :
    word? (toString n) = some n := by
  obtain ⟨b, bs, hbs⟩ := List.exists_cons_of_ne_nil (ofNat_ne_nil n)
  have hb : isDigit b = true :=
    isDigit_of_mem_ofNat n b (hbs ▸ List.mem_cons_self)
  have hne : b ≠ 0x2B := by
    rintro rfl
    exact absurd hb (by decide)
  have hread : toNat? (b :: bs) = some n := by
    have hdigits : readDigits (ofNat n) = (⟨n, (ofNat n).length⟩, []) := by
      simpa using @readDigits_ofNat n [] (by simp)
    rw [hbs] at hdigits
    rw [toNat?, hdigits]
    simp
  have hplus : skipPlus (b :: bs) = b :: bs := by
    rw [skipPlus]
    intro rest heq
    exact hne (List.cons.inj heq).1
  rw [word?, toList_toUTF8_toString, hbs, hplus, hread]
  exact if_pos h

end Decimal

namespace Base64

/-! ## Groups of bytes -/

theorem value?_symbol (a : Alphabet) {n : Nat} (h : n < 64) :
    value? a (symbol a n) = some n := by
  have hall : ∀ n : Fin 64, value? a (symbol a n) = some n := by
    cases a <;> decide
  exact hall ⟨n, h⟩

/-- Reading base64 gives back what was written. -/
theorem decode?_encode (a : Alphabet) (bytes : List UInt8) :
    decode? a (encode a bytes) = some bytes := by
  have hback : ∀ {n : Nat} (x : UInt8), n = x.toNat → UInt8.ofNat n = x := by
    rintro n x rfl
    exact UInt8.ofNat_toNat
  fun_induction encode a bytes with
  | case1 x y z rest ih =>
      have hx := x.toNat_lt
      have hy := y.toNat_lt
      have hz := z.toNat_lt
      simp only [decode?, ih, value?_symbol a (show x.toNat / 4 < 64 by omega),
        value?_symbol a (show x.toNat % 4 * 16 + y.toNat / 16 < 64 by omega),
        value?_symbol a (show y.toNat % 16 * 4 + z.toNat / 64 < 64 by omega),
        value?_symbol a (show z.toNat % 64 < 64 by omega)]
      rw [hback x (by omega), hback y (by omega), hback z (by omega)]
  | case2 x y =>
      have hx := x.toNat_lt
      have hy := y.toNat_lt
      simp only [decode?, value?_symbol a (show x.toNat / 4 < 64 by omega),
        value?_symbol a (show x.toNat % 4 * 16 + y.toNat / 16 < 64 by omega),
        value?_symbol a (show y.toNat % 16 * 4 < 64 by omega)]
      rw [if_pos (by omega), hback x (by omega), hback y (by omega)]
  | case3 x =>
      have hx := x.toNat_lt
      simp only [decode?, value?_symbol a (show x.toNat / 4 < 64 by omega),
        value?_symbol a (show x.toNat % 4 * 16 < 64 by omega)]
      rw [if_pos (by omega), hback x (by omega)]
  | case4 => rfl

/-- Base64 is made of symbols. -/
theorem eq_symbol_of_mem_encode (a : Alphabet) (bytes : List UInt8) :
    ∀ b ∈ encode a bytes, ∃ n, n < 64 ∧ b = symbol a n := by
  fun_induction encode a bytes with
  | case1 x y z rest ih =>
      have hx := x.toNat_lt
      have hy := y.toNat_lt
      have hz := z.toNat_lt
      simp only [List.mem_cons]
      rintro b (rfl | rfl | rfl | rfl | hb)
      · exact ⟨_, by omega, rfl⟩
      · exact ⟨_, by omega, rfl⟩
      · exact ⟨_, by omega, rfl⟩
      · exact ⟨_, by omega, rfl⟩
      · exact ih b hb
  | case2 x y =>
      have hx := x.toNat_lt
      have hy := y.toNat_lt
      simp only [List.mem_cons, List.not_mem_nil, or_false]
      rintro b (rfl | rfl | rfl)
      · exact ⟨_, by omega, rfl⟩
      · exact ⟨_, by omega, rfl⟩
      · exact ⟨_, by omega, rfl⟩
  | case3 x =>
      have hx := x.toNat_lt
      simp only [List.mem_cons, List.not_mem_nil, or_false]
      rintro b (rfl | rfl)
      · exact ⟨_, by omega, rfl⟩
      · exact ⟨_, by omega, rfl⟩
  | case4 => simp

end Base64

end SessionTokens
