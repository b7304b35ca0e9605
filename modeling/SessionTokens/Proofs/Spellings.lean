import SessionTokens.Settings.Source

/-!
# What the value of a variable is loaded as

The value of a variable becomes a Boolean, an integer or a real number if it
can, and a text only if it can be none of these. Where a setting is a text, the
value is written as one again, and what it was written like before is lost:
`TRUE` becomes `true`, `007` becomes `7`, `1e3` becomes `1000`.

So a text setting is what the variable says exactly if the value is no such
thing, or is spelled the way the program spells it. `WritesBack` lists the
cases.
-/

namespace SessionTokens

namespace Given

/-- What a text setting becomes by a variable with this value. -/
def loadedText (v : String) : String := (ofVariable v).asText?.getD ""

theorem asText?_ofVariable (v : String) :
    (ofVariable v).asText? = some (loadedText v) := by
  have hsome : (ofVariable v).asText?.isSome = true := by
    unfold ofVariable
    dsimp only
    split
    · rfl
    · split
      · rfl
      · split
        · rfl
        · split <;> rfl
  obtain ⟨s, hs⟩ := Option.isSome_iff_exists.mp hsome
  rw [loadedText, hs]
  rfl

/-- The text is `true` or `false`, in capitals or not. -/
def SpellsBool (v : String) : Prop := v.toLower = "true" ∨ v.toLower = "false"

/-- The value of a variable is loaded as it is written. -/
inductive WritesBack (v : String) : Prop
  /-- A Boolean in small letters. -/
  | bool : v = "true" ∨ v = "false" → WritesBack v
  /-- An integer of 64 bits without a plus sign and without leading zeros. -/
  | integer (n : Int) : Word.isSigned n = true → v = toString n → WritesBack v
  /-- Another number in the spelling of the program. -/
  | real (x : Binary64) : ¬ SpellsBool v → int? v.toList = none →
      Binary64.parse? v.toList = some x → v = x.text → WritesBack v
  /-- Neither a Boolean nor a number. -/
  | text : ¬ SpellsBool v → int? v.toList = none →
      Binary64.parse? v.toList = none → WritesBack v

/-! ## Integers -/

theorem natOfDigits_eq (cs : List Char) :
    Binary64.natOfDigits cs = Nat.ofDigitChars 10 cs 0 := by
  simp only [Binary64.natOfDigits, Nat.ofDigitChars, Nat.mul_comm]

theorem natOfDigits_toDigits (n : Nat) :
    Binary64.natOfDigits (Nat.toDigits 10 n) = n := by
  rw [natOfDigits_eq, Nat.ofDigitChars_ten_toDigits]

theorem isDigit_of_mem_toDigits {n : Nat} {c : Char}
    (h : c ∈ Nat.toDigits 10 n) : c.isDigit = true :=
  Nat.isDigit_of_mem_toDigits (by decide) (by decide) h

/-- The text of an integer: its sign and its digits. -/
theorem toList_toString (n : Int) :
    (toString n).toList =
      (if n < 0 then ['-'] else []) ++ Nat.toDigits 10 n.natAbs := by
  cases n with
  | ofNat m =>
      have hnot : ¬ Int.ofNat m < 0 := Int.not_lt.mpr (Int.natCast_nonneg m)
      rw [if_neg hnot]
      exact Nat.toList_repr
  | negSucc m =>
      rw [if_pos (by omega)]
      show ("-" ++ (m + 1).repr).toList = _
      rw [String.toList_append, Nat.toList_repr]
      rfl

theorem eq_minus_or_isDigit_of_mem_toString {n : Int} {c : Char}
    (h : c ∈ (toString n).toList) : c = '-' ∨ c.isDigit = true := by
  rw [toList_toString, List.mem_append] at h
  rcases h with hsign | hdigit
  · split at hsign
    · exact .inl (List.mem_singleton.mp hsign)
    · cases hsign
  · exact .inr (isDigit_of_mem_toDigits hdigit)

theorem splitSign_of_isDigit {c : Char} (h : c.isDigit = true)
    (cs : List Char) : Binary64.splitSign (c :: cs) = (false, c :: cs) := by
  have hne : c ≠ '-' ∧ c ≠ '+' := by
    constructor <;> rintro rfl <;> exact absurd h (by decide)
  rw [Binary64.splitSign]
  · exact fun _ heq => hne.1 (List.cons.inj heq).1
  · exact fun _ heq => hne.2 (List.cons.inj heq).1

theorem splitSign_toString (n : Int) :
    Binary64.splitSign (toString n).toList =
      (decide (n < 0), Nat.toDigits 10 n.natAbs) := by
  rw [toList_toString]
  by_cases hneg : n < 0
  · rw [if_pos hneg, decide_eq_true hneg]
    rfl
  · rw [if_neg hneg, decide_eq_false hneg, List.nil_append]
    obtain ⟨c, cs, hcs⟩ :=
      List.exists_cons_of_ne_nil (Nat.toDigits_ne_nil (n := n.natAbs) (b := 10))
    have hc : c.isDigit = true :=
      isDigit_of_mem_toDigits (hcs ▸ List.mem_cons_self)
    rw [hcs, splitSign_of_isDigit hc]

/-- An integer in its own spelling is read as itself. -/
theorem int?_toString {n : Int} (h : Word.isSigned n = true) :
    int? (toString n).toList = some n := by
  have hdigits : (Nat.toDigits 10 n.natAbs).all Char.isDigit = true :=
    List.all_eq_true.mpr fun c hc => isDigit_of_mem_toDigits hc
  have hne : (Nat.toDigits 10 n.natAbs).isEmpty = false :=
    List.isEmpty_eq_false_iff.mpr Nat.toDigits_ne_nil
  rw [int?, splitSign_toString]
  simp only [hne, hdigits, natOfDigits_toDigits, Bool.not_true, Bool.or_false,
    Bool.false_eq_true, if_false, decide_eq_true_eq]
  have hback : (if n < 0 then -(n.natAbs : Int) else n.natAbs) = n := by
    split <;> omega
  rw [hback, if_pos h]

theorem isSigned_of_int? {cs : List Char} {n : Int} (h : int? cs = some n) :
    Word.isSigned n = true := by
  rw [int?] at h
  generalize Binary64.splitSign cs = sign at h
  simp only [Option.ite_none_left_eq_some, Option.ite_none_right_eq_some] at h
  obtain ⟨_, hsigned, heq⟩ := h
  rwa [Option.some.inj heq] at hsigned

theorem toLower_of_isDigit {c : Char} (h : c.isDigit = true) :
    c.toLower = c := by
  unfold Char.toLower
  rw [dif_neg]
  rintro ⟨hle, -⟩
  simp only [Char.isDigit, Bool.and_eq_true, decide_eq_true_eq] at h
  exact absurd (UInt32.le_trans hle h.2) (by decide)

/-- The spelling of an integer spells no Boolean: either of them has an `e`. -/
theorem not_spellsBool_toString (n : Int) : ¬ SpellsBool (toString n) := by
  have hno : 'e' ∉ (toString n).toLower.toList := by
    unfold String.toLower
    rw [String.toList_map]
    intro hmem
    obtain ⟨c, hc, hlower⟩ := List.mem_map.mp hmem
    rcases eq_minus_or_isDigit_of_mem_toString hc with rfl | hdigit
    · exact absurd hlower (by decide)
    · rw [toLower_of_isDigit hdigit] at hlower
      rw [hlower] at hdigit
      exact absurd hdigit (by decide)
  rintro (h | h) <;> exact hno (by rw [h]; decide)

/-! ## The cases -/

theorem loadedText_of_true {v : String} (h : v.toLower = "true") :
    loadedText v = "true" := by
  rw [loadedText, ofVariable, h]
  rfl

theorem loadedText_of_false {v : String} (h : v.toLower = "false") :
    loadedText v = "false" := by
  rw [loadedText, ofVariable, h]
  rfl

theorem loadedText_of_not_spellsBool {v : String} (h : ¬ SpellsBool v) :
    loadedText v =
      match int? v.toList with
      | some n => toString n
      | none =>
        match Binary64.parse? v.toList with
        | some x => x.text
        | none => v := by
  rw [loadedText, ofVariable]
  rw [if_neg fun htrue => h (.inl htrue), if_neg fun hfalse => h (.inr hfalse)]
  cases int? v.toList with
  | some n => rfl
  | none => cases Binary64.parse? v.toList <;> rfl

/-- **A text setting is what its variable says exactly if the value is written
the way the program writes it back.** -/
theorem loadedText_eq_self_iff (v : String) :
    loadedText v = v ↔ WritesBack v := by
  constructor
  · intro h
    by_cases hbool : SpellsBool v
    · rcases hbool with htrue | hfalse
      · exact .bool (.inl (h.symm.trans (loadedText_of_true htrue)))
      · exact .bool (.inr (h.symm.trans (loadedText_of_false hfalse)))
    · rw [loadedText_of_not_spellsBool hbool] at h
      cases hint : int? v.toList with
      | some n =>
          rw [hint] at h
          exact .integer n (isSigned_of_int? hint) h.symm
      | none =>
          rw [hint] at h
          cases hreal : Binary64.parse? v.toList with
          | some x =>
              rw [hreal] at h
              exact .real x hbool hint hreal h.symm
          | none => exact .text hbool hint hreal
  · intro h
    cases h with
    | bool h =>
        rcases h with rfl | rfl
        · exact loadedText_of_true (by decide +kernel)
        · exact loadedText_of_false (by decide +kernel)
    | integer n hsigned heq =>
        subst heq
        rw [loadedText_of_not_spellsBool (not_spellsBool_toString n),
          int?_toString hsigned]
    | real x hbool hint hreal heq =>
        rw [loadedText_of_not_spellsBool hbool, hint, hreal]
        exact heq.symm
    | text hbool hint hreal =>
        rw [loadedText_of_not_spellsBool hbool, hint, hreal]

end Given

end SessionTokens
