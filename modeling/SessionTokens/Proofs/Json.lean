import SessionTokens.Json.Basic
import SessionTokens.Proofs.Text

/-!
# Reading JSON that was written here

A value is written token by token and read the same way, so two inductions do:
the bytes of a value's tokens are read as these tokens, and from these tokens
the reader builds the value. Both go along the value and say where reading goes
on afterwards. Only a number has an end that what follows could shift; inside
an array or an object a comma or a bracket comes next, and these end it.
-/

namespace SessionTokens.Json

/-! ## Strings -/

/-- A control character is written with two hexadecimal digits. -/
theorem hexDigit_spec {b : UInt8} (h : b < 0x20) :
    (hexDigit? (hexDigit (b.toNat / 16))).isSome = true ∧
      (hexDigit? (hexDigit (b.toNat % 16))).isSome = true ∧
      hex4? 0x30 0x30 (hexDigit (b.toNat / 16)) (hexDigit (b.toNat % 16)) =
        some b.toNat ∧
      isHighSurrogate b.toNat = false ∧ isLowSurrogate b.toNat = false ∧
      String.utf8EncodeChar (Char.ofNat b.toNat) = [b] := by
  have hall : ∀ n : Fin 32,
      (hexDigit? (hexDigit ((UInt8.ofNat n).toNat / 16))).isSome = true ∧
      (hexDigit? (hexDigit ((UInt8.ofNat n).toNat % 16))).isSome = true ∧
      hex4? 0x30 0x30 (hexDigit ((UInt8.ofNat n).toNat / 16))
        (hexDigit ((UInt8.ofNat n).toNat % 16)) = some (UInt8.ofNat n).toNat ∧
      isHighSurrogate (UInt8.ofNat n).toNat = false ∧
      isLowSurrogate (UInt8.ofNat n).toNat = false ∧
      String.utf8EncodeChar (Char.ofNat (UInt8.ofNat n).toNat) =
        [UInt8.ofNat n] := by decide
  have hlt : b.toNat < 32 := h
  have hb := hall ⟨b.toNat, hlt⟩
  simpa using hb

/-- The shapes that the writing of a byte has. -/
theorem quoteByte_cases (b : UInt8) :
    (∃ e, quoteByte b = [0x5C, e] ∧ e ≠ 0x75 ∧ isEscape e = true ∧
      unescape? e = some b) ∨
      (b < 0x20 ∧ quoteByte b =
        [0x5C, 0x75, 0x30, 0x30, hexDigit (b.toNat / 16),
          hexDigit (b.toNat % 16)]) ∨
      (quoteByte b = [b] ∧ b ≠ 0x22 ∧ b ≠ 0x5C ∧ ¬ b < 0x20) := by
  unfold quoteByte
  split
  · next h => subst h; exact .inl ⟨0x22, rfl, by decide, rfl, rfl⟩
  split
  · next h => subst h; exact .inl ⟨0x5C, rfl, by decide, rfl, rfl⟩
  split
  · next h => subst h; exact .inl ⟨0x62, rfl, by decide, rfl, rfl⟩
  split
  · next h => subst h; exact .inl ⟨0x66, rfl, by decide, rfl, rfl⟩
  split
  · next h => subst h; exact .inl ⟨0x6E, rfl, by decide, rfl, rfl⟩
  split
  · next h => subst h; exact .inl ⟨0x72, rfl, by decide, rfl, rfl⟩
  split
  · next h => subst h; exact .inl ⟨0x74, rfl, by decide, rfl, rfl⟩
  split
  · next h => exact .inr (.inl ⟨h, rfl⟩)
  · next hquote hback _ _ _ _ _ hlow =>
      exact .inr (.inr ⟨rfl, hquote, hback, hlow⟩)

/-- Reading a string goes over the writing of a byte. -/
theorem readString_quoteByte (b : UInt8) (rest : List UInt8) :
    readString (quoteByte b ++ rest) =
      (readString rest).map fun r => (quoteByte b ++ r.1, r.2) := by
  rcases quoteByte_cases b with
    ⟨e, hb, hne, hescape, -⟩ | ⟨hlow, hb⟩ | ⟨hb, hquote, hback, hlow⟩
  · rw [hb, List.cons_append, List.singleton_append, readString, if_pos hescape]
    · rfl
    · intro _ _ _ _ _ heq
      exact absurd heq hne
  · obtain ⟨hhi, hlo, -⟩ := hexDigit_spec hlow
    rw [hb]
    simp only [List.cons_append, List.nil_append]
    rw [readString, hhi, hlo]
    rfl
  · rw [hb, List.singleton_append, readString]
    · simp [hback, hlow]
    · exact hquote
    · intro _ _ _ _ _ heq
      exact absurd heq hback
    · intro _ _ heq
      exact absurd heq hback

/-- What stands for a byte is the byte. -/
theorem unquote?_quoteByte (b : UInt8) (rest : List UInt8) :
    unquote? (quoteByte b ++ rest) = (unquote? rest).map (b :: ·) := by
  rcases quoteByte_cases b with
    ⟨e, hb, hne, -, hescape⟩ | ⟨hlow, hb⟩ | ⟨hb, -, hback, -⟩
  · rw [hb, List.cons_append, List.singleton_append, unquote?, hescape]
    intro _ _ _ _ _ heq
    exact absurd heq hne
  · obtain ⟨-, -, hhex, hhigh, hlow, hchar⟩ := hexDigit_spec hlow
    rw [hb]
    simp only [List.cons_append, List.nil_append]
    rw [unquote?, hhex]
    simp only [hhigh, hlow, hchar, Bool.false_eq_true, if_false,
      List.singleton_append]
  · rw [hb, List.singleton_append, unquote?]
    · intro _ _ _ _ _ heq
      exact absurd heq hback
    · intro _ _ heq
      exact absurd heq hback

/-- Reading a string gives back what was written, up to the closing quote. -/
theorem readString_quote (s : String) (rest : List UInt8) :
    readString (quote s ++ 0x22 :: rest) = some (quote s, rest) := by
  unfold quote
  induction s.toUTF8.toList with
  | nil => rfl
  | cons b bs ih =>
      rw [List.flatMap_cons, List.append_assoc, readString_quoteByte, ih]
      rfl

/-- The text that is written is the text that is read. -/
theorem text?_quote (s : String) : text? (quote s) = some s := by
  have hbytes : unquote? (quote s) = some s.toUTF8.toList := by
    unfold quote
    induction s.toUTF8.toList with
    | nil => rfl
    | cons b bs ih =>
        rw [List.flatMap_cons, unquote?_quoteByte, ih]
        rfl
  rw [text?, hbytes]
  exact fromUTF8?_toUTF8 s

/-! ## Numbers -/

/-- No number goes on here. -/
def EndsNumber (rest : List UInt8) : Prop :=
  ∀ b, rest.head? = some b →
    Decimal.isDigit b = false ∧ b ≠ 0x2E ∧ b ≠ 0x65 ∧ b ≠ 0x45

theorem EndsNumber.nil : EndsNumber [] := nofun

theorem EndsNumber.cons {b : UInt8} (rest : List UInt8)
    (h : Decimal.isDigit b = false ∧ b ≠ 0x2E ∧ b ≠ 0x65 ∧ b ≠ 0x45) :
    EndsNumber (b :: rest) := by
  intro b' hb'
  cases hb'
  exact h

theorem readFraction_of_ends {rest : List UInt8} (h : EndsNumber rest) :
    readFraction rest = some (⟨0, 0⟩, rest) := by
  cases rest with
  | nil => rfl
  | cons b bs =>
      rw [readFraction]
      intro _ heq
      exact (h b rfl).2.1 (List.cons.inj heq).1

theorem readExponent_of_ends {rest : List UInt8} (h : EndsNumber rest) :
    readExponent rest = some (none, rest) := by
  cases rest with
  | nil => rfl
  | cons b bs =>
      obtain ⟨-, -, he, hE⟩ := h b rfl
      simp [readExponent, he, hE]

/-- Reading a natural number gives back the one that was written. -/
theorem readNumber_ofNat (negative : Bool) (n : Nat) {rest : List UInt8}
    (h : EndsNumber rest) :
    readNumber negative (Decimal.ofNat n ++ rest) =
      some (⟨negative, n, ⟨0, 0⟩, none⟩, rest) := by
  have hdigits : Decimal.readDigits (Decimal.ofNat n ++ rest) = _ :=
    Decimal.readDigits_ofNat n fun b hb => (h b hb).1
  have hcount : (Decimal.ofNat n).length ≠ 0 :=
    fun heq => Decimal.ofNat_ne_nil n (List.length_eq_zero_iff.mp heq)
  have hhead : (Decimal.ofNat n ++ rest).head? = (Decimal.ofNat n).head? := by
    obtain ⟨b, bs, hbs⟩ := List.exists_cons_of_ne_nil (Decimal.ofNat_ne_nil n)
    rw [hbs]
    rfl
  -- A leading zero is the only digit.
  have hzero : (Decimal.ofNat n).head? = some 0x30 →
      (Decimal.ofNat n).length = 1 := by
    intro heq
    by_cases hten : n < 10
    · rw [Decimal.ofNat, if_pos hten]
      rfl
    · exact absurd heq (Decimal.head?_ofNat_of_ge (by omega))
  unfold readNumber
  rw [hdigits]
  dsimp only
  rw [if_neg, readFraction_of_ends h]
  · dsimp only
    rw [readExponent_of_ends h]
  · rw [hhead]
    simpa [hcount] using hzero

/-! ## Tokens -/

/-- A token as it is written: strings are the writing of a text, and numbers
are integers. -/
def Token.IsWritten : Token → Prop
  | .string raw => ∃ s, raw = quote s
  | .number n => ∃ i, n = .ofInt i
  | _ => True

theorem Token.read_of_isDigit {b : UInt8} {bs : List UInt8}
    (h : Decimal.isDigit b = true) :
    Token.read (b :: bs) =
      (readNumber false (b :: bs)).map fun r => (.number r.1, r.2) := by
  rw [Token.read]
  all_goals
    intro _ heq
    cases heq
    exact absurd h (by decide)

theorem Number.bytes_ofInt (i : Int) :
    (Number.ofInt i).bytes =
      (if i < 0 then [0x2D] else []) ++ Decimal.ofNat i.natAbs := by
  by_cases h : i < 0 <;> simp [Number.bytes, Number.ofInt, h]

theorem Token.read_number (i : Int) {rest : List UInt8} (h : EndsNumber rest) :
    Token.read ((Token.number (.ofInt i)).bytes ++ rest) =
      some (.number (.ofInt i), rest) := by
  have hread := fun negative => readNumber_ofNat negative i.natAbs h
  show Token.read ((Number.ofInt i).bytes ++ rest) = _
  rw [Number.bytes_ofInt, List.append_assoc]
  by_cases hneg : i < 0
  · rw [if_pos hneg, List.singleton_append, Token.read, hread]
    simp [Number.ofInt, hneg]
  · obtain ⟨b, bs, hbs⟩ :=
      List.exists_cons_of_ne_nil (Decimal.ofNat_ne_nil i.natAbs)
    have hdigit :=
      Decimal.isDigit_of_mem_ofNat i.natAbs b (hbs ▸ List.mem_cons_self)
    have hfalse := hread false
    rw [hbs] at hfalse ⊢
    rw [if_neg hneg, List.nil_append, List.cons_append,
      Token.read_of_isDigit hdigit,
      ← List.cons_append, hfalse]
    simp [Number.ofInt, hneg]

/-- A token that was written is read, and no more than it. -/
theorem Token.read_bytes {t : Token} (ht : t.IsWritten) {rest : List UInt8}
    (h : ∀ n, t = .number n → EndsNumber rest) :
    Token.read (t.bytes ++ rest) = some (t, rest) := by
  cases t with
  | number n =>
      obtain ⟨i, rfl⟩ := ht
      exact Token.read_number i (h _ rfl)
  | string raw =>
      obtain ⟨s, rfl⟩ := ht
      show Token.read (0x22 :: (quote s ++ [0x22] ++ rest)) = _
      rw [Token.read, List.append_assoc, List.singleton_append,
        readString_quote]
      rfl
  | bool b => cases b <;> rfl
  | _ => rfl

theorem Token.bytes_eq_cons {t : Token} (ht : t.IsWritten) :
    ∃ b bs, t.bytes = b :: bs ∧ isBlank b = false := by
  cases t with
  | number n =>
      obtain ⟨i, rfl⟩ := ht
      obtain ⟨b, bs, hbs⟩ :=
        List.exists_cons_of_ne_nil (Decimal.ofNat_ne_nil i.natAbs)
      have hdigit :=
        Decimal.isDigit_of_mem_ofNat i.natAbs b (hbs ▸ List.mem_cons_self)
      have hblank : isBlank b = false := by
        rw [Bool.eq_false_iff]
        intro hb
        simp only [isBlank, Bool.or_eq_true, decide_eq_true_eq] at hb
        rcases hb with ((rfl | rfl) | rfl) | rfl <;>
          exact absurd hdigit (by decide)
      show ∃ c cs, (Number.ofInt i).bytes = c :: cs ∧ isBlank c = false
      rw [Number.bytes_ofInt, hbs]
      by_cases hneg : i < 0
      · rw [if_pos hneg]
        exact ⟨_, _, rfl, rfl⟩
      · rw [if_neg hneg]
        exact ⟨b, bs, rfl, hblank⟩
  | bool b => cases b <;> exact ⟨_, _, rfl, rfl⟩
  | _ => exact ⟨_, _, rfl, rfl⟩

/-- Reading tokens goes over the writing of one. -/
theorem tokens?_bytes {t : Token} (ht : t.IsWritten) {rest : List UInt8}
    (h : ∀ n, t = .number n → EndsNumber rest) :
    tokens? (t.bytes ++ rest) = (tokens? rest).map (t :: ·) := by
  have hread := Token.read_bytes ht h
  obtain ⟨b, bs, hbs, hblank⟩ := Token.bytes_eq_cons ht
  rw [hbs, List.cons_append] at hread ⊢
  rw [tokens?, if_neg (by rw [hblank]; exact Bool.false_ne_true)]
  split
  · next hnone => rw [hnone] at hread; cases hread
  · next hsome => rw [hsome] at hread; cases hread; rfl

/-! ## Values -/

mutual

/-- A value as it is written: strings and names are the writing of texts, and
numbers are integers. -/
def IsWritten : Json → Prop
  | .number n => ∃ i, n = .ofInt i
  | .string raw => ∃ s, raw = quote s
  | .array items => ItemsWritten items
  | .object fields => FieldsWritten fields
  | _ => True

/-- All of the items are as they are written. -/
def ItemsWritten : List Json → Prop
  | [] => True
  | v :: vs => v.IsWritten ∧ ItemsWritten vs

/-- All of the fields are as they are written. -/
def FieldsWritten : List (List UInt8 × Json) → Prop
  | [] => True
  | (name, v) :: fs => (∃ s, name = quote s) ∧ v.IsWritten ∧ FieldsWritten fs

end

/-- The bytes of tokens, with something after them. -/
def written (ts : List Token) (rest : List UInt8) : List UInt8 :=
  ts.flatMap Token.bytes ++ rest

theorem written_append (ts ts' : List Token) (rest : List UInt8) :
    written (ts ++ ts') rest = written ts (written ts' rest) := by
  simp [written]

theorem written_cons (t : Token) (ts : List Token) (rest : List UInt8) :
    written (t :: ts) rest = t.bytes ++ written ts rest := by
  simp [written]

/-- What a punctuation mark begins ends every number before it. -/
theorem endsNumber_written {t : Token}
    (ht : t = .comma ∨ t = .closeArray ∨ t = .closeObject)
    (ts : List Token) (rest : List UInt8) :
    EndsNumber (written (t :: ts) rest) := by
  rw [written_cons]
  rcases ht with rfl | rfl | rfl <;> exact .cons _ (by decide)

/-- Reading goes over these tokens and on to what follows them. -/
def Reads (ts : List Token) (rest : List UInt8) : Prop :=
  tokens? (written ts rest) = (tokens? rest).map (ts ++ ·)

theorem Reads.append {ts ts' : List Token} {rest : List UInt8}
    (h : Reads ts (written ts' rest)) (h' : Reads ts' rest) :
    Reads (ts ++ ts') rest := by
  rw [Reads, written_append, h, h']
  cases tokens? rest <;> simp

theorem Reads.nil (rest : List UInt8) : Reads [] rest := by
  rw [Reads]
  cases h : tokens? rest <;> simp [written, h]

/-- A token that is no number is read whatever follows. -/
theorem Reads.cons {t : Token} {ts : List Token} {rest : List UInt8}
    (ht : t.IsWritten) (hn : ∀ n, t ≠ .number n) (h : Reads ts rest) :
    Reads (t :: ts) rest := by
  rw [Reads, written_cons, tokens?_bytes ht fun n h => absurd h (hn n), h]
  cases tokens? rest <;> simp

mutual

/-- The bytes of a value are read as its tokens. -/
theorem reads_toTokens (v : Json) (hv : v.IsWritten) {rest : List UInt8}
    (h : EndsNumber rest) : Reads v.toTokens rest := by
  cases v with
  | null => exact .cons trivial nofun (.nil rest)
  | bool b => exact .cons trivial nofun (.nil rest)
  | number n =>
      rw [toTokens, Reads, written_cons]
      exact tokens?_bytes (t := .number n) hv fun _ _ => h
  | string raw => exact .cons (t := .string raw) hv nofun (.nil rest)
  | array items => exact .cons trivial nofun (reads_itemTokens items hv rest)
  | object fields =>
      exact .cons trivial nofun (reads_fieldTokens fields hv rest)

theorem reads_itemTokens (vs : List Json) (hvs : ItemsWritten vs)
    (rest : List UInt8) : Reads (itemTokens vs ++ [.closeArray]) rest := by
  cases vs with
  | nil => exact .cons trivial nofun (.nil rest)
  | cons v vs =>
      obtain ⟨hv, hvs⟩ := hvs
      cases vs with
      | nil =>
          exact .append (reads_toTokens v hv
            (endsNumber_written (.inr (.inl rfl)) [] rest))
            (.cons trivial nofun (.nil rest))
      | cons w vs =>
          rw [itemTokens, List.append_assoc, List.cons_append]
          · exact .append
              (reads_toTokens v hv (endsNumber_written (.inl rfl) _ rest))
              (.cons trivial nofun (reads_itemTokens (w :: vs) hvs rest))
          · exact List.cons_ne_nil w vs

theorem reads_fieldTokens (fs : List (List UInt8 × Json))
    (hfs : FieldsWritten fs)
    (rest : List UInt8) : Reads (fieldTokens fs ++ [.closeObject]) rest := by
  cases fs with
  | nil => exact .cons trivial nofun (.nil rest)
  | cons f fs =>
      obtain ⟨name, v⟩ := f
      obtain ⟨hname, hv, hfs⟩ := hfs
      cases fs with
      | nil =>
          refine .cons (t := .string name) hname nofun (.cons trivial nofun ?_)
          exact .append (reads_toTokens v hv
            (endsNumber_written (.inr (.inr rfl)) [] rest))
            (.cons trivial nofun (.nil rest))
      | cons g fs =>
          rw [fieldTokens, List.append_assoc, List.cons_append,
            List.cons_append]
          · refine .cons (t := .string name) hname nofun
              (.cons trivial nofun ?_)
            exact .append
              (reads_toTokens v hv (endsNumber_written (.inl rfl) _ rest))
              (.cons trivial nofun (reads_fieldTokens (g :: fs) hfs rest))
          · exact List.cons_ne_nil g fs

end

/-! ## Building values from tokens -/

theorem itemTokens_eq_append (v : Json) (vs : List Json) :
    ∃ more, itemTokens (v :: vs) = v.toTokens ++ more := by
  cases vs with
  | nil => exact ⟨[], (List.append_nil _).symm⟩
  | cons w vs =>
      refine ⟨.comma :: itemTokens (w :: vs), ?_⟩
      rw [itemTokens]
      exact List.cons_ne_nil w vs

theorem fieldTokens_eq_cons (f : List UInt8 × Json)
    (fs : List (List UInt8 × Json)) :
    ∃ more, fieldTokens (f :: fs) = .string f.1 :: more := by
  cases fs with
  | nil => exact ⟨_, rfl⟩
  | cons g fs =>
      obtain ⟨name, v⟩ := f
      refine ⟨.colon :: v.toTokens ++ .comma :: fieldTokens (g :: fs), ?_⟩
      rw [fieldTokens]
      · rfl
      · exact List.cons_ne_nil g fs

mutual

/-- From the tokens of a value the reader builds the value. -/
theorem run_toTokens (v : Json) (stack : List Frame) (ts : List Token) :
    (Reader.value stack).run (v.toTokens ++ ts) =
      (Reader.put v stack).run ts := by
  cases v with
  | null => rfl
  | bool b => rfl
  | number n => rfl
  | string raw => rfl
  | array items =>
      cases items with
      | nil => rfl
      | cons v vs =>
          -- The first token of an item begins it, with or without a comma.
          have hstart :
              ∀ more, (Reader.arrayStart stack).run (v.toTokens ++ more) =
              (Reader.value (.array [] :: stack)).run (v.toTokens ++ more) := by
            intro more
            cases v <;> rfl
          have hitems :=
            run_itemTokens (v :: vs) (List.cons_ne_nil v vs) [] stack ts
          obtain ⟨more, hmore⟩ := itemTokens_eq_append v vs
          rw [toTokens, List.append_assoc]
          show (Reader.arrayStart stack).run
            (itemTokens (v :: vs) ++ .closeArray :: ts) = _
          rw [hmore, List.append_assoc] at hitems ⊢
          rw [hstart, hitems]
          rfl
  | object fields =>
      cases fields with
      | nil => rfl
      | cons f fs =>
          have hfields :=
            run_fieldTokens (f :: fs) (List.cons_ne_nil f fs) [] stack ts
          obtain ⟨more, hmore⟩ := fieldTokens_eq_cons f fs
          rw [toTokens, List.append_assoc]
          show (Reader.objectStart stack).run
            (fieldTokens (f :: fs) ++ .closeObject :: ts) = _
          rw [hmore] at hfields ⊢
          exact hfields

theorem run_itemTokens (items : List Json) (h : items ≠ []) (done : List Json)
    (stack : List Frame) (ts : List Token) :
    (Reader.value (.array done :: stack)).run
        (itemTokens items ++ .closeArray :: ts) =
      (Reader.put (.array (done.reverse ++ items)) stack).run ts := by
  cases items with
  | nil => exact absurd rfl h
  | cons v vs =>
      cases vs with
      | nil =>
          rw [itemTokens, run_toTokens v]
          show (Reader.put (.array (v :: done).reverse) stack).run ts = _
          rw [List.reverse_cons]
      | cons w vs =>
          have hne := List.cons_ne_nil w vs
          rw [itemTokens.eq_3 _ _ hne, List.append_assoc, run_toTokens v]
          show (Reader.value (.array (v :: done) :: stack)).run
            (itemTokens (w :: vs) ++ .closeArray :: ts) = _
          rw [run_itemTokens (w :: vs) hne, List.reverse_cons,
            List.append_assoc, List.singleton_append]

theorem run_fieldTokens (fields : List (List UInt8 × Json)) (h : fields ≠ [])
    (done : List (List UInt8 × Json)) (stack : List Frame) (ts : List Token) :
    (Reader.fieldStart done stack).run
        (fieldTokens fields ++ .closeObject :: ts) =
      (Reader.put (.object (done.reverse ++ fields)) stack).run ts := by
  cases fields with
  | nil => exact absurd rfl h
  | cons f fs =>
      obtain ⟨name, v⟩ := f
      cases fs with
      | nil =>
          show (Reader.value (.object done name :: stack)).run
            (v.toTokens ++ .closeObject :: ts) = _
          rw [run_toTokens v]
          show (Reader.put (.object ((name, v) :: done).reverse) stack).run ts =
            _
          rw [List.reverse_cons]
      | cons g fs =>
          have hne := List.cons_ne_nil g fs
          have htokens :
              fieldTokens ((name, v) :: g :: fs) ++ .closeObject :: ts =
              .string name :: .colon :: (v.toTokens ++
                .comma :: (fieldTokens (g :: fs) ++ .closeObject :: ts)) := by
            rw [fieldTokens.eq_3 _ _ _ hne]
            simp
          rw [htokens]
          show (Reader.value (.object done name :: stack)).run (v.toTokens ++
            .comma :: (fieldTokens (g :: fs) ++ .closeObject :: ts)) = _
          rw [run_toTokens v]
          show (Reader.fieldStart ((name, v) :: done) stack).run
            (fieldTokens (g :: fs) ++ .closeObject :: ts) = _
          rw [run_fieldTokens (g :: fs) hne, List.reverse_cons,
            List.append_assoc, List.singleton_append]

end

/-- Reading the text of a value gives the value. -/
theorem parse?_compact {v : Json} (hv : v.IsWritten) :
    parse? v.compact = some v := by
  have htokens : tokens? v.compact = some v.toTokens := by
    have hreads := reads_toTokens v hv .nil
    rw [Reads, written, List.append_nil, tokens?] at hreads
    simpa [compact] using hreads
  have hrun := run_toTokens v [] []
  rw [List.append_nil] at hrun
  rw [parse?, htokens]
  dsimp only
  rw [ofTokens?, hrun]
  rfl

end SessionTokens.Json
