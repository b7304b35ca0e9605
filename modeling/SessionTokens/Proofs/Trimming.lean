import SessionTokens.Text.Blank

/-!
# Trimming, small letters and cuts

What `trim` takes off is white space, and what it leaves neither starts nor ends
with any. So it gives a text back from under white space, if the text is trimmed
itself. Small letters change neither what is white space nor how long a text is.

Characters do not say where a text can be cut, for it is stored in bytes.
`before?` and `from?` cut at a byte, and give nothing where a character goes
over the cut. Where one of them gives a part, the other gives the rest
(`cut_iff`).
-/

namespace SessionTokens

namespace Text

variable {cs u v : List Char}

/-! ## Trimming -/

/-- The text neither starts nor ends with white space. -/
def IsTrimmed (cs : List Char) : Prop :=
  (∀ c ∈ cs.head?, isBlank c = false) ∧ ∀ c ∈ cs.getLast?, isBlank c = false

theorem isTrimmed_of_not_blank (h : ∀ c ∈ cs, isBlank c = false) :
    IsTrimmed cs :=
  ⟨fun c hc => h c (List.mem_of_mem_head? hc),
    fun c hc => h c (List.mem_of_mem_getLast? hc)⟩

theorem exists_trimStart (cs : List Char) :
    ∃ u, (∀ c ∈ u, isBlank c = true) ∧ cs = u ++ trimStart cs :=
  ⟨cs.takeWhile isBlank, List.all_eq_true.mp List.all_takeWhile,
    List.takeWhile_append_dropWhile.symm⟩

theorem exists_trimEnd (cs : List Char) :
    ∃ v, (∀ c ∈ v, isBlank c = true) ∧ cs = trimEnd cs ++ v := by
  obtain ⟨u, hu, hcs⟩ := exists_trimStart cs.reverse
  refine ⟨u.reverse, fun c hc => hu c (List.mem_reverse.mp hc), ?_⟩
  rw [trimEnd, ← List.reverse_append, ← trimStart, ← hcs, List.reverse_reverse]

theorem exists_trim (cs : List Char) :
    ∃ u v, (∀ c ∈ u, isBlank c = true) ∧ (∀ c ∈ v, isBlank c = true) ∧
      cs = u ++ trim cs ++ v := by
  obtain ⟨u, hu, hstart⟩ := exists_trimStart cs
  obtain ⟨v, hv, hend⟩ := exists_trimEnd (trimStart cs)
  exact ⟨u, v, hu, hv, by rw [List.append_assoc, trim, ← hend, ← hstart]⟩

theorem not_blank_of_head?_trimStart {c : Char}
    (h : (trimStart cs).head? = some c) : isBlank c = false := by
  have hnot := List.head?_dropWhile_not isBlank cs
  rw [trimStart] at h
  rwa [h] at hnot

theorem not_blank_of_getLast?_trimEnd {c : Char}
    (h : (trimEnd cs).getLast? = some c) : isBlank c = false := by
  rw [trimEnd, List.getLast?_reverse] at h
  exact not_blank_of_head?_trimStart h

theorem isTrimmed_trim (cs : List Char) : IsTrimmed (trim cs) := by
  refine ⟨fun c hc => ?_, fun c hc => not_blank_of_getLast?_trimEnd hc⟩
  obtain ⟨v, -, hend⟩ := exists_trimEnd (trimStart cs)
  have hhead : (trimEnd (trimStart cs)).head? = some c := hc
  have hstart : (trimStart cs).head? = some c := by
    rw [hend, List.head?_append, hhead]
    rfl
  exact not_blank_of_head?_trimStart hstart

/-- Trimming the front leaves the end as it is. -/
theorem isTrimmed_trimStart (h : ∀ c ∈ cs.getLast?, isBlank c = false) :
    IsTrimmed (trimStart cs) := by
  refine ⟨fun c hc => not_blank_of_head?_trimStart hc, fun c hc => h c ?_⟩
  obtain ⟨u, -, hcs⟩ := exists_trimStart cs
  have hlast : (trimStart cs).getLast? = some c := hc
  rw [hcs, List.getLast?_append, hlast]
  rfl

theorem trimStart_eq_self (h : ∀ c ∈ cs.head?, isBlank c = false) :
    trimStart cs = cs := by
  cases cs with
  | nil => rfl
  | cons c cs =>
      rw [trimStart, List.dropWhile_cons, h c rfl]
      rfl

theorem trimEnd_eq_self (h : ∀ c ∈ cs.getLast?, isBlank c = false) :
    trimEnd cs = cs := by
  rw [trimEnd, ← trimStart, trimStart_eq_self, List.reverse_reverse]
  rwa [List.head?_reverse]

/-- Two texts make a trimmed one if it starts and ends well. -/
theorem isTrimmed_append {a b : List Char} (ha : a ≠ []) (hb : b ≠ [])
    (hhead : ∀ c ∈ a.head?, isBlank c = false)
    (hlast : ∀ c ∈ b.getLast?, isBlank c = false) : IsTrimmed (a ++ b) := by
  refine ⟨fun c hc => hhead c ?_, fun c hc => hlast c ?_⟩
  · rw [List.head?_append, List.head?_eq_some_head ha] at hc
    rw [List.head?_eq_some_head ha]
    exact hc
  · rw [List.getLast?_append, List.getLast?_eq_some_getLast hb] at hc
    rw [List.getLast?_eq_some_getLast hb]
    exact hc

theorem trim_eq_self (h : IsTrimmed cs) : trim cs = cs := by
  rw [trim, trimStart_eq_self h.1, trimEnd_eq_self h.2]

theorem trimStart_append (hu : ∀ c ∈ u, isBlank c = true) (cs : List Char) :
    trimStart (u ++ cs) = trimStart cs :=
  List.dropWhile_append_of_pos hu

theorem trimEnd_append (hv : ∀ c ∈ v, isBlank c = true) (cs : List Char) :
    trimEnd (cs ++ v) = trimEnd cs := by
  rw [trimEnd, List.reverse_append, List.dropWhile_append_of_pos, trimEnd]
  exact fun c hc => hv c (List.mem_reverse.mp hc)

/-- White space around a text is all that goes. -/
theorem trim_append (hu : ∀ c ∈ u, isBlank c = true)
    (hv : ∀ c ∈ v, isBlank c = true) (h : IsTrimmed cs) (hne : cs ≠ []) :
    trim (u ++ cs ++ v) = cs := by
  have hstart : trimStart (cs ++ v) = cs ++ v := by
    obtain ⟨c, cs, rfl⟩ := List.exists_cons_of_ne_nil hne
    exact trimStart_eq_self h.1
  rw [trim, List.append_assoc, trimStart_append hu, hstart, trimEnd_append hv,
    trimEnd_eq_self h.2]

/-! ## Small letters -/

/-- Only the capitals of ASCII have a small letter of their own. -/
theorem toLower_cases (c : Char) : c.toLower = c ∨
    65 ≤ c.toNat ∧ c.toNat ≤ 90 ∧ c.toLower.toNat = c.toNat + 32 := by
  unfold Char.toLower
  split
  · next hupper =>
      obtain ⟨hlo, hhi⟩ := hupper
      have hhi' : c.val.toNat ≤ 90 := hhi
      refine .inr ⟨hlo, hhi, ?_⟩
      show (c.val + ('a'.val - 'A'.val)).toNat = c.val.toNat + 32
      have hshift : ('a'.val - 'A'.val).toNat = 32 := rfl
      rw [UInt32.toNat_add]
      omega
  · exact .inl rfl

theorem utf8Size_toLower (c : Char) : c.toLower.utf8Size = c.utf8Size := by
  have hone : ∀ d : Char, d.toNat ≤ 127 → d.utf8Size = 1 := fun d hd =>
    Char.utf8Size_eq_one_iff.mpr (UInt32.le_iff_toNat_le.mpr hd)
  rcases toLower_cases c with hsame | ⟨-, hhi, hlower⟩
  · rw [hsame]
  · rw [hone c (by omega), hone c.toLower (by omega)]

theorem isBlank_toLower (c : Char) : isBlank c.toLower = isBlank c := by
  have hletter : ∀ d : Char, 65 ≤ d.toNat → d.toNat ≤ 122 →
      isBlank d = false := by
    intro d hlo hhi
    simp only [isBlank, Bool.or_eq_false_iff, Bool.and_eq_false_iff,
      decide_eq_false_iff_not]
    omega
  rcases toLower_cases c with hsame | ⟨hlo, hhi, hlower⟩
  · rw [hsame]
  · rw [hletter c hlo (by omega), hletter c.toLower (by omega) (by omega)]

theorem utf8ByteSize_toLower (cs : List Char) :
    (String.ofList (cs.map Char.toLower)).utf8ByteSize =
      (String.ofList cs).utf8ByteSize := by
  induction cs with
  | nil => rfl
  | cons c cs ih =>
      rw [List.map_cons, String.ofList_cons, String.ofList_cons,
        String.utf8ByteSize_append, String.utf8ByteSize_append,
        String.utf8ByteSize_singleton, String.utf8ByteSize_singleton,
        utf8Size_toLower, ih]

/-! ## Texts in bytes -/

/-- The text in front of a byte, if no character goes over the cut. -/
def before? (s : String) (byte : Nat) : Option String :=
  (s.pos? ⟨byte⟩).map fun p => (s.sliceTo p).copy

/-- The text from a byte on, if no character goes over the cut. -/
def from? (s : String) (byte : Nat) : Option String :=
  (s.pos? ⟨byte⟩).map fun p => (s.sliceFrom p).copy

theorem offset_of_pos? {s : String} {n : Nat} {p : s.Pos}
    (h : s.pos? ⟨n⟩ = some p) : p.offset = ⟨n⟩ := by
  unfold String.pos? String.Slice.pos? at h
  split at h
  · cases h
    rfl
  · cases h

theorem pos?_append (a b : String) :
    ∃ p, (a ++ b).pos? ⟨a.utf8ByteSize⟩ = some p ∧ p.Splits a b := by
  have hvalid : (String.Pos.Raw.mk a.utf8ByteSize).IsValid (a ++ b) :=
    String.Pos.Raw.isValid_iff_exists_append.mpr ⟨a, b, rfl, rfl⟩
  refine ⟨(a ++ b).pos _ hvalid, ?_, rfl, rfl⟩
  unfold String.pos? String.Slice.pos?
  exact congrArg (Option.map String.Pos.ofToSlice)
    (dif_pos (String.Pos.Raw.isValidForSlice_eq_true_iff.mpr hvalid.toSlice))

/-- A text that is cut at a byte falls into two texts, the first one as long as
that. -/
theorem cut_iff {s a b : String} {n : Nat} :
    before? s n = some a ∧ from? s n = some b ↔
      s = a ++ b ∧ a.utf8ByteSize = n := by
  constructor
  · rintro ⟨ha, hb⟩
    obtain ⟨p, hp, rfl⟩ := Option.map_eq_some_iff.mp ha
    rw [from?, hp] at hb
    cases hb
    have hoffset := p.splits.offset_eq_rawEndPos
    rw [offset_of_pos? hp] at hoffset
    exact ⟨p.splits.eq_append,
      (congrArg String.Pos.Raw.byteIdx hoffset).symm⟩
  · rintro ⟨rfl, rfl⟩
    obtain ⟨p, hp, hsplits⟩ := pos?_append a b
    rw [before?, from?, hp, Option.map_some, Option.map_some,
      hsplits.copy_sliceTo_eq, hsplits.copy_sliceFrom_eq]
    exact ⟨rfl, rfl⟩

/-- What is in front of a byte is so because the text can be cut there. -/
theorem exists_from? {s a : String} {n : Nat} (h : before? s n = some a) :
    ∃ b, from? s n = some b := by
  obtain ⟨p, hp, -⟩ := Option.map_eq_some_iff.mp h
  exact ⟨_, by rw [from?, hp]; rfl⟩

end Text

end SessionTokens
