import SessionTokens.Proofs.Json
import SessionTokens.Token.Claims

/-!
# Claims as JSON

The claims that are there become the fields of an object, each under a name of
its own. So reading them is looking names up in a list of fields without
repetitions, and every look-up finds its own field or none.
-/

namespace SessionTokens

namespace Json

/-! ## Fields by name -/

/-- Names that were written are read. -/
theorem namedFields?_quote (fields : List (String × Json)) :
    namedFields? (fields.map fun f => (quote f.1, f.2)) = some fields := by
  induction fields with
  | nil => rfl
  | cons f fs ih => rw [List.map_cons, namedFields?, text?_quote, ih]

theorem lookup_append (name : String) (fs gs : List (String × Json)) :
    lookup name (fs ++ gs) = (lookup name fs).or (lookup name gs) := by
  rw [lookup, List.find?_append]
  cases h : fs.find? (·.1 = name) <;> simp [lookup, h]

theorem lookup_eq_none {name : String} {fields : List (String × Json)}
    (h : name ∉ fields.map (·.1)) : lookup name fields = none := by
  have hnone : fields.find? (·.1 = name) = none := by
    refine List.find?_eq_none.mpr fun f hf heq => ?_
    exact h (List.mem_map.mpr ⟨f, hf, by simpa using heq⟩)
  rw [lookup, hnone]
  rfl

/-- Where no name is repeated, none of the known ones is. -/
theorem namesOnce_of_nodup {fields : List (String × Json)}
    (h : (fields.map (·.1)).Nodup) (names : List String) :
    namesOnce names fields = true := by
  refine List.all_eq_true.mpr fun name _ => ?_
  have hcount := List.nodup_iff_count.mp h name
  rw [List.count_eq_countP, List.countP_map,
    List.countP_eq_length_filter] at hcount
  have hsame : ((fun x : String => x == name) ∘ fun f : String × Json => f.1) =
      fun f => decide (f.1 = name) := by
    funext f
    rw [Bool.eq_iff_iff]
    simp
  rw [hsame] at hcount
  exact decide_eq_true hcount

theorem isWritten_ofFields {fields : List (String × Json)}
    (h : ∀ f ∈ fields, f.2.IsWritten) : (ofFields fields).IsWritten := by
  show FieldsWritten (fields.map fun f => (quote f.1, f.2))
  induction fields with
  | nil => trivial
  | cons f fs ih =>
      exact ⟨⟨f.1, rfl⟩, h f List.mem_cons_self,
        ih fun g hg => h g (List.mem_cons_of_mem f hg)⟩

/-! ## Single values -/

theorem asText?_ofString (s : String) :
    (ofString s).asText? = some s := text?_quote s

theorem asInt?_ofInt (n : Int) : (ofInt n).asInt? = some n := by
  by_cases h : n < 0
  · have hne : n.natAbs ≠ 0 := Int.natAbs_ne_zero.mpr (Int.ne_of_lt h)
    have habs : -(n.natAbs : Int) = n := by omega
    calc (ofInt n).asInt?
        = if decide (n < 0) then
            if n.natAbs = 0 then none else some (-(n.natAbs : Int))
          else some (n.natAbs : Int) := rfl
      _ = some (-(n.natAbs : Int)) := by
        rw [if_pos (decide_eq_true h), if_neg hne]
      _ = some n := by rw [habs]
  · have habs : (n.natAbs : Int) = n := by omega
    calc (ofInt n).asInt?
        = if decide (n < 0) then
            if n.natAbs = 0 then none else some (-(n.natAbs : Int))
          else some (n.natAbs : Int) := rfl
      _ = some (n.natAbs : Int) := by rw [if_neg (mt of_decide_eq_true h)]
      _ = some n := by rw [habs]

end Json

namespace Claims

theorem time?_ofInt (x : Int64) : time? (.ofInt x.toInt) = some x := by
  have hlo : -2 ^ 63 ≤ x.toInt := x.le_toInt
  have hhi : x.toInt < 2 ^ 63 := x.toInt_lt
  have hsigned : Word.isSigned x.toInt = true := by
    rw [Word.isSigned, Bool.and_eq_true, decide_eq_true_iff, decide_eq_true_iff,
      Word.least, Word.greatest]
    omega
  rw [time?, Json.asInt?_ofInt]
  dsimp only
  rw [if_pos hsigned, Int64.ofInt_toInt]

theorem optional?_ofString (o : Option String) :
    optional? Json.asText? (o.map .ofString) = some o := by
  cases o with
  | none => rfl
  | some s =>
      show (Json.asText? (.ofString s)).map some = some (some s)
      rw [Json.asText?_ofString]
      rfl

theorem ofJson?_ofString (m : Option Mode) :
    optional? Mode.ofJson? ((m.map Mode.name).map .ofString) = some m := by
  cases m with
  | none => rfl
  | some m =>
      have hcase : (Json.ofString m.name).asCase? = some m.name :=
        Json.text?_quote _
      show (Mode.ofJson? (.ofString m.name)).map some = some (some m)
      rw [Mode.ofJson?, hcase]
      dsimp only
      rw [Mode.ofName?_name]
      rfl

/-! ## The fields of claims -/

theorem map_fst_textField (name : String) (o : Option String) :
    ((textField name o).map (·.1)).Sublist [name] := by
  cases o with
  | none => exact List.nil_sublist _
  | some s => exact .refl _

/-- The fields stand in the order of the names, each at most once. -/
theorem map_fst_fields (c : Claims) : (c.fields.map (·.1)).Sublist names := by
  simp only [fields, List.map_append]
  exact ((((((map_fst_textField "sub" _).append (.refl ["exp"])).append
    (map_fst_textField "mode" _)).append (map_fst_textField "jti" _)).append
    (map_fst_textField "session_id" _)).append
    (map_fst_textField "family" _)).append (map_fst_textField "email" _)

theorem nodup_fields (c : Claims) : (c.fields.map (·.1)).Nodup :=
  (map_fst_fields c).nodup (by decide +kernel)

theorem lookup_textField (name other : String) (o : Option String) :
    Json.lookup name (textField other o) =
      if other = name then o.map .ofString else none := by
  cases o with
  | none => simp [textField, Json.lookup]
  | some s => by_cases h : other = name <;> simp [textField, Json.lookup, h]

/-- Each name is looked up as the claim that it names. -/
theorem lookup_fields (c : Claims) :
    names.map (fun name => Json.lookup name c.fields) =
      [c.sub.map .ofString, some (.ofInt c.exp.toInt),
        (c.mode.map Mode.name).map .ofString, c.jti.map .ofString,
        c.sessionId.map .ofString, c.family.map .ofString,
        c.email.map .ofString] := by
  have hexp : ∀ name, Json.lookup name [("exp", Json.ofInt c.exp.toInt)] =
      if "exp" = name then some (.ofInt c.exp.toInt) else none := by
    intro name
    by_cases h : "exp" = name <;> simp [Json.lookup, h]
  simp only [names, fields, List.map_cons, List.map_nil, Json.lookup_append,
    lookup_textField, hexp]
  simp

theorem record?_toJson (c : Claims) :
    c.toJson.record? names 2 =
      some (names.map fun name => Json.lookup name c.fields) := by
  rw [toJson, Json.ofFields, Json.record?, Json.namedFields?_quote]
  dsimp only
  rw [if_pos (Json.namesOnce_of_nodup c.nodup_fields names)]

/-- Reading claims gives back the claims that were written. -/
theorem ofJson?_toJson (c : Claims) : ofJson? c.toJson = some c := by
  rw [ofJson?, record?_toJson, lookup_fields]
  simp only [optional?_ofString, ofJson?_ofString, Option.bind_some,
    time?_ofInt]
  rfl

theorem isWritten_toJson (c : Claims) : c.toJson.IsWritten := by
  refine Json.isWritten_ofFields fun f hf => ?_
  have htext : ∀ {name : String} {o : Option String}, f ∈ textField name o →
      f.2.IsWritten := by
    intro name o h
    cases o with
    | none => cases h
    | some s =>
        cases List.mem_singleton.mp h
        exact ⟨s, rfl⟩
  simp only [fields, List.mem_append, List.mem_singleton] at hf
  rcases hf with (((((hf | rfl) | hf) | hf) | hf) | hf) | hf
  · exact htext hf
  · exact ⟨c.exp.toInt, rfl⟩
  all_goals exact htext hf

end Claims

end SessionTokens
