import SessionTokens.Proofs.Bearer
import SessionTokens.Proofs.Claims
import SessionTokens.Token.Codec

/-!
# Reading tokens that were written here

A token is read from its end: the last point parts the signature from what is
signed, and the last point in that parts the claims from the header. Base64 has
no points, so both are found where they were put. The rest is the round trip of
JSON and a look at what the claims do not say: nothing in them keeps a token
from being good but its expiry.
-/

namespace SessionTokens

namespace Codec

variable (c : Codec)

/-! ## The parts of a token -/

/-- A point that nothing but other bytes follow is the last one. -/
theorem splitLast_append {after : List UInt8} (h : point ∉ after)
    (before : List UInt8) :
    splitLast (before ++ point :: after) = some (before, after) := by
  have hnone : ∀ {bs : List UInt8}, point ∉ bs → splitLast bs = none := by
    intro bs hbs
    induction bs with
    | nil => rfl
    | cons b bs ih =>
        rw [splitLast, ih fun hm => hbs (List.mem_cons_of_mem b hm)]
        exact if_neg fun heq => hbs (List.mem_cons.mpr (.inl (Eq.symm heq)))
  induction before with
  | nil =>
      rw [List.nil_append, splitLast, hnone h]
      rfl
  | cons b bs ih => rw [List.cons_append, splitLast, ih]

/-- A byte of a token stands for a character that is no white space. -/
structure IsTokenByte (b : UInt8) : Prop where
  ascii : b.toNat < 128
  char : (Char.ofNat b.toNat).toNat = b.toNat
  blank : Text.isBlank (Char.ofNat b.toNat) = false

theorem symbol_spec {n : Nat} (h : n < 64) :
    IsTokenByte (Base64.symbol .url n) ∧ Base64.symbol .url n ≠ point := by
  have hall : ∀ n : Fin 64, (Base64.symbol .url n).toNat < 128 ∧
      (Char.ofNat (Base64.symbol .url n).toNat).toNat =
        (Base64.symbol .url n).toNat ∧
      Text.isBlank (Char.ofNat (Base64.symbol .url n).toNat) = false ∧
      Base64.symbol .url n ≠ point := by decide
  obtain ⟨hascii, hchar, hblank, hpoint⟩ := hall ⟨n, h⟩
  exact ⟨⟨hascii, hchar, hblank⟩, hpoint⟩

theorem point_not_mem_encode (bytes : List UInt8) :
    point ∉ Base64.encode .url bytes := by
  intro h
  obtain ⟨n, hn, hb⟩ := Base64.eq_symbol_of_mem_encode .url bytes point h
  exact (symbol_spec hn).2 hb.symm

theorem isTokenByte_encode (bytes : List UInt8) :
    ∀ b ∈ Base64.encode .url bytes, IsTokenByte b := by
  intro b hb
  obtain ⟨n, hn, rfl⟩ := Base64.eq_symbol_of_mem_encode .url bytes b hb
  exact (symbol_spec hn).1

/-- The header of a token names its algorithm. -/
theorem algorithm?_header (f : HashFunction) :
    Header.algorithm?
        (Json.ofFields [("typ", .ofString "JWT"),
          ("alg", .ofString f.algorithm)]) =
      some f.algorithm := by
  cases f <;> decide +kernel

/-- What was signed for a purpose is opened for that purpose. -/
theorem open?_tokenBytes (p : Purpose) (claims : Claims) :
    c.open? p (c.tokenBytes p claims) = some claims.toJson := by
  have hheader : Json.parse? c.header = some
      (Json.ofFields [("typ", .ofString "JWT"),
        ("alg", .ofString c.hash.algorithm)]) := by
    refine Json.parse?_compact (Json.isWritten_ofFields fun f hf => ?_)
    rcases List.mem_cons.mp hf with rfl | hf
    · exact ⟨_, rfl⟩
    · cases List.mem_singleton.mp hf
      exact ⟨_, rfl⟩
  have hclaims := Json.parse?_compact claims.isWritten_toJson
  unfold open? tokenBytes
  rw [splitLast_append (point_not_mem_encode _)]
  dsimp only [bind, Option.bind]
  rw [signedPart, splitLast_append (point_not_mem_encode _)]
  simp only [Base64.decode?_encode, hheader, hclaims, algorithm?_header,
    if_true]

/-! ## The text of a token -/

theorem isTokenByte_tokenBytes (p : Purpose) (claims : Claims) :
    ∀ b ∈ c.tokenBytes p claims, IsTokenByte b := by
  have hpoint : IsTokenByte point := ⟨by decide, by decide, by decide⟩
  have hjoin : ∀ {bs bs' : List UInt8}, (∀ b ∈ bs, IsTokenByte b) →
      (∀ b ∈ bs', IsTokenByte b) → ∀ b ∈ bs ++ point :: bs', IsTokenByte b := by
    intro bs bs' hbs hbs' b hb
    rcases List.mem_append.mp hb with hb | hb
    · exact hbs b hb
    · rcases List.mem_cons.mp hb with rfl | hb
      · exact hpoint
      · exact hbs' b hb
  exact hjoin (hjoin (isTokenByte_encode _) (isTokenByte_encode _))
    (isTokenByte_encode _)

/-- A token has no white space, so it is found wherever it is presented. -/
theorem isSolid_asciiText (p : Purpose) (claims : Claims) :
    Bearer.IsSolid (asciiText (c.tokenBytes p claims)) := by
  intro ch hch
  rw [asciiText, String.toList_ofList] at hch
  obtain ⟨b, hb, rfl⟩ := List.mem_map.mp hch
  exact (c.isTokenByte_tokenBytes p claims b hb).blank

theorem asciiText_ne_empty (p : Purpose) (claims : Claims) :
    asciiText (c.tokenBytes p claims) ≠ "" := by
  intro h
  have hlist := congrArg String.toList h
  simp [asciiText, tokenBytes] at hlist

theorem toList_toUTF8_asciiText {bytes : List UInt8}
    (h : ∀ b ∈ bytes, IsTokenByte b) :
    (asciiText bytes).toUTF8.toList = bytes := by
  rw [asciiText, toList_toUTF8_ofList, List.map_map]
  · have hback : ∀ b ∈ bytes, ((fun ch : Char => UInt8.ofNat ch.toNat) ∘
        fun b : UInt8 => Char.ofNat b.toNat) b = b := fun b hb => by
      rw [Function.comp_apply, (h b hb).char, UInt8.ofNat_toNat]
    rw [List.map_congr_left hback, List.map_id']
  · intro c hc
    obtain ⟨b, hb, rfl⟩ := List.mem_map.mp hc
    rw [(h b hb).char]
    exact (h b hb).ascii

/-- No claim of a token but its expiry decides whether it is good. -/
theorem validity?_toJson {claims : Claims} (h : 0 ≤ claims.exp) :
    validity? claims.toJson claims.exp =
      some ⟨claims.exp.toInt.toNat, false⟩ := by
  have habsent : ∀ name, name ∉ Claims.names →
      Json.lookup name claims.fields = none :=
    fun name hname => Json.lookup_eq_none fun hmem =>
      hname (claims.map_fst_fields.subset hmem)
  have hnotBefore := habsent "nbf" (by decide +kernel)
  have hissuer := habsent "iss" (by decide +kernel)
  have haudience := habsent "aud" (by decide +kernel)
  have honce := Json.namesOnce_of_nodup claims.nodup_fields
  rw [Claims.toJson, Json.ofFields, validity?, Json.namedFields?_quote]
  simp [honce, hnotBefore, hissuer, haudience, h, isPassable, namesAudience]

/-- A token reads as the claims that it was written for. -/
theorem read?_asciiText {claims : Claims} (h : 0 ≤ claims.exp) (p : Purpose) :
    c.read? p (asciiText (c.tokenBytes p claims)) =
      some (claims, ⟨claims.exp.toInt.toNat, false⟩) := by
  rw [read?, toList_toUTF8_asciiText (c.isTokenByte_tokenBytes p claims),
    open?_tokenBytes]
  dsimp only [bind, Option.bind]
  rw [Claims.ofJson?_toJson]
  dsimp only
  rw [validity?_toJson h]
  rfl

end Codec

/-- A token that was written for claims is read as these claims, for the purpose
of their mode. -/
theorem Codec.read?_of_encode (c : Codec) {claims : Claims} {m : Mode}
    {token : String} (hmode : claims.mode = some m) (hexp : 0 ≤ claims.exp)
    (h : c.encode claims = .ok token) :
    c.read? m.purpose (Bearer.token token) =
      some (claims, ⟨claims.exp.toInt.toNat, false⟩) := by
  rw [encode, hmode] at h
  cases h
  rw [Bearer.token_of_isSolid (c.isSolid_asciiText _ _),
    c.read?_asciiText hexp]

end SessionTokens
