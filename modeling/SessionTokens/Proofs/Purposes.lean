import SessionTokens.Proofs.Codec
import SessionTokens.Proofs.Identifiers
import SessionTokens.Proofs.Verify

/-!
# When secrets keep purposes apart

A token is read for a purpose with that purpose's secret, and the secret counts
for nothing but the signature. So a token that was signed for one purpose is
turned down for another exactly if the two secrets sign its text differently.

Secrets that differ need not sign differently. A key acts through its block
only, and a key shorter than a block is filled up with zero bytes, so a secret
and the same secret with a zero byte behind it are one key: each reads what the
other has signed. Among secrets that fit into a block there is no other way to
be one key. Settings are accepted if the secrets differ as texts; that is
enough for secrets that fit and do not end in a zero byte, and only for those.
-/

namespace SessionTokens

/-! ## Blocks -/

namespace Hmac

variable {f : HashFunction} {key key' : List UInt8}

/-- The key is the other one with zero bytes behind it. -/
def Extends (key key' : List UInt8) : Prop :=
  ∃ n, key = key' ++ List.replicate n 0

theorem keyBlock_of_le (h : key.length ≤ f.blockSize) :
    keyBlock f key =
      key ++ List.replicate (f.blockSize - key.length) 0 := by
  rw [keyBlock, if_neg (Nat.not_lt.mpr h)]

/-- A longer key of the same block is the shorter one, filled up. -/
theorem extends_of_block_eq {m n : Nat}
    (h : key ++ List.replicate m 0 = key' ++ List.replicate n 0) :
    Extends key key' ∨ Extends key' key := by
  rcases List.append_eq_append_iff.mp h with ⟨l, hl, hzero⟩ | ⟨l, hl, hzero⟩
  · rw [List.replicate_eq_append_iff] at hzero
    exact .inr ⟨l.length, by rw [hl, ← hzero.2.1]⟩
  · rw [List.replicate_eq_append_iff] at hzero
    exact .inl ⟨l.length, by rw [hl, ← hzero.2.1]⟩

theorem keyBlock_of_extends (h : Extends key' key)
    (hle : key'.length ≤ f.blockSize) : keyBlock f key = keyBlock f key' := by
  obtain ⟨n, rfl⟩ := h
  rw [List.length_append, List.length_replicate] at hle
  rw [keyBlock_of_le (by omega), keyBlock_of_le (by simpa using hle),
    List.append_assoc, List.replicate_append_replicate, List.length_append,
    List.length_replicate]
  congr 2
  omega

/-- Keys that fit into a block have the same one only if zero bytes tell them
apart. -/
theorem keyBlock_eq_iff (h : key.length ≤ f.blockSize)
    (h' : key'.length ≤ f.blockSize) :
    keyBlock f key = keyBlock f key' ↔
      Extends key key' ∨ Extends key' key := by
  constructor
  · intro heq
    rw [keyBlock_of_le h, keyBlock_of_le h'] at heq
    exact extends_of_block_eq heq
  · rintro (hext | hext)
    · exact (keyBlock_of_extends hext h).symm
    · exact keyBlock_of_extends hext h'

theorem eq_of_extends (h : Extends key key') (hlast : key.getLast? ≠ some 0) :
    key = key' := by
  obtain ⟨n, rfl⟩ := h
  cases n with
  | zero => rw [List.replicate_zero, List.append_nil]
  | succ n =>
      refine absurd ?_ hlast
      rw [List.getLast?_append, List.getLast?_replicate, if_neg (by omega)]
      rfl

end Hmac

namespace Codec

variable (c : Codec)

/-! ## Reading for another purpose -/

/-- The key that the secret of a purpose is used as. -/
def key (p : Purpose) : List UInt8 := (c.secret p).toUTF8.toList

/-- The secrets of two purposes are one key. -/
def SharesKey (p q : Purpose) : Prop :=
  Hmac.keyBlock c.hash (c.key p) = Hmac.keyBlock c.hash (c.key q)

instance (p q : Purpose) : Decidable (c.SharesKey p q) :=
  inferInstanceAs (Decidable (_ = _))

/-- The secret of a purpose fits into a block and does not end in a zero
byte. -/
structure IsSnug (p : Purpose) : Prop where
  fits : (c.key p).length ≤ c.hash.blockSize
  unpadded : (c.key p).getLast? ≠ some 0

variable {c} {p q : Purpose} {claims : Claims}

theorem signature_eq_of_sharesKey (h : c.SharesKey p q)
    (text : List UInt8) : c.signature q text = c.signature p text := by
  show Hmac.signWithBlock c.hash (Hmac.keyBlock c.hash (c.key q)) text =
    Hmac.signWithBlock c.hash (Hmac.keyBlock c.hash (c.key p)) text
  rw [h]

/-- Purposes that share a key read every text alike. -/
theorem decode_eq_of_sharesKey (h : c.SharesKey p q) (now : Nat)
    (text : String) : c.decode now q text = c.decode now p text := by
  have hopen : ∀ bytes, c.open? q bytes = c.open? p bytes := by
    intro bytes
    simp only [open?, signature_eq_of_sharesKey h]
  simp only [decode, read?, hopen]

/-- A signature that would be another for this purpose does not open the
token. -/
theorem open?_tokenBytes_of_ne
    (h : c.signature q (c.signedPart claims) ≠
      c.signature p (c.signedPart claims)) :
    c.open? q (c.tokenBytes p claims) = none := by
  unfold open? tokenBytes
  rw [splitLast_append (point_not_mem_encode _)]
  dsimp only [bind, Option.bind]
  generalize hsigned : c.signedPart claims = signed at h
  rw [signedPart] at hsigned
  rw [← hsigned, splitLast_append (point_not_mem_encode _), hsigned]
  simp only [Base64.decode?_encode, if_neg h.symm, ite_self]
  split <;> rfl

/-- A token says the same for every purpose that opens it. -/
theorem read?_tokenBytes :
    c.read? q (asciiText (c.tokenBytes p claims)) =
      if c.signature q (c.signedPart claims) =
          c.signature p (c.signedPart claims) then
        c.read? p (asciiText (c.tokenBytes p claims))
      else none := by
  have hbytes := toList_toUTF8_asciiText (c.isTokenByte_tokenBytes p claims)
  by_cases hsame : c.signature q (c.signedPart claims) =
      c.signature p (c.signedPart claims)
  · have htoken : c.tokenBytes p claims = c.tokenBytes q claims := by
      rw [tokenBytes, tokenBytes, hsame]
    have hopen : c.open? q (c.tokenBytes p claims) =
        c.open? p (c.tokenBytes p claims) := by
      rw [c.open?_tokenBytes p, htoken, c.open?_tokenBytes q]
    rw [if_pos hsame]
    simp only [read?, hbytes, hopen]
  · rw [if_neg hsame]
    simp only [read?, hbytes, open?_tokenBytes_of_ne hsame]
    rfl

theorem decode_tokenBytes (now : Nat) :
    c.decode now q (asciiText (c.tokenBytes p claims)) =
      if c.signature q (c.signedPart claims) =
          c.signature p (c.signedPart claims) then
        c.decode now p (asciiText (c.tokenBytes p claims))
      else .error .malformed := by
  rw [decode, read?_tokenBytes]
  by_cases hsame : c.signature q (c.signedPart claims) =
      c.signature p (c.signedPart claims)
  · rw [if_pos hsame, if_pos hsame]
    rfl
  · rw [if_neg hsame, if_neg hsame]

/-! ## Reading for the purpose of the mode -/

theorem validity?_of_exp_lt (v : Json) {exp : Int64} (h : exp < 0) :
    validity? v exp = none := by
  have hexp : ¬ 0 ≤ exp := Int64.not_le.mpr h
  unfold validity?
  split
  · split
    · rfl
    · simp [hexp]
  · rfl

/-- What opens a token reads the claims that it was written for. -/
theorem read?_asciiText_eq_map :
    c.read? p (asciiText (c.tokenBytes p claims)) =
      (validity? claims.toJson claims.exp).map fun v => (claims, v) := by
  rw [read?, toList_toUTF8_asciiText (c.isTokenByte_tokenBytes p claims),
    c.open?_tokenBytes]
  dsimp only [bind, Option.bind]
  rw [Claims.ofJson?_toJson]
  dsimp only
  cases validity? claims.toJson claims.exp <;> rfl

/-- A token is good or has expired, but it is not malformed unless its expiry
is. -/
theorem decode_asciiText_eq_malformed_iff (now : Nat) :
    c.decode now p (asciiText (c.tokenBytes p claims)) = .error .malformed ↔
      claims.exp < 0 := by
  constructor
  · intro h
    refine Int64.not_le.mp fun hexp => ?_
    have hread := c.read?_asciiText hexp p
    simp only [decode, hread] at h
    unfold checkValidity at h
    split at h
    · cases h
    · split at h <;> cases h
  · intro hexp
    have hnone : c.read? p (asciiText (c.tokenBytes p claims)) = none := by
      rw [read?_asciiText_eq_map, validity?_of_exp_lt _ hexp]
      rfl
    simp only [decode, hnone]

/-! ## Accepted settings -/

/-- Accepted settings have three different secrets. -/
theorem secret_ne_of_ofSettings {s : TokenSettings} (h : ofSettings s = .ok c)
    (hne : p ≠ q) : c.secret p ≠ c.secret q := by
  unfold ofSettings at h
  cases hv : s.validate with
  | error e => rw [hv] at h; cases h
  | ok f =>
      rw [hv] at h
      cases h
      have hdiffer : s.secretsCoincide = false := by
        unfold TokenSettings.validate at hv
        split at hv
        · cases hv
        · split at hv
          · cases hv
          · next hc => exact Bool.eq_false_iff.mpr hc
      simp only [TokenSettings.secretsCoincide, Bool.or_eq_false_iff,
        decide_eq_false_iff_not] at hdiffer
      obtain ⟨⟨hav, har⟩, hvr⟩ := hdiffer
      exact match p, q, hne with
        | .session, .verification, _ => hav
        | .session, .resetPassword, _ => har
        | .verification, .session, _ => Ne.symm hav
        | .verification, .resetPassword, _ => hvr
        | .resetPassword, .session, _ => Ne.symm har
        | .resetPassword, .verification, _ => Ne.symm hvr

theorem key_injective (h : c.key p = c.key q) : c.secret p = c.secret q := by
  have hback := fromUTF8?_toUTF8 (c.secret p)
  rw [show (c.secret p).toUTF8.toList = (c.secret q).toUTF8.toList from h,
    fromUTF8?_toUTF8] at hback
  exact (Option.some.inj hback).symm

/-- Different secrets that fit and are not padded are different keys. -/
theorem not_sharesKey_of_isSnug (hne : c.secret p ≠ c.secret q)
    (hp : c.IsSnug p) (hq : c.IsSnug q) : ¬ c.SharesKey p q := by
  intro hshare
  rcases (Hmac.keyBlock_eq_iff hp.fits hq.fits).mp hshare with hext | hext
  · exact hne (key_injective (Hmac.eq_of_extends hext hp.unpadded))
  · exact hne (key_injective (Hmac.eq_of_extends hext hq.unpadded)).symm

/-- A token that was signed for one purpose is malformed for another, unless
the two secrets sign its text alike. Secrets that are one key always do; among
secrets that fit into a block these are the ones that differ by zero bytes at
the end. -/
theorem purposes_apart_unless_key_shared {s : TokenSettings}
    (hs : ofSettings s = .ok c) {m : Mode} (hmode : claims.mode = some m)
    (hq : q ≠ m.purpose) :
    ∃ token, c.encode claims = .ok token ∧
      (∀ now, c.decode now q token = .error .malformed ↔
        claims.exp < 0 ∨ c.signature q (c.signedPart claims) ≠
          c.signature m.purpose (c.signedPart claims)) ∧
      (c.SharesKey m.purpose q →
        ∀ now text, c.decode now q text = c.decode now m.purpose text) ∧
      ((c.key m.purpose).length ≤ c.hash.blockSize →
        (c.key q).length ≤ c.hash.blockSize →
        (c.SharesKey m.purpose q ↔
          Hmac.Extends (c.key m.purpose) (c.key q) ∨
            Hmac.Extends (c.key q) (c.key m.purpose))) ∧
      (c.IsSnug m.purpose → c.IsSnug q → ¬ c.SharesKey m.purpose q) := by
  have hencode : c.encode claims =
      .ok (asciiText (c.tokenBytes m.purpose claims)) := by
    rw [encode, hmode]
  have hsecrets := secret_ne_of_ofSettings hs hq.symm
  refine ⟨_, hencode, fun now => ?_, decode_eq_of_sharesKey,
    Hmac.keyBlock_eq_iff, not_sharesKey_of_isSnug hsecrets⟩
  rw [decode_tokenBytes]
  split
  · next hsame =>
      rw [decode_asciiText_eq_malformed_iff]
      exact ⟨.inl, fun h => h.resolve_right fun hne => hne hsame⟩
  · next hdiffer => exact ⟨fun _ => .inr hdiffer, fun _ => rfl⟩

end Codec

/-! ## A trial -/

/-- What an access token says. -/
def Claims.trialAccess : Claims :=
  (Payload.access "u" 1700000900 "j" "s").toClaims

/-- Settings in which a zero byte tells two secrets apart. -/
def TokenSettings.padded : TokenSettings :=
  { TokenSettings.trial with verificationSecret := "test-access-secret\x00" }

theorem TokenSettings.validate_padded : padded.validate = .ok .sha256 := by
  have hempty : padded.emptySecret? = none := by decide +kernel
  have hcoincide : padded.secretsCoincide = false := by decide +kernel
  have hzero : padded.zeroLifetime? = none := by decide +kernel
  rw [validate, hempty, hcoincide, hzero]
  rfl

namespace Codec

/-- Secrets of the usual kind are different keys, so only signatures that happen
to agree would let an access token verify an address. -/
theorem trial_purposes_apart :
    ∃ token, Service.trial.codec.encode Claims.trialAccess = .ok token ∧
      ¬ Service.trial.codec.SharesKey .session .verification ∧
      ∀ now, Service.trial.codec.signature .verification
          (Service.trial.codec.signedPart Claims.trialAccess) ≠
        Service.trial.codec.signature .session
          (Service.trial.codec.signedPart Claims.trialAccess) →
        Service.trial.codec.decode now .verification token =
          .error .malformed := by
  have hs : ofSettings .trial = .ok Service.trial.codec := by
    rw [ofSettings, TokenSettings.validate_trial]
    rfl
  have hsnug : ∀ p, Service.trial.codec.IsSnug p := fun p => by
    cases p <;> exact ⟨by decide +kernel, by decide +kernel⟩
  obtain ⟨token, hencode, hmalformed, -, -, hkeys⟩ :=
    purposes_apart_unless_key_shared (q := .verification) hs
      (show Claims.trialAccess.mode = some .access from rfl) (by decide)
  exact ⟨token, hencode, hkeys (hsnug _) (hsnug _),
    fun now hdiffer => (hmalformed now).mpr (.inr hdiffer)⟩

/-- Where a zero byte tells the secrets apart, an access token is read as the
token of an address. -/
theorem padded_secret_reads_elsewhere :
    ∃ c token, ofSettings .padded = .ok c ∧
      Claims.trialAccess.mode = some .access ∧
      Purpose.verification ≠ Mode.access.purpose ∧
      c.encode Claims.trialAccess = .ok token ∧
      c.decode 1700000000 .verification token = .ok Claims.trialAccess := by
  have hs : ∃ c, ofSettings .padded = .ok c ∧ c.leeway = 5 ∧
      c.SharesKey .session .verification := by
    rw [ofSettings, TokenSettings.validate_padded]
    exact ⟨_, rfl, rfl, by decide +kernel⟩
  obtain ⟨c, hs, hleeway, hshare⟩ := hs
  refine ⟨c, _, hs, rfl, by decide, rfl, ?_⟩
  rw [decode_eq_of_sharesKey hshare]
  refine decode_of_read? (c.read?_asciiText (by decide) .session) ?_
  refine checkValidity_eq_ok.mpr ⟨?_, ?_, rfl⟩ <;> rw [hleeway] <;> decide

end Codec

end SessionTokens
